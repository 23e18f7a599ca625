import CrudScaffold.Proofs.Command.Failures

/-!
# How a run of the command ends

A run whose arguments cannot be read exits with code 2 and writes nothing. A run with readable
arguments ends in one of four ways (`runOptions_endsWith`):

* its input cannot be used (`Options.Unusable`): `-n` without exactly one listed method,
  settings or a model that cannot be loaded, or with `-n` a method name no controller has;
  it exits with code 4 and writes nothing;
* with `-n`, the metadata of the model or of the parent cannot be read
  (`Options.Unreadable`); it exits with code 2 and writes nothing;
* it renders a report (`Options.Renders`): the one method `-n` renames, or a generation run
  over the listed methods; it writes the report and exits with code 0 when the report records
  no failure, else 2;
* a failure that is not the generator's own passes through, and the run has no exit code:
  a table getter that raises, a module that cannot be imported while looking for a request
  class, a settings file that names a value that does not exist, a relative module path, or
  the empty list of values that `-m--` gives.

Each condition fixes the outcome (`runOptions_of_unusable`, `runOptions_of_unreadable`,
`runOptions_of_renders`), so they exclude each other, and `run_exit_code` reads the exit code
and the output off the input.
-/

namespace CrudScaffold

namespace Command

open CrudScaffold.Config

namespace Options

variable (files : List (String × String)) (host : Host) (o : Options)

/-- `-n` is given, but the list does not hold exactly one method. -/
def Misnamed : Prop := (given o.methodName).isSome ∧ (methodNames o.methods).length ≠ 1

/-- The input of a run cannot be used: `-n` without exactly one method, settings or a model
that cannot be loaded, or with `-n` a method name that no controller has. -/
def Unusable : Prop :=
  o.Misnamed ∨ (∃ e, loadInputs files host o = .error e ∧ e.isOwn) ∨
  ∃ s m p h n meth x a, loadInputs files host o = .ok (s, m, p, h) ∧
    given o.methodName = some n ∧ methodNames o.methods = [meth] ∧
    buildMethod s meth m p o.api (some n) = .error (.unknownMethod x a)

/-- With `-n`, the metadata of the model or of the parent cannot be read. -/
def Unreadable : Prop :=
  ∃ s m p h n meth msg, loadInputs files host o = .ok (s, m, p, h) ∧
    given o.methodName = some n ∧ methodNames o.methods = [meth] ∧
    buildMethod s meth m p o.api (some n) = .error (.reflection msg)

/-- The report of the one method that `-n` renames. -/
def singleReport (g : GeneratedMethod) : Report :=
  { model := (o.model.bind OptionValue.text?).getD "", parent := given o.parent, isApi := o.api,
    methods := [g] }

/-- The run generates and renders the report `r`: the one method `-n` renames, or a
generation run over the listed methods. -/
def Renders (r : Report) : Prop :=
  ∃ s m p h, loadInputs files host o = .ok (s, m, p, h) ∧
    ((∃ n meth d g d', given o.methodName = some n ∧ methodNames o.methods = [meth] ∧
        buildMethod s meth m p o.api (some n) = .ok d ∧
        generateMethod h.classExists d = .ok (g, d') ∧ r = o.singleReport g) ∨
      (given o.methodName = none ∧
        ∃ qs, generate s h.classExists m (methodNames o.methods) p o.api = .ok (r, qs)))

theorem misnamed_iff :
    ((given o.methodName).isSome && (methodNames o.methods).length != 1) = true ↔ o.Misnamed := by
  simp [Misnamed]

theorem not_misnamed {meth : String} (hm : methodNames o.methods = [meth]) : ¬ o.Misnamed := by
  simp [Misnamed, hm]

end Options

variable {files : List (String × String)} {host : Host} {o : Options}

theorem runOptions_of_misnamed (h : o.Misnamed) : runOptions files host o = .ok ⟨4, ""⟩ := by
  rw [runOptions, if_pos ((o.misnamed_iff).2 h)]
  rfl

theorem runOptions_of_loaded {s : Settings} {m : Model} {p : Option Model} {h : Host}
    (hmis : ¬ o.Misnamed) (hl : loadInputs files host o = .ok (s, m, p, h)) :
    runOptions files host o = generateFor o s h m p := by
  rw [runOptions, if_neg (fun hc => hmis ((o.misnamed_iff).1 hc)), hl]

/-- Loading fails: with the input error code for a failure of the generator, which is then
one of the settings or of a model, and with the failure itself otherwise. -/
theorem runOptions_of_load_error {e : Failure} (hmis : ¬ o.Misnamed)
    (hl : loadInputs files host o = .error e) :
    runOptions files host o = if e.isOwn then .ok ⟨4, ""⟩ else .error e := by
  rw [runOptions, if_neg (fun hc => hmis ((o.misnamed_iff).1 hc)), hl]
  by_cases hown : e.isOwn
  · rw [if_pos hown]
    rcases loadInputs_error hl hown with ⟨_, rfl⟩ | ⟨_, rfl⟩ <;> rfl
  · rw [if_neg hown]
    split <;> rename_i heq <;> cases heq
    · exact absurd rfl hown
    · exact absurd rfl hown
    · rfl

section Generate

variable {s : Settings} {m : Model} {p : Option Model} {h : Host}

/-- Without `-n`, a run generates the listed methods and renders the report. -/
theorem generateFor_of_none (hn : given o.methodName = none) :
    generateFor o s h m p = (generate s h.classExists m (methodNames o.methods) p o.api).map
      (fun x => ⟨if x.1.success then 0 else 2, x.1.render⟩) := by
  simp only [generateFor, hn]
  cases generate s h.classExists m (methodNames o.methods) p o.api <;> rfl

variable {n meth : String} (hn : given o.methodName = some n)
  (hm : methodNames o.methods = [meth])
include hn hm

theorem generateFor_of_reflection {msg : String}
    (hb : buildMethod s meth m p o.api (some n) = .error (.reflection msg)) :
    generateFor o s h m p = .ok ⟨2, ""⟩ := by
  simp only [generateFor, hn, hm, hb]
  rfl

theorem generateFor_of_unknownMethod {x : String} {a : Bool}
    (hb : buildMethod s meth m p o.api (some n) = .error (.unknownMethod x a)) :
    generateFor o s h m p = .ok ⟨4, ""⟩ := by
  simp only [generateFor, hn, hm, hb]
  rfl

theorem generateFor_of_build_error {e : Failure}
    (hb : buildMethod s meth m p o.api (some n) = .error e) (hown : e.isOwn = false) :
    generateFor o s h m p = .error e := by
  simp only [generateFor, hn, hm, hb]
  split <;> rename_i heq <;> cases heq
  · cases hown
  · cases hown
  · rfl

/-- With `-n`, a method that builds is generated alone, and the report of it alone is
rendered with the success code. -/
theorem generateFor_of_built {d : Method.Descriptor}
    (hb : buildMethod s meth m p o.api (some n) = .ok d) :
    generateFor o s h m p = (generateMethod h.classExists d).map (fun x =>
      ⟨0, (o.singleReport x.1).render⟩) := by
  simp only [generateFor, hn, hm, hb]
  cases generateMethod h.classExists d <;> rfl

end Generate

theorem Options.single_of_not_misnamed {n : String} (hmis : ¬ o.Misnamed)
    (hn : given o.methodName = some n) : ∃ meth, methodNames o.methods = [meth] := by
  have hlen : (methodNames o.methods).length = 1 :=
    Decidable.byContradiction fun hne => hmis ⟨by simp [hn], hne⟩
  exact List.length_eq_one_iff.1 hlen

/-! ## The outcome read off the input -/

theorem runOptions_of_unusable (hu : o.Unusable files host) :
    runOptions files host o = .ok ⟨4, ""⟩ := by
  rcases hu with hmis | ⟨e, hl, hown⟩ | ⟨s, m, p, h, n, meth, x, a, hl, hn, hm, hb⟩
  · exact runOptions_of_misnamed hmis
  · by_cases hmis : o.Misnamed
    · exact runOptions_of_misnamed hmis
    · rw [runOptions_of_load_error hmis hl, if_pos hown]
  · rw [runOptions_of_loaded (o.not_misnamed hm) hl, generateFor_of_unknownMethod hn hm hb]

theorem runOptions_of_unreadable (hu : o.Unreadable files host) :
    runOptions files host o = .ok ⟨2, ""⟩ := by
  obtain ⟨s, m, p, h, n, meth, msg, hl, hn, hm, hb⟩ := hu
  rw [runOptions_of_loaded (o.not_misnamed hm) hl, generateFor_of_reflection hn hm hb]

theorem runOptions_of_renders {r : Report} (hr : o.Renders files host r) :
    runOptions files host o = .ok ⟨if r.success then 0 else 2, r.render⟩ := by
  obtain ⟨s, m, p, h, hl, ⟨n, meth, d, g, d', hn, hm, hb, hg, rfl⟩ | ⟨hn, qs, hg⟩⟩ := hr
  · -- the report of one generated method has no failures
    rw [runOptions_of_loaded (o.not_misnamed hm) hl, generateFor_of_built hn hm hb, hg]
    rfl
  · have hmis : ¬ o.Misnamed := by simp [Options.Misnamed, hn]
    rw [runOptions_of_loaded hmis hl, generateFor_of_none hn, hg]
    rfl

/-! ## Every outcome is one of these -/

/-- The ways a run with readable arguments can end: input it cannot use (code 4, no output);
with `-n`, a model whose metadata cannot be read (code 2, no output); a rendered report (code
0 when it records no failure, else 2); or a failure that is not the generator's own. -/
def Options.EndsWith (files : List (String × String)) (host : Host) (o : Options)
    (res : Except Failure Outcome) : Prop :=
  (∀ out, res = .ok out →
    (o.Unusable files host ∧ out = ⟨4, ""⟩) ∨ (o.Unreadable files host ∧ out = ⟨2, ""⟩) ∨
    ∃ r, o.Renders files host r ∧ out = ⟨if r.success then 0 else 2, r.render⟩) ∧
  ∀ e, res = .error e → e.isOwn = false

namespace Options.EndsWith

theorem of_unusable (hu : o.Unusable files host) : o.EndsWith files host (.ok ⟨4, ""⟩) :=
  ⟨fun _ h => Or.inl ⟨hu, (Except.ok.inj h).symm⟩, fun _ h => (by cases h)⟩

theorem of_unreadable (hu : o.Unreadable files host) : o.EndsWith files host (.ok ⟨2, ""⟩) :=
  ⟨fun _ h => Or.inr (Or.inl ⟨hu, (Except.ok.inj h).symm⟩), fun _ h => (by cases h)⟩

theorem of_renders {r : Report} (hr : o.Renders files host r) :
    o.EndsWith files host (.ok ⟨if r.success then 0 else 2, r.render⟩) :=
  ⟨fun _ h => Or.inr (Or.inr ⟨r, hr, (Except.ok.inj h).symm⟩), fun _ h => (by cases h)⟩

theorem of_error {e : Failure} (hown : e.isOwn = false) : o.EndsWith files host (.error e) :=
  ⟨fun _ h => (by cases h), fun _ h => by cases h; exact hown⟩

end Options.EndsWith

/-- Every run with readable arguments ends in one of the ways `Options.EndsWith` lists. -/
theorem runOptions_endsWith : o.EndsWith files host (runOptions files host o) := by
  by_cases hmis : o.Misnamed
  · rw [runOptions_of_misnamed hmis]
    exact .of_unusable (Or.inl hmis)
  cases hl : loadInputs files host o with
  | error e =>
    rw [runOptions_of_load_error hmis hl]
    by_cases hown : e.isOwn
    · rw [if_pos hown]
      exact .of_unusable (Or.inr (Or.inl ⟨e, hl, hown⟩))
    · rw [if_neg hown]
      exact .of_error (by simpa using hown)
  | ok inputs =>
    obtain ⟨s, m, p, h⟩ := inputs
    rw [runOptions_of_loaded hmis hl]
    cases hn : given o.methodName with
    | none =>
      rw [generateFor_of_none hn]
      cases hg : generate s h.classExists m (methodNames o.methods) p o.api with
      | error e => exact .of_error (generate_error hg)
      | ok rq => exact .of_renders ⟨s, m, p, h, hl, Or.inr ⟨hn, rq.2, hg⟩⟩
    | some n =>
      obtain ⟨meth, hm⟩ := o.single_of_not_misnamed hmis hn
      cases hb : buildMethod s meth m p o.api (some n) with
      | error e =>
        by_cases hown : e.isOwn
        · rcases buildMethod_error hb hown with ⟨msg, rfl⟩ | ⟨x, a, rfl⟩
          · rw [generateFor_of_reflection hn hm hb]
            exact .of_unreadable ⟨s, m, p, h, n, meth, msg, hl, hn, hm, hb⟩
          · rw [generateFor_of_unknownMethod hn hm hb]
            exact .of_unusable (Or.inr (Or.inr ⟨s, m, p, h, n, meth, x, a, hl, hn, hm, hb⟩))
        · rw [generateFor_of_build_error hn hm hb (by simpa using hown)]
          exact .of_error (by simpa using hown)
      | ok d =>
        rw [generateFor_of_built hn hm hb]
        cases hg : generateMethod h.classExists d with
        | error e => exact .of_error (h.classExists_error (generateMethod_error hg))
        | ok gd =>
          exact .of_renders
            ⟨s, m, p, h, hl, Or.inl ⟨n, meth, d, gd.1, gd.2, hn, hm, hb, hg, rfl⟩⟩

theorem exitCode_report (r : Report) :
    (if r.success then 0 else 2) = 2 ↔ r.failures ≠ [] := by
  cases h : r.failures <;> simp [Report.success, h]

/-- A run with readable arguments lets through only failures that are not the generator's own.
Otherwise it exits with code 0, 2 or 4: 4 exactly when its input cannot be used, 2 exactly when
the model cannot be read under `-n` or the report it renders records a failure, and 0 else.
It writes the report it renders, and nothing when it renders none. -/
theorem runOptions_exit_code :
    (∀ e, runOptions files host o = .error e → e.isOwn = false) ∧
    ∀ out, runOptions files host o = .ok out →
      (out.exitCode = 0 ∨ out.exitCode = 2 ∨ out.exitCode = 4) ∧
      (out.exitCode = 4 ↔ o.Unusable files host) ∧
      (out.exitCode = 2 ↔
        o.Unreadable files host ∨ ∃ r, o.Renders files host r ∧ r.failures ≠ []) ∧
      (∀ r, o.Renders files host r → out = ⟨if r.success then 0 else 2, r.render⟩) ∧
      ((¬∃ r, o.Renders files host r) → out.stdout = "") := by
  obtain ⟨hok, herr⟩ := @runOptions_endsWith files host o
  refine ⟨herr, fun out hout => ?_⟩
  -- each condition fixes the outcome, so at most one of them holds
  have hu : o.Unusable files host → out = ⟨4, ""⟩ := fun h =>
    Except.ok.inj (hout.symm.trans (runOptions_of_unusable h))
  have hd : o.Unreadable files host → out = ⟨2, ""⟩ := fun h =>
    Except.ok.inj (hout.symm.trans (runOptions_of_unreadable h))
  have hr : ∀ r, o.Renders files host r → out = ⟨if r.success then 0 else 2, r.render⟩ :=
    fun _ h => Except.ok.inj (hout.symm.trans (runOptions_of_renders h))
  refine ⟨?_, ⟨fun h4 => ?_, fun h => by rw [hu h]⟩, ⟨fun h2 => ?_, ?_⟩, hr, ?_⟩
  · rcases hok out hout with ⟨-, rfl⟩ | ⟨-, rfl⟩ | ⟨r, -, rfl⟩
    · exact Or.inr (Or.inr rfl)
    · exact Or.inr (Or.inl rfl)
    · cases r.success <;> simp
  · rcases hok out hout with ⟨h, -⟩ | ⟨-, rfl⟩ | ⟨r, -, rfl⟩
    · exact h
    · cases h4
    · split at h4 <;> cases h4
  · rcases hok out hout with ⟨-, rfl⟩ | ⟨h, -⟩ | ⟨r, h, rfl⟩
    · cases h2
    · exact Or.inl h
    · exact Or.inr ⟨r, h, (exitCode_report r).1 h2⟩
  · rintro (h | ⟨r, h, hf⟩)
    · rw [hd h]
    · rw [hr r h]
      exact (exitCode_report r).2 hf
  · intro hnone
    rcases hok out hout with ⟨-, rfl⟩ | ⟨-, rfl⟩ | ⟨r, h, -⟩
    · rfl
    · rfl
    · exact absurd ⟨r, h⟩ hnone

/-- A run of the command, unless it asks for help or the version: it lets through only failures
that are not the generator's own, and otherwise exits with code 0, 2 or 4. Arguments that cannot
be read give 2; for readable ones the code, and the report written, are those of
`runOptions_exit_code`. -/
theorem run_exit_code (files : List (String × String)) (host : Host) (args : List String)
    (hh : Request.ofArgs args ≠ .help) (hv : Request.ofArgs args ≠ .version) :
    (∀ e, run files host args = .error e → e.isOwn = false) ∧
    ∀ out, run files host args = .ok out →
      (out.exitCode = 0 ∨ out.exitCode = 2 ∨ out.exitCode = 4) ∧
      (out.exitCode = 4 ↔ ∃ o, Request.ofArgs args = .run o ∧ o.Unusable files host) ∧
      (out.exitCode = 2 ↔ Request.ofArgs args = .usageError ∨
        ∃ o, Request.ofArgs args = .run o ∧
          (o.Unreadable files host ∨ ∃ r, o.Renders files host r ∧ r.failures ≠ [])) ∧
      (∀ o r, Request.ofArgs args = .run o → o.Renders files host r →
        out = ⟨if r.success then 0 else 2, r.render⟩) ∧
      ((¬∃ o r, Request.ofArgs args = .run o ∧ o.Renders files host r) → out.stdout = "") := by
  cases hreq : Request.ofArgs args with
  | help => exact absurd hreq hh
  | version => exact absurd hreq hv
  | usageError =>
    -- arguments that cannot be read end the run with code 2 before anything is loaded
    have hrun : run files host args = .ok ⟨2, ""⟩ := by rw [run, hreq]; rfl
    rw [hrun]
    refine ⟨fun _ h => (by cases h), fun out hout => ?_⟩
    cases hout
    refine ⟨Or.inr (Or.inl rfl), ⟨fun h => (by cases h), fun ⟨_, h, _⟩ => (by cases h)⟩,
      ⟨fun _ => Or.inl rfl, fun _ => rfl⟩, fun _ _ h => (by cases h), fun _ => rfl⟩
  | run o =>
    have hrun : run files host args = runOptions files host o := by rw [run, hreq]
    rw [hrun]
    obtain ⟨herr, hok⟩ := @runOptions_exit_code files host o
    refine ⟨herr, fun out hout => ?_⟩
    obtain ⟨h1, h4, h2, hr, hs⟩ := hok out hout
    -- the options read are `o`, so each statement about some options is one about `o`
    have hopt : ∀ {P : Options → Prop}, (∃ o', Request.run o = .run o' ∧ P o') ↔ P o :=
      ⟨fun ⟨_, h, hp⟩ => by cases h; exact hp, fun hp => ⟨o, rfl, hp⟩⟩
    refine ⟨h1, h4.trans hopt.symm, ?_, fun o' r h => ?_,
      fun hn => hs fun ⟨r, h⟩ => hn ⟨o, r, rfl, h⟩⟩
    · rw [h2]
      constructor
      · exact fun h => Or.inr (hopt.2 h)
      · rintro (h | h)
        · cases h
        · exact hopt.1 h
    · cases h
      exact hr r

/-- The models of a shop: posts, and the users who write them. -/
def shopHost : Host :=
  { modules := [("app.models", .objects
      [("Post", .cls { qualname := "Post", name := "Post", tablename := some (.str "posts") }),
       ("User", .cls { qualname := "User", name := "User", tablename := some (.str "users") })])] }

/-- A settings file of the shop, which roots every namespace under `shop`. -/
def shopFiles : List (String × String) := [("ctrlgen.json", "\x7b\"rootNamespace\": \"shop\"\x7d")]

/-- The command line of the shop: posts with their users as parent, two methods, and the
settings file. -/
def shopArgs : List String :=
  ["-m", "app.models:Post", "-p", "app.models:User", "--methods", "index,store", "-c",
    "ctrlgen.json"]

theorem ofArgs_shopArgs : Request.ofArgs shopArgs =
    .run { model := some (.text "app.models:Post"), parent := some (.text "app.models:User"),
           methods := some (.text "index,store"), config := some (.text "ctrlgen.json") } := by
  have hw : classifyAll shopArgs =
      some [.option .model "-m" none, .value, .option .parent "-p" none, .value,
        .option .methods "--methods" none, .value, .option .config "-c" none, .value] := by
    simp [shopArgs, classifyAll, classify, spellings, List.lookup_cons]
  rw [Request.ofArgs, hw]
  rfl

/-- The shop's command line is read as a run that loads the settings file, the model and the
parent and generates two methods; what that run ends with is as `run_exit_code` says. -/
theorem run_exit_code_shop :
    Request.ofArgs shopArgs =
      .run { model := some (.text "app.models:Post"), parent := some (.text "app.models:User"),
             methods := some (.text "index,store"), config := some (.text "ctrlgen.json") } ∧
    Request.ofArgs shopArgs ≠ .help ∧ Request.ofArgs shopArgs ≠ .version ∧
    (∀ e, run shopFiles shopHost shopArgs = .error e → e.isOwn = false) ∧
    ∀ out, run shopFiles shopHost shopArgs = .ok out →
      (out.exitCode = 0 ∨ out.exitCode = 2 ∨ out.exitCode = 4) ∧
      (out.exitCode = 4 ↔ ∃ o, Request.ofArgs shopArgs = .run o ∧ o.Unusable shopFiles shopHost) ∧
      (out.exitCode = 2 ↔ Request.ofArgs shopArgs = .usageError ∨
        ∃ o, Request.ofArgs shopArgs = .run o ∧
          (o.Unreadable shopFiles shopHost ∨ ∃ r, o.Renders shopFiles shopHost r ∧ r.failures ≠ [])) ∧
      (∀ o r, Request.ofArgs shopArgs = .run o → o.Renders shopFiles shopHost r →
        out = ⟨if r.success then 0 else 2, r.render⟩) ∧
      ((¬∃ o r, Request.ofArgs shopArgs = .run o ∧ o.Renders shopFiles shopHost r) →
        out.stdout = "") :=
  have hh : Request.ofArgs shopArgs ≠ .help := by rw [ofArgs_shopArgs]; nofun
  have hv : Request.ofArgs shopArgs ≠ .version := by rw [ofArgs_shopArgs]; nofun
  ⟨ofArgs_shopArgs, hh, hv, run_exit_code shopFiles shopHost shopArgs hh hv⟩

theorem ofArgs_empty_model : Request.ofArgs ["-m--"] = .run { model := some .emptyList } := by
  have hlen : "-m--".length = 4 := rfl
  -- `-m--` is `-m` with the value `--` written into it
  have hw : classifyAll ["-m--"] = some [.option .model "-m" (some "--")] := by
    simp [classifyAll, classify, spellings, abbreviations, List.lookup_cons, hlen]
  rw [Request.ofArgs, hw]
  rfl

/-- Arguments that cannot be read, here for want of a model, end the run with code 2, not 4;
and the empty list of values that `-m--` gives the model makes loading raise an attribute
error, which passes through the run. -/
theorem run_missing_model_or_empty_list :
    run [] {} [] = .ok ⟨2, ""⟩ ∧
    run [] {} ["-m--"] =
      .error (.attributeError "\x27list\x27 object has no attribute \x27rpartition\x27") := by
  refine ⟨rfl, ?_⟩
  rw [run, ofArgs_empty_model]
  rfl

end Command

end CrudScaffold
