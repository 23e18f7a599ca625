import CrudScaffold.Generator

/-!
# A run records every requested method on its own

A generation run makes a fresh descriptor for each requested name and generates its code. What
a name adds to the report, its `Entry`, depends on that name alone (`nameEntry`): the method
generated, with the questions it asked, when building and generating succeed; the failure,
recorded under the name with its kind and message, when one of the generator's own failures
stops it. Any other failure gives no entry and ends the run.

`generate_eq_mapM` turns the run's fold into entries computed name by name and then assembled
(`Report.withEntries`); the fold carries nothing from one name to the next. From it,
`generate_records_each_name` says what a run gives for every model, parent, controller kind
and list of names:

1. the report holds one entry per requested name, in request order, and a run fails with
   the first failure that is not the generator's own;
2. each entry is the one a run asked for that name alone gives;
3. only failures that are not the generator's own end a run, so a run returns a report exactly
   when no requested method meets one;
4. the generated and the failed methods together are as many as the requested names, and the
   run succeeds exactly when none failed.
-/

namespace CrudScaffold

open CrudScaffold.Config CrudScaffold.Method

/-! ## Folds whose steps do not look at the accumulator -/

section Fold

variable {ε σ α β : Type}

/-- A fold whose step adds what a function of the element alone gives is that function mapped
over the list, the results then folded without failure. -/
theorem foldlM_eq_map_mapM {f : σ → α → Except ε σ} {g : α → Except ε β}
    {h : σ → β → σ} (hf : ∀ s a, f s a = (g a).map (h s)) :
    ∀ (xs : List α) (s : σ), xs.foldlM f s = (xs.mapM g).map (·.foldl h s)
  | [], s => rfl
  | a :: xs, s => by
    rw [List.foldlM_cons, List.mapM_cons, hf]
    cases g a with
    | error e => rfl
    | ok b =>
      show xs.foldlM f (h s b) = _
      rw [foldlM_eq_map_mapM hf xs (h s b)]
      cases xs.mapM g <;> rfl

/-- Mapping that returns gives one result per element. -/
theorem mapM_ok_length {g : α → Except ε β} :
    ∀ {xs : List α} {ys : List β}, xs.mapM g = .ok ys → ys.length = xs.length
  | [], ys, h => by cases h; rfl
  | a :: xs, ys, h => by
    rw [List.mapM_cons] at h
    cases ha : g a with
    | error e => rw [ha] at h; cases h
    | ok b =>
      cases hs : xs.mapM g with
      | error e => rw [ha, hs] at h; cases h
      | ok bs =>
        rw [ha, hs] at h
        cases h
        simp [mapM_ok_length hs]

/-- Mapping returns exactly when the function returns on every element. -/
theorem mapM_ok_iff {g : α → Except ε β} :
    ∀ {xs : List α}, (∃ ys, xs.mapM g = .ok ys) ↔ ∀ x ∈ xs, ∃ y, g x = .ok y
  | [] => by simp [pure, Except.pure]
  | a :: xs => by
    have ih := @mapM_ok_iff g xs
    rw [List.mapM_cons]
    cases ha : g a with
    | error e => simp [ha, bind, Except.bind]
    | ok b =>
      cases hs : xs.mapM g with
      | error e => simpa [bind, Except.bind, hs, ha] using ih
      | ok bs => simpa [bind, Except.bind, pure, Except.pure, hs, ha] using ih

end Fold

/-! ## Entries of a report -/

/-- The names a run generates: those requested, or every registered name of the controller
kind when none is. -/
def requestedNames (api : Bool) (methods : List String) : List String :=
  if methods.isEmpty then Method.available api else methods

/-- What one requested method gives on its own: a fresh descriptor built for the name, and
its code generated. -/
def methodOutcome (settings : Settings) (oracle : Oracle) (model : Model) (parent : Option Model)
    (api : Bool) (name : String) : Except Failure (GeneratedMethod × Descriptor) :=
  buildMethod settings name model parent api none >>= generateMethod oracle

/-- What a requested name adds to a report. -/
inductive Entry where
  | generated (m : GeneratedMethod) (queries : List String)
  | failed (f : MethodFailure)

namespace Entry

/-- The generated method of an entry, if it has one. -/
def method? : Entry → Option GeneratedMethod
  | generated m _ => some m
  | failed _ => none

/-- The recorded failure of an entry, if it has one. -/
def failure? : Entry → Option MethodFailure
  | generated _ _ => none
  | failed f => some f

/-- The questions asked for an entry. -/
def queries : Entry → List String
  | generated _ qs => qs
  | failed _ => []

/-- Adds an entry to a report and to the questions asked so far. -/
def record (acc : Report × List String) (e : Entry) : Report × List String :=
  ({ acc.1 with methods := acc.1.methods ++ e.method?.toList,
                failures := acc.1.failures ++ e.failure?.toList }, acc.2 ++ e.queries)

theorem foldl_record (es : List Entry) (r : Report) (qs : List String) :
    es.foldl record (r, qs) =
      ({ r with methods := r.methods ++ es.filterMap method?,
                failures := r.failures ++ es.filterMap failure? }, qs ++ es.flatMap queries) := by
  induction es generalizing r qs with
  | nil => simp
  | cons e es ih =>
    rw [List.foldl_cons, record, ih]
    cases e <;> simp [List.filterMap_cons, method?, failure?, queries]

/-- Every entry is a generated method or a failure, and not both. -/
theorem length_filterMap_add (es : List Entry) :
    (es.filterMap method?).length + (es.filterMap failure?).length = es.length := by
  induction es with
  | nil => rfl
  | cons e es ih => cases e <;> simp [List.filterMap_cons, method?, failure?] <;> omega

end Entry

/-- The entry of a requested name: the method when it builds and generates, else the failure
recorded under the name with its kind and message. A failure that is not the generator's own
gives no entry. -/
def nameEntry (settings : Settings) (oracle : Oracle) (model : Model) (parent : Option Model)
    (api : Bool) (name : String) : Except Failure Entry :=
  match methodOutcome settings oracle model parent api name with
  | .ok (m, d) => .ok (.generated m d.queries)
  | .error e => if e.isOwn then .ok (.failed ⟨name, e.kindName, e.message⟩) else .error e

/-- The report a run starts from: the model, the parent and the controller kind, and no
entries. -/
def startReport (model : Model) (parent : Option Model) (api : Bool) : Report :=
  { model := model.typeQualname, parent := parent.map (·.typeQualname), isApi := api }

/-- A report with entries added in order, and the questions they asked. -/
def Report.withEntries (r : Report) (es : List Entry) : Report × List String :=
  ({ r with methods := r.methods ++ es.filterMap Entry.method?,
            failures := r.failures ++ es.filterMap Entry.failure? }, es.flatMap Entry.queries)

theorem withEntries_eq_foldl (r : Report) (es : List Entry) :
    r.withEntries es = es.foldl Entry.record (r, []) := by
  rw [Entry.foldl_record, List.nil_append]
  rfl

/-! ## Runs -/

section Run

variable (settings : Settings) (oracle : Oracle) (model : Model) (parent : Option Model)
  (api : Bool)

/-- One step of a run adds the entry of its name, whatever the run gathered before. -/
theorem generateStep_eq (acc : Report × List String) (name : String) :
    generateStep settings oracle model parent api acc name =
      (nameEntry settings oracle model parent api name).map (Entry.record acc) := by
  obtain ⟨r, qs⟩ := acc
  unfold generateStep nameEntry
  rw [← methodOutcome]
  cases methodOutcome settings oracle model parent api name with
  | ok md =>
    obtain ⟨m, d⟩ := md
    simp [Except.map, Entry.record, Entry.method?, Entry.failure?, Entry.queries]
  | error e =>
    by_cases h : e.isOwn <;>
      simp [h, Except.map, Entry.record, Entry.method?, Entry.failure?, Entry.queries]

/-- A run computes the entries of the requested names one by one and adds them to the report
it starts from. -/
theorem generate_eq_mapM (methods : List String) :
    generate settings oracle model methods parent api =
      ((requestedNames api methods).mapM (nameEntry settings oracle model parent api)).map
        (startReport model parent api).withEntries := by
  unfold generate
  rw [foldlM_eq_map_mapM (generateStep_eq settings oracle model parent api)]
  congr 1
  funext es
  rw [withEntries_eq_foldl]
  rfl

theorem nameEntry_error (name : String) (e : Failure)
    (h : nameEntry settings oracle model parent api name = .error e) : e.isOwn = false := by
  unfold nameEntry at h
  split at h
  · cases h
  · split at h
    · cases h
    · rename_i hown
      cases h
      simpa using hown

theorem nameEntry_ok_iff (name : String) :
    (∃ en, nameEntry settings oracle model parent api name = .ok en) ↔
      ∀ e, methodOutcome settings oracle model parent api name = .error e → e.isOwn = true := by
  unfold nameEntry
  cases methodOutcome settings oracle model parent api name with
  | ok md => simp
  | error e => by_cases ho : e.isOwn <;> simp [ho]

/-- A generation run adds, in order, the entry of each requested name as a run for that name
alone gives it. It returns a report exactly when no name meets a failure that is not the
generator's own, and the report has one method, generated or failed, per name. -/
theorem generate_records_each_name (methods : List String) :
    generate settings oracle model methods parent api =
        ((requestedNames api methods).mapM (nameEntry settings oracle model parent api)).map
          (startReport model parent api).withEntries ∧
      (∀ name, generate settings oracle model [name] parent api =
        (nameEntry settings oracle model parent api name).map
          fun e => (startReport model parent api).withEntries [e]) ∧
      (∀ name e, nameEntry settings oracle model parent api name = .error e → e.isOwn = false) ∧
      ((∃ res, generate settings oracle model methods parent api = .ok res) ↔
        ∀ name ∈ requestedNames api methods, ∀ e,
          methodOutcome settings oracle model parent api name = .error e → e.isOwn = true) ∧
      ∀ r qs, generate settings oracle model methods parent api = .ok (r, qs) →
        r.methods.length + r.failures.length = (requestedNames api methods).length ∧
        (r.success = true ↔ r.failures = []) := by
  have hrun := generate_eq_mapM settings oracle model parent api methods
  refine ⟨hrun, ?_, nameEntry_error settings oracle model parent api, ?_, ?_⟩
  · intro name
    rw [generate_eq_mapM, requestedNames]
    simp only [List.isEmpty_cons, Bool.false_eq_true, if_false, List.mapM_cons, List.mapM_nil]
    cases nameEntry settings oracle model parent api name <;> rfl
  · -- the run returns exactly when every entry does
    have hmap : ∀ x : Except Failure (List Entry),
        (∃ res, x.map (startReport model parent api).withEntries = .ok res) ↔ ∃ es, x = .ok es := by
      intro x
      cases x <;> simp [Except.map]
    rw [hrun, hmap, mapM_ok_iff]
    exact forall₂_congr fun name _ => nameEntry_ok_iff settings oracle model parent api name
  · intro r qs h
    rw [hrun] at h
    cases hm : (requestedNames api methods).mapM (nameEntry settings oracle model parent api) with
    | error e => rw [hm] at h; cases h
    | ok es =>
      rw [hm] at h
      simp only [Except.map, Report.withEntries, Except.ok.injEq, Prod.mk.injEq] at h
      obtain ⟨rfl, -⟩ := h
      refine ⟨?_, by simp [Report.success]⟩
      simp [startReport, Entry.length_filterMap_add, mapM_ok_length hm]

end Run

/-- An instance of a model whose table getter raises a value error. -/
def widgetModel : Model :=
  .inst { qualname := "Widget", name := "Widget", getter := some (.raising .valueError) }

/-- A run is not always a report: the value error of a table getter is not one of the
generator's own failures, so it ends the run. -/
theorem generate_raises_getter_failure :
    generate {} (fun _ => .ok false) widgetModel ["index"] none false =
      .error (.valueError "boom") := by
  rfl

end CrudScaffold
