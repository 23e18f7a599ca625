import CrudScaffold.Config.Validate
import CrudScaffold.Proofs.Naming.Alphanumerics
import Mathlib.Data.List.Find
import Mathlib.Data.List.Nodup

/-!
# Checked settings

Settings are checked under readings of values (`Coercion`) that the validation library
provides. Whatever those readings are, checking a mapping (`Settings.check`) gives settings
that satisfy what the checks ask (`Settings.Valid`): the four namespaces are dotted paths, the
template extension is empty or starts with a dot, and the indent size lies between 2 and 8.
Every setting is either its default or a value its check returned, and the defaults are valid
themselves (`Settings.read_yields`).

When the readings take a value of the kind asked for as it is (`Coercion.Lawful`, which the
program's lax readings satisfy), valid settings written out by their aliases are read back as
they were (`Settings.check_dump`): each setting is found under its alias, its check passes it
unchanged, and every key of the mapping is used by a setting, so nothing is reported. This
holds of any dump that holds each setting under its key, in whatever order
(`Settings.DumpsByAlias`), as the program's own does.

Reading is a computation over a state of problems and used keys. `Reading.Yields` says that
every run returns a value with a property, and the runs of `readLeaf` and `readSubsection` on
a mapping that has the setting are computed once (`readLeaf_found`, `readSubsection_found`).
-/

namespace CrudScaffold.Config

open CrudScaffold.Data CrudScaffold.Text

/-! ## Dotted paths -/

/-- A dotted path: empty, or non-empty segments without dots joined by single dots. -/
def DottedPath (s : String) : Prop :=
  s = "" ∨ ∃ segs : List (List Char), segs ≠ [] ∧ (∀ seg ∈ segs, seg ≠ [] ∧ '.' ∉ seg) ∧
    s.toList = ['.'].intercalate segs

/-- The check of dotted paths accepts exactly the dotted paths. -/
theorem isDottedPath_iff {s : String} : isDottedPath s ↔ DottedPath s := by
  constructor
  · intro h
    by_cases he : s = ""
    · exact Or.inl he
    have hall : (splitWhen (· == '.') s.toList).all (!·.isEmpty) := by
      simpa [isDottedPath, he] using h
    refine Or.inr ⟨_, splitWhen_ne_nil _ _, fun seg hseg => ⟨?_, ?_⟩,
      (intercalate_splitWhen '.' _).symm⟩
    · simpa using List.all_eq_true.1 hall seg hseg
    · intro hdot
      have := List.all_eq_true.1 (splitWhen_pieces (· == '.') _ seg hseg) '.' hdot
      simp at this
  · rintro (rfl | ⟨segs, hne, hsegs, hs⟩)
    · rfl
    have hcut : splitWhen (· == '.') s.toList = segs := by
      rw [hs]
      refine splitWhen_intercalate (by decide) hne fun seg hseg => List.all_eq_true.2 ?_
      intro c hc
      have : c ≠ '.' := fun h => (hsegs seg hseg).2 (h ▸ hc)
      simpa using this
    unfold isDottedPath
    rw [hcut, Bool.or_eq_true]
    exact Or.inr (List.all_eq_true.2 fun seg hseg => by simpa using (hsegs seg hseg).1)

/-! ## What the checks accept -/

/-- A template extension as the checks leave it: empty, or starting with a dot. -/
def ExtensionForm (e : String) : Prop := e = "" ∨ e.toList.head? = some '.'

/-- What the checks guarantee of settings. -/
structure Settings.Valid (c : Settings) : Prop where
  rootNamespace : DottedPath c.rootNamespace
  webNamespace : DottedPath c.request.webNamespace
  apiNamespace : DottedPath c.request.apiNamespace
  resourceNamespace : DottedPath c.api.resourceNamespace
  extension : ExtensionForm c.view.extension
  indentSize : 2 ≤ c.controller.indentSize ∧ c.controller.indentSize ≤ 8

/-- The lax readings take a value of the kind asked for as it is. -/
theorem Coercion.lax_lawful : Coercion.lax.Lawful where
  mapping_dict cn es h := by
    have hkeys : es.any (isUnencodableKey ·.1) = false := by simpa using h
    simp only [Coercion.lax, checkMapping, hkeys]
    rfl
  text_str _ := rfl
  flag_bool _ := rfl
  int_int _ := rfl

theorem extensionForm_iff {e : String} :
    ExtensionForm e ↔ e.toList = [] ∨ ∃ cs, e.toList = '.' :: cs := by
  rw [ExtensionForm, ← String.toList_eq_nil_iff]
  cases e.toList with
  | nil => simp
  | cons c cs => simp

section Checks

variable {co : Coercion}

theorem checkDottedPath_ok {v : Value} {s : String} (h : checkDottedPath co v = .ok s) :
    DottedPath s := by
  unfold checkDottedPath at h
  cases hv : co.text v with
  | error e =>
    rw [hv] at h
    cases h
  | ok t =>
    rw [hv] at h
    change (if isDottedPath t = true then pure t else throw _) = _ at h
    split at h
    · cases h
      exact isDottedPath_iff.1 ‹_›
    · cases h

theorem checkDottedPath_str (hco : co.Lawful) {s : String} (h : DottedPath s) :
    checkDottedPath co (.str s) = .ok s := by
  unfold checkDottedPath
  rw [hco.text_str]
  change (if isDottedPath s = true then pure s else throw _) = _
  rw [if_pos (isDottedPath_iff.2 h)]
  rfl

theorem checkExtension_ok {v : Value} {e : String} (h : checkExtension co v = .ok e) :
    ExtensionForm e := by
  unfold checkExtension at h
  cases hv : co.text v with
  | error err =>
    rw [hv] at h
    cases h
  | ok s =>
    rw [hv] at h
    simp only [bind, Except.bind, pure, Except.pure, Except.ok.injEq] at h
    subst h
    split
    · next hs => exact extensionForm_iff.2 (Or.inl hs)
    · next cs hs => exact extensionForm_iff.2 (Or.inr ⟨cs, hs⟩)
    · -- a dot is put in front
      exact extensionForm_iff.2 (Or.inr ⟨s.toList, by simp⟩)

theorem checkExtension_str (hco : co.Lawful) {s : String} (h : ExtensionForm s) :
    checkExtension co (.str s) = .ok s := by
  unfold checkExtension
  rw [hco.text_str]
  simp only [bind, Except.bind, pure, Except.pure, Except.ok.injEq]
  split
  · rfl
  · rfl
  · -- a text in extension form is empty or starts with a dot
    next hempty hdot =>
    rcases extensionForm_iff.1 h with hs | ⟨cs, hs⟩
    · exact absurd hs hempty
    · exact absurd hs (hdot cs)

theorem checkIndentSize_ok {v : Value} {n : Nat} (h : checkIndentSize co v = .ok n) :
    2 ≤ n ∧ n ≤ 8 := by
  unfold checkIndentSize at h
  cases hv : co.int v with
  | error err =>
    rw [hv] at h
    cases h
  | ok m =>
    rw [hv] at h
    change (if m > 8 then throw _ else (if m < 2 then throw _ else pure m.toNat)) = _ at h
    split at h
    · cases h
    split at h
    · cases h
    · cases h
      omega

theorem checkIndentSize_int (hco : co.Lawful) {n : Nat} (h : 2 ≤ n ∧ n ≤ 8) :
    checkIndentSize co (.int n) = .ok n := by
  unfold checkIndentSize
  rw [hco.int_int]
  change (if (n : Int) > 8 then throw _
    else (if (n : Int) < 2 then throw _ else pure (n : Int).toNat)) = _
  rw [if_neg (by omega), if_neg (by omega)]
  rfl

end Checks

/-! ## Runs of a reading -/

/-- Every run of a reading, from any state, returns a value with property `P`. -/
def Reading.Yields {α : Type} (m : Reading α) (P : α → Prop) : Prop := ∀ st, P (m.run st).1

theorem Reading.yields_pure {α : Type} {P : α → Prop} {a : α} (h : P a) :
    (pure a : Reading α).Yields P := fun _ => h

theorem Reading.yields_bind {α β : Type} {m : Reading α} {k : α → Reading β} {P : α → Prop}
    {Q : β → Prop} (hm : m.Yields P) (hk : ∀ a, P a → (k a).Yields Q) : (m >>= k).Yields Q :=
  fun st => hk _ (hm st) _

/-- A run of `m >>= k` is a run of `m` followed by a run of `k`. -/
theorem Reading.run_bind {α β : Type} {m : Reading α} {k : α → Reading β} {st st' : ReadState}
    {a : α} (h : m.run st = (a, st')) : (m >>= k).run st = (k a).run st' := by
  show (m.run st >>= fun p => (k p.1).run p.2) = _
  rw [h]
  rfl

/-- A setting is its default or a value its check returned. -/
theorem readLeaf_yields {α : Type} {es : List (Value × Value)} {f : FieldName}
    {check : Value → Except IssueKind α} {d : α} {P : α → Prop} (hd : P d)
    (hcheck : ∀ v a, check v = .ok a → P a) : (readLeaf es f check d).Yields P := by
  intro st
  unfold readLeaf
  split
  · exact hd
  · rename_i k v _
    -- once the key is marked used, the check decides the value
    cases hc : check v with
    | ok a => exact hcheck v a hc
    | error kind => exact hd

/-- A section is its default or what its reader returned. -/
theorem readSection_yields {α : Type} {co : Coercion} {cn : String} {v : Value}
    {body : List (Value × Value) → Reading α} {d : α} {P : α → Prop} (hd : P d)
    (hbody : ∀ es, (body es).Yields P) : P (readSection co cn v body d).2 := by
  unfold readSection
  split
  · rename_i es _
    have h : (do let a ← body es; readExtras es; pure a : Reading α).Yields P :=
      Reading.yields_bind (hbody es) fun _ ha =>
        Reading.yields_bind (P := fun _ => True) (fun _ => trivial)
          fun _ _ => Reading.yields_pure ha
    exact h {}
  · exact hd

theorem readSubsection_yields {α : Type} {co : Coercion} {es : List (Value × Value)}
    {f : FieldName} {cn : String} {body : List (Value × Value) → Reading α} {d : α}
    {P : α → Prop} (hd : P d) (hbody : ∀ es, (body es).Yields P) :
    (readSubsection co es f cn body d).Yields P := by
  intro st
  unfold readSubsection
  split
  · exact hd
  · rename_i k v _
    -- the section's value is what reading it gives, whatever problems it reports
    have h : P (readSection co cn v body d).2 := readSection_yields hd hbody
    generalize readSection co cn v body d = p at h ⊢
    obtain ⟨issues, a⟩ := p
    exact Reading.yields_bind (P := fun _ => True) (fun _ => trivial)
      (fun _ _ => Reading.yields_bind (P := fun _ => True) (fun _ => trivial)
        fun _ _ => Reading.yields_pure h) st

/-! ## Every checked setting is valid -/

section Yields

variable (co : Coercion)

theorem RequestSettings.read_yields (es : List (Value × Value)) :
    (RequestSettings.read co es).Yields
      fun r => DottedPath r.webNamespace ∧ DottedPath r.apiNamespace := by
  unfold RequestSettings.read
  refine Reading.yields_bind (readLeaf_yields (P := DottedPath) (isDottedPath_iff.1 (by decide))
    fun _ _ => checkDottedPath_ok) fun web hweb => ?_
  refine Reading.yields_bind (readLeaf_yields (P := DottedPath) (isDottedPath_iff.1 (by decide))
    fun _ _ => checkDottedPath_ok) fun api hapi => ?_
  exact Reading.yields_bind (P := fun _ => True) (fun _ => trivial)
    fun _ _ => Reading.yields_pure ⟨hweb, hapi⟩

theorem ViewSettings.read_yields (es : List (Value × Value)) :
    (ViewSettings.read co es).Yields fun v => ExtensionForm v.extension := by
  unfold ViewSettings.read
  refine Reading.yields_bind (P := fun _ => True) (fun _ => trivial) fun _ _ => ?_
  refine Reading.yields_bind (readLeaf_yields (P := ExtensionForm) (Or.inr rfl)
    fun _ _ => checkExtension_ok) fun ext hext => ?_
  exact Reading.yields_pure hext

theorem ApiSettings.read_yields (es : List (Value × Value)) :
    (ApiSettings.read co es).Yields fun a => DottedPath a.resourceNamespace := by
  unfold ApiSettings.read
  refine Reading.yields_bind (readLeaf_yields (P := DottedPath) (isDottedPath_iff.1 (by decide))
    fun _ _ => checkDottedPath_ok) fun res hres => ?_
  exact Reading.yields_bind (P := fun _ => True) (fun _ => trivial)
    fun _ _ => Reading.yields_pure hres

theorem ControllerSettings.read_yields (es : List (Value × Value)) :
    (ControllerSettings.read co es).Yields fun c => 2 ≤ c.indentSize ∧ c.indentSize ≤ 8 := by
  unfold ControllerSettings.read
  refine Reading.yields_bind (P := fun _ => True) (fun _ => trivial) fun _ _ => ?_
  refine Reading.yields_bind (P := fun _ => True) (fun _ => trivial) fun _ _ => ?_
  refine Reading.yields_bind (readLeaf_yields (P := fun n => 2 ≤ n ∧ n ≤ 8) (by decide)
    fun _ _ => checkIndentSize_ok) fun n hn => ?_
  exact Reading.yields_pure hn

/-- Every setting read from a mapping is valid, whatever problems the mapping has: each is its
default, which is valid, or a value its check returned. -/
theorem Settings.read_yields (es : List (Value × Value)) :
    (Settings.read co es).Yields Settings.Valid := by
  unfold Settings.read
  refine Reading.yields_bind (readLeaf_yields (P := DottedPath) (Or.inl rfl)
    fun _ _ => checkDottedPath_ok) fun root hroot => ?_
  refine Reading.yields_bind (readSubsection_yields ((RequestSettings.read_yields co []) {})
    (RequestSettings.read_yields co)) fun req hreq => ?_
  refine Reading.yields_bind (readSubsection_yields ((ViewSettings.read_yields co []) {})
    (ViewSettings.read_yields co)) fun view hview => ?_
  refine Reading.yields_bind (readSubsection_yields ((ApiSettings.read_yields co []) {})
    (ApiSettings.read_yields co)) fun api hapi => ?_
  refine Reading.yields_bind (readSubsection_yields ((ControllerSettings.read_yields co []) {})
    (ControllerSettings.read_yields co)) fun ctl hctl => ?_
  exact Reading.yields_pure ⟨hroot, hreq.1, hreq.2, hapi, hview, hctl⟩

end Yields

/-- The default settings are valid. -/
theorem Settings.valid_default : ({} : Settings).Valid :=
  ⟨Or.inl rfl, isDottedPath_iff.1 (by decide), isDottedPath_iff.1 (by decide),
    isDottedPath_iff.1 (by decide), Or.inr rfl, by decide⟩

/-- Settings that checking accepts are valid, whatever the readings. -/
theorem Settings.check_valid {co : Coercion} {v : Value} {c : Settings}
    (h : Settings.check co v = .ok c) : c.Valid := by
  unfold Settings.check at h
  have hc : (readSection co Settings.className v (Settings.read co) {}).2.Valid :=
    readSection_yields Settings.valid_default (Settings.read_yields co)
  generalize readSection co Settings.className v (Settings.read co) {} = p at h hc
  obtain ⟨issues, s⟩ := p
  dsimp only at h
  split at h
  · cases h
    exact hc
  · cases h

/-! ## Mappings that hold settings -/

theorem sameKey_str (a b : String) : Value.sameKey (.str a) (.str b) = (a == b) := by
  simp [Value.sameKey]

/-- The mapping that writes out settings `fs`, each under its key. -/
def keyedEntries (fs : List (FieldName × Value)) : List (Value × Value) :=
  fs.map fun (f, v) => (.str f.key, v)

theorem dumpFields_eq (fs : List (FieldName × Value)) : dumpFields fs = .dict (keyedEntries fs) :=
  rfl

theorem keys_keyedEntries (fs : List (FieldName × Value)) :
    (keyedEntries fs).map Prod.fst = (fs.map (·.1.key)).map Value.str := by
  simp [keyedEntries]

/-- An entry of a mapping holding settings is one of them under its key. -/
theorem exists_of_mem_perm {fs : List (FieldName × Value)} {es : List (Value × Value)}
    (hp : es.Perm (keyedEntries fs)) {e : Value × Value} (he : e ∈ es) :
    ∃ f v, (f, v) ∈ fs ∧ e = (.str f.key, v) := by
  obtain ⟨⟨f, v⟩, hf, rfl⟩ := List.mem_map.1 (hp.subset he)
  exact ⟨f, v, hf, rfl⟩

/-- A mapping holding settings under distinct keys has distinct keys. -/
theorem nodup_keys_of_perm {fs : List (FieldName × Value)} (hnd : (fs.map (·.1.key)).Nodup)
    {es : List (Value × Value)} (hp : es.Perm (keyedEntries fs)) : (es.map Prod.fst).Nodup := by
  rw [(hp.map Prod.fst).nodup_iff, keys_keyedEntries]
  exact List.Pairwise.map Value.str (fun _ _ hne heq => hne (Value.str.inj heq)) hnd

/-- A mapping holding settings `fs`, each under its key, in some order. -/
def HoldsFields (fs : List (FieldName × Value)) (v : Value) : Prop :=
  ∃ es, v = .dict es ∧ es.Perm (keyedEntries fs)

theorem HoldsFields.dumpFields (fs : List (FieldName × Value)) :
    HoldsFields fs (dumpFields fs) :=
  ⟨_, rfl, List.Perm.refl _⟩

/-- The settings at the top of a written-out mapping, the four sections written out as
`request`, `view`, `api` and `controller`. -/
def Settings.topFields (c : Settings) (request view api controller : Value) :
    List (FieldName × Value) :=
  [(rootNamespaceField, .str c.rootNamespace), (requestField, request), (viewField, view),
   (apiField, api), (controllerField, controller)]

theorem Settings.keys_topFields (c : Settings) (request view api controller : Value) :
    (c.topFields request view api controller).map (·.1.key) =
      ["rootNamespace", "request", "view", "api", "controller"] := rfl

/-- What writing settings out by their aliases must give: a mapping holding the root namespace
and the four sections under their keys, each section a mapping holding its own settings under
theirs, all in any order. -/
def Settings.DumpsByAlias (dump : Settings → Value) : Prop :=
  ∀ c : Settings, ∃ request view api controller : Value,
    HoldsFields c.request.fields request ∧ HoldsFields c.view.fields view ∧
    HoldsFields c.api.fields api ∧ HoldsFields c.controller.fields controller ∧
    HoldsFields (c.topFields request view api controller) (dump c)

/-- The program's dump writes each setting under its key, in the order of the settings. -/
theorem Settings.dump_byAlias : Settings.DumpsByAlias Settings.dump := fun _ =>
  ⟨_, _, _, _, .dumpFields _, .dumpFields _, .dumpFields _, .dumpFields _, .dumpFields _⟩

theorem lookupText_cons_str (k s : String) (v : Value) (es : List (Value × Value)) :
    Value.lookupText ((.str k, v) :: es) s = if k = s then some v else Value.lookupText es s := by
  unfold Value.lookupText
  rw [List.find?_cons, sameKey_str]
  by_cases h : k = s
  · simp [h]
  · rw [beq_false_of_ne h, if_neg h]

/-- In settings written out under distinct keys, a setting is found under its key. -/
theorem lookupText_keyedEntries {fs : List (FieldName × Value)} (hnd : (fs.map (·.1.key)).Nodup)
    {f : FieldName} {v : Value} (hmem : (f, v) ∈ fs) :
    Value.lookupText (keyedEntries fs) f.key = some v := by
  induction fs with
  | nil => cases hmem
  | cons e fs ih =>
    obtain ⟨f', v'⟩ := e
    rw [List.map_cons, List.nodup_cons] at hnd
    rw [keyedEntries, List.map_cons, lookupText_cons_str]
    by_cases hk : f'.key = f.key
    · -- the first setting with this key is the one asked for, as keys are distinct
      have hfirst : (f, v) = (f', v') := by
        rcases List.mem_cons.1 hmem with h | h
        · exact h
        · exact absurd (hk ▸ List.mem_map_of_mem (f := (·.1.key)) h) hnd.1
      cases hfirst
      simp
    · have hrest : (f, v) ∈ fs := by
        rcases List.mem_cons.1 hmem with h | h
        · cases h
          exact absurd rfl hk
        · exact h
      rw [if_neg hk]
      exact ih hnd.2 hrest

/-- Settings under distinct keys are looked up alike in whatever order a mapping holds them. -/
theorem lookupText_of_perm {fs : List (FieldName × Value)} (hnd : (fs.map (·.1.key)).Nodup)
    {es : List (Value × Value)} (hp : es.Perm (keyedEntries fs)) (k : String) :
    Value.lookupText es k = Value.lookupText (keyedEntries fs) k := by
  unfold Value.lookupText
  rw [List.find?_eq_find?_of_perm hp]
  rintro x ⟨hx, hxk⟩ y ⟨hy, hyk⟩
  -- two entries under the key `k` have one key, so they are one entry
  obtain ⟨f, v, -, rfl⟩ := exists_of_mem_perm hp hx
  obtain ⟨g, w, -, rfl⟩ := exists_of_mem_perm hp hy
  rw [sameKey_str, beq_iff_eq] at hxk hyk
  exact List.inj_on_of_nodup_map (nodup_keys_of_perm hnd hp) hx hy (by simp only [hxk, hyk])

/-- In a mapping holding settings under distinct keys, every setting is found, by its alias
when it has one and by its name otherwise. -/
theorem findField_of_perm {fs : List (FieldName × Value)} (hnd : (fs.map (·.1.key)).Nodup)
    {es : List (Value × Value)} (hp : es.Perm (keyedEntries fs)) {f : FieldName} {v : Value}
    (hmem : (f, v) ∈ fs) : findField es f = some (f.key, v) := by
  have hlook := lookupText_keyedEntries hnd hmem
  rw [← lookupText_of_perm hnd hp] at hlook
  unfold findField
  cases ha : f.alias? with
  | none =>
    have hkey : f.key = f.name := by simp [FieldName.key, ha]
    rw [hkey] at hlook
    simp [hlook, hkey]
  | some a =>
    have hkey : f.key = a := by simp [FieldName.key, ha]
    rw [hkey] at hlook
    simp [hlook, hkey]

/-! ## Runs on mappings that hold settings -/

theorem readLeaf_found {α : Type} {es : List (Value × Value)} {f : FieldName}
    {check : Value → Except IssueKind α} {d : α} {k : String} {v : Value} {a : α}
    (hf : findField es f = some (k, v)) (hc : check v = .ok a) (st : ReadState) :
    (readLeaf es f check d).run st = (a, { st with used := k :: st.used }) := by
  simp [readLeaf, hf, hc, markUsed]
  rfl

/-- A loop whose every step leaves the state as it is leaves it as it is. -/
theorem Reading.forM_run_of_step {β : Type} {es : List β} {f : β → Reading Unit} {st : ReadState}
    (h : ∀ e ∈ es, (f e).run st = ((), st)) : (es.forM f).run st = ((), st) := by
  induction es with
  | nil => rfl
  | cons e es ih =>
    show (f e >>= fun _ => es.forM f).run st = _
    rw [Reading.run_bind (h e List.mem_cons_self)]
    exact ih fun e he => h e (List.mem_cons_of_mem _ he)

/-- Looking for unused keys finds none when every key is a text already used. -/
theorem readExtras_used {es : List (Value × Value)} {st : ReadState}
    (h : ∀ e ∈ es, ∃ s, e.1 = .str s ∧ s ∈ st.used) : (readExtras es).run st = ((), st) := by
  apply Reading.forM_run_of_step
  rintro ⟨k, v⟩ he
  obtain ⟨s, hs, hmem⟩ := h _ he
  simp only at hs
  subst hs
  simp [hmem]
  rfl

section Holds

variable {co : Coercion}

/-- A mapping holding settings `fs` under keys without surrogates, which the reader returns as
`a` using all its keys, is read without problems. -/
theorem readSection_holds (hco : co.Lawful) {α : Type} {cn : String}
    {fs : List (FieldName × Value)} {v : Value} (hv : HoldsFields fs v)
    (hsur : (fs.map (·.1.key)).all (!hasSurrogate ·))
    {body : List (Value × Value) → Reading α} {d a : α}
    (hrun : ∀ es, es.Perm (keyedEntries fs) →
      (body es).run {} = (a, { used := (fs.map (·.1.key)).reverse })) :
    readSection co cn v body d = ([], a) := by
  obtain ⟨es, rfl, hp⟩ := hv
  have hkeys : es.all (!isUnencodableKey ·.1) := by
    rw [List.all_eq_true]
    intro e he
    obtain ⟨f, v, hf, rfl⟩ := exists_of_mem_perm hp he
    simpa [isUnencodableKey] using List.all_eq_true.1 hsur f.key (List.mem_map_of_mem hf)
  have hused : ∀ e ∈ es, ∃ s, e.1 = .str s ∧
      s ∈ ({ used := (fs.map (·.1.key)).reverse } : ReadState).used := by
    intro e he
    obtain ⟨f, v, hf, rfl⟩ := exists_of_mem_perm hp he
    exact ⟨f.key, rfl, List.mem_reverse.2 (List.mem_map.2 ⟨(f, v), hf, rfl⟩)⟩
  rw [readSection, hco.mapping_dict cn es hkeys]
  dsimp only
  rw [Reading.run_bind (hrun es hp), Reading.run_bind (readExtras_used hused)]
  rfl

theorem readSubsection_found {α : Type} {es : List (Value × Value)} {f : FieldName}
    {cn : String} {body : List (Value × Value) → Reading α} {d a : α} {k : String} {v : Value}
    (hf : findField es f = some (k, v)) (hs : readSection co cn v body d = ([], a))
    (st : ReadState) :
    (readSubsection co es f cn body d).run st = (a, { st with used := k :: st.used }) := by
  simp [readSubsection, hf, hs, markUsed]
  rfl

variable {es : List (Value × Value)}

/-- A setting held under distinct keys is found and passes its check. -/
theorem readLeaf_holds (st : ReadState) {α : Type} {fs : List (FieldName × Value)}
    (hnd : (fs.map (·.1.key)).Nodup) (hp : es.Perm (keyedEntries fs)) {f : FieldName} {v : Value}
    {check : Value → Except IssueKind α} {d a : α} (hmem : (f, v) ∈ fs) (hc : check v = .ok a) :
    (readLeaf es f check d).run st = (a, { st with used := f.key :: st.used }) :=
  readLeaf_found (findField_of_perm hnd hp hmem) hc st

/-- A section held under distinct keys is found and read back. -/
theorem readSubsection_holds (st : ReadState) {α : Type} {fs : List (FieldName × Value)}
    (hnd : (fs.map (·.1.key)).Nodup) (hp : es.Perm (keyedEntries fs)) {f : FieldName} {v : Value}
    {cn : String} {body : List (Value × Value) → Reading α} {d a : α} (hmem : (f, v) ∈ fs)
    (hs : readSection co cn v body d = ([], a)) :
    (readSubsection co es f cn body d).run st = (a, { st with used := f.key :: st.used }) :=
  readSubsection_found (findField_of_perm hnd hp hmem) hs st

/-! ## Each section held is read back -/

theorem RequestSettings.keys_fields (r : RequestSettings) :
    r.fields.map (·.1.key) = ["namespace", "apiNamespace", "classSuffix"] := rfl

theorem RequestSettings.read_holds (hco : co.Lawful) (st : ReadState) {r : RequestSettings}
    (hweb : DottedPath r.webNamespace) (hapi : DottedPath r.apiNamespace)
    (hp : es.Perm (keyedEntries r.fields)) :
    (RequestSettings.read co es).run st =
      (r, { st with used := (r.fields.map (·.1.key)).reverse ++ st.used }) := by
  have hnd : (r.fields.map (·.1.key)).Nodup := by rw [keys_fields]; simp
  rw [RequestSettings.read,
    Reading.run_bind (readLeaf_holds st hnd hp List.mem_cons_self (checkDottedPath_str hco hweb)),
    Reading.run_bind (readLeaf_holds _ hnd hp (List.mem_cons_of_mem _ List.mem_cons_self)
      (checkDottedPath_str hco hapi)),
    Reading.run_bind (readLeaf_holds _ hnd hp
      (List.mem_cons_of_mem _ (List.mem_cons_of_mem _ List.mem_cons_self)) (hco.text_str _))]
  rfl

theorem ViewSettings.keys_fields (v : ViewSettings) :
    v.fields.map (·.1.key) = ["templates", "extension"] := rfl

theorem ViewSettings.read_holds (hco : co.Lawful) (st : ReadState) {v : ViewSettings}
    (hext : ExtensionForm v.extension) (hp : es.Perm (keyedEntries v.fields)) :
    (ViewSettings.read co es).run st =
      (v, { st with used := (v.fields.map (·.1.key)).reverse ++ st.used }) := by
  have hnd : (v.fields.map (·.1.key)).Nodup := by rw [keys_fields]; simp
  rw [ViewSettings.read,
    Reading.run_bind (readLeaf_holds st hnd hp List.mem_cons_self (hco.text_str _)),
    Reading.run_bind (readLeaf_holds _ hnd hp (List.mem_cons_of_mem _ List.mem_cons_self)
      (checkExtension_str hco hext))]
  rfl

theorem ApiSettings.keys_fields (a : ApiSettings) :
    a.fields.map (·.1.key) = ["resourceNamespace", "resourceSuffix"] := rfl

theorem ApiSettings.read_holds (hco : co.Lawful) (st : ReadState) {a : ApiSettings}
    (hres : DottedPath a.resourceNamespace) (hp : es.Perm (keyedEntries a.fields)) :
    (ApiSettings.read co es).run st =
      (a, { st with used := (a.fields.map (·.1.key)).reverse ++ st.used }) := by
  have hnd : (a.fields.map (·.1.key)).Nodup := by rw [keys_fields]; simp
  rw [ApiSettings.read,
    Reading.run_bind (readLeaf_holds st hnd hp List.mem_cons_self (checkDottedPath_str hco hres)),
    Reading.run_bind (readLeaf_holds _ hnd hp (List.mem_cons_of_mem _ List.mem_cons_self)
      (hco.text_str _))]
  rfl

theorem ControllerSettings.keys_fields (c : ControllerSettings) :
    c.fields.map (·.1.key) = ["sessionDependency", "generateDocstrings", "indentSize"] := rfl

theorem ControllerSettings.read_holds (hco : co.Lawful) (st : ReadState) {c : ControllerSettings}
    (hindent : 2 ≤ c.indentSize ∧ c.indentSize ≤ 8) (hp : es.Perm (keyedEntries c.fields)) :
    (ControllerSettings.read co es).run st =
      (c, { st with used := (c.fields.map (·.1.key)).reverse ++ st.used }) := by
  have hnd : (c.fields.map (·.1.key)).Nodup := by rw [keys_fields]; simp
  rw [ControllerSettings.read,
    Reading.run_bind (readLeaf_holds st hnd hp List.mem_cons_self (hco.text_str _)),
    Reading.run_bind (readLeaf_holds _ hnd hp (List.mem_cons_of_mem _ List.mem_cons_self)
      (hco.flag_bool _)),
    Reading.run_bind (readLeaf_holds _ hnd hp
      (List.mem_cons_of_mem _ (List.mem_cons_of_mem _ List.mem_cons_self))
      (checkIndentSize_int hco hindent))]
  rfl

/-! ## All settings held are read back -/

theorem Settings.read_holds (hco : co.Lawful) (st : ReadState) {c : Settings} (hc : c.Valid)
    {request view api controller : Value}
    (hreq : HoldsFields c.request.fields request) (hview : HoldsFields c.view.fields view)
    (hapi : HoldsFields c.api.fields api) (hctl : HoldsFields c.controller.fields controller)
    (hp : es.Perm (keyedEntries (c.topFields request view api controller))) :
    (Settings.read co es).run st = (c, { st with used :=
      ((c.topFields request view api controller).map (·.1.key)).reverse ++ st.used }) := by
  have hnd : ((c.topFields request view api controller).map (·.1.key)).Nodup := by
    rw [keys_topFields]; simp
  -- each section is read back with no problem and all its keys used
  have hrequest : readSection co RequestSettings.className request
      (RequestSettings.read co) {} = ([], c.request) :=
    readSection_holds hco hreq (by rw [RequestSettings.keys_fields]; decide)
      fun _ hp => RequestSettings.read_holds hco {} hc.webNamespace hc.apiNamespace hp
  have hview : readSection co ViewSettings.className view (ViewSettings.read co) {} =
      ([], c.view) :=
    readSection_holds hco hview (by rw [ViewSettings.keys_fields]; decide)
      fun _ hp => ViewSettings.read_holds hco {} hc.extension hp
  have hapi : readSection co ApiSettings.className api (ApiSettings.read co) {} =
      ([], c.api) :=
    readSection_holds hco hapi (by rw [ApiSettings.keys_fields]; decide)
      fun _ hp => ApiSettings.read_holds hco {} hc.resourceNamespace hp
  have hcontroller : readSection co ControllerSettings.className controller
      (ControllerSettings.read co) {} = ([], c.controller) :=
    readSection_holds hco hctl (by rw [ControllerSettings.keys_fields]; decide)
      fun _ hp => ControllerSettings.read_holds hco {} hc.indentSize hp
  rw [Settings.read,
    Reading.run_bind (readLeaf_holds st hnd hp List.mem_cons_self
      (checkDottedPath_str hco hc.rootNamespace)),
    Reading.run_bind (readSubsection_holds _ hnd hp (List.mem_cons_of_mem _ List.mem_cons_self)
      hrequest),
    Reading.run_bind (readSubsection_holds _ hnd hp
      (List.mem_cons_of_mem _ (List.mem_cons_of_mem _ List.mem_cons_self)) hview),
    Reading.run_bind (readSubsection_holds _ hnd hp
      (List.mem_cons_of_mem _ (List.mem_cons_of_mem _ (List.mem_cons_of_mem _
        List.mem_cons_self))) hapi),
    Reading.run_bind (readSubsection_holds _ hnd hp
      (List.mem_cons_of_mem _ (List.mem_cons_of_mem _ (List.mem_cons_of_mem _
        (List.mem_cons_of_mem _ List.mem_cons_self)))) hcontroller)]
  rfl

end Holds

/-- Valid settings written out by their aliases are read back as they were, in whatever order
the dump holds its keys. -/
theorem Settings.check_dump {co : Coercion} (hco : co.Lawful) {dump : Settings → Value}
    (hdump : Settings.DumpsByAlias dump) {c : Settings} (hc : c.Valid) :
    Settings.check co (dump c) = .ok c := by
  obtain ⟨request, view, api, controller, hreq, hview, hapi, hctl, htop⟩ := hdump c
  rw [Settings.check, readSection_holds hco htop (by rw [Settings.keys_topFields]; decide)
    fun _ hp => Settings.read_holds hco {} hc hreq hview hapi hctl hp]
  rfl

end CrudScaffold.Config
