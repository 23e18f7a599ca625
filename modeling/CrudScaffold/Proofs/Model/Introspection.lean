import CrudScaffold.Proofs.Command.Failures

/-!
# A model class and its instances read alike

The table of a model is the first non-empty text among three places: the table its class is
mapped onto, the class attribute `__tablename__`, and what calling its table getter answers
(`ModelClass.TableOf`, `ModelClass.table_eq_ok_iff`). The first two are read on the class
whether the model is the class or an instance of it. The getter is called on the model
itself, and every getter that answers on the class answers the same on an instance
(`ModelClass.callGetter_onInstance`); an ordinary method answers on an instance only.

So whenever the class can be read, an instance reads the same: the same table, qualified
name and class name (`Model.introspect_inst_of_cls`). A descriptor keeps nothing of its model
but what was read, so a method made for the class and one made for an instance are the same
descriptor, and every run of calls on them goes alike.
-/

namespace CrudScaffold

open CrudScaffold.Data

theorem tableText?_eq_some {v : Value} {t : String} :
    tableText? v = some t ↔ v = .str t ∧ t ≠ "" := by
  unfold tableText?
  split
  · rename_i s
    by_cases hs : s = ""
    · subst hs
      simp
    · have : s.isEmpty = false := by simpa [String.isEmpty_iff] using hs
      simp only [this, Bool.false_eq_true, if_false, Option.some.injEq, Value.str.injEq]
      exact ⟨fun h => ⟨h, h ▸ hs⟩, fun h => h.1⟩
  · simp_all

/-- A value names no table when it is not a text, or is the empty text. -/
theorem tableText?_eq_none {v : Value} : tableText? v = none ↔ ∀ t, v = .str t → t = "" := by
  unfold tableText?
  split
  · simp [String.isEmpty_iff]
  · simp_all

namespace ModelClass

variable {c : ModelClass}

/-- Where the table of a model comes from, read on an instance or on the class itself (which
prints as `shown`): the first non-empty text among the table the class is mapped onto, its
`__tablename__`, and what its getter answers. -/
inductive TableOf (c : ModelClass) (onInstance : Bool) (shown : String) : String → Prop
  | mapped {t : String} : c.mappedTable = some t → t ≠ "" → TableOf c onInstance shown t
  | declared {t : String} : (∀ m, c.mappedTable = some m → m = "") →
      c.tablename = some (.str t) → t ≠ "" → TableOf c onInstance shown t
  | getter {t : String} : (∀ m, c.mappedTable = some m → m = "") →
      (∀ a, c.tablename = some (.str a) → a = "") →
      c.callGetter onInstance shown = .ok (some (.str t)) → t ≠ "" → TableOf c onInstance shown t

theorem mappedText_eq_none :
    c.mappedTable.bind (tableText? ∘ .str) = none ↔ ∀ m, c.mappedTable = some m → m = "" := by
  cases c.mappedTable <;> simp [tableText?_eq_none]

theorem tablenameText_eq_none :
    c.tablename.bind tableText? = none ↔ ∀ a, c.tablename = some (.str a) → a = "" := by
  cases c.tablename <;> simp [tableText?_eq_none]

/-- A table read from a model comes from the first of its three places that names one. -/
theorem tableOf_of_table {onInstance : Bool} {shown t : String}
    (h : c.table onInstance shown = .ok t) : c.TableOf onInstance shown t := by
  unfold ModelClass.table at h
  cases hm : c.mappedTable.bind (tableText? ∘ .str) with
  | some t' =>
    -- the mapped table is a non-empty text, so it is the table
    rw [hm] at h
    cases h
    obtain ⟨m, hm', hmt⟩ := Option.bind_eq_some_iff.1 hm
    obtain ⟨hmt, hne⟩ := tableText?_eq_some.1 hmt
    cases hmt
    exact .mapped hm' hne
  | none =>
    rw [hm] at h
    cases hn : c.tablename.bind tableText? with
    | some t' =>
      rw [hn] at h
      cases h
      obtain ⟨a, ha, hat⟩ := Option.bind_eq_some_iff.1 hn
      obtain ⟨rfl, hne⟩ := tableText?_eq_some.1 hat
      exact .declared (mappedText_eq_none.1 hm) ha hne
    | none =>
      -- the getter answered, and its answer names the table
      rw [hn, bind_eq_ok] at h
      obtain ⟨r, hr, hrt⟩ := h
      split at hrt
      · rename_i hs
        cases hrt
        obtain ⟨v, rfl, hvt⟩ := Option.bind_eq_some_iff.1 hs
        obtain ⟨rfl, hne⟩ := tableText?_eq_some.1 hvt
        exact .getter (mappedText_eq_none.1 hm) (tablenameText_eq_none.1 hn) hr hne
      · cases hrt

theorem table_of_tableOf {onInstance : Bool} {shown t : String}
    (h : c.TableOf onInstance shown t) : c.table onInstance shown = .ok t := by
  unfold ModelClass.table
  cases h with
  | mapped hm hne =>
    have : c.mappedTable.bind (tableText? ∘ .str) = some t := by
      simp [hm, tableText?_eq_some.2 ⟨rfl, hne⟩]
    rw [this]
  | declared hm ha hne =>
    have : c.tablename.bind tableText? = some t := by simp [ha, tableText?_eq_some.2 ⟨rfl, hne⟩]
    rw [mappedText_eq_none.2 hm, this]
  | getter hm ha hr hne =>
    rw [mappedText_eq_none.2 hm, tablenameText_eq_none.2 ha, bind_eq_ok]
    exact ⟨_, hr, by simp [tableText?_eq_some.2 ⟨rfl, hne⟩, pure, Except.pure]⟩

/-- The table read from a model is exactly the first non-empty text among its three places. -/
theorem table_eq_ok_iff {onInstance : Bool} {shown t : String} :
    c.table onInstance shown = .ok t ↔ c.TableOf onInstance shown t :=
  ⟨tableOf_of_table, table_of_tableOf⟩

/-- A getter that answers when called on the class answers the same on an instance. -/
theorem callGetter_onInstance {shown shown' : String} {r : Value}
    (h : c.callGetter false shown = .ok (some r)) : c.callGetter true shown' = .ok (some r) := by
  unfold callGetter at h ⊢
  cases hg : c.getter with
  | none => simp [hg] at h
  | some g =>
    rw [hg] at h
    cases g with
    | static v => exact h
    | classMethod v => exact h
    | method _ | raising _ => cases h
    | constant _ | onInstance _ => cases h

/-- A table read on the class is read the same on an instance. -/
theorem TableOf.onInstance {shown shown' t : String} (h : c.TableOf false shown t) :
    c.TableOf true shown' t := by
  cases h with
  | mapped hm hne => exact .mapped hm hne
  | declared hm ha hne => exact .declared hm ha hne
  | getter hm ha hr hne => exact .getter hm ha (callGetter_onInstance hr) hne

end ModelClass

namespace Model

theorem introspect_eq_ok_iff {m : Model} {i : ModelInfo} :
    m.introspect = .ok i ↔
      m.table = .ok i.table ∧ i.qualifiedName = m.qualifiedName ∧ i.className = m.className := by
  simp only [introspect, bind_eq_ok, pure, Except.pure, Except.ok.injEq]
  constructor
  · rintro ⟨t, ht, rfl⟩
    exact ⟨ht, rfl, rfl⟩
  · rintro ⟨ht, hq, hc⟩
    exact ⟨i.table, ht, by rw [← hq, ← hc]⟩

/-- Whenever a model class can be read, an instance of it reads the same. -/
theorem introspect_inst_of_cls {c : ModelClass} {i : ModelInfo}
    (h : (Model.cls c).introspect = .ok i) : (Model.inst c).introspect = .ok i := by
  obtain ⟨ht, hq, hc⟩ := introspect_eq_ok_iff.1 h
  have hinst : c.table true (Model.inst c).repr = .ok i.table :=
    ModelClass.table_eq_ok_iff.2 (ModelClass.table_eq_ok_iff.1 ht).onInstance
  exact introspect_eq_ok_iff.2 ⟨hinst, hq, hc⟩

/-- A class whose only table is what an ordinary method answers is read on an instance, and
refused on the class, where the call lacks its instance. -/
theorem introspect_of_method_getter {c : ModelClass} {t : String}
    (hm : ∀ m, c.mappedTable = some m → m = "") (ha : ∀ a, c.tablename = some (.str a) → a = "")
    (hg : c.getter = some (.method (.str t))) (ht : t ≠ "") :
    (Model.inst c).introspect = .ok ⟨t, (Model.cls c).qualifiedName, c.name⟩ ∧
      (Model.cls c).introspect = .error (missingSelf c (Model.cls c).repr) := by
  have hm' := ModelClass.mappedText_eq_none.2 hm
  have ha' := ModelClass.tablenameText_eq_none.2 ha
  constructor
  · have hr : c.callGetter true (Model.inst c).repr = .ok (some (.str t)) := by
      simp [ModelClass.callGetter, hg]
    exact introspect_eq_ok_iff.2 ⟨ModelClass.table_eq_ok_iff.2 (.getter hm ha hr ht), rfl, rfl⟩
  · simp only [introspect, Model.table, ModelClass.table, hm', ha', ModelClass.callGetter, hg]
    rfl

end Model

/-- A descriptor keeps only what was read of its model. -/
theorem Method.Descriptor.create_congr {m m' : Model} (h : m.introspect = m'.introspect)
    (cls : Method.MethodClass) (settings : Config.Settings) :
    Method.Descriptor.create cls settings m = Method.Descriptor.create cls settings m' := by
  simp only [Method.Descriptor.create, h]

/-- Whenever a model class can be read, an instance reads the same, the table being the first
non-empty of its three sources, and a method made for either is the same descriptor. The
converse fails for a table that only an ordinary method getter gives. -/
theorem instance_reads_as_class :
    (∀ (c : ModelClass) (i : ModelInfo), (Model.cls c).introspect = .ok i →
      (Model.inst c).introspect = .ok i ∧ c.TableOf false (Model.cls c).repr i.table ∧
      ∀ cls settings, Method.Descriptor.create cls settings (.inst c) =
        Method.Descriptor.create cls settings (.cls c)) ∧
    (∀ (c : ModelClass) (t : String), (∀ m, c.mappedTable = some m → m = "") →
      (∀ a, c.tablename = some (.str a) → a = "") → c.getter = some (.method (.str t)) →
      t ≠ "" →
      (Model.inst c).introspect = .ok ⟨t, (Model.cls c).qualifiedName, c.name⟩ ∧
      (Model.cls c).introspect = .error (missingSelf c (Model.cls c).repr)) := by
  refine ⟨fun c i h => ?_, fun c t hm ha hg ht => Model.introspect_of_method_getter hm ha hg ht⟩
  have hinst := Model.introspect_inst_of_cls h
  -- the table of the class is read through the first of its three places that names one
  have hof := ModelClass.table_eq_ok_iff.1 (Model.introspect_eq_ok_iff.1 h).1
  exact ⟨hinst, hof, Method.Descriptor.create_congr (hinst.trans h.symm)⟩

/-- A class whose table only a static getter gives. -/
def articleClass : ModelClass :=
  { qualname := "Article", name := "Article", getter := some (.static (.str "articles")) }

/-- A class whose table only an ordinary method getter gives. -/
def draftClass : ModelClass :=
  { qualname := "Draft", name := "Draft", getter := some (.method (.str "drafts")) }

theorem getter_kinds_read_on_instance :
    (Model.inst articleClass).introspect = .ok ⟨"articles", "app.models.Article", "Article"⟩ ∧
      (∀ cls settings, Method.Descriptor.create cls settings (.inst articleClass) =
        Method.Descriptor.create cls settings (.cls articleClass)) ∧
      (Model.inst draftClass).introspect = .ok ⟨"drafts", "app.models.Draft", "Draft"⟩ ∧
      (Model.cls draftClass).introspect =
        .error (missingSelf draftClass (Model.cls draftClass).repr) := by
  obtain ⟨hclass, hmethod⟩ := instance_reads_as_class
  obtain ⟨harticle, -, hcreate⟩ :=
    hclass articleClass ⟨"articles", "app.models.Article", "Article"⟩ rfl
  obtain ⟨hdraft, hraises⟩ := hmethod draftClass "drafts" (fun _ h => by cases h)
    (fun _ h => by cases h) rfl (by decide)
  exact ⟨harticle, hcreate, hdraft, hraises⟩

end CrudScaffold
