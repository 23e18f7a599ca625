import CrudScaffold.Command.Run
import CrudScaffold.Proofs.Generator.Isolation
import CrudScaffold.Proofs.Descriptor.Generation

/-!
# Which failures each stage of a run raises

A failure of the generator's own (a model whose metadata cannot be read, a method name no
controller has, settings that cannot be used) is one a run means to report; every other
failure comes from the models, modules and files it is given. This module says, stage by
stage, which own failures a stage can raise:

* importing modules and asking whether a request class exists raise none
  (`importModule_error`, `classExists_error`);
* loading an object raises only reflection failures (`loadObject_error`), and so does reading
  a model (`Model.introspect_error`);
* building a method raises only reflection and unknown-method failures (`buildMethod_error`);
* generating a method fails only where the oracle does (`generateMethod_error`), and a
  generation run, which records its own failures per method, raises none (`generate_error`);
* loading a settings file raises only configuration failures (`Settings.load_error`), and
  loading the inputs of a run only configuration and reflection failures
  (`loadInputs_error`).
-/

namespace CrudScaffold

section Propagation

variable {ε α β : Type}

/-- A sequenced computation fails exactly when its first step fails, or its first step
succeeds and the rest fails. -/
theorem bind_eq_error {x : Except ε α} {f : α → Except ε β} {e : ε} :
    (x >>= f) = .error e ↔ x = .error e ∨ ∃ a, x = .ok a ∧ f a = .error e := by
  cases x <;> simp [bind, Except.bind]

/-- A sequenced computation succeeds exactly when both its steps do. -/
theorem bind_eq_ok {x : Except ε α} {f : α → Except ε β} {b : β} :
    (x >>= f) = .ok b ↔ ∃ a, x = .ok a ∧ f a = .ok b := by
  cases x <;> simp [bind, Except.bind]

theorem map_eq_error {f : α → β} {x : Except ε α} {e : ε} :
    x.map f = .error e ↔ x = .error e := by
  cases x <;> simp [Except.map]

/-- A failed fold failed at one of its steps. -/
theorem foldlM_error {f : α → β → Except ε α} {e : ε} :
    ∀ {xs : List β} {s : α}, xs.foldlM f s = .error e →
      ∃ s' x, x ∈ xs ∧ f s' x = .error e
  | [], _, h => by cases h
  | x :: xs, s, h => by
    rw [List.foldlM_cons, bind_eq_error] at h
    rcases h with h | ⟨s', _, h⟩
    · exact ⟨s, x, List.mem_cons_self .., h⟩
    · obtain ⟨s'', y, hy, h'⟩ := foldlM_error h
      exact ⟨s'', y, List.mem_cons_of_mem _ hy, h'⟩

/-- A failed traversal failed at one of its elements. -/
theorem mapM_error {g : α → Except ε β} {e : ε} :
    ∀ {xs : List α}, xs.mapM g = .error e → ∃ x ∈ xs, g x = .error e
  | [], h => by cases h
  | x :: xs, h => by
    rw [List.mapM_cons, bind_eq_error] at h
    rcases h with h | ⟨_, _, h⟩
    · exact ⟨x, List.mem_cons_self .., h⟩
    · rw [bind_eq_error] at h
      rcases h with h | ⟨_, _, h⟩
      · obtain ⟨y, hy, h'⟩ := mapM_error h
        exact ⟨y, List.mem_cons_of_mem _ hy, h'⟩
      · cases h

end Propagation

namespace Host

variable (h : Host) {e : Failure}

theorem importOne_error {loaded : List String} {name : String}
    (he : h.importOne loaded name = .error e) : e.isOwn = false := by
  unfold importOne at he
  split at he
  · cases he
  · split at he
    · cases he
      rfl
    · cases he
      rfl
    · cases he
    · split at he
      · cases he
      · cases he
        rfl

/-- Importing fails only for a module that cannot be found, that raises, or whose name is
relative; none is a failure of the generator. -/
theorem importModule_error {name : String} (he : h.importModule name = .error e) :
    e.isOwn = false := by
  unfold importModule at he
  split at he
  · cases he
    rfl
  · rw [bind_eq_error] at he
    rcases he with he | ⟨_, _, he⟩
    · obtain ⟨_, _, _, he⟩ := foldlM_error he
      exact h.importOne_error he
    · cases he

theorem classExists_error {q : String} (he : h.classExists q = .error e) : e.isOwn = false := by
  unfold classExists at he
  split at he
  · cases he
  · dsimp only at he
    split at he
    · cases he
    · split at he
      · split at he
        · cases he
        · cases he
          rfl
      · rename_i hm
        cases he
        exact h.importModule_error hm
      · cases he

/-- Loading an object fails with a failure of the generator only when the path names no
object. -/
theorem loadObject_error {path : String} (he : h.loadObject path = .error e) (hown : e.isOwn) :
    ∃ m, e = .reflection m := by
  unfold loadObject at he
  split at he
  rename_i m attr _
  simp only [bind, Except.bind] at he
  split at he
  · -- no module or no name: the path is refused
    cases he
    exact ⟨_, rfl⟩
  · split at he
    · split at he
      · cases he
      · cases he
        exact ⟨_, rfl⟩
    · cases he
      cases hown
    · cases he
      exact ⟨_, rfl⟩

end Host

variable {e : Failure}

open CrudScaffold.Config

namespace ModelClass

variable (c : ModelClass) (onInstance : Bool) (shown : String)

theorem callGetter_error (he : c.callGetter onInstance shown = .error e) (hown : e.isOwn) :
    ∃ m, e = .reflection m := by
  unfold callGetter at he
  split at he <;> cases he
  all_goals first | exact ⟨_, rfl⟩ | cases hown

theorem table_error (he : c.table onInstance shown = .error e) (hown : e.isOwn) :
    ∃ m, e = .reflection m := by
  unfold ModelClass.table at he
  split at he
  · cases he
  · split at he
    · cases he
    · rw [bind_eq_error] at he
      rcases he with he | ⟨_, _, he⟩
      · exact c.callGetter_error onInstance shown he hown
      · split at he
        · cases he
        · cases he
          exact ⟨_, rfl⟩

end ModelClass

/-- Reading a model fails with a failure of the generator only when its metadata cannot be
read. -/
theorem Model.introspect_error {m : Model} (he : m.introspect = .error e) (hown : e.isOwn) :
    ∃ msg, e = .reflection msg := by
  unfold Model.introspect at he
  rw [bind_eq_error] at he
  rcases he with he | ⟨_, _, he⟩
  · unfold Model.table at he
    split at he
    · cases he
      exact ⟨_, rfl⟩
    · exact ModelClass.table_error _ _ _ he hown
    · exact ModelClass.table_error _ _ _ he hown
    · cases he
      exact ⟨_, rfl⟩
  · cases he

theorem Method.resolve_error {name : String} {api : Bool}
    (he : Method.resolve name api = .error e) :
    ∃ n a, e = .unknownMethod n a := by
  unfold Method.resolve at he
  dsimp only at he
  cases hf : (Method.actions api).find? (·.name == Text.lower (Text.trim name)) with
  | some a =>
    rw [hf] at he
    cases he
  | none =>
    rw [hf] at he
    cases he
    exact ⟨_, _, rfl⟩

theorem Method.setParent_error {p : Model} {d : Method.Descriptor}
    (he : (Method.setParent p).attempt d = .error e) : p.introspect = .error e := by
  unfold Method.Op.attempt at he
  cases hi : p.introspect with
  | ok q =>
    -- recording the parent does not fail
    rw [Method.setParent, Method.Op.run_bind_ok _ (by rw [Method.Op.run_ofExcept, hi])] at he
    cases he
  | error e' =>
    -- reading the parent failed
    rw [Method.setParent, Method.Op.run_bind_error _ (by rw [Method.Op.run_ofExcept, hi])] at he
    cases he
    rfl

/-- Building a method fails with a failure of the generator only for a method name that does
not exist, or a model or parent whose metadata cannot be read. -/
theorem buildMethod_error {settings : Settings} {name : String} {model : Model}
    {parent : Option Model} {api : Bool} {methodName : Option String}
    (he : buildMethod settings name model parent api methodName = .error e) (hown : e.isOwn) :
    (∃ msg, e = .reflection msg) ∨ ∃ n a, e = .unknownMethod n a := by
  unfold buildMethod at he
  rw [bind_eq_error] at he
  rcases he with he | ⟨cls, _, he⟩
  · exact Or.inr (Method.resolve_error he)
  rw [bind_eq_error] at he
  rcases he with he | ⟨d, _, he⟩
  · rw [Method.Descriptor.create, bind_eq_error] at he
    rcases he with he | ⟨_, _, he⟩
    · exact Or.inl (Model.introspect_error he hown)
    · cases he
  · -- a parent is read as the last step
    cases parent with
    | none =>
      cases he
    | some p =>
      dsimp only at he
      rw [bind_eq_error] at he
      rcases he with he | ⟨_, _, he⟩
      · exact Or.inl (Model.introspect_error (Method.setParent_error he) hown)
      · cases he

/-- The template of a method fails only when the oracle fails on its question. -/
theorem Method.Descriptor.strategy_error {o : Method.Oracle} {d : Method.Descriptor}
    (he : d.strategy o = .error e) : o d.requestQuery = .error e := by
  unfold Method.Descriptor.strategy Method.Descriptor.request at he
  have he := map_eq_error.1 he
  split at he
  · exact map_eq_error.1 he
  · cases he

/-- Generating a method fails only when the oracle fails on its question. -/
theorem generateMethod_error {o : Method.Oracle} {d : Method.Descriptor}
    (he : generateMethod o d = .error e) : o d.requestQuery = .error e := by
  unfold generateMethod at he
  rw [bind_eq_error] at he
  rcases he with he | ⟨_, _, he⟩
  · rw [Method.code_attempt] at he
    split at he
    · cases he
    · exact Method.Descriptor.strategy_error (map_eq_error.1 he)
  · cases he

/-- A generation run fails only with a failure that is not the generator's own. -/
theorem generate_error {settings : Settings} {oracle : Method.Oracle} {model : Model}
    {methods : List String} {parent : Option Model} {api : Bool}
    (he : generate settings oracle model methods parent api = .error e) : e.isOwn = false := by
  rw [generate_eq_mapM, map_eq_error] at he
  obtain ⟨name, -, he⟩ := mapM_error he
  exact nameEntry_error settings oracle model parent api name e he

namespace Config

theorem parseSettingsText_error {yaml : String → Except Data.Yaml.Fault Data.Value}
    {path text : String} (he : parseSettingsText yaml path text = .error e) (hown : e.isOwn) :
    ∃ p, e = .config p := by
  unfold parseSettingsText at he
  split at he <;> split at he <;> cases he
  all_goals first | exact ⟨_, rfl⟩ | cases hown

/-- A settings file fails to load with a failure of the generator only as a configuration
failure, whatever reads its YAML and its values. -/
theorem Settings.load_error {co : Coercion} {yaml : String → Except Data.Yaml.Fault Data.Value}
    {path : String} {content : Option String} (he : Settings.load co yaml path content = .error e)
    (hown : e.isOwn) : ∃ p, e = .config p := by
  unfold Settings.load at he
  dsimp only at he
  split at he
  · rw [bind_eq_error] at he
    rcases he with he | ⟨v, _, he⟩
    · exact parseSettingsText_error he hown
    rw [bind_eq_error] at he
    rcases he with he | ⟨_, _, he⟩
    · -- a value that is no mapping
      unfold settingsMapping at he
      split at he
      · cases he
      · split at he <;> cases he
      · cases he
        exact ⟨_, rfl⟩
    · split at he
      · cases he
      · cases he
        exact ⟨_, rfl⟩
  · -- no file at the path
    split at he
    · cases he
      cases hown
    · cases he
      exact ⟨_, rfl⟩

end Config

namespace Command

open CrudScaffold.Config

theorem settingsFor_error {files : List (String × String)} {o : Options}
    (he : settingsFor files o = .error e) (hown : e.isOwn) : ∃ p, e = .config p := by
  unfold settingsFor at he
  split at he
  · exact Settings.load_error he hown
  · cases he

theorem parentFor_error {host : Host} {o : Options} (he : parentFor host o = .error e)
    (hown : e.isOwn) : ∃ m, e = .reflection m := by
  unfold parentFor at he
  split at he
  · rw [bind_eq_error] at he
    rcases he with he | ⟨_, _, he⟩
    · exact host.loadObject_error he hown
    · cases he
  · cases he

/-- Loading the inputs of a run fails with a failure of the generator only when the settings
cannot be used or a model cannot be loaded. -/
theorem loadInputs_error {files : List (String × String)} {host : Host} {o : Options}
    (he : loadInputs files host o = .error e) (hown : e.isOwn) :
    (∃ p, e = .config p) ∨ ∃ m, e = .reflection m := by
  unfold loadInputs at he
  rw [bind_eq_error] at he
  rcases he with he | ⟨_, _, he⟩
  · exact Or.inl (settingsFor_error he hown)
  dsimp only at he
  split at he
  · -- the empty list of values given for the model
    rw [bind_eq_error] at he
    rcases he with he | ⟨_, h, _⟩
    · cases he
      cases hown
    · cases h
  · rw [bind_eq_error] at he
    rcases he with he | ⟨_, _, he⟩
    · exact Or.inr (host.loadObject_error he hown)
    rw [bind_eq_error] at he
    rcases he with he | ⟨_, _, he⟩
    · exact Or.inr (parentFor_error he hown)
    · cases he

end Command

end CrudScaffold
