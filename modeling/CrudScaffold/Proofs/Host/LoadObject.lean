import CrudScaffold.Proofs.Host.Importing
import CrudScaffold.Proofs.Text.Cutting

/-!
# The object an import path names

An import path is read as a module and a remainder (`Host.PathParts`): at its first colon, or,
when it has no colon, at its last dot; a path with neither has no module part. The module is
imported, and each dot-separated segment of the remainder is then read as an attribute in
turn (`Host.walk`).

Every way this can go wrong is reported as a reflection failure with its own message: a path
with an empty module part or remainder, a module that cannot be imported (whatever the
import's failure), and an attribute that is missing on the way. The one exception is a module
part that starts with a dot, which the import refuses as relative before any module is
looked for: that failure passes through as it is (`loadObject_outcomes`,
`loadObject_relative_path`).
-/

namespace CrudScaffold

open CrudScaffold.Text

namespace Host

/-- How an import path is read: `m:rest` at its first colon; without a colon, `m.rest` at its
last dot; with neither, the whole path is the remainder and the module part is empty. -/
inductive PathParts : String → String → String → Prop
  | colon {m rest : String} : ':' ∉ m.toList → PathParts (m ++ ":" ++ rest) m rest
  | dot {m rest : String} : ':' ∉ m.toList → ':' ∉ rest.toList → '.' ∉ rest.toList →
      PathParts (m ++ "." ++ rest) m rest
  | bare {path : String} : ':' ∉ path.toList → '.' ∉ path.toList → PathParts path "" path

/-- Every path is read in one of these ways. -/
theorem exists_pathParts (path : String) : ∃ m rest, PathParts path m rest := by
  by_cases hc : ':' ∈ path.toList
  · obtain ⟨xs, ys, hs, hx⟩ := exists_cut_first hc
    have hpath : path = String.ofList xs ++ ":" ++ String.ofList ys := by
      rw [String.ext_iff]
      simp [hs]
    rw [hpath]
    exact ⟨_, _, .colon (by simpa using hx)⟩
  · by_cases hd : '.' ∈ path.toList
    · obtain ⟨xs, ys, hs, hy⟩ := exists_cut_last hd
      have hpath : path = String.ofList xs ++ "." ++ String.ofList ys := by
        rw [String.ext_iff]
        simp [hs]
      rw [hs] at hc
      rw [hpath]
      exact ⟨_, _, .dot (by simp_all) (by simp_all) (by simpa using hy)⟩
    · exact ⟨_, _, .bare hc hd⟩

/-- The parts of a path are those the loader cuts it into. -/
theorem split_of_pathParts {path m rest : String} (hp : PathParts path m rest) :
    (if path.contains ':' then splitFirst ':' path else splitLast '.' path) = (m, rest) := by
  cases hp with
  | colon hm =>
    have hc : (m ++ ":" ++ rest).contains ':' = true := by simp
    rw [if_pos hc, splitFirst_join (by simp) hm]
  | dot hm hr hd =>
    have hc : (m ++ "." ++ rest).contains ':' = false := by simp [hm, hr]
    rw [if_neg (by simp [hc]), splitLast_join (by simp) hd]
  | bare hc hd =>
    rw [if_neg (by simpa using hc), splitLast_of_not_mem hd]

section Load

variable {h : Host} {path m rest : String}

/-- A path without a module part or a remainder is refused. -/
theorem loadObject_of_not_path (hp : PathParts path m rest) (he : m = "" ∨ rest = "") :
    h.loadObject path = .error (.reflection
      ("'" ++ path ++ "' is not an import path; expected 'package.module:Name'.")) := by
  have hempty : (m.isEmpty || rest.isEmpty) = true := by rcases he with rfl | rfl <;> simp
  simp only [loadObject, split_of_pathParts hp, hempty, if_true]
  rfl

theorem parts_isEmpty (hm : m ≠ "") (hr : rest ≠ "") : (m.isEmpty || rest.isEmpty) = false := by
  simp [hm, hr]

/-- A module part that starts with a dot is refused as relative, and the refusal passes
through. -/
theorem loadObject_of_relative (hp : PathParts path m rest) (hm : m ≠ "") (hr : rest ≠ "")
    (hs : m.startsWith "." = true) : h.loadObject path = .error (.relativeImport m) := by
  have hi : h.importModule m = .error (.relativeImport m) :=
    importModule_eq_error_iff.2 (.inl ⟨hs, rfl⟩)
  simp only [loadObject, split_of_pathParts hp, parts_isEmpty hm hr, Bool.false_eq_true,
    if_false, hi]
  rfl

/-- Any other failure to import the module part is reported as a reflection failure. -/
theorem loadObject_of_import_error (hp : PathParts path m rest) (hm : m ≠ "") (hr : rest ≠ "")
    (hs : m.startsWith "." = false) {e : Failure} (hi : h.importModule m = .error e) :
    h.loadObject path =
      .error (.reflection ("Cannot import module '" ++ m ++ "': " ++ e.message)) := by
  -- the import failed at a module of the chain, never as relative
  obtain ⟨-, _, _, _, -, -, hf⟩ := (importModule_eq_error_iff.1 hi).resolve_left (by simp [hs])
  simp only [loadObject, split_of_pathParts hp, parts_isEmpty hm hr, Bool.false_eq_true,
    if_false, hi]
  cases hf <;> rfl

/-- Once the module part is imported, loading is the walk along the attributes of the
remainder. -/
theorem loadObject_of_import_ok (hp : PathParts path m rest) (hm : m ≠ "") (hr : rest ≠ "")
    {h' : Host} (hi : h.importModule m = .ok h') :
    h.loadObject path = match h'.walk (.module m) (rest.splitOn ".") with
      | some o => .ok (o, h')
      | none => .error (.reflection ("Module '" ++ m ++ "' has no attribute '" ++ rest ++ "'.")) := by
  simp only [loadObject, split_of_pathParts hp, parts_isEmpty hm hr, Bool.false_eq_true,
    if_false, hi]
  rfl

/-- The object loaded is what the attributes of the remainder reach, read in turn. -/
theorem loadObject_of_walk (hp : PathParts path m rest) (hm : m ≠ "") (hr : rest ≠ "")
    {h' : Host} (hi : h.importModule m = .ok h') {o : Model}
    (hw : h'.walk (.module m) (rest.splitOn ".") = some o) : h.loadObject path = .ok (o, h') := by
  rw [loadObject_of_import_ok hp hm hr hi, hw]

/-- An attribute missing on the way is reported as a reflection failure. -/
theorem loadObject_of_missing_attribute (hp : PathParts path m rest) (hm : m ≠ "")
    (hr : rest ≠ "") {h' : Host} (hi : h.importModule m = .ok h')
    (hw : h'.walk (.module m) (rest.splitOn ".") = none) :
    h.loadObject path =
      .error (.reflection ("Module '" ++ m ++ "' has no attribute '" ++ rest ++ "'.")) := by
  rw [loadObject_of_import_ok hp hm hr hi, hw]

/-- What loading can do, once for all paths: refuse a path without both parts, pass the
refusal of a relative module part through, report a module that cannot be imported or a
missing attribute, or answer the object the attributes reach. -/
theorem loadObject_cases (hp : PathParts path m rest) :
    ((m = "" ∨ rest = "") ∧ h.loadObject path = .error (.reflection
      ("'" ++ path ++ "' is not an import path; expected 'package.module:Name'."))) ∨
    (m ≠ "" ∧ rest ≠ "" ∧ m.startsWith "." = true ∧
      h.loadObject path = .error (.relativeImport m)) ∨
    (m ≠ "" ∧ rest ≠ "" ∧ m.startsWith "." = false ∧ ∃ e, h.importModule m = .error e ∧
      h.loadObject path =
        .error (.reflection ("Cannot import module '" ++ m ++ "': " ++ e.message))) ∨
    (m ≠ "" ∧ rest ≠ "" ∧ ∃ h', h.importModule m = .ok h' ∧
      h'.walk (.module m) (rest.splitOn ".") = none ∧
      h.loadObject path =
        .error (.reflection ("Module '" ++ m ++ "' has no attribute '" ++ rest ++ "'."))) ∨
    (m ≠ "" ∧ rest ≠ "" ∧ ∃ h' o, h.importModule m = .ok h' ∧
      h'.walk (.module m) (rest.splitOn ".") = some o ∧ h.loadObject path = .ok (o, h')) := by
  by_cases hmr : m = "" ∨ rest = ""
  · exact .inl ⟨hmr, loadObject_of_not_path hp hmr⟩
  obtain ⟨hm, hr⟩ : m ≠ "" ∧ rest ≠ "" := not_or.1 hmr
  refine .inr ?_
  cases hs : m.startsWith "." with
  | true => exact .inl ⟨hm, hr, rfl, loadObject_of_relative hp hm hr hs⟩
  | false =>
    refine .inr ?_
    cases hi : h.importModule m with
    | error e => exact .inl ⟨hm, hr, rfl, e, rfl, loadObject_of_import_error hp hm hr hs hi⟩
    | ok h' =>
      refine .inr ?_
      cases hw : h'.walk (.module m) (rest.splitOn ".") with
      | none => exact .inl ⟨hm, hr, h', rfl, hw, loadObject_of_missing_attribute hp hm hr hi hw⟩
      | some o => exact .inr ⟨hm, hr, h', o, rfl, hw, loadObject_of_walk hp hm hr hi hw⟩

/-- Loading answers exactly the object the attributes of the remainder reach from the
imported module part. -/
theorem loadObject_eq_ok_iff (hp : PathParts path m rest) {o : Model} {h' : Host} :
    h.loadObject path = .ok (o, h') ↔
      m ≠ "" ∧ rest ≠ "" ∧ h.importModule m = .ok h' ∧
        h'.walk (.module m) (rest.splitOn ".") = some o := by
  constructor
  · intro hok
    rcases loadObject_cases (h := h) hp with ⟨-, he⟩ | ⟨-, -, -, he⟩ | ⟨-, -, -, _, -, he⟩ |
        ⟨-, -, _, -, -, he⟩ | ⟨hm, hr, h'', o', hi, hw, he⟩
    · rw [he] at hok; cases hok
    · rw [he] at hok; cases hok
    · rw [he] at hok; cases hok
    · rw [he] at hok; cases hok
    · rw [he] at hok
      cases hok
      exact ⟨hm, hr, hi, hw⟩
  · rintro ⟨hm, hr, hi, hw⟩
    exact loadObject_of_walk hp hm hr hi hw

/-- Loading fails only with a reflection failure, or with the refusal of a relative module
part. -/
theorem loadObject_error_kind (hp : PathParts path m rest) {e : Failure}
    (he : h.loadObject path = .error e) :
    (∃ msg, e = .reflection msg) ∨ (m.startsWith "." = true ∧ e = .relativeImport m) := by
  rcases loadObject_cases (h := h) hp with ⟨-, hl⟩ | ⟨-, -, hs, hl⟩ | ⟨-, -, -, _, -, hl⟩ |
      ⟨-, -, _, -, -, hl⟩ | ⟨-, -, _, _, -, -, hl⟩
  · rw [hl] at he; cases he; exact .inl ⟨_, rfl⟩
  · rw [hl] at he; cases he; exact .inr ⟨hs, rfl⟩
  · rw [hl] at he; cases he; exact .inl ⟨_, rfl⟩
  · rw [hl] at he; cases he; exact .inl ⟨_, rfl⟩
  · rw [hl] at he; cases he

end Load

end Host

/-- Loading a path, cut into a module and a remainder at its first colon or else its last dot,
answers exactly when both are non-empty, the module imports and the remainder's attributes
reach an object. Otherwise it fails with a reflection failure, but a module part that starts
with a dot is refused as a relative import. -/
theorem loadObject_outcomes (h : Host) (path : String) :
    ∃ m rest, Host.PathParts path m rest ∧
      (∀ o h', h.loadObject path = .ok (o, h') ↔
        m ≠ "" ∧ rest ≠ "" ∧ h.importModule m = .ok h' ∧
          h'.walk (.module m) (rest.splitOn ".") = some o) ∧
      (∀ e, h.loadObject path = .error e →
        (∃ msg, e = .reflection msg) ∨ (m.startsWith "." = true ∧ e = .relativeImport m)) ∧
      (m = "" ∨ rest = "" → h.loadObject path = .error (.reflection
        ("'" ++ path ++ "' is not an import path; expected 'package.module:Name'."))) ∧
      (m ≠ "" → rest ≠ "" → m.startsWith "." = false → ∀ e, h.importModule m = .error e →
        h.loadObject path =
          .error (.reflection ("Cannot import module '" ++ m ++ "': " ++ e.message))) ∧
      (m ≠ "" → rest ≠ "" → ∀ h', h.importModule m = .ok h' →
        h'.walk (.module m) (rest.splitOn ".") = none → h.loadObject path =
          .error (.reflection ("Module '" ++ m ++ "' has no attribute '" ++ rest ++ "'."))) ∧
      (m ≠ "" → rest ≠ "" → m.startsWith "." = true →
        h.loadObject path = .error (.relativeImport m)) := by
  obtain ⟨m, rest, hp⟩ := Host.exists_pathParts path
  exact ⟨m, rest, hp, fun _ _ => Host.loadObject_eq_ok_iff hp, fun _ => Host.loadObject_error_kind hp,
    Host.loadObject_of_not_path hp,
    fun hm hr hs _ hi => Host.loadObject_of_import_error hp hm hr hs hi,
    fun hm hr _ hi hw => Host.loadObject_of_missing_attribute hp hm hr hi hw,
    Host.loadObject_of_relative hp⟩

/-- A path whose module part starts with a dot is refused by the import as relative, and the
refusal, a type error, passes through instead of a reflection failure. -/
theorem loadObject_relative_path :
    ({ modules := [("fx.models", .objects [])] } : Host).loadObject ".fx.models:Post" =
      .error (.relativeImport ".fx.models") ∧
    (Failure.relativeImport ".fx.models").kindName = "TypeError" :=
  ⟨Host.loadObject_of_relative (@Host.PathParts.colon ".fx.models" "Post" (by decide))
    (by decide) (by decide) (by simp), rfl⟩

end CrudScaffold
