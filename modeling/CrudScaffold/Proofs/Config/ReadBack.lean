import CrudScaffold.Config.File
import CrudScaffold.Proofs.Config.Validity
import CrudScaffold.Proofs.Data.JsonReadBack

/-!
# Settings read back from files

Settings that checking a mapping gives satisfy the checks, and written out by their aliases
they are read back as they were (`Settings.check_dump`). The same holds of a JSON settings
file that holds the written-out mapping, bare or under the `ctrlgen` key
(`checked_settings_read_back`): the text of such a file is printable ASCII, so making its line
breaks uniform leaves it as it is; it reads back as the mapping, whose keys carry no `ctrlgen`
key; and the mapping reads back as the settings. What the file asks more of the settings is
what JSON text asks of any text: that no carried high surrogate stands right before a carried
low one. All of this holds under any readings of values that satisfy `Coercion.Lawful`, any
dump that satisfies `Settings.DumpsByAlias`, and any reader of YAML.
-/

namespace CrudScaffold.Config

open CrudScaffold.Data CrudScaffold.Data.Json CrudScaffold.Text

/-- The texts among the settings. -/
def Settings.texts (c : Settings) : List String :=
  [c.rootNamespace, c.request.webNamespace, c.request.apiNamespace, c.request.classSuffix,
   c.view.templates, c.view.extension, c.api.resourceNamespace, c.api.resourceSuffix,
   c.controller.sessionDependency]

/-! ## Line breaks -/

theorem uniformBreaks_go_of_no_cr : ∀ cs : List Char, '\r' ∉ cs → uniformBreaks.go cs = cs
  | [], _ => by rw [uniformBreaks.go.eq_4]
  | c :: cs, h => by
    have hc : c ≠ '\r' := fun hc => h (hc ▸ List.mem_cons_self)
    rw [uniformBreaks.go.eq_3 _ _ (fun _ h' _ => hc h') hc,
      uniformBreaks_go_of_no_cr cs (fun h' => h (List.mem_cons_of_mem c h'))]

/-- A printable text has no carriage return, so its line breaks are uniform already. -/
theorem uniformBreaks_of_printable {s : String} (h : ∀ c ∈ s.toList, isPrintableAscii c = true) :
    uniformBreaks s = s := by
  have hcr : '\r' ∉ s.toList := fun hr => by simpa [isPrintableAscii] using h _ hr
  rw [uniformBreaks, uniformBreaks_go_of_no_cr _ hcr, String.ofList_toList]

/-! ## Written-out settings are plain JSON -/

/-- A mapping holding settings under distinct keys is plain JSON when its keys and its values
are. -/
theorem plain_holdsFields {d : Nat} {fs : List (FieldName × Value)} {v : Value}
    (hv : HoldsFields fs v) (hd : d < maxNesting) (hnd : (fs.map (·.1.key)).Nodup)
    (hkeys : ∀ k ∈ fs.map (·.1.key), PairsApart k.toList)
    (hvals : ∀ e ∈ fs, Plain (d + 1) e.2) : Plain d v := by
  obtain ⟨es, rfl, hp⟩ := hv
  refine Plain.dict hd (fun e he => ?_) (nodup_keys_of_perm hnd hp) (fun e he => ?_)
  · obtain ⟨f, v, hf, rfl⟩ := exists_of_mem_perm hp he
    exact ⟨f.key, rfl, hkeys _ (List.mem_map_of_mem hf)⟩
  · obtain ⟨f, v, hf, rfl⟩ := exists_of_mem_perm hp he
    exact hvals _ hf

theorem plain_indentSize {d n : Nat} (hn : n ≤ 8) : Plain d (.int n) := by
  refine Plain.int ?_
  have hone : Nat.toDigits 10 ((n : Int).natAbs) = [Nat.digitChar n] := by
    rw [Int.natAbs_natCast]
    exact Nat.toDigits_of_lt_base (by omega)
  rw [hone, List.length_singleton]
  decide

section Dump

variable {dump : Settings → Value}

/-- Settings whose texts keep lone surrogates apart are written out as plain JSON. -/
theorem Settings.plain_dump (hdump : Settings.DumpsByAlias dump) {c : Settings} {d : Nat}
    (hd : d + 1 < maxNesting)
    (hindent : c.controller.indentSize ≤ 8) (htexts : ∀ t ∈ c.texts, PairsApart t.toList) :
    Plain d (dump c) := by
  obtain ⟨request, view, api, controller, hreq, hview, hapi, hctl, htop⟩ := hdump c
  have hstr : ∀ {d'} t, t ∈ c.texts → Plain d' (.str t) := fun t ht => Plain.str (htexts t ht)
  refine plain_holdsFields htop (by omega) (by rw [keys_topFields]; simp)
    (by rw [keys_topFields]; decide) ?_
  simp only [Settings.topFields, List.mem_cons, List.not_mem_nil, or_false]
  rintro e (rfl | rfl | rfl | rfl | rfl)
  · exact hstr _ (by simp [texts])
  · refine plain_holdsFields hreq hd (by rw [RequestSettings.keys_fields]; simp)
      (by rw [RequestSettings.keys_fields]; decide) ?_
    simp only [RequestSettings.fields, List.mem_cons, List.not_mem_nil, or_false]
    rintro e (rfl | rfl | rfl) <;> exact hstr _ (by simp [texts])
  · refine plain_holdsFields hview hd (by rw [ViewSettings.keys_fields]; simp)
      (by rw [ViewSettings.keys_fields]; decide) ?_
    simp only [ViewSettings.fields, List.mem_cons, List.not_mem_nil, or_false]
    rintro e (rfl | rfl) <;> exact hstr _ (by simp [texts])
  · refine plain_holdsFields hapi hd (by rw [ApiSettings.keys_fields]; simp)
      (by rw [ApiSettings.keys_fields]; decide) ?_
    simp only [ApiSettings.fields, List.mem_cons, List.not_mem_nil, or_false]
    rintro e (rfl | rfl) <;> exact hstr _ (by simp [texts])
  · refine plain_holdsFields hctl hd (by rw [ControllerSettings.keys_fields]; simp)
      (by rw [ControllerSettings.keys_fields]; decide) ?_
    simp only [ControllerSettings.fields, List.mem_cons, List.not_mem_nil, or_false]
    rintro e (rfl | rfl | rfl)
    · exact hstr _ (by simp [texts])
    · exact Plain.bool _
    · exact plain_indentSize hindent

/-- Written-out settings hold no `ctrlgen` key, so a file holding them is taken whole. -/
theorem settingsMapping_dump (hdump : Settings.DumpsByAlias dump) (path : String) (c : Settings) :
    settingsMapping path (dump c) = .ok (dump c) := by
  obtain ⟨request, view, api, controller, -, -, -, -, es, hes, hp⟩ := hdump c
  have hnone : Value.lookupText es "ctrlgen" = none := by
    rw [lookupText_of_perm (by rw [Settings.keys_topFields]; simp) hp]
    simp [Settings.topFields, keyedEntries, lookupText_cons_str, Settings.rootNamespaceField,
      Settings.requestField, Settings.viewField, Settings.apiField, Settings.controllerField,
      FieldName.key]
    rfl
  rw [hes, settingsMapping, hnone]

/-- Written-out settings under the `ctrlgen` key are taken in place of the whole file. -/
theorem settingsMapping_ctrlgen_dump (hdump : Settings.DumpsByAlias dump) (path : String)
    (c : Settings) :
    settingsMapping path (.dict [(.str "ctrlgen", dump c)]) = .ok (dump c) := by
  obtain ⟨request, view, api, controller, -, -, -, -, es, hes, -⟩ := hdump c
  rw [hes, settingsMapping, lookupText_cons_str, if_pos rfl]

end Dump

/-! ## Reading a settings file -/

/-- A JSON settings file is read as the settings of the mapping it holds. -/
theorem Settings.load_json {co : Coercion} {yaml : String → Except Yaml.Fault Value}
    {path text : String} {v m : Value} {c : Settings} (hpath : formatOfPath path = .json)
    (hparse : Json.parse (uniformBreaks text) = .ok v) (hmap : settingsMapping path v = .ok m)
    (hc : Settings.check co m = .ok c) : Settings.load co yaml path (some text) = .ok c := by
  have htext : parseSettingsText yaml path (uniformBreaks text) = .ok v := by
    simp [parseSettingsText, hpath, hparse]
  simp [Settings.load, htext, bind, Except.bind, hmap, hc]
  rfl

/-! ## Checked settings are read back -/

/-- Settings that checking a mapping gives are valid and read back from their dump, and from a
JSON file holding it, bare or under `ctrlgen`, when no carried high surrogate in their texts
stands right before a carried low one. -/
theorem checked_settings_read_back {co : Coercion} (hco : co.Lawful) {dump : Settings → Value}
    (hdump : Settings.DumpsByAlias dump) (yaml : String → Except Yaml.Fault Value)
    {data : Value} {c : Settings} (h : Settings.check co data = .ok c) :
    c.Valid ∧ Settings.check co (dump c) = .ok c ∧
      ∀ path, formatOfPath path = .json → (∀ t ∈ c.texts, PairsApart t.toList) →
        Settings.load co yaml path (some (render (dump c))) = .ok c ∧
        Settings.load co yaml path (some (render (.dict [(.str "ctrlgen", dump c)]))) = .ok c := by
  have hvalid := Settings.check_valid h
  have hdumped := Settings.check_dump hco hdump hvalid
  refine ⟨hvalid, hdumped, fun path hpath htexts => ⟨?_, ?_⟩⟩
  · -- the file holds the mapping itself
    have hplain : Plain 0 (dump c) :=
      Settings.plain_dump hdump (by decide) hvalid.indentSize.2 htexts
    refine Settings.load_json hpath ?_ (settingsMapping_dump hdump path c) hdumped
    rw [uniformBreaks_of_printable (render_printable hplain), parse_render hplain]
  · -- the file holds the mapping under `ctrlgen`
    have hplain : Plain 0 (.dict [(.str "ctrlgen", dump c)]) := by
      refine Plain.dict (by decide) (fun e he => ?_) (by simp) (fun e he => ?_)
      · rw [List.mem_singleton] at he
        exact ⟨"ctrlgen", by rw [he], by decide⟩
      · rw [List.mem_singleton] at he
        rw [he]
        exact Settings.plain_dump hdump (by decide) hvalid.indentSize.2 htexts
    refine Settings.load_json hpath ?_ (settingsMapping_ctrlgen_dump hdump path c) hdumped
    rw [uniformBreaks_of_printable (render_printable hplain), parse_render hplain]

/-- A mapping that spells the root namespace and the class suffix by their aliases and the API
namespace by its name, gives the indent size and the docstring flag as texts, and the template
extension without its dot. -/
def shopMapping : Value :=
  .dict [(.str "rootNamespace", .str "shop"),
    (.str "request", .dict [(.str "api_namespace", .str "shop.api"),
      (.str "classSuffix", .str "Req")]),
    (.str "view", .dict [(.str "extension", .str "jinja")]),
    (.str "controller", .dict [(.str "indentSize", .str "2"),
      (.str "generateDocstrings", .str "off")])]

/-- The settings `shopMapping` spells. -/
def shopSettings : Settings :=
  { rootNamespace := "shop", request := { apiNamespace := "shop.api", classSuffix := "Req" },
    view := { extension := ".jinja" }, controller := { docstrings := false, indentSize := 2 } }

theorem shop_settings_read_back :
    Coercion.lax.Lawful ∧ Settings.DumpsByAlias Settings.dump ∧
      Settings.ofValue shopMapping = .ok shopSettings ∧
      (shopSettings.Valid ∧ Settings.ofValue shopSettings.dump = .ok shopSettings ∧
        ∀ path, formatOfPath path = .json →
          (∀ t ∈ shopSettings.texts, PairsApart t.toList) →
          Settings.ofFile path (some (render shopSettings.dump)) = .ok shopSettings ∧
          Settings.ofFile path (some (render (.dict [(.str "ctrlgen", shopSettings.dump)]))) =
            .ok shopSettings) := by
  have hshop : Settings.ofValue shopMapping = .ok shopSettings := rfl
  exact ⟨Coercion.lax_lawful, Settings.dump_byAlias, hshop,
    checked_settings_read_back Coercion.lax_lawful Settings.dump_byAlias Yaml.parse? hshop⟩

end CrudScaffold.Config
