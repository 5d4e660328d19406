import ProseCheck.Preferences.Record
import ProseCheck.Proofs.Json.Record

/-! # Preferences that are stored

Preferences are read back from what is stored of them, and what is stored can be kept and printed.
-/

namespace ProseCheck

open Json

theorem Provider.ofSource?_toJson (p : Provider) : ofSource? p.toJson.toSource = some p := by
  cases p <;> rfl

theorem CheckLevel.ofSource?_toJson (l : CheckLevel) : ofSource? l.toJson.toSource = some l := by
  cases l <;> rfl

theorem GrazieService.ofSource?_toJson (v : GrazieService) :
    ofSource? v.toJson.toSource = some v := by
  cases v <;> rfl

theorem LanguageToolPreferences.ofSource?_toJson (p : LanguageToolPreferences) :
    ofSource? p.toJson.toSource = some p := by
  rw [ofSource?, toJson, record?_ofFields (by simp)]
  simp [Record.defaulted?, lookup_sources_inserted, Json.lookup_cons, string?_string,
    list?_ofStrings, orNull?_ofOption_string, CheckLevel.ofSource?_toJson]

theorem GraziePreferences.ofSource?_toJson (p : GraziePreferences) :
    ofSource? p.toJson.toSource = some p := by
  have hservices : (Json.array (p.services.map (·.toJson))).toSource.list?
      GrazieService.ofSource? = some p.services :=
    list?_array fun v _ => GrazieService.ofSource?_toJson v
  rw [ofSource?, toJson, record?_ofFields (by simp)]
  simp [Record.defaulted?, lookup_sources_inserted, Json.lookup_cons, string?_string, hservices,
    orNull?_ofOption_string]

theorem Preferences.ofSource?_toJson (p : Preferences) : ofSource? p.toJson.toSource = some p := by
  rw [ofSource?, toJson, record?_ofFields (by simp)]
  simp [Record.defaulted?, lookup_sources_inserted, Json.lookup_cons, Provider.ofSource?_toJson,
    LanguageToolPreferences.ofSource?_toJson, GraziePreferences.ofSource?_toJson]

/-! ### What is stored -/

theorem LanguageToolPreferences.plain_toJson (depth : Nat) (p : LanguageToolPreferences) :
    Plain (depth + 2) p.toJson := by
  have hstrings (items : List String) : Plain (depth + 1) (ofStrings items) :=
    plain_map (plain_string depth)
  refine plain_ofFields ?_
  simp only [List.forall_mem_cons]
  exact ⟨plain_string _ _, plain_string _ _, hstrings _, plain_ofOption_string _ _, hstrings _,
    plain_string _ _, plain_ofOption_string _ _, plain_ofOption_string _ _,
    List.forall_mem_nil _⟩

theorem GraziePreferences.plain_toJson (depth : Nat) (p : GraziePreferences) :
    Plain (depth + 2) p.toJson := by
  have hservices : Plain (depth + 1) (.array (p.services.map (·.toJson))) :=
    plain_map fun v => plain_string depth v.name
  refine plain_ofFields ?_
  simp only [List.forall_mem_cons]
  exact ⟨plain_string _ _, hservices, plain_string _ _, plain_ofOption_string _ _,
    List.forall_mem_nil _⟩

theorem Preferences.plain_toJson (depth : Nat) (p : Preferences) : Plain (depth + 3) p.toJson := by
  refine plain_ofFields ?_
  simp only [List.forall_mem_cons]
  exact ⟨plain_string _ _, p.languageTool.plain_toJson depth, p.grazie.plain_toJson depth,
    List.forall_mem_nil _⟩

end ProseCheck
