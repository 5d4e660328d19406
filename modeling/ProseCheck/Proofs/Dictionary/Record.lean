import ProseCheck.Dictionary.Record
import ProseCheck.Proofs.Json.Record
import ProseCheck.Proofs.Time.Instant

/-! # Dictionaries that are stored

A dictionary is read back from what is stored of it, if its dates can be told. Whatever is read has
such dates.
-/

namespace ProseCheck

open Json

theorem DictionaryItem.ofSource?_toJson {item : DictionaryItem} (h : item.date.IsValid) :
    ofSource? item.toJson.toSource = some item := by
  obtain ⟨word, date, ruleId⟩ := item
  have hdate := Instant.parse?_toStored h
  have hknown : ∀ field ∈ [("word", Json.string word), ("date", .string date.toStored)] ++
      ruleId.toList.map fun id => ("ruleId", .string id), field.1 ∈ ["word", "date", "ruleId"] := by
    cases ruleId <;> simp
  rw [ofSource?, toJson, record?_ofFields hknown]
  cases ruleId with
  | none =>
    simp [Record.required?, Record.defaulted?, lookup_sources_inserted, Json.lookup_cons,
      string?_string, hdate]
  | some id =>
    simp [Record.required?, Record.defaulted?, lookup_sources_inserted, Json.lookup_cons,
      string?_string, hdate, orNull?_string]

theorem DictionaryItem.isValid_of_ofSource? {item : DictionaryItem} {s : Source}
    (h : ofSource? s = some item) : item.date.IsValid := by
  obtain ⟨r, -, h⟩ := Option.bind_eq_some_iff.mp h
  obtain ⟨word, -, h⟩ := Option.bind_eq_some_iff.mp h
  obtain ⟨date, hdate, h⟩ := Option.bind_eq_some_iff.mp h
  obtain ⟨ruleId, -, h⟩ := Option.bind_eq_some_iff.mp h
  cases h
  obtain ⟨source, -, hdate⟩ := Option.bind_eq_some_iff.mp hdate
  obtain ⟨text, -, hdate⟩ := Option.bind_eq_some_iff.mp hdate
  exact Instant.isValid_of_parse? hdate

namespace Dictionary

def Dated (d : Dictionary) : Prop := ∀ item ∈ d.items, item.date.IsValid

theorem ofSource?_toJson {d : Dictionary} (h : d.Dated) : ofSource? d.toJson.toSource = some d := by
  rw [ofSource?, toJson,
    list?_array fun item hitem => DictionaryItem.ofSource?_toJson (h item hitem)]
  rfl

theorem plain_toJson (depth : Nat) (d : Dictionary) : Plain (depth + 2) d.toJson := by
  refine plain_map fun item => plain_ofFields fun field hfield => ?_
  rcases List.mem_append.mp hfield with hfield | hfield
  · simp only [List.mem_cons, List.not_mem_nil, or_false] at hfield
    rcases hfield with rfl | rfl <;> exact plain_string _ _
  · obtain ⟨id, -, rfl⟩ := List.mem_map.mp hfield
    exact plain_string _ _

theorem dated_of_ofSource? {d : Dictionary} {s : Source} (h : ofSource? s = some d) : d.Dated := by
  obtain ⟨items, hitems, rfl⟩ := Option.map_eq_some_iff.mp h
  exact forall_of_list?_eq_some hitems fun _ _ => DictionaryItem.isValid_of_ofSource?

/-! ### Changes -/

theorem add_of_idle {d : Dictionary} {now : Instant} {word : String} {ruleId : Option String}
    (h : (d.add now word ruleId).1 = false) : (d.add now word ruleId).2 = d := by
  simp only [Dictionary.add] at h ⊢
  split at h
  · rename_i hidle
    rw [if_pos hidle]
  · cases h

theorem remove_of_idle {d : Dictionary} {word : String} {ruleId : Option String}
    (h : (d.remove word ruleId).1 = false) : (d.remove word ruleId).2 = d := by
  have hlength : (d.remove word ruleId).2.items.length = d.items.length := by
    simpa [Dictionary.remove] using h
  exact congrArg Dictionary.mk (List.Sublist.eq_of_length List.filter_sublist hlength)

theorem Dated.add {d : Dictionary} (h : d.Dated) {now : Instant} (hnow : now.IsValid)
    (word : String) (ruleId : Option String) : (d.add now word ruleId).2.Dated := by
  rw [Dictionary.add]
  split
  · exact h
  · exact List.forall_mem_append.mpr ⟨h, List.forall_mem_singleton.mpr hnow⟩

theorem Dated.remove {d : Dictionary} (h : d.Dated) (word : String) (ruleId : Option String) :
    (d.remove word ruleId).2.Dated :=
  fun item hitem => h item (List.mem_of_mem_filter hitem)

end Dictionary
end ProseCheck
