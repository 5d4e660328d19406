import ProseCheck.Dictionary.Basic
import ProseCheck.Json.Record

/-! # The dictionary as JSON -/

namespace ProseCheck

open Json

/-- An item; the rule is left out where there is none. -/
def DictionaryItem.toJson (item : DictionaryItem) : Json :=
  .ofFields ([("word", .string item.word), ("date", .string item.date.toStored)] ++
    item.ruleId.toList.map fun id => ("ruleId", .string id))

def DictionaryItem.ofSource? (s : Source) : Option DictionaryItem := do
  let r ← s.record? ["word", "date", "ruleId"]
  return {
    word := ← r.required? "word" (·.string?)
    date := ← r.required? "date" fun s => s.string?.bind Instant.parse?
    ruleId := ← r.defaulted? "ruleId" (·.orNull? (·.string?)) none }

def Dictionary.toJson (d : Dictionary) : Json := .array (d.items.map (·.toJson))

def Dictionary.ofSource? (s : Source) : Option Dictionary :=
  (s.list? DictionaryItem.ofSource?).map (⟨·⟩)

end ProseCheck
