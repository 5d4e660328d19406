import ProseCheck.Finding.Classification
import ProseCheck.Json.Record

/-! # Answers of LanguageTool

The service counts in UTF-16 code units. A match whose span is empty or does not lie in the text is
dropped.
-/

namespace ProseCheck.LanguageTool

open Json

structure Category where
  id : Option String
  name : Option String

structure AppliedRule where
  id : String
  description : Option String
  issueType : Option String
  category : Option Category

structure Match where
  message : String
  shortMessage : Option String
  offset : Int
  length : Int
  replacements : List String
  rule : Option AppliedRule

/-- More suggestions than these are left out. -/
def maxReplacements : Nat := 5

/-! ### Reading -/

def Category.ofSource? (s : Source) : Option Category := do
  let r ← s.record? ["id", "name"]
  return {
    id := ← r.defaulted? "id" (·.orNull? (·.string?)) none
    name := ← r.defaulted? "name" (·.orNull? (·.string?)) none }

def AppliedRule.ofSource? (s : Source) : Option AppliedRule := do
  let r ← s.record? ["id", "description", "issueType", "category"]
  return {
    id := ← r.required? "id" (·.string?)
    description := ← r.defaulted? "description" (·.orNull? (·.string?)) none
    issueType := ← r.defaulted? "issueType" (·.orNull? (·.string?)) none
    category := ← r.defaulted? "category" (·.orNull? Category.ofSource?) none }

def replacement? (s : Source) : Option String := do
  let r ← s.record? ["value"]
  r.required? "value" (·.string?)

/-- The context of a match has to be well formed, but nothing is taken from it. -/
def context? (s : Source) : Option Unit := do
  let r ← s.record? ["text", "offset", "length"]
  discard <| r.required? "text" (·.string?)
  discard <| r.required? "offset" (·.signed?)
  discard <| r.required? "length" (·.signed?)

def Match.ofSource? (s : Source) : Option Match := do
  let r ← s.record? ["message", "shortMessage", "offset", "length", "replacements", "context",
    "rule"]
  discard <| r.defaulted? "context" (·.orNull? context?) none
  return {
    message := ← r.required? "message" (·.string?)
    shortMessage := ← r.defaulted? "shortMessage" (·.orNull? (·.string?)) none
    offset := ← r.required? "offset" (·.signed?)
    length := ← r.required? "length" (·.signed?)
    replacements := ← r.defaulted? "replacements" (·.list? replacement?) []
    rule := ← r.defaulted? "rule" (·.orNull? AppliedRule.ofSource?) none }

def matches? (s : Source) : Option (List Match) := do
  let r ← s.record? ["matches"]
  r.defaulted? "matches" (·.list? Match.ofSource?) []

/-! ### Findings -/

def unknownRule : AppliedRule := ⟨"UNKNOWN", none, none, none⟩

def Match.span? (m : Match) (text : List Char) : Option Span := do
  guard (0 ≤ m.offset ∧ 0 ≤ m.length)
  let start ← Text.charOffset? text m.offset.toNat
  let end16 ← addOffset? m.offset.toNat m.length.toNat
  let finish ← Text.charOffset? text end16
  guard (start < finish)
  return ⟨start, finish⟩

def Match.finding? (m : Match) (text : List Char) : Option Finding := do
  let span ← m.span? text
  let rule := m.rule.getD unknownRule
  let categoryId := rule.category.bind (·.id)
  let (kind, severity) := classify categoryId rule.issueType none
  return {
    message := m.message
    shortMessage := m.shortMessage.filter (!·.isEmpty)
    offset := span.start
    length := span.length
    replacements := m.replacements.take maxReplacements
    rule :=
      { id := rule.id, description := rule.description, categoryId
        categoryName := rule.category.bind (·.name), issueType := rule.issueType }
    kind, severity
    provider := .languageTool }

def findings (ms : List Match) (text : List Char) : List Finding :=
  ms.filterMap (·.finding? text)

end ProseCheck.LanguageTool
