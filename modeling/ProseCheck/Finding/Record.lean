import ProseCheck.Finding.Problem
import ProseCheck.Json.Record

/-! # Findings and problems as JSON -/

namespace ProseCheck

open Json

def Provider.toJson (p : Provider) : Json := .string p.name

def Provider.ofSource? (s : Source) : Option Provider := s.choice?.bind ofName?

def Kind.toJson (k : Kind) : Json := .string k.name

def Kind.ofSource? (s : Source) : Option Kind :=
  s.choice?.bind fun name => all.find? (·.name == name)

def Severity.toJson (v : Severity) : Json := .string v.name

def Severity.ofSource? (s : Source) : Option Severity :=
  s.choice?.bind fun name => all.find? (·.name == name)

namespace Rule

def toJson (r : Rule) : Json :=
  .object
    [("id", .string r.id), ("description", ofOption .string r.description),
     ("category_id", ofOption .string r.categoryId),
     ("category_name", ofOption .string r.categoryName),
     ("issue_type", ofOption .string r.issueType)]

def ofSource? (s : Source) : Option Rule := do
  let r ← s.record? ["id", "description", "category_id", "category_name", "issue_type"]
  return {
    id := ← r.required? "id" (·.string?)
    description := ← r.optional? "description" (·.string?)
    categoryId := ← r.optional? "category_id" (·.string?)
    categoryName := ← r.optional? "category_name" (·.string?)
    issueType := ← r.optional? "issue_type" (·.string?) }

end Rule

namespace Finding

def fieldsBefore (f : Finding) : List (String × Json) :=
  [("message", .string f.message), ("short_message", ofOption .string f.shortMessage),
   ("offset", .ofNat f.offset), ("length", .ofNat f.length)]

def fieldsAfter (f : Finding) : List (String × Json) :=
  [("replacements", ofStrings f.replacements), ("rule", f.rule.toJson),
   ("error_type", f.kind.toJson), ("severity", f.severity.toJson),
   ("provider", f.provider.toJson)]

def toJson (f : Finding) : Json := .object (f.fieldsBefore ++ f.fieldsAfter)

def ofRecord? (r : Record) : Option Finding := do
  return {
    message := ← r.required? "message" (·.string?)
    shortMessage := ← r.optional? "short_message" (·.string?)
    offset := ← r.required? "offset" (·.offset?)
    length := ← r.required? "length" (·.offset?)
    replacements := ← r.required? "replacements" (·.list? (·.string?))
    rule := ← r.required? "rule" Rule.ofSource?
    kind := ← r.required? "error_type" Kind.ofSource?
    severity := ← r.required? "severity" Severity.ofSource?
    provider := ← r.required? "provider" Provider.ofSource? }

def ofSource? (s : Source) : Option Finding := do
  let r ← s.record? ["message", "short_message", "offset", "length", "replacements", "rule",
    "error_type", "severity", "provider"]
  ofRecord? r

end Finding

namespace Problem

def toJson (p : Problem) : Json :=
  .object (p.finding.fieldsBefore ++
    [("original_offset", .ofNat p.markdownOffset), ("original_length", .ofNat p.markdownLength)] ++
    p.finding.fieldsAfter)

def ofSource? (s : Source) : Option Problem := do
  let r ← s.record? ["message", "short_message", "offset", "length", "original_offset",
    "original_length", "replacements", "rule", "error_type", "severity", "provider"]
  return {
    finding := ← Finding.ofRecord? r
    markdownOffset := ← r.required? "original_offset" (·.offset?)
    markdownLength := ← r.required? "original_length" (·.offset?) }

end Problem
end ProseCheck
