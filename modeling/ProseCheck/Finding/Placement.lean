import ProseCheck.Dictionary.Basic
import ProseCheck.Finding.Problem
import ProseCheck.Markdown.CodeRegion
import ProseCheck.Markdown.Stripped

/-! # Placement

Findings in stripped text become problems in the markdown it comes from. A finding that has no
sensible place there is dropped and never moved.
-/

namespace ProseCheck

open Markdown

/-- Why a finding is dropped. -/
inductive DropReason where
  | empty
  | outOfRange
  | inDictionary
  | overPlaceholder
  /-- Its place is not in the markdown. -/
  | noPlace
  | insideCode
  deriving DecidableEq, Repr

/-- The place of a finding in the markdown. -/
def Finding.place (d : Stripped) (dictionary : Dictionary) (code : List Span) (f : Finding) :
    Except DropReason Span := do
  if f.length = 0 then throw .empty
  let some finish := addOffset? f.offset f.length | throw .outOfRange
  let some covered := Text.slice? d.text ⟨f.offset, finish⟩ | throw .outOfRange
  if dictionary.contains (String.ofList covered) (some f.rule.id) then throw .inDictionary
  if covered.contains placeholder then throw .overPlaceholder
  let some span := d.positions.toMarkdownSpan? f.offset f.length | throw .noPlace
  if d.markdown.length < span.finish then throw .noPlace
  if code.any (·.contains span.start) then throw .insideCode
  return span

def Finding.problem? (d : Stripped) (dictionary : Dictionary) (code : List Span) (f : Finding) :
    Option Problem :=
  match f.place d dictionary code with
  | .ok span => some ⟨f, span.start, span.length⟩
  | .error _ => none

/-- The problems of a document in the order of their places. -/
def problems (d : Stripped) (dictionary : Dictionary) (findings : List Finding) : List Problem :=
  (findings.filterMap (·.problem? d dictionary (codeRegions d.markdown))).mergeSort
    Problem.precedes

end ProseCheck
