import ProseCheck.Finding.Classification
import ProseCheck.Json.Record
import ProseCheck.Text.Segment

/-! # Answers of Grazie

The service answers sentence by sentence and counts in UTF-16 code units of the sentence. An answer
for another sentence than the one sent is skipped. A fix changes parts of the highlighted stretch.
-/

namespace ProseCheck.Grazie

open Json

structure Span16 where
  start : Int
  finish : Int
  deriving DecidableEq, Repr

/-- A part of a fix: new text for a stretch, or a description of the text around it. -/
structure FixPart where
  kind : Option String
  span : Option Span16
  text : Option String
  deriving DecidableEq, Repr

structure Fix where
  parts : List FixPart
  deriving DecidableEq, Repr

structure ReportedProblem where
  id : String
  category : Option String
  service : Option String
  displayName : Option String
  /-- None as well where a level has no known name. -/
  confidence : Option Confidence
  message : Option String
  highlight : Span16
  fixes : List Fix

/-- What the service says about one sentence. -/
structure CheckedSentence where
  sentence : String
  problems : List ReportedProblem

/-! ### Reading -/

def Span16.ofSource? (s : Source) : Option Span16 := do
  let r ← s.record? ["start", "endExclusive"]
  return ⟨← r.required? "start" (·.signed?), ← r.required? "endExclusive" (·.signed?)⟩

def FixPart.ofSource? (s : Source) : Option FixPart := do
  let r ← s.record? ["type", "range", "text"]
  return {
    kind := ← r.defaulted? "type" (·.orNull? (·.string?)) none
    span := ← r.defaulted? "range" (·.orNull? Span16.ofSource?) none
    text := ← r.defaulted? "text" (·.orNull? (·.string?)) none }

def Fix.ofSource? (s : Source) : Option Fix := do
  let r ← s.record? ["parts"]
  return ⟨← r.defaulted? "parts" (·.list? FixPart.ofSource?) []⟩

def confidence? : Source → Option (Option Confidence)
  | .string (some level) => some (Confidence.ofLevel? level)
  | .number (some (.int n)) => some (some (.score (Float.ofInt n)))
  | .number (some (.float x)) => some (some (.score x))
  | _ => none

def highlight? (s : Source) : Option Span16 := do
  let r ← s.record? ["always"]
  r.required? "always" Span16.ofSource?

def ReportedProblem.ofSource? (s : Source) : Option ReportedProblem := do
  let r ← s.record? ["info", "highlighting", "fixes"]
  let info ← r.required? "info"
    (·.record? ["id", "category", "service", "displayName", "confidence", "message"])
  return {
    id := ← info.required? "id" (·.string?)
    category := ← info.defaulted? "category" (·.orNull? (·.string?)) none
    service := ← info.defaulted? "service" (·.orNull? (·.string?)) none
    displayName := ← info.defaulted? "displayName" (·.orNull? (·.string?)) none
    confidence := (← info.defaulted? "confidence" (·.orNull? confidence?) none).join
    message := ← info.defaulted? "message" (·.orNull? (·.string?)) none
    highlight := ← r.required? "highlighting" highlight?
    fixes := ← r.defaulted? "fixes" (·.list? Fix.ofSource?) [] }

def CheckedSentence.ofSource? (s : Source) : Option CheckedSentence := do
  let r ← s.record? ["sentence", "problems"]
  return {
    sentence := ← r.required? "sentence" (·.string?)
    problems := ← r.defaulted? "problems" (·.list? ReportedProblem.ofSource?) [] }

/-- The sentences of an answer, which is a list or an object that holds one. All of it has to be
a value, whatever is taken from it. -/
def sentences? (s : Source) : Option (List CheckedSentence) := do
  discard s.keep?
  match s with
  | .array _ => s.list? CheckedSentence.ofSource?
  | .object _ =>
    let r ← s.record? ["corrections"]
    r.required? "corrections" (·.list? CheckedSentence.ofSource?)
  | _ => none

/-! ### Fixes -/

/-- New text for a stretch of characters. -/
structure Change where
  span : Span
  text : List Char
  deriving DecidableEq, Repr

def Span16.chars? (s : Span16) (sentence : List Char) : Option Span := do
  guard (0 ≤ s.start ∧ 0 ≤ s.finish)
  let start ← Text.charOffset? sentence s.start.toNat
  let finish ← Text.charOffset? sentence s.finish.toNat
  guard (start ≤ finish)
  return ⟨start, finish⟩

/-- The stretch and the new text of a part that has both and is more than a description. -/
def FixPart.edit? (p : FixPart) : Option (Span16 × String) :=
  if p.kind = some "Context" then none
  else
    match p.span, p.text with
    | some span, some text => some (span, text)
    | _, _ => none

def Fix.changes? (f : Fix) (sentence : List Char) : Option (List Change) :=
  (f.parts.filterMap (·.edit?)).mapM fun (span, text) =>
    (span.chars? sentence).map (⟨·, text.toList⟩)

/-- Whether changes follow each other without overlap from `start` on, up to `finish`. -/
def fits (finish : Nat) : Nat → List Change → Bool
  | _, [] => true
  | start, c :: rest =>
    start ≤ c.span.start && c.span.finish ≤ finish && fits finish c.span.finish rest

def Change.apply (start : Nat) (c : Change) (text : List Char) : List Char :=
  text.take (c.span.start - start) ++ c.text ++ text.drop (c.span.finish - start)

/-- The new text for the highlighted stretch, with all changes of a fix made, the last one
first. -/
def Fix.replacement? (f : Fix) (sentence : List Char) (highlight : Span) : Option (List Char) := do
  let changes ← f.changes? sentence
  guard (!changes.isEmpty)
  let sorted := changes.mergeSort (fun c d => c.span.start ≤ d.span.start)
  guard (fits highlight.finish highlight.start sorted)
  let text := (sentence.drop highlight.start).take highlight.length
  return sorted.foldr (·.apply highlight.start) text

/-! ### Findings -/

/-- Each item once, where it stands first. -/
def distinct (items : List String) : List String :=
  items.foldl (fun seen item => if seen.contains item then seen else seen ++ [item]) []

def ReportedProblem.finding? (p : ReportedProblem) (sentence : Text.Segment) : Option Finding := do
  let highlight ← p.highlight.chars? sentence.text
  guard (highlight.start < highlight.finish)
  let fixed := p.fixes.filterMap (·.replacement? sentence.text highlight)
  let (kind, severity) := classify p.category p.service p.confidence
  return {
    message := (p.message.or p.displayName).getD "Possible problem found."
    shortMessage := p.displayName
    offset := sentence.start + highlight.start
    length := highlight.length
    replacements := distinct (fixed.map String.ofList)
    rule :=
      { id := p.id, description := p.displayName, categoryId := p.category
        categoryName := p.category, issueType := p.service }
    kind, severity
    provider := .grazie }

def findings (answer : List CheckedSentence) (sent : List Text.Segment) : List Finding :=
  (sent.zip answer).flatMap fun (sentence, checked) =>
    if checked.sentence.toList = sentence.text then
      checked.problems.filterMap (·.finding? sentence)
    else []

end ProseCheck.Grazie
