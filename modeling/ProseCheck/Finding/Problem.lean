import ProseCheck.Finding.Basic

/-! # Problems

A finding with its place in the markdown it comes from, which is where a replacement goes.
-/

namespace ProseCheck

structure Problem where
  finding : Finding
  markdownOffset : Nat
  markdownLength : Nat
  deriving DecidableEq, Repr, Inhabited

/-- Why a replacement cannot be made. -/
inductive ReplacementError where
  | noSuchReplacement (index available : Nat)
  | outOfBounds (span : Span) (length : Nat)
  deriving DecidableEq, Repr

def ReplacementError.message : ReplacementError → String
  | noSuchReplacement index available => s!"no replacement at index {index} ({available} available)"
  | outOfBounds span length =>
    s!"error range {span.start}..{span.finish} is outside the text ({length} chars)"

namespace Problem

/-- The place of the problem. The end of one that is read from outside need not be an offset. -/
def markdownSpan (p : Problem) : Span :=
  ⟨p.markdownOffset, p.markdownOffset + p.markdownLength⟩

/-- Earlier problems first, and of those that start together the shorter first. -/
def precedes (p q : Problem) : Bool :=
  p.markdownOffset < q.markdownOffset ||
    (p.markdownOffset == q.markdownOffset && p.markdownLength ≤ q.markdownLength)

/-- The markdown with `replacement` in the place of the problem. Nothing comes of a place whose end
is no offset, for the sum goes wrong. -/
def replaceWith? (p : Problem) (markdown replacement : List Char) :
    Option (Except ReplacementError (List Char)) :=
  let span := p.markdownSpan
  if maxOffset < span.finish then none
  else if span.start ≤ markdown.length ∧ span.finish ≤ markdown.length then
    some (.ok (markdown.take span.start ++ replacement ++ markdown.drop span.finish))
  else some (.error (.outOfBounds span markdown.length))

def applyReplacement? (p : Problem) (markdown : List Char) (index : Nat) :
    Option (Except ReplacementError (List Char)) :=
  match p.finding.replacements[index]? with
  | some replacement => p.replaceWith? markdown replacement.toList
  | none => some (.error (.noSuchReplacement index p.finding.replacements.length))

end Problem
end ProseCheck
