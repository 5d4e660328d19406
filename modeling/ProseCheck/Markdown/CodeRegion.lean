import ProseCheck.Text.Offset
import ProseCheck.Markdown.Backtick

/-! # Code regions

The fenced blocks and inline code spans of a document, with their delimiters. A fence that is not
closed runs to the end of the text.
-/

namespace ProseCheck.Markdown

/-- The code regions of a text that starts at `offset`, inside the fence opened at `fence` if there
is one. Nothing new is looked for from the first position on that `past` holds of. -/
def regionsFrom (past : Nat → Bool) (offset : Nat) (fence : Option Nat) : List Char → List Span
  | [] => fence.toList.map (⟨·, offset⟩)
  | c :: cs =>
    if past offset then fence.toList.map (⟨·, offset + cs.length + 1⟩)
    else if startsFence (c :: cs) then
      match fence with
      | some start =>
        ⟨start, offset + fenceLength⟩ ::
          regionsFrom past (offset + fenceLength) none (cs.drop (fenceLength - 1))
      | none => regionsFrom past (offset + fenceLength) (some offset) (cs.drop (fenceLength - 1))
    else if fence.isSome then regionsFrom past (offset + 1) fence cs
    else if c = backtick then
      match codeSpan? (c :: cs) with
      | some n => ⟨offset, offset + n⟩ :: regionsFrom past (offset + n) none (cs.drop (n - 1))
      | none =>
        let n := runLength (c :: cs)
        regionsFrom past (offset + n) none (cs.drop (n - 1))
    else regionsFrom past (offset + 1) none cs
termination_by text => text.length

/-- The code regions of a document, in order. -/
def codeRegions (markdown : List Char) : List Span :=
  regionsFrom (fun _ => false) 0 none markdown

/-- Whether a position lies in code, found without reading on past it. -/
def insideCode (position : Nat) (markdown : List Char) : Bool :=
  (regionsFrom (position < ·) 0 none markdown).any (·.contains position)

end ProseCheck.Markdown
