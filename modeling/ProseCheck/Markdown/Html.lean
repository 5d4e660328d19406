/-! # HTML tags and comments

A tag stays on its line and ends at the first `>`; another `<` before it means there is no tag. A
comment may run over lines.
-/

namespace ProseCheck.Markdown

/-- The length of the text up to the end of the first `-->`. -/
def commentEnd? : List Char → Option Nat
  | [] => none
  | '-' :: '-' :: '>' :: _ => some 3
  | _ :: cs => (commentEnd? cs).map (· + 1)

def tagEnd? : List Char → Option Nat
  | [] => none
  | c :: cs =>
    if c = '>' then some 1
    else if c = '\n' ∨ c = '<' then none
    else (tagEnd? cs).map (· + 1)

def html? : List Char → Option Nat
  | '<' :: '!' :: '-' :: '-' :: rest => (commentEnd? rest).map (4 + ·)
  | '<' :: c :: rest => if c = '/' ∨ c.isAlpha then (tagEnd? rest).map (2 + ·) else none
  | _ => none

end ProseCheck.Markdown
