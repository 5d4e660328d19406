import ProseCheck.Markdown.Backtick

/-! # Links

An inline link `[text](url)`. Brackets nest in the text, except inside code spans, and parentheses
nest in the url. The text may go on in the next line but not across a blank one; the url stays on
its line.
-/

namespace ProseCheck.Markdown

/-- Where the parts of a link are. -/
structure LinkTarget where
  /-- The bracket that closes the text. -/
  closeBracket : Nat
  urlStart : Nat
  /-- Just past the parenthesis that closes the url. -/
  finish : Nat
  deriving DecidableEq, Repr

def LinkTarget.shift (t : LinkTarget) (delta : Nat) : LinkTarget :=
  ⟨t.closeBracket + delta, t.urlStart + delta, t.finish + delta⟩

/-- Where the bracket is that closes `depth` open ones. -/
def closeBracket? (depth : Nat) : List Char → Option Nat
  | [] => none
  | c :: cs =>
    if c = backtick then
      let n := codeLength (c :: cs)
      (closeBracket? depth (cs.drop (n - 1))).map (n + ·)
    else if c = '[' then (closeBracket? (depth + 1) cs).map (· + 1)
    else if c = ']' then
      if depth ≤ 1 then some 0 else (closeBracket? (depth - 1) cs).map (· + 1)
    else if c = '\n' ∧ cs.head? = some '\n' then none
    else (closeBracket? depth cs).map (· + 1)
termination_by text => text.length

/-- Where the url ends, just past its closing parenthesis, when `depth` parentheses of its own are
open. -/
def urlEnd? (depth : Nat) : List Char → Option Nat
  | [] => none
  | c :: cs =>
    if c = ')' then
      if depth = 0 then some 1 else (urlEnd? (depth - 1) cs).map (· + 1)
    else if c = '\n' then none
    else (urlEnd? (if c = '(' then depth + 1 else depth) cs).map (· + 1)

/-- The link that a text starts with, its parts counted from the opening bracket. -/
def linkTarget? (text : List Char) : Option LinkTarget := do
  let close ← closeBracket? 0 text
  match text.drop (close + 1) with
  | '(' :: url =>
    let length ← urlEnd? 0 url
    return ⟨close, close + 2, close + 2 + length⟩
  | _ => none

end ProseCheck.Markdown
