import ProseCheck.Text.Alphanumeric
import ProseCheck.Markdown.Html
import ProseCheck.Markdown.Link
import ProseCheck.Markdown.PositionMap

/-! # Stripped documents

The prose of a markdown document: code, markers, tags and the targets of links are dropped, and of
an image two placeholders are left. Each kept character remembers where it came from.

A document is read construct by construct. What stands at a position depends on the text from there
on, on the character before, on whether a fence is open and on the link being read.
-/

namespace ProseCheck.Markdown

/-- Stands for an image. -/
def placeholder : Char := '\u2042'

/-- A character of the stripped text and the position it came from. -/
structure Kept where
  char : Char
  origin : Nat
  deriving DecidableEq, Repr

inductive Construct where
  /-- The three backticks that open or close a fenced block. -/
  | fence
  /-- One character inside a fenced block. -/
  | fenced
  | code (length : Nat)
  /-- Backticks that close nowhere. -/
  | backticks (length : Nat)
  | image (target : LinkTarget)
  /-- The opening bracket of a link. -/
  | linkStart (target : LinkTarget)
  /-- The closing bracket of a link, with its url. -/
  | linkEnd (length : Nat)
  | marker
  | html (length : Nat)
  | plain
  deriving DecidableEq, Repr

namespace Construct

/-- How many characters a construct takes up. -/
def width : Construct → Nat
  | fence => fenceLength
  | image target => target.finish + 1
  | code n | backticks n | linkEnd n | html n => n
  | fenced | linkStart _ | marker | plain => 1

/-- What is kept of a construct that starts at `offset` with `c`. -/
def kept (offset : Nat) (c : Char) : Construct → List Kept
  | backticks n => (List.range n).map fun k => ⟨backtick, offset + k⟩
  | image target => [⟨placeholder, offset⟩, ⟨placeholder, offset + 1 + target.urlStart⟩]
  | plain => [⟨c, offset⟩]
  | fence | fenced | code _ | linkStart _ | linkEnd _ | marker | html _ => []

end Construct

/-- Where the reading of a document is. -/
structure Cursor where
  offset : Nat
  /-- The character before. -/
  before : Option Char
  fenced : Bool
  /-- The last link that was entered; it is over once its closing bracket is behind. -/
  link : Option LinkTarget
  deriving DecidableEq, Repr

/-- A marker next to such a character is taken for emphasis. -/
def touchesWord (c : Char) : Bool := c == '*' || c == '_' || Text.isAlphanumeric c

namespace Cursor

def atStart : Cursor := ⟨0, none, false, none⟩

/-- The construct that starts with `c` and goes on into `cs`. -/
def construct (cur : Cursor) (c : Char) (cs : List Char) : Construct :=
  let link := cur.link.filter (cur.offset ≤ ·.closeBracket)
  if startsFence (c :: cs) then .fence
  else if cur.fenced then .fenced
  else if c = backtick then
    match codeSpan? (c :: cs) with
    | some n => .code n
    | none => .backticks (runLength (c :: cs))
  else match link.filter (cur.offset = ·.closeBracket) with
  | some target => .linkEnd (target.finish - cur.offset)
  | none =>
    match if c = '!' ∧ cs.head? = some '[' then linkTarget? cs else none with
    | some target => .image target
    | none =>
      match if c = '[' ∧ link.isNone then linkTarget? (c :: cs) else none with
      | some target => .linkStart target
      | none =>
        if (c = '*' ∨ c = '_') ∧ (cur.before.any touchesWord ∨ cs.head?.any touchesWord) then
          .marker
        else match html? (c :: cs) with
        | some n => .html n
        | none => .plain

def after (cur : Cursor) (k : Construct) (text : List Char) : Cursor where
  offset := cur.offset + k.width
  before := text[k.width - 1]?
  fenced := if k = .fence then !cur.fenced else cur.fenced
  link :=
    match k with
    | .linkStart target => some (target.shift cur.offset)
    | _ => cur.link

/-- What is kept of a text that is read from a cursor on. -/
def read (cur : Cursor) : List Char → List Kept
  | [] => []
  | c :: cs =>
    let k := cur.construct c cs
    k.kept cur.offset c ++ read (cur.after k (c :: cs)) (cs.drop (k.width - 1))
termination_by text => text.length

end Cursor

/-- A markdown document and what is kept of it. -/
structure Stripped where
  markdown : List Char
  kept : List Kept
  deriving DecidableEq, Repr

namespace Stripped

def text (d : Stripped) : List Char := d.kept.map (·.char)

def positions (d : Stripped) : PositionMap := ⟨d.kept.map (·.origin)⟩

def length (d : Stripped) : Nat := d.kept.length

end Stripped

def strip (markdown : List Char) : Stripped := ⟨markdown, Cursor.atStart.read markdown⟩

end ProseCheck.Markdown
