import ProseCheck.Json.Basic

/-! # Printing JSON

On one line, or with an item to a line and two blanks for each level. Only quotes, backslashes and
control characters are escaped.
-/

namespace ProseCheck.Json

/-- Floats have a point or an exponent: positional from `0.00001` up to sixteen digits. -/
def floatStyle : Decimal.Style where
  lowest := -5
  highest := 15
  exponentWidth := 2

def Number.print : Number → String
  | .int value => toString value
  | .float value => floatStyle.writeFloat value

def hexDigit (n : Nat) : Char := (Nat.digitChar n)

def escape (c : Char) : List Char :=
  match c with
  | '"' => ['\\', '"']
  | '\\' => ['\\', '\\']
  | '\x08' => ['\\', 'b']
  | '\x0c' => ['\\', 'f']
  | '\n' => ['\\', 'n']
  | '\r' => ['\\', 'r']
  | '\t' => ['\\', 't']
  | c =>
    if c.toNat < 0x20 then
      ['\\', 'u', '0', '0', hexDigit (c.toNat / 16), hexDigit (c.toNat % 16)]
    else [c]

def quote (s : String) : String :=
  String.ofList ('"' :: (s.toList.flatMap escape ++ ['"']))

/-- How items are set apart: what stands before each item and before the closing bracket at a
nesting depth, and after the name of a field. -/
structure Layout where
  gap : Nat → String
  colon : String

def Layout.line : Layout := ⟨fun _ => "", ":"⟩

def Layout.indented : Layout :=
  ⟨fun depth => String.ofList ('\n' :: List.replicate (2 * depth) ' '), ": "⟩

def Layout.enclose (layout : Layout) (depth : Nat) (opening closing : String)
    (items : List String) : String :=
  if items.isEmpty then opening ++ closing
  else
    opening ++ String.intercalate "," (items.map (layout.gap (depth + 1) ++ ·)) ++
      layout.gap depth ++ closing

mutual

def printAt (layout : Layout) (depth : Nat) : Json → String
  | .null => "null"
  | .bool true => "true"
  | .bool false => "false"
  | .number n => n.print
  | .string s => quote s
  | .array items => layout.enclose depth "[" "]" (printItems layout (depth + 1) items)
  | .object fields => layout.enclose depth "\x7b" "\x7d" (printFields layout (depth + 1) fields)

def printItems (layout : Layout) (depth : Nat) : List Json → List String
  | [] => []
  | item :: rest => item.printAt layout depth :: printItems layout depth rest

def printFields (layout : Layout) (depth : Nat) : List (String × Json) → List String
  | [] => []
  | (name, value) :: rest =>
    (quote name ++ layout.colon ++ value.printAt layout depth) :: printFields layout depth rest

end

def print (j : Json) : String := j.printAt .line 0

def pretty (j : Json) : String := j.printAt .indented 0

end ProseCheck.Json
