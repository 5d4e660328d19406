import ProseCheck.Text.Printable

/-! # Quoted text

Text as it is shown where every character has to be visible: short escapes for the usual controls,
and the code point in hexadecimal for what does not print on its own.
-/

namespace ProseCheck.Text

def codeEscape (c : Char) : List Char :=
  ['\\', 'u', '\x7b'] ++ Nat.toDigits 16 c.toNat ++ ['\x7d']

/-- A character as it is shown; only the quotes in `quotes` are escaped. -/
def visible (quotes : List Char) (c : Char) : List Char :=
  if c = '\x00' then ['\\', '0']
  else if c = '\t' then ['\\', 't']
  else if c = '\r' then ['\\', 'r']
  else if c = '\n' then ['\\', 'n']
  else if c = '\\' ∨ c ∈ quotes then ['\\', c]
  else if extendsPrevious c ∨ !isPrintable c then codeEscape c
  else [c]

def visibleChar (c : Char) : String := String.ofList (visible ['"', '\''] c)

def quoted (s : String) : String :=
  String.ofList ('"' :: (s.toList.flatMap (visible ['"']) ++ ['"']))

end ProseCheck.Text
