/-! # Offsets into a text

A position is a count of characters. Providers count UTF-16 code units and reports count UTF-8
bytes, so a text is a `List Char` here and each unit is a walk over it.
-/

namespace ProseCheck

/-- The largest number an offset or a length can be. -/
def maxOffset : Nat := 18446744073709551615

/-- The sum of two offsets, if it is an offset. -/
def addOffset? (a b : Nat) : Option Nat :=
  if a + b ≤ maxOffset then some (a + b) else none

/-- A stretch of positions, `start` included and `finish` not. -/
structure Span where
  start : Nat
  finish : Nat
  deriving DecidableEq, Repr, Inhabited

namespace Span

def length (s : Span) : Nat := s.finish - s.start

def contains (s : Span) (position : Nat) : Bool := s.start ≤ position && position < s.finish

def shift (s : Span) (delta : Nat) : Span := ⟨s.start + delta, s.finish + delta⟩

end Span

namespace Text

def units16 (c : Char) : Nat := if c.toNat < 0x10000 then 1 else 2

def length16 (text : List Char) : Nat := text.foldr (units16 · + ·) 0

def length8 (text : List Char) : Nat := text.foldr (·.utf8Size + ·) 0

/-- The byte at which the character `k` starts; the end of the text counts as a start. -/
def byteOffset? : List Char → Nat → Option Nat
  | _, 0 => some 0
  | [], _ + 1 => none
  | c :: cs, k + 1 => (byteOffset? cs k).map (c.utf8Size + ·)

/-- The character that the UTF-16 offset `u` points at. An offset between the two halves of a
surrogate pair points at the character of that pair. -/
def charOffset? : List Char → Nat → Option Nat
  | _, 0 => some 0
  | [], _ + 1 => none
  | c :: cs, u + 1 =>
    if u + 1 < units16 c then some 0 else (charOffset? cs (u + 1 - units16 c)).map (· + 1)

def slice? (text : List Char) (s : Span) : Option (List Char) :=
  if s.start ≤ s.finish ∧ s.finish ≤ text.length then
    some ((text.drop s.start).take s.length)
  else none

/-- At most `limit` characters of the text, and whether any were cut off. -/
def truncate (text : List Char) (limit : Nat) : List Char × Bool :=
  (text.take limit, limit < text.length)

end Text
end ProseCheck
