import ProseCheck.Text.Blank

/-! # Paragraphs and sentences

A text is checked in pieces, each of which knows where it starts. Paragraphs lie between
separators. A sentence ends after `.`, `!` or `?` before a blank character or the end, or with its
line.
-/

namespace ProseCheck.Text

/-- A piece of a text that starts at `start`. -/
structure Segment where
  start : Nat
  text : List Char
  deriving DecidableEq, Repr

namespace Segment

def length (s : Segment) : Nat := s.text.length

def isBlank (s : Segment) : Bool := allBlank s.text

end Segment

def blankLine : List Char := ['\n', '\n']

/-- The text before the first separator, and the text after it if there is one. -/
def cut (separator : List Char) : List Char → List Char × Option (List Char)
  | [] => ([], none)
  | c :: cs =>
    if separator.isPrefixOf (c :: cs) then ([], some ((c :: cs).drop separator.length))
    else
      let (piece, rest) := cut separator cs
      (c :: piece, rest)

theorem length_of_cut {separator text rest : List Char} (hs : separator ≠ [])
    (h : (cut separator text).2 = some rest) : rest.length < text.length := by
  have : 0 < separator.length := List.length_pos_iff.mpr hs
  induction text with
  | nil => simp [cut] at h
  | cons c cs ih =>
    simp only [cut] at h
    split at h
    · simp only [Option.some.injEq] at h
      subst h
      simp only [List.length_drop, List.length_cons]
      omega
    · exact Nat.lt_succ_of_lt (ih h)

/-- The pieces of a text between its separators, empty ones included. -/
def pieces (separator : List Char) (hs : separator ≠ []) (text : List Char) : List (List Char) :=
  match _h : (cut separator text).2 with
  | none => [(cut separator text).1]
  | some rest => (cut separator text).1 :: pieces separator hs rest
termination_by text.length
decreasing_by exact length_of_cut hs _h

/-- Pieces with their starts, when they follow each other with `gap` characters in between. -/
def placed (gap start : Nat) : List (List Char) → List Segment
  | [] => []
  | piece :: rest => ⟨start, piece⟩ :: placed gap (start + piece.length + gap) rest

/-- The paragraphs of a text, without the empty ones. With nothing to separate them, the whole text
is one. -/
def paragraphs (separator text : List Char) : List Segment :=
  if hs : separator = [] then [⟨0, text⟩]
  else (placed separator.length 0 (pieces separator hs text)).filter (!·.text.isEmpty)

/-- Whether a sentence ends with a character that is followed by `next`. -/
def endsSentence (c : Char) (next : Option Char) : Bool :=
  c == '\n' || ((c == '.' || c == '!' || c == '?') && next.all isBlank)

def sentencePieces : List Char → List (List Char)
  | [] => []
  | c :: cs =>
    if endsSentence c cs.head? then [c] :: sentencePieces cs
    else
      match sentencePieces cs with
      | [] => [[c]]
      | piece :: rest => (c :: piece) :: rest

/-- The segment without the blank characters at its ends. -/
def Segment.trim (s : Segment) : Segment :=
  ⟨s.start + (s.text.takeWhile Text.isBlank).length, Text.trim s.text⟩

def sentences (text : List Char) : List Segment :=
  ((placed 0 0 (sentencePieces text)).map Segment.trim).filter (!·.text.isEmpty)

end ProseCheck.Text
