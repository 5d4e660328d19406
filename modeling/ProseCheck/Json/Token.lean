import ProseCheck.Json.Source

/-! # JSON tokens

A JSON text is cut into brackets, punctuation and single values. Only space, tab and the two line
ends may stand between tokens, and no control character may stand in a string.
-/

namespace ProseCheck.Json

inductive Token where
  | beginArray
  | endArray
  | beginObject
  | endObject
  | colon
  | comma
  | single (value : Source)

/-- A character of a string, or an escape that stands for half a surrogate pair. -/
inductive StringUnit where
  | char (c : Char)
  | half (code : Nat)
  deriving DecidableEq, Repr

namespace StringUnit

def isHigh (code : Nat) : Bool := 0xD800 ≤ code && code < 0xDC00

def isLow (code : Nat) : Bool := 0xDC00 ≤ code && code < 0xE000

def ofCode (code : Nat) : StringUnit :=
  if isHigh code || isLow code then .half code else .char (Char.ofNat code)

/-- The text of some units, in which every half needs its other half next to it. -/
def join? : List StringUnit → Option (List Char)
  | [] => some []
  | .char c :: rest => (join? rest).map (c :: ·)
  | .half high :: .half low :: rest =>
    if isHigh high && isLow low then
      (join? rest).map (Char.ofNat (0x10000 + (high - 0xD800) * 0x400 + (low - 0xDC00)) :: ·)
    else none
  | .half _ :: _ => none

end StringUnit

def hexDigit? (c : Char) : Option Nat :=
  if c.isDigit then some (c.toNat - '0'.toNat)
  else if 'a' ≤ c ∧ c ≤ 'f' then some (c.toNat - 'a'.toNat + 10)
  else if 'A' ≤ c ∧ c ≤ 'F' then some (c.toNat - 'A'.toNat + 10)
  else none

def hexValue? (digits : List Char) : Option Nat :=
  digits.foldlM (fun n c => (hexDigit? c).map (16 * n + ·)) 0

def escaped? (c : Char) : Option Char :=
  match c with
  | '"' | '\\' | '/' => some c
  | 'b' => some '\x08'
  | 'f' => some '\x0c'
  | 'n' => some '\n'
  | 'r' => some '\r'
  | 't' => some '\t'
  | _ => none

def readString? (units : List StringUnit) : List Char → Option (List StringUnit × List Char)
  | [] => none
  | '"' :: rest => some (units.reverse, rest)
  | '\\' :: 'u' :: a :: b :: c :: d :: rest => do
    let code ← hexValue? [a, b, c, d]
    readString? (.ofCode code :: units) rest
  | '\\' :: c :: rest => do
    let c ← escaped? c
    readString? (.char c :: units) rest
  | c :: rest =>
    if c = '\\' ∨ c.toNat < 0x20 then none else readString? (.char c :: units) rest

theorem length_of_readString? {units read : List StringUnit} {text rest : List Char}
    (h : readString? units text = some (read, rest)) : rest.length < text.length := by
  fun_induction readString? units text with
  | case1 => cases h
  | case2 => cases h; simp
  | case3 units a b c d tail ih =>
    obtain ⟨code, -, h⟩ := Option.bind_eq_some_iff.mp h
    have := ih code h
    simp only [List.length_cons]
    omega
  | case4 units c tail _ ih =>
    obtain ⟨e, -, h⟩ := Option.bind_eq_some_iff.mp h
    have := ih e h
    simp only [List.length_cons]
    omega
  | case5 => cases h
  | case6 units c tail _ _ _ _ ih =>
    have := ih h
    simp only [List.length_cons]
    omega

def isNumeralChar (c : Char) : Bool :=
  c.isDigit || c == '+' || c == '-' || c == '.' || c == 'e' || c == 'E'

def isSpace (c : Char) : Bool := c == ' ' || c == '\t' || c == '\n' || c == '\r'

theorem length_dropWhile_le (p : Char → Bool) (cs : List Char) :
    (cs.dropWhile p).length ≤ cs.length := by
  induction cs with
  | nil => simp
  | cons c cs ih =>
    rw [List.dropWhile_cons]
    split
    · exact Nat.le_succ_of_le ih
    · exact Nat.le_refl _

/-- The first token of a text that starts with `c`, and the rest of the text. -/
def firstToken? (c : Char) (cs : List Char) : Option (Token × List Char) :=
  match c, cs with
  | '[', _ => some (.beginArray, cs)
  | ']', _ => some (.endArray, cs)
  | '\x7b', _ => some (.beginObject, cs)
  | '\x7d', _ => some (.endObject, cs)
  | ':', _ => some (.colon, cs)
  | ',', _ => some (.comma, cs)
  | 'n', 'u' :: 'l' :: 'l' :: rest => some (.single .null, rest)
  | 't', 'r' :: 'u' :: 'e' :: rest => some (.single (.bool true), rest)
  | 'f', 'a' :: 'l' :: 's' :: 'e' :: rest => some (.single (.bool false), rest)
  | '"', _ =>
    match readString? [] cs with
    | some (units, rest) =>
      some (.single (.string ((StringUnit.join? units).map String.ofList)), rest)
    | none => none
  | _, _ =>
    match Numeral.read? (c :: cs.takeWhile isNumeralChar) with
    | some n => some (.single (.number n.number?), cs.dropWhile isNumeralChar)
    | none => none

theorem length_of_firstToken? {c : Char} {cs rest : List Char} {t : Token}
    (h : firstToken? c cs = some (t, rest)) : rest.length ≤ cs.length := by
  unfold firstToken? at h
  split at h
  case h_10 =>
    split at h
    · rename_i heq
      cases h
      exact Nat.le_of_lt (length_of_readString? heq)
    · cases h
  case h_11 =>
    split at h
    · cases h
      exact length_dropWhile_le _ _
    · cases h
  all_goals
    cases h
    grind

def tokens? : List Char → Option (List Token)
  | [] => some []
  | c :: cs =>
    if isSpace c then tokens? cs
    else
      match _h : firstToken? c cs with
      | some (t, rest) => (tokens? rest).map (t :: ·)
      | none => none
termination_by text => text.length
decreasing_by
  · simp
  · exact Nat.lt_succ_of_le (length_of_firstToken? _h)

end ProseCheck.Json
