import ProseCheck.Net.Percent
import ProseCheck.Text.Lowercase

/-! # Hosts

A host is a name in ASCII, an IPv4 address or an IPv6 address in brackets. Names in other letters
are written in Punycode; a name that ends like a number has to be an address.
-/

namespace ProseCheck.Net

/-! ### Punycode -/

namespace Punycode

def base : Nat := 36
def thresholdLow : Nat := 1
def thresholdHigh : Nat := 26
def skew : Nat := 38
def damp : Nat := 700
def initialBias : Nat := 72

/-- Halves a difference until it is small, counting the steps. -/
def settleDelta (steps : Nat) (delta : Nat) : Nat :=
  if delta ≤ (base - thresholdLow) * thresholdHigh / 2 then
    steps * base + (base - thresholdLow + 1) * delta / (delta + skew)
  else settleDelta (steps + 1) (delta / (base - thresholdLow))
termination_by delta
decreasing_by
  simp only [base, thresholdLow, thresholdHigh] at *
  omega

def adapt (delta points : Nat) (first : Bool) : Nat :=
  let delta := if first then delta / damp else delta / 2
  settleDelta 0 (delta + delta / points)

def digit (n : Nat) : Char :=
  if n < 26 then Char.ofNat ('a'.toNat + n) else Char.ofNat ('0'.toNat + (n - 26))

def threshold (bias position : Nat) : Nat :=
  if position ≤ bias then thresholdLow
  else if bias + thresholdHigh ≤ position then thresholdHigh
  else position - bias

theorem threshold_pos (bias position : Nat) : 0 < threshold bias position := by
  simp only [threshold, thresholdLow, thresholdHigh]
  grind

/-- A number in digits of growing weight. -/
def variableLength (bias position n : Nat) : List Char :=
  let t := threshold bias position
  if n < t then [digit n]
  else
    digit (t + (n - t) % (base - t)) ::
      variableLength bias (position + base) ((n - t) / (base - t))
termination_by n
decreasing_by
  have := threshold_pos bias position
  calc (n - t) / (base - t) ≤ n - t := Nat.div_le_self _ _
    _ < n := by omega

structure State where
  delta : Nat
  bias : Nat
  written : Nat
  output : List Char

def encodePlaces (code basic : Nat) (s : State) : List Nat → State
  | [] => s
  | c :: rest =>
    if c < code then encodePlaces code basic { s with delta := s.delta + 1 } rest
    else if c = code then
      encodePlaces code basic
        { delta := 0, bias := adapt s.delta (s.written + 1) (s.written == basic)
          written := s.written + 1
          output := s.output ++ variableLength s.bias base s.delta } rest
    else encodePlaces code basic s rest

/-- Writes code points in increasing order, each with all its places. -/
def encodeCodes (codes : List Nat) (basic low : Nat) (s : State) : List Nat → State
  | [] => s
  | code :: rest =>
    let s := { s with delta := s.delta + (code - low) * (s.written + 1) }
    let s := encodePlaces code basic s codes
    encodeCodes codes basic (code + 1) { s with delta := s.delta + 1 } rest

def encode (label : List Char) : List Char :=
  let codes := label.map Char.toNat
  let basic := label.filter (·.toNat < 0x80)
  let others := ((codes.filter (0x80 ≤ ·)).mergeSort).eraseDups
  let start : State :=
    ⟨0, initialBias, basic.length, if basic.isEmpty then [] else basic ++ ['-']⟩
  (encodeCodes codes basic.length 0x80 start others).output

end Punycode

/-! ### Names -/

/-- A character of a name as it is compared: in lower case, and wide forms as ASCII. -/
def foldName (c : Char) : List Char :=
  if 0xFF01 ≤ c.toNat ∧ c.toNat ≤ 0xFF5E then [(Char.ofNat (c.toNat - 0xFEE0)).toLower]
  else if c = '\u3002' ∨ c = '\uff61' then ['.']
  else if c = '\u00ad' then []
  else Text.lowerChar c

def splitLabels : List Char → List (List Char)
  | [] => [[]]
  | c :: cs =>
    if c = '.' then [] :: splitLabels cs
    else
      match splitLabels cs with
      | [] => [[c]]
      | label :: rest => (c :: label) :: rest

def asciiLabel (label : List Char) : List Char :=
  if label.all (·.toNat < 0x80) then label else "xn--".toList ++ Punycode.encode label

def asciiName (name : List Char) : List Char :=
  List.intercalate ['.'] ((splitLabels (name.flatMap foldName)).map asciiLabel)

def isForbiddenInHost (c : Char) : Bool := "\x00\t\n\r #/:<>?@[\\]^|".toList.contains c

def isForbiddenInName (c : Char) : Bool :=
  isForbiddenInHost c || c.toNat < 0x20 || c == '%' || c == '\x7f'

/-! ### IPv4 -/

/-- A number in decimal, in octal after a zero, or in hexadecimal after `0x`. -/
def number4? (text : List Char) : Option Nat :=
  let (base, digits) :=
    match text with
    | '0' :: 'x' :: rest | '0' :: 'X' :: rest => (16, rest)
    | '0' :: c :: rest => (8, c :: rest)
    | rest => (10, rest)
  if text.isEmpty then none
  else digits.foldlM (fun n c => do
    let d ← hexValue? c
    guard (d < base)
    return base * n + d) 0

/-- Whether the last label makes a name an address. -/
def endsLikeNumber (labels : List (List Char)) : Bool :=
  let labels := if labels.getLast? == some [] && 1 < labels.length then labels.dropLast else labels
  match labels.getLast? with
  | some last => (!last.isEmpty && last.all Char.isDigit) ||
      (("0x".toList.isPrefixOf last || "0X".toList.isPrefixOf last) && (number4? last).isSome)
  | none => false

/-- An address of up to four numbers, the last of which fills up the rest. -/
def address4? (labels : List (List Char)) : Option Nat := do
  let labels := if labels.getLast? == some [] && 1 < labels.length then labels.dropLast else labels
  guard (labels.length ≤ 4)
  let numbers ← labels.mapM number4?
  let last ← numbers.getLast?
  let front := numbers.dropLast
  guard (front.all (· ≤ 255))
  guard (last < Nat.pow 256 (5 - numbers.length))
  return front.zipIdx.foldl (fun sum (n, i) => sum + n * Nat.pow 256 (3 - i)) last

def write4 (address : Nat) : List Char :=
  List.intercalate ['.']
    ([3, 2, 1, 0].map fun i => Nat.toDigits 10 (address / Nat.pow 256 i % 256))

/-! ### IPv6 -/

def piece6? (text : List Char) : Option Nat := do
  guard (!text.isEmpty && text.length ≤ 4)
  text.foldlM (fun n c => (hexValue? c).map (16 * n + ·)) 0

def splitColons : List Char → List (List Char)
  | [] => [[]]
  | c :: cs =>
    if c = ':' then [] :: splitColons cs
    else
      match splitColons cs with
      | [] => [[c]]
      | piece :: rest => (c :: piece) :: rest

def byte? (text : List Char) : Option Nat := do
  guard (!text.isEmpty && text.all Char.isDigit && text.length ≤ 3)
  guard (text.length = 1 || text.head? != some '0')
  let n := text.foldl (fun n c => 10 * n + (c.toNat - '0'.toNat)) 0
  guard (n ≤ 255)
  return n

/-- Pieces of which the last may be an IPv4 address. -/
def pieces6? (mayEndIn4 : Bool) : List (List Char) → Option (List Nat)
  | [] => some []
  | [last] =>
    if mayEndIn4 && last.contains '.' then do
      match ← (splitLabels last).mapM byte? with
      | [a, b, c, d] => return [256 * a + b, 256 * c + d]
      | _ => none
    else (piece6? last).map ([·])
  | piece :: rest => do
    let n ← piece6? piece
    let ns ← pieces6? mayEndIn4 rest
    return n :: ns

/-- The text before the first double colon, and the text behind it if there is one. -/
def splitGap : List Char → List Char × Option (List Char)
  | ':' :: ':' :: rest => ([], some rest)
  | c :: rest =>
    let (before, behind) := splitGap rest
    (c :: before, behind)
  | [] => ([], none)

/-- The eight pieces of an address; a double colon stands for one zero or more. -/
def address6? (text : List Char) : Option (List Nat) := do
  let parts (mayEndIn4 : Bool) (t : List Char) : Option (List Nat) :=
    if t.isEmpty then some [] else pieces6? mayEndIn4 (splitColons t)
  match splitGap text with
  | (all, none) =>
    let ns ← parts true all
    guard (ns.length = 8)
    return ns
  | (before, some behind) =>
    let front ← parts false before
    let back ← parts true behind
    guard (front.length + back.length ≤ 7)
    return front ++ List.replicate (8 - front.length - back.length) 0 ++ back

def zeroRuns (index : Nat) : List Nat → List (Nat × Nat)
  | [] => []
  | n :: rest =>
    (index, ((n :: rest).takeWhile (· == 0)).length) :: zeroRuns (index + 1) rest

/-- The longest run of zeros, of those as long the first; one zero alone does not count. -/
def longestRun (pieces : List Nat) : Option (Nat × Nat) :=
  (zeroRuns 0 pieces).foldl (fun best run =>
    if 1 < run.2 && (best.map (·.2)).getD 0 < run.2 then some run else best) none

def write6 (pieces : List Nat) : List Char :=
  let join (ns : List Nat) : List Char := List.intercalate [':'] (ns.map (Nat.toDigits 16))
  match longestRun pieces with
  | some (start, length) =>
    join (pieces.take start) ++ [':', ':'] ++ join (pieces.drop (start + length))
  | none => join pieces

/-! ### Reading -/

/-- A host as it is written; outside the special schemes, any text without forbidden characters. -/
def readHost? (special : Bool) (text : List Char) : Option (List Char) :=
  match text with
  | '[' :: rest =>
    match rest.reverse with
    | ']' :: inner => (address6? inner.reverse).map fun ps => '[' :: write6 ps ++ [']']
    | _ => none
  | _ =>
    if special then do
      let plain := decode text
      let name := asciiName plain
      guard (!plain.contains '\ufffd' && !name.isEmpty && !name.any isForbiddenInName)
      let labels := splitLabels name
      if endsLikeNumber labels then return write4 (← address4? labels)
      else return name
    else if text.any isForbiddenInHost then none
    else some (encode isControl text)

end ProseCheck.Net
