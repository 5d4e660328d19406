import ProseCheck.Json.Basic

/-! # Numerals

How the digits of a JSON number become its value. Digits are taken as long as 64 bits hold them. An
integer that they hold is exact; anything else is the digits taken, times or divided by a power of
ten in binary64 arithmetic.
-/

namespace ProseCheck.Json

structure Numeral where
  negative : Bool
  whole : List Nat
  fraction : List Nat
  exponent : Option Int
  deriving DecidableEq, Repr

namespace Numeral

def digit (c : Char) : Nat := c.toNat - '0'.toNat

def digits (text : List Char) : List Nat × List Char :=
  ((text.takeWhile Char.isDigit).map digit, text.dropWhile Char.isDigit)

def value (ds : List Nat) : Nat := ds.foldl (fun n d => 10 * n + d) 0

def exponent? (text : List Char) : Option Int :=
  let (negative, rest) :=
    match text with
    | '-' :: rest => (true, rest)
    | '+' :: rest => (false, rest)
    | rest => (false, rest)
  match digits rest with
  | ([], _) | (_, _ :: _) => none
  | (ds, []) => some (if negative then -(value ds : Int) else value ds)

/-- What follows the whole part and the fraction. -/
def finish? (negative : Bool) (whole fraction : List Nat) : List Char → Option Numeral
  | [] => some ⟨negative, whole, fraction, none⟩
  | c :: rest =>
    if c = 'e' ∨ c = 'E' then
      (exponent? rest).map fun e => ⟨negative, whole, fraction, some e⟩
    else none

/-- Reads a numeral: no leading zeros, and digits on both sides of a point. -/
def read? (text : List Char) : Option Numeral :=
  let (negative, unsigned) :=
    match text with
    | '-' :: rest => (true, rest)
    | rest => (false, rest)
  match digits unsigned with
  | ([], _) | (0 :: _ :: _, _) => none
  | (whole, '.' :: rest) =>
    match digits rest with
    | ([], _) => none
    | (fraction, rest) => finish? negative whole fraction rest
  | (whole, rest) => finish? negative whole [] rest

/-- Takes digits as long as the number fits 64 bits, and says how many were left. -/
def take (n : Nat) : List Nat → Nat × Nat
  | [] => (n, 0)
  | d :: ds => if 10 * n + d < Nat.pow 2 64 then take (10 * n + d) ds else (n, ds.length + 1)

def powerOfTen (n : Nat) : Float := Float.ofScientific 1 false n

/-- The largest power of ten that binary64 holds. -/
def largestPower : Nat := 308

/-- `x` divided by a power of ten, in steps that binary64 holds. -/
def divide (x : Float) (power : Nat) : Float :=
  if power ≤ largestPower then x / powerOfTen power
  else if x == 0 then x
  else divide (x / powerOfTen largestPower) (power - largestPower)
termination_by power
decreasing_by simp only [largestPower] at *; omega

/-- `significand · 10 ^ exponent`, if it is not too large. -/
def scale? (significand : Nat) (exponent : Int) : Option Float :=
  let x := Float.ofNat significand
  if exponent < 0 then some (divide x exponent.natAbs)
  else if significand = 0 then some 0
  else if exponent.toNat ≤ largestPower then
    let scaled := x * powerOfTen exponent.toNat
    if scaled.isInf then none else some scaled
  else none

def number? (n : Numeral) : Option Number :=
  let (whole, dropped) := take 0 n.whole
  let signed (x : Float) : Number := .float (if n.negative then -x else x)
  if n.fraction.isEmpty ∧ n.exponent.isNone ∧ dropped = 0 then
    if !n.negative then some (.int whole)
    else if 0 < whole ∧ whole ≤ Nat.pow 2 63 then some (.int (-whole))
    else some (signed (Float.ofNat whole))
  else
    let (significand, unread) := take whole n.fraction
    let exponent := n.exponent.getD 0 + dropped - (n.fraction.length - unread : Nat)
    (scale? significand exponent).map signed

end Numeral
end ProseCheck.Json
