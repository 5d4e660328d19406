/-! # Shortest decimals

The fewest decimal digits that read back as a given binary64 number, and of those the ones nearest
to it. A number is `mantissa · 2 ^ exponent`; what lies within half a step of it reads back as it,
the ends of that interval included when the mantissa is even.
-/

namespace ProseCheck.Decimal

structure Binary where
  mantissa : Nat
  exponent : Int
  deriving DecidableEq, Repr

namespace Binary

/-- How many mantissas there are from one power of two to the next. -/
def binadeSize : Nat := Nat.pow 2 52

def ofBits (bits : UInt64) : Binary :=
  let fraction : Nat := bits.toNat % binadeSize
  let biased : Nat := bits.toNat / binadeSize % Nat.pow 2 11
  if biased = 0 then ⟨fraction, -1074⟩ else ⟨fraction + binadeSize, (biased : Int) - 1075⟩

/-- Whether the step below the number is half the step above it. -/
def atBinade (b : Binary) : Bool := b.mantissa == binadeSize && -1074 < b.exponent

end Binary

structure Digits where
  digits : Nat
  exponent : Int
  deriving DecidableEq, Repr

/-- An interval of rationals with its inner point, over a common denominator. -/
structure Neighbourhood where
  low : Nat
  point : Nat
  high : Nat
  denominator : Nat
  closed : Bool

/-- What reads back as a number: its neighbourhood, in quarters of its last bit. -/
def Binary.neighbourhood (b : Binary) : Neighbourhood :=
  let low := 4 * b.mantissa - (if b.atBinade then 1 else 2)
  let scale := Nat.pow 2 (b.exponent - 2).toNat
  { low := low * scale
    point := 4 * b.mantissa * scale
    high := (4 * b.mantissa + 2) * scale
    denominator := Nat.pow 2 (2 - b.exponent).toNat
    closed := b.mantissa % 2 == 0 }

namespace Neighbourhood

/-- The decimal exponent of the first digit of the point. -/
def leadingExponent (n : Neighbourhood) : Int :=
  if n.denominator ≤ n.point then ((Nat.toDigits 10 (n.point / n.denominator)).length : Int) - 1
  else -((Nat.toDigits 10 ((n.denominator - 1) / n.point)).length : Int)

def holds (n : Neighbourhood) (d : Digits) : Bool :=
  let value := d.digits * Nat.pow 10 d.exponent.toNat * n.denominator
  let scale := Nat.pow 10 (-d.exponent).toNat
  if n.closed then n.low * scale ≤ value && value ≤ n.high * scale
  else n.low * scale < value && value < n.high * scale

/-- How far `d` is from the point, over a denominator that only depends on the exponent of `d`. -/
def distance (n : Neighbourhood) (d : Digits) : Nat :=
  let value := d.digits * Nat.pow 10 d.exponent.toNat * n.denominator
  let point := n.point * Nat.pow 10 (-d.exponent).toNat
  (value - point) + (point - value)

/-- The point's neighbours on the grid of multiples of `10 ^ exponent`. -/
def neighbours (n : Neighbourhood) (exponent : Int) : List Digits :=
  let below :=
    n.point * Nat.pow 10 (-exponent).toNat / (n.denominator * Nat.pow 10 exponent.toNat)
  [⟨below, exponent⟩, ⟨below + 1, exponent⟩]

/-- The nearest of the neighbours on a grid that read back; of two that are as near, the even
one. -/
def nearest? (n : Neighbourhood) (exponent : Int) : Option Digits :=
  match (n.neighbours exponent).filter n.holds with
  | [] => none
  | [d] => some d
  | d :: e :: _ =>
    let near := n.distance d
    let far := n.distance e
    some (if near < far ∨ (near = far ∧ d.digits % 2 = 0) then d else e)

end Neighbourhood

/-- The shortest digits of a positive number; seventeen always read back. -/
def shortest (b : Binary) : Digits :=
  let n := b.neighbourhood
  let first := n.leadingExponent
  ((List.range 17).findSome? fun (k : Nat) => n.nearest? (first - k)).getD ⟨0, 0⟩

def Digits.trim (d : Digits) : Digits :=
  let zeros := ((Nat.toDigits 10 d.digits).reverse.takeWhile (· == '0')).length
  if d.digits = 0 then d else ⟨d.digits / Nat.pow 10 zeros, d.exponent + zeros⟩

structure Style where
  /-- The exponents of the first digit between which no exponent is written. -/
  lowest : Int
  highest : Int
  /-- The fewest digits of an exponent. -/
  exponentWidth : Nat

/-- Writes digits by a style, with at least one digit behind the point where there is no
exponent. -/
def Style.write (style : Style) (d : Digits) : String :=
  let digits := Nat.toDigits 10 d.digits
  let first := d.exponent + digits.length - 1
  let text :=
    if first < style.lowest ∨ style.highest < first then
      let power := Nat.toDigits 10 first.natAbs
      digits.take 1 ++ (if digits.length = 1 then [] else '.' :: digits.drop 1) ++
        ['e', if first < 0 then '-' else '+'] ++
        List.replicate (style.exponentWidth - power.length) '0' ++ power
    else if first < 0 then
      '0' :: '.' :: List.replicate (-first - 1).toNat '0' ++ digits
    else
      let whole := first.toNat + 1
      digits.take whole ++ List.replicate (whole - digits.length) '0' ++ ['.'] ++
        (if digits.length ≤ whole then ['0'] else digits.drop whole)
  String.ofList text

/-- A finite float as the shortest decimal that reads back, written by a style. -/
def Style.writeFloat (style : Style) (x : Float) : String :=
  let bits := x.toBits
  let sign := if bits.toNat < Nat.pow 2 63 then "" else "-"
  let b := Binary.ofBits bits
  sign ++ style.write (if b.mantissa = 0 then ⟨0, 0⟩ else (shortest b).trim)

end ProseCheck.Decimal
