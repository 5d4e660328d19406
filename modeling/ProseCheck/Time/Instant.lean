import ProseCheck.Text.Blank
import ProseCheck.Time.Calendar

/-! # Instants

Moments in universal time, written as in RFC 3339. Reading is more lenient than writing: blanks may
stand before each part, the offset may lack its colon, and years may have a sign.
-/

namespace ProseCheck

structure Instant where
  /-- Since the start of 1970, without leap seconds. -/
  seconds : Int
  /-- From 10 ^ 9 on, the instant lies in the leap second after `seconds`. -/
  nanoseconds : Nat
  deriving DecidableEq, Repr, Inhabited

namespace Instant

def secondsPerDay : Int := 86400

def second : Nat := 1000000000

/-! ### Writing -/

def padded (width n : Nat) : String :=
  let digits := Nat.toDigits 10 n
  String.ofList (List.replicate (width - digits.length) '0' ++ digits)

/-- Four digits, and a sign where these do not do. -/
def yearText (year : Int) : String :=
  if 0 ≤ year ∧ year ≤ 9999 then padded 4 year.toNat
  else (if year < 0 then "-" else "+") ++ padded 4 year.natAbs

/-- No digits, or three, six or nine. -/
def fractionText (nanoseconds : Nat) : String :=
  if nanoseconds = 0 then ""
  else if nanoseconds % 1000000 = 0 then "." ++ padded 3 (nanoseconds / 1000000)
  else if nanoseconds % 1000 = 0 then "." ++ padded 6 (nanoseconds / 1000)
  else "." ++ padded 9 nanoseconds

/-- The instant with the given text for the offset from universal time. -/
def write (offset : String) (t : Instant) : String :=
  let date := Date.ofDays (t.seconds / secondsPerDay)
  let time := (t.seconds % secondsPerDay).toNat
  let (leap, fraction) :=
    if second ≤ t.nanoseconds then (1, t.nanoseconds - second) else (0, t.nanoseconds)
  s!"{yearText date.year}-{padded 2 date.month}-{padded 2 date.day}T" ++
    s!"{padded 2 (time / 3600)}:{padded 2 (time / 60 % 60)}:{padded 2 (time % 60 + leap)}" ++
    fractionText fraction ++ offset

def toStored (t : Instant) : String := t.write "Z"

def toShown (t : Instant) : String := t.write "+00:00"

/-! ### Reading -/

/-- Reads from the front of a text. -/
abbrev Scan := StateT (List Char) Option

namespace Scan

def blanks : Scan Unit := modify Text.trimStart

def char (p : Char → Bool) : Scan Char := fun text =>
  match text with
  | c :: rest => if p c then some (c, rest) else none
  | [] => none

/-- One digit at least and `most` at most, as a number. -/
def number (most : Nat) : Scan (Nat × Nat) := fun text =>
  let digits := (text.takeWhile Char.isDigit).take most
  if digits.isEmpty then none
  else
    let value := digits.foldl (fun n c => 10 * n + (c.toNat - '0'.toNat)) 0
    some ((value, digits.length), text.drop digits.length)

/-- A number of at most `most` digits within bounds, after blanks. -/
def part (most low high : Nat) : Scan Nat := do
  blanks
  let (n, _) ← number most
  guard (low ≤ n ∧ n ≤ high)
  return n

def year : Scan Int := do
  blanks
  let text ← get
  match text with
  | '-' :: rest =>
    set rest
    let (n, _) ← number rest.length
    return -n
  | '+' :: rest =>
    set rest
    let (n, _) ← number rest.length
    return n
  | _ =>
    let (n, _) ← number 4
    return n

def separator (c : Char) : Scan Unit := do
  blanks
  discard <| char (· == c)

/-- The nanoseconds of a fraction, if there is one; digits after the ninth are left out. -/
def fraction : Scan Nat := do
  match ← get with
  | '.' :: rest =>
    set rest
    let (n, width) ← number 9
    modify (·.dropWhile Char.isDigit)
    return n * Nat.pow 10 (9 - width)
  | _ => return 0

def twoDigits (high : Nat) : Scan Nat := do
  let a ← char Char.isDigit
  let b ← char Char.isDigit
  let n := 10 * (a.toNat - '0'.toNat) + (b.toNat - '0'.toNat)
  guard (n ≤ high)
  return n

/-- An offset from universal time in seconds. -/
def offset : Scan Int := do
  match ← get with
  | c :: rest =>
    if c = 'Z' ∨ c = 'z' then
      set rest
      return 0
    else if (String.ofList ((c :: rest.take 2).map Char.toUpper)) = "UTC" then
      set (rest.drop 2)
      return 0
    else
      guard (c = '+' ∨ c = '-' ∨ c = '\u2212')
      set rest
      let hours ← twoDigits 23
      modify (·.dropWhile fun c => c == ':' || Text.isBlank c)
      let minutes ← twoDigits 59
      let seconds : Int := hours * 3600 + minutes * 60
      return if c = '+' then seconds else -seconds
  | [] => failure

def instant : Scan Instant := do
  let year ← year
  separator '-'
  let month ← part 2 1 12
  separator '-'
  let day ← part 2 1 31
  let date : Date := ⟨year, month, day⟩
  guard date.isValid
  discard <| char fun c => c == 'T' || c == 't' || c == ' '
  let hour ← part 2 0 23
  separator ':'
  let minute ← part 2 0 59
  separator ':'
  let second ← part 2 0 60
  let nanoseconds ← fraction
  blanks
  let offset ← offset
  let time : Int := hour * 3600 + minute * 60 + (min second 59 : Nat) - offset
  let t : Instant :=
    ⟨date.toDays * secondsPerDay + time,
     nanoseconds + if second = 60 then Instant.second else 0⟩
  let year := (Date.ofDays (t.seconds / secondsPerDay)).year
  guard (Date.firstYear ≤ year ∧ year ≤ Date.lastYear)
  return t

end Scan

/-- Reads an instant; blanks may follow it. -/
def parse? (text : String) : Option Instant := do
  let (t, rest) ← Scan.instant text.toList
  guard (Text.allBlank rest)
  return t

end Instant
end ProseCheck
