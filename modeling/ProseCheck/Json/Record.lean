import ProseCheck.Json.Reader

/-! # Reading records from JSON

A record is an object in which every known field stands at most once, or an array with its fields in
order. An optional field of an object may be left out; at the end of an array only a field with a
default may.
-/

namespace ProseCheck.Json

/-- The known fields that a record gives. -/
structure Record where
  positional : Bool
  values : List (String × Source)

namespace Source

/-- The fields of an object that are in `names`; none if one repeats. -/
def knownFields? (names : List String) :
    List (Option String × Source) → Option (List (String × Source))
  | [] => some []
  | (none, _) :: _ => none
  | (some name, value) :: rest => do
    let known ← knownFields? names rest
    if name ∈ names then
      guard ((known.lookup name).isNone)
      return (name, value) :: known
    else return known

/-- Reads a record with the given fields. -/
def record? (names : List String) : Source → Option Record
  | .object fields => (knownFields? names fields).map (⟨false, ·⟩)
  | .array items =>
    if items.length ≤ names.length then some ⟨true, names.zip items⟩ else none
  | _ => none

def string? : Source → Option String
  | .string s => s
  | _ => none

def int? (low high : Int) : Source → Option Int
  | .number (some (.int value)) => if low ≤ value ∧ value ≤ high then some value else none
  | _ => none

def offset? (s : Source) : Option Nat := (s.int? 0 18446744073709551615).map Int.toNat

def signed? (s : Source) : Option Int := s.int? (-9223372036854775808) 9223372036854775807

def list? {α : Type} (read : Source → Option α) : Source → Option (List α)
  | .array items => items.mapM read
  | _ => none

/-- A value that may be null. -/
def orNull? {α : Type} (read : Source → Option α) : Source → Option (Option α)
  | .null => some none
  | s => (read s).map some

def choice? : Source → Option String
  | .string s => s
  | .object [(name, .null)] => name
  | _ => none

end Source

namespace Record

variable {α : Type}

def required? (r : Record) (name : String) (read : Source → Option α) : Option α :=
  (r.values.lookup name).bind read

/-- A field that may be null, and in an object may be left out. -/
def optional? (r : Record) (name : String) (read : Source → Option α) : Option (Option α) :=
  match r.values.lookup name with
  | some s => s.orNull? read
  | none => if r.positional then none else some none

/-- A field that may be left out. -/
def defaulted? (r : Record) (name : String) (read : Source → Option α) (value : α) : Option α :=
  match r.values.lookup name with
  | some s => read s
  | none => some value

end Record
end ProseCheck.Json
