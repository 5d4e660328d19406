import ProseCheck.Decimal.Shortest

/-! # JSON values

The fields of an object that was read or is to be stored stand in the order of their names, each
name once.
-/

namespace ProseCheck

inductive Json.Number where
  /-- An integer of 64 bits, with or without sign. -/
  | int (value : Int)
  | float (value : Float)
  deriving BEq, Repr, Inhabited

inductive Json where
  | null
  | bool (value : Bool)
  | number (value : Json.Number)
  | string (value : String)
  | array (items : List Json)
  | object (fields : List (String × Json))
  deriving BEq, Repr, Inhabited

namespace Json

def ofNat (n : Nat) : Json := .number (.int n)

def ofOption {α : Type} (write : α → Json) : Option α → Json
  | some a => write a
  | none => .null

def ofStrings (items : List String) : Json := .array (items.map .string)

/-- Puts a field where its name belongs, in place of the field of that name if there is one. -/
def insertField {α : Type} (name : String) (value : α) :
    List (String × α) → List (String × α)
  | [] => [(name, value)]
  | (other, old) :: rest =>
    if name < other then (name, value) :: (other, old) :: rest
    else if name = other then (name, value) :: rest
    else (other, old) :: insertField name value rest

/-- The object with the given fields; of two with one name the later counts. -/
def ofFields (fields : List (String × Json)) : Json :=
  .object (fields.foldl (fun sorted field => insertField field.1 field.2 sorted) [])

def field? (name : String) : Json → Option Json
  | .object fields => fields.lookup name
  | _ => none

end Json
end ProseCheck
