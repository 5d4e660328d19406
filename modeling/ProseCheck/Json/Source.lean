import ProseCheck.Json.Numeral

/-! # JSON as it was written

What a JSON text says before it has to make sense as a value. Field names may repeat, strings may
hold half a surrogate pair, numbers may be too large and nesting may be deep: a reader that ignores
a part of a text accepts these there, a reader that keeps the part does not.
-/

namespace ProseCheck.Json

inductive Source where
  | null
  | bool (value : Bool)
  /-- None when the number is too large. -/
  | number (value : Option Number)
  /-- None when a surrogate stands alone in it. -/
  | string (value : Option String)
  | array (items : List Source)
  | object (fields : List (Option String × Source))
  deriving Inhabited

/-- How deeply a value that is kept may be nested. -/
def maxDepth : Nat := 127

mutual

/-- The value of a source that is nested at most `depth` deep. -/
def Source.keepWithin (depth : Nat) : Source → Option Json
  | .null => some .null
  | .bool b => some (.bool b)
  | .number n => n.map .number
  | .string s => s.map .string
  | .array items =>
    if depth = 0 then none else (keepItems (depth - 1) items).map .array
  | .object fields =>
    if depth = 0 then none else (keepFields (depth - 1) fields).map ofFields

def Source.keepItems (depth : Nat) : List Source → Option (List Json)
  | [] => some []
  | item :: rest => do
    let value ← item.keepWithin depth
    let values ← keepItems depth rest
    return value :: values

def Source.keepFields (depth : Nat) :
    List (Option String × Source) → Option (List (String × Json))
  | [] => some []
  | (name, item) :: rest => do
    let name ← name
    let value ← item.keepWithin depth
    let values ← keepFields depth rest
    return (name, value) :: values

end

def Source.keep? (s : Source) : Option Json := s.keepWithin maxDepth

mutual

def toSource : Json → Source
  | .null => .null
  | .bool b => .bool b
  | .number n => .number (some n)
  | .string s => .string (some s)
  | .array items => .array (itemSources items)
  | .object fields => .object (fieldSources fields)

def itemSources : List Json → List Source
  | [] => []
  | item :: rest => item.toSource :: itemSources rest

def fieldSources : List (String × Json) → List (Option String × Source)
  | [] => []
  | (name, value) :: rest => (some name, value.toSource) :: fieldSources rest

end

end ProseCheck.Json
