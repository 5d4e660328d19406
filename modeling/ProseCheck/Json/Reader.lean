import ProseCheck.Json.Token

/-! # Reading JSON

A stack of unfinished arrays and objects takes one token after the other, so nesting needs no
recursion. What may come next is part of the state.
-/

namespace ProseCheck.Json

/-- An array or object that is not closed yet, with its items in reverse. -/
inductive Frame where
  | array (items : List Source)
  | object (fields : List (Option String × Source))
  /-- An object that waits for the value of a field. -/
  | field (fields : List (Option String × Source)) (name : Option String)

inductive Expected where
  | value
  /-- The first item of an array, or its end. -/
  | itemOrEnd
  /-- The first name in an object, or its end. -/
  | nameOrEnd
  | name
  | colon
  | commaOrEnd
  /-- The text is complete. -/
  | nothing (value : Source)

structure Reader where
  stack : List Frame
  expected : Expected

namespace Reader

def start : Reader := ⟨[], .value⟩

def put (value : Source) : List Frame → Option Reader
  | [] => some ⟨[], .nothing value⟩
  | .array items :: stack => some ⟨.array (value :: items) :: stack, .commaOrEnd⟩
  | .field fields name :: stack =>
    some ⟨.object ((name, value) :: fields) :: stack, .commaOrEnd⟩
  | .object _ :: _ => none

def beginValue (stack : List Frame) : Token → Option Reader
  | .beginArray => some ⟨.array [] :: stack, .itemOrEnd⟩
  | .beginObject => some ⟨.object [] :: stack, .nameOrEnd⟩
  | .single value => put value stack
  | _ => none

def endArray : List Frame → Option Reader
  | .array items :: stack => put (.array items.reverse) stack
  | _ => none

def endObject : List Frame → Option Reader
  | .object fields :: stack => put (.object fields.reverse) stack
  | _ => none

def beginField : List Frame → Token → Option Reader
  | .object fields :: stack, .single (.string name) => some ⟨.field fields name :: stack, .colon⟩
  | _, _ => none

def step (r : Reader) (t : Token) : Option Reader :=
  match r.expected, t with
  | .itemOrEnd, .endArray => endArray r.stack
  | .nameOrEnd, .endObject => endObject r.stack
  | .value, t | .itemOrEnd, t => beginValue r.stack t
  | .name, t | .nameOrEnd, t => beginField r.stack t
  | .colon, .colon => some ⟨r.stack, .value⟩
  | .commaOrEnd, .endArray => endArray r.stack
  | .commaOrEnd, .endObject => endObject r.stack
  | .commaOrEnd, .comma =>
    match r.stack with
    | .array _ :: _ => some ⟨r.stack, .value⟩
    | .object _ :: _ => some ⟨r.stack, .name⟩
    | _ => none
  | _, _ => none

end Reader

def source? (text : String) : Option Source := do
  let ts ← tokens? text.toList
  let r ← ts.foldlM Reader.step Reader.start
  match r.expected with
  | .nothing value => some value
  | _ => none

def parse? (text : String) : Option Json := (source? text).bind (·.keep?)

end ProseCheck.Json
