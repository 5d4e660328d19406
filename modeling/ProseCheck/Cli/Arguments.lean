import ProseCheck.Checker.Config

/-! # Arguments

The arguments of a command line, read one after the other. A command is a group of further commands
or takes options and operands. Some options may stand behind every command, and a variable of the
environment may stand in for an option.
-/

namespace ProseCheck.Cli

inductive Arity where
  | flag
  | one
  | many
  deriving DecidableEq, Repr

structure OptionSpec where
  name : String
  arity : Arity := .one
  short : Option Char := none
  /-- The environment variable that stands in for the option. -/
  envName : Option String := none
  mayBeEmpty : Bool := true
  deriving DecidableEq, Repr

structure OperandSpec where
  name : String
  mayBeEmpty : Bool := true
  deriving DecidableEq, Repr

inductive Grammar where
  | group (commands : List (String × Grammar))
  | leaf (options : List OptionSpec) (operands : List OperandSpec)

inductive UsageError where
  | unknownOption (name : String)
  | missingValue (name : String)
  | unexpectedValue (name : String)
  | repeated (name : String)
  | unknownCommand (name : String)
  | missingCommand
  | unexpectedOperand (text : String)
  | missingOperand (name : String)
  | invalidValue (name value : String)
  deriving DecidableEq, Repr

def UsageError.message : UsageError → String
  | unknownOption name => s!"there is no option {name}"
  | missingValue name => s!"the option {name} needs a value"
  | unexpectedValue name => s!"the option {name} takes no value"
  | repeated name => s!"the option {name} may be given only once"
  | unknownCommand name => s!"there is no command {name}"
  | missingCommand => "a command is missing"
  | unexpectedOperand text => s!"the argument {text} is not expected"
  | missingOperand name => s!"the argument {name} is missing"
  | invalidValue name value => s!"{value} is no value for {name}"

/-- What is given to one command: the options with their values, and the operands. -/
structure Given where
  values : List (String × String) := []
  operands : List String := []
  deriving DecidableEq, Repr

namespace Given

def has (g : Given) (name : String) : Bool := g.values.any (·.1 == name)

def value? (g : Given) (name : String) : Option String := g.values.lookup name

def allValues (g : Given) (name : String) : List String :=
  (g.values.filter (·.1 == name)).map (·.2)

def addValue (g : Given) (spec : OptionSpec) (value : String) : Except UsageError Given :=
  if spec.arity ≠ .many && g.has spec.name then .error (.repeated spec.name)
  else if value.isEmpty && !spec.mayBeEmpty then .error (.invalidValue spec.name value)
  else .ok { g with values := g.values ++ [(spec.name, value)] }

def addOperand (g : Given) (specs : List OperandSpec) (text : String) : Except UsageError Given :=
  match specs[g.operands.length]? with
  | none => .error (.unexpectedOperand text)
  | some spec =>
    if text.isEmpty && !spec.mayBeEmpty then .error (.invalidValue spec.name text)
    else .ok { g with operands := g.operands ++ [text] }

/-- Puts variables in the place of options that are not given. -/
def fill (g : Given) (env : Environment) (specs : List OptionSpec) : Except UsageError Given :=
  specs.foldlM (fun g spec =>
    match spec.envName.bind env with
    | some value => if g.has spec.name then .ok g else g.addValue spec value
    | none => .ok g) g

end Given

structure Reading where
  grammar : Grammar
  /-- The commands so far. -/
  path : List String := []
  /-- What is given to the commands around the present one. -/
  outer : List Given := []
  given : Given := {}
  /-- The option that waits for its value. -/
  pending : Option OptionSpec := none
  /-- Whether all that follows are operands. -/
  onlyOperands : Bool := false

def isOption (arg : String) : Bool := arg.startsWith "-" && arg ≠ "-"

namespace Reading

def options (global : List OptionSpec) (r : Reading) : List OptionSpec :=
  match r.grammar with
  | .group _ => global
  | .leaf options _ => options ++ global

def operands (r : Reading) : List OperandSpec :=
  match r.grammar with
  | .group _ => []
  | .leaf _ operands => operands

def addOperand (r : Reading) (text : String) : Except UsageError Reading :=
  return { r with given := ← r.given.addOperand r.operands text }

def readLong (global : List OptionSpec) (r : Reading) (body : List Char) :
    Except UsageError Reading := do
  let name := String.ofList (body.takeWhile (· != '='))
  let some spec := (r.options global).find? (·.name == name) | throw (.unknownOption name)
  match spec.arity, body.dropWhile (· != '=') with
  | .flag, [] => return { r with given := ← r.given.addValue spec "" }
  | .flag, _ => throw (.unexpectedValue name)
  | _, [] => return { r with pending := some spec }
  | _, _ :: value => return { r with given := ← r.given.addValue spec (String.ofList value) }

def readShort (global : List OptionSpec) (r : Reading) (letters : List Char) :
    Except UsageError Reading :=
  letters.foldlM (fun r letter => do
    let some spec := (r.options global).find? (·.short == some letter)
      | throw (.unknownOption (String.singleton letter))
    return { r with given := ← r.given.addValue spec "" }) r

def readWord (r : Reading) (arg : String) : Except UsageError Reading :=
  match r.grammar with
  | .leaf .. => r.addOperand arg
  | .group commands =>
    match commands.lookup arg with
    | some grammar =>
      .ok { grammar, path := r.path ++ [arg], outer := r.outer ++ [r.given] }
    | none => .error (.unknownCommand arg)

def step (global : List OptionSpec) (r : Reading) (arg : String) : Except UsageError Reading :=
  match r.pending with
  | some spec =>
    if isOption arg then .error (.missingValue spec.name)
    else return { r with pending := none, given := ← r.given.addValue spec arg }
  | none =>
    if r.onlyOperands then r.addOperand arg
    else
      match arg.toList with
      | ['-', '-'] => .ok { r with onlyOperands := true }
      | '-' :: '-' :: body => r.readLong global body
      | '-' :: c :: letters => r.readShort global (c :: letters)
      | _ => r.readWord arg

def finish (r : Reading) : Except UsageError Unit := do
  if let some spec := r.pending then throw (.missingValue spec.name)
  if let .group _ := r.grammar then throw .missingCommand
  if let some spec := r.operands[r.given.operands.length]? then throw (.missingOperand spec.name)

end Reading

/-- A command with what is given to it, and with the options that may stand anywhere. -/
structure Parsed where
  path : List String
  given : Given
  /-- The option that stands behind the last command counts. -/
  global : Given
  deriving DecidableEq, Repr

def parse (grammar : Grammar) (global : List OptionSpec) (env : Environment)
    (args : List String) : Except UsageError Parsed := do
  let r ← args.foldlM (Reading.step global) { grammar }
  r.finish
  let levels := (r.outer ++ [r.given]).reverse
  discard <| levels.mapM (·.fill env global)
  let given ← r.given.fill env (r.options global)
  let all : Given := { values := levels.flatMap (·.values) }
  return { path := r.path, given, global := ← all.fill env global }

end ProseCheck.Cli
