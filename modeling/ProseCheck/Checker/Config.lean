import ProseCheck.Error
import ProseCheck.Text.Offset
import ProseCheck.Text.Segment

/-! # Configuration of checks

How much is sent, how often and for how long answers are kept. Environment variables take
precedence over the defaults.
-/

namespace ProseCheck

structure Pace where
  /-- The least time between the starts of two requests. -/
  minInterval : Millis := 5000
  /-- The extra pause after a provider asks for one. -/
  cooldown : Millis := 30000
  /-- How long a request may take. -/
  timeout : Millis := 15000
  deriving DecidableEq, Repr

structure CheckerConfig where
  pace : Pace := {}
  /-- The longest text that is sent. -/
  maxChars : Nat := 20000
  /-- How many seconds an answer is kept. -/
  cacheSeconds : Nat := 300
  /-- How many answers are kept. -/
  cacheCapacity : Nat := 1000
  /-- What stands between two paragraphs. -/
  separator : List Char := Text.blankLine
  deriving DecidableEq, Repr

abbrev Environment := String → Option String

namespace CheckerConfig

/-- Puts `value` in the place of a backslash with `letter`. -/
def unescape (letter value : Char) : List Char → List Char
  | '\\' :: c :: rest =>
    if c = letter then value :: unescape letter value rest
    else '\\' :: unescape letter value (c :: rest)
  | c :: rest => c :: unescape letter value rest
  | [] => []

/-- A number that can be an offset; blanks around it and a plus sign do not count. -/
def number? (text : String) : Option Nat :=
  let digits :=
    match Text.trim text.toList with
    | '+' :: rest => rest
    | rest => rest
  if digits.isEmpty || !digits.all Char.isDigit then none
  else
    let value := digits.foldl (fun n c => 10 * n + (c.toNat - '0'.toNat)) 0
    if value ≤ maxOffset then some value else none

def fromVariable (env : Environment) (name : String) (default : Nat) : Except ConfigError Nat :=
  match env name with
  | none => .ok default
  | some value =>
    match number? value with
    | some n => .ok n
    | none => .error (.invalidValue name value)

/-- The separator in its variable, in which line feeds and tabs may be escaped. -/
def separatorFrom (env : Environment) (default : List Char) : Except ConfigError (List Char) :=
  let name := "WEAVER_GRAMMAR_PARAGRAPH_SEPARATOR"
  match env name with
  | none => .ok default
  | some value =>
    match unescape 't' '\t' (unescape 'n' '\n' value.toList) with
    | [] => .error (.invalidValue name value)
    | separator => .ok separator

def ofEnvironment (env : Environment) : Except ConfigError CheckerConfig := do
  let c : CheckerConfig := {}
  let separator ← separatorFrom env c.separator
  return {
    pace := {
      minInterval := ← fromVariable env "WEAVER_GRAMMAR_MIN_INTERVAL_MS" c.pace.minInterval
      cooldown := ← fromVariable env "WEAVER_GRAMMAR_RATE_LIMIT_COOLDOWN_MS" c.pace.cooldown
      timeout := ← fromVariable env "WEAVER_GRAMMAR_TIMEOUT_MS" c.pace.timeout }
    maxChars := ← fromVariable env "WEAVER_GRAMMAR_MAX_CHARS" c.maxChars
    cacheSeconds := ← fromVariable env "WEAVER_GRAMMAR_CACHE_TTL_SECS" c.cacheSeconds
    cacheCapacity := ← fromVariable env "WEAVER_GRAMMAR_CACHE_CAPACITY" c.cacheCapacity
    separator }

end CheckerConfig
end ProseCheck
