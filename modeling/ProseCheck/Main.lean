import Std.Time.DateTime.Timestamp
import ProseCheck.Cli.Run

/-! # The program

Reads and writes real files, and shows answers on the standard streams. No link to a provider is
built in, so every request goes unanswered.
-/

namespace ProseCheck

/-- The operating system's number for a directory that stands where a file should. -/
def directoryCode : UInt32 := 21

def FileError.ofSystem : IO.Error → FileError
  | .noFileOrDirectory .. => .notFound
  | .alreadyExists .. => .alreadyExists
  | .inappropriateType _ code _ =>
    if code = directoryCode ∨ code = 0 - directoryCode then .isDirectory else .notDirectory
  | e => .other e.toString

def attempt {α : Type} (action : IO α) : IO (Except FileError α) := do
  try return .ok (← action)
  catch e => return .error (.ofSystem e)

instance : Files IO where
  read path := attempt do return (← IO.FS.readBinFile path).toList
  write path text := attempt (IO.FS.writeFile path text)
  createDirectory path := attempt (IO.FS.createDirAll path)

def variableNames : List String :=
  ["HOME", "XDG_CONFIG_HOME", "WEAVER_GRAMMAR_STORE", "WEAVER_LANGUAGETOOL_API_KEY",
   "WEAVER_GRAZIE_TOKEN", "WEAVER_GRAMMAR_MIN_INTERVAL_MS",
   "WEAVER_GRAMMAR_RATE_LIMIT_COOLDOWN_MS", "WEAVER_GRAMMAR_TIMEOUT_MS",
   "WEAVER_GRAMMAR_MAX_CHARS", "WEAVER_GRAMMAR_CACHE_TTL_SECS", "WEAVER_GRAMMAR_CACHE_CAPACITY",
   "WEAVER_GRAMMAR_PARAGRAPH_SEPARATOR"]

def readEnvironment : IO Environment := do
  let values ← variableNames.mapM fun name => return (name, ← IO.getEnv name)
  return fun name => (values.lookup name).join

def readClock : IO Instant := do
  let since := (← Std.Time.Timestamp.now).toNanosecondsSinceUnixEpoch.val
  return ⟨since / Instant.second, (since % Instant.second).toNat⟩

end ProseCheck

open ProseCheck in
def main (args : List String) : IO UInt32 := do
  let around : Cli.Surroundings Unit :=
    { environment := ← readEnvironment, now := ← readClock, link := .down, world := () }
  match ← Cli.run around args with
  | .error e =>
    IO.eprintln ("error: " ++ e.message)
    return 2
  | .ok answer =>
    for warning in answer.warnings do IO.eprintln warning
    for report in answer.reports do
      for line in report.lines do IO.eprintln line
    for text in answer.output do IO.println text
    return answer.exitCode.toUInt32
