import ProseCheck.Cli.Command
import ProseCheck.Report
import ProseCheck.Service.Stored
import ProseCheck.Store.File

/-! # Running commands

A command reads and writes files, and what it has to say is its answer. A command that fails says
only why. The store is written as the last thing, so a command that fails leaves it as it was.
-/

namespace ProseCheck.Cli

/-- What a run shows, and how it ends. -/
structure Answer where
  exitCode : Nat := 0
  /-- Texts that stand on lines of their own. -/
  output : List String := []
  warnings : List String := []
  reports : List Report := []

def Answer.say (text : String) : Answer := { output := [text] }

/-- What is around a run. -/
structure Surroundings (σ : Type) where
  environment : Environment
  now : Instant
  link : Net.Link σ
  world : σ

def defaultStore (env : Environment) : String :=
  let config :=
    match (env "XDG_CONFIG_HOME").filter (·.startsWith "/") with
    | some directory => directory
    | none =>
      match (env "HOME").filter (!·.isEmpty) with
      | some home => Path.join home ".config"
      | none => "."
  Path.join (Path.join config "weaver") "grammar.json"

section

variable {m : Type → Type} [Monad m] [Files m] {σ : Type}

def document (path : String) : ExceptT Diagnostic m (List Char) :=
  ExceptT.mk do
    return (← Files.readText path).mapError fun e => { message := e.message }

def load (store : Store m) (config : CheckerConfig) : ExceptT Diagnostic m Service :=
  (Service.load store config true).adapt (·.diagnostic)

def persist (s : Service) (store : Store m) : ExceptT Diagnostic m Unit :=
  (s.persist store).adapt (·.diagnostic)

def orFail {ε α : Type} (diagnostic : ε → Diagnostic) (result : Except ε α) :
    ExceptT Diagnostic m α :=
  ExceptT.mk (pure (result.mapError diagnostic))

/-! ### Checking -/

def cutWarning (c : Cut) : String :=
  s!"warning: document has {c.length} characters, only the first {c.kept} were checked"

def problemsAnswer (file : String) (markdown : List Char) (active : Provider) (json : Bool)
    (ps : List Problem) : Answer :=
  if json then .say (Json.array (ps.map (·.toJson))).pretty
  else if ps.isEmpty then .say s!"No problems found in {file}"
  else
    { output := [s!"{ps.length} problem(s) found in {file} using {active.name}"]
      reports := ps.map (Report.ofProblem file markdown) }

def check (around : Surroundings σ) (store : Store m) (file : String) (provider : Option Provider)
    (overrides : CheckOverrides) (json : Bool) : ExceptT Diagnostic m Answer := do
  let markdown ← document file
  let config ← orFail ConfigError.diagnostic (CheckerConfig.ofEnvironment around.environment)
  let s ← load store config
  let s ←
    match provider with
    | some p => orFail ServiceError.diagnostic (s.select p)
    | none => pure s
  let (ps, cut, s, _) := s.check around.link markdown overrides around.world
  return { problemsAnswer file markdown s.active json ps with
    warnings := cut.toList.map cutWarning }

/-! ### Stripping -/

/-- The stripped text, and perhaps where each of its characters is from. -/
def stripped (d : Markdown.Stripped) (mapping : Bool) : List String :=
  let rows := d.kept.zipIdx.map fun (k, j) => s!"{j}\t{k.origin}\t{Text.visibleChar k.char}"
  [String.ofList d.text] ++ if mapping then ["", "stripped\toriginal\tchar"] ++ rows else []

def strip (file : String) (mapping : Bool) : ExceptT Diagnostic m Answer := do
  let markdown ← document file
  return { output := stripped (Markdown.strip markdown) mapping }

/-! ### The dictionary -/

def loadDictionary (store : Store m) : ExceptT Diagnostic m Dictionary :=
  store.loadDictionary.adapt (·.diagnostic)

def saveDictionary (store : Store m) (d : Dictionary) : ExceptT Diagnostic m Unit :=
  (store.saveDictionary d).adapt (·.diagnostic)

def addWord (now : Instant) (store : Store m) (word : String) (rule : Option String) :
    ExceptT Diagnostic m Answer := do
  match (← loadDictionary store).add now word rule with
  | (true, d) =>
    saveDictionary store d
    return .say s!"Added \"{word}\""
  | (false, _) => return .say s!"\"{word}\" is already in the dictionary"

def removeWord (store : Store m) (word : String) (rule : Option String) :
    ExceptT Diagnostic m Answer := do
  match (← loadDictionary store).remove word rule with
  | (true, d) =>
    saveDictionary store d
    return .say s!"Removed \"{word}\""
  | (false, _) => return .say s!"\"{word}\" is not in the dictionary"

def itemLine (item : DictionaryItem) : String :=
  String.intercalate "\t" ([item.word, item.date.toShown] ++ item.ruleId.toList)

def listWords (store : Store m) : ExceptT Diagnostic m Answer := do
  return { output := (← loadDictionary store).items.map itemLine }

/-! ### Providers -/

def providerLine (s : Service) (p : Provider) : String :=
  let marker := if p = s.active then "*" else " "
  let status := if s.isAvailable p then "available" else "not configured"
  s!"{marker} {p.name} ({status})"

def showProviders (store : Store m) : ExceptT Diagnostic m Answer := do
  let s ← load store {}
  return { output := Provider.all.map (providerLine s) }

def setProvider (store : Store m) (p : Provider) : ExceptT Diagnostic m Answer := do
  let s ← orFail ServiceError.diagnostic ((← load store {}).select p)
  persist s store
  return .say s!"Active provider: {p.name}"

/-! ### Preferences -/

def checkLevel (text : String) : Except Diagnostic CheckLevel :=
  let name := Text.asciiLowercase text
  match CheckLevel.ofName? name with
  | some l => .ok l
  | none =>
    .error
      { message := "unknown check level: " ++ name
        help := some "use \x60default\x60 or \x60picky\x60" }

def LanguageToolChanges.apply (c : LanguageToolChanges) (p : LanguageToolPreferences) :
    Except Diagnostic LanguageToolPreferences := do
  return { p with
    language := c.language.getD p.language
    level := (← c.level.mapM checkLevel).getD p.level
    motherTongue := c.motherTongue.or p.motherTongue
    apiUrl := c.url.getD p.apiUrl
    username := c.username.or p.username
    apiKey := c.apiKey.or p.apiKey }

def GrazieChanges.apply (c : GrazieChanges) (p : GraziePreferences) : GraziePreferences :=
  { p with
    token := c.token.or p.token
    language := c.language.getD p.language
    apiUrl := c.url.getD p.apiUrl }

def configure (store : Store m) (path : String) (change : Service → Except Diagnostic Service) :
    ExceptT Diagnostic m Answer := do
  let s ← orFail id (change (← load store {}))
  persist s store
  return .say s!"Saved preferences to {path}"

def changeLanguageTool (c : LanguageToolChanges) (s : Service) : Except Diagnostic Service := do
  (s.updateLanguageTool (← c.apply s.preferences.languageTool)).mapError ConfigError.diagnostic

def changeGrazie (c : GrazieChanges) (s : Service) : Except Diagnostic Service :=
  (s.updateGrazie (c.apply s.preferences.grazie)).mapError ConfigError.diagnostic

/-! ### Command lines -/

def Command.run (around : Surroundings σ) (path : String) :
    Command → ExceptT Diagnostic m Answer :=
  let store : Store m := Store.file path
  fun
  | check file provider overrides json => Cli.check around store file provider overrides json
  | strip file mapping => Cli.strip file mapping
  | addWord word rule => Cli.addWord around.now store word rule
  | removeWord word rule => Cli.removeWord store word rule
  | listWords => Cli.listWords store
  | showProviders => Cli.showProviders store
  | setProvider p => Cli.setProvider store p
  | configureLanguageTool changes => configure store path (changeLanguageTool changes)
  | configureGrazie changes => configure store path (changeGrazie changes)

/-- Runs the program. A command line that makes no sense ends with 2, any other failure with 1. -/
def run (around : Surroundings σ) (args : List String) : m (Except UsageError Answer) :=
  match Invocation.ofArguments around.environment args with
  | .error e => return .error e
  | .ok i => do
    let path := i.store.getD (defaultStore around.environment)
    match ← (i.command.run around path).run with
    | .ok answer => return .ok answer
    | .error d => return .ok { exitCode := 1, reports := [.ofError d] }

end
end ProseCheck.Cli
