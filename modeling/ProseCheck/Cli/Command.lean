import ProseCheck.Cli.Arguments
import ProseCheck.Preferences.Basic

/-! # Commands

What a user can tell the program to do.
-/

namespace ProseCheck.Cli

structure LanguageToolChanges where
  language : Option String
  level : Option String
  motherTongue : Option String
  url : Option String
  username : Option String
  apiKey : Option String
  deriving DecidableEq, Repr

structure GrazieChanges where
  token : Option String
  language : Option String
  url : Option String
  deriving DecidableEq, Repr

inductive Command where
  | check (file : String) (provider : Option Provider) (overrides : CheckOverrides) (json : Bool)
  | strip (file : String) (mapping : Bool)
  | addWord (word : String) (rule : Option String)
  | removeWord (word : String) (rule : Option String)
  | listWords
  | showProviders
  | setProvider (provider : Provider)
  | configureLanguageTool (changes : LanguageToolChanges)
  | configureGrazie (changes : GrazieChanges)
  deriving DecidableEq, Repr

structure Invocation where
  store : Option String
  command : Command
  deriving DecidableEq, Repr

/-! ### Grammar -/

def globalOptions : List OptionSpec :=
  [{ name := "store", envName := some "WEAVER_GRAMMAR_STORE", mayBeEmpty := false },
   { name := "verbose", arity := .flag, short := some 'v' }]

def fileOperand : OperandSpec := { name := "FILE", mayBeEmpty := false }

def rule : OptionSpec := { name := "rule" }

def grammar : Grammar :=
  .group
    [("check", .leaf
        [{ name := "provider" }, { name := "language" }, { name := "disable-rule", arity := .many },
         { name := "json", arity := .flag }] [fileOperand]),
     ("strip", .leaf [{ name := "mapping", arity := .flag }] [fileOperand]),
     ("dictionary", .group
       [("add", .leaf [rule] [{ name := "WORD" }]), ("remove", .leaf [rule] [{ name := "WORD" }]),
        ("list", .leaf [] [])]),
     ("provider", .group
       [("show", .leaf [] []), ("set", .leaf [] [{ name := "PROVIDER" }])]),
     ("configure", .group
       [("languagetool", .leaf
          [{ name := "language" }, { name := "level" }, { name := "mother-tongue" },
           { name := "url" }, { name := "username" },
           { name := "api-key", envName := some "WEAVER_LANGUAGETOOL_API_KEY" }] []),
        ("grazie", .leaf
          [{ name := "token", envName := some "WEAVER_GRAZIE_TOKEN" }, { name := "language" },
           { name := "url" }] [])])]

/-! ### Reading -/

def provider (name text : String) : Except UsageError Provider :=
  match Provider.named? text with
  | some p => .ok p
  | none => .error (.invalidValue name text)

def Command.ofParsed (p : Parsed) : Except UsageError Command :=
  let g := p.given
  match p.path, g.operands with
  | ["check"], [file] => do
    let provider ← (g.value? "provider").mapM (provider "provider")
    let rules := g.allValues "disable-rule"
    let overrides : CheckOverrides :=
      { language := g.value? "language"
        disabledRules := if rules.isEmpty then none else some rules }
    return check file provider overrides (g.has "json")
  | ["strip"], [file] => return strip file (g.has "mapping")
  | ["dictionary", "add"], [word] => return addWord word (g.value? "rule")
  | ["dictionary", "remove"], [word] => return removeWord word (g.value? "rule")
  | ["dictionary", "list"], _ => return listWords
  | ["provider", "show"], _ => return showProviders
  | ["provider", "set"], [name] => return setProvider (← provider "PROVIDER" name)
  | ["configure", "languagetool"], _ =>
    return configureLanguageTool
      { language := g.value? "language", level := g.value? "level"
        motherTongue := g.value? "mother-tongue", url := g.value? "url"
        username := g.value? "username", apiKey := g.value? "api-key" }
  | ["configure", "grazie"], _ =>
    return configureGrazie
      { token := g.value? "token", language := g.value? "language", url := g.value? "url" }
  | _, _ => throw .missingCommand

def Invocation.ofArguments (env : Environment) (args : List String) :
    Except UsageError Invocation := do
  let p ← parse grammar globalOptions env args
  return { store := p.global.value? "store", command := ← Command.ofParsed p }

end ProseCheck.Cli
