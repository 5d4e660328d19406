import ProseCheck.Provider
import ProseCheck.Text.Blank

/-! # Preferences

What a user can choose for each provider, and the options of one check that follow from it.
-/

namespace ProseCheck

/-- The checks that Grazie can run. -/
inductive GrazieService where
  /-- Machine-learned error correction. -/
  | mlec
  | spell
  | rule
  deriving DecidableEq, Repr, Inhabited

namespace GrazieService

def all : List GrazieService := [mlec, spell, rule]

def name : GrazieService → String
  | mlec => "MLEC"
  | spell => "SPELL"
  | rule => "RULE"

def ofName? (name : String) : Option GrazieService := all.find? (·.name == name)

end GrazieService

/-- How strict LanguageTool is. -/
inductive CheckLevel where
  | default
  | picky
  deriving DecidableEq, Repr, Inhabited

namespace CheckLevel

def all : List CheckLevel := [default, picky]

def name : CheckLevel → String
  | default => "default"
  | picky => "picky"

def ofName? (name : String) : Option CheckLevel := all.find? (·.name == name)

end CheckLevel

structure LanguageToolPreferences where
  language : String := "en-US"
  level : CheckLevel := .default
  disabledRules : List String := []
  motherTongue : Option String := none
  /-- The service heeds them only where the language is `auto`. -/
  preferredVariants : List String := []
  apiUrl : String := "https://api.languagetool.org/v2/check"
  username : Option String := none
  apiKey : Option String := none
  deriving DecidableEq, Repr, Inhabited

structure GraziePreferences where
  language : String := "en-US"
  services : List GrazieService := GrazieService.all
  apiUrl : String := "https://api.app.grazie.ai/service/v3/correct/v3"
  token : Option String := none
  deriving DecidableEq, Repr, Inhabited

/-- The token without blanks around it, if anything is left. -/
def GraziePreferences.usableToken? (p : GraziePreferences) : Option String :=
  (p.token.map Text.trimmed).filter (!·.isEmpty)

structure Preferences where
  activeProvider : Provider := .languageTool
  languageTool : LanguageToolPreferences := {}
  grazie : GraziePreferences := {}
  deriving DecidableEq, Repr, Inhabited

/-- What one check is to do. -/
structure CheckOptions where
  language : String := ""
  disabledRules : List String := []
  services : List GrazieService := []
  deriving DecidableEq, Repr, Inhabited

/-- What one check is to do differently from the preferences. -/
structure CheckOverrides where
  language : Option String := none
  disabledRules : Option (List String) := none
  services : Option (List GrazieService) := none
  deriving DecidableEq, Repr, Inhabited

/-- The options of a check; each provider only gets those that it knows. -/
def Preferences.checkOptions (p : Preferences) (overrides : CheckOverrides) :
    Provider → CheckOptions
  | .languageTool =>
    { language := overrides.language.getD p.languageTool.language
      disabledRules := overrides.disabledRules.getD p.languageTool.disabledRules }
  | .grazie =>
    { language := overrides.language.getD p.grazie.language
      services := overrides.services.getD p.grazie.services }

end ProseCheck
