import ProseCheck.Text.Lowercase

/-! # Providers

The grammar services that can check a text.
-/

namespace ProseCheck

inductive Provider where
  | languageTool
  | grazie
  deriving DecidableEq, Repr, Inhabited

namespace Provider

/-- All providers, the first choice first. -/
def all : List Provider := [languageTool, grazie]

def name : Provider → String
  | languageTool => "languagetool"
  | grazie => "grazie"

def ofName? (name : String) : Option Provider := all.find? (·.name == name)

/-- The provider that a user means: case does not count, and LanguageTool has short names. -/
def named? (input : String) : Option Provider :=
  match Text.asciiLowercase input with
  | "languagetool" | "language-tool" | "lt" => some languageTool
  | "grazie" => some grazie
  | _ => none

def unknownMessage (input : String) : String := "unknown grammar provider: " ++ input

end Provider
end ProseCheck
