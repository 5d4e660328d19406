import ProseCheck.Error
import ProseCheck.Finding.Problem

/-! # Reports

What a user is told about an error, or about a problem and where in a file it is.
-/

namespace ProseCheck

/-- A place in a file. Lines and columns count from 1, columns in UTF-8 bytes. -/
structure Location where
  file : String
  line : Nat
  column : Nat
  deriving DecidableEq, Repr

namespace Location

/-- The line and the column behind `n` characters, where the text starts at the given ones. A line
ends with a line feed, a carriage return or one of each, which are at one place. -/
def seek : Nat → List Char → Nat × Nat → Nat × Nat
  | n + 2, '\r' :: '\n' :: rest, (line, _) => seek n rest (line + 1, 1)
  | 1, '\r' :: '\n' :: _, place => place
  | n + 1, c :: rest, (line, column) =>
    if c = '\r' ∨ c = '\n' then seek n rest (line + 1, 1)
    else seek n rest (line, column + c.utf8Size)
  | _, _, place => place

/-- The place of a character of a file. -/
def ofIndex (file : String) (text : List Char) (n : Nat) : Location :=
  let (line, column) := seek n text (1, 1)
  { file, line, column }

end Location

inductive ReportLevel where
  | error
  | warning
  | advice
  deriving DecidableEq, Repr

def ReportLevel.name : ReportLevel → String
  | error => "error"
  | warning => "warning"
  | advice => "advice"

structure Report where
  level : ReportLevel
  diagnostic : Diagnostic
  label : Option String := none
  location : Option Location := none
  /-- The bytes of the file that the label is at. -/
  bytes : Option Span := none
  deriving DecidableEq, Repr

def Severity.reportLevel : Severity → ReportLevel
  | high => .error
  | medium => .warning
  | low => .advice

namespace Report

def ofError (d : Diagnostic) : Report := { level := .error, diagnostic := d }

/-- The bytes of the markdown that a replacement takes the place of. -/
def byteSpan (markdown : List Char) (p : Problem) : Span :=
  let byte (k : Nat) : Nat := (Text.byteOffset? markdown k).getD (Text.length8 markdown)
  ⟨byte p.markdownSpan.start, byte p.markdownSpan.finish⟩

def ofProblem (file : String) (markdown : List Char) (p : Problem) : Report where
  level := p.finding.severity.reportLevel
  diagnostic :=
    { message := p.finding.message
      code := some p.finding.rule.id
      help :=
        if p.finding.replacements.isEmpty then none
        else some ("did you mean: " ++ String.intercalate ", " p.finding.replacements) }
  label := some (p.finding.shortMessage.getD p.finding.kind.name)
  location := some (.ofIndex file markdown p.markdownSpan.start)
  bytes := some (byteSpan markdown p)

def lines (r : Report) : List String :=
  let code := (r.diagnostic.code.map fun code => " [" ++ code ++ "]").getD ""
  [r.level.name ++ code ++ ": " ++ r.diagnostic.message] ++
    (r.location.toList.map fun l => s!"  at {l.file}:{l.line}:{l.column}") ++
    (r.label.toList.map ("  " ++ ·)) ++ (r.diagnostic.help.toList.map ("  help: " ++ ·))

end Report
end ProseCheck
