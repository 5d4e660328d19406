import ProseCheck.Provider
import ProseCheck.Text.Offset

/-! # Findings

What a provider says about a stretch of the text it was given.
-/

namespace ProseCheck

inductive Kind where
  | spelling
  | grammar
  deriving DecidableEq, Repr, Inhabited

def Kind.all : List Kind := [spelling, grammar]

def Kind.name : Kind → String
  | spelling => "spelling"
  | grammar => "grammar"

inductive Severity where
  | low
  | medium
  | high
  deriving DecidableEq, Repr, Inhabited

def Severity.all : List Severity := [low, medium, high]

def Severity.name : Severity → String
  | low => "low"
  | medium => "medium"
  | high => "high"

/-- The rule that a provider applied. -/
structure Rule where
  id : String
  description : Option String
  categoryId : Option String
  categoryName : Option String
  /-- What the provider calls this sort of problem, such as `misspelling`. -/
  issueType : Option String
  deriving DecidableEq, Repr, Inhabited

/-- A problem in the text that was checked. -/
structure Finding where
  message : String
  shortMessage : Option String
  offset : Nat
  length : Nat
  replacements : List String
  rule : Rule
  kind : Kind
  severity : Severity
  provider : Provider
  deriving DecidableEq, Repr, Inhabited

namespace Finding

def span (f : Finding) : Span := ⟨f.offset, f.offset + f.length⟩

def shift (f : Finding) (delta : Nat) : Finding := { f with offset := f.offset + delta }

/-- Earlier findings first, and of those that start together the shorter first. -/
def precedes (f g : Finding) : Bool :=
  f.offset < g.offset || (f.offset == g.offset && f.length ≤ g.length)

/-- Findings in the order of their positions; where these agree, the order stays. -/
def sort (fs : List Finding) : List Finding := fs.mergeSort precedes

end Finding
end ProseCheck
