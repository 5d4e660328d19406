import ProseCheck.Finding.Basic

/-! # Classification

How the words a provider uses for a rule decide the kind and the severity of a finding. The category
counts before the issue type, and a confidence only where neither says anything.
-/

namespace ProseCheck

/-- How sure a provider is. -/
inductive Confidence where
  | high
  | low
  /-- From 0 to 1. -/
  | score (value : Float)
  deriving Repr

namespace Confidence

def ofLevel? (level : String) : Option Confidence :=
  match Text.asciiLowercase level with
  | "high" => some high
  | "low" => some low
  | _ => none

def severity : Confidence → Severity
  | high => .high
  | low => .low
  | score value => if value ≥ 0.8 then .high else if value < 0.4 then .low else .medium

end Confidence

def Text.occurs (word : List Char) : List Char → Bool
  | [] => word.isEmpty
  | c :: cs => word.isPrefixOf (c :: cs) || occurs word cs

/-- What a category or an issue type says about a finding, if anything. -/
def classifySignal? (signal : String) : Option (Kind × Severity) :=
  let signal := Text.asciiLowercase signal
  let mentions (word : String) : Bool := Text.occurs word.toList signal.toList
  if mentions "spell" || signal == "typos" then some (.spelling, .high)
  else if mentions "style" || ["redundancy", "plain_english", "register"].contains signal then
    some (.grammar, .low)
  else if mentions "punctuation" || signal == "typography" then some (.grammar, .medium)
  else if signal == "grammar" then some (.grammar, .high)
  else none

def classify (category issueType : Option String) (confidence : Option Confidence) :
    Kind × Severity :=
  ((category.bind classifySignal?).or (issueType.bind classifySignal?)).getD
    (.grammar, (confidence.map (·.severity)).getD .medium)

end ProseCheck
