/-! # Backticks

Code is delimited by runs of backticks. Three backticks start or end a fenced block; any other run
opens an inline span, which the next run of the same length on the same line closes.
-/

namespace ProseCheck.Markdown

def backtick : Char := '\x60'

def fenceLength : Nat := 3

def runLength (text : List Char) : Nat := (text.takeWhile (· == backtick)).length

def startsFence (text : List Char) : Bool := fenceLength ≤ runLength text

/-- How far it is to the end of a run of exactly `run` backticks on this line, when `seen`
backticks stand directly in front of the text. -/
def closingRun? (run seen : Nat) : List Char → Option Nat
  | [] => if seen = run then some 0 else none
  | c :: cs =>
    if c = backtick then (closingRun? run (seen + 1) cs).map (· + 1)
    else if seen = run then some 0
    else if c = '\n' then none
    else (closingRun? run 0 cs).map (· + 1)

/-- The length of the inline code span that a text starts with, both runs included. -/
def codeSpan? (text : List Char) : Option Nat :=
  let run := runLength text
  if run = 0 then none else (closingRun? run 0 (text.drop run)).map (run + ·)

/-- The length of the code span that a text starts with, or of its backticks if they close
nowhere. -/
def codeLength (text : List Char) : Nat := (codeSpan? text).getD (runLength text)

end ProseCheck.Markdown
