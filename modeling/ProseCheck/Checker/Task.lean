import ProseCheck.Checker.Cache
import ProseCheck.Error
import ProseCheck.Text.Segment

/-! # Tasks

The check of one text. Its paragraphs are looked up one after the other, and those that are not
known are asked for under a ticket. Replies come in the order of the tickets. A failure costs the
findings of its paragraph, and the text as a whole is then not kept.
-/

namespace ProseCheck

abbrev Reply := Except Failure (List Finding)

structure Task where
  /-- What the result of the whole text is kept under. -/
  key : CacheKey
  /-- The paragraphs that have not been looked up. -/
  todo : List Text.Segment
  /-- The paragraphs that were asked for, with their tickets. -/
  asked : List (Text.Segment × Nat)
  /-- The findings so far, in characters of the text. -/
  found : List Finding
  /-- Whether nothing has failed. -/
  complete : Bool
  deriving DecidableEq, Repr

namespace Task

def start (separator : List Char) (key : CacheKey) : Task where
  key
  todo := (Text.paragraphs separator key.text).filter (!·.isBlank)
  asked := []
  found := []
  complete := true

def isDone (t : Task) : Bool := t.todo.isEmpty && t.asked.isEmpty

/-- What the result of a paragraph is kept under. -/
def paragraphKey (t : Task) (p : Text.Segment) : CacheKey := { t.key with text := p.text }

def addFindings (t : Task) (p : Text.Segment) (findings : List Finding) : Task :=
  { t with found := t.found ++ findings.map (·.shift p.start) }

/-- Looks up the next paragraph. If it is not known it is asked for under the ticket, and its text
is given back; without a ticket it has failed. -/
def lookUp (t : Task) (caches : Caches) (ticket : Option Nat) : Task × Option (List Char) :=
  match t.todo with
  | [] => (t, none)
  | p :: rest =>
    let t := { t with todo := rest }
    match caches.paragraphs.find? (t.paragraphKey p), ticket with
    | some findings, _ => (t.addFindings p findings, none)
    | none, some n => ({ t with asked := t.asked ++ [(p, n)] }, some p.text)
    | none, none => ({ t with complete := false }, none)

/-- Takes the reply for the paragraph that was asked for first. -/
def accept (t : Task) (caches : Caches) (reply : Reply) : Task × Caches :=
  match t.asked with
  | [] => (t, caches)
  | (p, _) :: rest =>
    let t := { t with asked := rest }
    match reply with
    | .ok findings => (t.addFindings p findings, caches.insertParagraph (t.paragraphKey p) findings)
    | .error _ => ({ t with complete := false }, caches)

def giveUp (t : Task) : Task := { t with asked := [], complete := t.complete && t.asked.isEmpty }

/-- The findings in the order of their positions. -/
def result (t : Task) : List Finding := Finding.sort t.found

/-- Keeps the result of a task that is done. -/
def keep (t : Task) (caches : Caches) : Caches :=
  if t.complete then caches.insertText t.key t.result else caches

end Task
end ProseCheck
