import ProseCheck.Text.Blank
import ProseCheck.Text.Lowercase
import ProseCheck.Time.Instant

/-! # The dictionary

Words that are not to be reported, for every rule or for one. Words are compared in lower case.
-/

namespace ProseCheck

structure DictionaryItem where
  word : String
  date : Instant
  /-- The only rule that the word is known to, if it is not known to all. -/
  ruleId : Option String
  deriving DecidableEq, Repr, Inhabited

structure Dictionary where
  items : List DictionaryItem
  deriving DecidableEq, Repr, Inhabited

namespace DictionaryItem

/-- Whether the item is for `word`, a lower-case word, and exactly this scope. -/
def isFor (item : DictionaryItem) (word : String) (ruleId : Option String) : Bool :=
  Text.lowercase item.word == word && item.ruleId == ruleId

def covers (item : DictionaryItem) (word : String) (ruleId : Option String) : Bool :=
  Text.lowercase item.word == word && (item.ruleId.isNone || item.ruleId == ruleId)

end DictionaryItem

namespace Dictionary

def empty : Dictionary := ⟨[]⟩

/-- Whether a word, blanks around it aside, is not to be reported. -/
def contains (d : Dictionary) (word : String) (ruleId : Option String) : Bool :=
  let word := Text.trimmed word
  !word.isEmpty && d.items.any (·.covers (Text.lowercase word) ruleId)

/-- Adds a word, unless it is blank or there already. -/
def add (d : Dictionary) (now : Instant) (word : String) (ruleId : Option String) :
    Bool × Dictionary :=
  let word := Text.trimmed word
  if word.isEmpty || d.items.any (·.isFor (Text.lowercase word) ruleId) then (false, d)
  else (true, ⟨d.items ++ [⟨word, now, ruleId⟩]⟩)

def remove (d : Dictionary) (word : String) (ruleId : Option String) : Bool × Dictionary :=
  let word := Text.lowercase (Text.trimmed word)
  let kept := d.items.filter (!·.isFor word ruleId)
  (kept.length != d.items.length, ⟨kept⟩)

end Dictionary
end ProseCheck
