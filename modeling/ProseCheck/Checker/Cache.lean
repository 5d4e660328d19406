import ProseCheck.Finding.Basic
import ProseCheck.Preferences.Basic

/-! # Kept results

A result is kept under the provider, the options and the text that it is for, and in characters of
that text. Whole texts and single paragraphs are kept apart.
-/

namespace ProseCheck

/-- What a result is kept under. A key stands for its hash: that two keys have one hash is left
out. -/
structure CacheKey where
  provider : Provider
  options : CheckOptions
  text : List Char
  deriving DecidableEq, Repr

/-- Kept results, the newest first. -/
structure Cache where
  entries : List (CacheKey × List Finding)
  deriving DecidableEq, Repr

namespace Cache

def empty : Cache := ⟨[]⟩

def find? (c : Cache) (key : CacheKey) : Option (List Finding) := c.entries.lookup key

def insert (c : Cache) (key : CacheKey) (findings : List Finding) : Cache :=
  ⟨(key, findings) :: c.entries⟩

@[simp] theorem find?_empty (key : CacheKey) : empty.find? key = none := rfl

@[simp] theorem find?_insert (c : Cache) (key other : CacheKey) (findings : List Finding) :
    (c.insert key findings).find? other = if other = key then some findings else c.find? other := by
  by_cases h : other = key
  · simp [insert, find?, h]
  · simp [insert, find?, List.lookup_cons, beq_false_of_ne h, h]

end Cache

structure Caches where
  /-- Whether results are kept long enough to be found again. -/
  keeps : Bool
  texts : Cache
  paragraphs : Cache
  deriving DecidableEq, Repr

namespace Caches

def empty (keeps : Bool) : Caches := ⟨keeps, .empty, .empty⟩

def clear (c : Caches) : Caches := empty c.keeps

def insertText (c : Caches) (key : CacheKey) (findings : List Finding) : Caches :=
  if c.keeps then { c with texts := c.texts.insert key findings } else c

def insertParagraph (c : Caches) (key : CacheKey) (findings : List Finding) : Caches :=
  if c.keeps then { c with paragraphs := c.paragraphs.insert key findings } else c

end Caches
end ProseCheck
