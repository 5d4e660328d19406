import ProseCheck.Dictionary.Record
import ProseCheck.Error
import ProseCheck.Preferences.Record

/-! # Stores

JSON values under keys. The preferences and the dictionary of a user are kept under a key each, and
what is not there has its default.
-/

namespace ProseCheck

structure Store (m : Type → Type) where
  get? : String → ExceptT StoreError m (Option Json)
  set : String → Json → ExceptT StoreError m Unit

namespace Store

variable {m : Type → Type} [Monad m]

def preferencesKey : String := "preferences"

def dictionaryKey : String := "dictionary"

def load? {α : Type} (s : Store m) (key : String) (read : Json.Source → Option α) :
    ExceptT StoreError m (Option α) := do
  match ← s.get? key with
  | none => return none
  | some value =>
    match read value.toSource with
    | some a => return some a
    | none => throw (.decode key)

def loadPreferences (s : Store m) : ExceptT StoreError m Preferences :=
  return (← s.load? preferencesKey Preferences.ofSource?).getD {}

def savePreferences (s : Store m) (p : Preferences) : ExceptT StoreError m Unit :=
  s.set preferencesKey p.toJson

def loadDictionary (s : Store m) : ExceptT StoreError m Dictionary :=
  return (← s.load? dictionaryKey Dictionary.ofSource?).getD .empty

def saveDictionary (s : Store m) (d : Dictionary) : ExceptT StoreError m Unit :=
  s.set dictionaryKey d.toJson

/-! ### In memory -/

/-- Values in the order of their keys. -/
abbrev Entries := List (String × Json)

def memory : Store (StateM Entries) where
  get? key := fun entries => (.ok (entries.lookup key), entries)
  set key value := fun entries => (.ok (), Json.insertField key value entries)

end Store
end ProseCheck
