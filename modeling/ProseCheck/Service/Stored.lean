import ProseCheck.Service.Basic
import ProseCheck.Store.Basic

/-! # Stored services

A service is what its preferences and its dictionary make it, so these are all that is stored.
-/

namespace ProseCheck.Service

variable {m : Type → Type} [Monad m]

def load (store : Store m) (config : CheckerConfig) (tellsCuts : Bool) :
    ExceptT ServiceError m Service := do
  let preferences ← (store.loadPreferences).adapt .store
  let dictionary ← (store.loadDictionary).adapt .store
  ExceptT.mk <| pure <| (ofPreferences config tellsCuts preferences dictionary).mapError .config

def persist (s : Service) (store : Store m) : ExceptT ServiceError m Unit := do
  (store.savePreferences s.preferences).adapt .store
  (store.saveDictionary s.dictionary).adapt .store

end ProseCheck.Service
