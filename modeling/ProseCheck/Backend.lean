import ProseCheck.Grazie.Adapter
import ProseCheck.LanguageTool.Adapter

/-! # Backends

A provider that is set up.
-/

namespace ProseCheck

open Net

inductive Backend where
  | languageTool (adapter : LanguageTool.Adapter)
  | grazie (adapter : Grazie.Adapter)

namespace Backend

def provider : Backend → Provider
  | languageTool _ => .languageTool
  | grazie _ => .grazie

def endpoint : Backend → Url
  | languageTool a => a.endpoint
  | grazie a => a.endpoint

/-- Whether enough is known to ask the provider; LanguageTool can be asked without credentials. -/
def isAvailable : Backend → Bool
  | languageTool _ => true
  | grazie a => a.preferences.usableToken?.isSome

def check {σ : Type} (b : Backend) (link : Link σ) (world : σ) (options : CheckOptions)
    (text : List Char) : Except Failure (List Finding) × σ :=
  let (result, world) :=
    match b with
    | languageTool a => a.check link world options text
    | grazie a => a.check link world options text
  (result.mapError (⟨b.provider, ·⟩), world)

end Backend
end ProseCheck
