import ProseCheck.Grazie.Answer
import ProseCheck.Net.Exchange
import ProseCheck.Preferences.Record

/-! # Asking Grazie

The sentences of the text go out as JSON, under the token of the user. Without a token nothing is
asked, and without a sentence nothing has to be.
-/

namespace ProseCheck.Grazie

open Net

def tokenHeader : String := "Grazie-Authenticate-JWT"

structure Adapter where
  endpoint : Url
  preferences : GraziePreferences

namespace Adapter

def ofPreferences (preferences : GraziePreferences) : Except ConfigError Adapter :=
  match Url.parse? preferences.apiUrl with
  | some endpoint => .ok ⟨endpoint, preferences⟩
  | none => .error (.invalidUrl preferences.apiUrl)

def language (a : Adapter) (options : CheckOptions) : String :=
  if options.language.isEmpty then a.preferences.language else options.language

def services (a : Adapter) (options : CheckOptions) : List GrazieService :=
  if options.services.isEmpty then a.preferences.services else options.services

def request (a : Adapter) (token : String) (options : CheckOptions)
    (sentences : List Text.Segment) : Request where
  url := a.endpoint
  authentication := some (tokenHeader, token)
  content := .json <| .ofFields
    [("sentences", Json.ofStrings (sentences.map fun s => String.ofList s.text)),
     ("lang", .string (a.language options)),
     ("services", .array ((a.services options).map (·.toJson)))]

def readResponse (sentences : List Text.Segment) (response : Option Response) :
    Except Trouble (List Finding) := do
  let source ← Net.readResponse response
  match sentences? source with
  | some answer => return findings answer sentences
  | none => throw .decode

def check {σ : Type} (a : Adapter) (link : Link σ) (world : σ) (options : CheckOptions)
    (text : List Char) : Except Trouble (List Finding) × σ :=
  match a.preferences.usableToken? with
  | none => (.error .unavailable, world)
  | some token =>
    match Text.sentences text with
    | [] => (.ok [], world)
    | sentences =>
      let (response, world) := send link world (a.request token options sentences)
      (readResponse sentences response, world)

end Adapter
end ProseCheck.Grazie
