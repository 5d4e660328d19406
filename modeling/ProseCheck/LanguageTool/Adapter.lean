import ProseCheck.LanguageTool.Answer
import ProseCheck.Net.Exchange
import ProseCheck.Preferences.Basic

/-! # Asking LanguageTool

The text goes out as a form, with what the preferences and the options of the check say about it.
-/

namespace ProseCheck.LanguageTool

open Net

def clientId : String := "weaver"

structure Adapter where
  endpoint : Url
  preferences : LanguageToolPreferences

namespace Adapter

def ofPreferences (preferences : LanguageToolPreferences) : Except ConfigError Adapter :=
  match Url.parse? preferences.apiUrl with
  | some endpoint => .ok ⟨endpoint, preferences⟩
  | none => .error (.invalidUrl preferences.apiUrl)

def language (a : Adapter) (options : CheckOptions) : String :=
  if options.language.isEmpty then a.preferences.language else options.language

/-- A field with its items between commas, unless there are none. -/
def listField (name : String) (items : List String) : List (String × String) :=
  if items.isEmpty then [] else [(name, String.intercalate "," items)]

def credentials (p : LanguageToolPreferences) : List (String × String) :=
  match p.username, p.apiKey with
  | some username, some apiKey => [("username", username), ("apiKey", apiKey)]
  | _, _ => []

def form (a : Adapter) (options : CheckOptions) (text : List Char) : List (String × String) :=
  let p := a.preferences
  let language := a.language options
  [("text", String.ofList text), ("clientId", clientId), ("level", p.level.name)] ++
    listField "disabledRules" options.disabledRules ++
    p.motherTongue.toList.map (("motherTongue", ·)) ++
    (if language = "auto" then listField "preferredVariants" p.preferredVariants else []) ++
    credentials p ++ [("language", language)]

def request (a : Adapter) (options : CheckOptions) (text : List Char) : Request where
  url := a.endpoint
  accept := "application/json"
  content := .form (a.form options text)

def readResponse (text : List Char) (response : Option Response) :
    Except Trouble (List Finding) := do
  let source ← Net.readResponse response
  match matches? source with
  | some ms => return findings ms text
  | none => throw .decode

def check {σ : Type} (a : Adapter) (link : Link σ) (world : σ) (options : CheckOptions)
    (text : List Char) : Except Trouble (List Finding) × σ :=
  let (response, world) := send link world (a.request options text)
  (readResponse text response, world)

end Adapter
end ProseCheck.LanguageTool
