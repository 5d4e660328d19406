import ProseCheck.Backend
import ProseCheck.Checker.Basic
import ProseCheck.Finding.Placement
import ProseCheck.Language

/-! # The service

Checks markdown documents with the provider that is active, for a user with preferences and a
dictionary. Each backend is set up from the preferences for its provider. The active provider is one
that is available.
-/

namespace ProseCheck

open Markdown Net

structure Service where
  preferences : Preferences
  languageTool : LanguageTool.Adapter
  grazie : Grazie.Adapter
  dictionary : Dictionary
  /-- The document that was stripped last. It is known by its text, which stands for the hash: that
  two texts have one hash is left out. -/
  last : Option Stripped
  /-- How many documents were stripped. -/
  strips : Nat
  checker : Checker Backend

namespace Service

/-! ### Providers -/

def backend (s : Service) : Provider → Backend
  | .languageTool => .languageTool s.languageTool
  | .grazie => .grazie s.grazie

def isAvailable (s : Service) (p : Provider) : Bool := (s.backend p).isAvailable

def available (s : Service) : List Provider := Provider.all.filter s.isAvailable

def active (s : Service) : Provider := s.preferences.activeProvider

def activate (s : Service) (p : Provider) : Service :=
  { s with preferences := { s.preferences with activeProvider := p } }

/-- Falls back to the first provider that is available, if the active one is not. -/
def ensureActive (s : Service) : Service :=
  if s.isAvailable s.active then s else s.activate (s.available.headD .languageTool)

def ofPreferences (config : CheckerConfig) (tellsCuts : Bool) (preferences : Preferences)
    (dictionary : Dictionary) : Except ConfigError Service := do
  let languageTool ← LanguageTool.Adapter.ofPreferences preferences.languageTool
  let grazie ← Grazie.Adapter.ofPreferences preferences.grazie
  let s : Service :=
    { preferences, languageTool, grazie, dictionary, last := none, strips := 0
      checker := .start config tellsCuts }
  return s.ensureActive

def select (s : Service) (p : Provider) : Except ServiceError Service :=
  if s.isAvailable p then .ok (s.activate p) else .error (.unavailable p)

def updateLanguageTool (s : Service) (p : LanguageToolPreferences) :
    Except ConfigError Service := do
  let languageTool ← LanguageTool.Adapter.ofPreferences p
  let s := { s with languageTool, preferences := { s.preferences with languageTool := p } }
  return s.ensureActive

def updateGrazie (s : Service) (p : GraziePreferences) : Except ConfigError Service := do
  let grazie ← Grazie.Adapter.ofPreferences p
  let s := { s with grazie, preferences := { s.preferences with grazie := p } }
  return s.ensureActive

/-! ### The dictionary -/

def addWord (s : Service) (now : Instant) (word : String) (rule : Option String) :
    Bool × Service :=
  let (added, dictionary) := s.dictionary.add now word rule
  (added, { s with dictionary })

def removeWord (s : Service) (word : String) (rule : Option String) : Bool × Service :=
  let (removed, dictionary) := s.dictionary.remove word rule
  (removed, { s with dictionary })

/-! ### Checking -/

def clearCache (s : Service) : Service := { s with checker := s.checker.clearCache }

def tellCuts (s : Service) (on : Bool) : Service :=
  { s with checker := { s.checker with tellsCuts := on } }

/-- The stripped document, which is not stripped again if it was the last one. -/
def strip (s : Service) (markdown : List Char) : Stripped × Service :=
  match s.last.filter (·.markdown = markdown) with
  | some d => (d, s)
  | none =>
    let d := Markdown.strip markdown
    (d, { s with last := some d, strips := s.strips + 1 })

/-- Asks the backend of an order over a link. -/
def askOver {σ : Type} (link : Link σ) : Ask Backend σ := fun world _ order =>
  let (reply, world) := order.backend.check link world order.options order.text
  (.replies 0 reply, world)

/-- The problems of a document. A provider that fails reports none. -/
def check {σ : Type} (s : Service) (link : Link σ) (markdown : List Char)
    (overrides : CheckOverrides) (world : σ) : List Problem × Option Cut × Service × σ :=
  if Text.allBlank markdown then ([], none, s, world)
  else
    let (d, s) := s.strip markdown
    if Text.allBlank d.text then ([], none, s, world)
    else
      let request : CheckRequest Backend :=
        { backend := s.backend s.active, provider := s.active
          options := s.preferences.checkOptions overrides s.active, text := d.text }
      let (findings, cut, checker, world) := s.checker.check (askOver link) request world
      (problems d s.dictionary findings, cut, { s with checker }, world)

end Service
end ProseCheck
