import ProseCheck.Finding.Record
import ProseCheck.Preferences.Basic

/-! # Preferences as JSON

All fields are written. A field that is left out has its default.
-/

namespace ProseCheck

open Json

def GrazieService.toJson (v : GrazieService) : Json := .string v.name

def GrazieService.ofSource? (s : Source) : Option GrazieService := s.choice?.bind ofName?

def CheckLevel.toJson (l : CheckLevel) : Json := .string l.name

def CheckLevel.ofSource? (s : Source) : Option CheckLevel := s.choice?.bind ofName?

namespace LanguageToolPreferences

def toJson (p : LanguageToolPreferences) : Json :=
  .ofFields
    [("language", .string p.language), ("level", p.level.toJson),
     ("disabledRules", ofStrings p.disabledRules),
     ("motherTongue", ofOption .string p.motherTongue),
     ("preferredVariants", ofStrings p.preferredVariants),
     ("apiUrl", .string p.apiUrl), ("username", ofOption .string p.username),
     ("apiKey", ofOption .string p.apiKey)]

def ofSource? (s : Source) : Option LanguageToolPreferences := do
  let r ← s.record? ["language", "level", "disabledRules", "motherTongue", "preferredVariants",
    "apiUrl", "username", "apiKey"]
  let p : LanguageToolPreferences := {}
  return {
    language := ← r.defaulted? "language" (·.string?) p.language
    level := ← r.defaulted? "level" CheckLevel.ofSource? p.level
    disabledRules := ← r.defaulted? "disabledRules" (·.list? (·.string?)) p.disabledRules
    motherTongue := ← r.defaulted? "motherTongue" (·.orNull? (·.string?)) p.motherTongue
    preferredVariants :=
      ← r.defaulted? "preferredVariants" (·.list? (·.string?)) p.preferredVariants
    apiUrl := ← r.defaulted? "apiUrl" (·.string?) p.apiUrl
    username := ← r.defaulted? "username" (·.orNull? (·.string?)) p.username
    apiKey := ← r.defaulted? "apiKey" (·.orNull? (·.string?)) p.apiKey }

end LanguageToolPreferences

namespace GraziePreferences

def toJson (p : GraziePreferences) : Json :=
  .ofFields
    [("language", .string p.language), ("services", .array (p.services.map (·.toJson))),
     ("apiUrl", .string p.apiUrl), ("token", ofOption .string p.token)]

def ofSource? (s : Source) : Option GraziePreferences := do
  let r ← s.record? ["language", "services", "apiUrl", "token"]
  let p : GraziePreferences := {}
  return {
    language := ← r.defaulted? "language" (·.string?) p.language
    services := ← r.defaulted? "services" (·.list? GrazieService.ofSource?) p.services
    apiUrl := ← r.defaulted? "apiUrl" (·.string?) p.apiUrl
    token := ← r.defaulted? "token" (·.orNull? (·.string?)) p.token }

end GraziePreferences

namespace Preferences

def toJson (p : Preferences) : Json :=
  .ofFields
    [("activeProvider", p.activeProvider.toJson), ("languageTool", p.languageTool.toJson),
     ("grazie", p.grazie.toJson)]

def ofSource? (s : Source) : Option Preferences := do
  let r ← s.record? ["activeProvider", "languageTool", "grazie"]
  let p : Preferences := {}
  return {
    activeProvider := ← r.defaulted? "activeProvider" Provider.ofSource? p.activeProvider
    languageTool :=
      ← r.defaulted? "languageTool" LanguageToolPreferences.ofSource? p.languageTool
    grazie := ← r.defaulted? "grazie" GraziePreferences.ofSource? p.grazie }

end Preferences
end ProseCheck
