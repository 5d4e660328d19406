import ProseCheck.Provider

/-! # Languages

The languages that each provider can check.
-/

namespace ProseCheck

structure Language where
  code : String
  name : String
  deriving DecidableEq, Repr

def Provider.languages : Provider → List Language
  | languageTool =>
    [⟨"auto", "Auto-detect"⟩, ⟨"en-US", "English (US)"⟩, ⟨"en-GB", "English (GB)"⟩,
     ⟨"en-CA", "English (Canada)"⟩, ⟨"en-AU", "English (Australia)"⟩,
     ⟨"de-DE", "German (Germany)"⟩, ⟨"de-AT", "German (Austria)"⟩,
     ⟨"de-CH", "German (Switzerland)"⟩, ⟨"fr", "French"⟩, ⟨"es", "Spanish"⟩, ⟨"it", "Italian"⟩,
     ⟨"nl", "Dutch"⟩, ⟨"pl-PL", "Polish"⟩, ⟨"pt-PT", "Portuguese (Portugal)"⟩,
     ⟨"pt-BR", "Portuguese (Brazil)"⟩, ⟨"ru-RU", "Russian"⟩, ⟨"uk-UA", "Ukrainian"⟩,
     ⟨"sv", "Swedish"⟩, ⟨"da-DK", "Danish"⟩, ⟨"ca-ES", "Catalan"⟩]
  | grazie =>
    [⟨"en-US", "English (US)"⟩, ⟨"en-GB", "English (GB)"⟩, ⟨"de-DE", "German"⟩,
     ⟨"fr-FR", "French"⟩, ⟨"es-ES", "Spanish"⟩, ⟨"it-IT", "Italian"⟩, ⟨"pt-PT", "Portuguese"⟩,
     ⟨"ru-RU", "Russian"⟩, ⟨"uk-UA", "Ukrainian"⟩]

end ProseCheck
