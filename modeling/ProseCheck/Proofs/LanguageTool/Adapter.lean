import Mathlib.Tactic.Common
import ProseCheck.LanguageTool.Adapter

/-! # What a request to LanguageTool tells

The fields of a form have different names, so a form tells all that went into it.
-/

namespace ProseCheck.LanguageTool.Adapter

variable {a a' : Adapter} {options : CheckOptions} {text : List Char}

def tongue (a : Adapter) : List (String × String) :=
  a.preferences.motherTongue.toList.map (("motherTongue", ·))

def variants (a : Adapter) (options : CheckOptions) : List (String × String) :=
  if a.language options = "auto" then
    listField "preferredVariants" a.preferences.preferredVariants
  else []

structure Agrees (a a' : Adapter) (options : CheckOptions) : Prop where
  endpoint : a.endpoint = a'.endpoint
  level : a.preferences.level = a'.preferences.level
  motherTongue : a.preferences.motherTongue = a'.preferences.motherTongue
  variants : a.variants options = a'.variants options
  credentials : credentials a.preferences = credentials a'.preferences
  language : a.language options = a'.language options

theorem fst_of_mem_listField {name : String} {items : List String} {field : String × String}
    (h : field ∈ listField name items) : field.1 = name := by
  unfold listField at h
  split at h
  · cases h
  · rw [List.mem_singleton.mp h]

theorem fst_of_mem_tongue {field : String × String} (h : field ∈ a.tongue) :
    field.1 = "motherTongue" := by
  obtain ⟨value, -, rfl⟩ := List.mem_map.mp h
  rfl

theorem fst_of_mem_variants {field : String × String} (h : field ∈ a.variants options) :
    field.1 = "preferredVariants" := by
  unfold variants at h
  split at h
  · exact fst_of_mem_listField h
  · cases h

theorem fst_of_mem_credentials {p : LanguageToolPreferences} {field : String × String}
    (h : field ∈ credentials p) : field.1 = "username" ∨ field.1 = "apiKey" := by
  unfold credentials at h
  split at h
  · simp only [List.mem_cons, List.not_mem_nil, or_false] at h
    rcases h with rfl | rfl
    · exact Or.inl rfl
    · exact Or.inr rfl
  · cases h

theorem fst_of_mem_ending {field : String × String}
    (h : field ∈ credentials a.preferences ++ [("language", a.language options)]) :
    field.1 = "username" ∨ field.1 = "apiKey" ∨ field.1 = "language" := by
  rcases List.mem_append.mp h with h | h
  · exact (fst_of_mem_credentials h).imp_right Or.inl
  · exact Or.inr (Or.inr (by rw [List.mem_singleton.mp h]))

/-- Fields of one name can be told from those of other names behind them. -/
theorem append_eq_append_iff_of_fst {name : String} {xs xs' ys ys' : List (String × String)}
    (hxs : ∀ field ∈ xs, field.1 = name) (hxs' : ∀ field ∈ xs', field.1 = name)
    (hys : ∀ field ∈ ys, field.1 ≠ name) (hys' : ∀ field ∈ ys', field.1 ≠ name) :
    xs ++ ys = xs' ++ ys' ↔ xs = xs' ∧ ys = ys' := by
  have hfilter {us vs : List (String × String)} (hus : ∀ field ∈ us, field.1 = name)
      (hvs : ∀ field ∈ vs, field.1 ≠ name) : (us ++ vs).filter (·.1 == name) = us := by
    have hself : us.filter (·.1 == name) = us :=
      List.filter_eq_self.mpr fun field hfield => beq_iff_eq.mpr (hus field hfield)
    have hnil : vs.filter (·.1 == name) = [] :=
      List.filter_eq_nil_iff.mpr fun field hfield h => hvs field hfield (beq_iff_eq.mp h)
    rw [List.filter_append, hself, hnil, List.append_nil]
  refine ⟨fun h => ?_, fun ⟨hx, hy⟩ => by rw [hx, hy]⟩
  have heq := congrArg (List.filter (·.1 == name)) h
  rw [hfilter hxs hys, hfilter hxs' hys'] at heq
  exact ⟨heq, List.append_cancel_left (heq ▸ h)⟩

theorem name_inj {l l' : CheckLevel} : l.name = l'.name ↔ l = l' := by
  cases l <;> cases l' <;> decide

theorem tongue_inj :
    a.tongue = a'.tongue ↔ a.preferences.motherTongue = a'.preferences.motherTongue := by
  unfold tongue
  cases a.preferences.motherTongue <;> cases a'.preferences.motherTongue <;> simp

theorem form_eq (a : Adapter) (options : CheckOptions) (text : List Char) :
    a.form options text =
      [("text", String.ofList text), ("clientId", clientId), ("level", a.preferences.level.name)] ++
        (listField "disabledRules" options.disabledRules ++ (a.tongue ++ (a.variants options ++
          (credentials a.preferences ++ [("language", a.language options)])))) := by
  simp only [form, tongue, variants, List.append_assoc]

theorem form_eq_iff : a.form options text = a'.form options text ↔
    a.preferences.level = a'.preferences.level ∧ a.tongue = a'.tongue ∧
      a.variants options = a'.variants options ∧
      credentials a.preferences = credentials a'.preferences ∧
      a.language options = a'.language options := by
  have hending (a : Adapter) : ∀ field ∈ credentials a.preferences ++
      [("language", a.language options)], field.1 ≠ "preferredVariants" := by
    intro field h
    rcases fst_of_mem_ending h with h | h | h <;> simp [h]
  have hbehind (a : Adapter) : ∀ field ∈ a.variants options ++ (credentials a.preferences ++
      [("language", a.language options)]), field.1 ≠ "motherTongue" := by
    intro field h
    rcases List.mem_append.mp h with h | h
    · simp [fst_of_mem_variants h]
    · rcases fst_of_mem_ending h with h | h | h <;> simp [h]
  have hlast : credentials a.preferences ++ [("language", a.language options)] =
      credentials a'.preferences ++ [("language", a'.language options)] ↔
      credentials a.preferences = credentials a'.preferences ∧
        a.language options = a'.language options := by
    refine ⟨fun h => ?_, fun ⟨h, h'⟩ => by rw [h, h']⟩
    obtain ⟨hcredentials, hfield⟩ := List.append_inj' h rfl
    simp only [List.cons.injEq, Prod.mk.injEq, true_and, and_true] at hfield
    exact ⟨hcredentials, hfield⟩
  rw [form_eq, form_eq]
  simp only [List.cons_append, List.nil_append, List.cons.injEq, Prod.mk.injEq, true_and,
    List.append_cancel_left_eq, name_inj]
  rw [append_eq_append_iff_of_fst (fun _ => fst_of_mem_tongue) (fun _ => fst_of_mem_tongue)
      (hbehind a) (hbehind a'),
    append_eq_append_iff_of_fst (fun _ => fst_of_mem_variants) (fun _ => fst_of_mem_variants)
      (hending a) (hending a'), hlast]

theorem request_eq_iff :
    a.request options text = a'.request options text ↔ a.Agrees a' options := by
  simp only [request, Net.Request.mk.injEq, Net.Content.form.injEq, form_eq_iff, tongue_inj,
    true_and]
  constructor
  · rintro ⟨hendpoint, hlevel, hmotherTongue, hvariants, hcredentials, hlanguage⟩
    exact ⟨hendpoint, hlevel, hmotherTongue, hvariants, hcredentials, hlanguage⟩
  · intro h
    exact ⟨h.endpoint, h.level, h.motherTongue, h.variants, h.credentials, h.language⟩

end ProseCheck.LanguageTool.Adapter
