import Mathlib.Data.Option.Basic
import ProseCheck.Json.Record
import ProseCheck.Proofs.Json.Field

/-! # Records that are written as objects

An object with the fields of a record is read as a record with these fields, and each kind of value
is read back from what is written for it.
-/

namespace ProseCheck.Json

variable {names : List String} {name : String} {fields : List (String × Json)} {α : Type}

theorem lookup_eq_none_of_forall_ne {fields : List (String × α)}
    (h : ∀ field ∈ fields, field.1 ≠ name) : fields.lookup name = none := by
  induction fields with
  | nil => rfl
  | cons field rest ih =>
    rw [lookup_cons, if_neg (h field List.mem_cons_self).symm,
      ih fun f hf => h f (List.mem_cons_of_mem field hf)]

def sources (fields : List (String × Json)) : List (String × Source) :=
  fields.map fun field => (field.1, field.2.toSource)

theorem lookup_sources (fields : List (String × Json)) (name : String) :
    (sources fields).lookup name = (fields.lookup name).map toSource := by
  induction fields with
  | nil => rfl
  | cons field rest ih =>
    rw [sources, List.map_cons, lookup_cons, lookup_cons, ← sources, ih]
    split <;> rfl

theorem knownFields?_fieldSources (horder : InOrder fields)
    (hnames : ∀ field ∈ fields, field.1 ∈ names) :
    Source.knownFields? names (fieldSources fields) = some (sources fields) := by
  induction fields with
  | nil => rfl
  | cons field rest ih =>
    obtain ⟨hhead, hrest⟩ := List.pairwise_cons.mp horder
    have hnone : (sources rest).lookup field.1 = none := by
      rw [lookup_sources, lookup_eq_none_of_forall_ne fun f hf => (hhead f hf).ne']
      rfl
    have hknown := ih hrest fun f hf => hnames f (List.mem_cons_of_mem field hf)
    rw [fieldSources, Source.knownFields?, hknown]
    simp [hnames field List.mem_cons_self, hnone, guard]
    rfl

/-- A record is read with the fields that are written. -/
theorem record?_ofFields (h : ∀ field ∈ fields, field.1 ∈ names) :
    Source.record? names (ofFields fields).toSource = some ⟨false, sources (inserted fields)⟩ := by
  rw [ofFields_eq, toSource, Source.record?,
    knownFields?_fieldSources (inOrder_inserted fields) fun field hfield =>
      h field (mem_inserted hfield)]
  rfl

theorem lookup_sources_inserted (fields : List (String × Json)) (name : String) :
    (sources (inserted fields)).lookup name = (fields.reverse.lookup name).map toSource := by
  rw [lookup_sources, lookup_inserted]

/-! ### Values -/

theorem string?_string (s : String) : (Json.string s).toSource.string? = some s := rfl

theorem itemSources_eq_map (items : List Json) : itemSources items = items.map toSource := by
  induction items with
  | nil => rfl
  | cons item rest ih => rw [itemSources, ih, List.map_cons]

theorem list?_array {read : Source → Option α} {write : α → Json} {items : List α}
    (h : ∀ item ∈ items, read (write item).toSource = some item) :
    (Json.array (items.map write)).toSource.list? read = some items := by
  rw [toSource, Source.list?, itemSources_eq_map, List.map_map]
  induction items with
  | nil => rfl
  | cons item rest ih =>
    rw [List.map_cons, List.mapM_cons, Function.comp_apply, h item List.mem_cons_self,
      ih fun i hi => h i (List.mem_cons_of_mem item hi)]
    rfl

theorem signed?_bounds {s : Source} {n : Int} (h : s.signed? = some n) :
    -9223372036854775808 ≤ n ∧ n ≤ 9223372036854775807 := by
  unfold Source.signed? Source.int? at h
  split at h
  · simp only [Option.ite_none_right_eq_some, Option.some.injEq] at h
    exact h.2 ▸ h.1
  · cases h

theorem forall_of_list?_eq_some {read : Source → Option α} {s : Source} {items : List α}
    {p : α → Prop} (h : s.list? read = some items) (hread : ∀ s a, read s = some a → p a) :
    ∀ item ∈ items, p item := by
  cases s with
  | array sources =>
    rw [Source.list?] at h
    induction sources generalizing items with
    | nil => cases h; nofun
    | cons source rest ih =>
      rw [List.mapM_cons] at h
      obtain ⟨first, hfirst, h⟩ := Option.bind_eq_some_iff.mp h
      obtain ⟨others, hothers, h⟩ := Option.bind_eq_some_iff.mp h
      cases h
      exact List.forall_mem_cons.mpr ⟨hread source first hfirst, ih hothers⟩
  | null => cases h
  | bool b => cases h
  | number n => cases h
  | string s => cases h
  | object fields => cases h

theorem list?_ofStrings (items : List String) :
    (ofStrings items).toSource.list? (·.string?) = some items :=
  list?_array fun _ _ => rfl

theorem orNull?_string (s : String) :
    (Json.string s).toSource.orNull? (·.string?) = some (some s) := rfl

theorem orNull?_ofOption_string (value : Option String) :
    (ofOption .string value).toSource.orNull? (·.string?) = some value := by
  cases value <;> rfl

end ProseCheck.Json
