import Mathlib.Tactic.Common
import ProseCheck.Proofs.Checker.Task
import ProseCheck.Proofs.Checker.Worker

/-! # What caches hold

Every kept result is one that its text can have. As long as nothing is forgotten, the results of all
paragraphs that count are kept.
-/

namespace ProseCheck

variable {β : Type} {T : Terms β} {separator : List Char} {key : CacheKey} {fs : List Finding}
  {c c' c'' : Caches} {t : Task}

namespace Caches

/-- No paragraph is forgotten between the caches, and nothing is added where nothing is kept. -/
structure Extends (c c' : Caches) : Prop where
  keeps : c'.keeps = c.keeps
  isSome : ∀ key, (c.paragraphs.find? key).isSome = true → (c'.paragraphs.find? key).isSome = true
  eq_of_not_keeps : c.keeps = false → c' = c

theorem Extends.refl (c : Caches) : c.Extends c := ⟨rfl, fun _ h => h, fun _ => rfl⟩

theorem Extends.trans (h : c.Extends c') (h' : c'.Extends c'') : c.Extends c'' where
  keeps := h'.keeps.trans h.keeps
  isSome key hkey := h'.isSome key (h.isSome key hkey)
  eq_of_not_keeps hk := (h'.eq_of_not_keeps (h.keeps.trans hk)).trans (h.eq_of_not_keeps hk)

theorem extends_insertParagraph (c : Caches) (key : CacheKey) (fs : List Finding) :
    c.Extends (c.insertParagraph key fs) := by
  unfold insertParagraph
  split
  next hkeeps =>
    refine ⟨rfl, fun other h => ?_, fun hk => by simp [hkeeps] at hk⟩
    rw [Cache.find?_insert]
    split
    · rfl
    · exact h
  next => exact .refl c

theorem extends_insertText (c : Caches) (key : CacheKey) (fs : List Finding) :
    c.Extends (c.insertText key fs) := by
  unfold insertText
  split
  next hkeeps => exact ⟨rfl, fun _ h => h, fun hk => by simp [hkeeps] at hk⟩
  next => exact .refl c

end Caches

/-- The outcome is allowed, and kept if nothing is forgotten. -/
def Terms.Knows (T : Terms β) (c : Caches) (key : CacheKey) (a : Option (List Finding)) : Prop :=
  T.Gives key a ∧
    (T.Lasts → c.keeps = true → a.isSome = true → (c.paragraphs.find? key).isSome = true)

theorem Terms.Knows.mono {a : Option (List Finding)} (h : T.Knows c key a) (hc : c.Extends c') :
    T.Knows c' key a :=
  ⟨h.1, fun hl hk ha => hc.isSome key (h.2 hl (hc.keeps ▸ hk) ha)⟩

theorem Terms.Knows.of_not_lasts {a : Option (List Finding)} (h : T.Knows c key a)
    (hlasts : ¬ T.Lasts) : T.Knows c' key a :=
  ⟨h.1, fun hl => absurd hl hlasts⟩

theorem Terms.knows_none (h : T.Dies) : T.Knows c key none := ⟨T.gives_none h key, by simp⟩

namespace Caches

structure Hold (T : Terms β) (separator : List Char) (c : Caches) : Prop where
  paragraphs : ∀ key fs, c.paragraphs.find? key = some fs → T.Gives key (some fs)
  texts : ∀ key fs, c.texts.find? key = some fs → FoundAll (T.Knows c) separator key fs

theorem hold_empty (keeps : Bool) : (empty keeps).Hold T separator := by
  constructor <;> intro key fs h <;> simp [empty] at h

theorem Hold.knows (h : c.Hold T separator) (hfs : c.paragraphs.find? key = some fs) :
    T.Knows c key (some fs) :=
  ⟨h.paragraphs key fs hfs, fun _ _ _ => by rw [hfs]; rfl⟩

theorem Hold.insertParagraph (h : c.Hold T separator) (hfs : T.Gives key (some fs)) :
    (c.insertParagraph key fs).Hold T separator := by
  have hext := extends_insertParagraph c key fs
  have htexts : ∀ k gs, (c.insertParagraph key fs).texts.find? k = some gs →
      FoundAll (T.Knows (c.insertParagraph key fs)) separator k gs := by
    intro k gs hgs
    refine (h.texts k gs ?_).mono fun _ _ hk => hk.mono hext
    unfold Caches.insertParagraph at hgs
    split at hgs <;> exact hgs
  refine ⟨fun k gs hgs => ?_, htexts⟩
  unfold Caches.insertParagraph at hgs
  split at hgs
  · rw [Cache.find?_insert] at hgs
    split at hgs
    next heq =>
      cases hgs
      exact heq ▸ hfs
    next => exact h.paragraphs k gs hgs
  · exact h.paragraphs k gs hgs

theorem knows_insertParagraph (hfs : T.Gives key (some fs)) :
    T.Knows (c.insertParagraph key fs) key (some fs) := by
  refine ⟨hfs, fun _ hkeeps _ => ?_⟩
  rw [(extends_insertParagraph c key fs).keeps] at hkeeps
  simp [insertParagraph, hkeeps]

theorem Hold.insertText (h : c.Hold T separator) (hfs : FoundAll (T.Knows c) separator key fs) :
    (c.insertText key fs).Hold T separator := by
  have hmono : ∀ k a, T.Knows c k a → T.Knows (c.insertText key fs) k a :=
    fun _ _ hk => hk.mono (extends_insertText c key fs)
  refine ⟨fun k gs hgs => h.paragraphs k gs ?_, fun k gs hgs => ?_⟩
  · unfold Caches.insertText at hgs
    split at hgs <;> exact hgs
  · refine FoundAll.mono ?_ fun k gs => hmono k (some gs)
    unfold Caches.insertText at hgs
    split at hgs
    · rw [Cache.find?_insert] at hgs
      split at hgs
      next heq =>
        cases hgs
        exact heq ▸ hfs
      next => exact h.texts k gs hgs
    · exact h.texts k gs hgs

end Caches
end ProseCheck
