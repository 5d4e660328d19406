import Mathlib.Tactic.Common
import ProseCheck.Proofs.Checker.Result
import ProseCheck.Proofs.Checker.Run
import ProseCheck.Proofs.Service.Setup

/-! # Whose answers are kept

A ledger notes under every key the backend that answered first. Where providers always answer a
request alike, the ledger tells what is kept and with it what every check finds.
-/

namespace ProseCheck

open Net

def CheckRequest.paragraphKeys {β : Type} (r : CheckRequest β) (config : CheckerConfig) :
    List CacheKey :=
  (Text.proseParagraphs config.separator (r.kept config).text).map fun p =>
    { r.key with text := p.text }

/-- Under each key, the backend whose answer is kept. -/
abbrev Ledger := CacheKey → Option Backend

namespace Ledger

def empty : Ledger := fun _ => none

def answer? (l : Ledger) (f : Request → Option Response) (b : Backend) (key : CacheKey) :
    Option (List Finding) :=
  ((l key).getD b).answer? f key

/-- Notes `b` under those of the keys that are free, as far as it answers. -/
def note (l : Ledger) (f : Request → Option Response) (b : Backend) (keys : List CacheKey) :
    Ledger := fun key =>
  (l key).or (if key ∈ keys ∧ (b.answer? f key).isSome then some b else none)

/-- The outcome is the answer of the backend in the ledger. -/
def Keeps (l : Ledger) (f : Request → Option Response) (key : CacheKey)
    (a : Option (List Finding)) : Prop :=
  ∃ b, l key = some b ∧ a = b.answer? f key

variable {l : Ledger} {f : Request → Option Response} {b b' : Backend} {keys : List CacheKey}
  {key : CacheKey}

theorem answer?_of_eq_some (h : l key = some b') : l.answer? f b key = b'.answer? f key := by
  rw [answer?, h, Option.getD_some]

theorem answer?_of_eq_none (h : l key = none) : l.answer? f b key = b.answer? f key := by
  rw [answer?, h, Option.getD_none]

theorem note_nil : l.note f b [] = l := by
  funext key
  simp [note]

theorem note_eq_some_iff : l.note f b keys key = some b' ↔
    l key = some b' ∨ l key = none ∧ (key ∈ keys ∧ (b.answer? f key).isSome = true) ∧ b = b' := by
  rw [note, Option.or_eq_some_iff]
  simp only [Option.ite_none_right_eq_some, Option.some.injEq]

theorem keeps_note {fs : List Finding} (hkey : key ∈ keys ∨ (l key).isSome = true)
    (hfs : some fs = l.answer? f b key) : (l.note f b keys).Keeps f key (some fs) := by
  cases hl : l key with
  | some b' =>
    rw [answer?_of_eq_some hl] at hfs
    exact ⟨b', note_eq_some_iff.mpr (Or.inl hl), hfs⟩
  | none =>
    rw [answer?_of_eq_none hl] at hfs
    have hmem : key ∈ keys := hkey.resolve_right (by simp [hl])
    exact ⟨b, note_eq_some_iff.mpr (Or.inr ⟨hl, ⟨hmem, by simp [← hfs]⟩, rfl⟩), hfs⟩

end Ledger

variable {σ : Type} {f : Request → Option Response} {next : σ → Request → σ} {l : Ledger}
  {b : Backend} {keys : List CacheKey} {c : Checker Backend} {r : CheckRequest Backend}

/-- The terms of a check that asks `b` for those of the keys that are not in the ledger. -/
def lookingUp (f : Request → Option Response) (l : Ledger) (b : Backend) (keys : List CacheKey) :
    Terms Backend where
  Sends o := o.backend = b ∧ o.key ∈ keys ∧ l o.key = none
  Gives key a := (key ∈ keys ∨ (l key).isSome = true) ∧ a = l.answer? f b key
  Dies := False
  gives_none h := h.elim
  Lasts := True

theorem lookingUp_bind (f : Request → Option Response) (next : σ → Request → σ) (l : Ledger)
    (b : Backend) (keys : List CacheKey) (pace : Pace) :
    (lookingUp f l b keys).Bind pace (Service.askOver (answering f next)) where
  gives world start o ho := by
    obtain ⟨rfl, hmem, hnone⟩ := ho
    refine ⟨Or.inl hmem, ?_⟩
    rw [Service.ending_askOver, outcome, Option.bind_some, Ledger.answer?_of_eq_none hnone]
    exact o.backend.toOption_check_answering f next world o.key
  dies world start o h := by
    rw [Service.ending_askOver] at h
    cases h

/-- The ledger tells what a checker keeps. -/
structure Books (f : Request → Option Response) (l : Ledger) (c : Checker Backend) : Prop where
  settled : ∃ T : Terms Backend, ¬ T.Dies ∧ c.Inv T []
  paragraphs : ∀ key, c.caches.paragraphs.find? key = (l key).bind (·.answer? f key)
  texts : ∀ key fs, c.caches.texts.find? key = some fs →
    FoundAll (l.Keeps f) c.config.separator key fs
  answered : ∀ key b, l key = some b → b.provider = key.provider ∧ (b.answer? f key).isSome = true

namespace Books

theorem start (f : Request → Option Response) (config : CheckerConfig) (tellsCuts : Bool) :
    Books f .empty (.start config tellsCuts) where
  settled := ⟨⟨fun _ => True, fun _ _ => True, False, fun h => h.elim, True⟩, id,
    Checker.inv_start ..⟩
  paragraphs _ := rfl
  texts _ _ h := by cases h
  answered _ _ h := by cases h

theorem isSome_find? (h : Books f l c) {key : CacheKey} (hl : l key = some b) :
    (c.caches.paragraphs.find? key).isSome = true := by
  rw [h.paragraphs, hl, Option.bind_some]
  exact (h.answered key b hl).2

/-- A checker whose caches are those of the ledger is ready for the next check. -/
theorem inv (h : Books f l c) (b : Backend) (keys : List CacheKey) :
    c.Inv (lookingUp f l b keys) [] := by
  obtain ⟨T, hdies, hinv⟩ := h.settled
  have hrunning : c.running = [] := List.length_eq_zero_iff.mp hinv.running.length_eq.symm
  have hgives {key : CacheKey} {fs : List Finding} (hkeeps : l.Keeps f key (some fs)) :
      (lookingUp f l b keys).Gives key (some fs) := by
    obtain ⟨b', hl, hfs⟩ := hkeeps
    exact ⟨Or.inr (by simp [hl]), hfs.trans (Ledger.answer?_of_eq_some hl).symm⟩
  refine ⟨⟨fun key fs hfs => ?_, fun key fs hfs => ?_⟩, ?_, hrunning ▸ .nil⟩
  · rw [h.paragraphs, Option.bind_eq_some_iff] at hfs
    obtain ⟨b', hl, hfs⟩ := hfs
    exact hgives ⟨b', hl, hfs.symm⟩
  · refine (h.texts key fs hfs).mono fun k gs hkeeps => ⟨hgives hkeeps, fun _ _ _ => ?_⟩
    obtain ⟨b', hl, -⟩ := hkeeps
    exact h.isSome_find? hl
  · exact hinv.worker.renew hdies fun n => by simp [Checker.isAwaited, hrunning]

theorem sendable (h : Books f l c) :
    (r.kept c.config).Sendable (lookingUp f l r.backend (r.paragraphKeys c.config))
      c.config.separator c.caches.paragraphs := by
  intro n p hp hnone
  refine ⟨rfl, List.mem_map_of_mem hp, ?_⟩
  by_contra hl
  obtain ⟨b, hl⟩ := Option.ne_none_iff_exists'.mp hl
  exact Option.isSome_iff_ne_none.mp (h.isSome_find? hl) hnone

section Checked

variable {c' : Checker Backend} {fs : List Finding} {key : CacheKey}
  (h : Books f l c) (hkeeps : c.caches.keeps = true)
  (hfound : Found ((lookingUp f l r.backend (r.paragraphKeys c.config)).Knows c'.caches)
    c.config.separator (r.kept c.config).key fs)
  (hinv : c'.Inv (lookingUp f l r.backend (r.paragraphKeys c.config)) [])
  (hgrows : c.Grows c')

include h hkeeps hfound hgrows in
theorem isSome_find?_of_note (hb : l.note f r.backend (r.paragraphKeys c.config) key = some b) :
    (c'.caches.paragraphs.find? key).isSome = true := by
  rcases Ledger.note_eq_some_iff.mp hb with hl | ⟨hl, ⟨hmem, hanswer⟩, -⟩
  · exact hgrows.caches.isSome key (h.isSome_find? hl)
  · obtain ⟨p, hp, rfl⟩ := List.mem_map.mp hmem
    obtain ⟨parts, hcovers, -⟩ := hfound
    have hp' := hcovers.perm.symm.subset hp
    rw [List.append_nil] at hp'
    obtain ⟨part, hpart, rfl⟩ := List.mem_map.mp hp'
    obtain ⟨⟨-, hgives⟩, hknows⟩ := hcovers.gives part hpart
    refine hknows trivial (hgrows.caches.keeps.trans hkeeps) ?_
    rw [hgives]
    exact (Ledger.answer?_of_eq_none hl).symm ▸ hanswer

include h hkeeps hfound hinv hgrows in
theorem note_of_found (hprovider : r.backend.provider = r.provider) :
    Books f (l.note f r.backend (r.paragraphKeys c.config)) c' where
  settled := ⟨_, id, hinv⟩
  paragraphs key := by
    cases hfind : c'.caches.paragraphs.find? key with
    | some fs =>
      obtain ⟨hkey, hfs⟩ := hinv.caches.paragraphs key fs hfind
      obtain ⟨b, hb, hfs⟩ := Ledger.keeps_note hkey hfs
      rw [hb, Option.bind_some, hfs]
    | none =>
      cases hb : l.note f r.backend (r.paragraphKeys c.config) key with
      | none => rfl
      | some b =>
        have hsome := h.isSome_find?_of_note hkeeps hfound hgrows hb
        simp [hfind] at hsome
  texts key fs hfs := by
    rw [hgrows.config]
    refine FoundAll.mono (hgrows.config ▸ hinv.caches.texts key fs hfs) fun k gs hknows => ?_
    exact Ledger.keeps_note hknows.1.1 hknows.1.2
  answered key b hb := by
    rcases Ledger.note_eq_some_iff.mp hb with hl | ⟨-, ⟨hmem, hanswer⟩, rfl⟩
    · exact h.answered key b hl
    · obtain ⟨p, -, rfl⟩ := List.mem_map.mp hmem
      exact ⟨hprovider, hanswer⟩

end Checked

/-- A check finds what the ledger says, and asks its own backend for the rest. -/
theorem check (h : Books f l c) (hprovider : r.backend.provider = r.provider)
    (next : σ → Request → σ) (world : σ) :
    (c.check (Service.askOver (answering f next)) r world).1 =
        resultOf (l.answer? f r.backend) c.config.separator (r.kept c.config).key ∧
      Books f (if c.caches.keeps then l.note f r.backend (r.paragraphKeys c.config) else l)
        (c.check (Service.askOver (answering f next)) r world).2.2.1 ∧
      c.Grows (c.check (Service.askOver (answering f next)) r world).2.2.1 := by
  obtain ⟨hfound, hinv, hgrows⟩ := (h.inv r.backend (r.paragraphKeys c.config)).check h.sendable
    (lookingUp_bind f next l r.backend _ c.config.pace) world
  refine ⟨hfound.eq_resultOf (fun k a hk => hk.1.2) fun k g hg => ?_, ?_, hgrows⟩
  · cases hanswer : l.answer? f r.backend k with
    | none => simp [hanswer] at hg
    | some fs =>
      rw [hanswer] at hg
      exact Backend.in_of_mem_answer? hanswer hg
  · split
    next hkeeps => exact h.note_of_found hkeeps hfound hinv hgrows hprovider
    next hkeeps =>
      have hcaches := hgrows.caches.eq_of_not_keeps (by simpa using hkeeps)
      exact ⟨⟨_, id, hinv⟩, hcaches ▸ h.paragraphs, hcaches ▸ hgrows.config ▸ h.texts, h.answered⟩

theorem tellsCuts (h : Books f l c) (on : Bool) :
    Books f l { c with tellsCuts := on } where
  settled := by
    obtain ⟨T, hdies, hinv⟩ := h.settled
    exact ⟨T, hdies, hinv.tellsCuts on⟩
  paragraphs := h.paragraphs
  texts := h.texts
  answered := h.answered

theorem clearCache (h : Books f l c) : Books f .empty c.clearCache where
  settled := by
    obtain ⟨T, hdies, hinv⟩ := h.settled
    exact ⟨T, hdies, hinv.clearCache⟩
  paragraphs _ := rfl
  texts _ _ hfs := by cases hfs
  answered _ _ hl := by cases hl

end Books
end ProseCheck
