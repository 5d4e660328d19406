import Mathlib.Tactic.Common
import ProseCheck.Proofs.Checker.Cache
import ProseCheck.Proofs.Checker.Result
import ProseCheck.Proofs.Checker.Run

/-! # Checks that share a checker

Any number of checks share the caches and the tickets. In whatever order, they look up a paragraph,
send off a request, take a reply or keep a result, while replies come in or fail and kept results
are forgotten. At any time what is kept is right, and a check has found what its answered paragraphs
give.
-/

namespace ProseCheck

/-- How far the request for a paragraph is. -/
inductive Stage where
  | issued
  | queued
  | replied (reply : Reply)

/-- The request for a paragraph on its way. -/
structure Flight where
  ticket : Nat
  key : CacheKey
  stage : Stage

/-- What checks share. -/
structure Shared where
  caches : Caches
  flights : List Flight
  nextTicket : Nat

/-- A check among others, with the paragraphs that were answered and those that failed so far. -/
structure Check where
  /-- What the result is kept under, with as much of the text as is checked. -/
  key : CacheKey
  progress : Progress
  answered : List Text.Segment
  failed : List Text.Segment
  deriving DecidableEq

structure Pool where
  shared : Shared
  checks : List Check

/-- Some of what was kept may be lost. -/
structure Caches.Forgets (c c' : Caches) : Prop where
  paragraphs : ∀ key fs, c'.paragraphs.find? key = some fs → c.paragraphs.find? key = some fs
  texts : ∀ key fs, c'.texts.find? key = some fs → c.texts.find? key = some fs

theorem Caches.forgets_clear (c : Caches) : c.Forgets c.clear := by
  constructor <;> intro key fs h <;> simp [clear, empty] at h

/-! ### Moves -/

/-- A check begins: it is over for a blank text or for one whose result is kept. -/
def Check.begin (config : CheckerConfig) (texts : Cache) (key : CacheKey) : Check :=
  let kept := { key with text := (Text.truncate key.text config.maxChars).1 }
  if Text.allBlank key.text then ⟨kept, .finished [], [], []⟩
  else
    match texts.find? kept with
    | some fs => ⟨kept, .finished fs, Text.proseParagraphs config.separator kept.text, []⟩
    | none => ⟨kept, .waiting (Task.start config.separator kept), [], []⟩

def Shared.issue (s : Shared) (key : CacheKey) : Shared :=
  { s with flights := s.flights ++ [⟨s.nextTicket, key, .issued⟩], nextTicket := s.nextTicket + 1 }

/-- What a check can do next, and what becomes of that which it shares with others. -/
inductive Check.Move (s : Shared) : Check → Shared → Check → Prop
  | known {key : CacheKey} {t : Task} {answered failed rest : List Text.Segment} {p : Text.Segment}
      {fs : List Finding} (ticket : Option Nat) : t.todo = p :: rest →
      s.caches.paragraphs.find? (t.paragraphKey p) = some fs →
      Move s ⟨key, .waiting t, answered, failed⟩ s
        ⟨key, .waiting (t.lookUp s.caches ticket).1, answered ++ [p], failed⟩
  | ask {key : CacheKey} {t : Task} {answered failed rest : List Text.Segment} {p : Text.Segment} :
      t.todo = p :: rest → s.caches.paragraphs.find? (t.paragraphKey p) = none →
      Move s ⟨key, .waiting t, answered, failed⟩ (s.issue (t.paragraphKey p))
        ⟨key, .waiting (t.lookUp s.caches (some s.nextTicket)).1, answered, failed⟩
  | refuse {key : CacheKey} {t : Task} {answered failed rest : List Text.Segment}
      {p : Text.Segment} :
      t.todo = p :: rest → s.caches.paragraphs.find? (t.paragraphKey p) = none →
      Move s ⟨key, .waiting t, answered, failed⟩ s
        ⟨key, .waiting (t.lookUp s.caches none).1, answered, failed ++ [p]⟩
  | answer {key : CacheKey} {t : Task} {answered failed : List Text.Segment} {p : Text.Segment}
      {n : Nat} {rest : List (Text.Segment × Nat)} {flight : Flight} {fs : List Finding} :
      t.todo = [] → t.asked = (p, n) :: rest → flight ∈ s.flights → flight.ticket = n →
      flight.stage = .replied (.ok fs) →
      Move s ⟨key, .waiting t, answered, failed⟩
        { s with caches := (t.accept s.caches (.ok fs)).2 }
        ⟨key, .waiting (t.accept s.caches (.ok fs)).1, answered ++ [p], failed⟩
  | fail {key : CacheKey} {t : Task} {answered failed : List Text.Segment} {p : Text.Segment}
      {n : Nat} {rest : List (Text.Segment × Nat)} {flight : Flight} {failure : Failure} :
      t.todo = [] → t.asked = (p, n) :: rest → flight ∈ s.flights → flight.ticket = n →
      flight.stage = .replied (.error failure) →
      Move s ⟨key, .waiting t, answered, failed⟩ s
        ⟨key, .waiting (t.accept s.caches (.error failure)).1, answered, failed ++ [p]⟩
  | finish {key : CacheKey} {t : Task} {answered failed : List Text.Segment} : t.isDone = true →
      Move s ⟨key, .waiting t, answered, failed⟩ { s with caches := t.keep s.caches }
        ⟨key, .finished t.result, answered, failed⟩

/-- What can happen next. Requests are answered with what `f` says, or they fail. -/
inductive Pool.Move (f : CacheKey → List Finding) : Pool → Pool → Prop
  | check {s s' : Shared} {before after : List Check} {c c' : Check} : c.Move s s' c' →
      Move f ⟨s, before ++ c :: after⟩ ⟨s', before ++ c' :: after⟩
  | enqueue {caches : Caches} {before after : List Flight} {n next : Nat} {key : CacheKey}
      {checks : List Check} :
      Move f ⟨⟨caches, before ++ ⟨n, key, .issued⟩ :: after, next⟩, checks⟩
        ⟨⟨caches, before ++ ⟨n, key, .queued⟩ :: after, next⟩, checks⟩
  | reply {caches : Caches} {before after : List Flight} {n next : Nat} {key : CacheKey}
      {checks : List Check} {reply : Reply} : (∀ fs, reply = .ok fs → fs = f key) →
      Move f ⟨⟨caches, before ++ ⟨n, key, .queued⟩ :: after, next⟩, checks⟩
        ⟨⟨caches, before ++ ⟨n, key, .replied reply⟩ :: after, next⟩, checks⟩

/-- What can be the case while checks begin, move on and are given up, and results are lost. -/
inductive Pool.Reachable (f : CacheKey → List Finding) (config : CheckerConfig) : Pool → Prop
  | start : Reachable f config ⟨⟨.empty (config.cacheSeconds ≠ 0), [], 0⟩, []⟩
  | begin {s : Shared} {checks : List Check} (key : CacheKey) : Reachable f config ⟨s, checks⟩ →
      Reachable f config ⟨s, checks ++ [Check.begin config s.caches.texts key]⟩
  | leave {s : Shared} {before after : List Check} {c : Check} :
      Reachable f config ⟨s, before ++ c :: after⟩ → Reachable f config ⟨s, before ++ after⟩
  | forget {s : Shared} {checks : List Check} {caches : Caches} :
      Reachable f config ⟨s, checks⟩ → s.caches.Forgets caches →
      Reachable f config ⟨{ s with caches }, checks⟩
  | move {pool pool' : Pool} : Reachable f config pool → pool.Move f pool' →
      Reachable f config pool'

/-! ### What stays true -/

def given (f : CacheKey → List Finding) (key : CacheKey) (p : Text.Segment) : List Finding :=
  Part.findings (p, some (f { key with text := p.text }))

/-- Backends that answer with what `f` says or not at all. -/
def Terms.steady {β : Type} (f : CacheKey → List Finding) : Terms β where
  Sends := fun _ => True
  Gives := fun key a => ∀ fs, a = some fs → fs = f key
  Dies := True
  gives_none := fun _ _ _ h => by cases h
  Lasts := False

variable {f : CacheKey → List Finding} {config : CheckerConfig} {separator : List Char}
  {key : CacheKey} {s s' : Shared} {c c' : Check} {t : Task} {pool pool' : Pool}

structure Shared.Sound (f : CacheKey → List Finding) (separator : List Char) (s : Shared) : Prop
    where
  caches : s.caches.Hold (.steady f : Terms Unit) separator
  replies : ∀ flight ∈ s.flights, ∀ fs, flight.stage = .replied (.ok fs) → fs = f flight.key
  tickets : ∀ flight ∈ s.flights, flight.ticket < s.nextTicket

/-- No flight is lost, and those that are new have new tickets. -/
structure Shared.Grows (s s' : Shared) : Prop where
  next : s.nextTicket ≤ s'.nextTicket
  kept : ∀ flight ∈ s.flights, ∃ flight' ∈ s'.flights, flight'.ticket = flight.ticket
  old : ∀ flight' ∈ s'.flights, flight'.ticket < s.nextTicket →
    ∃ flight ∈ s.flights, flight.ticket = flight'.ticket ∧ flight.key = flight'.key

/-- There is a flight for each ticket, and it is for its paragraph. -/
structure Task.Boards (s : Shared) (t : Task) : Prop where
  lt : ∀ a ∈ t.asked, a.2 < s.nextTicket
  flies : ∀ a ∈ t.asked, ∃ flight ∈ s.flights, flight.ticket = a.2
  key_eq : ∀ a ∈ t.asked, ∀ flight ∈ s.flights, flight.ticket = a.2 →
    flight.key = t.paragraphKey a.1

/-- The paragraphs of a check are accounted for, and its findings are those of the answered ones. -/
inductive Check.Sound (f : CacheKey → List Finding) (separator : List Char) (s : Shared) :
    Check → Prop
  | finished {key : CacheKey} {answered failed : List Text.Segment} {fs : List Finding} :
      (answered ++ failed).Perm (Text.proseParagraphs separator key.text) →
      fs = Finding.sort (answered.flatMap (given f key)) →
      Sound f separator s ⟨key, .finished fs, answered, failed⟩
  | waiting {t : Task} {answered failed : List Text.Segment} :
      (answered ++ failed ++ (t.asked.map (·.1) ++ t.todo)).Perm
        (Text.proseParagraphs separator t.key.text) →
      t.found = answered.flatMap (given f t.key) → t.complete = failed.isEmpty → t.Boards s →
      Sound f separator s ⟨t.key, .waiting t, answered, failed⟩

def Pool.Sound (f : CacheKey → List Finding) (separator : List Char) (pool : Pool) : Prop :=
  pool.shared.Sound f separator ∧ ∀ c ∈ pool.checks, c.Sound f separator pool.shared

theorem Shared.grows_caches (s : Shared) (caches : Caches) : s.Grows { s with caches } :=
  ⟨Nat.le_refl _, fun flight h => ⟨flight, h, rfl⟩, fun flight h _ => ⟨flight, h, rfl, rfl⟩⟩

theorem Shared.Grows.refl (s : Shared) : s.Grows s := s.grows_caches s.caches

theorem Shared.mem_issue {flight : Flight} :
    flight ∈ (s.issue key).flights ↔
      flight ∈ s.flights ∨ flight = ⟨s.nextTicket, key, .issued⟩ := by
  simp [issue]

theorem Shared.grows_issue (s : Shared) (key : CacheKey) : s.Grows (s.issue key) where
  next := Nat.le_succ _
  kept flight h := ⟨flight, mem_issue.mpr (Or.inl h), rfl⟩
  old flight h hlt := by
    rcases mem_issue.mp h with h | rfl
    · exact ⟨flight, h, rfl, rfl⟩
    · exact absurd hlt (Nat.lt_irrefl _)

theorem Shared.Sound.issue (h : s.Sound f separator) (key : CacheKey) :
    (s.issue key).Sound f separator where
  caches := h.caches
  replies := by
    intro flight hflight fs hfs
    rcases mem_issue.mp hflight with hflight | rfl
    · exact h.replies flight hflight fs hfs
    · cases hfs
  tickets := by
    intro flight hflight
    rcases mem_issue.mp hflight with hflight | rfl
    · exact Nat.lt_succ_of_lt (h.tickets flight hflight)
    · exact Nat.lt_succ_self _

theorem Shared.Sound.of_caches {caches : Caches} (h : s.Sound f separator)
    (hcaches : caches.Hold (.steady f : Terms Unit) separator) :
    ({ s with caches } : Shared).Sound f separator :=
  ⟨hcaches, h.replies, h.tickets⟩

theorem Task.Boards.mono (h : t.Boards s) (hs : s.Grows s') : t.Boards s' where
  lt a ha := Nat.lt_of_lt_of_le (h.lt a ha) hs.next
  flies a ha := by
    obtain ⟨flight, hflight, hticket⟩ := h.flies a ha
    obtain ⟨flight', hflight', heq⟩ := hs.kept flight hflight
    exact ⟨flight', hflight', heq.trans hticket⟩
  key_eq a ha flight' hflight' hticket := by
    obtain ⟨flight, hflight, heq, hkey⟩ := hs.old flight' hflight' (hticket ▸ h.lt a ha)
    rw [← hkey]
    exact h.key_eq a ha flight hflight (heq.trans hticket)

theorem Check.Sound.mono (h : c.Sound f separator s) (hs : s.Grows s') :
    c.Sound f separator s' := by
  cases h with
  | finished hperm hfs => exact .finished hperm hfs
  | waiting hperm hfound hcomplete hboards =>
    exact .waiting hperm hfound hcomplete (hboards.mono hs)

/-! ### Steps -/

/-- A kept result of a text is what all its paragraphs give. -/
theorem FoundAll.eq_resultOf {fs : List Finding} {caches : Caches}
    (h : FoundAll ((Terms.steady f : Terms Unit).Knows caches) separator key fs)
    (hf : ∀ key, ∀ g ∈ f key, g.In key.text) :
    fs = Finding.sort ((Text.proseParagraphs separator key.text).flatMap (given f key)) := by
  have hknown : FoundAll (fun k a => a = some (f k)) separator key fs :=
    h.mono fun k gs hk => congrArg some (hk.1 gs rfl)
  exact hknown.found.eq_resultOf (fun _ _ h => h) hf

theorem foundAll_given {answered : List Text.Segment} (caches : Caches)
    (h : answered.Perm (Text.proseParagraphs separator key.text)) :
    FoundAll ((Terms.steady f : Terms Unit).Knows caches) separator key
      (Finding.sort (answered.flatMap (given f key))) := by
  refine ⟨answered.map fun p => (p, some (f { key with text := p.text })), ⟨?_, ?_⟩, ?_, ?_⟩
  · simpa [Function.comp_def] using h
  · intro part hpart
    obtain ⟨p, -, rfl⟩ := List.mem_map.mp hpart
    exact ⟨fun fs hfs => (Option.some.inj hfs).symm, fun hlasts => hlasts.elim⟩
  · simp
  · rw [List.flatMap_map]
    rfl

theorem Shared.Sound.begin (h : s.Sound f config.separator)
    (hf : ∀ key, ∀ g ∈ f key, g.In key.text) (key : CacheKey) :
    (Check.begin config s.caches.texts key).Sound f config.separator s := by
  unfold Check.begin
  simp only
  split
  next hblank =>
    have hkept : Text.allBlank (key.text.take config.maxChars) = true :=
      List.all_eq_true.mpr fun x hx => List.all_eq_true.mp hblank x (List.mem_of_mem_take hx)
    refine .finished ?_ (by simp [Finding.sort])
    rw [Text.truncate, Text.proseParagraphs_eq_nil hkept]
    rfl
  next =>
    split
    next fs hfs =>
      exact .finished (by simp) ((h.caches.texts _ _ hfs).eq_resultOf hf)
    next =>
      exact .waiting (t := Task.start ..) (by simp [Task.start, Text.proseParagraphs]) rfl rfl
        ⟨by simp [Task.start], by simp [Task.start], by simp [Task.start]⟩

theorem Check.Sound.answer {t t' : Task} {answered failed : List Text.Segment} {p : Text.Segment}
    (h : (⟨key, .waiting t, answered, failed⟩ : Check).Sound f separator s) (hkey : t'.key = t.key)
    (hrest : (t.asked.map (·.1) ++ t.todo).Perm (p :: (t'.asked.map (·.1) ++ t'.todo)))
    (hfound : t'.found = t.found ++ given f t.key p) (hcomplete : t'.complete = t.complete)
    (hboards : t.Boards s → t'.Boards s') :
    (⟨key, .waiting t', answered ++ [p], failed⟩ : Check).Sound f separator s' := by
  cases h with
  | waiting hperm hf hc hb =>
    rw [← hkey] at hperm ⊢
    refine .waiting (.trans ?_ hperm) ?_ (hcomplete.trans hc) (hboards hb)
    · refine .trans ?_ (hrest.symm.append_left _)
      simpa using List.perm_middle.symm.append_left answered
    · rw [hfound, hf, hkey, List.flatMap_append, List.flatMap_singleton]

theorem Check.Sound.fail {t t' : Task} {answered failed : List Text.Segment} {p : Text.Segment}
    (h : (⟨key, .waiting t, answered, failed⟩ : Check).Sound f separator s) (hkey : t'.key = t.key)
    (hrest : (t.asked.map (·.1) ++ t.todo).Perm (p :: (t'.asked.map (·.1) ++ t'.todo)))
    (hfound : t'.found = t.found) (hcomplete : t'.complete = false)
    (hboards : t.Boards s → t'.Boards s') :
    (⟨key, .waiting t', answered, failed ++ [p]⟩ : Check).Sound f separator s' := by
  cases h with
  | waiting hperm hf hc hb =>
    rw [← hkey] at hperm ⊢
    refine .waiting (.trans ?_ hperm) (by rw [hfound, hf, hkey]) ?_ (hboards hb)
    · refine .trans ?_ (hrest.symm.append_left _)
      simp
    · rw [hcomplete]
      simp

namespace Task

theorem Boards.issue (h : t.Boards s)
    (htickets : ∀ flight ∈ s.flights, flight.ticket < s.nextTicket) (p : Text.Segment)
    (rest : List Text.Segment) :
    { t with todo := rest, asked := t.asked ++ [(p, s.nextTicket)] : Task }.Boards
      (s.issue (t.paragraphKey p)) where
  lt := by
    intro a ha
    rw [List.mem_append, List.mem_singleton] at ha
    rcases ha with ha | rfl
    · exact Nat.lt_succ_of_lt (h.lt a ha)
    · exact Nat.lt_succ_self _
  flies := by
    intro a ha
    rw [List.mem_append, List.mem_singleton] at ha
    rcases ha with ha | rfl
    · obtain ⟨flight, hflight, hticket⟩ := h.flies a ha
      exact ⟨flight, Shared.mem_issue.mpr (Or.inl hflight), hticket⟩
    · exact ⟨_, Shared.mem_issue.mpr (Or.inr rfl), rfl⟩
  key_eq := by
    intro a ha flight hflight hticket
    rw [List.mem_append, List.mem_singleton] at ha
    rcases ha with ha | rfl <;> rcases Shared.mem_issue.mp hflight with hflight | rfl
    · exact h.key_eq a ha flight hflight hticket
    · exact absurd (h.lt a ha) (hticket ▸ Nat.lt_irrefl _)
    · exact absurd (htickets flight hflight) (hticket ▸ Nat.lt_irrefl _)
    · rfl

theorem Boards.of_subset {t' : Task} (h : t.Boards s) (hkey : t'.key = t.key)
    (hasked : t'.asked ⊆ t.asked) : t'.Boards s where
  lt a ha := h.lt a (hasked ha)
  flies a ha := h.flies a (hasked ha)
  key_eq a ha flight hflight hticket := by
    rw [paragraphKey, hkey]
    exact h.key_eq a (hasked ha) flight hflight hticket

end Task

theorem Check.Sound.boards {answered failed : List Text.Segment}
    (h : (⟨key, .waiting t, answered, failed⟩ : Check).Sound f separator s) : t.Boards s := by
  cases h with
  | waiting _ _ _ hboards => exact hboards

theorem Check.Sound.key_eq {answered failed : List Text.Segment}
    (h : (⟨key, .waiting t, answered, failed⟩ : Check).Sound f separator s) : key = t.key := by
  cases h
  rfl

/-- A check whose paragraphs are all accounted for ends with what the answered ones give. -/
theorem Check.Sound.finish {answered failed : List Text.Segment}
    (h : (⟨key, .waiting t, answered, failed⟩ : Check).Sound f separator s)
    (hs : s.Sound f separator) (hdone : t.isDone = true) :
    (t.keep s.caches).Hold (.steady f : Terms Unit) separator ∧
      (⟨key, .finished t.result, answered, failed⟩ : Check).Sound f separator s := by
  rw [Task.isDone, Bool.and_eq_true, List.isEmpty_iff, List.isEmpty_iff] at hdone
  cases h with
  | waiting hperm hfound hcomplete hboards =>
    rw [hdone.1, hdone.2, List.map_nil, List.append_nil, List.append_nil] at hperm
    have hresult : t.result = Finding.sort (answered.flatMap (given f t.key)) := by
      rw [Task.result, hfound]
    refine ⟨?_, .finished hperm hresult⟩
    unfold Task.keep
    split
    next hall =>
      rw [hcomplete, List.isEmpty_iff] at hall
      rw [hall, List.append_nil] at hperm
      exact hs.caches.insertText (hresult ▸ foundAll_given _ hperm)
    next => exact hs.caches

theorem Check.Move.sound (h : c.Move s s' c') (hs : s.Sound f separator)
    (hc : c.Sound f separator s) :
    s'.Sound f separator ∧ c'.Sound f separator s' ∧ s.Grows s' := by
  cases h with
  | @known key t answered failed rest p fs ticket htodo hfs =>
    have hfs' : fs = f (t.paragraphKey p) := hs.caches.paragraphs _ _ hfs fs rfl
    refine ⟨hs, ?_, .refl s⟩
    rw [Task.lookUp_of_known htodo hfs]
    refine hc.answer rfl ?_ ?_ rfl fun hb => hb.of_subset rfl (.refl _)
    · rw [htodo]
      exact List.perm_middle
    · rw [hfs']
      rfl
  | @ask key t answered failed rest p htodo hnone =>
    refine ⟨hs.issue _, ?_, s.grows_issue _⟩
    rw [Task.lookUp_of_not_known htodo hnone]
    cases hc with
    | waiting hperm hfound hcomplete hboards =>
      have hboards' := hboards.issue hs.tickets p rest
      refine .waiting (t := { t with todo := rest, asked := _ }) ?_ hfound hcomplete hboards'
      rw [htodo] at hperm
      simpa using hperm
  | @refuse key t answered failed rest p htodo hnone =>
    refine ⟨hs, ?_, .refl s⟩
    rw [Task.lookUp_of_not_known htodo hnone]
    refine hc.fail rfl ?_ rfl rfl fun hb => hb.of_subset rfl (.refl _)
    rw [htodo]
    exact List.perm_middle
  | @answer key t answered failed p n rest flight fs htodo hasked hflight hticket hstage =>
    have hmem : (p, n) ∈ t.asked := hasked ▸ List.mem_cons_self
    have hfs : fs = f (t.paragraphKey p) := by
      rw [← hc.boards.key_eq _ hmem flight hflight hticket]
      exact hs.replies flight hflight fs hstage
    have hgrows := s.grows_caches (t.accept s.caches (.ok fs)).2
    refine ⟨hs.of_caches ?_, .mono ?_ hgrows, hgrows⟩
    · simp only [Task.accept, hasked]
      exact hs.caches.insertParagraph fun gs hgs => Option.some.inj hgs ▸ hfs
    · simp only [Task.accept, hasked]
      refine hc.answer rfl ?_ ?_ rfl fun hb => hb.of_subset rfl ?_
      · rw [hasked]
        exact .refl _
      · rw [hfs]
        rfl
      · rw [hasked]
        exact List.subset_cons_self ..
  | @fail key t answered failed p n rest flight failure htodo hasked hflight hticket hstage =>
    refine ⟨hs, ?_, .refl s⟩
    simp only [Task.accept, hasked]
    refine hc.fail rfl ?_ rfl rfl fun hb => hb.of_subset rfl ?_
    · rw [hasked]
      exact .refl _
    · rw [hasked]
      exact List.subset_cons_self ..
  | @finish key t answered failed hdone =>
    obtain ⟨hcaches, hfinished⟩ := hc.finish hs hdone
    have hgrows := s.grows_caches (t.keep s.caches)
    exact ⟨hs.of_caches hcaches, hfinished.mono hgrows, hgrows⟩

theorem Shared.grows_stage {caches : Caches} {before after : List Flight} {n next : Nat}
    (stage stage' : Stage) :
    (⟨caches, before ++ ⟨n, key, stage⟩ :: after, next⟩ : Shared).Grows
      ⟨caches, before ++ ⟨n, key, stage'⟩ :: after, next⟩ := by
  have hmem {stage stage' : Stage} {flight : Flight}
      (h : flight ∈ before ++ ⟨n, key, stage⟩ :: after) :
      ∃ flight' ∈ before ++ ⟨n, key, stage'⟩ :: after,
        flight'.ticket = flight.ticket ∧ flight'.key = flight.key := by
    rw [List.mem_append, List.mem_cons] at h
    rcases h with h | rfl | h
    · exact ⟨flight, by simp [h], rfl, rfl⟩
    · exact ⟨⟨n, key, stage'⟩, by simp, rfl, rfl⟩
    · exact ⟨flight, by simp [h], rfl, rfl⟩
  refine ⟨Nat.le_refl _, fun flight h => ?_, fun flight h _ => hmem h⟩
  obtain ⟨flight', hflight', hticket, -⟩ := hmem h
  exact ⟨flight', hflight', hticket⟩

theorem Shared.Sound.stage {caches : Caches} {before after : List Flight} {n next : Nat}
    {stage stage' : Stage}
    (h : (⟨caches, before ++ ⟨n, key, stage⟩ :: after, next⟩ : Shared).Sound f separator)
    (hstage : ∀ fs, stage' = .replied (.ok fs) → fs = f key) :
    (⟨caches, before ++ ⟨n, key, stage'⟩ :: after, next⟩ : Shared).Sound f separator := by
  refine ⟨h.caches, ?_, ?_⟩
  · intro flight hflight fs hfs
    rw [List.mem_append, List.mem_cons] at hflight
    rcases hflight with hflight | rfl | hflight
    · exact h.replies flight (by simp [hflight]) fs hfs
    · exact hstage fs hfs
    · exact h.replies flight (by simp [hflight]) fs hfs
  · intro flight hflight
    rw [List.mem_append, List.mem_cons] at hflight
    rcases hflight with hflight | rfl | hflight
    · exact h.tickets flight (by simp [hflight])
    · exact h.tickets ⟨n, key, stage⟩ (by simp)
    · exact h.tickets flight (by simp [hflight])

theorem Pool.Move.sound (h : pool.Move f pool') (hpool : pool.Sound f separator) :
    pool'.Sound f separator := by
  obtain ⟨hs, hchecks⟩ := hpool
  cases h with
  | @check s s' before after c c' hmove =>
    obtain ⟨hs', hc', hgrows⟩ := hmove.sound hs (hchecks c (by simp))
    refine ⟨hs', fun d hd => ?_⟩
    rw [List.mem_append, List.mem_cons] at hd
    rcases hd with hd | rfl | hd
    · exact (hchecks d (by simp [hd])).mono hgrows
    · exact hc'
    · exact (hchecks d (by simp [hd])).mono hgrows
  | enqueue =>
    exact ⟨hs.stage fun _ h => (nomatch h),
      fun d hd => (hchecks d hd).mono (Shared.grows_stage ..)⟩
  | reply hreply =>
    exact ⟨hs.stage fun fs h => hreply fs (Stage.replied.inj h),
      fun d hd => (hchecks d hd).mono (Shared.grows_stage ..)⟩

theorem Shared.Sound.forget {caches : Caches} (h : s.Sound f separator)
    (hcaches : s.caches.Forgets caches) : ({ s with caches } : Shared).Sound f separator := by
  refine h.of_caches ⟨fun key fs hfs => ?_, fun key fs hfs => ?_⟩
  · exact h.caches.paragraphs key fs (hcaches.paragraphs key fs hfs)
  · exact (h.caches.texts key fs (hcaches.texts key fs hfs)).mono
      fun _ _ hk => ⟨hk.1, fun hlasts => hlasts.elim⟩

theorem Pool.Reachable.sound (h : pool.Reachable f config)
    (hf : ∀ key, ∀ g ∈ f key, g.In key.text) : pool.Sound f config.separator := by
  induction h with
  | start => exact ⟨⟨Caches.hold_empty _, by simp, by simp⟩, by simp⟩
  | begin key _ ih =>
    refine ⟨ih.1, fun c hc => ?_⟩
    rw [List.mem_append, List.mem_singleton] at hc
    rcases hc with hc | rfl
    · exact ih.2 c hc
    · exact ih.1.begin hf key
  | leave _ ih =>
    refine ⟨ih.1, fun c hc => ih.2 c ?_⟩
    rcases List.mem_append.mp hc with hc | hc <;> simp [hc]
  | forget _ hcaches ih =>
    exact ⟨ih.1.forget hcaches, fun c hc => (ih.2 c hc).mono (Shared.grows_caches ..)⟩
  | move _ hmove ih => exact hmove.sound ih

end ProseCheck
