import Mathlib.Tactic.Common
import ProseCheck.Proofs.Checker.Pool

/-! # Checkers as pools

What a checker does with the checks that it runs can be done by moves of a pool. An order in the
queue of the worker stands for a queued flight, and the end of the worker for failed replies to all
orders.
-/

namespace ProseCheck

variable {β σ : Type} {f : CacheKey → List Finding} {config : CheckerConfig}
  {keys : List CacheKey} {running before after : List Progress} {s s' : Shared} {caches : Caches}
  {flights : List Flight} {next n : Nat} {key : CacheKey} {t : Task} {p p' : Progress}
  {answer : Reply}

/-! ### Pools -/

namespace Check

variable {texts : Cache}

theorem begin_of_kept {fs : List Finding} (hblank : ¬ Text.allBlank key.text = true)
    (hfs : texts.find? { key with text := (Text.truncate key.text config.maxChars).1 } = some fs) :
    Check.begin config texts key =
      ⟨{ key with text := (Text.truncate key.text config.maxChars).1 }, .finished fs,
        Text.proseParagraphs config.separator (Text.truncate key.text config.maxChars).1, []⟩ := by
  rw [Check.begin, if_neg hblank, hfs]

theorem begin_of_not_kept (hblank : ¬ Text.allBlank key.text = true)
    (hnone : texts.find? { key with text := (Text.truncate key.text config.maxChars).1 } = none) :
    Check.begin config texts key =
      ⟨{ key with text := (Text.truncate key.text config.maxChars).1 },
        .waiting (Task.start config.separator
          { key with text := (Text.truncate key.text config.maxChars).1 }), [], []⟩ := by
  rw [Check.begin, if_neg hblank, hnone]

end Check

/-- Checks for `keys` that share `s` can be as far as `running` says. -/
def Shared.Runs (f : CacheKey → List Finding) (config : CheckerConfig) (s : Shared)
    (keys : List CacheKey) (running : List Progress) : Prop :=
  ∃ checks, Pool.Reachable f config ⟨s, checks⟩ ∧ checks.map (·.key) = keys ∧
    checks.map (·.progress) = running

namespace Shared

theorem Runs.move (h : s.Runs f config keys (before ++ p :: after))
    (hmove : ∀ key answered failed, ∃ answered' failed',
      Check.Move s ⟨key, p, answered, failed⟩ s' ⟨key, p', answered', failed'⟩) :
    s'.Runs f config keys (before ++ p' :: after) := by
  obtain ⟨checks, hreach, rfl, hrunning⟩ := h
  obtain ⟨left, right, rfl, rfl, hright⟩ := List.map_eq_append_iff.mp hrunning
  obtain ⟨⟨key, p, answered, failed⟩, right, rfl, rfl, rfl⟩ := List.map_eq_cons_iff.mp hright
  obtain ⟨answered', failed', hmove⟩ := hmove key answered failed
  exact ⟨_, hreach.move (.check hmove), by simp, by simp⟩

theorem Runs.begin {c : Check} (h : s.Runs f config keys running)
    (hc : Check.begin config s.caches.texts key = c) :
    s.Runs f config (keys ++ [c.key]) (running ++ [c.progress]) := by
  obtain ⟨checks, hreach, rfl, rfl⟩ := h
  exact ⟨_, hreach.begin key, by simp [hc], by simp [hc]⟩

theorem Runs.leave (h : s.Runs f config keys running) : s.Runs f config [] [] := by
  obtain ⟨checks, hreach, -, -⟩ := h
  induction checks with
  | nil => exact ⟨[], hreach, rfl, rfl⟩
  | cons c checks ih =>
    have hfirst : Pool.Reachable f config ⟨s, [] ++ c :: checks⟩ := hreach
    exact ih hfirst.leave

theorem Runs.forget (h : s.Runs f config keys running) (hcaches : s.caches.Forgets caches) :
    ({ s with caches } : Shared).Runs f config keys running := by
  obtain ⟨checks, hreach, hkeys, hrunning⟩ := h
  exact ⟨checks, hreach.forget hcaches, hkeys, hrunning⟩

theorem Runs.enqueue (h : (s.issue key).Runs f config keys running) :
    (⟨s.caches, s.flights ++ [⟨s.nextTicket, key, .queued⟩], s.nextTicket + 1⟩ : Shared).Runs
      f config keys running := by
  obtain ⟨checks, hreach, hkeys, hrunning⟩ := h
  exact ⟨checks, hreach.move .enqueue, hkeys, hrunning⟩

theorem Runs.reply (h : (⟨caches, flights, next⟩ : Shared).Runs f config keys running)
    (hmem : ⟨n, key, .queued⟩ ∈ flights) (hreply : ∀ fs, answer = .ok fs → fs = f key) :
    ∃ flights', (⟨caches, flights', next⟩ : Shared).Runs f config keys running ∧
      ⟨n, key, .replied answer⟩ ∈ flights' ∧
      ∀ flight ∈ flights, flight.ticket ≠ n → flight ∈ flights' := by
  obtain ⟨checks, hreach, hkeys, hrunning⟩ := h
  obtain ⟨left, right, rfl⟩ := List.append_of_mem hmem
  refine ⟨_, ⟨checks, hreach.move (.reply hreply), hkeys, hrunning⟩, by simp, ?_⟩
  intro flight hflight hne
  rw [List.mem_append, List.mem_cons] at hflight
  rcases hflight with hflight | rfl | hflight
  · simp [hflight]
  · exact absurd rfl hne
  · simp [hflight]

theorem Runs.settle (h : s.Runs f config keys (before ++ .waiting t :: after)) :
    ({ s with caches := (Progress.settle t s.caches).2 } : Shared).Runs f config keys
      (before ++ (Progress.settle t s.caches).1 :: after) := by
  unfold Progress.settle
  split
  next hdone => exact h.move fun key answered failed => ⟨answered, failed, .finish hdone⟩
  next => exact h

theorem Runs.accept {q : Text.Segment} {rest : List (Text.Segment × Nat)}
    (h : s.Runs f config keys (before ++ .waiting t :: after)) (htodo : t.todo = [])
    (hasked : t.asked = (q, n) :: rest) (hflight : ⟨n, key, .replied answer⟩ ∈ s.flights) :
    ({ s with caches := (t.accept s.caches answer).2 } : Shared).Runs f config keys
      (before ++ .waiting (t.accept s.caches answer).1 :: after) := by
  cases answer with
  | ok fs => exact h.move fun _ _ _ => ⟨_, _, .answer htodo hasked hflight rfl rfl⟩
  | error failure =>
    have hcaches : (t.accept s.caches (.error failure)).2 = s.caches := by
      simp only [Task.accept, hasked]
    rw [hcaches]
    exact h.move fun _ _ _ => ⟨_, _, .fail htodo hasked hflight rfl rfl⟩

theorem Runs.hear (h : s.Runs f config keys (before ++ p :: after))
    (hflight : ⟨n, key, .replied answer⟩ ∈ s.flights) (htodo : ∀ t, p = .waiting t → t.todo = []) :
    ({ s with caches := (p.hear n answer s.caches).2 } : Shared).Runs f config keys
      (before ++ (p.hear n answer s.caches).1 :: after) := by
  cases p with
  | finished fs => exact h
  | waiting t =>
    simp only [Progress.hear]
    split
    next hhead =>
      obtain ⟨⟨q, m⟩, hfirst, rfl⟩ := Option.map_eq_some_iff.mp hhead
      obtain ⟨rest, hasked⟩ := List.head?_eq_some_iff.mp hfirst
      exact (h.accept (htodo t rfl) hasked hflight).settle
    next => exact h

theorem Runs.giveUp (h : s.Runs f config keys (before ++ .waiting t :: after)) (htodo : t.todo = [])
    (hfails : ∀ a ∈ t.asked, ∃ key failure, ⟨a.2, key, .replied (.error failure)⟩ ∈ s.flights) :
    s.Runs f config keys (before ++ .waiting t.giveUp :: after) := by
  obtain ⟨key, todo, asked, found, complete⟩ := t
  induction asked generalizing complete with
  | nil => simpa [Task.giveUp] using h
  | cons a asked ih =>
    obtain ⟨flown, failure, hflight⟩ := hfails a List.mem_cons_self
    have hnext := h.accept htodo rfl hflight
    simpa [Task.giveUp] using ih _ hnext htodo fun b hb => hfails b (List.mem_cons_of_mem _ hb)

theorem Runs.updateAll {update : Progress → Caches → Progress × Caches} {ps : List Progress}
    (before : List Progress)
    (h : (⟨caches, flights, next⟩ : Shared).Runs f config keys (before ++ ps))
    (hupdate : ∀ p ∈ ps, ∀ caches before after,
      (⟨caches, flights, next⟩ : Shared).Runs f config keys (before ++ p :: after) →
      (⟨(update p caches).2, flights, next⟩ : Shared).Runs f config keys
        (before ++ (update p caches).1 :: after)) :
    (⟨(Progress.updateAll update ps caches).2, flights, next⟩ : Shared).Runs f config keys
      (before ++ (Progress.updateAll update ps caches).1) := by
  induction ps generalizing before caches with
  | nil => exact h
  | cons p ps ih =>
    have hnext := hupdate p List.mem_cons_self _ _ _ h
    rw [List.append_cons] at hnext
    have hall := ih _ hnext fun q hq => hupdate q (List.mem_cons_of_mem _ hq)
    rw [← List.append_cons] at hall
    exact hall

/-- The requests in the queue are lost when there is nobody left to send them. -/
theorem Runs.close {orders : List (Order β)}
    (h : (⟨caches, flights, next⟩ : Shared).Runs f config keys running)
    (hsorted : orders.Pairwise (·.ticket < ·.ticket))
    (hqueued : ∀ o ∈ orders, ⟨o.ticket, o.key, .queued⟩ ∈ flights) :
    ∃ flights', (⟨caches, flights', next⟩ : Shared).Runs f config keys running ∧
      (∀ o ∈ orders,
        ⟨o.ticket, o.key, .replied (.error ⟨o.provider, .queueClosed⟩)⟩ ∈ flights') ∧
      ∀ flight ∈ flights, (∀ o ∈ orders, flight.ticket ≠ o.ticket) → flight ∈ flights' := by
  induction orders generalizing flights with
  | nil => exact ⟨flights, h, by simp, fun flight hflight _ => hflight⟩
  | cons o orders ih =>
    obtain ⟨hlater, hsorted⟩ := List.pairwise_cons.mp hsorted
    have hne : ∀ o' ∈ orders, o'.ticket ≠ o.ticket := fun o' ho' => Nat.ne_of_gt (hlater o' ho')
    obtain ⟨flights₁, hruns₁, hfailed, hkept₁⟩ := h.reply (hqueued o List.mem_cons_self)
      fun fs (hfs : (.error ⟨o.provider, .queueClosed⟩ : Reply) = .ok fs) => nomatch hfs
    obtain ⟨flights₂, hruns₂, hall, hkept₂⟩ := ih hruns₁ hsorted fun o' ho' =>
      hkept₁ _ (hqueued o' (List.mem_cons_of_mem _ ho')) (hne o' ho')
    refine ⟨flights₂, hruns₂, ?_, ?_⟩
    · intro o' ho'
      rcases List.mem_cons.mp ho' with rfl | ho'
      · exact hkept₂ _ hfailed fun o'' ho'' => (hne o'' ho'').symm
      · exact hall o' ho'
    · intro flight hflight hother
      have hflight₁ := hkept₁ flight hflight (hother o List.mem_cons_self)
      exact hkept₂ flight hflight₁ fun o' ho' => hother o' (List.mem_cons_of_mem _ ho')

end Shared

/-! ### Checks -/

theorem Progress.updateAll_eq_self {update : Progress → Caches → Progress × Caches}
    {ps : List Progress} (h : ∀ p ∈ ps, ∀ caches, update p caches = (p, caches))
    (caches : Caches) : updateAll update ps caches = (ps, caches) := by
  induction ps with
  | nil => rfl
  | cons p ps ih =>
    simp only [updateAll, h p List.mem_cons_self,
      ih fun q hq => h q (List.mem_cons_of_mem _ hq)]

theorem Progress.hear_of_not_awaits (h : p.awaits n = false) (answer : Reply) (caches : Caches) :
    p.hear n answer caches = (p, caches) := by
  cases p with
  | finished fs => rfl
  | waiting t =>
    simp only [hear]
    split
    next hhead =>
      obtain ⟨a, hfirst, rfl⟩ := Option.map_eq_some_iff.mp hhead
      have hawaits : (waiting t).awaits a.2 = true :=
        List.any_eq_true.mpr ⟨a, List.mem_of_head? hfirst, beq_self_eq_true _⟩
      rw [h] at hawaits
      cases hawaits
    next => rfl

theorem Worker.orders_of_closed {pace : Pace} {ask : Ask β σ} {awaited : Nat → Bool} {now : Millis}
    {w : Worker β} {world : σ} (h : (w.step pace ask awaited now world).2.2 = .closed) :
    (w.step pace ask awaited now world).1.orders = [] := by
  obtain ⟨phase, queue, last⟩ := w
  cases phase with
  | idle => cases queue <;> cases h
  | holding => cases h
  | asking o finish ending =>
    cases ending with
    | some reply => cases h
    | none => rfl
  | gone => cases h

namespace Checker

variable {T : Terms β} {ask : Ask β σ} {c : Checker β} {r : CheckRequest β} {keys' : List CacheKey}

theorem Inv.waits (h : c.Inv T keys) (ht : .waiting t ∈ c.running) :
    t.todo = [] ∧ t.Awaits c.worker.orders := by
  obtain ⟨i, hi, heq⟩ := List.getElem_of_mem ht
  have hholds := h.running.get (h.running.length_eq ▸ hi) hi
  simp only [List.get_eq_getElem, heq] at hholds
  exact ⟨hholds.2.1, hholds.1.awaits⟩

/-- A pool can be as the checker is, with checks for `keys`. -/
def Mirrored (f : CacheKey → List Finding) (keys : List CacheKey) (c : Checker β) : Prop :=
  ∃ flights, (⟨c.caches, flights, c.nextTicket⟩ : Shared).Runs f c.config keys c.running ∧
    ∀ o ∈ c.worker.orders, ⟨o.ticket, o.key, .queued⟩ ∈ flights

theorem mirrored_start (config : CheckerConfig) (tellsCuts : Bool) :
    (start config tellsCuts : Checker β).Mirrored f [] :=
  ⟨[], ⟨[], .start, rfl, rfl⟩, by simp [start, Worker.orders, Worker.fresh]⟩

theorem Mirrored.leave (h : c.Mirrored f keys) :
    { c with running := [] : Checker β }.Mirrored f [] := by
  obtain ⟨flights, hruns, hqueued⟩ := h
  exact ⟨flights, hruns.leave, hqueued⟩

theorem Mirrored.clearCache (h : c.Mirrored f keys) : c.clearCache.Mirrored f keys := by
  obtain ⟨flights, hruns, hqueued⟩ := h
  exact ⟨flights, hruns.forget c.caches.forgets_clear, hqueued⟩

/-! ### Waiting -/

theorem Mirrored.hear {worker : Worker β} {notice : Notice} (h : c.Mirrored f keys)
    (hinv : c.Inv (.steady f) keys')
    (hheard : Worker.Heard (.steady f) c.isAwaited c.worker.orders worker.orders notice)
    (hclosed : notice = .closed → worker.orders = []) (clock : Millis) :
    ({ c with worker, clock }.hear notice).Mirrored f keys := by
  obtain ⟨flights, hruns, hqueued⟩ := h
  cases notice with
  | nothing =>
    have hself : Progress.updateAll Prod.mk c.running c.caches = (c.running, c.caches) :=
      Progress.updateAll_eq_self (fun _ _ _ => rfl) _
    simp only [Checker.hear, hself]
    refine ⟨flights, hruns, fun o ho => hqueued o ?_⟩
    rcases hheard with heq | ⟨o', heq, -⟩
    · exact heq ▸ ho
    · exact heq ▸ List.mem_cons_of_mem _ ho
  | replied n answer =>
    obtain ⟨o, heq, rfl, hgives⟩ := hheard
    have hrest : ∀ o' ∈ worker.orders, ⟨o'.ticket, o'.key, .queued⟩ ∈ flights :=
      fun o' ho' => hqueued o' (heq ▸ List.mem_cons_of_mem _ ho')
    cases hawaited : c.isAwaited o.ticket with
    | true =>
      obtain ⟨flights', hruns', hflight, hkept⟩ :=
        hruns.reply (hqueued o (heq ▸ List.mem_cons_self))
          fun fs (hfs : answer = .ok fs) => hgives hawaited fs (hfs ▸ rfl)
      refine ⟨flights', hruns'.updateAll [] ?_, ?_⟩
      · intro p hp caches before after hruns
        exact hruns.hear hflight fun t ht => (hinv.waits (ht ▸ hp)).1
      · intro o' ho'
        have hlater := (List.pairwise_cons.mp (heq ▸ hinv.worker.sorted)).1 o' ho'
        exact hkept _ (hrest o' ho') (Nat.ne_of_gt hlater)
    | false =>
      have hself : ∀ p ∈ c.running, ∀ caches, p.hear o.ticket answer caches = (p, caches) :=
        fun p hp => Progress.hear_of_not_awaits
          (Bool.eq_false_iff.mpr (List.any_eq_false.mp hawaited p hp)) answer
      simp only [Checker.hear, Progress.updateAll_eq_self hself]
      exact ⟨flights, hruns, hrest⟩
  | closed =>
    obtain ⟨flights', hruns', hfailed, -⟩ := hruns.close hinv.worker.sorted hqueued
    refine ⟨flights', hruns'.updateAll [] ?_, ?_⟩
    · intro p hp caches before after hruns
      cases p with
      | finished fs => exact hruns
      | waiting t =>
        obtain ⟨htodo, hawaits⟩ := hinv.waits hp
        refine (hruns.giveUp htodo fun a ha => ?_).settle
        obtain ⟨o, ho, hticket, -⟩ := hawaits.queued a ha
        exact ⟨o.key, ⟨o.provider, .queueClosed⟩, hticket ▸ hfailed o ho⟩
    · intro o ho
      rw [worker_hear, hclosed rfl] at ho
      cases ho

theorem Mirrored.step (h : c.Mirrored f keys) (hinv : c.Inv (.steady f) keys')
    (hask : (Terms.steady f).Bind c.config.pace ask) (due : Millis) (world : σ) :
    (c.step ask due world).1.Mirrored f keys := by
  obtain ⟨-, hheard⟩ := hinv.worker.step hask due world
  exact h.hear hinv hheard Worker.orders_of_closed _

theorem Mirrored.proceed (h : c.Mirrored f keys) (hinv : c.Inv (.steady f) keys')
    (hask : (Terms.steady f).Bind c.config.pace ask) (goesOn : Checker β → Millis → Bool)
    (world : σ) : (c.proceed ask goesOn world).1.Mirrored f keys := by
  fun_induction Checker.proceed ask goesOn c world with
  | case2 c world due hdue hgoes next ih =>
    exact ih (h.step hinv hask due world) (hinv.step hask due world).1 hask
  | _ => exact h

/-! ### Beginning -/

def adding (c : Checker β) (p : Progress) : Checker β := { c with running := c.running ++ [p] }

theorem key_lookUp (c : Checker β) (r : CheckRequest β) (t : Task) :
    (c.lookUp r t).1.key = t.key := by
  rcases c.lookUp_cases r t with ⟨t', heq, -, hkey, -, -⟩ | ⟨p, rest, -, -, -, heq⟩
  · rw [heq, hkey]
  · rw [heq]

theorem Mirrored.lookUp {q : Text.Segment} {rest : List Text.Segment}
    (h : (c.adding (.waiting t)).Mirrored f keys) (hkey : t.key = r.key)
    (htodo : t.todo = q :: rest) :
    ((c.lookUp r t).2.adding (.waiting (c.lookUp r t).1)).Mirrored f keys := by
  obtain ⟨flights, hruns, hqueued⟩ := h
  rw [lookUp_eq]
  cases hfs : c.caches.paragraphs.find? (t.paragraphKey q) with
  | some fs =>
    have hnone : (t.lookUp c.caches c.ticket?).2 = none := by
      rw [Task.lookUp_of_known htodo hfs]
    rw [hnone]
    exact ⟨flights, hruns.move fun _ _ _ => ⟨_, _, .known c.ticket? htodo hfs⟩, hqueued⟩
  | none =>
    cases hgone : c.worker.isGone with
    | true =>
      have hticket : c.ticket? = none := by simp [ticket?, hgone]
      have hnone : (t.lookUp c.caches none).2 = none := by
        rw [Task.lookUp_of_not_known htodo hfs]
      rw [hticket, hnone]
      exact ⟨flights, hruns.move fun _ _ _ => ⟨_, _, .refuse htodo hfs⟩, hqueued⟩
    | false =>
      have hticket : c.ticket? = some c.nextTicket := by simp [ticket?, hgone]
      have htext : (t.lookUp c.caches (some c.nextTicket)).2 = some q.text := by
        rw [Task.lookUp_of_not_known htodo hfs]
      have hasked := hruns.move fun _ _ _ => ⟨_, _, .ask htodo hfs⟩
      rw [hticket, htext]
      refine ⟨_, hasked.enqueue, fun o ho => ?_⟩
      simp only [adding, Worker.orders_enqueue] at ho
      rw [List.mem_append, List.mem_singleton] at ho
      rcases ho with ho | rfl
      · exact List.mem_append_left _ (hqueued o ho)
      · rw [Task.paragraphKey, hkey]
        exact List.mem_append_right _ (List.mem_singleton_self _)

theorem Mirrored.lookUpAll (h : (c.adding (.waiting t)).Mirrored f keys) (hkey : t.key = r.key) :
    ((c.lookUpAll r t).2.adding (.waiting (c.lookUpAll r t).1)).Mirrored f keys := by
  unfold Checker.lookUpAll
  generalize htodo : t.todo = todo
  induction todo generalizing c t with
  | nil => exact h
  | cons q todo ih =>
    have hnext := todo_lookUp c r t
    rw [htodo] at hnext
    exact ih (h.lookUp hkey htodo) ((key_lookUp c r t).trans hkey) hnext

theorem Mirrored.settle (h : (c.adding (.waiting t)).Mirrored f keys) :
    ({ c with caches := (Progress.settle t c.caches).2 : Checker β }.adding
      (Progress.settle t c.caches).1).Mirrored f keys := by
  obtain ⟨flights, hruns, hqueued⟩ := h
  exact ⟨flights, hruns.settle, hqueued⟩

theorem Mirrored.begin (h : c.Mirrored f keys) (r : CheckRequest β) :
    (c.begin r).2.Mirrored f (keys ++ [(r.kept c.config).key]) := by
  have hadd {check : Check} (hcheck : Check.begin c.config c.caches.texts r.key = check) :
      (c.adding check.progress).Mirrored f (keys ++ [check.key]) := by
    obtain ⟨flights, hruns, hqueued⟩ := h
    exact ⟨flights, hruns.begin hcheck, hqueued⟩
  unfold Checker.begin
  split
  next hblank => exact hadd (if_pos hblank)
  next hblank =>
    unfold Checker.beginTask
    simp only
    split
    next fs hfs => exact hadd (Check.begin_of_kept hblank hfs)
    next hnone =>
      have hstarted := hadd (Check.begin_of_not_kept hblank hnone)
      exact (hstarted.lookUpAll rfl).settle

theorem sendable_steady (config : CheckerConfig) (known : Cache) (r : CheckRequest β) :
    (r.kept config).Sendable (.steady f) config.separator known :=
  fun _ _ _ _ => trivial

theorem Mirrored.beginAll (h : c.Mirrored f keys) (hinv : c.Inv (.steady f) keys)
    (rs : List (CheckRequest β)) :
    (c.beginAll rs).2.Mirrored f (keys ++ rs.map fun r => (r.kept c.config).key) := by
  unfold Checker.beginAll
  generalize ([] : List Cut) = cuts
  induction rs generalizing c keys cuts with
  | nil => simpa using h
  | cons r rs ih =>
    obtain ⟨hbegun, hgrows, -⟩ := hinv.begin (sendable_steady c.config c.caches.paragraphs r)
    have hall := ih (h.begin r) hbegun (cuts ++ (c.begin r).1.toList)
    rw [hgrows.config, List.append_assoc] at hall
    exact hall

/-! ### Whole checks -/

theorem Mirrored.settleAll (h : c.Mirrored f keys) (hinv : c.Inv (.steady f) keys')
    (hask : (Terms.steady f).Bind c.config.pace ask) (world : σ) :
    (Checker.settle ask c world).1.Mirrored f [] := by
  have hforgot : { c with running := [] : Checker β }.Inv (.steady f) [] :=
    ⟨hinv.caches, hinv.worker.mono fun n _ hn => by simp [isAwaited] at hn, .nil⟩
  exact h.leave.proceed hforgot hask _ world

/-- What a checker finds for some texts is what checks of a pool can have found when they are all
finished, and the checker goes on like that pool. -/
theorem Mirrored.checkAll (h : c.Mirrored f []) (hinv : c.Inv (.steady f) [])
    (hask : (Terms.steady f).Bind c.config.pace ask) (rs : List (CheckRequest β)) (world : σ) :
    (∃ pool : Pool, pool.Reachable f c.config ∧
      pool.checks.map (·.key) = rs.map (fun r => (r.kept c.config).key) ∧
      pool.checks.map (·.progress) = (c.checkAll ask rs world).1.map .finished) ∧
    (c.checkAll ask rs world).2.2.1.Mirrored f [] := by
  have hbegun := h.beginAll hinv rs
  obtain ⟨hinv₁, hgrows⟩ := hinv.beginAll fun r (_ : r ∈ rs) => sendable_steady c.config _ r
  unfold Checker.checkAll
  revert hbegun hinv₁ hgrows
  rcases c.beginAll rs with ⟨cuts, c₁⟩
  intro hbegun hinv₁ hgrows
  rw [← hgrows.config] at hask
  have hrun := hbegun.proceed hinv₁ hask (fun c _ => !c.allFinished) world
  obtain ⟨hinv₂, hgrows'⟩ := hinv₁.proceed hask (fun c _ => !c.allFinished) world
  have hfinished := hinv₁.allFinished_proceed hask world
  revert hrun hinv₂ hgrows' hfinished
  simp only
  rcases c₁.proceed ask (fun c _ => !c.allFinished) world with ⟨c₂, world₂⟩
  intro hrun hinv₂ hgrows' hfinished
  refine ⟨?_, hrun.settleAll hinv₂ (hgrows'.config ▸ hask) world₂⟩
  obtain ⟨flights, ⟨checks, hreach, hkeys, hrunning⟩, -⟩ := hrun
  rw [hgrows'.config, hgrows.config] at hreach
  refine ⟨_, hreach, hkeys, hrunning.trans ?_⟩
  rw [results, List.map_map, List.map_map]
  refine (List.map_id _).symm.trans (List.map_congr_left fun p hp => ?_)
  cases p with
  | finished fs => rfl
  | waiting t => cases List.all_eq_true.mp hfinished _ hp

theorem checkAll_start (config : CheckerConfig) (tellsCuts : Bool)
    (hask : (Terms.steady f).Bind config.pace ask) (rs : List (CheckRequest β)) (world : σ) :
    ∃ pool : Pool, pool.Reachable f config ∧
      pool.checks.map (·.key) = rs.map (fun r => (r.kept config).key) ∧
      pool.checks.map (·.progress) =
        ((start config tellsCuts).checkAll ask rs world).1.map .finished :=
  ((mirrored_start config tellsCuts).checkAll (inv_start config tellsCuts) hask rs world).1

/-- A check that takes too long is one that is given up. -/
theorem Mirrored.checkWithin (h : c.Mirrored f []) (hinv : c.Inv (.steady f) [])
    (hask : (Terms.steady f).Bind c.config.pace ask) (patience : Millis) (r : CheckRequest β)
    (world : σ) : (c.checkWithin ask patience r world).2.2.1.Mirrored f [] := by
  have hbegun := h.begin r
  obtain ⟨hinv₁, hgrows, -⟩ := hinv.begin (sendable_steady c.config c.caches.paragraphs r)
  unfold Checker.checkWithin
  revert hbegun hinv₁ hgrows
  rcases c.begin r with ⟨cut, c₁⟩
  intro hbegun hinv₁ hgrows
  rw [← hgrows.config] at hask
  have hrun := hbegun.proceed hinv₁ hask
    (fun c' due => !c'.allFinished && due < c.clock + patience) world
  obtain ⟨hinv₂, hgrows'⟩ := hinv₁.proceed hask
    (fun c' due => !c'.allFinished && due < c.clock + patience) world
  revert hrun hinv₂ hgrows'
  simp only
  rcases c₁.proceed ask _ world with ⟨c₂, world₂⟩
  intro hrun hinv₂ hgrows'
  rw [← hgrows'.config] at hask
  split
  next => exact hrun.settleAll hinv₂ hask world₂
  next =>
    have hlater : { c₂ with clock := c.clock + patience : Checker β }.Mirrored f _ := hrun
    have hlate : { c₂ with clock := c.clock + patience : Checker β }.Inv (.steady f) _ :=
      ⟨hinv₂.caches, hinv₂.worker, hinv₂.running⟩
    exact hlater.settleAll hlate hask world₂

theorem Mirrored.sleep (h : c.Mirrored f keys) (hinv : c.Inv (.steady f) keys')
    (hask : (Terms.steady f).Bind c.config.pace ask) (time : Millis) (world : σ) :
    (c.sleep ask time world).1.Mirrored f keys :=
  h.proceed hinv hask (fun _ due => due ≤ c.clock + time) world

end Checker
end ProseCheck
