import Mathlib.Tactic.Common
import ProseCheck.Proofs.Checker.Progress
import ProseCheck.Proofs.Text.Segment

/-! # What checkers keep true

From its start on, whatever it is asked to check and however the backends behave within the terms, a
checker holds right results and owes every reply to a paragraph.
-/

namespace ProseCheck

namespace CheckRequest

variable {β : Type}

def key (r : CheckRequest β) : CacheKey := ⟨r.provider, r.options, r.text⟩

/-- The request with as much of its text as is checked. -/
def kept (r : CheckRequest β) (config : CheckerConfig) : CheckRequest β :=
  { r with text := r.text.take config.maxChars }

/-- The orders for paragraphs of the text that are not known are among those that are sent. -/
def Sendable (T : Terms β) (separator : List Char) (known : Cache) (r : CheckRequest β) : Prop :=
  ∀ n, ∀ p ∈ Text.proseParagraphs separator r.text,
    known.find? { r.key with text := p.text } = none →
      T.Sends ⟨n, r.backend, r.provider, r.options, p.text⟩

end CheckRequest

namespace Checker

variable {β σ : Type} {T : Terms β} {ask : Ask β σ} {keys : List CacheKey} {key : CacheKey}
  {c : Checker β} {r : CheckRequest β} {t : Task} {world : σ}

/-- What holds of a checker that runs checks for the texts of `keys`. -/
structure Inv (T : Terms β) (keys : List CacheKey) (c : Checker β) : Prop where
  caches : c.caches.Hold T c.config.separator
  worker : c.worker.Tends T c.isAwaited c.nextTicket
  running : List.Forall₂
    (fun key p => p.Holds T c.config.separator c.caches c.worker.orders key) keys c.running

/-- The checker is set up as before and has not forgotten anything. -/
structure Grows (c c' : Checker β) : Prop where
  config : c'.config = c.config
  caches : c.caches.Extends c'.caches

theorem Grows.refl (c : Checker β) : c.Grows c := ⟨rfl, .refl _⟩

theorem Grows.trans {c' c'' : Checker β} (h : c.Grows c') (h' : c'.Grows c'') : c.Grows c'' :=
  ⟨h'.config.trans h.config, h.caches.trans h'.caches⟩

theorem inv_start (config : CheckerConfig) (tellsCuts : Bool) :
    (start config tellsCuts : Checker β).Inv T [] :=
  ⟨Caches.hold_empty _, Worker.tends_fresh, .nil⟩

/-! ### Waiting -/

def update : Notice → Progress → Caches → Progress × Caches
  | .nothing => Prod.mk
  | .replied ticket reply => Progress.hear ticket reply
  | .closed => Progress.giveUp

theorem moves_update {orders : List (Order β)} {notice : Notice} {p : Progress} {caches : Caches}
    (h : c.worker.Tends T c.isAwaited c.nextTicket)
    (hheard : Worker.Heard T c.isAwaited c.worker.orders orders notice) (hmem : p ∈ c.running)
    (hcaches : caches.Hold T c.config.separator)
    (hp : p.Holds T c.config.separator caches c.worker.orders key) :
    Progress.Moves T c.config.separator orders key p caches (update notice p caches) := by
  have hawaited {n : Nat} (hn : p.awaits n = true) : c.isAwaited n = true :=
    List.any_eq_true.mpr ⟨p, hmem, hn⟩
  cases notice with
  | nothing =>
    refine ⟨hcaches, .refl _, hp.of_orders fun o ho hawaits => ?_, fun n hn => hn⟩
    rcases hheard with heq | ⟨o', heq, hnone⟩
    · exact heq ▸ ho
    · rcases List.mem_cons.mp (heq ▸ ho) with rfl | ho
      · rw [hawaited hawaits] at hnone
        cases hnone
      · exact ho
  | replied n reply =>
    obtain ⟨o, heq, rfl, hreply⟩ := hheard
    have hsorted := h.sorted
    rw [heq] at hp hsorted
    exact Progress.moves_hear hcaches hp hsorted fun hn => hreply (hawaited hn)
  | closed => exact Progress.moves_giveUp hcaches hp hheard

theorem Inv.step (h : c.Inv T keys) (hask : T.Bind c.config.pace ask) (due : Millis) (world : σ) :
    (c.step ask due world).1.Inv T keys ∧ c.Grows (c.step ask due world).1 := by
  obtain ⟨hworker, hheard⟩ := h.worker.step hask due world
  obtain ⟨hcaches, hgrows, hrunning, hawaits⟩ := Progress.updateAll_moves h.caches h.running
    fun p hmem key caches => moves_update h.worker hheard hmem
  exact ⟨⟨hcaches, hworker.mono fun n _ => hawaits n, hrunning⟩, rfl, hgrows⟩

theorem Inv.proceed (h : c.Inv T keys) (hask : T.Bind c.config.pace ask)
    (goesOn : Checker β → Millis → Bool) (world : σ) :
    (c.proceed ask goesOn world).1.Inv T keys ∧ c.Grows (c.proceed ask goesOn world).1 := by
  fun_induction Checker.proceed ask goesOn c world with
  | case2 c world due hdue hgoes next ih =>
    obtain ⟨hstep, hgrows⟩ := h.step hask due world
    obtain ⟨hinv, hgrows'⟩ := ih hstep hask
    exact ⟨hinv, hgrows.trans hgrows'⟩
  | _ => exact ⟨h, .refl _⟩

/-! ### Beginning -/

/-- What holds of a checker while it looks up the paragraphs of a new task. -/
structure Building (T : Terms β) (keys : List CacheKey) (key : CacheKey) (c : Checker β)
    (t : Task) : Prop where
  caches : c.caches.Hold T c.config.separator
  worker : c.worker.Tends T (fun n => c.isAwaited n || (Progress.waiting t).awaits n) c.nextTicket
  running : List.Forall₂
    (fun key p => p.Holds T c.config.separator c.caches c.worker.orders key) keys c.running
  task : t.Fits T c.config.separator c.caches c.worker.orders key

theorem Inv.building (h : c.Inv T keys) (key : CacheKey) :
    c.Building T keys key (Task.start c.config.separator key) where
  caches := h.caches
  worker := h.worker.mono fun n _ hn => by simpa [Progress.awaits, Task.start] using hn
  running := h.running
  task := ⟨rfl, Task.accounts_start, Task.awaits_of_asked_eq_nil rfl⟩

def orderFor (c : Checker β) (r : CheckRequest β) (p : Text.Segment) : Order β :=
  ⟨c.nextTicket, r.backend, r.provider, r.options, p.text⟩

def ticket? (c : Checker β) : Option Nat := if c.worker.isGone then none else some c.nextTicket

theorem lookUp_eq (c : Checker β) (r : CheckRequest β) (t : Task) :
    c.lookUp r t = ((t.lookUp c.caches c.ticket?).1,
      match (t.lookUp c.caches c.ticket?).2 with
      | none => c
      | some text => { c with
          worker := c.worker.enqueue ⟨c.nextTicket, r.backend, r.provider, r.options, text⟩
          nextTicket := c.nextTicket + 1 }) := by
  simp only [Checker.lookUp, ticket?]
  rcases t.lookUp c.caches _ with ⟨t', _ | text⟩ <;> rfl

theorem lookUp_cases (c : Checker β) (r : CheckRequest β) (t : Task) :
    (∃ t', c.lookUp r t = (t', c) ∧ t' = (t.lookUp c.caches c.ticket?).1 ∧ t'.key = t.key ∧
        t'.asked = t.asked ∧ t'.todo = t.todo.tail) ∨
      ∃ p rest, c.worker.isGone = false ∧ t.todo = p :: rest ∧
        c.caches.paragraphs.find? (t.paragraphKey p) = none ∧ c.lookUp r t =
          ({ t with todo := rest, asked := t.asked ++ [(p, c.nextTicket)] },
            { c with
              worker := c.worker.enqueue (c.orderFor r p)
              nextTicket := c.nextTicket + 1 }) := by
  rw [lookUp_eq]
  rcases t.lookUp_cases c.caches c.ticket? with
    ⟨hnone, hkey, hasked, htodo⟩ | ⟨p, rest, n, htodo, hn, hunknown, heq⟩
  · exact Or.inl ⟨_, by rw [hnone], rfl, hkey, hasked, htodo⟩
  · obtain ⟨hgone, rfl⟩ : c.worker.isGone = false ∧ c.nextTicket = n := by simpa [ticket?] using hn
    rw [heq]
    exact Or.inr ⟨p, rest, hgone, htodo, hunknown, rfl⟩

theorem Building.enqueue {p : Text.Segment} {rest : List Text.Segment}
    (h : c.Building T keys r.key t) (hr : r.Sendable T c.config.separator c.caches.paragraphs)
    (hgone : c.worker.isGone = false) (htodo : t.todo = p :: rest)
    (hunknown : c.caches.paragraphs.find? (t.paragraphKey p) = none) :
    { c with
      worker := c.worker.enqueue (c.orderFor r p)
      nextTicket := c.nextTicket + 1 : Checker β }.Building T keys r.key
        { t with todo := rest, asked := t.asked ++ [(p, c.nextTicket)] } := by
  obtain ⟨hkey, haccounts, hawaits⟩ := h.task
  have hp := haccounts.mem_of_mem_todo (htodo ▸ List.mem_cons_self)
  rw [Task.paragraphKey, hkey] at hunknown
  rw [hkey] at hp
  have horders := c.worker.orders_enqueue (c.orderFor r p)
  have hsub : c.worker.orders ⊆ (c.worker.enqueue (c.orderFor r p)).orders :=
    horders ▸ List.subset_append_left ..
  refine ⟨h.caches, ?_, h.running.imp fun _ _ hp => hp.of_orders fun o ho _ => hsub ho,
    hkey, haccounts.ask htodo, ?_⟩
  · refine (h.worker.mono fun n hn hawaits => ?_).enqueue rfl (fun _ => hr _ p hp hunknown) hgone
    simp only [Progress.awaits, List.any_append, List.any_cons, List.any_nil, Bool.or_false,
      Bool.or_eq_true, beq_iff_eq] at hawaits ⊢
    rcases hawaits with hawaits | hawaits | hawaits
    · exact Or.inl hawaits
    · exact Or.inr hawaits
    · omega
  · have hordered : (c.orderFor r p).key = t.paragraphKey p := by
      rw [Task.paragraphKey, hkey]
      rfl
    exact horders ▸ hawaits.append h.worker.lt hordered

theorem Building.lookUp (h : c.Building T keys r.key t)
    (hr : r.Sendable T c.config.separator c.caches.paragraphs) :
    (c.lookUp r t).2.Building T keys r.key (c.lookUp r t).1 := by
  obtain ⟨hkey, haccounts, hawaits⟩ := h.task
  rcases c.lookUp_cases r t with ⟨t', heq, ht', hkey', hasked, -⟩ |
    ⟨p, rest, hgone, htodo, hunknown, heq⟩
  · have haccounts' := haccounts.lookUp c.caches c.ticket?
      (fun k fs hfs => h.caches.knows hfs) fun hnone k => by
        refine T.knows_none (h.worker.mortal (Or.inl (Worker.isGone_iff.mp ?_)))
        simpa [ticket?] using hnone
    rw [heq]
    rw [← ht'] at haccounts'
    refine ⟨h.caches, h.worker.mono fun n _ hn => ?_, h.running, hkey'.trans hkey, haccounts', ?_⟩
    · simpa [Progress.awaits, hasked] using hn
    · exact hawaits.of_asked_eq hkey' hasked
  · rw [heq]
    exact h.enqueue hr hgone htodo hunknown

theorem lookUp_frame (c : Checker β) (r : CheckRequest β) (t : Task) :
    (c.lookUp r t).2.config = c.config ∧ (c.lookUp r t).2.caches = c.caches := by
  rw [lookUp_eq]
  split <;> exact ⟨rfl, rfl⟩

theorem todo_lookUp (c : Checker β) (r : CheckRequest β) (t : Task) :
    (c.lookUp r t).1.todo = t.todo.tail := by
  rcases c.lookUp_cases r t with ⟨t', heq, -, -, -, htodo⟩ | ⟨p, rest, -, htodo, -, heq⟩
  · rw [heq, htodo]
  · rw [heq, htodo]
    rfl

theorem Building.lookUpAll (h : c.Building T keys r.key t)
    (hr : r.Sendable T c.config.separator c.caches.paragraphs) :
    (c.lookUpAll r t).2.Building T keys r.key (c.lookUpAll r t).1 ∧
      (c.lookUpAll r t).1.todo = [] ∧ (c.lookUpAll r t).2.config = c.config ∧
      (c.lookUpAll r t).2.caches = c.caches := by
  unfold Checker.lookUpAll
  generalize htodo : t.todo = todo
  induction todo generalizing c t with
  | nil => exact ⟨h, htodo, rfl, rfl⟩
  | cons p todo ih =>
    obtain ⟨hconfig, hcaches⟩ := c.lookUp_frame r t
    have hnext := todo_lookUp c r t
    rw [htodo] at hnext
    obtain ⟨hbuilding, hdone, hconfig', hcaches'⟩ := ih (h.lookUp hr) (hconfig ▸ hcaches ▸ hr) hnext
    exact ⟨hbuilding, hdone, hconfig'.trans hconfig, hcaches'.trans hcaches⟩

theorem Building.settle (h : c.Building T keys key t) (htodo : t.todo = []) :
    { c with
      caches := (Progress.settle t c.caches).2
      running := c.running ++ [(Progress.settle t c.caches).1] : Checker β }.Inv T
        (keys ++ [key]) := by
  have hmoves := Progress.moves_settle h.caches h.task htodo
  refine ⟨hmoves.caches, h.worker.mono fun n _ hn => ?_, ?_⟩
  · simp only [isAwaited, List.any_append, List.any_cons, List.any_nil, Bool.or_false,
      Bool.or_eq_true] at hn ⊢
    exact hn.imp_right (hmoves.awaits n)
  · exact List.rel_append (h.running.imp fun _ _ hp => hp.mono hmoves.grows)
      (.cons hmoves.holds .nil)

theorem Inv.addFinished {fs : List Finding} (h : c.Inv T keys)
    (hfs : Found (T.Knows c.caches) c.config.separator key fs) :
    { c with running := c.running ++ [.finished fs] : Checker β }.Inv T (keys ++ [key]) := by
  refine ⟨h.caches, h.worker.mono fun n _ hn => ?_, List.rel_append h.running (.cons hfs .nil)⟩
  simpa [isAwaited, Progress.awaits] using hn

theorem paragraphs_settle (t : Task) (caches : Caches) :
    (Progress.settle t caches).2.paragraphs = caches.paragraphs := by
  unfold Progress.settle Task.keep Caches.insertText
  repeat' split
  all_goals rfl

/-- What a checker becomes when it begins the check of a text. -/
structure Begins (T : Terms β) (keys : List CacheKey) (key : CacheKey) (c c' : Checker β) : Prop
    where
  inv : c'.Inv T (keys ++ [key])
  grows : c.Grows c'
  paragraphs : c'.caches.paragraphs = c.caches.paragraphs

theorem Inv.beginTask (h : c.Inv T keys)
    (hr : r.Sendable T c.config.separator c.caches.paragraphs) :
    c.Begins T keys r.key { (c.beginTask r).2 with
      running := (c.beginTask r).2.running ++ [(c.beginTask r).1] } := by
  unfold Checker.beginTask
  simp only
  split
  next fs hfs => exact ⟨h.addFinished (h.caches.texts _ _ hfs).found, ⟨rfl, .refl _⟩, rfl⟩
  next =>
    obtain ⟨hbuilding, htodo, hconfig, hcaches⟩ := (h.building r.key).lookUpAll hr
    have hmoves := Progress.moves_settle hbuilding.caches hbuilding.task htodo
    refine ⟨hbuilding.settle htodo, ⟨hconfig, hcaches ▸ hmoves.grows⟩, ?_⟩
    exact (paragraphs_settle _ _).trans (congrArg _ hcaches)

theorem Inv.begin (h : c.Inv T keys)
    (hr : (r.kept c.config).Sendable T c.config.separator c.caches.paragraphs) :
    c.Begins T keys (r.kept c.config).key (c.begin r).2 := by
  unfold Checker.begin
  split
  next hblank =>
    refine ⟨h.addFinished ⟨[], ⟨?_, by simp⟩, by simp [Finding.sort]⟩, ⟨rfl, .refl _⟩, rfl⟩
    have hkept : Text.allBlank (r.text.take c.config.maxChars) = true :=
      List.all_eq_true.mpr fun x hx => List.all_eq_true.mp hblank x (List.mem_of_mem_take hx)
    simp [CheckRequest.key, CheckRequest.kept, Text.proseParagraphs_eq_nil hkept]
  next => exact h.beginTask hr

theorem Inv.beginAll {rs : List (CheckRequest β)} (h : c.Inv T keys)
    (hrs : ∀ r ∈ rs, (r.kept c.config).Sendable T c.config.separator c.caches.paragraphs) :
    (c.beginAll rs).2.Inv T (keys ++ rs.map fun r => (r.kept c.config).key) ∧
      c.Grows (c.beginAll rs).2 := by
  unfold Checker.beginAll
  generalize ([] : List Cut) = cuts
  induction rs generalizing c keys cuts with
  | nil => exact ⟨by simpa using h, .refl _⟩
  | cons r rs ih =>
    obtain ⟨hbegun, hgrows, hparagraphs⟩ := h.begin (hrs r List.mem_cons_self)
    have hnext := ih hbegun
      (fun r' hr' => hgrows.config ▸ hparagraphs ▸ hrs r' (List.mem_cons_of_mem _ hr'))
      (cuts ++ (c.begin r).1.toList)
    rw [hgrows.config, List.append_assoc] at hnext
    exact ⟨hnext.1, hgrows.trans hnext.2⟩

/-! ### Ending -/

/-- With nothing left to do for the worker, nobody waits. -/
theorem Inv.allFinished (h : c.Inv T keys) (hdue : c.worker.due? c.clock = none) :
    c.allFinished = true := by
  refine List.all_eq_true.mpr fun p hp => ?_
  obtain ⟨i, hi, rfl⟩ := List.getElem_of_mem hp
  have hholds := h.running.get (h.running.length_eq ▸ hi) hi
  simp only [List.get_eq_getElem] at hholds
  revert hholds
  cases c.running[i] with
  | finished => exact fun _ => rfl
  | waiting t =>
    rintro ⟨hfits, -, hne⟩
    obtain ⟨a, rest, hasked⟩ := List.exists_cons_of_ne_nil hne
    obtain ⟨o, ho, -⟩ := hfits.awaits.queued a (hasked ▸ List.mem_cons_self)
    rw [h.worker.orders_eq_nil hdue] at ho
    cases ho

theorem Inv.allFinished_proceed (h : c.Inv T keys) (hask : T.Bind c.config.pace ask) (world : σ) :
    (c.proceed ask (fun c _ => !c.allFinished) world).1.allFinished = true := by
  fun_induction Checker.proceed ask (fun c _ => !c.allFinished) c world with
  | case1 c world hdue => exact h.allFinished hdue
  | case2 c world due hdue hgoes next ih => exact ih (h.step hask due world).1 hask
  | case3 c world due hdue hgoes => simpa using hgoes

theorem caches_proceed (goesOn : Checker β → Millis → Bool) (h : c.running = []) :
    (c.proceed ask goesOn world).1.caches = c.caches ∧
      (c.proceed ask goesOn world).1.running = [] := by
  fun_induction Checker.proceed ask goesOn c world with
  | case2 c world due hdue hgoes next ih =>
    have hnext : next.1.caches = c.caches ∧ next.1.running = [] := by
      simp only [next, Checker.step, hear, h, Progress.updateAll, and_self]
    rw [← hnext.1]
    exact ih hnext.2
  | _ => exact ⟨rfl, h⟩

theorem Inv.settle (h : c.Inv T keys) (hask : T.Bind c.config.pace ask) (world : σ) :
    (c.settle ask world).1.Inv T [] ∧ (c.settle ask world).1.caches = c.caches ∧
      c.Grows (c.settle ask world).1 := by
  have hforgot : { c with running := [] : Checker β }.Inv T [] :=
    ⟨h.caches, h.worker.mono fun n _ hn => by simp [isAwaited] at hn, .nil⟩
  obtain ⟨hinv, hgrows⟩ := hforgot.proceed hask (fun c due => due ≤ c.clock) world
  exact ⟨hinv, (caches_proceed _ rfl).1, hgrows.config, hgrows.caches⟩

/-- Checks that run at the same time end with what their paragraphs give. -/
theorem Inv.checkAll {rs : List (CheckRequest β)} (h : c.Inv T [])
    (hrs : ∀ r ∈ rs, (r.kept c.config).Sendable T c.config.separator c.caches.paragraphs)
    (hask : T.Bind c.config.pace ask) (world : σ) :
    List.Forall₂ (fun r fs => Found (T.Knows (c.checkAll ask rs world).2.2.1.caches)
        c.config.separator (r.kept c.config).key fs) rs (c.checkAll ask rs world).1 ∧
      (c.checkAll ask rs world).2.2.1.Inv T [] ∧ c.Grows (c.checkAll ask rs world).2.2.1 := by
  obtain ⟨hbegun, hgrows⟩ := h.beginAll hrs
  unfold Checker.checkAll
  revert hbegun hgrows
  rcases c.beginAll rs with ⟨cuts, c₁⟩
  intro hbegun hgrows
  rw [← hgrows.config] at hask
  have hrun := hbegun.proceed hask (fun c _ => !c.allFinished) world
  have hfinished := hbegun.allFinished_proceed hask world
  revert hrun hfinished
  simp only
  rcases c₁.proceed ask (fun c _ => !c.allFinished) world with ⟨c₂, world₂⟩
  rintro ⟨hrun, hgrows'⟩ hfinished
  rw [← hgrows'.config] at hask
  obtain ⟨hsettled, hcaches, hgrows''⟩ := hrun.settle hask world₂
  refine ⟨?_, hsettled, (hgrows.trans hgrows').trans hgrows''⟩
  simp only [results, hcaches]
  have hrunning := hrun.running
  rw [List.nil_append, List.forall₂_map_left_iff, hgrows'.config, hgrows.config] at hrunning
  rw [List.map_map, List.forall₂_map_right_iff]
  have hboth := (List.forall₂_and_left _ _).mpr ⟨List.all_eq_true.mp hfinished, hrunning.flip⟩
  refine hboth.flip.imp ?_
  rintro r p ⟨hp, hholds⟩
  cases p with
  | finished fs => exact hholds
  | waiting t => cases hp

theorem Inv.check (h : c.Inv T [])
    (hr : (r.kept c.config).Sendable T c.config.separator c.caches.paragraphs)
    (hask : T.Bind c.config.pace ask) (world : σ) :
    Found (T.Knows (c.check ask r world).2.2.1.caches) c.config.separator (r.kept c.config).key
        (c.check ask r world).1 ∧
      (c.check ask r world).2.2.1.Inv T [] ∧ c.Grows (c.check ask r world).2.2.1 := by
  obtain ⟨hfound, hinv, hgrows⟩ := h.checkAll
    (fun r' hr' => List.mem_singleton.mp hr' ▸ hr) hask world
  unfold Checker.check
  revert hfound hinv hgrows
  rcases c.checkAll ask [r] world with ⟨results, cuts, c', world'⟩
  rintro hfound hinv hgrows
  obtain _ | ⟨hfs, hrest⟩ := hfound
  exact ⟨hfs, hinv, hgrows⟩

/-- Caches that have lost some of what they held are as good. -/
theorem Inv.forget {caches : Caches} (h : c.Inv T keys) (hlasts : ¬ T.Lasts)
    (hparagraphs : ∀ key fs, caches.paragraphs.find? key = some fs →
      c.caches.paragraphs.find? key = some fs)
    (htexts : ∀ key fs, caches.texts.find? key = some fs → c.caches.texts.find? key = some fs) :
    { c with caches : Checker β }.Inv T keys where
  caches := ⟨fun key fs hfs => h.caches.paragraphs key fs (hparagraphs key fs hfs),
    fun key fs hfs => (h.caches.texts key fs (htexts key fs hfs)).mono fun _ _ hk =>
      hk.of_not_lasts hlasts⟩
  worker := h.worker
  running := h.running.imp fun _ _ hp => hp.of_not_lasts hlasts

theorem Inv.leave (h : c.Inv T keys) (i : Nat) :
    { c with running := c.running.eraseIdx i : Checker β }.Inv T (keys.eraseIdx i) where
  caches := h.caches
  worker := h.worker.mono fun n _ hn => by
    obtain ⟨p, hp, hawaits⟩ := List.any_eq_true.mp hn
    exact List.any_eq_true.mpr ⟨p, List.mem_of_mem_eraseIdx hp, hawaits⟩
  running := by
    rw [List.eraseIdx_eq_take_drop_succ, List.eraseIdx_eq_take_drop_succ]
    exact List.rel_append (List.forall₂_take i h.running) (List.forall₂_drop (i + 1) h.running)

theorem Inv.tellsCuts (h : c.Inv T keys) (on : Bool) :
    { c with tellsCuts := on : Checker β }.Inv T keys :=
  ⟨h.caches, h.worker, h.running⟩

theorem Inv.clearCache (h : c.Inv T []) : c.clearCache.Inv T [] := by
  have hrunning : c.running = [] := List.length_eq_zero_iff.mp h.running.length_eq.symm
  refine ⟨Caches.hold_empty _, h.worker, ?_⟩
  change List.Forall₂ _ [] c.running
  rw [hrunning]
  exact .nil

end Checker
end ProseCheck
