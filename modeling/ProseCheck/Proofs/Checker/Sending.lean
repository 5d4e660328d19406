import Mathlib.Data.List.Forall2
import Mathlib.Data.List.Induction
import Mathlib.Tactic.Common
import ProseCheck.Proofs.Checker.Run

/-! # What checks send

Checks that follow each other send what nobody has answered so far: each paragraph under whose key
no request has been answered, in the order of the text and as often as it occurs there. Failures
leave nothing behind.
-/

namespace ProseCheck

/-- The requests that were sent, with the replies that counted. -/
abbrev Log (β : Type) := List (Order β × Reply)

/-- What an order asks for, whatever its ticket. -/
def Order.request {β : Type} (o : Order β) : CheckRequest β :=
  ⟨o.backend, o.provider, o.options, o.text⟩

namespace Log

variable {β : Type}

/-- Some request under that key was answered. -/
def answered (log : Log β) (key : CacheKey) : Bool := log.any fun e => e.1.key = key && e.2.isOk

def answer? (log : Log β) (key : CacheKey) : Option (List Finding) :=
  log.foldl (fun known e => if e.1.key = key then e.2.toOption.or known else known) none

variable {log : Log β} {o : Order β} {reply : Reply} {key : CacheKey} {fs : List Finding}

theorem answer?_append (log : Log β) (o : Order β) (reply : Reply) (key : CacheKey) :
    answer? (log ++ [(o, reply)]) key =
      if o.key = key then reply.toOption.or (log.answer? key) else log.answer? key := by
  rw [answer?, List.foldl_append]
  rfl

theorem isSome_answer? (log : Log β) (key : CacheKey) :
    (log.answer? key).isSome = log.answered key := by
  induction log using List.reverseRecOn with
  | nil => rfl
  | append_singleton log e ih =>
    obtain ⟨o, reply⟩ := e
    rw [answer?_append]
    have happend : answered (log ++ [(o, reply)]) key =
        (answered log key || (decide (o.key = key) && reply.isOk)) := by
      simp [answered]
    rw [happend, ← ih]
    by_cases h : o.key = key <;> cases reply <;>
      simp [h, Except.toOption, Except.isOk, Except.toBool]

theorem exists_mem_of_answer? (h : log.answer? key = some fs) :
    ∃ o, (o, .ok fs) ∈ log ∧ o.key = key := by
  induction log using List.reverseRecOn with
  | nil => cases h
  | append_singleton log e ih =>
    obtain ⟨o, reply⟩ := e
    rw [answer?_append] at h
    have hearlier (h : answer? log key = some fs) :
        ∃ o', (o', .ok fs) ∈ log ++ [(o, reply)] ∧ o'.key = key := by
      obtain ⟨o', ho', hkey⟩ := ih h
      exact ⟨o', List.mem_append_left _ ho', hkey⟩
    split at h
    next hkey =>
      cases reply with
      | ok gs =>
        obtain rfl : gs = fs := Option.some.inj h
        exact ⟨o, List.mem_append_right _ (List.mem_singleton_self _), hkey⟩
      | error => exact hearlier h
    next => exact hearlier h

end Log

/-- How backends behave that never crash: how long each takes and what it replies may depend on
anything. -/
abbrev Answers (β σ : Type) := σ → Millis → Order β → (Millis × Reply) × σ

def Pace.counts (pace : Pace) (provider : Provider) (after : Millis) (reply : Reply) : Reply :=
  if after ≤ pace.timeout then reply else .error ⟨provider, .timeout pace.timeout⟩

theorem ending_replies (pace : Pace) (provider : Provider) (start after : Millis) (reply : Reply) :
    (Conduct.replies after reply).ending provider pace.timeout start =
      (start + min after pace.timeout, some (pace.counts provider after reply)) := by
  rw [Conduct.ending, Pace.counts]
  split
  next h => rw [Nat.min_eq_left h]
  next h => rw [Nat.min_eq_right (Nat.le_of_not_le h)]

/-- Asks backends and keeps a log of it. -/
def logging {β σ : Type} (pace : Pace) (answers : Answers β σ) : Ask β (Log β × σ) :=
  fun (log, world) start o =>
    let ((after, reply), world) := answers world start o
    (.replies after reply, (log ++ [(o, pace.counts o.provider after reply)], world))

/-- Nothing is known but that no worker dies and nothing is forgotten. -/
def Terms.lasting (β : Type) : Terms β where
  Sends := fun _ => True
  Gives := fun _ _ => True
  Dies := False
  gives_none := fun h => h.elim
  Lasts := True

variable {β σ : Type} {pace : Pace}

theorem logging_bind (pace pace' : Pace) (answers : Answers β σ) :
    (Terms.lasting β).Bind pace' (logging pace answers) where
  gives _ _ _ _ := trivial
  dies world start o h := by
    obtain ⟨log, world⟩ := world
    simp [Ask.ending, logging, ending_replies] at h

/-! ### Workers and tasks -/

namespace Worker

def unsent (w : Worker β) : List (Order β) :=
  match w.phase with
  | .holding o _ => o :: w.queue
  | .idle | .asking .. | .gone => w.queue

def flying (w : Worker β) : Log β :=
  match w.phase with
  | .asking o _ (some reply) => [(o, reply)]
  | .asking _ _ none | .idle | .holding .. | .gone => []

/-- The worker has nothing to do. -/
def Rests (w : Worker β) : Prop := w.phase = .idle ∧ w.queue = []

theorem due?_of_rests {w : Worker β} {now : Millis} (h : w.Rests) : w.due? now = none := by
  obtain ⟨hphase, hqueue⟩ := h
  simp [due?, hphase, hqueue]

end Worker

namespace Task

variable {t : Task} {caches : Caches} {o : Order β} {orders : List (Order β)}

/-- The task awaits just these orders, each for its paragraph. -/
def Expects (t : Task) (orders : List (Order β)) : Prop :=
  List.Forall₂ (fun a o => o.ticket = a.2 ∧ o.key = t.paragraphKey a.1) t.asked orders

theorem Expects.append {p : Text.Segment} {todo : List Text.Segment} (h : t.Expects orders)
    (hkey : o.key = t.paragraphKey p) :
    { t with todo, asked := t.asked ++ [(p, o.ticket)] : Task }.Expects (orders ++ [o]) :=
  List.rel_append h (.cons ⟨rfl, hkey⟩ .nil)

theorem find?_accept {a : Text.Segment × Nat} {rest : List (Text.Segment × Nat)}
    (hkeeps : caches.keeps = true) (hasked : t.asked = a :: rest)
    (hkey : o.key = t.paragraphKey a.1) (reply : Reply) (key : CacheKey) :
    (t.accept caches reply).2.paragraphs.find? key =
      if o.key = key then reply.toOption.or (caches.paragraphs.find? key)
      else caches.paragraphs.find? key := by
  rw [accept, hasked, hkey]
  cases reply with
  | ok fs =>
    show (caches.insertParagraph (t.paragraphKey a.1) fs).paragraphs.find? key = _
    rw [Caches.insertParagraph, if_pos hkeeps]
    simp only [Cache.find?_insert, Except.toOption, Option.some_or, eq_comm]
  | error failure =>
    simp [Except.toOption]

theorem keeps_accept (t : Task) (caches : Caches) (reply : Reply) :
    (t.accept caches reply).2.keeps = caches.keeps := by
  unfold accept
  repeat' split
  · rfl
  · exact (Caches.extends_insertParagraph ..).keeps
  · rfl

theorem Expects.hear (h : t.Expects (o :: orders)) (caches : Caches) (reply : Reply) :
    (Progress.waiting t).hear o.ticket reply caches =
        Progress.settle (t.accept caches reply).1 (t.accept caches reply).2 ∧
      (t.accept caches reply).1.todo = t.todo ∧ (t.accept caches reply).1.Expects orders := by
  obtain ⟨a, asked, ⟨hticket, -⟩, hrest, hasked⟩ := List.forall₂_cons_right_iff.mp h
  have hfirst : t.asked.head?.map (·.2) = some o.ticket := by simp [hasked, hticket]
  obtain ⟨htodo, hasked', hkey⟩ : (t.accept caches reply).1.todo = t.todo ∧
      (t.accept caches reply).1.asked = asked ∧ (t.accept caches reply).1.key = t.key := by
    simp only [accept, hasked]
    cases reply <;> exact ⟨rfl, rfl, rfl⟩
  refine ⟨if_pos hfirst, htodo, ?_⟩
  rw [Expects, hasked']
  refine hrest.imp fun b o' h' => ⟨h'.1, ?_⟩
  rw [h'.2, paragraphKey, paragraphKey, hkey]

end Task

theorem Progress.keeps_settle (t : Task) (caches : Caches) :
    (settle t caches).2.keeps = caches.keeps := by
  unfold settle Task.keep Caches.insertText
  repeat' split
  all_goals rfl

/-- A task that is settled is finished, with nothing left for the worker, or it waits. -/
theorem Progress.settle_rests_or_waits {t : Task} {caches : Caches} {w : Worker β}
    (htodo : t.todo = []) (hidle : w.phase = .idle) (hexpects : t.Expects w.queue) :
    (∃ fs, [(settle t caches).1] = [.finished fs]) ∧ w.Rests ∨
      ∃ t', [(settle t caches).1] = [.waiting t'] ∧ t'.todo = [] ∧ t'.asked ≠ [] ∧
        t'.Expects w.orders := by
  unfold settle
  split
  next hdone =>
    rw [Task.isDone, Bool.and_eq_true, List.isEmpty_iff, List.isEmpty_iff] at hdone
    rw [Task.Expects, hdone.2, List.forall₂_nil_left_iff] at hexpects
    exact Or.inl ⟨⟨_, rfl⟩, hidle, hexpects⟩
  next hdone =>
    refine Or.inr ⟨t, rfl, htodo, fun hasked => hdone ?_, ?_⟩
    · simp [Task.isDone, htodo, hasked]
    · simpa [Worker.orders, hidle] using hexpects

def Cache.unknown (known : Cache) (key : CacheKey) (ps : List Text.Segment) : List Text.Segment :=
  ps.filter fun p => (known.find? { key with text := p.text }).isNone

/-! ### Looking up -/

namespace Checker

variable {c : Checker β} {r : CheckRequest β} {t : Task}

/-- What a checker with a resting worker becomes when it looks up the paragraphs of a task. -/
structure LooksUp (r : CheckRequest β) (t : Task) (c : Checker β) (next : Task × Checker β) :
    Prop where
  frame : { next.2 with worker := c.worker, nextTicket := c.nextTicket } = c
  idle : next.2.worker.phase = .idle
  key_eq : next.1.key = t.key
  todo_eq : next.1.todo = []
  expects : next.1.Expects next.2.worker.queue
  requests : next.2.worker.queue.map Order.request =
    c.worker.queue.map Order.request ++
      (c.caches.paragraphs.unknown t.key t.todo).map fun p => { r with text := p.text }

theorem ticket?_of_idle (hidle : c.worker.phase = .idle) : c.ticket? = some c.nextTicket := by
  simp [ticket?, Worker.isGone, hidle]

theorem looksUp_lookUpAll (hidle : c.worker.phase = .idle) (hkey : t.key = r.key)
    (hexpects : t.Expects c.worker.queue) : c.LooksUp r t (c.lookUpAll r t) := by
  unfold Checker.lookUpAll
  generalize htodo : t.todo = todo
  induction todo generalizing c t with
  | nil => exact ⟨rfl, hidle, rfl, htodo, hexpects, by simp [htodo, Cache.unknown]⟩
  | cons p todo ih =>
    have hlookUp := c.lookUp_eq r t
    rw [ticket?_of_idle hidle] at hlookUp
    rw [List.foldl_cons]
    show c.LooksUp r t (List.foldl _ (c.lookUp r t) todo)
    cases hfs : c.caches.paragraphs.find? (t.paragraphKey p) with
    | some fs =>
      simp only [Task.lookUp_of_known htodo hfs] at hlookUp
      rw [hlookUp]
      have hnext := @ih c ({ t with todo }.addFindings p fs) hidle hkey hexpects rfl
      refine { hnext with requests := ?_ }
      rw [hnext.requests, htodo, Cache.unknown, Cache.unknown, List.filter_cons_of_neg]
      · rfl
      · rw [Task.paragraphKey] at hfs
        simp [hfs]
    | none =>
      simp only [Task.lookUp_of_not_known htodo hfs] at hlookUp
      rw [hlookUp]
      have hordered : (c.orderFor r p).key = t.paragraphKey p := by
        rw [Task.paragraphKey, hkey]
        rfl
      have hnext := @ih
        { c with worker := c.worker.enqueue (c.orderFor r p), nextTicket := c.nextTicket + 1 }
        { t with todo, asked := t.asked ++ [(p, c.nextTicket)] } hidle hkey
        (hexpects.append hordered) rfl
      refine ⟨?_, hnext.idle, hnext.key_eq, hnext.todo_eq, hnext.expects, ?_⟩
      · exact congrArg (fun c' : Checker β =>
          { c' with worker := c.worker, nextTicket := c.nextTicket }) hnext.frame
      · rw [Task.paragraphKey] at hfs
        refine hnext.requests.trans ?_
        rw [htodo, Cache.unknown, Cache.unknown, List.filter_cons_of_pos]
        · simp [Worker.enqueue, orderFor, Order.request]
        · simp [hfs]

/-! ### Sending -/

/-- What holds while the orders of one check are sent: those that are in the log have been sent, and
the paragraphs that are kept are those whose replies have come. -/
structure Sends (earlier : Log β) (orders : List (Order β)) (c : Checker β) (log : Log β) : Prop
    where
  keeps : c.caches.keeps = true
  lives : ¬ c.worker.Mortal
  came : ∃ came : Log β, log = came ++ c.worker.flying ∧
    ∀ key, c.caches.paragraphs.find? key = came.answer? key
  sent : ∃ sent : Log β, log = earlier ++ sent ∧ sent.map (·.1) ++ c.worker.unsent = orders
  running : (∃ fs, c.running = [.finished fs]) ∧ c.worker.Rests ∨
    ∃ t, c.running = [.waiting t] ∧ t.todo = [] ∧ t.asked ≠ [] ∧ t.Expects c.worker.orders

variable {earlier log : Log β} {orders : List (Order β)}

theorem Sends.step (answers : Answers β σ) {logged : Log β × σ}
    (h : c.Sends earlier orders logged.1) (hpace : c.config.pace = pace) {due : Millis}
    (hdue : c.worker.due? c.clock = some due) :
    (c.step (logging pace answers) due logged).1.Sends earlier orders
      (c.step (logging pace answers) due logged).2.1 := by
  obtain ⟨log, world⟩ := logged
  obtain ⟨hkeeps, hlives, ⟨came, hlog, hcame⟩, hsent, hrunning⟩ := h
  obtain ⟨-, hrests⟩ | ⟨t, hrunning, htodo, hne, hexpects⟩ := hrunning
  · rw [Worker.due?_of_rests hrests] at hdue
    cases hdue
  obtain ⟨config, caches, ⟨phase, queue, last⟩, clock, next, tells, running⟩ := c
  obtain rfl := hrunning
  obtain rfl : config.pace = pace := hpace
  cases phase with
  | idle =>
    cases queue with
    | nil => cases hdue
    | cons o rest =>
      obtain ⟨a, asked, ⟨hticket, -⟩, -, hasked⟩ := List.forall₂_cons_right_iff.mp hexpects
      have hawaited : isAwaited (β := β) ⟨config, caches, ⟨.idle, o :: rest, last⟩, clock, next,
          tells, [.waiting t]⟩ o.ticket = true := by
        simp [isAwaited, Progress.awaits, hasked, hticket]
      simp only [Checker.step, Worker.step, hawaited, if_true]
      exact ⟨hkeeps, by simp [Worker.Mortal, hear], ⟨came, hlog, hcame⟩, hsent,
        Or.inr ⟨t, rfl, htodo, hne, hexpects⟩⟩
  | holding o start =>
    obtain rfl : log = came := by simpa [Worker.flying] using hlog
    generalize hanswers : answers world start o = answer
    obtain ⟨⟨after, reply⟩, world'⟩ := answer
    simp only [Checker.step, Worker.step, logging, hanswers, ending_replies]
    obtain ⟨sent, rfl, rfl⟩ := hsent
    refine ⟨hkeeps, by simp [Worker.Mortal, hear], ⟨_, rfl, hcame⟩,
      ⟨sent ++ [_], List.append_assoc .., ?_⟩, Or.inr ⟨t, rfl, htodo, hne, hexpects⟩⟩
    simp [Worker.unsent, hear]
  | asking o finish ending =>
    cases ending with
    | none => exact absurd (Or.inr ⟨o, finish, rfl⟩) hlives
    | some reply =>
      obtain ⟨a, asked, ⟨-, hkey⟩, -, hasked⟩ := List.forall₂_cons_right_iff.mp hexpects
      obtain ⟨hhear, htodo', hexpects'⟩ := hexpects.hear caches reply
      simp only [Checker.step, Worker.step, hear, Progress.updateAll, hhear]
      obtain rfl : log = came ++ [(o, reply)] := hlog
      refine ⟨?_, by simp [Worker.Mortal], ⟨_, (List.append_nil _).symm, fun key => ?_⟩, hsent, ?_⟩
      · rw [Progress.keeps_settle, Task.keeps_accept]
        exact hkeeps
      · rw [paragraphs_settle, Task.find?_accept hkeeps hasked hkey, hcame]
        exact (Log.answer?_append ..).symm
      · exact Progress.settle_rests_or_waits (htodo'.trans htodo) rfl hexpects'
  | gone => exact absurd (Or.inl rfl) hlives

theorem Sends.proceed (answers : Answers β σ) (logged : Log β × σ)
    (h : c.Sends earlier orders logged.1) (hpace : c.config.pace = pace) :
    (c.proceed (logging pace answers) (fun c _ => !c.allFinished) logged).1.Sends earlier orders
      (c.proceed (logging pace answers) (fun c _ => !c.allFinished) logged).2.1 := by
  fun_induction Checker.proceed (logging pace answers) (fun c _ => !c.allFinished) c logged with
  | case2 c logged due hdue hgoes next ih => exact ih (h.step answers hpace hdue) hpace
  | _ => exact h

theorem Sends.rests (h : c.Sends earlier orders log) (hall : c.allFinished = true) :
    c.worker.Rests := by
  obtain ⟨-, hrests⟩ | ⟨t, hrunning, -⟩ := h.running
  · exact hrests
  · simp [allFinished, hrunning, Progress.isFinished] at hall

/-- What holds between checks: the worker rests, and the answers of the log are kept. -/
structure Settled (c : Checker β) (log : Log β) : Prop where
  inv : c.Inv (.lasting β) []
  keeps : c.caches.keeps = true
  rests : c.worker.Rests
  paragraphs : ∀ key, c.caches.paragraphs.find? key = log.answer? key

theorem settled_start (config : CheckerConfig) (hkeeps : config.cacheSeconds ≠ 0)
    (tellsCuts : Bool) : (start config tellsCuts : Checker β).Settled [] where
  inv := inv_start config tellsCuts
  keeps := by simp [start, Caches.empty, hkeeps]
  rests := ⟨rfl, rfl⟩
  paragraphs _ := rfl

theorem Settled.running (h : c.Settled log) : c.running = [] :=
  List.length_eq_zero_iff.mp h.inv.running.length_eq.symm

theorem Settled.answered (h : c.Settled log) {key : CacheKey} {fs : List Finding}
    (hfs : c.caches.texts.find? key = some fs) {p : Text.Segment}
    (hp : p ∈ Text.proseParagraphs c.config.separator key.text) :
    log.answered { key with text := p.text } = true := by
  obtain ⟨parts, ⟨hperm, hgives⟩, hsome, -⟩ := h.inv.caches.texts key fs hfs
  rw [List.append_nil] at hperm
  obtain ⟨part, hpart, rfl⟩ := List.mem_map.mp (hperm.symm.subset hp)
  rw [← Log.isSome_answer?, ← h.paragraphs]
  exact (hgives part hpart).2 trivial h.keeps (hsome part hpart)

/-- The paragraphs of a request that nobody has answered, as requests of their own. -/
def unanswered (c : Checker β) (log : Log β) (r : CheckRequest β) : List (CheckRequest β) :=
  ((Text.proseParagraphs c.config.separator (r.kept c.config).text).filter fun p =>
    !log.answered { r.key with text := p.text }).map fun p => { r with text := p.text }

theorem Settled.addFinished (h : c.Settled log) (fs : List Finding) :
    { c with running := c.running ++ [.finished fs] : Checker β }.Sends log [] log where
  keeps := h.keeps
  lives := by
    rintro (hgone | ⟨o, finish, hasking⟩)
    · exact nomatch h.rests.1.symm.trans hgone
    · exact nomatch h.rests.1.symm.trans hasking
  came := ⟨log, by simp [Worker.flying, h.rests.1], h.paragraphs⟩
  sent := ⟨[], (List.append_nil _).symm, by simp [Worker.unsent, h.rests.1, h.rests.2]⟩
  running := Or.inl ⟨⟨fs, by simp [h.running]⟩, h.rests⟩

theorem Settled.sends (h : c.Settled log) {next : Task × Checker β} (hlooked : c.LooksUp r t next) :
    { next.2 with
      caches := (Progress.settle next.1 next.2.caches).2
      running := next.2.running ++ [(Progress.settle next.1 next.2.caches).1] : Checker β }.Sends
        log next.2.worker.queue log := by
  obtain ⟨t', config, caches, worker, clock, nextTicket, tells, running⟩ := next
  obtain ⟨hframe, hidle, -, htodo, hexpects, -⟩ := hlooked
  obtain rfl : caches = c.caches := congrArg Checker.caches hframe
  obtain rfl : running = [] := (congrArg Checker.running hframe).trans h.running
  dsimp only at hidle htodo hexpects
  refine ⟨(Progress.keeps_settle ..).trans h.keeps, ?_, ⟨log, ?_, fun key => ?_⟩,
    ⟨[], (List.append_nil _).symm, ?_⟩, ?_⟩
  · rintro (hgone | ⟨o, finish, hasking⟩)
    · exact nomatch hidle.symm.trans hgone
    · exact nomatch hidle.symm.trans hasking
  · simp [Worker.flying, hidle]
  · exact (congrArg (·.find? key) (paragraphs_settle ..)).trans (h.paragraphs key)
  · simp [Worker.unsent, hidle]
  · exact Progress.settle_rests_or_waits htodo hidle hexpects

theorem Settled.unknown_eq (h : c.Settled log) (r : CheckRequest β) :
    (c.caches.paragraphs.unknown r.key
      (Text.proseParagraphs c.config.separator (r.kept c.config).text)).map
        (fun p => { r with text := p.text }) = c.unanswered log r := by
  rw [unanswered, Cache.unknown]
  refine congrArg (List.map _) (List.filter_congr fun p _ => ?_)
  rw [h.paragraphs, ← Log.isSome_answer?, Option.not_isSome]

/-- A check begins with orders for all that nobody has answered. -/
theorem Settled.begin (h : c.Settled log) (r : CheckRequest β) :
    ∃ orders : List (Order β), (c.begin r).2.Sends log orders log ∧
      orders.map Order.request = c.unanswered log r := by
  unfold Checker.begin
  split
  next hblank =>
    refine ⟨[], h.addFinished [], ?_⟩
    have hkept : Text.allBlank (r.text.take c.config.maxChars) = true :=
      List.all_eq_true.mpr fun x hx => List.all_eq_true.mp hblank x (List.mem_of_mem_take hx)
    simp [unanswered, CheckRequest.kept, Text.proseParagraphs_eq_nil hkept]
  next =>
    simp only [beginTask]
    split
    next fs hfs =>
      refine ⟨[], h.addFinished fs, ?_⟩
      rw [unanswered, List.filter_eq_nil_iff.mpr]
      · rfl
      · intro p hp
        have hanswered : log.answered { r.key with text := p.text } = true := h.answered hfs hp
        simp [hanswered]
    next =>
      have hlooked := looksUp_lookUpAll (c := c) (r := r.kept c.config)
        (t := Task.start c.config.separator (r.kept c.config).key) h.rests.1 rfl
        (h.rests.2 ▸ .nil)
      refine ⟨_, h.sends hlooked, ?_⟩
      have hrequests := hlooked.requests
      rw [h.rests.2, List.map_nil, List.nil_append] at hrequests
      exact hrequests.trans (h.unknown_eq r)

/-! ### Checks that follow each other -/

theorem check_eq (ask : Ask β σ) (c : Checker β) (r : CheckRequest β) (world : σ) :
    (c.check ask r world).2.2 =
      let run := (c.begin r).2.proceed ask (fun c _ => !c.allFinished) world
      run.1.settle ask run.2 := rfl

theorem settle_of_rests {ask : Ask β σ} {world : σ} (h : c.worker.Rests) :
    c.settle ask world = ({ c with running := [] }, world) := by
  rw [Checker.settle, Checker.proceed]
  split
  next => rfl
  next due hdue =>
    rw [Worker.due?_of_rests h] at hdue
    cases hdue

/-- A check sends what nobody has answered, and settles. -/
theorem Settled.check (h : c.Settled log) (hpace : c.config.pace = pace) (answers : Answers β σ)
    (r : CheckRequest β) (world : σ) :
    (c.check (logging pace answers) r (log, world)).2.2.1.Settled
        (c.check (logging pace answers) r (log, world)).2.2.2.1 ∧
      (c.check (logging pace answers) r (log, world)).2.2.1.config = c.config ∧
      ∃ sent : Log β, (c.check (logging pace answers) r (log, world)).2.2.2.1 = log ++ sent ∧
        sent.map (·.1.request) = c.unanswered log r := by
  have hsendable : (r.kept c.config).Sendable (.lasting β) c.config.separator
      c.caches.paragraphs := fun _ _ _ _ => trivial
  obtain ⟨-, hinv, hgrows⟩ := h.inv.check hsendable (logging_bind pace _ answers) (log, world)
  obtain ⟨orders, hsends, hrequests⟩ := h.begin r
  have hbegun := h.inv.begin hsendable
  have hpace' : (c.begin r).2.config.pace = pace := hbegun.grows.config ▸ hpace
  have hran := hsends.proceed answers (log, world) hpace'
  have hall := hbegun.inv.allFinished_proceed (logging_bind pace _ answers) (log, world)
  have hrests := hran.rests hall
  have hcheck := c.check_eq (logging pace answers) r (log, world)
  dsimp only at hcheck
  rw [settle_of_rests hrests] at hcheck
  obtain ⟨hphase, hqueue⟩ := hrests
  obtain ⟨came, hlog, hcame⟩ := hran.came
  obtain ⟨sent, hsent, horders⟩ := hran.sent
  simp only [Worker.flying, hphase, List.append_nil] at hlog
  simp only [Worker.unsent, hphase, hqueue, List.append_nil] at horders
  refine ⟨⟨hinv, hgrows.caches.keeps.trans h.keeps, ?_, fun key => ?_⟩, hgrows.config, sent, ?_, ?_⟩
  · rw [hcheck]
    exact ⟨hphase, hqueue⟩
  · rw [hcheck, hlog]
    exact hcame key
  · rw [hcheck]
    exact hsent
  · rw [← hrequests, ← horders, List.map_map]
    rfl

def checkEach (ask : Ask β σ) (c : Checker β) (rs : List (CheckRequest β)) (world : σ) :
    Checker β × σ :=
  rs.foldl (fun (c, world) r => (c.check ask r world).2.2) (c, world)

theorem Settled.checkEach (answers : Answers β σ) (logged : Log β × σ) (h : c.Settled logged.1)
    (hpace : c.config.pace = pace) (rs : List (CheckRequest β)) :
    (c.checkEach (logging pace answers) rs logged).1.Settled
        (c.checkEach (logging pace answers) rs logged).2.1 ∧
      (c.checkEach (logging pace answers) rs logged).1.config = c.config := by
  unfold Checker.checkEach
  induction rs generalizing c logged with
  | nil => exact ⟨h, rfl⟩
  | cons r rs ih =>
    obtain ⟨hsettled, hconfig, -⟩ := h.check hpace answers r logged.2
    obtain ⟨hsettled', hconfig'⟩ := ih _ hsettled (hconfig ▸ hpace)
    exact ⟨hsettled', hconfig'.trans hconfig⟩

end Checker

/-- After any checks, the next one sends the paragraphs under whose keys no earlier request was
answered, in the order of its text and as often as they occur. What is kept afterwards for a
paragraph is an answer to it, and a text is only kept once all its paragraphs were answered. -/
theorem check_sends_unanswered {config : CheckerConfig} (hkeeps : config.cacheSeconds ≠ 0)
    (tellsCuts : Bool) (answers : Answers β σ) (world : σ) (rs : List (CheckRequest β))
    (r : CheckRequest β) :
    let ask := logging config.pace answers
    let (c, log, world) := (Checker.start config tellsCuts).checkEach ask rs ([], world)
    let (_, _, c', log', _) := c.check ask r (log, world)
    (∃ sent : Log β, log' = log ++ sent ∧
      sent.map (·.1.request) =
        ((Text.proseParagraphs config.separator (r.text.take config.maxChars)).filter fun p =>
          !log.answered ⟨r.provider, r.options, p.text⟩).map fun p => { r with text := p.text }) ∧
    (∀ key fs, c'.caches.paragraphs.find? key = some fs → ∃ o, (o, .ok fs) ∈ log' ∧ o.key = key) ∧
    ∀ key fs, c'.caches.texts.find? key = some fs →
      ∀ p ∈ Text.proseParagraphs config.separator key.text,
        log'.answered { key with text := p.text } = true := by
  intro ask
  have hstart : (Checker.start config tellsCuts : Checker β).Settled [] :=
    Checker.settled_start config hkeeps tellsCuts
  have heach := Checker.Settled.checkEach answers ([], world) hstart rfl rs
  have hconfig : ((Checker.start config tellsCuts).checkEach ask rs ([], world)).1.config =
    config := heach.2
  have hsettled : ((Checker.start config tellsCuts).checkEach ask rs ([], world)).1.Settled
    ((Checker.start config tellsCuts).checkEach ask rs ([], world)).2.1 := heach.1
  revert hsettled hconfig
  rcases (Checker.start config tellsCuts).checkEach ask rs ([], world) with ⟨c, log, world'⟩
  intro hconfig hsettled
  dsimp only at hconfig hsettled
  obtain ⟨hsettled', hconfig', sent, hlog, hsent⟩ :=
    hsettled.check (congrArg CheckerConfig.pace hconfig) answers r world'
  rw [hconfig] at hconfig'
  refine ⟨⟨sent, hlog, ?_⟩, fun key fs hfs => ?_, fun key fs hfs p hp => ?_⟩
  · rw [hsent, Checker.unanswered, hconfig]
    rfl
  · exact Log.exists_mem_of_answer? (hsettled'.paragraphs key ▸ hfs)
  · refine hsettled'.answered hfs ?_
    rw [hconfig']
    exact hp

/-- A backend that fails for one paragraph and finds nothing in others. -/
def failsAtEnd : Answers Unit Unit := fun _ _ o =>
  ((0, if o.text = "end".toList then .error ⟨o.provider, .timeout 0⟩ else .ok []), ())

theorem check_sends_unanswered_end :
    let ask := logging {} failsAtEnd
    let request (text : String) : CheckRequest Unit := ⟨(), .languageTool, {}, text.toList⟩
    let (c, log, _) := (Checker.start {} false).checkEach ask [request "teh\n\nend"] ([], ())
    let (_, _, _, log', _) := c.check ask (request "end\n\nteh\n\nnew\n\nend") (log, ())
    ∃ sent : Log Unit, log' = log ++ sent ∧
      sent.map (·.1.request.text) = ["end".toList, "new".toList, "end".toList] := by
  intro ask request
  have h := @check_sends_unanswered Unit Unit {} (by decide) false failsAtEnd ()
    [request "teh\n\nend"] (request "end\n\nteh\n\nnew\n\nend")
  obtain ⟨⟨sent, hlog, hsent⟩, -⟩ := h
  refine ⟨sent, hlog, ?_⟩
  rw [← Function.comp_def CheckRequest.text, ← List.map_map, hsent]
  decide +kernel

end ProseCheck
