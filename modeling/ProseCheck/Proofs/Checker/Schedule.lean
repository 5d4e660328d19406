import ProseCheck.Proofs.Checker.Shift

/-! # The schedule of calls

Whatever arrives, whoever leaves and however backends behave: the orders that are awaited when their
turn comes are called one after the other, each as early as the pace allows.
-/

namespace ProseCheck

variable {β σ : Type}

namespace Shift

/-- Where a worker stands between two calls or in one, when it has made the calls `ended`. -/
inductive Stands (pace : Pace) (ended : List (Served β)) (last : Option Millis) :
    Phase β → List (Served β) → List (Turn β) → Prop where
  | idle (hlast : last = ended.getLast?.map (·.base pace)) : Stands pace ended last .idle [] []
  | holding (t : Turn β) (hlast : last = ended.getLast?.map (·.base pace))
      (hawaited : t.awaited = true) (htaken : ∀ c ∈ ended, c.finish pace ≤ t.taken) :
      Stands pace ended last (.holding t.order (pace.startAfter last t.taken)) [] [t]
  | asking (c : Served β) (hlast : last = some c.start) :
      Stands pace ended last (.asking c.order (c.finish pace) (c.reply? pace)) [c] []
  | gone : Stands pace ended last .gone [] []

/-- What has become of the orders that have arrived. -/
structure Taken (w : Worker β) (arrived : List (Order β)) (turns : List (Turn β)) : Prop where
  tickets : arrived.map (·.ticket) = List.range arrived.length
  /-- Orders are taken as they have arrived. A worker that dies leaves the other ones. -/
  taken : turns.map (·.order) <+: arrived
  queue : w.phase ≠ .gone → turns.map (·.order) ++ w.queue = arrived
  dropped : w.phase = .gone → w.queue = []

/-- Which calls have been made, where those in `ended` have ended, `flying` are going on and `held`
are to be made next. -/
structure Made (pace : Pace) (turns : List (Turn β)) (calls : List (Call β))
    (deliveries : List Delivery) (ended flying : List (Served β)) (held : List (Turn β)) : Prop
    where
  /-- The orders that were awaited when they were taken are called, and no others. -/
  awaited : turns.filter (·.awaited) = (ended ++ flying).map (·.turn) ++ held
  calls : calls = (ended ++ flying).map (·.toCall)
  first : ∀ c, (ended ++ flying).head? = some c → c.start = c.taken
  follows : (ended ++ flying).IsChain (Follows pace)
  /-- Each call has brought its own reply at its end, unless the worker died of it. -/
  deliveries : deliveries = ended.filterMap (·.delivery? pace)

structure Traced (pace : Pace) (s : Shift β σ) (ended flying : List (Served β))
    (held : List (Turn β)) : Prop where
  orders : Taken s.worker s.arrived s.turns
  made : Made pace s.turns s.world.1 s.deliveries ended flying held
  past : ∀ c ∈ ended, c.finish pace ≤ s.clock
  deaths : ∀ c ∈ ended, c.reply? pace = none → s.worker.phase = .gone ∧ ended.getLast? = some c
  stands : Stands pace ended s.worker.last s.worker.phase flying held
  punctual : ∀ time, s.worker.phase.until? = some time → s.clock ≤ time

/-! ### Orders -/

section Orders

variable {w : Worker β} {arrived : List (Order β)} {turns : List (Turn β)} {o : Order β}
  {rest : List (Order β)}

theorem Taken.arrive (h : Taken w arrived turns) (hgone : w.isGone = false)
    (hticket : o.ticket = arrived.length) : Taken (w.enqueue o) (arrived ++ [o]) turns := by
  have halive : w.phase ≠ .gone := by
    intro hphase
    simp [Worker.isGone, hphase] at hgone
  constructor
  · simp [h.tickets, hticket, List.range_succ]
  · exact h.taken.trans (List.prefix_append ..)
  · intro _
    rw [← h.queue halive, List.append_assoc]
    rfl
  · exact fun hdead => absurd hdead halive

theorem Taken.turn (h : Taken w arrived turns) (hphase : w.phase = .idle)
    (hqueue : w.queue = o :: rest) {phase : Phase β} (halive : phase ≠ .gone) (t : Turn β)
    (ht : t.order = o) : Taken { w with phase, queue := rest } arrived (turns ++ [t]) := by
  have harrived : turns.map (·.order) ++ o :: rest = arrived :=
    hqueue ▸ h.queue (by simp [hphase])
  constructor
  · exact h.tickets
  · exact ⟨rest, by simpa [ht] using harrived⟩
  · intro _
    simpa [ht] using harrived
  · exact fun hgone => absurd hgone halive

theorem Taken.of_queue_eq {w' : Worker β} (h : Taken w arrived turns) (halive : w.phase ≠ .gone)
    (hqueue : w'.queue = w.queue) (halive' : w'.phase ≠ .gone) : Taken w' arrived turns where
  tickets := h.tickets
  taken := h.taken
  queue _ := hqueue ▸ h.queue halive
  dropped hgone := absurd hgone halive'

theorem Taken.die (h : Taken w arrived turns) (last : Option Millis) :
    Taken ⟨.gone, [], last⟩ arrived turns where
  tickets := h.tickets
  taken := h.taken
  queue hgone := absurd rfl hgone
  dropped _ := rfl

end Orders

/-! ### Calls -/

section Calls

variable {pace : Pace} {turns : List (Turn β)} {calls : List (Call β)} {deliveries : List Delivery}
  {ended : List (Served β)} {c : Served β} {t : Turn β}

theorem Made.turn (h : Made pace turns calls deliveries ended [] []) (t : Turn β) :
    Made pace (turns ++ [t]) calls deliveries ended [] ([t].filter (·.awaited)) where
  awaited := by rw [List.filter_append, h.awaited, List.append_nil]
  calls := h.calls
  first := h.first
  follows := h.follows
  deliveries := h.deliveries

theorem Made.call (h : Made pace turns calls deliveries ended [] [c.turn])
    (htaken : ∀ b ∈ ended, b.finish pace ≤ c.taken)
    (hstart : c.start = pace.startAfter (ended.getLast?.map (·.base pace)) c.taken) :
    Made pace turns (calls ++ [c.toCall]) deliveries ended [c] [] := by
  have hfirst := h.first
  have hfollows := h.follows
  rw [List.append_nil] at hfirst hfollows
  constructor
  · simpa using h.awaited
  · simp [h.calls]
  · exact first_concat hfirst hstart
  · exact follows_concat hfollows htaken hstart
  · exact h.deliveries

theorem Made.close (h : Made pace turns calls deliveries ended [c] []) :
    Made pace turns calls (deliveries ++ (c.delivery? pace).toList) (ended ++ [c]) [] [] := by
  constructor
  · rw [h.awaited, List.append_nil (ended ++ [c])]
  · rw [h.calls, List.append_nil]
  · rw [List.append_nil]
    exact h.first
  · rw [List.append_nil]
    exact h.follows
  · rw [h.deliveries, List.filterMap_append]
    cases hdelivery : c.delivery? pace <;> simp [hdelivery]

end Calls

variable {pace : Pace} {s : Shift β σ} {ended flying : List (Served β)}
  {held : List (Turn β)} {o : Order β} {rest : List (Order β)} {start finish : Millis}

theorem Traced.arrive (h : Traced pace s ended flying held) (r : CheckRequest β) :
    Traced pace (s.arrive r) ended flying held := by
  unfold Shift.arrive
  split
  · exact h
  next hgone =>
    exact ⟨h.orders.arrive (by simpa using hgone) rfl, h.made, h.past, h.deaths, h.stands,
      h.punctual⟩

theorem Traced.clock_le (h : Traced pace s ended flying held) {due : Millis}
    (hdue : s.due? = some due) : s.clock ≤ due := by
  rcases due?_eq_some_iff.mp hdue with huntil | ⟨-, -, rfl⟩
  · exact h.punctual due huntil
  · exact Nat.le_refl _

theorem Traced.wait (h : Traced pace s ended flying held) {clock : Millis} (hle : s.clock ≤ clock)
    (hdue : ∀ due, s.due? = some due → clock ≤ due) :
    Traced pace { s with clock } ended flying held where
  orders := h.orders
  made := h.made
  past := fun c hc => (h.past c hc).trans hle
  deaths := h.deaths
  stands := h.stands
  punctual := fun time huntil => hdue time (due?_eq_some_iff.mpr (Or.inl huntil))

theorem Traced.pass (h : Traced pace s ended flying held) (time : Millis) :
    Traced pace (s.pass time) ended flying held := by
  unfold Shift.pass
  split
  next hnone =>
    refine h.wait (Nat.le_add_right ..) fun due hdue => ?_
    rw [hnone] at hdue
    cases hdue
  next due hsome =>
    refine h.wait (Nat.le_min.mpr ⟨Nat.le_add_right .., h.clock_le hsome⟩) fun due' hdue => ?_
    rw [hsome] at hdue
    cases hdue
    exact Nat.min_le_right ..

theorem Traced.leave (h : Traced pace s ended flying held) (ticket : Nat) :
    Traced pace { s with left := ticket :: s.left } ended flying held :=
  ⟨h.orders, h.made, h.past, h.deaths, h.stands, h.punctual⟩

/-! ### Work -/

theorem Traced.deaths_of_ne (h : Traced pace s ended flying held) (hphase : s.worker.phase ≠ .gone)
    {c : Served β} (hc : c ∈ ended) : c.reply? pace ≠ none :=
  fun hdead => hphase (h.deaths c hc hdead).1

theorem Traced.take (h : Traced pace s ended flying held) (hphase : s.worker.phase = .idle)
    (hqueue : s.worker.queue = o :: rest) (ask : Ask β σ) :
    ∃ held', Traced pace (s.work pace ask) ended [] held' := by
  have halive : s.worker.phase ≠ .gone := by simp [hphase]
  have hstands := h.stands
  rw [hphase] at hstands
  obtain ⟨hlast⟩ := hstands
  rw [work_of_idle hphase hqueue]
  refine ⟨[⟨o, s.clock, s.awaits o.ticket⟩].filter (·.awaited), ?_⟩
  constructor
  · exact h.orders.turn hphase hqueue (by split <;> simp) _ rfl
  · exact h.made.turn _
  · exact h.past
  · exact fun c hc hdead => absurd hdead (h.deaths_of_ne halive hc)
  · cases s.awaits o.ticket with
    | true => exact .holding ⟨o, s.clock, true⟩ hlast rfl h.past
    | false => exact .idle hlast
  · cases s.awaits o.ticket with
    | true =>
      rintro time ⟨⟩
      exact pace.le_startAfter ..
    | false => rintro time ⟨⟩

theorem Traced.call (h : Traced pace s ended flying held)
    (hphase : s.worker.phase = .holding o start) (hle : start ≤ s.clock) (ask : Ask β σ) :
    ∃ c, Traced pace (s.work pace ask) ended [c] [] := by
  have halive : s.worker.phase ≠ .gone := by simp [hphase]
  have hclock : s.clock = start :=
    Nat.le_antisymm (h.punctual start (by simp [hphase, Phase.until?])) hle
  have hstands := h.stands
  rw [hphase] at hstands
  rw [work_of_holding hphase hle]
  generalize ask s.world.2 start o = answer
  obtain ⟨conduct, world⟩ := answer
  cases hstands with
  | holding t hlast hawaited htaken =>
    obtain ⟨order, taken, awaited⟩ := t
    cases hawaited
    let c : Served β := ⟨⟨order, pace.startAfter s.worker.last taken, conduct⟩, taken⟩
    have hstart : c.start = pace.startAfter (ended.getLast?.map (·.base pace)) c.taken := by
      rw [← hlast]
    refine ⟨c, ?_⟩
    constructor
    · exact h.orders.of_queue_eq halive rfl (by simp)
    · exact h.made.call (c := c) htaken hstart
    · exact h.past
    · exact fun b hb hdead => absurd hdead (h.deaths_of_ne halive hb)
    · exact .asking c rfl
    · rintro time ⟨⟩
      rw [hclock]
      exact (c.finish_bounds pace).1

theorem Traced.close {c : Served β} (h : Traced pace s ended [c] [])
    (halive : s.worker.phase ≠ .gone) (hle : c.finish pace ≤ s.clock) {worker : Worker β}
    (horders : Taken worker s.arrived s.turns)
    (hdead : c.reply? pace = none → worker.phase = .gone)
    (hstands : Stands pace (ended ++ [c]) worker.last worker.phase [] [])
    (huntil : worker.phase.until? = none) {deliveries : List Delivery}
    (hdeliveries : deliveries = s.deliveries ++ (c.delivery? pace).toList) :
    Traced pace { s with worker, deliveries } (ended ++ [c]) [] [] := by
  constructor
  · exact horders
  · rw [hdeliveries]
    exact h.made.close
  · exact List.forall_mem_append.mpr ⟨h.past, List.forall_mem_singleton.mpr hle⟩
  · refine List.forall_mem_append.mpr ⟨fun b hb hnone => ?_, List.forall_mem_singleton.mpr ?_⟩
    · exact absurd hnone (h.deaths_of_ne halive hb)
    · exact fun hnone => ⟨hdead hnone, List.getLast?_concat⟩
  · exact hstands
  · intro time htime
    rw [huntil] at htime
    cases htime

theorem Traced.hear (h : Traced pace s ended flying held) {ending : Option Reply}
    (hphase : s.worker.phase = .asking o finish ending) (hle : finish ≤ s.clock) (ask : Ask β σ) :
    ∃ c, Traced pace (s.work pace ask) (ended ++ [c]) [] [] := by
  have halive : s.worker.phase ≠ .gone := by simp [hphase]
  have hclock : s.clock = finish :=
    Nat.le_antisymm (h.punctual finish (by simp [hphase, Phase.until?])) hle
  have hstands := h.stands
  rw [hphase] at hstands
  cases hstands with
  | asking c hlast =>
    refine ⟨c, ?_⟩
    cases hreply : c.reply? pace with
    | some reply =>
      have hbase : pace.afterReply s.worker.last (c.finish pace) reply =
          (ended ++ [c]).getLast?.map (·.base pace) := by
        rw [hlast, c.afterReply_eq hreply, List.getLast?_concat]
        rfl
      rw [work_of_asking (hreply ▸ hphase) hle]
      refine h.close halive hle ?_ ?_ (.idle hbase) rfl ?_
      · exact h.orders.of_queue_eq halive rfl (by simp)
      · simp [hreply]
      · simp [Call.delivery?, hreply, hclock]
    | none =>
      rw [work_of_dying (hreply ▸ hphase) hle]
      refine h.close halive hle (h.orders.die _) (fun _ => rfl) .gone rfl ?_
      simp [Call.delivery?, hreply]

theorem Traced.work (h : Traced pace s ended flying held) (ask : Ask β σ) :
    ∃ ended' flying' held', Traced pace (s.work pace ask) ended' flying' held' := by
  cases hphase : s.worker.phase with
  | idle =>
    cases hqueue : s.worker.queue with
    | nil =>
      rw [work_of_due?_eq_none (by simp [due?, Worker.due?, hphase, hqueue])]
      exact ⟨ended, flying, held, h⟩
    | cons o rest => exact ⟨ended, [], h.take hphase hqueue ask⟩
  | holding o start =>
    by_cases hle : start ≤ s.clock
    · obtain ⟨c, hcall⟩ := h.call hphase hle ask
      exact ⟨ended, [c], [], hcall⟩
    · rw [work_of_until? (by rw [hphase]; rfl) (Nat.lt_of_not_le hle)]
      exact ⟨ended, flying, held, h⟩
  | asking o finish ending =>
    by_cases hle : finish ≤ s.clock
    · obtain ⟨c, hhear⟩ := h.hear hphase hle ask
      exact ⟨ended ++ [c], [], [], hhear⟩
    · rw [work_of_until? (by rw [hphase]; rfl) (Nat.lt_of_not_le hle)]
      exact ⟨ended, flying, held, h⟩
  | gone =>
    rw [work_of_due?_eq_none (by simp [due?, Worker.due?, hphase])]
    exact ⟨ended, flying, held, h⟩

theorem Traced.after (h : Traced pace s ended flying held) (ask : Ask β σ) (event : Event β) :
    ∃ ended' flying' held', Traced pace (s.after pace ask event) ended' flying' held' := by
  cases event with
  | arrive r => exact ⟨ended, flying, held, h.arrive r⟩
  | leave ticket => exact ⟨ended, flying, held, h.leave ticket⟩
  | pass time => exact ⟨ended, flying, held, h.pass time⟩
  | work => exact h.work ask

theorem Traced.run (h : Traced pace s ended flying held) (ask : Ask β σ)
    (events : List (Event β)) :
    ∃ ended' flying' held', Traced pace (s.run pace ask events) ended' flying' held' := by
  induction events generalizing s ended flying held with
  | nil => exact ⟨ended, flying, held, h⟩
  | cons event events ih =>
    obtain ⟨ended', flying', held', h'⟩ := h.after ask event
    exact ih h'

/-! ### The end -/

/-- Time can pass until something is due, and then the worker has less to do. -/
theorem Traced.advance (h : Traced pace s ended flying held) {due : Millis}
    (hdue : s.due? = some due) (ask : Ask β σ) :
    ((s.pass (due - s.clock)).work pace ask).worker.work < s.worker.work := by
  have hpass : s.pass (due - s.clock) = { s with clock := due } := by
    simp [Shift.pass, hdue, Nat.add_sub_cancel' (h.clock_le hdue)]
  have hnow : due? { s with clock := due } = some due := by
    refine due?_eq_some_iff.mpr ((due?_eq_some_iff.mp hdue).imp_right ?_)
    rintro ⟨hidle, hqueue, -⟩
    exact ⟨hidle, hqueue, rfl⟩
  rw [hpass, Shift.work, hnow]
  simp only [Nat.le_refl, if_true]
  exact s.worker.work_step_lt pace ask.recorded s.awaits due s.world hnow

end Shift

-- The provider asks for a pause, the second caller leaves, and the last call takes too long.
example :
    let r : CheckRequest Unit := ⟨(), .languageTool, {}, []⟩
    let ask : Ask Unit Unit := fun _ _ o =>
      if o.ticket = 0 then (.replies 700 (.error ⟨.languageTool, .rateLimited 429⟩), ())
      else (.replies 20000 (.ok []), ())
    let s := (Shift.begin ()).run {} ask
      [.arrive r, .work, .work, .pass 300, .arrive r, .arrive r, .leave 1, .pass 500, .work, .work,
        .work, .pass 60000, .work, .pass 60000, .work]
    s.world.1.map (fun c => (c.order.ticket, c.start)) = [(0, 0), (2, 35700)] ∧
      s.deliveries.map (fun d => (d.ticket, d.time)) = [(0, 700), (2, 50700)] := by
  decide

end ProseCheck
