import Mathlib.Tactic.Common
import ProseCheck.Checker.Worker

/-! # What workers keep true

The orders of a worker stand in the order of their tickets, and a reply is for the first of them. An
order that nobody awaits may be dropped and its reply may be anything.
-/

namespace ProseCheck

variable {β σ : Type}

def Order.key (o : Order β) : CacheKey := ⟨o.provider, o.options, o.text⟩

def outcome (ending : Option Reply) : Option (List Finding) := ending.bind (·.toOption)

def Ask.ending (ask : Ask β σ) (pace : Pace) (world : σ) (start : Millis) (o : Order β) :
    Option Reply :=
  ((ask world start o).1.ending o.provider pace.timeout start).2

/-- What is known of the orders that are sent and of what becomes of their paragraphs. -/
structure Terms (β : Type) where
  Sends : Order β → Prop
  Gives : CacheKey → Option (List Finding) → Prop
  /-- Whether the worker may die; then every paragraph may fail. -/
  Dies : Prop
  gives_none : Dies → ∀ key, Gives key none
  /-- Whether no result is forgotten. -/
  Lasts : Prop

/-- The backends keep to the terms. -/
structure Terms.Bind (T : Terms β) (pace : Pace) (ask : Ask β σ) : Prop where
  gives : ∀ world start o, T.Sends o → T.Gives o.key (outcome (ask.ending pace world start o))
  dies : ∀ world start o, ask.ending pace world start o = none → T.Dies

namespace Worker

variable {T : Terms β} {awaited awaited' : Nat → Bool} {bound : Nat} {w w' : Worker β}

/-- The orders that are not done, the one that is being sent included. -/
def orders (w : Worker β) : List (Order β) :=
  match w.phase with
  | .holding o _ | .asking o _ _ => o :: w.queue
  | .idle | .gone => w.queue

/-- The worker is dead or dies when its request ends. -/
def Mortal (w : Worker β) : Prop := w.phase = .gone ∨ ∃ o finish, w.phase = .asking o finish none

/-- What holds of a worker when the tickets below `bound` have been given out. -/
structure Tends (T : Terms β) (awaited : Nat → Bool) (bound : Nat) (w : Worker β) : Prop where
  sorted : w.orders.Pairwise (·.ticket < ·.ticket)
  lt : ∀ o ∈ w.orders, o.ticket < bound
  sends : ∀ o ∈ w.orders, awaited o.ticket = true → T.Sends o
  ending : ∀ o finish e, w.phase = .asking o finish e → awaited o.ticket = true →
    T.Gives o.key (outcome e)
  mortal : w.Mortal → T.Dies
  gone : w.phase = .gone → w.queue = []

theorem tends_fresh : (fresh : Worker β).Tends T awaited bound where
  sorted := List.Pairwise.nil
  lt := by simp [orders, fresh]
  sends := by simp [orders, fresh]
  ending := by simp [fresh]
  mortal := by simp [Mortal, fresh]
  gone := by simp [fresh]

theorem isGone_iff : w.isGone = true ↔ w.phase = .gone := by
  obtain ⟨phase, queue, last⟩ := w
  cases phase <;> simp [isGone]

theorem mem_orders_of_asking {o : Order β} {finish : Millis} {e : Option Reply}
    (h : w.phase = .asking o finish e) : o ∈ w.orders := by
  simp [orders, h]

theorem Tends.mono (h : w.Tends T awaited bound)
    (hle : ∀ n < bound, awaited' n = true → awaited n = true) : w.Tends T awaited' bound where
  sorted := h.sorted
  lt := h.lt
  sends := fun o ho ha => h.sends o ho (hle _ (h.lt o ho) ha)
  ending := fun o finish e hp ha =>
    h.ending o finish e hp (hle _ (h.lt o (mem_orders_of_asking hp)) ha)
  mortal := h.mortal
  gone := h.gone

/-- When nobody waits, the terms may change as long as the worker lives. -/
theorem Tends.renew {T' : Terms β} (h : w.Tends T awaited bound) (hdies : ¬ T.Dies)
    (hnone : ∀ n, awaited' n = false) : w.Tends T' awaited' bound where
  sorted := h.sorted
  lt := h.lt
  sends := fun o _ ha => by simp [hnone] at ha
  ending := fun o _ _ _ ha => by simp [hnone] at ha
  mortal := fun hm => absurd (h.mortal hm) hdies
  gone := h.gone

theorem Tends.of_sublist (h : w.Tends T awaited bound) (hsub : w'.orders.Sublist w.orders)
    (ending : ∀ o finish e, w'.phase = .asking o finish e → awaited o.ticket = true →
      T.Gives o.key (outcome e))
    (mortal : w'.Mortal → T.Dies) (gone : w'.phase = .gone → w'.queue = []) :
    w'.Tends T awaited bound where
  sorted := h.sorted.sublist hsub
  lt := fun o ho => h.lt o (hsub.subset ho)
  sends := fun o ho => h.sends o (hsub.subset ho)
  ending := ending
  mortal := mortal
  gone := gone

theorem orders_enqueue (w : Worker β) (o : Order β) : (w.enqueue o).orders = w.orders ++ [o] := by
  obtain ⟨phase, queue, last⟩ := w
  cases phase <;> rfl

theorem Tends.enqueue {o : Order β} (h : w.Tends T awaited bound) (hticket : o.ticket = bound)
    (hsends : awaited bound = true → T.Sends o) (hgone : w.isGone = false) :
    (w.enqueue o).Tends T awaited (bound + 1) where
  sorted := by
    rw [orders_enqueue, List.pairwise_append]
    refine ⟨h.sorted, List.pairwise_singleton _ _, fun o' ho' o'' ho'' => ?_⟩
    rw [List.mem_singleton.mp ho'', hticket]
    exact h.lt o' ho'
  lt := by
    intro o' ho'
    rw [orders_enqueue, List.mem_append, List.mem_singleton] at ho'
    rcases ho' with ho' | rfl
    · exact Nat.lt_succ_of_lt (h.lt o' ho')
    · omega
  sends := by
    intro o' ho' ha
    rw [orders_enqueue, List.mem_append, List.mem_singleton] at ho'
    rcases ho' with ho' | rfl
    · exact h.sends o' ho' ha
    · exact hsends (hticket ▸ ha)
  ending := h.ending
  mortal := h.mortal
  gone := by
    intro hp
    have : w.isGone = true := isGone_iff.mpr hp
    rw [hgone] at this
    cases this

theorem Tends.orders_eq_nil {now : Millis} (h : w.Tends T awaited bound)
    (hdue : w.due? now = none) : w.orders = [] := by
  have hgone := h.gone
  obtain ⟨phase, queue, last⟩ := w
  cases phase with
  | idle => simpa [due?, orders] using hdue
  | holding => cases hdue
  | asking => cases hdue
  | gone => exact hgone rfl

/-! ### Steps -/

def Heard (T : Terms β) (awaited : Nat → Bool) (before after : List (Order β)) : Notice → Prop
  | .nothing => after = before ∨ ∃ o, before = o :: after ∧ awaited o.ticket = false
  | .replied n reply => ∃ o, before = o :: after ∧ o.ticket = n ∧
      (awaited n = true → T.Gives o.key reply.toOption)
  | .closed => T.Dies

theorem Tends.step {pace : Pace} {ask : Ask β σ} (h : w.Tends T awaited bound)
    (hask : T.Bind pace ask) (now : Millis) (world : σ) :
    (w.step pace ask awaited now world).1.Tends T awaited bound ∧
      Heard T awaited w.orders (w.step pace ask awaited now world).1.orders
        (w.step pace ask awaited now world).2.2 := by
  obtain ⟨phase, queue, last⟩ := w
  cases phase with
  | idle =>
    cases queue with
    | nil => exact ⟨h, Or.inl rfl⟩
    | cons o rest =>
      cases ha : awaited o.ticket with
      | true =>
        simp only [step, ha, if_true]
        exact ⟨h.of_sublist (.refl _) (by simp) (by simp [Mortal]) (by simp), Or.inl rfl⟩
      | false =>
        simp only [step, ha, Bool.false_eq_true, if_false]
        exact ⟨h.of_sublist (List.sublist_cons_self ..) (by simp) (by simp [Mortal]) (by simp),
          Or.inr ⟨o, rfl, ha⟩⟩
  | holding o start =>
    refine ⟨h.of_sublist (.refl _) ?_ ?_ (by simp [step]), Or.inl rfl⟩
    · intro o' finish e hp hawaited
      cases hp
      exact hask.gives world start o (h.sends o List.mem_cons_self hawaited)
    · rintro (hp | ⟨o', finish, hp⟩)
      · cases hp
      · refine hask.dies world start o ?_
        simp only [step, Phase.asking.injEq] at hp
        exact hp.2.2
  | asking o finish ending =>
    cases ending with
    | some reply =>
      exact ⟨h.of_sublist (List.sublist_cons_self ..) (by simp [step]) (by simp [step, Mortal])
        (by simp [step]), o, rfl, rfl, h.ending o finish _ rfl⟩
    | none =>
      have hdies := h.mortal (Or.inr ⟨o, finish, rfl⟩)
      exact ⟨h.of_sublist (List.nil_sublist _) (by simp [step]) (fun _ => hdies) (by simp [step]),
        hdies⟩
  | gone => exact ⟨h, Or.inl rfl⟩

end Worker
end ProseCheck
