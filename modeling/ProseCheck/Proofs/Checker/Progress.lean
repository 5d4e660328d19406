import Mathlib.Data.List.Forall2
import Mathlib.Tactic.Common
import ProseCheck.Checker.Basic
import ProseCheck.Proofs.Checker.Cache

/-! # What checks keep true while they run

A check that waits accounts for its paragraphs, and its tickets belong to orders for them. So a
reply counts for the paragraph that it was asked for, and a check that ends has found what its
paragraphs give.
-/

namespace ProseCheck

variable {β : Type} {T : Terms β} {separator : List Char} {key : CacheKey} {c : Caches}
  {t t' : Task} {o : Order β} {orders orders' : List (Order β)} {p : Progress}

namespace Task

/-- The tickets are in order, and each of them has an order for its paragraph. -/
structure Awaits (orders : List (Order β)) (t : Task) : Prop where
  sorted : t.asked.Pairwise (·.2 < ·.2)
  queued : ∀ a ∈ t.asked, ∃ o ∈ orders, o.ticket = a.2 ∧ o.key = t.paragraphKey a.1

theorem Awaits.of_asked_eq (h : t.Awaits orders) (hkey : t'.key = t.key)
    (hasked : t'.asked = t.asked) : t'.Awaits orders :=
  ⟨hasked ▸ h.sorted, fun a ha => by
    rw [paragraphKey, hkey]
    exact h.queued a (hasked ▸ ha)⟩

theorem awaits_of_asked_eq_nil (h : t.asked = []) : t.Awaits orders :=
  ⟨h ▸ List.Pairwise.nil, fun a ha => by simp [h] at ha⟩

theorem Awaits.append {p : Text.Segment} {todo : List Text.Segment} (h : t.Awaits orders)
    (hlt : ∀ o' ∈ orders, o'.ticket < o.ticket) (hkey : o.key = t.paragraphKey p) :
    { t with todo, asked := t.asked ++ [(p, o.ticket)] : Task }.Awaits (orders ++ [o]) where
  sorted := by
    refine List.pairwise_append.mpr ⟨h.sorted, List.pairwise_singleton _ _, fun a ha b hb => ?_⟩
    obtain ⟨o', ho', hticket, -⟩ := h.queued a ha
    rw [List.mem_singleton.mp hb, ← hticket]
    exact hlt o' ho'
  queued := by
    intro a ha
    rcases List.mem_append.mp ha with ha | ha
    · obtain ⟨o', ho', hrest⟩ := h.queued a ha
      exact ⟨o', List.mem_append_left _ ho', hrest⟩
    · rw [List.mem_singleton.mp ha]
      exact ⟨o, List.mem_append_right _ (List.mem_singleton_self _), rfl, hkey⟩

theorem Awaits.tail (h : t.Awaits (o :: orders)) (hkey : t'.key = t.key)
    (hsub : t'.asked.Sublist t.asked) (hne : ∀ a ∈ t'.asked, a.2 ≠ o.ticket) :
    t'.Awaits orders where
  sorted := h.sorted.sublist hsub
  queued := by
    intro a ha
    obtain ⟨o', ho', hticket, horder⟩ := h.queued a (hsub.subset ha)
    rcases List.mem_cons.mp ho' with rfl | ho'
    · exact absurd hticket.symm (hne a ha)
    · exact ⟨o', ho', hticket, by rw [horder, paragraphKey, paragraphKey, hkey]⟩

theorem Awaits.ticket_le (h : t.Awaits (o :: orders))
    (hsorted : (o :: orders).Pairwise (·.ticket < ·.ticket)) {a : Text.Segment × Nat}
    (ha : a ∈ t.asked) : o.ticket ≤ a.2 := by
  obtain ⟨o', ho', hticket, -⟩ := h.queued a ha
  rw [← hticket]
  rcases List.mem_cons.mp ho' with rfl | ho'
  · exact Nat.le_refl _
  · exact Nat.le_of_lt ((List.pairwise_cons.mp hsorted).1 o' ho')

theorem Awaits.key_eq (h : t.Awaits (o :: orders))
    (hsorted : (o :: orders).Pairwise (·.ticket < ·.ticket)) {a : Text.Segment × Nat}
    (ha : a ∈ t.asked) (hticket : a.2 = o.ticket) : o.key = t.paragraphKey a.1 := by
  obtain ⟨o', ho', hticket', horder⟩ := h.queued a ha
  rcases List.mem_cons.mp ho' with rfl | ho'
  · exact horder
  · have := (List.pairwise_cons.mp hsorted).1 o' ho'
    omega

structure Fits (T : Terms β) (separator : List Char) (c : Caches) (orders : List (Order β))
    (key : CacheKey) (t : Task) : Prop where
  key_eq : t.key = key
  accounts : t.Accounts (T.Knows c) separator
  awaits : t.Awaits orders

theorem Fits.mono {c' : Caches} (h : t.Fits T separator c orders key) (hc : c.Extends c') :
    t.Fits T separator c' orders key :=
  ⟨h.key_eq, h.accounts.mono fun _ _ hk => hk.mono hc, h.awaits⟩

end Task

namespace Progress

/-- What is known of the check of a text. One that waits has looked up all paragraphs. -/
def Holds (T : Terms β) (separator : List Char) (c : Caches) (orders : List (Order β))
    (key : CacheKey) : Progress → Prop
  | finished fs => Found (T.Knows c) separator key fs
  | waiting t => t.Fits T separator c orders key ∧ t.todo = [] ∧ t.asked ≠ []

theorem Holds.mono {c' : Caches} (h : p.Holds T separator c orders key) (hc : c.Extends c') :
    p.Holds T separator c' orders key := by
  cases p with
  | finished fs => exact Found.mono h fun _ _ hk => hk.mono hc
  | waiting t => exact ⟨h.1.mono hc, h.2⟩

theorem Holds.of_not_lasts {c' : Caches} (h : p.Holds T separator c orders key)
    (hlasts : ¬ T.Lasts) : p.Holds T separator c' orders key := by
  cases p with
  | finished fs => exact Found.mono h fun _ _ hk => hk.of_not_lasts hlasts
  | waiting t =>
    obtain ⟨⟨hkey, haccounts, hawaits⟩, hrest⟩ := h
    exact ⟨⟨hkey, haccounts.mono fun _ _ hk => hk.of_not_lasts hlasts, hawaits⟩, hrest⟩

/-- Fewer orders are enough when nobody awaits the ones that are gone. -/
theorem Holds.of_orders (h : p.Holds T separator c orders key)
    (hsub : ∀ o ∈ orders, p.awaits o.ticket = true → o ∈ orders') :
    p.Holds T separator c orders' key := by
  cases p with
  | finished fs => exact h
  | waiting t =>
    refine ⟨⟨h.1.key_eq, h.1.accounts, h.1.awaits.sorted, fun a ha => ?_⟩, h.2⟩
    obtain ⟨o, ho, hticket, hkey⟩ := h.1.awaits.queued a ha
    have hawaits : (waiting t).awaits o.ticket = true :=
      List.any_eq_true.mpr ⟨a, ha, by simp [hticket]⟩
    exact ⟨o, hsub o ho hawaits, hticket, hkey⟩

/-- The check `p` went on to `r`, and so did the caches. -/
structure Moves (T : Terms β) (separator : List Char) (orders : List (Order β)) (key : CacheKey)
    (p : Progress) (c : Caches) (r : Progress × Caches) : Prop where
  caches : r.2.Hold T separator
  grows : c.Extends r.2
  holds : r.1.Holds T separator r.2 orders key
  awaits : ∀ n, r.1.awaits n = true → p.awaits n = true

theorem moves_settle (hc : c.Hold T separator) (h : t.Fits T separator c orders key)
    (htodo : t.todo = []) : Moves T separator orders key (.waiting t) c (settle t c) := by
  unfold settle
  split
  next hdone =>
    have hkeep : (t.keep c).Hold T separator ∧ c.Extends (t.keep c) := by
      unfold Task.keep
      split
      next hcomplete =>
        exact ⟨hc.insertText (h.accounts.foundAll_result hdone hcomplete),
          Caches.extends_insertText ..⟩
      next => exact ⟨hc, .refl c⟩
    refine ⟨hkeep.1, hkeep.2, ?_, fun n hn => by cases hn⟩
    exact h.key_eq ▸ (h.mono hkeep.2).accounts.found_result hdone
  next hdone =>
    refine ⟨hc, .refl c, ⟨h, htodo, fun hasked => hdone ?_⟩, fun n hn => hn⟩
    rw [Task.isDone, htodo, hasked]
    rfl

theorem Moves.of_extends {c' : Caches} {p' : Progress} {r : Progress × Caches}
    (h : Moves T separator orders key p' c' r) (hc : c.Extends c')
    (hp : ∀ n, p'.awaits n = true → p.awaits n = true) : Moves T separator orders key p c r :=
  ⟨h.caches, hc.trans h.grows, h.holds, fun n hn => hp n (h.awaits n hn)⟩

theorem moves_accept {a : Text.Segment × Nat} {rest : List (Text.Segment × Nat)} {reply : Reply}
    (hc : c.Hold T separator) (h : t.Fits T separator c (o :: orders) key) (htodo : t.todo = [])
    (hasked : t.asked = a :: rest) (hgives : T.Gives (t.paragraphKey a.1) reply.toOption)
    (hne : ∀ b ∈ rest, b.2 ≠ o.ticket) : Moves T separator orders key (.waiting t) c
      (settle (t.accept c reply).1 (t.accept c reply).2) := by
  have hnew : (t.accept c reply).2.Hold T separator ∧ c.Extends (t.accept c reply).2 ∧
      T.Knows (t.accept c reply).2 (t.paragraphKey a.1) reply.toOption := by
    unfold Task.accept
    rw [hasked]
    cases reply with
    | ok fs =>
      exact ⟨hc.insertParagraph hgives, Caches.extends_insertParagraph ..,
        Caches.knows_insertParagraph hgives⟩
    | error failure => exact ⟨hc, .refl c, hgives, by simp [Except.toOption]⟩
  have htask : (t.accept c reply).1.key = t.key ∧ (t.accept c reply).1.asked = rest ∧
      (t.accept c reply).1.todo = t.todo := by
    unfold Task.accept
    rw [hasked]
    cases reply <;> exact ⟨rfl, rfl, rfl⟩
  have haccounts := (h.mono hnew.2.1).accounts.accept c reply
    fun p n l hl => by
      obtain ⟨rfl, -⟩ := List.cons.inj (hasked.symm.trans hl)
      exact hnew.2.2
  have hawaits : (t.accept c reply).1.Awaits orders :=
    h.awaits.tail htask.1 (by simp [hasked, htask.2.1]) fun b hb => hne b (htask.2.1 ▸ hb)
  have hfits := Task.Fits.mk (htask.1.trans h.key_eq) haccounts hawaits
  refine (moves_settle hnew.1 hfits (htask.2.2.trans htodo)).of_extends hnew.2.1 fun n hn => ?_
  simp only [awaits, htask.2.1, hasked, List.any_cons] at hn ⊢
  rw [hn, Bool.or_true]

theorem moves_hear {reply : Reply} (hc : c.Hold T separator)
    (h : p.Holds T separator c (o :: orders) key)
    (hsorted : (o :: orders).Pairwise (·.ticket < ·.ticket))
    (hreply : p.awaits o.ticket = true → T.Gives o.key reply.toOption) :
    Moves T separator orders key p c (hear o.ticket reply p c) := by
  cases p with
  | finished fs => exact ⟨hc, .refl c, h, fun n hn => hn⟩
  | waiting t =>
    obtain ⟨hfits, htodo, hne⟩ := h
    obtain ⟨a, rest, hasked⟩ := List.exists_cons_of_ne_nil hne
    have hmem : a ∈ t.asked := hasked ▸ List.mem_cons_self
    have hlater : ∀ b ∈ rest, a.2 < b.2 :=
      (List.pairwise_cons.mp (hasked ▸ hfits.awaits.sorted)).1
    have hle := hfits.awaits.ticket_le hsorted hmem
    simp only [hear, hasked, List.head?_cons, Option.map_some, Option.some.injEq]
    split
    next heq =>
      have hgives : T.Gives (t.paragraphKey a.1) reply.toOption := by
        rw [← hfits.awaits.key_eq hsorted hmem heq]
        exact hreply (List.any_eq_true.mpr ⟨a, hmem, by simp [heq]⟩)
      refine moves_accept hc hfits htodo hasked hgives fun b hb => ?_
      have := hlater b hb
      omega
    next hticket =>
      have htail : t.Awaits orders := hfits.awaits.tail rfl (.refl _) fun b hb => by
        rcases List.mem_cons.mp (hasked ▸ hb) with rfl | hb
        · exact hticket
        · have := hlater b hb
          omega
      exact ⟨hc, .refl c, ⟨⟨hfits.key_eq, hfits.accounts, htail⟩, htodo, hne⟩, fun n hn => hn⟩

theorem moves_giveUp (hc : c.Hold T separator) (h : p.Holds T separator c orders key)
    (hdies : T.Dies) : Moves T separator orders' key p c (giveUp p c) := by
  cases p with
  | finished fs => exact ⟨hc, .refl c, h, fun n hn => hn⟩
  | waiting t =>
    obtain ⟨hfits, htodo, -⟩ := h
    have hgiveUp : t.giveUp.Fits T separator c orders' key :=
      ⟨hfits.key_eq, hfits.accounts.giveUp fun _ => T.knows_none hdies,
        Task.awaits_of_asked_eq_nil rfl⟩
    exact (moves_settle hc hgiveUp htodo).of_extends (.refl c) fun n hn => by
      simp [awaits, Task.giveUp] at hn

theorem updateAll_moves {update : Progress → Caches → Progress × Caches} {ps : List Progress}
    {keys : List CacheKey} (hc : c.Hold T separator)
    (h : List.Forall₂ (fun key p => p.Holds T separator c orders key) keys ps)
    (hupdate : ∀ p ∈ ps, ∀ key c, c.Hold T separator → p.Holds T separator c orders key →
      Moves T separator orders' key p c (update p c)) :
    (updateAll update ps c).2.Hold T separator ∧ c.Extends (updateAll update ps c).2 ∧
      List.Forall₂ (fun key p => p.Holds T separator (updateAll update ps c).2 orders' key) keys
        (updateAll update ps c).1 ∧
      ∀ n, (updateAll update ps c).1.any (·.awaits n) = true → ps.any (·.awaits n) = true := by
  induction ps generalizing keys c with
  | nil =>
    cases h
    exact ⟨hc, .refl c, .nil, fun n hn => hn⟩
  | cons p ps ih =>
    obtain _ | ⟨hp, hps⟩ := h
    have hmoves := hupdate p List.mem_cons_self _ c hc hp
    obtain ⟨hhold, hgrows, hall, hawaits⟩ := ih hmoves.caches
      (hps.imp fun _ _ hq => hq.mono hmoves.grows)
      (fun q hq => hupdate q (List.mem_cons_of_mem _ hq))
    refine ⟨hhold, hmoves.grows.trans hgrows, .cons (hmoves.holds.mono hgrows) hall, fun n hn => ?_⟩
    simp only [updateAll, List.any_cons, Bool.or_eq_true] at hn ⊢
    exact hn.imp (hmoves.awaits n) (hawaits n)

end Progress
end ProseCheck
