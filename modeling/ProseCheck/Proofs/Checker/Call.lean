import Mathlib.Data.List.Chain
import ProseCheck.Checker.Worker

/-! # Calls of backends

When a call ends and with what, and how far calls are apart that come right after each other.
-/

namespace ProseCheck

/-- An order that has been taken from the queue, and whether its caller was still waiting. -/
structure Turn (β : Type) where
  order : Order β
  taken : Millis
  awaited : Bool
  deriving DecidableEq, Repr

/-- A call of a backend. -/
structure Call (β : Type) where
  order : Order β
  start : Millis
  conduct : Conduct

/-- A reply that has been passed on to the caller with that ticket. -/
structure Delivery where
  time : Millis
  ticket : Nat
  reply : Reply

def Ask.recorded {β σ : Type} (ask : Ask β σ) : Ask β (List (Call β) × σ) :=
  fun (calls, world) start order =>
    let (conduct, world) := ask world start order
    (conduct, calls ++ [⟨order, start, conduct⟩], world)

variable {β : Type}

namespace Call

variable (pace : Pace) (c : Call β)

def finish : Millis := (c.conduct.ending c.order.provider pace.timeout c.start).1

def reply? : Option Reply := (c.conduct.ending c.order.provider pace.timeout c.start).2

def isLimited : Bool :=
  match c.reply? pace with
  | some (.error failure) => failure.isRateLimited
  | some (.ok _) | none => false

/-- The time from which on the interval to the next call counts. -/
def base : Millis := if c.isLimited pace then c.finish pace + pace.cooldown else c.start

def delivery? : Option Delivery := (c.reply? pace).map (⟨c.finish pace, c.order.ticket, ·⟩)

variable {pace c}

theorem finish_bounds (pace : Pace) (c : Call β) :
    c.start ≤ c.finish pace ∧ c.finish pace ≤ c.start + pace.timeout := by
  unfold finish
  cases c.conduct with
  | replies after reply => by_cases h : after ≤ pace.timeout <;> simp [Conduct.ending, h]
  | crashes after => by_cases h : after ≤ pace.timeout <;> simp [Conduct.ending, h]

theorem start_le_base (pace : Pace) (c : Call β) : c.start ≤ c.base pace := by
  unfold base
  split
  · exact (c.finish_bounds pace).1.trans (Nat.le_add_right ..)
  · exact Nat.le_refl _

theorem afterReply_eq {reply : Reply} (h : c.reply? pace = some reply) :
    pace.afterReply (some c.start) (c.finish pace) reply = some (c.base pace) := by
  cases reply with
  | ok => simp [Pace.afterReply, base, isLimited, h]
  | error failure =>
    by_cases hlimited : failure.isRateLimited <;>
      simp [Pace.afterReply, base, isLimited, h, hlimited]

end Call

structure Served (β : Type) extends Call β where
  taken : Millis

def Served.turn (c : Served β) : Turn β := ⟨c.order, c.taken, true⟩

/-- The second call is the next one after the first: its order is not taken before the first call is
over, and it starts as early as the pace allows. -/
structure Follows (pace : Pace) (c d : Served β) : Prop where
  taken : c.finish pace ≤ d.taken
  start : d.start = max d.taken (c.base pace + pace.minInterval)

theorem Pace.le_startAfter (pace : Pace) (last : Option Millis) (taken : Millis) :
    taken ≤ pace.startAfter last taken := by
  cases last with
  | none => exact Nat.le_refl _
  | some last => exact Nat.le_max_left ..

section Concat

variable {pace : Pace} {cs : List (Served β)} {c : Served β}

theorem follows_concat (h : cs.IsChain (Follows pace)) (htaken : ∀ b ∈ cs, b.finish pace ≤ c.taken)
    (hstart : c.start = pace.startAfter (cs.getLast?.map (·.base pace)) c.taken) :
    (cs ++ [c]).IsChain (Follows pace) := by
  refine List.isChain_append.mpr ⟨h, List.isChain_singleton c, fun b hb d hd => ?_⟩
  rw [Option.mem_def] at hb
  obtain rfl : c = d := Option.some.inj hd
  exact ⟨htaken b (List.mem_of_getLast? hb), by rw [hstart, hb]; rfl⟩

theorem first_concat (h : ∀ b, cs.head? = some b → b.start = b.taken)
    (hstart : c.start = pace.startAfter (cs.getLast?.map (·.base pace)) c.taken) :
    ∀ b, (cs ++ [c]).head? = some b → b.start = b.taken := by
  intro b hb
  cases cs with
  | nil =>
    obtain rfl : c = b := Option.some.inj hb
    exact hstart
  | cons => exact h b hb

end Concat

/-! ### Distances -/

/-- The second call starts after the end of the first one, and as far from it as the pace asks. -/
structure Apart (pace : Pace) (c d : Served β) : Prop where
  alone : c.finish pace ≤ d.start
  interval : c.start + pace.minInterval ≤ d.start
  cooldown : c.isLimited pace = true → c.finish pace + pace.cooldown + pace.minInterval ≤ d.start

theorem Follows.apart {pace : Pace} {c d : Served β} (h : Follows pace c d) : Apart pace c d where
  alone := by
    rw [h.start]
    exact h.taken.trans (Nat.le_max_left ..)
  interval := by
    rw [h.start]
    exact (Nat.add_le_add_right (c.start_le_base pace) _).trans (Nat.le_max_right ..)
  cooldown := by
    intro hlimited
    rw [h.start, Call.base, if_pos hlimited]
    exact Nat.le_max_right ..

theorem Apart.trans {pace : Pace} {b c d : Served β} (h : Apart pace b c) (h' : Apart pace c d) :
    Apart pace b d where
  alone := h.alone.trans ((c.finish_bounds pace).1.trans h'.alone)
  interval := h.interval.trans ((Nat.le_add_right ..).trans h'.interval)
  cooldown hlimited := (h.cooldown hlimited).trans ((Nat.le_add_right ..).trans h'.interval)

instance (pace : Pace) : Trans (α := Served β) (Apart pace) (Apart pace) (Apart pace) :=
  ⟨Apart.trans⟩

end ProseCheck
