import Mathlib.Data.List.Basic
import ProseCheck.Session.Basic

/-! # Diaries of sessions

A diary takes down what happens to a session. Each check has its own number, which its result bears,
so an outcome can be traced to the check that found it, also where two checks of one text find the
same. Recorded texts are counted, so it can be told which of them was the latest when a text was
compared with it, and which one when the outcome was published.
-/

namespace ProseCheck

/-- What the check of that number found, and how many texts had been recorded before the one that
was the latest then. -/
structure Numbered (ρ : Type) where
  number : Nat
  edition : Nat
  result : ρ
  deriving DecidableEq, Repr

/-- A published outcome, and the text that was the latest at that moment. -/
structure Publication (ρ : Type) where
  latest : List Char
  edition : Nat
  outcome : Outcome (Numbered ρ)
  deriving DecidableEq, Repr

/-- What can happen to a session. A check is handed its result and publishes it in two steps; the
time of an expiry may be too early, and then nothing expires. A call that schedules or starts a
check is one step, for what comes between its parts could as well come before. -/
inductive Session.Event where
  | edit (now : Millis) (text : List Char)
  | call (text : List Char)
  | cancel
  | expire (now : Millis)
  | answer (index : Nat)
  | publish (index : Nat)
  deriving DecidableEq, Repr

/-- What the event is on one thread: a check that is handed its result publishes it at once. -/
def Session.Event.turn : Session.Event → List Session.Event
  | .answer index => [.answer index, .publish index]
  | .publish _ => []
  | event => [event]

theorem Session.Event.turn_cases (event : Session.Event) : event.turn = [event] ∨
    (∃ index, event = .answer index) ∨ ∃ index, event = .publish index := by
  cases event with
  | answer index => exact Or.inr (Or.inl ⟨index, rfl⟩)
  | publish index => exact Or.inr (Or.inr ⟨index, rfl⟩)
  | edit | call | cancel | expire => exact Or.inl rfl

structure Diary (ρ : Type) where
  session : Session (Numbered ρ)
  /-- The texts that were recorded before the latest one. -/
  earlier : List (List Char)
  /-- The numbers of the running checks, in the order of their starts. -/
  numbers : List Nat
  /-- The number of the next check. -/
  next : Nat
  publications : List (Publication ρ)
  /-- Which checks have ended, and whether they said that they published their outcome. -/
  returns : List (Nat × Bool)
  /-- Whether a check that waited has been cancelled since the last edit or call. -/
  cancelled : Bool
  deriving DecidableEq, Repr

/-! ### Operations of sessions -/

namespace Session

variable {ρ : Type} {s : Session ρ} {index : Nat} {text : List Char}

theorem advance_cases (s : Session ρ) (now : Millis) :
    s.advance now = s ∨ ∃ timer, s.debouncer.waiting = some timer ∧ timer.deadline ≤ now ∧
      s.advance now = { s with
        debouncer := { s.debouncer with waiting := none }
        running := s.running ++ [.asking timer.task] } := by
  rcases s.debouncer.advance_cases now with ⟨heq, -⟩ | ⟨timer, hwaiting, hdue, heq⟩
  · left
    rw [advance, heq]
    simp
  · refine Or.inr ⟨timer, hwaiting, hdue, ?_⟩
    rw [advance, heq]
    rfl

theorem answer_of_latest (h : s.running[index]? = some (.asking s.latest)) (result : ρ) :
    s.answer index result =
      (true, { s with running := s.running.set index (.passed ⟨s.latest, result⟩) }) := by
  simp [answer, h]

theorem answer_of_ne (h : s.running[index]? = some (.asking text)) (hne : text ≠ s.latest)
    (result : ρ) :
    s.answer index result = (false, { s with running := s.running.eraseIdx index }) := by
  simp [answer, h, hne.symm]

theorem publish_of_passed {outcome : Outcome ρ}
    (h : s.running[index]? = some (.passed outcome)) :
    s.publish index =
      { s with running := s.running.eraseIdx index, published := outcome } := by
  simp [publish, h]

end Session

/-! ### Events -/

namespace Diary

variable {ρ : Type} {finds : Nat → List Char → ρ} {d : Diary ρ} {index number : Nat}
  {text : List Char} {outcome : Outcome (Numbered ρ)}

/-- All texts that were recorded, each at the place of its edition. -/
def texts (d : Diary ρ) : List (List Char) := d.earlier ++ [d.session.latest]

def edition (d : Diary ρ) : Nat := d.earlier.length

/-- The diary of a new session, whose outcome bears the number 0. -/
def begin (delay : Millis) (clean : ρ) : Diary ρ :=
  ⟨Session.start delay ⟨0, 0, clean⟩, [], [], 1, [], [], false⟩

/-- Takes down the session that an operation has left: numbers for the checks that it has started,
and its outcome if that is the outcome of another check than before. -/
def see (d : Diary ρ) (s : Session (Numbered ρ)) (earlier : List (List Char)) (cancelled : Bool) :
    Diary ρ :=
  let started := s.running.length - d.session.running.length
  { d with
    session := s
    earlier
    numbers := d.numbers ++ List.range' d.next started
    next := d.next + started
    publications :=
      if s.published.result.number = d.session.published.result.number then d.publications
      else d.publications ++ [⟨s.latest, earlier.length, s.published⟩]
    cancelled }

def close (d : Diary ρ) (index number : Nat) (told : Bool) : Diary ρ :=
  { d with
    numbers := d.numbers.eraseIdx index
    returns := d.returns ++ [(number, told)] }

/-- The diary after an event, where `finds` says what the check of a number finds in a text. -/
def after (finds : Nat → List Char → ρ) (d : Diary ρ) : Session.Event → Diary ρ
  | .edit now text => d.see (d.session.textChanged now text) d.texts false
  | .call text => d.see (d.session.checkNow text) d.texts false
  | .cancel =>
    let (waited, s) := d.session.cancel
    d.see s d.earlier (d.cancelled || waited)
  | .expire now => d.see (d.session.advance now) d.earlier d.cancelled
  | .answer index =>
    match d.session.running[index]?, d.numbers[index]? with
    | some (.asking text), some number =>
      let (passed, s) := d.session.answer index ⟨number, d.edition, finds number text⟩
      let d := d.see s d.earlier d.cancelled
      if passed then d else d.close index number false
    | _, _ => d
  | .publish index =>
    match d.session.running[index]?, d.numbers[index]? with
    | some (.passed _), some number =>
      (d.see (d.session.publish index) d.earlier d.cancelled).close index number true
    | _, _ => d

theorem publications_see {s : Session (Numbered ρ)} {earlier : List (List Char)}
    {cancelled : Bool} (h : s.published = d.session.published) :
    (d.see s earlier cancelled).publications = d.publications := by
  rw [see, h, if_pos rfl]

/-- An event other than the parts of the end of a check may record a text and start checks, and does
nothing else. -/
theorem exists_see (finds : Nat → List Char → ρ) (d : Diary ρ) {event : Session.Event}
    (h : event.turn = [event]) : ∃ s earlier cancelled started,
      d.after finds event = d.see s earlier cancelled ∧
      s.running = d.session.running ++ List.map .asking started ∧
      s.published = d.session.published ∧ d.texts <+: earlier ++ [s.latest] := by
  cases event with
  | edit now text =>
    exact ⟨_, _, _, [], rfl, (List.append_nil _).symm, rfl, List.prefix_append ..⟩
  | call text => exact ⟨_, _, _, [text], rfl, rfl, rfl, List.prefix_append ..⟩
  | cancel => exact ⟨_, _, _, [], rfl, (List.append_nil _).symm, rfl, List.prefix_refl _⟩
  | expire now =>
    rcases d.session.advance_cases now with heq | ⟨timer, -, -, heq⟩
    · refine ⟨_, _, _, [], rfl, ?_, ?_, ?_⟩ <;> rw [heq]
      · exact (List.append_nil _).symm
      · exact List.prefix_refl _
    · refine ⟨_, _, _, [timer.task], rfl, ?_, ?_, ?_⟩ <;> rw [heq]
      · rfl
      · exact List.prefix_refl _
  | answer index => cases h
  | publish index => cases h

theorem after_answer_of_ne_asking (h : ∀ text, d.session.running[index]? ≠ some (.asking text)) :
    d.after finds (.answer index) = d := by
  rw [after]
  split
  case h_1 text _ hrunning _ => exact absurd hrunning (h text)
  case h_2 => rfl

theorem after_publish_of_ne_passed
    (h : ∀ outcome, d.session.running[index]? ≠ some (.passed outcome)) :
    d.after finds (.publish index) = d := by
  rw [after]
  split
  case h_1 outcome _ hrunning _ => exact absurd hrunning (h outcome)
  case h_2 => rfl

theorem after_answer_of_latest (hnumber : d.numbers[index]? = some number)
    (h : d.session.running[index]? = some (.asking d.session.latest)) :
    d.after finds (.answer index) =
      { d with
        session := { d.session with
          running := d.session.running.set index
            (.passed ⟨d.session.latest, number, d.edition, finds number d.session.latest⟩) } } := by
  simp only [after, h, hnumber, Session.answer_of_latest h, see, if_true, List.length_set,
    Nat.sub_self, Nat.add_zero, List.range'_zero, List.append_nil]

theorem after_answer_of_ne (hnumber : d.numbers[index]? = some number)
    (h : d.session.running[index]? = some (.asking text)) (hne : text ≠ d.session.latest) :
    d.after finds (.answer index) =
      { d with
        session := { d.session with running := d.session.running.eraseIdx index }
        numbers := d.numbers.eraseIdx index
        returns := d.returns ++ [(number, false)] } := by
  have hnone : (d.session.running.eraseIdx index).length - d.session.running.length = 0 :=
    Nat.sub_eq_zero_of_le (List.length_eraseIdx_le ..)
  simp only [after, h, hnumber, Session.answer_of_ne h hne, see, close, if_true, if_false, hnone,
    Nat.add_zero, List.range'_zero, List.append_nil, Bool.false_eq_true]

/-- A check that has passed publishes its outcome, as long as the one before bears another
number. -/
theorem after_publish_of_passed (hnumber : d.numbers[index]? = some number)
    (h : d.session.running[index]? = some (.passed outcome))
    (hne : outcome.result.number ≠ d.session.published.result.number) :
    d.after finds (.publish index) =
      { d with
        session := { d.session with
          running := d.session.running.eraseIdx index
          published := outcome }
        numbers := d.numbers.eraseIdx index
        publications := d.publications ++ [⟨d.session.latest, d.edition, outcome⟩]
        returns := d.returns ++ [(number, true)] } := by
  have hnone : (d.session.running.eraseIdx index).length - d.session.running.length = 0 :=
    Nat.sub_eq_zero_of_le (List.length_eraseIdx_le ..)
  simp only [after, h, hnumber, Session.publish_of_passed h, see, close, if_neg hne, hnone,
    Nat.add_zero, List.range'_zero, List.append_nil, edition]

def run (finds : Nat → List Char → ρ) (delay : Millis) (clean : ρ) (events : List Session.Event) :
    Diary ρ :=
  events.foldl (after finds) (begin delay clean)

theorem run_induction {P : Diary ρ → Prop} {delay : Millis} {clean : ρ}
    (hbegin : P (begin delay clean)) (hafter : ∀ d event, P d → P (d.after finds event))
    (events : List Session.Event) : P (run finds delay clean events) :=
  List.foldlRecOn events _ hbegin fun d hd event _ => hafter d event hd

end Diary
end ProseCheck
