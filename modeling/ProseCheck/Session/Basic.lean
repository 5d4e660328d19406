import ProseCheck.Session.Debouncer

/-! # Editing sessions

A text is checked after it stops changing, or at once on demand. Checks run on their own and may
end in any order, so a result is published only if it is for the text that was recorded last when it
came. The comparison and the publication are two steps, and other steps may come between them.
-/

namespace ProseCheck

/-- What a check found, and the text that it was for. -/
structure Outcome (ρ : Type) where
  text : List Char
  result : ρ
  deriving DecidableEq, Repr

/-- A check that has not ended. -/
inductive Session.Check (ρ : Type) where
  /-- It waits for the result. -/
  | asking (text : List Char)
  /-- Its text was the latest when the result came, and it goes on to publish. -/
  | passed (outcome : Outcome ρ)
  deriving DecidableEq, Repr

def Session.Check.text {ρ : Type} : Check ρ → List Char
  | asking text => text
  | passed outcome => outcome.text

structure Session (ρ : Type) where
  /-- The text that was recorded last. -/
  latest : List Char
  published : Outcome ρ
  debouncer : Debouncer (List Char)
  /-- The checks that have not ended, in the order of their starts. -/
  running : List (Session.Check ρ)
  deriving DecidableEq, Repr

namespace Session

variable {ρ : Type}

/-- A session in which the empty text has the result `clean`. -/
def start (delay : Millis) (clean : ρ) : Session ρ :=
  ⟨[], ⟨[], clean⟩, Debouncer.ofDelay delay, []⟩

/-- Records an edit and waits for the next one. -/
def textChanged (s : Session ρ) (now : Millis) (text : List Char) : Session ρ :=
  { s with latest := text, debouncer := s.debouncer.schedule now text }

/-- Records a text and starts a check of it. -/
def checkNow (s : Session ρ) (text : List Char) : Session ρ :=
  { s with
    latest := text
    debouncer := s.debouncer.cancel.2
    running := s.running ++ [.asking text] }

def cancel (s : Session ρ) : Bool × Session ρ :=
  let (waited, debouncer) := s.debouncer.cancel
  (waited, { s with debouncer })

/-- Lets time pass up to `now`: the check that is due by then is started. -/
def advance (s : Session ρ) (now : Millis) : Session ρ :=
  let (due, debouncer) := s.debouncer.advance now
  { s with debouncer, running := s.running ++ due.toList.map (.asking ·.task) }

/-- Hands the result to the running check of that index, which goes on if its text is still the
latest and ends if not, and says whether it goes on. -/
def answer (s : Session ρ) (index : Nat) (result : ρ) : Bool × Session ρ :=
  match s.running[index]? with
  | some (.asking text) =>
    if s.latest = text then
      (true, { s with running := s.running.set index (.passed ⟨text, result⟩) })
    else (false, { s with running := s.running.eraseIdx index })
  | some (.passed _) | none => (false, s)

/-- Ends the running check of that index, if it has passed, and publishes its outcome. -/
def publish (s : Session ρ) (index : Nat) : Session ρ :=
  match s.running[index]? with
  | some (.passed outcome) =>
    { s with running := s.running.eraseIdx index, published := outcome }
  | some (.asking _) | none => s

/-- Hands the result to the running check of that index and lets it publish at once. -/
def finish (s : Session ρ) (index : Nat) (result : ρ) : Bool × Session ρ :=
  let (passed, s) := s.answer index result
  (passed, if passed then s.publish index else s)

/-- Ends all running checks in the order of their starts, where `run` checks a text, and says which
results were published. -/
def settle {σ : Type} (run : σ → List Char → σ × ρ) (s : Session ρ) (service : σ) :
    List Bool × Session ρ × σ :=
  s.running.foldl (fun (done, s, service) check =>
    match check with
    | .asking text =>
      let (service, result) := run service text
      let (published, s) := s.finish 0 result
      (done ++ [published], s, service)
    | .passed _ => (done ++ [true], s.publish 0, service)) ([], s, service)

end Session
end ProseCheck
