import Mathlib.Data.List.Nodup
import ProseCheck.Proofs.Session.Diary

/-! # Outcomes are for the latest text

However edits, calls and the ends of checks follow each other, a check goes on to publish only if
its text is the latest when its result comes. A text that is recorded before it has published makes
the outcome stale, and a stale outcome may stay. Where no text is recorded in between, as on one
thread, what is published is for the latest text, and the latest text is not forgotten unless
somebody cancels its check.
-/

namespace ProseCheck

variable {ρ : Type} {finds : Nat → List Char → ρ} {clean : ρ} {delay : Millis}
  {recorded recorded' : List (List Char)} {edition : Nat} {text : List Char}

theorem recorded_mono (hmore : recorded <+: recorded') (h : recorded[edition]? = some text) :
    recorded'[edition]? = some text := by
  obtain ⟨more, rfl⟩ := hmore
  obtain ⟨hlt, -⟩ := List.getElem?_eq_some_iff.mp h
  rw [List.getElem?_append_left hlt, h]

/-- The outcome is what the check of its number found in its text, and this was the latest text
when the result came. -/
structure Outcome.Found (finds : Nat → List Char → ρ) (recorded : List (List Char))
    (o : Outcome (Numbered ρ)) : Prop where
  text : recorded[o.result.edition]? = some o.text
  result : o.result.result = finds o.result.number o.text

theorem Outcome.Found.mono {o : Outcome (Numbered ρ)} (h : o.Found finds recorded)
    (hmore : recorded <+: recorded') : o.Found finds recorded' where
  text := recorded_mono hmore h.text
  result := h.result

namespace Publication

variable {p : Publication ρ}

/-- No text was recorded between the comparison with the latest text and the publication. -/
def Prompt (p : Publication ρ) : Prop := p.outcome.result.edition = p.edition

instance (p : Publication ρ) : Decidable p.Prompt := inferInstanceAs (Decidable (_ = _))

/-- What holds of each publication, given all texts that have been recorded. -/
structure Kept (finds : Nat → List Char → ρ) (recorded : List (List Char)) (p : Publication ρ) :
    Prop where
  found : p.outcome.Found finds recorded
  latest : recorded[p.edition]? = some p.latest
  le : p.outcome.result.edition ≤ p.edition

theorem Kept.mono (h : p.Kept finds recorded) (hmore : recorded <+: recorded') :
    p.Kept finds recorded' where
  found := h.found.mono hmore
  latest := recorded_mono hmore h.latest
  le := h.le

theorem Kept.text_eq (h : p.Kept finds recorded) (hprompt : p.Prompt) :
    p.outcome.text = p.latest := by
  have htext := h.found.text
  rw [hprompt, h.latest, Option.some.injEq] at htext
  exact htext.symm

end Publication

namespace Diary

variable {d : Diary ρ} {s : Session (Numbered ρ)} {earlier : List (List Char)} {cancelled : Bool}
  {index number : Nat} {outcome : Outcome (Numbered ρ)}

/-- The number has been given out, and its check is over. -/
def Spent (d : Diary ρ) (number : Nat) : Prop := number < d.next ∧ number ∉ d.numbers

/-- The running checks bear the numbers, and those that have passed bear what they found. -/
def Carries (finds : Nat → List Char → ρ) (recorded : List (List Char))
    (running : List (Session.Check (Numbered ρ))) (numbers : List Nat) : Prop :=
  ∀ (i : Nat) (outcome : Outcome (Numbered ρ)), running[i]? = some (.passed outcome) →
    numbers[i]? = some outcome.result.number ∧ outcome.Found finds recorded

/-- What holds of every diary. -/
structure Sound (finds : Nat → List Char → ρ) (clean : ρ) (d : Diary ρ) : Prop where
  length : d.numbers.length = d.session.running.length
  nodup : d.numbers.Nodup
  lt : ∀ number ∈ d.numbers, number < d.next
  carries : Carries finds d.texts d.session.running d.numbers
  spent : d.Spent d.session.published.result.number
  shown : d.session.published = (d.publications.map (·.outcome)).getLastD ⟨[], 0, 0, clean⟩
  kept : ∀ p ∈ d.publications, p.Kept finds d.texts
  published : ∀ p ∈ d.publications, d.Spent p.outcome.result.number
  returned : ∀ r ∈ d.returns, d.Spent r.1
  told : ∀ r ∈ d.returns, r.2 = true ↔ ∃ p ∈ d.publications, p.outcome.result.number = r.1

theorem texts_edition (d : Diary ρ) : d.texts[d.edition]? = some d.session.latest :=
  List.getElem?_concat_length

theorem sound_begin (delay : Millis) (clean : ρ) : Sound finds clean (begin delay clean) where
  length := rfl
  nodup := List.nodup_nil
  lt := by simp [begin]
  carries := by simp [Carries, begin, Session.start]
  spent := by simp [Spent, begin, Session.start]
  shown := rfl
  kept := by simp [begin]
  published := by simp [begin]
  returned := by simp [begin]
  told := by simp [begin]

/-! ### Running checks -/

namespace Carries

variable {running : List (Session.Check (Numbered ρ))} {numbers : List Nat}

theorem append (h : Carries finds recorded running numbers)
    (hmore : recorded <+: recorded') (hlength : numbers.length = running.length)
    (started : List (List Char)) (more : List Nat) :
    Carries finds recorded' (running ++ started.map .asking) (numbers ++ more) := by
  intro i outcome hi
  rcases Nat.lt_or_ge i running.length with hlt | hge
  · rw [List.getElem?_append_left hlt] at hi
    obtain ⟨hnumber, hfound⟩ := h i outcome hi
    exact ⟨by rw [List.getElem?_append_left (hlength ▸ hlt), hnumber], hfound.mono hmore⟩
  · rw [List.getElem?_append_right hge, List.getElem?_map] at hi
    obtain ⟨_, -, hpassed⟩ := Option.map_eq_some_iff.mp hi
    cases hpassed

theorem set (h : Carries finds recorded running numbers) (hindex : index < running.length)
    (hnumber : numbers[index]? = some outcome.result.number)
    (hfound : outcome.Found finds recorded) :
    Carries finds recorded (running.set index (.passed outcome)) numbers := by
  intro i outcome' hi
  rcases eq_or_ne index i with rfl | hne
  · rw [List.getElem?_set_self hindex] at hi
    cases hi
    exact ⟨hnumber, hfound⟩
  · rw [List.getElem?_set_ne hne] at hi
    exact h i outcome' hi

theorem eraseIdx (h : Carries finds recorded running numbers) (index : Nat) :
    Carries finds recorded (running.eraseIdx index) (numbers.eraseIdx index) := by
  intro i outcome hi
  rw [List.getElem?_eraseIdx] at hi ⊢
  by_cases hlt : i < index
  · rw [if_pos hlt] at hi ⊢
    exact h i outcome hi
  · rw [if_neg hlt] at hi ⊢
    exact h (i + 1) outcome hi

end Carries

/-! ### Steps -/

/-- An operation that publishes nothing and ends no check leaves a sound diary. -/
theorem Sound.see (h : Sound finds clean d) (started : List (List Char))
    (hrunning : s.running = d.session.running ++ started.map .asking)
    (hpublished : s.published = d.session.published)
    (htexts : d.texts <+: earlier ++ [s.latest]) :
    Sound finds clean (d.see s earlier cancelled) := by
  have hnumbers : (d.see s earlier cancelled).numbers =
      d.numbers ++ List.range' d.next started.length := by
    simp [Diary.see, hrunning]
  have hnext : (d.see s earlier cancelled).next = d.next + started.length := by
    simp [Diary.see, hrunning]
  have hpublications : (d.see s earlier cancelled).publications = d.publications :=
    publications_see hpublished
  have hspent : ∀ number, d.Spent number → (d.see s earlier cancelled).Spent number := by
    rintro number ⟨hlt, hnot⟩
    refine ⟨by omega, fun hmem => ?_⟩
    rw [hnumbers, List.mem_append, List.mem_range'_1] at hmem
    rcases hmem with hmem | hmem
    · exact hnot hmem
    · omega
  constructor
  · rw [hnumbers, List.length_append, List.length_range', h.length]
    simp [Diary.see, hrunning]
  · rw [hnumbers]
    refine h.nodup.append List.nodup_range' fun number hmem hnew => ?_
    have := h.lt number hmem
    rw [List.mem_range'_1] at hnew
    omega
  · intro number hmem
    rw [hnumbers, List.mem_append, List.mem_range'_1] at hmem
    rcases hmem with hmem | hmem
    · have := h.lt number hmem
      omega
    · omega
  · rw [hnumbers]
    exact hrunning ▸ h.carries.append htexts h.length started _
  · exact hspent _ (hpublished ▸ h.spent)
  · rw [hpublications]
    exact hpublished.trans h.shown
  · exact hpublications ▸ fun p hp => (h.kept p hp).mono htexts
  · exact hpublications ▸ fun p hp => hspent _ (h.published p hp)
  · exact fun r hr => hspent _ (h.returned r hr)
  · exact hpublications ▸ h.told

theorem Sound.exists_number (h : Sound finds clean d) {check : Session.Check (Numbered ρ)}
    (hrunning : d.session.running[index]? = some check) :
    ∃ number, d.numbers[index]? = some number := by
  obtain ⟨hlt, -⟩ := List.getElem?_eq_some_iff.mp hrunning
  exact ⟨_, List.getElem?_eq_getElem (h.length ▸ hlt)⟩

/-- The numbers whose checks are over when the check of `number` has ended. -/
theorem Sound.spent_eraseIdx_iff (h : Sound finds clean d)
    (hnumber : d.numbers[index]? = some number) (n : Nat) :
    (n < d.next ∧ n ∉ d.numbers.eraseIdx index) ↔ d.Spent n ∨ n = number := by
  rw [List.mem_eraseIdx_iff_getElem?]
  constructor
  · rintro ⟨hlt, hnot⟩
    by_cases hmem : n ∈ d.numbers
    · obtain ⟨i, hi⟩ := List.mem_iff_getElem?.mp hmem
      have hindex : i = index := by
        by_contra hne
        exact hnot ⟨i, hne, hi⟩
      subst hindex
      exact Or.inr (Option.some.inj (hi.symm.trans hnumber))
    · exact Or.inl ⟨hlt, hmem⟩
  · rintro (⟨hlt, hnot⟩ | rfl)
    · exact ⟨hlt, fun ⟨i, _, hi⟩ => hnot (List.mem_of_getElem? hi)⟩
    · refine ⟨h.lt n (List.mem_of_getElem? hnumber), ?_⟩
      rintro ⟨i, hne, hi⟩
      obtain ⟨hlt, -⟩ := List.getElem?_eq_some_iff.mp hi
      exact hne ((List.getElem?_inj hlt h.nodup).mp (hi.trans hnumber.symm))

theorem Spent.ne (h : d.Spent number) {n : Nat} (hn : d.numbers[index]? = some n) : n ≠ number := by
  rintro rfl
  exact h.2 (List.mem_of_getElem? hn)

theorem Sound.length_eraseIdx (h : Sound finds clean d) (index : Nat) :
    (d.numbers.eraseIdx index).length = (d.session.running.eraseIdx index).length := by
  rw [List.length_eraseIdx, List.length_eraseIdx, h.length]

theorem Sound.answer_of_latest (h : Sound finds clean d) (hnumber : d.numbers[index]? = some number)
    (hrunning : d.session.running[index]? = some (.asking d.session.latest)) :
    Sound finds clean (d.after finds (.answer index)) := by
  obtain ⟨hindex, -⟩ := List.getElem?_eq_some_iff.mp hrunning
  rw [after_answer_of_latest hnumber hrunning]
  exact { h with
    length := h.length.trans List.length_set.symm
    carries := h.carries.set hindex hnumber ⟨d.texts_edition, rfl⟩ }

theorem Sound.answer_of_ne (h : Sound finds clean d) (hnumber : d.numbers[index]? = some number)
    (hrunning : d.session.running[index]? = some (.asking text)) (hne : text ≠ d.session.latest) :
    Sound finds clean (d.after finds (.answer index)) := by
  have hspent := fun n => (h.spent_eraseIdx_iff hnumber n).mpr
  rw [after_answer_of_ne hnumber hrunning hne]
  constructor
  · exact h.length_eraseIdx index
  · exact h.nodup.eraseIdx index
  · exact fun n hn => h.lt n (List.mem_of_mem_eraseIdx hn)
  · exact h.carries.eraseIdx index
  · exact hspent _ (Or.inl h.spent)
  · exact h.shown
  · exact h.kept
  · exact fun p hp => hspent _ (Or.inl (h.published p hp))
  · exact List.forall_mem_append.mpr ⟨fun r hr => hspent _ (Or.inl (h.returned r hr)),
      List.forall_mem_singleton.mpr (hspent number (Or.inr rfl))⟩
  · refine List.forall_mem_append.mpr ⟨h.told, List.forall_mem_singleton.mpr ?_⟩
    refine iff_of_false Bool.false_ne_true ?_
    rintro ⟨p, hp, heq⟩
    exact (h.published p hp).ne hnumber heq.symm

theorem Sound.answer (h : Sound finds clean d) (index : Nat) :
    Sound finds clean (d.after finds (.answer index)) := by
  by_cases hasking : ∃ text, d.session.running[index]? = some (.asking text)
  · obtain ⟨text, hrunning⟩ := hasking
    obtain ⟨number, hnumber⟩ := h.exists_number hrunning
    by_cases hlatest : text = d.session.latest
    · subst hlatest
      exact h.answer_of_latest hnumber hrunning
    · exact h.answer_of_ne hnumber hrunning hlatest
  · rwa [after_answer_of_ne_asking fun text hrunning => hasking ⟨text, hrunning⟩]

theorem Sound.after_publish (h : Sound finds clean d)
    (hrunning : d.session.running[index]? = some (.passed outcome)) :
    d.after finds (.publish index) =
      { d with
        session := { d.session with
          running := d.session.running.eraseIdx index
          published := outcome }
        numbers := d.numbers.eraseIdx index
        publications := d.publications ++ [⟨d.session.latest, d.edition, outcome⟩]
        returns := d.returns ++ [(outcome.result.number, true)] } :=
  have hnumber := (h.carries index outcome hrunning).1
  after_publish_of_passed hnumber hrunning (h.spent.ne hnumber)

theorem Sound.publish_of_passed (h : Sound finds clean d)
    (hrunning : d.session.running[index]? = some (.passed outcome)) :
    Sound finds clean (d.after finds (.publish index)) := by
  obtain ⟨hnumber, hfound⟩ := h.carries index outcome hrunning
  have hspent := fun n => (h.spent_eraseIdx_iff hnumber n).mpr
  have hown := hspent outcome.result.number (Or.inr rfl)
  rw [h.after_publish hrunning]
  constructor
  · exact h.length_eraseIdx index
  · exact h.nodup.eraseIdx index
  · exact fun n hn => h.lt n (List.mem_of_mem_eraseIdx hn)
  · exact h.carries.eraseIdx index
  · exact hown
  · rw [List.map_append, List.map_singleton, List.getLastD_concat]
  · refine List.forall_mem_append.mpr ⟨h.kept, List.forall_mem_singleton.mpr ?_⟩
    obtain ⟨hlt, -⟩ := List.getElem?_eq_some_iff.mp hfound.text
    rw [texts, List.length_append] at hlt
    exact ⟨hfound, d.texts_edition, Nat.le_of_lt_succ hlt⟩
  · exact List.forall_mem_append.mpr ⟨fun p hp => hspent _ (Or.inl (h.published p hp)),
      List.forall_mem_singleton.mpr hown⟩
  · exact List.forall_mem_append.mpr ⟨fun r hr => hspent _ (Or.inl (h.returned r hr)),
      List.forall_mem_singleton.mpr hown⟩
  · intro r hr
    simp only [List.mem_append, List.mem_singleton, or_and_right, exists_or, exists_eq_left] at hr ⊢
    rcases hr with hr | rfl
    · rw [h.told r hr, or_iff_left ((h.returned r hr).ne hnumber)]
    · exact iff_of_true rfl (Or.inr rfl)

theorem Sound.publish (h : Sound finds clean d) (index : Nat) :
    Sound finds clean (d.after finds (.publish index)) := by
  by_cases hpassed : ∃ outcome, d.session.running[index]? = some (.passed outcome)
  · obtain ⟨outcome, hrunning⟩ := hpassed
    exact h.publish_of_passed hrunning
  · rwa [after_publish_of_ne_passed fun outcome hrunning => hpassed ⟨outcome, hrunning⟩]

theorem Sound.after (h : Sound finds clean d) (event : Session.Event) :
    Sound finds clean (d.after finds event) := by
  rcases event.turn_cases with hevent | ⟨index, rfl⟩ | ⟨index, rfl⟩
  · obtain ⟨s, earlier, cancelled, started, heq, hrunning, hpublished, htexts⟩ :=
      exists_see finds d hevent
    rw [heq]
    exact h.see started hrunning hpublished htexts
  · exact h.answer index
  · exact h.publish index

theorem sound_run (events : List Session.Event) :
    Sound finds clean (run finds delay clean events) :=
  run_induction (sound_begin delay clean) (fun _ event h => h.after event) events

/-- Every outcome that is ever published is what a check found in its text, and the text was the
latest when the result came. It still is the latest when the outcome is published if no text was
recorded in between. What is shown is what was published last; a check of any other text only ends,
and a check says that it has published exactly when its own outcome was published. -/
theorem published_of_compared (finds : Nat → List Char → ρ) (delay : Millis) (clean : ρ)
    (events : List Session.Event) :
    let d := run finds delay clean events
    (∀ p ∈ d.publications,
      p.outcome.result.result = finds p.outcome.result.number p.outcome.text ∧
      d.texts[p.outcome.result.edition]? = some p.outcome.text ∧
      d.texts[p.edition]? = some p.latest ∧ p.outcome.result.edition ≤ p.edition ∧
      (p.Prompt → p.outcome.text = p.latest)) ∧
    d.session.published = (d.publications.map (·.outcome)).getLastD ⟨[], 0, 0, clean⟩ ∧
    (∀ index text, d.session.running[index]? = some (.asking text) → text ≠ d.session.latest →
      (d.after finds (.answer index)).session =
        { d.session with running := d.session.running.eraseIdx index } ∧
      (d.after finds (.answer index)).publications = d.publications) ∧
    ∀ number told, (number, told) ∈ d.returns →
      (told = true ↔ ∃ p ∈ d.publications, p.outcome.result.number = number) := by
  intro d
  have h : Sound finds clean d := sound_run events
  refine ⟨fun p hp => ?_, h.shown, fun index text hrunning hne => ?_,
    fun number told hr => h.told (number, told) hr⟩
  · have hkept := h.kept p hp
    exact ⟨hkept.found.result, hkept.found.text, hkept.latest, hkept.le, hkept.text_eq⟩
  · obtain ⟨number, hnumber⟩ := h.exists_number hrunning
    rw [after_answer_of_ne hnumber hrunning hne]
    exact ⟨rfl, rfl⟩

-- The second check is of another text; the first one may still publish, for its text is back.
example :
    let d := run (fun number text => number + text.length) 3000 0
      [.call ['a'], .call ['b'], .call ['a'], .answer 1, .answer 0, .publish 0, .answer 0,
        .publish 0]
    d.publications = [⟨['a'], 3, ⟨['a'], 1, 3, 2⟩⟩, ⟨['a'], 3, ⟨['a'], 3, 3, 4⟩⟩] ∧
      d.returns = [(2, false), (1, true), (3, true)] := by
  decide

/-- An edit comes between the comparison and the publication. -/
theorem exists_stale_publication : ∃ events : List Session.Event,
    ∃ p ∈ (run (fun _ text => text.length) 3000 0 events).publications,
      p.outcome.text ≠ p.latest :=
  ⟨[.edit 0 ['a'], .expire 3000, .answer 0, .edit 3500 ['b'], .publish 0],
    ⟨['b'], 2, ⟨['a'], 1, 1, 1⟩⟩, by decide⟩

/-! ### One thread -/

/-- No check has been handed its result and not published it, and none ever came late. -/
structure Undivided (finds : Nat → List Char → ρ) (clean : ρ) (d : Diary ρ) : Prop where
  sound : Sound finds clean d
  asking : ∀ outcome, .passed outcome ∉ d.session.running
  prompt : ∀ p ∈ d.publications, p.Prompt

theorem undivided_begin (delay : Millis) (clean : ρ) :
    Undivided finds clean (begin delay clean) where
  sound := sound_begin delay clean
  asking := by simp [begin, Session.start]
  prompt := by simp [begin]

theorem Undivided.ne_passed (h : Undivided finds clean d) (index : Nat)
    (outcome : Outcome (Numbered ρ)) : d.session.running[index]? ≠ some (.passed outcome) :=
  fun hrunning => h.asking outcome (List.mem_of_getElem? hrunning)

theorem Undivided.see (h : Undivided finds clean d) {event : Session.Event}
    (hevent : event.turn = [event]) : Undivided finds clean (d.after finds event) := by
  have hsound := h.sound.after event
  obtain ⟨s, earlier, cancelled, started, heq, hrunning, hpublished, -⟩ :=
    exists_see finds d hevent
  rw [heq] at hsound ⊢
  refine ⟨hsound, fun outcome hmem => ?_, ?_⟩
  · rcases List.mem_append.mp (hrunning ▸ hmem) with hmem | hmem
    · exact h.asking outcome hmem
    · obtain ⟨_, -, hpassed⟩ := List.mem_map.mp hmem
      cases hpassed
  · rw [publications_see hpublished]
    exact h.prompt

theorem Undivided.finish (h : Undivided finds clean d) (index : Nat) :
    Undivided finds clean ((d.after finds (.answer index)).after finds (.publish index)) := by
  have hsound := (h.sound.answer index).publish index
  by_cases hasking : ∃ text, d.session.running[index]? = some (.asking text)
  case neg =>
    rwa [after_answer_of_ne_asking fun text hrunning => hasking ⟨text, hrunning⟩,
      after_publish_of_ne_passed (h.ne_passed index)]
  obtain ⟨text, hrunning⟩ := hasking
  obtain ⟨number, hnumber⟩ := h.sound.exists_number hrunning
  by_cases hlatest : text = d.session.latest
  case pos =>
    subst hlatest
    obtain ⟨hindex, -⟩ := List.getElem?_eq_some_iff.mp hrunning
    have hmid := h.sound.answer_of_latest hnumber hrunning
    rw [after_answer_of_latest hnumber hrunning] at hmid hsound ⊢
    rw [hmid.after_publish (List.getElem?_set_self hindex)] at hsound ⊢
    refine ⟨hsound, fun outcome hmem => h.asking outcome ?_, ?_⟩
    · rw [List.eraseIdx_set_eq] at hmem
      exact List.mem_of_mem_eraseIdx hmem
    · exact List.forall_mem_append.mpr ⟨h.prompt, List.forall_mem_singleton.mpr rfl⟩
  case neg =>
    have hnone : ∀ outcome, .passed outcome ∉ d.session.running.eraseIdx index :=
      fun outcome hmem => h.asking outcome (List.mem_of_mem_eraseIdx hmem)
    rw [after_answer_of_ne hnumber hrunning hlatest] at hsound ⊢
    rw [after_publish_of_ne_passed fun outcome h => hnone outcome (List.mem_of_getElem? h)]
      at hsound ⊢
    exact ⟨hsound, hnone, h.prompt⟩

/-- Where each check publishes as soon as it has been handed its result, nothing is published
late. -/
theorem prompt_of_turns (finds : Nat → List Char → ρ) (delay : Millis) (clean : ρ)
    (events : List Session.Event) :
    ∀ p ∈ (run finds delay clean (events.flatMap Session.Event.turn)).publications, p.Prompt := by
  have h : Undivided finds clean (run finds delay clean (events.flatMap Session.Event.turn)) := by
    rw [run, List.foldl_flatMap]
    refine List.foldlRecOn events _ (undivided_begin delay clean) fun d h event _ => ?_
    rcases event.turn_cases with hevent | ⟨index, rfl⟩ | ⟨index, rfl⟩
    · rw [hevent]
      exact h.see hevent
    · exact h.finish index
    · exact h
  exact h.prompt

end Diary
end ProseCheck
