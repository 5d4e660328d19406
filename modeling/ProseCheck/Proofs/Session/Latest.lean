import ProseCheck.Proofs.Session.Publication

/-! # The latest text is not forgotten

Somebody may cancel the check of the latest text, and an outcome that is published late may take the
place of its outcome. In all other cases the check of the latest text waits or runs, or its outcome
is shown.
-/

namespace ProseCheck.Diary

variable {ρ : Type} {finds : Nat → List Char → ρ} {clean : ρ} {d : Diary ρ}

structure Attended (d : Diary ρ) : Prop where
  waiting : ∀ timer, d.session.debouncer.waiting = some timer → timer.task = d.session.latest
  attended : d.cancelled = false → (∀ p ∈ d.publications.getLast?, p.Prompt) →
    (∃ timer, d.session.debouncer.waiting = some timer) ∨
      (∃ check ∈ d.session.running, check.text = d.session.latest) ∨
      d.session.published.text = d.session.latest

theorem attended_begin (delay : Millis) (clean : ρ) : (begin delay clean).Attended where
  waiting := by simp [begin, Session.start, Debouncer.ofDelay]
  attended := fun _ _ => Or.inr (Or.inr rfl)

theorem Attended.edit (now : Millis) (text : List Char) :
    (d.after finds (.edit now text)).Attended := by
  constructor
  · rintro timer ⟨⟩
    rfl
  · exact fun _ _ => Or.inl ⟨_, rfl⟩

theorem Attended.call (text : List Char) : (d.after finds (.call text)).Attended := by
  constructor
  · rintro timer ⟨⟩
  · exact fun _ _ => Or.inr (Or.inl ⟨_, List.mem_append_right _ List.mem_cons_self, rfl⟩)

/-- Nothing has waited if the cancelling says so. -/
theorem Attended.cancel (h : d.Attended) : (d.after finds .cancel).Attended := by
  constructor
  · rintro timer ⟨⟩
  · intro hcancelled hprompt
    have hsame : (d.after finds .cancel).publications = d.publications := publications_see rfl
    rw [hsame] at hprompt
    simp only [Diary.after, Diary.see, Session.cancel, Debouncer.cancel, Debouncer.isPending,
      Bool.or_eq_false_iff, Option.isSome_eq_false_iff, Option.isNone_iff_eq_none] at hcancelled
    rcases h.attended hcancelled.1 hprompt with ⟨timer, hwaiting⟩ | h
    · rw [hcancelled.2] at hwaiting
      cases hwaiting
    · exact Or.inr h

theorem Attended.expire (h : d.Attended) (now : Millis) :
    (d.after finds (.expire now)).Attended := by
  rcases d.session.advance_cases now with heq | ⟨timer, hwaiting, -, heq⟩
  · constructor
    · simpa [Diary.after, Diary.see, heq] using h.waiting
    · simpa [Diary.after, Diary.see, heq] using h.attended
  · have htask := h.waiting timer hwaiting
    constructor
    · simp [Diary.after, Diary.see, heq]
    · refine fun _ _ => Or.inr (Or.inl ⟨.asking timer.task, ?_, ?_⟩)
      · simp [Diary.after, Diary.see, heq]
      · simpa [Diary.after, Diary.see, heq, Session.Check.text] using htask

theorem Attended.answer (h : d.Attended) (hsound : Sound finds clean d) (index : Nat) :
    (d.after finds (.answer index)).Attended := by
  by_cases hasking : ∃ text, d.session.running[index]? = some (.asking text)
  case neg => rwa [after_answer_of_ne_asking fun text hrunning => hasking ⟨text, hrunning⟩]
  obtain ⟨text, hrunning⟩ := hasking
  obtain ⟨number, hnumber⟩ := hsound.exists_number hrunning
  by_cases hlatest : text = d.session.latest
  case pos =>
    subst hlatest
    obtain ⟨hindex, -⟩ := List.getElem?_eq_some_iff.mp hrunning
    rw [after_answer_of_latest hnumber hrunning]
    exact ⟨h.waiting, fun _ _ => Or.inr (Or.inl ⟨_, List.mem_set hindex _, rfl⟩)⟩
  case neg =>
    rw [after_answer_of_ne hnumber hrunning hlatest]
    refine ⟨h.waiting, fun hcancelled hprompt => ?_⟩
    refine (h.attended hcancelled hprompt).imp_right (Or.imp_left ?_)
    rintro ⟨check, hmem, htext⟩
    obtain ⟨i, hi⟩ := List.mem_iff_getElem?.mp hmem
    refine ⟨check, List.mem_eraseIdx_iff_getElem?.mpr ⟨i, ?_, hi⟩, htext⟩
    rintro rfl
    obtain rfl := Option.some.inj (hrunning.symm.trans hi)
    exact hlatest htext

theorem Attended.publish (h : d.Attended) (hsound : Sound finds clean d) (index : Nat) :
    (d.after finds (.publish index)).Attended := by
  by_cases hpassed : ∃ outcome, d.session.running[index]? = some (.passed outcome)
  case neg => rwa [after_publish_of_ne_passed fun outcome hrunning => hpassed ⟨outcome, hrunning⟩]
  obtain ⟨outcome, hrunning⟩ := hpassed
  have hkept := (hsound.publish index).kept
  rw [hsound.after_publish hrunning] at hkept ⊢
  refine ⟨h.waiting, fun _ hprompt => Or.inr (Or.inr ?_)⟩
  exact (hkept _ (List.mem_append_right _ List.mem_cons_self)).text_eq
    (hprompt _ List.getLast?_concat)

theorem attended_run (finds : Nat → List Char → ρ) (delay : Millis) (clean : ρ)
    (events : List Session.Event) : (run finds delay clean events).Attended := by
  refine (run_induction (P := fun d => Sound finds clean d ∧ d.Attended)
    ⟨sound_begin delay clean, attended_begin delay clean⟩
    (fun d event h => ⟨h.1.after event, ?_⟩) events).2
  cases event with
  | edit now text => exact .edit now text
  | call text => exact .call text
  | cancel => exact h.2.cancel
  | expire now => exact h.2.expire now
  | answer index => exact h.2.answer h.1 index
  | publish index => exact h.2.publish h.1 index

/-- As long as no check that waited has been cancelled since the last edit or call, and what is
shown was not published late, the latest text waits for its check, or is being checked, or is the
one whose outcome is shown. Once nothing waits and nothing runs, it is the latter. -/
theorem latest_not_lost (finds : Nat → List Char → ρ) (delay : Millis) (clean : ρ)
    (events : List Session.Event) (h : (run finds delay clean events).cancelled = false)
    (hprompt : ∀ p ∈ (run finds delay clean events).publications.getLast?, p.Prompt) :
    let s := (run finds delay clean events).session
    ((∃ timer, s.debouncer.waiting = some timer ∧ timer.task = s.latest) ∨
      (∃ check ∈ s.running, check.text = s.latest) ∨ s.published.text = s.latest) ∧
    (s.debouncer.isPending = false → s.running = [] → s.published.text = s.latest) := by
  intro s
  have hattended := attended_run finds delay clean events
  constructor
  · refine (hattended.attended h hprompt).imp_left ?_
    rintro ⟨timer, hwaiting⟩
    exact ⟨timer, hwaiting, hattended.waiting timer hwaiting⟩
  · intro hpending hrunning
    rcases hattended.attended h hprompt with ⟨timer, hwaiting⟩ | ⟨check, hmem, -⟩ | hpublished
    · have hnone : s.debouncer.waiting = none := by simpa [Debouncer.isPending] using hpending
      rw [hnone] at hwaiting
      cases hwaiting
    · have hmem : check ∈ s.running := hmem
      rw [hrunning] at hmem
      cases hmem
    · exact hpublished

/-- The check of the first text ends when the second one is the latest already. -/
theorem latest_not_lost_superseded :
    let d := run (fun number text => number + text.length) 3000 0
      [.edit 0 ['a'], .expire 3000, .edit 3500 ['a', 'b'], .cancel, .edit 4000 ['c'], .answer 0,
        .expire 7000, .answer 0, .publish 0]
    d.cancelled = false ∧ (∀ p ∈ d.publications.getLast?, p.Prompt) ∧
      d.session.published = ⟨['c'], 2, 3, 3⟩ ∧
      (d.session.debouncer.isPending = false → d.session.running = [] →
        d.session.published.text = d.session.latest) :=
  ⟨by decide, by decide, by decide, (latest_not_lost _ _ _ _ (by decide) (by decide)).2⟩

/-- The second text is checked and published between the comparison and the publication of the
first one. -/
theorem exists_lost_text : ∃ events : List Session.Event,
    let d := run (fun _ text => text.length) 3000 0 events
    d.cancelled = false ∧ d.session.debouncer.isPending = false ∧ d.session.running = [] ∧
      d.session.published.text ≠ d.session.latest :=
  ⟨[.edit 0 ['a'], .expire 3000, .answer 0, .call ['b'], .answer 1, .publish 1, .publish 0],
    by decide⟩

end ProseCheck.Diary
