import Mathlib.Data.List.Forall2
import Mathlib.Data.List.InsertIdx
import Mathlib.Tactic.Common
import ProseCheck.Proofs.Backend
import ProseCheck.Proofs.Checker.Pool
import ProseCheck.Proofs.Text.Paragraph
import ProseCheck.Service.Basic

/-! # Where the findings of a check lie

Whatever the providers answer, a backend only finds something in the text that it was given. This is
a paragraph, and its findings are moved to where it starts. So no finding of a check leaves the
paragraph that it was found in, and no place is too far on to be an offset.
-/

namespace ProseCheck

variable {σ : Type} {separator text : List Char} {key : CacheKey} {caches : Caches}
  {f : Finding} {fs : List Finding} {config : CheckerConfig}
  {c : Checker Backend} {rs : List (CheckRequest Backend)}

/-! ### Replies -/

/-- What backends find comes from an answer over some link. When they reply, and whether they do, is
left open. -/
def Ask.Adapts (ask : Ask Backend σ) : Prop :=
  ∀ world start o after fs world', ask world start o = (.replies after (.ok fs), world') →
    ∃ (τ : Type) (link : Net.Link τ) (state : τ),
      (o.backend.check link state o.options o.text).1 = .ok fs

theorem adapts_askOver (link : Net.Link σ) : (Service.askOver link).Adapts := by
  intro world start o after fs world' h
  refine ⟨σ, link, world, ?_⟩
  simp only [Service.askOver, Prod.mk.injEq, Conduct.replies.injEq] at h
  exact h.1.2

/-- All that is known of findings is that they lie in the text that was sent. -/
def bounding : Terms Backend where
  Sends _ := True
  Gives key a := ∀ f ∈ a.getD [], f.In key.text
  Dies := True
  gives_none _ _ _ hf := by cases hf
  Lasts := False

theorem Ask.Adapts.bind {ask : Ask Backend σ} (h : ask.Adapts) (pace : Pace) :
    bounding.Bind pace ask where
  gives world start o _ f hf := by
    cases hasked : ask world start o with
    | mk conduct world' =>
      simp only [Ask.ending, hasked] at hf
      cases conduct with
      | crashes after =>
        simp only [Conduct.ending] at hf
        split at hf <;> cases hf
      | replies after reply =>
        simp only [Conduct.ending] at hf
        split at hf
        next =>
          cases reply with
          | error failure => cases hf
          | ok fs =>
            obtain ⟨τ, link, state, hcheck⟩ := h world start o after fs world' hasked
            obtain ⟨answer, -, hmem⟩ := Backend.exists_hears_of_mem hcheck hf
            exact Answer.in_of_mem_findings hmem
        next => cases hf
  dies _ _ _ _ := trivial

/-! ### Findings -/

/-- The findings are in order, and each of them lies in a paragraph that had to be checked. -/
structure Bounded (separator text : List Char) (fs : List Finding) : Prop where
  sorted : fs.Pairwise fun f g => f.precedes g = true
  inside : ∀ f ∈ fs, ∃ p ∈ Text.proseParagraphs separator text, f.Inside p

/-- Everything that is added up on the way to the findings is an offset: the places of the
paragraphs, the code units and the places of the sentences in them, and the places of the
findings. -/
structure Summed (separator text : List Char) (fs : List Finding) : Prop where
  paragraphs : Text.paragraphsChecked? separator text = some (Text.paragraphs separator text)
  units : ∀ p ∈ Text.proseParagraphs separator text, ∀ s : Text.Segment, s.In p.text →
    Text.length16 s.text ≤ maxOffset
  sentences : ∀ p ∈ Text.proseParagraphs separator text, ∀ s ∈ Text.sentences p.text,
    ∀ k ≤ s.length, addOffset? s.start k = some (s.start + k)
  shifts : ∀ f ∈ fs, ∃ p ∈ Text.proseParagraphs separator text, ∃ g : Finding,
    f = g.shift p.start ∧ addOffset? g.offset p.start = some f.offset

def Progress.found : Progress → List Finding
  | finished fs => fs
  | waiting t => t.found

theorem Covers.exists_shift {parts : List Part} {rest : List Text.Segment}
    (h : Covers (bounding.Knows caches) separator key parts rest)
    (hf : f ∈ parts.flatMap (·.findings)) :
    ∃ p ∈ Text.proseParagraphs separator key.text, ∃ g : Finding, g.In p.text ∧
      f = g.shift p.start := by
  obtain ⟨part, hpart, hf⟩ := List.mem_flatMap.mp hf
  obtain ⟨g, hg, rfl⟩ := List.mem_map.mp hf
  have hprose := h.perm.subset (List.mem_append_left _ (List.mem_map_of_mem (f := (·.1)) hpart))
  exact ⟨part.1, hprose, g, (h.gives part hpart).1 g hg, rfl⟩

theorem Found.bounded (h : Found (bounding.Knows caches) separator key fs) :
    Bounded separator key.text fs := by
  obtain ⟨parts, hcovers, rfl⟩ := h
  constructor
  · exact List.pairwise_mergeSort Finding.precedes_trans Finding.precedes_total _
  · intro f hf
    obtain ⟨p, hp, g, hg, rfl⟩ := hcovers.exists_shift (List.mem_mergeSort.mp hf)
    exact ⟨p, hp, hg.inside_shift⟩

theorem Progress.Holds.exists_shift {orders : List (Order Backend)} {progress : Progress}
    (h : progress.Holds bounding separator caches orders key) (hf : f ∈ progress.found) :
    ∃ p ∈ Text.proseParagraphs separator key.text, ∃ g : Finding, g.In p.text ∧
      f = g.shift p.start := by
  cases progress with
  | finished fs =>
    obtain ⟨parts, hcovers, rfl⟩ := h
    exact hcovers.exists_shift (List.mem_mergeSort.mp hf)
  | waiting t =>
    obtain ⟨⟨rfl, ⟨parts, hcovers, hfound, -⟩, -⟩, -⟩ := h
    rw [Progress.found, hfound] at hf
    exact hcovers.exists_shift hf

/-! ### Sums -/

theorem summed (hseparator : Text.Storable separator) (htext : Text.Storable text)
    (hfs : ∀ f ∈ fs, ∃ p ∈ Text.proseParagraphs separator text, ∃ g : Finding, g.In p.text ∧
      f = g.shift p.start) : Summed separator text fs := by
  have hlength : 2 * text.length ≤ maxOffset := by
    have := (Text.length_le_length8 text).trans htext
    have := Text.maxBytes_add_maxBytes_le
    omega
  have hparagraph (p : Text.Segment) (hp : p ∈ Text.proseParagraphs separator text) :
      p.start + p.length ≤ text.length :=
    (Text.in_of_mem_paragraphs (List.mem_filter.mp hp).1).finish_le
  constructor
  case paragraphs => exact Text.paragraphsChecked?_eq htext hseparator
  case units =>
    intro p hp s hs
    have := Text.length16_le s.text
    have := hs.finish_le
    have := hparagraph p hp
    simp only [Text.Segment.length] at *
    omega
  case sentences =>
    intro p hp s hs k hk
    have := (Text.in_of_mem_sentences hs).finish_le
    have := hparagraph p hp
    simp only [Text.Segment.length] at *
    exact addOffset?_of_le (by omega)
  case shifts =>
    intro f hf
    obtain ⟨p, hp, g, ⟨hpos, hle⟩, rfl⟩ := hfs f hf
    have := hparagraph p hp
    simp only [Text.Segment.length] at *
    exact ⟨p, hp, g, rfl, addOffset?_of_le (by omega)⟩

/-! ### Checks -/

namespace Checker

theorem begin_eq_some_iff {β : Type} {c : Checker β} {r : CheckRequest β} {cut : Cut} :
    (c.begin r).1 = some cut ↔ c.tellsCuts = true ∧ Text.allBlank r.text = false ∧
      c.config.maxChars < r.text.length ∧ cut = ⟨r.text.length, c.config.maxChars⟩ := by
  unfold Checker.begin
  split
  next hblank => simp [hblank]
  next hblank =>
    simp only [Text.truncate]
    cases c.tellsCuts <;> by_cases hlong : c.config.maxChars < r.text.length <;>
      simp [hblank, hlong, eq_comm]

/-- The checkers that there can be, with the requests whose checks somebody waits for. Backends may
find what they like within the text that they are given, take as long as they like, fail and crash.
Nobody has to wait for the end of a check, and results may get lost at any time. -/
inductive Reaches (config : CheckerConfig) : Checker Backend → List (CheckRequest Backend) → Prop
  | start (tellsCuts : Bool) : Reaches config (start config tellsCuts) []
  | begin {c : Checker Backend} {rs : List (CheckRequest Backend)} (r : CheckRequest Backend) :
      Reaches config c rs → Reaches config (c.begin r).2 (rs ++ [r])
  | step {σ : Type} {ask : Ask Backend σ} {c : Checker Backend}
      {rs : List (CheckRequest Backend)} (due : Millis) (world : σ) : ask.Adapts →
      Reaches config c rs → Reaches config (c.step ask due world).1 rs
  | wait {c : Checker Backend} {rs : List (CheckRequest Backend)} (clock : Millis) :
      Reaches config c rs → Reaches config { c with clock } rs
  | leave {c : Checker Backend} {rs : List (CheckRequest Backend)} (i : Nat) :
      Reaches config c rs →
      Reaches config { c with running := c.running.eraseIdx i } (rs.eraseIdx i)
  | forget {c : Checker Backend} {rs : List (CheckRequest Backend)} {caches : Caches} :
      Reaches config c rs → c.caches.Forgets caches → Reaches config { c with caches } rs
  | tell {c : Checker Backend} {rs : List (CheckRequest Backend)} (on : Bool) :
      Reaches config c rs → Reaches config { c with tellsCuts := on } rs

theorem sendable_bounding (r : CheckRequest Backend) (known : Cache) :
    r.Sendable bounding separator known :=
  fun _ _ _ _ => trivial

theorem Reaches.inv (h : Reaches config c rs) : c.config = config ∧
    c.Inv bounding (rs.map fun r => (r.kept config).key) := by
  induction h with
  | start tellsCuts => exact ⟨rfl, inv_start config tellsCuts⟩
  | begin r _ ih =>
    obtain ⟨rfl, hinv⟩ := ih
    have hbegins := hinv.begin (sendable_bounding (r.kept _) _)
    rw [List.map_append]
    exact ⟨hbegins.grows.config, hbegins.inv⟩
  | step due world hask _ ih =>
    obtain ⟨rfl, hinv⟩ := ih
    obtain ⟨hnext, hgrows⟩ := hinv.step (hask.bind _) due world
    exact ⟨hgrows.config, hnext⟩
  | wait clock _ ih => exact ⟨ih.1, ih.2.caches, ih.2.worker, ih.2.running⟩
  | leave i _ ih =>
    obtain ⟨hconfig, hinv⟩ := ih
    rw [← List.eraseIdx_map]
    exact ⟨hconfig, hinv.leave i⟩
  | forget _ hforgets ih =>
    exact ⟨ih.1, ih.2.forget id hforgets.paragraphs hforgets.texts⟩
  | tell on _ ih => exact ⟨ih.1, ih.2.tellsCuts on⟩

/-! ### Checks from beginning to end -/

theorem Reaches.proceed {ask : Ask Backend σ} (h : Reaches config c rs) (hask : ask.Adapts)
    (goesOn : Checker Backend → Millis → Bool) (world : σ) :
    Reaches config (c.proceed ask goesOn world).1 rs := by
  fun_induction Checker.proceed ask goesOn c world with
  | case2 c world due hdue hgoes next ih => exact ih (h.step due world hask)
  | _ => exact h

theorem Reaches.leaveAll (h : Reaches config c rs) :
    Reaches config { c with running := [] } [] := by
  have hlength := h.inv.2.running.length_eq
  generalize hrunning : c.running = running at hlength
  induction running generalizing c rs with
  | nil =>
    obtain rfl : rs = [] := by simpa using hlength
    exact hrunning ▸ h
  | cons p running ih =>
    have hleft := h.leave 0
    rw [hrunning] at hleft
    have hall := ih hleft rfl hleft.inv.2.running.length_eq
    exact hall

theorem Reaches.check {ask : Ask Backend σ} (h : Reaches config c []) (hask : ask.Adapts)
    (r : CheckRequest Backend) (world : σ) :
    Reaches config (c.check ask r world).2.2.1 [] := by
  have hbegun := h.begin r
  have hran := hbegun.proceed hask (fun c _ => !c.allFinished) world
  exact hran.leaveAll.proceed hask (fun c due => due ≤ c.clock) _

/-- Every check that ends has its findings in order, each of them in one paragraph that is not blank
of the text as far as it is checked, whatever was kept, answered or forgotten and whatever other
checks did. No place that is added up is too far on for an offset. A text that is too long is told
of once, when its check begins, whether or not its result is known. -/
theorem findings_bounded (h : Reaches config c rs) :
    List.Forall₂ (fun r p => ∀ fs, p = .finished fs →
      Bounded config.separator (r.text.take config.maxChars) fs) rs c.running ∧
    (Text.Storable config.separator → List.Forall₂ (fun r p => Text.Storable r.text →
      Summed config.separator (r.text.take config.maxChars) p.found) rs c.running) ∧
    (∀ r cut, (c.begin r).1 = some cut ↔ c.tellsCuts = true ∧ Text.allBlank r.text = false ∧
      config.maxChars < r.text.length ∧ cut = ⟨r.text.length, config.maxChars⟩) ∧
    (rs = [] → ∀ {σ : Type} (ask : Ask Backend σ), ask.Adapts → ∀ r world,
      Bounded config.separator (r.text.take config.maxChars) (c.check ask r world).1 ∧
      (c.check ask r world).2.1 = (c.begin r).1 ∧
      Reaches config (c.check ask r world).2.2.1 []) := by
  obtain ⟨rfl, hinv⟩ := h.inv
  have hrunning := hinv.running
  rw [List.forall₂_map_left_iff] at hrunning
  refine ⟨hrunning.imp ?_, fun hseparator => hrunning.imp ?_, fun r cut => begin_eq_some_iff, ?_⟩
  · rintro r p hp fs rfl
    exact Found.bounded hp
  · intro r p hp htext
    exact summed hseparator ((Text.length8_take_le r.text _).trans htext)
      fun f hf => hp.exists_shift hf
  · rintro rfl σ ask hask r world
    have hfound := (hinv.check (sendable_bounding (r.kept c.config) _) (hask.bind _) world).1
    refine ⟨hfound.bounded, ?_, h.check hask r world⟩
    change ([] ++ (c.begin r).1.toList).head? = (c.begin r).1
    cases (c.begin r).1 <;> rfl

/-- A match in the second paragraph, when the end of that is cut off. -/
theorem findings_bounded_cut :
    let config : CheckerConfig := { maxChars := 6 }
    let text := " \n\nteh end".toList
    let body := "\x7b\"matches\":[\x7b\"message\":\"typo\",\"offset\":0,\"length\":3\x7d]\x7d"
    let ask := Service.askOver (answering (fun _ => some (responseOf body)) fun _ _ => ())
    ∃ backend : Backend,
      let run := (start config true).check ask ⟨backend, .languageTool, {}, text⟩ ()
      run.1.map (·.span) = [⟨3, 6⟩] ∧ run.2.1 = some ⟨10, 6⟩ ∧
        Bounded config.separator " \n\nteh".toList run.1 := by
  intro config text body ask
  have key : (LanguageTool.Adapter.ofPreferences {}).toOption.map (fun adapter =>
      let run := (start config true).check ask ⟨.languageTool adapter, .languageTool, {}, text⟩ ()
      (run.1.map (·.span), run.2.1)) = some ([⟨3, 6⟩], some ⟨10, 6⟩) := by decide +kernel
  cases hadapter : LanguageTool.Adapter.ofPreferences {} with
  | error => simp [hadapter, Except.toOption] at key
  | ok adapter =>
    simp only [hadapter, Except.toOption, Option.map_some, Option.some.injEq,
      Prod.mk.injEq] at key
    obtain ⟨-, -, -, hcheck⟩ := findings_bounded (Reaches.start true : Reaches config _ [])
    obtain ⟨hbounded, -, -⟩ := hcheck rfl ask (adapts_askOver _)
      ⟨.languageTool adapter, .languageTool, {}, text⟩ ()
    exact ⟨.languageTool adapter, key.1, key.2, hbounded⟩

end Checker
end ProseCheck
