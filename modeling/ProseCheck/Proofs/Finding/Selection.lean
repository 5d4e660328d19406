import ProseCheck.Proofs.Finding.Sort
import ProseCheck.Proofs.Finding.Translation

/-! # Findings that are reported

Of the findings in a stripped document those become problems that cover prose which the user does
not know, and they come in the order of their places. Each check on the way can fail but one: a
finding that lies in the stripped text has a place in the markdown.
-/

namespace ProseCheck

open Markdown

/-! ### Stable sorts -/

section

variable {α : Type} {le : α → α → Bool} {items sorted sorted' : List α}

/-- The items in order, where those that tie stay in the order that they have. -/
structure StablySorts (le : α → α → Bool) (items sorted : List α) : Prop where
  perm : sorted.Perm items
  ordered : sorted.Pairwise (le · ·)
  stable : ∀ a, sorted.filter (ties le a) = items.filter (ties le a)

theorem stablySorts_mergeSort (trans : ∀ a b c, le a b = true → le b c = true → le a c = true)
    (total : ∀ a b, (le a b || le b a) = true) (items : List α) :
    StablySorts le items (items.mergeSort le) where
  perm := List.mergeSort_perm items le
  ordered := List.pairwise_mergeSort trans total items
  stable := filter_ties_mergeSort trans total items

theorem StablySorts.unique (total : ∀ a b, (le a b || le b a) = true)
    (h : StablySorts le items sorted) (h' : StablySorts le items sorted') : sorted = sorted' :=
  eq_of_filter_ties total h.ordered h'.ordered fun a => (h.stable a).trans (h'.stable a).symm

theorem StablySorts.filter (h : StablySorts le items sorted) (p : α → Bool) :
    StablySorts le (items.filter p) (sorted.filter p) where
  perm := h.perm.filter p
  ordered := h.ordered.filter p
  stable a := by
    rw [List.filter_comm, h.stable a, List.filter_comm]

end

namespace Problem

theorem precedes_iff {p q : Problem} : p.precedes q = true ↔ p.markdownOffset < q.markdownOffset ∨
    p.markdownOffset = q.markdownOffset ∧ p.markdownLength ≤ q.markdownLength := by
  simp [precedes]

theorem precedes_trans (p q r : Problem) (hpq : p.precedes q = true) (hqr : q.precedes r = true) :
    p.precedes r = true := by
  rw [precedes_iff] at *
  omega

theorem precedes_total (p q : Problem) : (p.precedes q || q.precedes p) = true := by
  rw [Bool.or_eq_true, precedes_iff, precedes_iff]
  omega

end Problem

/-! ### One finding -/

namespace Finding

variable {d : Stripped} {dictionary : Dictionary} {f g : Finding} {markdown : List Char}

def covered (f : Finding) (d : Stripped) : List Char := (d.text.drop f.offset).take f.length

def suppressed (f : Finding) (d : Stripped) (dictionary : Dictionary) : Bool :=
  dictionary.contains (String.ofList (f.covered d)) (some f.rule.id)

/-- The finding covers prose that the user does not know, and does not start in code. -/
structure Reportable (d : Stripped) (dictionary : Dictionary) (f : Finding) : Prop where
  length_pos : 0 < f.length
  finish_le : f.offset + f.length ≤ d.length
  unknown : f.suppressed d dictionary = false
  prose : placeholder ∉ f.covered d
  outside : ∀ origin ∈ d.positions.origin? f.offset, ∀ r ∈ codeRegions d.markdown,
    r.contains origin = false

instance (d : Stripped) (dictionary : Dictionary) : DecidablePred (Reportable d dictionary) :=
  fun f => decidable_of_iff
    (0 < f.length ∧ f.offset + f.length ≤ d.length ∧ f.suppressed d dictionary = false ∧
      placeholder ∉ f.covered d ∧ ∀ origin ∈ d.positions.origin? f.offset,
        ∀ r ∈ codeRegions d.markdown, r.contains origin = false)
    ⟨fun ⟨hpos, hle, hunknown, hprose, hout⟩ => ⟨hpos, hle, hunknown, hprose, hout⟩,
      fun ⟨hpos, hle, hunknown, hprose, hout⟩ => ⟨hpos, hle, hunknown, hprose, hout⟩⟩

/-- The problem that a finding is, from the position of its first character to that of its last. -/
def reported (d : Stripped) (f : Finding) : Problem :=
  let first := d.positions.toMarkdown f.offset
  let last := d.positions.toMarkdown (f.offset + f.length - 1)
  ⟨f, first, last + 1 - first⟩

theorem covered?_eq (h : f.offset + f.length ≤ d.length) :
    f.covered? d = some (f.covered d) := by
  have hin : f.offset ≤ f.offset + f.length ∧ f.offset + f.length ≤ d.text.length :=
    ⟨Nat.le_add_right _ _, by rwa [Stripped.length_text]⟩
  rw [covered?, Text.slice?, if_pos hin, covered, Span.length, Nat.add_sub_cancel_left]

/-- A finding in the stripped text has a place there and another in the markdown, so only what it
covers and where it starts can keep it from being told. -/
theorem place_of_le (hsize : markdown.length ≤ maxOffset) (hpos : 0 < f.length)
    (hle : f.offset + f.length ≤ (strip markdown).length) (dictionary : Dictionary)
    (code : List Span) :
    ∃ first last, (strip markdown).positions.origin? f.offset = some first ∧
      (strip markdown).positions.origin? (f.offset + f.length - 1) = some last ∧
      first ≤ last ∧ last < markdown.length ∧
      f.place (strip markdown) dictionary code =
        if f.suppressed (strip markdown) dictionary then .error .inDictionary
        else if (f.covered (strip markdown)).contains placeholder then .error .overPlaceholder
        else if code.any (·.contains first) then .error .insideCode
        else .ok ⟨first, last + 1⟩ := by
  have hm := strip_sorted markdown
  have hlength : f.offset + f.length ≤ (strip markdown).positions.length := by
    rwa [Stripped.length_positions]
  obtain ⟨⟨start, finish⟩, hspan⟩ := hm.exists_toMarkdownSpan? (bounded_strip hsize) hpos hlength
  obtain ⟨-, -, hfirst, last, hlast, hfinish⟩ := PositionMap.toMarkdownSpan?_spec hspan hlength
  obtain rfl : finish = last + 1 := hfinish
  have hlt := origin_lt_of_strip hlast
  have hsum : f.offset + f.length ≤ maxOffset :=
    Nat.le_trans hle (Nat.le_trans (length_strip_le markdown) hsize)
  have hslice : Text.slice? (strip markdown).text ⟨f.offset, f.offset + f.length⟩ =
      some (f.covered (strip markdown)) := covered?_eq hle
  refine ⟨start, last, hfirst, hlast, (hm.le_iff hfirst hlast).mpr (by omega), hlt, ?_⟩
  have hinside : ¬ (strip markdown).markdown.length < last + 1 := Nat.not_lt_of_le hlt
  unfold place
  simp only [throw, throwThe, MonadExceptOf.throw, bind, Except.bind, pure, Except.pure,
    if_neg (Nat.ne_of_gt hpos), addOffset?_of_le hsum, hslice, hspan, if_neg hinside]
  rfl

theorem place_of_not_le (hle : ¬ f.offset + f.length ≤ d.length) (hpos : 0 < f.length)
    (code : List Span) : f.place d dictionary code = .error .outOfRange := by
  have hslice : Text.slice? d.text ⟨f.offset, f.offset + f.length⟩ = none := by
    rw [Text.slice?, if_neg]
    rintro ⟨-, hle'⟩
    exact hle (by rwa [Stripped.length_text] at hle')
  unfold place addOffset?
  by_cases hsum : f.offset + f.length ≤ maxOffset
  · simp [Nat.ne_of_gt hpos, hsum, hslice, throw, throwThe, MonadExceptOf.throw]
  · simp [Nat.ne_of_gt hpos, hsum, throw, throwThe, MonadExceptOf.throw]

theorem place_of_length_eq_zero (h : f.length = 0) (code : List Span) :
    f.place d dictionary code = .error .empty := by
  simp [place, h, bind, Except.bind, throw, throwThe, MonadExceptOf.throw]

theorem place_ne_noPlace (hsize : markdown.length ≤ maxOffset) (dictionary : Dictionary)
    (code : List Span) (f : Finding) :
    f.place (strip markdown) dictionary code ≠ .error .noPlace := by
  rcases Nat.eq_zero_or_pos f.length with hzero | hpos
  · rw [place_of_length_eq_zero hzero]
    decide
  by_cases hle : f.offset + f.length ≤ (strip markdown).length
  · obtain ⟨first, last, -, -, -, -, hplace⟩ := place_of_le hsize hpos hle dictionary code
    rw [hplace]
    split_ifs <;> simp
  · rw [place_of_not_le hle hpos]
    simp

/-! ### Where findings are reported -/

theorem reported_eq {first last : Nat} (hfirst : d.positions.origin? f.offset = some first)
    (hlast : d.positions.origin? (f.offset + f.length - 1) = some last) :
    f.reported d = ⟨f, first, last + 1 - first⟩ := by
  rw [reported, PositionMap.toMarkdown_of_origin? hfirst, PositionMap.toMarkdown_of_origin? hlast]

theorem Reportable.exists_origins (h : f.Reportable (strip markdown) dictionary) :
    ∃ first last, (strip markdown).positions.origin? f.offset = some first ∧
      (strip markdown).positions.origin? (f.offset + f.length - 1) = some last ∧ first ≤ last ∧
      last < markdown.length ∧ f.reported (strip markdown) = ⟨f, first, last + 1 - first⟩ := by
  have hpos := h.length_pos
  have hle := h.finish_le
  rw [← Stripped.length_positions] at hle
  obtain ⟨first, hfirst⟩ := PositionMap.origin?_of_lt (m := (strip markdown).positions)
    (i := f.offset) (by omega)
  obtain ⟨last, hlast⟩ := PositionMap.origin?_of_lt (m := (strip markdown).positions)
    (i := f.offset + f.length - 1) (by omega)
  have horder := (strip_sorted markdown).le_iff hfirst hlast
  exact ⟨first, last, hfirst, hlast, horder.mpr (by omega), origin_lt_of_strip hlast,
    reported_eq hfirst hlast⟩

theorem reportable_iff_of_origin {first : Nat} (hpos : 0 < f.length)
    (hle : f.offset + f.length ≤ d.length) (hfirst : d.positions.origin? f.offset = some first) :
    f.Reportable d dictionary ↔ f.suppressed d dictionary = false ∧ placeholder ∉ f.covered d ∧
      (codeRegions d.markdown).any (·.contains first) = false := by
  simp only [List.any_eq_false, Bool.not_eq_true]
  constructor
  · intro h
    exact ⟨h.unknown, h.prose, h.outside first hfirst⟩
  · rintro ⟨hunknown, hprose, houtside⟩
    refine ⟨hpos, hle, hunknown, hprose, ?_⟩
    rintro origin horigin
    cases hfirst.symm.trans horigin
    exact houtside

theorem problem?_eq (hsize : markdown.length ≤ maxOffset) (dictionary : Dictionary)
    (f : Finding) : f.problem? (strip markdown) dictionary (codeRegions markdown) =
      if f.Reportable (strip markdown) dictionary then some (f.reported (strip markdown))
      else none := by
  unfold problem?
  rcases Nat.eq_zero_or_pos f.length with hzero | hpos
  · rw [place_of_length_eq_zero hzero, if_neg]
    intro h
    exact Nat.ne_of_gt h.length_pos hzero
  by_cases hle : f.offset + f.length ≤ (strip markdown).length
  case neg =>
    rw [place_of_not_le hle hpos, if_neg]
    intro h
    exact hle h.finish_le
  obtain ⟨first, last, hfirst, hlast, -, -, hplace⟩ :=
    place_of_le hsize hpos hle dictionary (codeRegions markdown)
  have hreportable : f.Reportable (strip markdown) dictionary ↔
      f.suppressed (strip markdown) dictionary = false ∧
        placeholder ∉ f.covered (strip markdown) ∧
        (codeRegions markdown).any (·.contains first) = false :=
    reportable_iff_of_origin hpos hle hfirst
  simp only [hplace, reported_eq hfirst hlast, hreportable]
  by_cases hunknown : f.suppressed (strip markdown) dictionary = true
  · simp [hunknown]
  by_cases hprose : placeholder ∈ f.covered (strip markdown)
  · simp [hunknown, hprose]
  cases hcode : (codeRegions markdown).any (·.contains first) with
  | true => simp [hunknown, hprose]
  | false => simp [hunknown, hprose, Span.length]

/-- Findings lie in the stripped text as their problems do in the markdown. -/
theorem Reportable.precedes_eq (hf : f.Reportable (strip markdown) dictionary)
    (hg : g.Reportable (strip markdown) dictionary) :
    (f.reported (strip markdown)).precedes (g.reported (strip markdown)) = f.precedes g := by
  have hm := strip_sorted markdown
  obtain ⟨first, last, hfirst, hlast, hle, -, hreported⟩ := hf.exists_origins
  obtain ⟨first', last', hfirst', hlast', hle', -, hreported'⟩ := hg.exists_origins
  have hlt := hm.lt_iff hfirst hfirst'
  have heq := hm.eq_iff hfirst hfirst'
  have hends := hm.le_iff hlast hlast'
  have hpos := hf.length_pos
  have hpos' := hg.length_pos
  rw [Bool.eq_iff_iff, hreported, hreported', Problem.precedes_iff, precedes_iff]
  simp only
  omega

end Finding

/-! ### All findings -/

variable {d : Stripped} {markdown : List Char} {dictionary : Dictionary} {findings : List Finding}
  {p : Problem}

/-- The problems of those findings that can be told, as they come. -/
def selected (d : Stripped) (dictionary : Dictionary) (findings : List Finding) : List Problem :=
  (findings.filter (·.Reportable d dictionary)).map (·.reported d)

theorem mem_selected : p ∈ selected d dictionary findings ↔
    ∃ f ∈ findings, f.Reportable d dictionary ∧ f.reported d = p := by
  simp only [selected, List.mem_map, List.mem_filter, decide_eq_true_eq, and_assoc]

theorem problems_eq (hsize : markdown.length ≤ maxOffset) (dictionary : Dictionary)
    (findings : List Finding) : problems (strip markdown) dictionary findings =
      (selected (strip markdown) dictionary findings).mergeSort Problem.precedes := by
  have hselected : findings.filterMap
      (·.problem? (strip markdown) dictionary (codeRegions markdown)) =
        selected (strip markdown) dictionary findings := by
    unfold selected
    induction findings with
    | nil => rfl
    | cons f fs ih =>
      rw [List.filterMap_cons, List.filter_cons, Finding.problem?_eq hsize, ih]
      by_cases hf : f.Reportable (strip markdown) dictionary
      · simp [hf]
      · simp [hf]
  exact congrArg (·.mergeSort Problem.precedes) hselected

theorem stablySorts_problems (hsize : markdown.length ≤ maxOffset) (dictionary : Dictionary)
    (findings : List Finding) : StablySorts Problem.precedes
      (selected (strip markdown) dictionary findings)
      (problems (strip markdown) dictionary findings) := by
  rw [problems_eq hsize]
  exact stablySorts_mergeSort Problem.precedes_trans Problem.precedes_total _

theorem stablySorts_problems_finding (hsize : markdown.length ≤ maxOffset)
    (dictionary : Dictionary) (findings : List Finding) :
    StablySorts (fun p q => p.finding.precedes q.finding)
      (selected (strip markdown) dictionary findings)
      (problems (strip markdown) dictionary findings) := by
  rw [problems_eq hsize, ← List.map_id (List.mergeSort _ _),
    List.map_mergeSort (s := fun p q => p.finding.precedes q.finding), List.map_id]
  · exact stablySorts_mergeSort
      (fun p q r => Finding.precedes_trans p.finding q.finding r.finding)
      (fun p q => Finding.precedes_total p.finding q.finding) _
  · intro p hp q hq
    obtain ⟨f, -, hf, rfl⟩ := mem_selected.mp hp
    obtain ⟨g, -, hg, rfl⟩ := mem_selected.mp hq
    exact hf.precedes_eq hg

theorem Finding.reportable_iff (d : Stripped) (dictionary : Dictionary) (f : Finding) :
    f.Reportable d dictionary ↔ f.Reportable d .empty ∧ f.suppressed d dictionary = false := by
  have hempty : f.suppressed d .empty = false := by
    simp [suppressed, Dictionary.contains, Dictionary.empty]
  constructor
  · intro h
    exact ⟨{ h with unknown := hempty }, h.unknown⟩
  · rintro ⟨h, hunknown⟩
    exact { h with unknown := hunknown }

theorem filter_selected (d : Stripped) (dictionary : Dictionary) (findings : List Finding) :
    (selected d .empty findings).filter (fun p => !p.finding.suppressed d dictionary) =
      selected d dictionary findings := by
  rw [selected, List.filter_map, List.filter_filter]
  refine congrArg (List.map _) (List.filter_congr fun f _ => ?_)
  rw [Bool.eq_iff_iff]
  simp [Finding.reportable_iff d dictionary, Finding.reported, and_comm]

theorem problems_eq_filter (hsize : markdown.length ≤ maxOffset) (dictionary : Dictionary)
    (findings : List Finding) : problems (strip markdown) dictionary findings =
      (problems (strip markdown) .empty findings).filter
        fun p => !p.finding.suppressed (strip markdown) dictionary := by
  refine (stablySorts_problems hsize dictionary findings).unique Problem.precedes_total ?_
  rw [← filter_selected]
  exact (stablySorts_problems hsize .empty findings).filter _

theorem markdownSpan_of_mem_problems (hsize : markdown.length ≤ maxOffset)
    (hp : p ∈ problems (strip markdown) dictionary findings) :
    ∃ first last, (strip markdown).positions.origin? p.finding.offset = some first ∧
      (strip markdown).positions.origin? (p.finding.offset + p.finding.length - 1) = some last ∧
      p.markdownSpan = ⟨first, last + 1⟩ := by
  rw [problems_eq hsize, List.mem_mergeSort] at hp
  obtain ⟨f, -, hf, rfl⟩ := mem_selected.mp hp
  obtain ⟨first, last, hfirst, hlast, hle, -, hreported⟩ := hf.exists_origins
  rw [hreported]
  refine ⟨first, last, hfirst, hlast, ?_⟩
  rw [Problem.markdownSpan, Nat.add_sub_of_le (Nat.le_succ_of_le hle)]

/-- Whatever is found in a stripped document, the problems are those of the findings that can be
told, each at its place in the markdown and none of them without one. Their order is that of the
places, in the markdown and in the stripped text alike, and a dictionary only takes some away. -/
theorem problems_selected (hsize : markdown.length ≤ maxOffset) (dictionary : Dictionary)
    (findings : List Finding) :
    let d := strip markdown
    StablySorts Problem.precedes (selected d dictionary findings)
      (problems d dictionary findings) ∧
    StablySorts (fun p q => p.finding.precedes q.finding) (selected d dictionary findings)
      (problems d dictionary findings) ∧
    (∀ p ∈ problems d dictionary findings, ∃ first last,
      d.positions.origin? p.finding.offset = some first ∧
      d.positions.origin? (p.finding.offset + p.finding.length - 1) = some last ∧
      p.markdownSpan = ⟨first, last + 1⟩) ∧
    problems d dictionary findings =
      (problems d .empty findings).filter (fun p => !p.finding.suppressed d dictionary) ∧
    ∀ f : Finding, f.place d dictionary (codeRegions markdown) ≠ .error .noPlace := by
  intro d
  refine ⟨stablySorts_problems hsize dictionary findings,
    stablySorts_problems_finding hsize dictionary findings, ?_,
    problems_eq_filter hsize dictionary findings, Finding.place_ne_noPlace hsize dictionary _⟩
  intro p hp
  exact markdownSpan_of_mem_problems hsize hp

/-- A word that the user knows, a place in an image and one out of the text are left out. -/
theorem problems_selected_known :
    let markdown := "![x](u) teh `c` wrld **teh**".toList
    let d := strip markdown
    let dictionary : Dictionary := ⟨[⟨"wrld", default, none⟩]⟩
    let first := misspelling 3 3 "the"
    let last := misspelling 13 3 "the"
    let findings :=
      [last, misspelling 8 4 "world", misspelling maxOffset 1 "", misspelling 0 5 "", first]
    markdown.length ≤ maxOffset ∧
      StablySorts Problem.precedes [⟨last, 23, 3⟩, ⟨first, 8, 3⟩]
        (problems d dictionary findings) ∧
      problems d dictionary findings = [⟨first, 8, 3⟩, ⟨last, 23, 3⟩] := by
  intro markdown d dictionary first last findings
  have hsize : markdown.length ≤ maxOffset := by decide
  obtain ⟨hstable, -⟩ := problems_selected hsize dictionary findings
  have hselected : selected d dictionary findings = [⟨last, 23, 3⟩, ⟨first, 8, 3⟩] := by
    decide +kernel
  rw [hselected] at hstable
  have hsorted : [⟨last, 23, 3⟩, ⟨first, 8, 3⟩].mergeSort Problem.precedes =
      [⟨first, 8, 3⟩, ⟨last, 23, 3⟩] := by
    simp [List.mergeSort, List.MergeSort.Internal.splitInTwo, Problem.precedes]
  have hmerge := stablySorts_mergeSort Problem.precedes_trans Problem.precedes_total
    [⟨last, 23, 3⟩, ⟨first, 8, 3⟩]
  exact ⟨hsize, hstable, (hstable.unique Problem.precedes_total hmerge).trans hsorted⟩

end ProseCheck
