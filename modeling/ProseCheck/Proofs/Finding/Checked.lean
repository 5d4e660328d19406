import Mathlib.Tactic.Common
import ProseCheck.Proofs.Finding.Replacement
import ProseCheck.Proofs.Text.Indexed

/-! # Placing findings with checked arithmetic

Providers may claim any offset and any length. Each function that places a finding or makes a
replacement is written out a second time with all its sums, differences and cuts, any of which may
go wrong and then leaves nothing. No finding makes them go wrong, and no problem in a document does:
the checked functions give what the plain ones give.
-/

namespace ProseCheck

open Markdown

variable {d : Stripped} {dictionary : Dictionary} {code : List Span} {f : Finding}
  {markdown : List Char}

/-! ### The size of stripped text -/

theorem Markdown.length8_kept_le {cur : Cursor} {c : Char} {cs : List Char} {k : Construct}
    (hk : k.Stands cur c cs) (hwidth : k.width ≤ (c :: cs).length) :
    Text.length8 ((k.kept cur.offset c).map (·.char)) ≤
      2 * Text.length8 ((c :: cs).take k.width) := by
  have hbytes := Text.length_le_length8 ((c :: cs).take k.width)
  rw [List.length_take_of_le hwidth] at hbytes
  cases k with
  | backticks n =>
    have hkept : Text.length8 (((Construct.backticks n).kept cur.offset c).map (·.char)) = n := by
      rw [Construct.kept, List.map_map, Function.comp_def, List.map_const', List.length_range,
        Text.length8_replicate]
      exact Nat.mul_one n
    simp only [Construct.width] at hbytes ⊢
    omega
  | image t =>
    have hin := linkTarget?_spec hk.2.2.2
    have hurl := hin.urlStart_eq
    have hlt := hin.urlStart_lt
    have hkept : Text.length8 (((Construct.image t).kept cur.offset c).map (·.char)) = 6 := rfl
    simp only [Construct.width] at hbytes ⊢
    omega
  | plain =>
    simp [Construct.kept, Construct.width]
    omega
  | _ => simp [Construct.kept]

/-- Two placeholders take more room than the shortest image, but not twice as much. -/
theorem Markdown.length8_text_strip_le (markdown : List Char) :
    Text.length8 (strip markdown).text ≤ 2 * Text.length8 markdown := by
  suffices ∀ {cur} (h : Visits markdown cur),
      Text.length8 ((cur.read (markdown.drop cur.offset)).map (·.char)) ≤
        2 * Text.length8 (markdown.drop cur.offset) from this .start
  intro cur h
  induction h using Visits.backward with
  | finish cur h ht => simp [ht, Cursor.read]
  | step cur c cs h ht ih =>
    have hk := Construct.stands_construct cur c cs
    have hkept := length8_kept_le hk (h.fits.width_bounds ht hk).2
    have hcut := congrArg Text.length8
      (List.take_append_drop (cur.construct c cs).width (c :: cs))
    rw [Text.length8_append] at hcut
    rw [Cursor.offset_after, ← List.drop_drop, ht] at ih
    rw [ht, h.read_eq ht, List.map_append, Text.length8_append, ← List.drop_drop, ht]
    omega

/-! ### Places -/

def Markdown.PositionMap.toMarkdownChecked? (m : PositionMap) (position : Nat) : Option Nat :=
  match m.origin? position with
  | some origin => some origin
  | none =>
    match m.origins.getLast? with
    | some last => do
      let top ← subOffset? m.length 1
      let past ← subOffset? position top
      return min (last + past) maxOffset
    | none => some position

def Markdown.PositionMap.toMarkdownSpanChecked? (m : PositionMap) (offset length : Nat) :
    Option (Option Span) :=
  if length = 0 then some none
  else do
    let further ← subOffset? length 1
    match addOffset? offset further with
    | none => some none
    | some last =>
      let start ← m.toMarkdownChecked? offset
      let last ← m.toMarkdownChecked? last
      match addOffset? last 1 with
      | none => some none
      | some finish => some (if start < finish then some ⟨start, finish⟩ else none)

def Finding.placeChecked? (d : Stripped) (dictionary : Dictionary) (code : List Span)
    (f : Finding) : Option (Except DropReason Span) :=
  if f.length = 0 then some (.error .empty)
  else
    match addOffset? f.offset f.length with
    | none => some (.error .outOfRange)
    | some finish =>
      if d.length < finish then some (.error .outOfRange)
      else do
        let reach ← addOffset? f.offset f.length
        match ← Text.sliceIndexed? d.text ⟨f.offset, reach⟩ with
        | none => some (.error .outOfRange)
        | some covered =>
          if dictionary.contains (String.ofList covered) (some f.rule.id) then
            some (.error .inDictionary)
          else if covered.contains placeholder then some (.error .overPlaceholder)
          else
            match ← d.positions.toMarkdownSpanChecked? f.offset f.length with
            | none => some (.error .noPlace)
            | some span =>
              if d.markdown.length < span.finish then some (.error .noPlace)
              else if code.any (·.contains span.start) then some (.error .insideCode)
              else some (.ok span)

theorem Markdown.PositionMap.toMarkdownChecked?_eq (m : PositionMap) (position : Nat) :
    m.toMarkdownChecked? position = some (m.toMarkdown position) := by
  unfold toMarkdownChecked? toMarkdown
  cases horigin : m.origin? position with
  | some origin => rfl
  | none =>
    have hle : m.length ≤ position := List.getElem?_eq_none_iff.mp horigin
    cases hlast : m.origins.getLast? with
    | none => rfl
    | some last =>
      have hpos : 1 ≤ m.length := List.length_pos_of_mem (List.mem_of_getLast? hlast)
      have hpast : m.length - 1 ≤ position := Nat.le_trans (Nat.sub_le _ 1) hle
      simp [subOffset?_of_le hpos, subOffset?_of_le hpast]

theorem Markdown.PositionMap.toMarkdownSpanChecked?_eq (m : PositionMap) (offset length : Nat) :
    m.toMarkdownSpanChecked? offset length = some (m.toMarkdownSpan? offset length) := by
  unfold toMarkdownSpanChecked? toMarkdownSpan?
  by_cases hlength : length = 0
  case pos => simp [hlength]
  have hpos : 0 < length := Nat.pos_of_ne_zero hlength
  have hfurther : subOffset? length 1 = some (length - 1) := subOffset?_of_le hpos
  simp only [if_neg hlength, hfurther, toMarkdownChecked?_eq, guard, if_pos hpos]
  cases hlast : addOffset? offset (length - 1) with
  | none => simp [hlast]
  | some last =>
    cases hfinish : addOffset? (m.toMarkdown last) 1 with
    | none => simp [hlast, hfinish]
    | some finish => by_cases hlt : m.toMarkdown offset < finish <;> simp [hlast, hfinish, hlt]

/-- Placing a finding never goes wrong, whatever it claims. -/
theorem Finding.placeChecked?_eq (h : Text.length8 d.text ≤ maxOffset)
    (dictionary : Dictionary) (code : List Span) (f : Finding) :
    f.placeChecked? d dictionary code = some (f.place d dictionary code) := by
  unfold placeChecked? place
  simp only [throw, throwThe, MonadExceptOf.throw, bind, Except.bind, pure, Except.pure,
    Text.sliceIndexed?_eq h, PositionMap.toMarkdownSpanChecked?_eq, Option.bind_some]
  by_cases hlength : f.length = 0
  case pos => rw [if_pos hlength, if_pos hlength]
  rw [if_neg hlength, if_neg hlength]
  cases hfinish : addOffset? f.offset f.length with
  | none => rfl
  | some finish =>
    have hslice : d.length < finish → Text.slice? d.text ⟨f.offset, finish⟩ = none := fun hlt => by
      rw [Text.slice?, if_neg]
      rw [Stripped.length_text]
      exact fun h' => Nat.not_le_of_lt hlt h'.2
    by_cases hlt : d.length < finish
    case pos => simp only [if_pos hlt, hslice hlt]
    simp only [if_neg hlt, Option.bind_some]
    cases Text.slice? d.text ⟨f.offset, finish⟩ with
    | none => rfl
    | some covered =>
      cases d.positions.toMarkdownSpan? f.offset f.length <;> simp only <;> split_ifs <;> rfl

/-! ### Replacements -/

namespace Problem

/-- `replaceWith?` with checked sums and cuts, where there is room for that many bytes. -/
def replaceChecked? (room : Nat) (p : Problem) (markdown replacement : List Char) :
    Option (Except ReplacementError (List Char)) := do
  let finish ← addOffset? p.markdownOffset p.markdownLength
  let outOfBounds := .error (.outOfBounds ⟨p.markdownOffset, finish⟩ markdown.length)
  match Text.byteOffset? markdown p.markdownOffset with
  | none => some outOfBounds
  | some first =>
    match Text.byteOffset? markdown finish with
    | none => some outOfBounds
    | some last =>
      guard (Text.length8 markdown + Text.length8 replacement ≤ room)
      let (front, _) ← Text.splitAtByte? markdown first
      let (_, back) ← Text.splitAtByte? markdown last
      some (.ok (front ++ replacement ++ back))

/-- `applyReplacement?` with checked sums and cuts. -/
def applyChecked? (p : Problem) (markdown : List Char) (index : Nat) :
    Option (Except ReplacementError (List Char)) :=
  match p.finding.replacements[index]? with
  | none => some (.error (.noSuchReplacement index p.finding.replacements.length))
  | some replacement => p.replaceChecked? maxOffset markdown replacement.toList

theorem replaceChecked?_eq {room : Nat} {replacement : List Char} (p : Problem)
    (hroom : Text.length8 markdown + Text.length8 replacement ≤ room) :
    p.replaceChecked? room markdown replacement = p.replaceWith? markdown replacement := by
  unfold replaceChecked? replaceWith? markdownSpan
  by_cases hsum : p.markdownOffset + p.markdownLength ≤ maxOffset
  case neg => simp [addOffset?, hsum, Nat.lt_of_not_le hsum]
  simp only [addOffset?_of_le hsum, Option.bind_eq_bind, Option.bind_some, Text.byteOffset?_eq,
    if_neg (Nat.not_lt_of_le hsum)]
  by_cases hfinish : p.markdownOffset + p.markdownLength ≤ markdown.length
  case pos =>
    have hstart : p.markdownOffset ≤ markdown.length := Nat.le_of_add_right_le hfinish
    simp [Text.splitAtByte?_take, hstart, hfinish, hroom]
  by_cases hstart : p.markdownOffset ≤ markdown.length
  case pos => simp [hstart, hfinish]
  case neg => simp [hstart]

theorem applyChecked?_eq {p : Problem} {index : Nat} {replacement : String}
    (hindex : p.finding.replacements[index]? = some replacement)
    (hmarkdown : Text.Storable markdown) (hreplacement : Text.Storable replacement.toList) :
    p.applyChecked? markdown index = p.applyReplacement? markdown index := by
  have hroom := Nat.le_trans (Nat.add_le_add hmarkdown hreplacement) Text.maxBytes_add_maxBytes_le
  simp only [applyChecked?, applyReplacement?, hindex, p.replaceChecked?_eq hroom]

end Problem

/-- Whatever findings claim, placing them goes well, and each problem that comes of them has a place
in the markdown that is not empty and takes each of its replacements there and nowhere else. -/
theorem problems_applicable (markdown : List Char) (dictionary : Dictionary)
    (findings : List Finding) :
    (Text.Storable markdown → ∀ f ∈ findings,
      f.placeChecked? (strip markdown) dictionary (codeRegions markdown) =
        some (f.place (strip markdown) dictionary (codeRegions markdown))) ∧
    ∀ p ∈ problems (strip markdown) dictionary findings,
      p.markdownSpan.start < p.markdownSpan.finish ∧
      p.markdownSpan.finish ≤ markdown.length ∧
      ∀ k replacement, p.finding.replacements[k]? = some replacement →
        p.applyReplacement? markdown k =
          some (.ok (markdown.take p.markdownSpan.start ++ replacement.toList ++
            markdown.drop p.markdownSpan.finish)) ∧
        (Text.Storable markdown → Text.Storable replacement.toList →
          p.applyChecked? markdown k = p.applyReplacement? markdown k) := by
  refine ⟨fun hstorable f _ => ?_, fun p hp => ?_⟩
  · have hsize : Text.length8 markdown ≤ Text.maxBytes := hstorable
    have htext := length8_text_strip_le markdown
    have hdouble : 2 * Text.maxBytes ≤ maxOffset := by decide
    exact Finding.placeChecked?_eq (by omega) ..
  · obtain ⟨f, -, span, hplace, rfl⟩ := mem_problems.mp hp
    have h := Finding.placed_of_place_eq_ok hplace
    rw [Problem.markdownSpan_eq h]
    exact ⟨h.start_lt, h.span_le, fun k replacement hk =>
      ⟨Problem.applyReplacement?_eq h hk, Problem.applyChecked?_eq hk⟩⟩

theorem problems_applicable_beyond_bytes :
    let markdown := "né **tehx** 😀".toList
    let far := misspelling maxOffset maxOffset "x"
    let p : Problem := ⟨misspelling 3 4 "the", 5, 4⟩
    far.placeChecked? (strip markdown) .empty (codeRegions markdown) =
        some (.error .outOfRange) ∧
      p ∈ problems (strip markdown) .empty [far, p.finding] ∧
      p.markdownSpan.start < p.markdownSpan.finish ∧
      p.applyChecked? markdown 0 = some (.ok "né **the** 😀".toList) := by
  intro markdown far p
  have hp : p ∈ problems (strip markdown) .empty [far, p.finding] := by decide +kernel
  have hstorable : Text.Storable markdown := by decide +kernel
  obtain ⟨hplace, happly⟩ := problems_applicable markdown .empty [far, p.finding]
  obtain ⟨hlt, -, hreplace⟩ := happly p hp
  obtain ⟨hedited, hchecked⟩ := hreplace 0 "the" rfl
  have hfar : far.place (strip markdown) .empty (codeRegions markdown) = .error .outOfRange := by
    decide +kernel
  refine ⟨?_, hp, hlt, ?_⟩
  · rw [hplace hstorable far List.mem_cons_self, hfar]
  · rw [hchecked hstorable (by decide +kernel), hedited]
    rfl

end ProseCheck
