import Mathlib.Tactic.Common
import ProseCheck.Proofs.Markdown.CodeSpan

/-! # The grammar of links

The text of a link ends where as many brackets are closed as were opened, and its url where one more
parenthesis is closed than the url opened. Both searches are for the first position at which a count
is zero, in a text without certain line feeds.
-/

namespace ProseCheck.Markdown

def numbered (offset : Nat) : List Char → List (Nat × Char)
  | [] => []
  | c :: cs => (offset, c) :: numbered (offset + 1) cs

/-- The characters outside code of a text that starts at `offset`, with their positions. Backticks
that close nowhere are left out too. -/
def uncoded (offset : Nat) : List Char → List (Nat × Char)
  | [] => []
  | c :: cs =>
    if c = backtick then
      let n := codeLength (c :: cs)
      uncoded (offset + n) (cs.drop (n - 1))
    else (offset, c) :: uncoded (offset + 1) cs
termination_by text => text.length

/-- A pair of characters that nests, and the characters that nothing in between may be. -/
structure Nesting where
  opening : Char
  closing : Char
  barrier : Nat × Char → Prop

/-- In the text of a link brackets nest, and no blank line stands. -/
def Nesting.label (text : List Char) : Nesting where
  opening := '['
  closing := ']'
  barrier x := x.2 = '\n' ∧ text[x.1 + 1]? = some '\n'

/-- In the url of a link parentheses nest, and no line ends. -/
def Nesting.url : Nesting where
  opening := '('
  closing := ')'
  barrier x := x.2 = '\n'

namespace Nesting

variable (p : Nesting)

/-- How a character changes the number of what is open. -/
def weight (c : Char) : Int := if c = p.opening then 1 else if c = p.closing then -1 else 0

/-- How much more is opened than closed up to the position `i`, the character there included. -/
def depthAt (xs : List (Nat × Char)) (i : Nat) : Int :=
  (xs.filter (·.1 ≤ i)).foldr (p.weight ·.2 + ·) 0

/-- With `depth` open to begin with, `close` is the first position from `start` on at which nothing
is open, and there is no barrier before it. -/
structure Closes (xs : List (Nat × Char)) (depth : Int) (start close : Nat) : Prop where
  le : start ≤ close
  closed : depth + p.depthAt xs close = 0
  opened : ∀ i, start ≤ i → i < close → depth + p.depthAt xs i ≠ 0
  unbroken : ∀ x ∈ xs, x.1 < close → ¬ p.barrier x

variable {p} {xs : List (Nat × Char)} {depth : Int} {c : Char} {start close i k n : Nat}

@[simp] theorem depthAt_nil (i : Nat) : p.depthAt [] i = 0 := rfl

theorem depthAt_cons_of_le (h : start ≤ i) :
    p.depthAt ((start, c) :: xs) i = p.weight c + p.depthAt xs i := by
  rw [depthAt, List.filter_cons_of_pos (by simpa using h), List.foldr_cons, depthAt]

theorem depthAt_of_lt (h : ∀ x ∈ xs, i < x.1) : p.depthAt xs i = 0 := by
  have hnone : xs.filter (·.1 ≤ i) = [] :=
    List.filter_eq_nil_iff.mpr fun x hx => by simpa using h x hx
  rw [depthAt, hnone]
  rfl

theorem not_closes_nil (hdepth : depth ≠ 0) : ¬ p.Closes [] depth start close := by
  intro h
  have := h.closed
  rw [depthAt_nil, Int.add_zero] at this
  exact hdepth this

theorem closes_skip_iff (hafter : ∀ x ∈ xs, start + k ≤ x.1) (hdepth : depth ≠ 0) :
    p.Closes xs depth start close ↔ p.Closes xs depth (start + k) close := by
  have hconst (i : Nat) (hi : i < start + k) : depth + p.depthAt xs i ≠ 0 := by
    rw [depthAt_of_lt fun x hx => Nat.lt_of_lt_of_le hi (hafter x hx), Int.add_zero]
    exact hdepth
  constructor
  · rintro ⟨hle, hclosed, hopened, hunbroken⟩
    refine ⟨?_, hclosed, fun i hi => hopened i (by omega), hunbroken⟩
    by_contra hlt
    exact hconst close (Nat.lt_of_not_le hlt) hclosed
  · rintro ⟨hle, hclosed, hopened, hunbroken⟩
    refine ⟨by omega, hclosed, fun i hi hlt => ?_, hunbroken⟩
    rcases Nat.lt_or_ge i (start + k) with hbefore | hge
    · exact hconst i hbefore
    · exact hopened i hge hlt

theorem closes_behind_iff : p.Closes ((start, c) :: xs) depth (start + 1) close ↔
    ¬ p.barrier (start, c) ∧ p.Closes xs (depth + p.weight c) (start + 1) close := by
  have hdepth (i : Nat) (hi : start + 1 ≤ i) : depth + p.depthAt ((start, c) :: xs) i =
      depth + p.weight c + p.depthAt xs i := by
    rw [depthAt_cons_of_le (by omega), Int.add_assoc]
  constructor
  · rintro ⟨hle, hclosed, hopened, hunbroken⟩
    refine ⟨hunbroken _ List.mem_cons_self hle, hle, hdepth close hle ▸ hclosed, ?_, ?_⟩
    · exact fun i hi hlt => hdepth i hi ▸ hopened i hi hlt
    · exact fun x hx => hunbroken x (List.mem_cons_of_mem _ hx)
  · rintro ⟨hbarrier, hle, hclosed, hopened, hunbroken⟩
    refine ⟨hle, (hdepth close hle).symm ▸ hclosed, ?_, ?_⟩
    · exact fun i hi hlt => (hdepth i hi).symm ▸ hopened i hi hlt
    · exact List.forall_mem_cons.mpr ⟨fun _ => hbarrier, hunbroken⟩

theorem closes_cons_iff (hafter : ∀ x ∈ xs, start < x.1) :
    p.Closes ((start, c) :: xs) depth start close ↔
      if depth + p.weight c = 0 then close = start
      else ¬ p.barrier (start, c) ∧ p.Closes xs (depth + p.weight c) (start + 1) close := by
  have hhere : p.depthAt ((start, c) :: xs) start = p.weight c := by
    rw [depthAt_cons_of_le (Nat.le_refl _), depthAt_of_lt hafter, Int.add_zero]
  split
  next hzero =>
    constructor
    · rintro ⟨hle, -, hopened, -⟩
      by_contra hne
      exact hopened start (Nat.le_refl _) (by omega) (hhere.symm ▸ hzero)
    · rintro rfl
      refine ⟨Nat.le_refl _, hhere.symm ▸ hzero, by omega, ?_⟩
      refine List.forall_mem_cons.mpr ⟨fun h => absurd h (Nat.lt_irrefl _), fun x hx hlt => ?_⟩
      exact absurd (hafter x hx) (Nat.lt_asymm hlt)
  next hne =>
    rw [← closes_behind_iff]
    constructor
    · rintro ⟨hle, hclosed, hopened, hunbroken⟩
      refine ⟨?_, hclosed, fun i hi => hopened i (by omega), hunbroken⟩
      rcases Nat.eq_or_lt_of_le hle with rfl | hlt
      · exact absurd (hhere ▸ hclosed) hne
      · exact hlt
    · rintro ⟨hle, hclosed, hopened, hunbroken⟩
      refine ⟨by omega, hclosed, fun i hi hlt => ?_, hunbroken⟩
      rcases Nat.eq_or_lt_of_le hi with rfl | hbehind
      · exact hhere.symm ▸ hne
      · exact hopened i hbehind hlt

theorem map_succ_eq_some_iff {found : Option Nat} {left : Int}
    (hafter : ∀ x ∈ xs, start < x.1) (hweight : depth + p.weight c = left) (hleft : left ≠ 0)
    (hbarrier : ¬ p.barrier (start, c))
    (h : found.map (start + 1 + ·) = some n ↔ p.Closes xs left (start + 1) close) :
    (found.map (· + 1)).map (start + ·) = some n ↔
      p.Closes ((start, c) :: xs) depth start close := by
  rw [map_succ_map_add, closes_cons_iff hafter, hweight, if_neg hleft, and_iff_right hbarrier]
  exact h

theorem weight_of_ne (hopening : c ≠ p.opening) (hclosing : c ≠ p.closing) : p.weight c = 0 := by
  rw [weight, if_neg hopening, if_neg hclosing]

end Nesting

variable {text rest cs : List Char} {c : Char} {offset depth start close n : Nat}

/-! ### Positions -/

theorem le_of_mem_numbered {x : Nat × Char} (h : x ∈ numbered offset text) : offset ≤ x.1 := by
  induction text generalizing offset with
  | nil => cases h
  | cons c cs ih =>
    rcases List.mem_cons.mp h with rfl | h
    · exact Nat.le_refl _
    · exact Nat.le_of_succ_le (ih h)

@[simp] theorem uncoded_nil (offset : Nat) : uncoded offset [] = [] := by rw [uncoded]

theorem uncoded_cons_of_ne (h : c ≠ backtick) :
    uncoded offset (c :: cs) = (offset, c) :: uncoded (offset + 1) cs := by
  rw [uncoded, if_neg h]

theorem uncoded_backtick : uncoded offset (backtick :: cs) =
    uncoded (offset + codeLength (backtick :: cs)) (cs.drop (codeLength (backtick :: cs) - 1)) := by
  rw [uncoded, if_pos rfl]

theorem le_of_mem_uncoded {x : Nat × Char} (h : x ∈ uncoded offset text) : offset ≤ x.1 := by
  fun_induction uncoded offset text with
  | case1 => cases h
  | case2 offset cs n =>
    rename_i ih
    exact Nat.le_trans (Nat.le_add_right ..) (ih h)
  | case3 offset c cs _ ih =>
    rcases List.mem_cons.mp h with rfl | h
    · exact Nat.le_refl _
    · exact Nat.le_of_succ_le (ih h)

/-! ### The two searches -/

/-- The search for the bracket finds the first position at which no bracket is open. -/
theorem closeBracket?_eq_some_iff (hdepth : 0 < depth) (hrest : text.drop offset = rest) :
    (closeBracket? depth rest).map (offset + ·) = some close ↔
      (Nesting.label text).Closes (uncoded offset rest) depth offset close := by
  have hafter {offset : Nat} {cs : List Char} (x : Nat × Char) (hx : x ∈ uncoded (offset + 1) cs) :
      offset < x.1 := le_of_mem_uncoded hx
  have hplain {c : Char} (offset : Nat) (hc : c ≠ '\n') :
      ¬ (Nesting.label text).barrier (offset, c) := fun hbarrier => hc hbarrier.1
  fun_induction closeBracket? depth rest generalizing offset with
  | case1 depth =>
    rw [uncoded_nil, Option.map_none]
    simpa using Nesting.not_closes_nil (by omega)
  | case2 depth cs k =>
    rename_i ih
    have hpos : 0 < k := codeLength_pos (by rfl)
    rw [uncoded_backtick, Nesting.closes_skip_iff (fun x hx => le_of_mem_uncoded hx) (by omega),
      map_add_map_add]
    exact ih hdepth (drop_add_of_drop hrest hpos)
  | case3 depth cs hb ih =>
    have hweight : (depth : Int) + (Nesting.label text).weight '[' = (depth + 1 : Nat) := rfl
    rw [uncoded_cons_of_ne hb]
    exact Nesting.map_succ_eq_some_iff hafter hweight (by omega) (hplain offset (by decide))
      (ih (Nat.succ_pos depth) (drop_succ_of_drop hrest))
  | case4 depth cs hle hb _ =>
    obtain rfl : depth = 1 := by omega
    have hweight : ((1 : Nat) : Int) + (Nesting.label text).weight ']' = 0 := rfl
    rw [uncoded_cons_of_ne hb, Nesting.closes_cons_iff hafter, if_pos hweight, Option.map_some,
      Option.some.injEq, Nat.add_zero, eq_comm]
  | case5 depth cs hgt hb _ ih =>
    have hweight : (depth : Int) + (Nesting.label text).weight ']' = (depth - 1 : Nat) := by
      rw [show (Nesting.label text).weight ']' = -1 from rfl]
      omega
    rw [uncoded_cons_of_ne hb]
    exact Nesting.map_succ_eq_some_iff hafter hweight (by omega) (hplain offset (by decide))
      (ih (by omega) (drop_succ_of_drop hrest))
  | case6 depth c cs hb ho hc hblank =>
    obtain ⟨rfl, hnext⟩ := hblank
    have hweight : (depth : Int) + (Nesting.label text).weight '\n' = depth := Int.add_zero _
    have hbarrier : (Nesting.label text).barrier (offset, '\n') := by
      refine ⟨rfl, ?_⟩
      rw [getElem?_add_of_drop hrest, ← hnext, List.head?_eq_getElem?, List.getElem?_cons_succ]
    rw [uncoded_cons_of_ne hb, Nesting.closes_cons_iff hafter, hweight, if_neg (by omega)]
    simp [hbarrier]
  | case7 depth c cs hb ho hc hblank ih =>
    have hweight : (depth : Int) + (Nesting.label text).weight c = depth := by
      rw [Nesting.weight_of_ne ho hc, Int.add_zero]
    have hbarrier : ¬ (Nesting.label text).barrier (offset, c) := by
      rintro ⟨hnewline, hnext⟩
      rw [getElem?_add_of_drop hrest, List.getElem?_cons_succ, ← List.head?_eq_getElem?] at hnext
      exact hblank ⟨hnewline, hnext⟩
    rw [uncoded_cons_of_ne hb]
    exact Nesting.map_succ_eq_some_iff hafter hweight (by omega) hbarrier
      (ih hdepth (drop_succ_of_drop hrest))

/-- The search for the end of the url finds the first parenthesis that is closed but not open. -/
theorem urlEnd?_eq_some_iff : (urlEnd? depth text).map (offset + ·) = some (close + 1) ↔
    Nesting.url.Closes (numbered offset text) (depth + 1) offset close := by
  have hafter {offset : Nat} {cs : List Char} (x : Nat × Char)
      (hx : x ∈ numbered (offset + 1) cs) : offset < x.1 := le_of_mem_numbered hx
  have hplain {c : Char} (offset : Nat) (hc : c ≠ '\n') : ¬ Nesting.url.barrier (offset, c) := hc
  fun_induction urlEnd? depth text generalizing offset with
  | case1 depth =>
    rw [numbered, Option.map_none]
    simpa using Nesting.not_closes_nil (by omega)
  | case2 cs =>
    have hweight : ((0 : Nat) : Int) + 1 + Nesting.url.weight ')' = 0 := rfl
    rw [numbered, Nesting.closes_cons_iff hafter, if_pos hweight, Option.map_some,
      Option.some.injEq, Nat.add_right_cancel_iff, eq_comm]
  | case3 depth cs hne ih =>
    have hweight : (depth : Int) + 1 + Nesting.url.weight ')' = (depth - 1 : Nat) + 1 := by
      rw [show Nesting.url.weight ')' = -1 from rfl]
      omega
    exact Nesting.map_succ_eq_some_iff hafter hweight (by omega) (hplain offset (by decide)) ih
  | case4 depth cs hc =>
    have hweight : (depth : Int) + 1 + Nesting.url.weight '\n' = depth + 1 := Int.add_zero _
    have hbarrier : Nesting.url.barrier (offset, '\n') := rfl
    rw [numbered, Nesting.closes_cons_iff hafter, hweight, if_neg (by omega)]
    simp [hbarrier]
  | case5 depth c cs hc hnewline ih =>
    have hweight : (depth : Int) + 1 + Nesting.url.weight c =
        (if c = '(' then depth + 1 else depth : Nat) + 1 := by
      split
      next ho =>
        rw [ho, show Nesting.url.weight '(' = 1 from rfl]
        omega
      next ho => rw [Nesting.weight_of_ne ho hc, Int.add_zero]
    generalize (if c = '(' then depth + 1 else depth) = depth' at hweight ih ⊢
    exact Nesting.map_succ_eq_some_iff hafter hweight (by omega) (hplain offset hnewline) ih

/-! ### Links -/

structure LinkAt (text : List Char) (start : Nat) (t : LinkTarget) : Prop where
  label : (Nesting.label text).Closes (uncoded start (text.drop start)) 0 (start + 1) t.closeBracket
  paren : text[t.closeBracket + 1]? = some '('
  urlStart_eq : t.urlStart = t.closeBracket + 2
  url : ∃ last, Nesting.url.Closes (numbered t.urlStart (text.drop t.urlStart)) 1 t.urlStart last ∧
    t.finish = last + 1

theorem closeBracket?_zero_eq_some_iff (hopen : text[start]? = some '[') :
    (closeBracket? 0 (text.drop start)).map (start + ·) = some close ↔
      (Nesting.label text).Closes (uncoded start (text.drop start)) 0 (start + 1) close := by
  have hplain : ¬ (Nesting.label text).barrier (start, '[') := by
    rintro ⟨hnewline, -⟩
    cases hnewline
  have hweight : (0 : Int) + (Nesting.label text).weight '[' = (1 : Nat) := rfl
  rw [drop_of_getElem? hopen, closeBracket?, if_neg (by decide), if_pos rfl, map_succ_map_add,
    uncoded_cons_of_ne (by decide), Nesting.closes_behind_iff, and_iff_right hplain, hweight]
  exact closeBracket?_eq_some_iff Nat.one_pos rfl

theorem linkTarget?_shift_eq_some_iff {t : LinkTarget} (hopen : text[start]? = some '[') :
    (linkTarget? (text.drop start)).map (·.shift start) = some t ↔ LinkAt text start t := by
  simp only [Option.map_eq_some_iff, linkTarget?_eq_some_iff]
  constructor
  · rintro ⟨_, ⟨close, url, n, hclose, hurl, hn, rfl⟩, rfl⟩
    rw [List.drop_drop, ← Nat.add_assoc, Nat.add_comm start] at hurl
    have hbehind : text.drop (close + 2 + start) = url := by
      rw [Nat.add_right_comm]
      exact drop_succ_of_drop hurl
    have hlabel : (closeBracket? 0 (text.drop start)).map (start + ·) = some (close + start) := by
      rw [hclose, Option.map_some, Nat.add_comm]
    obtain ⟨m, rfl⟩ : ∃ m, n = m + 1 :=
      Nat.exists_eq_add_one_of_ne_zero (Nat.ne_of_gt (urlEnd?_spec hn).1)
    refine ⟨(closeBracket?_zero_eq_some_iff hopen).mp hlabel, getElem?_add_of_drop hurl 0,
      Nat.add_right_comm .., close + 2 + start + m, ?_, by simp only [LinkTarget.shift]; omega⟩
    rw [← hbehind] at hn
    exact urlEnd?_eq_some_iff.mp (congrArg (Option.map _) hn)
  · rintro ⟨hlabel, hparen, hstart, last, hurl, hfinish⟩
    obtain ⟨close, hclose, hlabel⟩ :=
      Option.map_eq_some_iff.mp ((closeBracket?_zero_eq_some_iff hopen).mpr hlabel)
    obtain ⟨n, hn, hlast⟩ := Option.map_eq_some_iff.mp (urlEnd?_eq_some_iff.mpr hurl)
    have hdrop : (text.drop start).drop (close + 1) = '(' :: text.drop t.urlStart := by
      rw [List.drop_drop, ← Nat.add_assoc, hlabel, drop_of_getElem? hparen, hstart]
    refine ⟨_, ⟨close, _, n, hclose, hdrop, hn, rfl⟩, ?_⟩
    obtain ⟨closeBracket, urlStart, finish⟩ := t
    simp only [LinkTarget.shift, LinkTarget.mk.injEq] at hlabel hstart hlast hfinish ⊢
    omega

theorem LinkTarget.In.shift {t : LinkTarget} (h : t.In (text.drop start)) :
    (t.shift start).In text := by
  obtain ⟨hclose, hstart, hlt, hle, hlast⟩ := h
  rw [List.length_drop] at hle
  refine ⟨?_, ?_, Nat.add_lt_add_right hlt start, ?_, ?_⟩
  · rw [LinkTarget.shift, Nat.add_comm, ← List.getElem?_drop, hclose]
  · rw [LinkTarget.shift, hstart, Nat.add_right_comm]
  · show t.finish + start ≤ text.length
    omega
  · show text[t.finish + start - 1]? = some ')'
    rw [Nat.add_comm]
    exact getElem?_last_of_drop (by omega) hlast

/-! ### The searches by position -/

/-- Where the bracket is that closes `depth` open ones, from `i` on. -/
def closeBracketChecked? (text : List Char) (depth i : Nat) : Option (Option Nat) :=
  match hc : text[i]? with
  | none => some none
  | some c =>
    if hcode : c = backtick then
      match _hnext : pastCode? text i with
      | none => none
      | some next => closeBracketChecked? text depth next
    else if c = '[' then closeBracketChecked? text (depth + 1) (i + 1)
    else if c = ']' then
      match subOffset? depth 1 with
      | none => none
      | some 0 => some (some i)
      | some (depth + 1) => closeBracketChecked? text (depth + 1) (i + 1)
    else if c = '\n' ∧ text[i + 1]? = some '\n' then some none
    else closeBracketChecked? text depth (i + 1)
termination_by text.length - i
decreasing_by
  all_goals have hlt := (List.getElem?_eq_some_iff.mp hc).1
  · rw [hcode] at hc
    have hpos := codeLength_pos ((List.getElem?_drop ..).trans hc)
    have hnext := (pastCode?_eq hc).symm.trans _hnext
    cases hnext
    omega
  all_goals omega

def urlEndChecked? (text : List Char) (depth i : Nat) : Option (Option Nat) :=
  match hc : text[i]? with
  | none => some none
  | some c =>
    if c = '(' then urlEndChecked? text (depth + 1) (i + 1)
    else if c = ')' then
      if depth = 0 then some (some (i + 1))
      else
        match subOffset? depth 1 with
        | none => none
        | some depth => urlEndChecked? text depth (i + 1)
    else if c = '\n' then some none
    else urlEndChecked? text depth (i + 1)
termination_by text.length - i
decreasing_by all_goals have hlt := (List.getElem?_eq_some_iff.mp hc).1; omega

def linkTargetChecked? (text : List Char) (start : Nat) : Option (Option LinkTarget) := do
  match ← closeBracketChecked? text 0 start with
  | none => return none
  | some close =>
    if text[close + 1]? = some '(' then
      let finish ← urlEndChecked? text 0 (close + 2)
      return finish.map fun finish => ⟨close, close + 2, finish⟩
    else return none

theorem closeBracketChecked?_eq {i : Nat} (h : 0 < depth ∨ text[i]? = some '[') :
    closeBracketChecked? text depth i =
      some ((closeBracket? depth (text.drop i)).map (i + ·)) := by
  have hpos {c : Char} (hc : text[i]? = some c) (ho : c ≠ '[') : 0 < depth :=
    h.resolve_right fun hopen => ho (Option.some.inj (hc.symm.trans hopen))
  fun_induction closeBracketChecked? text depth i with
  | case1 depth i hc =>
    rw [List.drop_eq_nil_of_le (List.getElem?_eq_none_iff.mp hc), closeBracket?, Option.map_none]
  | case2 depth i hnext hc =>
    rw [pastCode?_eq hc] at hnext
    cases hnext
  | case3 depth i next hnext hc ih =>
    rw [pastCode?_eq hc, drop_of_getElem? hc] at hnext
    obtain rfl := Option.some.inj hnext
    have hdepth := hpos hc (by decide)
    rw [ih (Or.inl hdepth) fun _ _ => hdepth,
      drop_add_of_drop (drop_of_getElem? hc) (codeLength_pos rfl), drop_of_getElem? hc,
      closeBracket?, if_pos rfl, map_add_map_add]
  | case4 depth i hc hb ih =>
    rw [ih (Or.inl (Nat.succ_pos depth)) fun _ _ => Nat.succ_pos depth, drop_of_getElem? hc,
      closeBracket?, if_neg hb, if_pos rfl, map_succ_map_add]
  | case5 depth i hnone hc hb ho =>
    rw [subOffset?_of_le (hpos hc ho)] at hnone
    cases hnone
  | case6 depth i hzero hc hb ho =>
    rw [subOffset?_of_le (hpos hc ho), Option.some.injEq] at hzero
    rw [drop_of_getElem? hc, closeBracket?, if_neg hb, if_neg ho, if_pos rfl, if_pos (by omega),
      Option.map_some, Nat.add_zero]
  | case7 depth i depth' hsome hc hb ho ih =>
    rw [subOffset?_of_le (hpos hc ho), Option.some.injEq] at hsome
    rw [ih (Or.inl (Nat.succ_pos depth')) fun _ _ => Nat.succ_pos depth', drop_of_getElem? hc,
      closeBracket?, if_neg hb, if_neg ho, if_pos rfl, if_neg (by omega), hsome, map_succ_map_add]
  | case8 depth i c hc hb ho hclose hblank =>
    rw [drop_of_getElem? hc, closeBracket?, if_neg hb, if_neg ho, if_neg hclose, List.head?_drop,
      if_pos hblank, Option.map_none]
  | case9 depth i c hc hb ho hclose hblank ih =>
    have hdepth := hpos hc ho
    rw [ih (Or.inl hdepth) fun _ _ => hdepth, drop_of_getElem? hc, closeBracket?, if_neg hb,
      if_neg ho, if_neg hclose, List.head?_drop, if_neg hblank, map_succ_map_add]

theorem urlEndChecked?_eq {i : Nat} : urlEndChecked? text depth i =
    some ((urlEnd? depth (text.drop i)).map (i + ·)) := by
  fun_induction urlEndChecked? text depth i with
  | case1 depth i hc =>
    rw [List.drop_eq_nil_of_le (List.getElem?_eq_none_iff.mp hc), urlEnd?, Option.map_none]
  | case2 depth i hc ih =>
    rw [ih, drop_of_getElem? hc, urlEnd?, if_neg (by decide), if_neg (by decide), if_pos rfl,
      map_succ_map_add]
  | case3 i hc =>
    rw [drop_of_getElem? hc, urlEnd?, if_pos rfl, if_pos rfl, Option.map_some]
  | case4 depth i hne hnone =>
    rw [subOffset?_of_le (Nat.pos_of_ne_zero hne)] at hnone
    cases hnone
  | case5 depth i hne depth' hsome hc _ ih =>
    rw [subOffset?_of_le (Nat.pos_of_ne_zero hne), Option.some.injEq] at hsome
    rw [ih, drop_of_getElem? hc, urlEnd?, if_pos rfl, if_neg hne, hsome, map_succ_map_add]
  | case6 depth i hc _ hclose =>
    rw [drop_of_getElem? hc, urlEnd?, if_neg hclose, if_pos rfl, Option.map_none]
  | case7 depth i c hc ho hclose hnewline ih =>
    rw [ih, drop_of_getElem? hc, urlEnd?, if_neg hclose, if_neg hnewline, if_neg ho,
      map_succ_map_add]

theorem linkTargetChecked?_eq (hopen : text[start]? = some '[') : linkTargetChecked? text start =
    some ((linkTarget? (text.drop start)).map (·.shift start)) := by
  rw [linkTargetChecked?, closeBracketChecked?_eq (Or.inr hopen), linkTarget?]
  cases closeBracket? 0 (text.drop start) with
  | none => rfl
  | some close =>
    simp only [Option.map_some, Option.bind_eq_bind, Option.bind_some, List.drop_drop]
    by_cases hparen : text[start + close + 1]? = some '('
    · rw [if_pos hparen, urlEndChecked?_eq, ← Nat.add_assoc, drop_of_getElem? hparen]
      simp only [Option.bind_some]
      cases urlEnd? 0 (text.drop (start + close + 2)) with
      | none => rfl
      | some n =>
        simp only [Option.map_some, Option.bind_some, LinkTarget.shift, Option.pure_def,
          Option.some.injEq, LinkTarget.mk.injEq]
        omega
    · rw [if_neg hparen]
      split
      next url hurl =>
        refine absurd ?_ hparen
        rw [Nat.add_assoc, ← List.head?_drop, hurl, List.head?_cons]
      next => rfl

/-- There is a link at a bracket exactly when its grammar says so, with its parts in the text. By
positions the search reads the text only where there is some, and its counts stay above zero. -/
theorem linkTarget?_grammar (hopen : text[start]? = some '[') :
    (∀ t, (linkTarget? (text.drop start)).map (·.shift start) = some t ↔ LinkAt text start t) ∧
    (∀ t, LinkAt text start t → t.In text) ∧
    linkTargetChecked? text start = some ((linkTarget? (text.drop start)).map (·.shift start)) ∧
    ∀ i n, codeSpan? (text.drop i) = some n ↔ IsCodeSpan (text.drop i) n := by
  refine ⟨fun t => linkTarget?_shift_eq_some_iff hopen, fun t h => ?_, linkTargetChecked?_eq hopen,
    fun i n => codeSpan?_eq_some_iff⟩
  obtain ⟨u, hu, rfl⟩ := Option.map_eq_some_iff.mp ((linkTarget?_shift_eq_some_iff hopen).mpr h)
  exact (linkTarget?_spec hu).shift

/-- The bracket in the code does not count, and the url holds a pair of parentheses. -/
theorem linkTarget?_grammar_code :
    let text := "x[a `]` ](b(c)) d".toList
    let t : LinkTarget := ⟨8, 10, 15⟩
    text[1]? = some '[' ∧ LinkAt text 1 t ∧ t.In text ∧
      linkTargetChecked? text 1 = some (some t) ∧ IsCodeSpan (text.drop 4) 3 := by
  intro text t
  have hopen : text[1]? = some '[' := by decide
  obtain ⟨hgrammar, hin, hchecked, hcode⟩ := linkTarget?_grammar hopen
  have ht : (linkTarget? (text.drop 1)).map (·.shift 1) = some t := by decide +kernel
  have hlink := (hgrammar t).mp ht
  exact ⟨hopen, hlink, hin t hlink, ht ▸ hchecked, (hcode 4 3).mp (by decide +kernel)⟩

end ProseCheck.Markdown
