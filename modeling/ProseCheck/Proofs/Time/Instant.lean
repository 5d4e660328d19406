import Mathlib.Tactic.Common
import ProseCheck.Proofs.Time.Calendar
import ProseCheck.Time.Instant

/-! # Instants as they are stored

An instant is written part by part, and each part is read back from the front of what follows. What
is read is an instant that can be written.
-/

namespace ProseCheck.Instant

/-- The instant has a year that can be told, and a leap second only where a minute ends. -/
structure IsValid (t : Instant) : Prop where
  first : Date.firstYear ≤ (Date.ofDays (t.seconds / secondsPerDay)).year
  last : (Date.ofDays (t.seconds / secondsPerDay)).year ≤ Date.lastYear
  nanoseconds : t.nanoseconds < 2 * second
  leap : second ≤ t.nanoseconds → t.seconds % 60 = 59

instance (t : Instant) : Decidable t.IsValid :=
  decidable_of_iff
    (Date.firstYear ≤ (Date.ofDays (t.seconds / secondsPerDay)).year ∧
      (Date.ofDays (t.seconds / secondsPerDay)).year ≤ Date.lastYear ∧
      t.nanoseconds < 2 * second ∧ (second ≤ t.nanoseconds → t.seconds % 60 = 59))
    ⟨fun ⟨hf, hl, hn, hs⟩ => ⟨hf, hl, hn, hs⟩, fun ⟨hf, hl, hn, hs⟩ => ⟨hf, hl, hn, hs⟩⟩

/-! ### Digits -/

def paddedDigits (width n : Nat) : List Char :=
  List.replicate (width - (Nat.toDigits 10 n).length) '0' ++ Nat.toDigits 10 n

@[simp]
theorem toList_padded (width n : Nat) : (padded width n).toList = paddedDigits width n := by
  simp [padded, paddedDigits]

theorem isDigit_of_mem_paddedDigits {width n : Nat} {c : Char} (h : c ∈ paddedDigits width n) :
    c.isDigit = true := by
  rcases List.mem_append.mp h with hzero | hdigit
  · rw [List.eq_of_mem_replicate hzero]
    rfl
  · exact Nat.isDigit_of_mem_toDigits (by decide) (by decide) hdigit

theorem ofDigitChars_paddedDigits (width n : Nat) :
    Nat.ofDigitChars 10 (paddedDigits width n) 0 = n := by
  rw [paddedDigits, Nat.ofDigitChars_append, Nat.ofDigitChars_replicate_zero, Nat.mul_zero,
    Nat.ofDigitChars_ten_toDigits]

theorem length_paddedDigits {width n : Nat} (hwidth : 0 < width) (h : n < 10 ^ width) :
    (paddedDigits width n).length = width := by
  have := (Nat.length_toDigits_le_iff (b := 10) (by decide) hwidth).mpr h
  rw [paddedDigits, List.length_append, List.length_replicate]
  omega

theorem paddedDigits_ne_nil (width n : Nat) : paddedDigits width n ≠ [] := by
  simp [paddedDigits]

/-- A text that goes on without a digit. -/
def NoDigit (text : List Char) : Prop := ∀ c, text.head? = some c → c.isDigit = false

namespace Scan

variable {α β : Type} {text rest : List Char} {most width n : Nat}

theorem bind_eq {x : Scan α} {f : α → Scan β} {a : α} (h : x text = some (a, rest)) :
    (x >>= f) text = f a rest := by
  show (x text).bind _ = _
  rw [h]
  rfl

theorem guard_eq {p : Prop} [Decidable p] (h : p) :
    (guard p : Scan Unit) text = some ((), text) := by
  simp [guard, h]
  rfl

theorem get_bind (f : List Char → Scan β) : (get >>= f) text = f text text := rfl

theorem set_bind (next : List Char) (f : PUnit → Scan β) : (set next >>= f) text = f ⟨⟩ next := rfl

theorem discard_eq {x : Scan α} {a : α} (h : x text = some (a, rest)) :
    discard x text = some ((), rest) := by
  show (x text).bind _ = _
  rw [h]
  rfl

theorem blanks_eq {c : Char} {cs : List Char} (h : Text.isBlank c = false) :
    blanks (c :: cs) = some ((), c :: cs) := by
  show some ((), Text.trimStart (c :: cs)) = _
  rw [Text.trimStart, List.dropWhile_cons, h]
  rfl

theorem takeWhile_isDigit {digits : List Char} (hdigits : ∀ c ∈ digits, c.isDigit = true)
    (hrest : NoDigit rest) : (digits ++ rest).takeWhile Char.isDigit = digits := by
  rw [List.takeWhile_append_of_pos hdigits]
  cases rest with
  | nil => simp
  | cons c cs => rw [List.takeWhile_cons, hrest c rfl]; simp

theorem number_paddedDigits (hlength : (paddedDigits width n).length ≤ most)
    (hrest : NoDigit rest) :
    number most (paddedDigits width n ++ rest) =
      some ((n, (paddedDigits width n).length), rest) := by
  have hdigits : (paddedDigits width n ++ rest).takeWhile Char.isDigit = paddedDigits width n :=
    takeWhile_isDigit (fun _ => isDigit_of_mem_paddedDigits) hrest
  have hempty : (paddedDigits width n).isEmpty = false := by
    simpa using paddedDigits_ne_nil width n
  have hvalue := ofDigitChars_paddedDigits width n
  rw [Nat.ofDigitChars_eq_foldl] at hvalue
  simp only [number, hdigits, List.take_of_length_le hlength, hempty, Bool.false_eq_true, if_false,
    hvalue, List.drop_left]

/-! ### Parts -/

theorem isBlank_eq_false_of_isDigit {c : Char} (h : c.isDigit = true) : Text.isBlank c = false := by
  have hrange : 48 ≤ c.toNat ∧ c.toNat ≤ 57 := Char.isDigit_iff_toNat.mp h
  simp only [Text.isBlank, Text.blankRanges, Text.CodeRanges.contains, List.any_cons, List.any_nil,
    Bool.or_false, Bool.or_eq_false_iff, Bool.and_eq_false_iff, decide_eq_false_iff_not]
  omega

theorem blanks_paddedDigits (width n : Nat) (rest : List Char) :
    blanks (paddedDigits width n ++ rest) = some ((), paddedDigits width n ++ rest) := by
  obtain ⟨c, cs, hcs⟩ := List.exists_cons_of_ne_nil (paddedDigits_ne_nil width n)
  have hc : c.isDigit = true := isDigit_of_mem_paddedDigits (hcs ▸ List.mem_cons_self)
  rw [hcs, List.cons_append]
  exact blanks_eq (isBlank_eq_false_of_isDigit hc)

theorem part_padded {low high : Nat} (hlow : low ≤ n) (hhigh : n ≤ high) (hbound : high < 100)
    (hrest : NoDigit rest) :
    part 2 low high (paddedDigits 2 n ++ rest) = some (n, rest) := by
  have hlength : (paddedDigits 2 n).length ≤ 2 := by
    rw [length_paddedDigits (by decide) (by omega)]
  refine (bind_eq (blanks_paddedDigits 2 n rest)).trans ?_
  refine (bind_eq (number_paddedDigits hlength hrest)).trans ?_
  exact (bind_eq (guard_eq ⟨hlow, hhigh⟩)).trans rfl

theorem char_eq {p : Char → Bool} {c : Char} (h : p c = true) :
    char p (c :: rest) = some (c, rest) := by
  rw [char, if_pos h]

theorem separator_eq {c : Char} (h : Text.isBlank c = false) :
    separator c (c :: rest) = some ((), rest) :=
  (bind_eq (blanks_eq h)).trans (discard_eq (char_eq (beq_self_eq_true c)))

theorem year_unsigned {digits : List Char} (hne : digits ≠ [])
    (hdigits : ∀ c ∈ digits, c.isDigit = true) {value : Nat × Nat}
    (h : number 4 (digits ++ rest) = some (value, rest)) :
    year (digits ++ rest) = some ((value.1 : Int), rest) := by
  obtain ⟨c, cs, rfl⟩ := List.exists_cons_of_ne_nil hne
  have hc := hdigits c List.mem_cons_self
  have hminus : c ≠ '-' := by
    rintro rfl
    revert hc
    decide
  have hplus : c ≠ '+' := by
    rintro rfl
    revert hc
    decide
  refine (bind_eq (blanks_eq (isBlank_eq_false_of_isDigit hc))).trans ?_
  refine (get_bind _).trans ?_
  refine (congrFun (?_ : _ = (number 4 >>= fun value => pure (value.1 : Int))) _).trans
    ((bind_eq h).trans rfl)
  split
  · rename_i heq
    exact absurd (List.cons.inj heq).1 hminus
  · rename_i heq
    exact absurd (List.cons.inj heq).1 hplus
  · rfl

theorem year_minus {value : Nat × Nat} (h : number text.length text = some (value, rest)) :
    year ('-' :: text) = some (-(value.1 : Int), rest) := by
  refine (bind_eq (blanks_eq (by decide))).trans ?_
  refine (get_bind _).trans ((set_bind text _).trans ?_)
  exact (bind_eq h).trans rfl

theorem year_plus {value : Nat × Nat} (h : number text.length text = some (value, rest)) :
    year ('+' :: text) = some ((value.1 : Int), rest) := by
  refine (bind_eq (blanks_eq (by decide))).trans ?_
  refine (get_bind _).trans ((set_bind text _).trans ?_)
  exact (bind_eq h).trans rfl

theorem year_yearText (y : Int) (hrest : NoDigit rest) :
    year ((yearText y).toList ++ rest) = some (y, rest) := by
  rw [yearText]
  split
  · rename_i hshort
    have hlength : (paddedDigits 4 y.toNat).length ≤ 4 := by
      rw [length_paddedDigits (by decide) (by omega)]
    rw [toList_padded, year_unsigned (paddedDigits_ne_nil 4 _)
      (fun _ => isDigit_of_mem_paddedDigits) (number_paddedDigits hlength hrest)]
    simp only [Int.toNat_of_nonneg hshort.1]
  · have hread : number (paddedDigits 4 y.natAbs ++ rest).length
        (paddedDigits 4 y.natAbs ++ rest) = _ :=
      number_paddedDigits (by rw [List.length_append]; omega) hrest
    split
    · rename_i hneg
      have hsign : ("-" ++ padded 4 y.natAbs).toList ++ rest =
          '-' :: (paddedDigits 4 y.natAbs ++ rest) := by
        simp
      rw [hsign, year_minus hread, show -(y.natAbs : Int) = y by omega]
    · rename_i hneg
      have hsign : ("+" ++ padded 4 y.natAbs).toList ++ rest =
          '+' :: (paddedDigits 4 y.natAbs ++ rest) := by
        simp
      rw [hsign, year_plus hread, show (y.natAbs : Int) = y by omega]

theorem fraction_nil (hpoint : rest.head? ≠ some '.') : fraction rest = some (0, rest) := by
  refine (get_bind _).trans ?_
  refine (congrFun (?_ : _ = pure 0) rest).trans rfl
  split
  · exact absurd rfl hpoint
  · rfl

theorem fraction_point (hwidth : 0 < width) (hmost : width ≤ 9) (hn : n < 10 ^ width)
    (hrest : NoDigit rest) :
    fraction (("." ++ padded width n).toList ++ rest) =
      some (n * Nat.pow 10 (9 - width), rest) := by
  have htext : ("." ++ padded width n).toList ++ rest = '.' :: (paddedDigits width n ++ rest) := by
    simp
  have hlength := length_paddedDigits hwidth hn
  have hdrop : rest.dropWhile Char.isDigit = rest := by
    cases rest with
    | nil => rfl
    | cons c cs => rw [List.dropWhile_cons, hrest c rfl]; rfl
  rw [htext]
  refine (get_bind _).trans ((set_bind _ _).trans ?_)
  refine (bind_eq (number_paddedDigits (hlength.trans_le hmost) hrest)).trans ?_
  rw [hlength]
  show some (_, rest.dropWhile Char.isDigit) = _
  rw [hdrop]

theorem fraction_fractionText (h : n < second) (hrest : NoDigit rest)
    (hpoint : rest.head? ≠ some '.') :
    fraction ((fractionText n).toList ++ rest) = some (n, rest) := by
  rw [second] at h
  rw [fractionText]
  split
  · rename_i hzero
    rw [hzero]
    exact fraction_nil hpoint
  split
  · rw [fraction_point (by decide) (by decide) (by omega) hrest]
    simp only [Option.some.injEq, Prod.mk.injEq, and_true, Nat.pow_eq]
    omega
  split
  · rw [fraction_point (by decide) (by decide) (by omega) hrest]
    simp only [Option.some.injEq, Prod.mk.injEq, and_true, Nat.pow_eq]
    omega
  · rw [fraction_point (by decide) (by decide) (by omega) hrest]
    simp

theorem offset_utc (rest : List Char) : offset ('Z' :: rest) = some (0, rest) := rfl

end Scan

variable {t : Instant} {rest : List Char}

theorem noDigit_cons {c : Char} (h : c.isDigit = false) (rest : List Char) :
    NoDigit (c :: rest) := by
  rintro _ ⟨⟩
  exact h

theorem noDigit_fractionText (n : Nat) (h : NoDigit rest) :
    NoDigit ((fractionText n).toList ++ rest) := by
  have hpoint (text : String) : NoDigit (("." ++ text).toList ++ rest) := by
    rw [String.toList_append]
    exact noDigit_cons (by decide) _
  rw [fractionText]
  split
  · exact h
  split
  · exact hpoint _
  split
  · exact hpoint _
  · exact hpoint _

structure Parts where
  date : Date
  hour : Nat
  minute : Nat
  /-- Sixty in a leap second. -/
  second : Nat
  fraction : Nat

namespace Parts

def text (p : Parts) : List Char :=
  (yearText p.date.year).toList ++ '-' :: (paddedDigits 2 p.date.month ++
    '-' :: (paddedDigits 2 p.date.day ++ 'T' :: (paddedDigits 2 p.hour ++
    ':' :: (paddedDigits 2 p.minute ++ ':' :: (paddedDigits 2 p.second ++
    ((fractionText p.fraction).toList ++ ['Z']))))))

def instant (p : Parts) : Instant :=
  ⟨p.date.toDays * secondsPerDay + (p.hour * 3600 + p.minute * 60 + (min p.second 59 : Nat)),
    p.fraction + if p.second = 60 then Instant.second else 0⟩

structure IsValid (p : Parts) : Prop where
  date : p.date.isValid = true
  hour : p.hour ≤ 23
  minute : p.minute ≤ 59
  second : p.second ≤ 60
  fraction : p.fraction < Instant.second

theorem scan_text {p : Parts} (h : p.IsValid)
    (hfirst : Date.firstYear ≤ (Date.ofDays (p.instant.seconds / secondsPerDay)).year)
    (hlast : (Date.ofDays (p.instant.seconds / secondsPerDay)).year ≤ Date.lastYear) :
    Scan.instant p.text = some (p.instant, []) := by
  have hdate : 1 ≤ p.date.month ∧ p.date.month ≤ 12 ∧ 1 ≤ p.date.day ∧ p.date.day ≤ 31 := by
    have hvalid := h.date
    simp only [Date.isValid, Bool.and_eq_true, decide_eq_true_eq] at hvalid
    obtain ⟨⟨⟨⟨-, hmonth⟩, hmonth'⟩, hday⟩, hday'⟩ := hvalid
    exact ⟨hmonth, hmonth', hday, hday'.trans (Date.daysInMonth_le _ _)⟩
  obtain ⟨hmonth, hmonth', hday, hday'⟩ := hdate
  have hdash {rest : List Char} : NoDigit ('-' :: rest) := noDigit_cons (by decide) rest
  have hcolon {rest : List Char} : NoDigit (':' :: rest) := noDigit_cons (by decide) rest
  have hzone : NoDigit ['Z'] := noDigit_cons (by decide) []
  refine (Scan.bind_eq (Scan.year_yearText _ hdash)).trans ?_
  refine (Scan.bind_eq (Scan.separator_eq (by decide))).trans ?_
  refine (Scan.bind_eq (Scan.part_padded hmonth hmonth' (by decide) hdash)).trans ?_
  refine (Scan.bind_eq (Scan.separator_eq (by decide))).trans ?_
  refine (Scan.bind_eq (Scan.part_padded hday hday' (by decide)
    (noDigit_cons (by decide) _))).trans ?_
  refine (Scan.bind_eq (Scan.guard_eq h.date)).trans ?_
  refine (Scan.bind_eq (Scan.discard_eq (Scan.char_eq (by decide)))).trans ?_
  refine (Scan.bind_eq (Scan.part_padded (Nat.zero_le _) h.hour (by decide) hcolon)).trans ?_
  refine (Scan.bind_eq (Scan.separator_eq (by decide))).trans ?_
  refine (Scan.bind_eq (Scan.part_padded (Nat.zero_le _) h.minute (by decide) hcolon)).trans ?_
  refine (Scan.bind_eq (Scan.separator_eq (by decide))).trans ?_
  refine (Scan.bind_eq (Scan.part_padded (Nat.zero_le _) h.second (by decide)
    (noDigit_fractionText _ hzone))).trans ?_
  refine (Scan.bind_eq (Scan.fraction_fractionText h.fraction hzone (by decide))).trans ?_
  refine (Scan.bind_eq (Scan.blanks_eq (by decide))).trans ?_
  refine (Scan.bind_eq (Scan.offset_utc [])).trans ?_
  dsimp only
  simp only [Int.sub_zero]
  exact (Scan.bind_eq (Scan.guard_eq ⟨hfirst, hlast⟩)).trans rfl

end Parts

def parts (t : Instant) : Parts :=
  let time := (t.seconds % secondsPerDay).toNat
  { date := Date.ofDays (t.seconds / secondsPerDay)
    hour := time / 3600
    minute := time / 60 % 60
    second := time % 60 + if second ≤ t.nanoseconds then 1 else 0
    fraction := if second ≤ t.nanoseconds then t.nanoseconds - second else t.nanoseconds }

theorem toList_toStored (t : Instant) : t.toStored.toList = t.parts.text := by
  simp only [toStored, write, parts, Parts.text]
  split <;> simp [toString]

theorem isValid_parts (h : t.IsValid) : t.parts.IsValid where
  date := Date.isValid_ofDays h.first h.last
  hour := by
    simp only [parts, secondsPerDay]
    omega
  minute := by
    simp only [parts, secondsPerDay]
    omega
  second := by
    simp only [parts, secondsPerDay]
    split <;> omega
  fraction := by
    have := h.nanoseconds
    simp only [parts]
    split <;> omega

theorem instant_parts (h : t.IsValid) : t.parts.instant = t := by
  obtain ⟨-, -, hnanoseconds, hleap⟩ := h
  have hdate : t.parts.date.toDays = t.seconds / secondsPerDay := Date.toDays_ofDays _
  rw [Parts.instant, hdate]
  cases t with
  | mk seconds nanoseconds =>
    simp only [parts, secondsPerDay, mk.injEq] at *
    constructor
    · split <;> omega
    · split <;> split <;> omega

theorem parse?_toStored (h : t.IsValid) : parse? t.toStored = some t := by
  have hinstant := instant_parts h
  have hscan := Parts.scan_text (isValid_parts h) (hinstant.symm ▸ h.first) (hinstant.symm ▸ h.last)
  rw [parse?, toList_toStored, hscan, hinstant]
  rfl

/-! ### What is read -/

namespace Scan

variable {α β : Type} {text : List Char} {n most low high : Nat}

theorem bind_eq_some {x : Scan α} {f : α → Scan β} {b : β} :
    (x >>= f) text = some (b, rest) ↔
      ∃ a rest', x text = some (a, rest') ∧ f a rest' = some (b, rest) := by
  show (x text).bind _ = _ ↔ _
  rw [Option.bind_eq_some_iff, Prod.exists]

theorem guard_eq_some {p : Prop} [Decidable p] {u : Unit}
    (h : (guard p : Scan Unit) text = some (u, rest)) : p := by
  by_contra hp
  rw [guard, if_neg hp] at h
  cases h

theorem ofDigitChars_lt {digits : List Char} (h : ∀ c ∈ digits, c.isDigit = true) (init : Nat) :
    Nat.ofDigitChars 10 digits init < (init + 1) * 10 ^ digits.length := by
  induction digits generalizing init with
  | nil => simp [Nat.ofDigitChars_nil]
  | cons c cs ih =>
    have hc := Char.isDigit_iff_toNat.mp (h c List.mem_cons_self)
    rw [Nat.ofDigitChars_cons, List.length_cons, Nat.pow_succ]
    calc Nat.ofDigitChars 10 cs (10 * init + (c.toNat - '0'.toNat))
        < (10 * init + (c.toNat - '0'.toNat) + 1) * 10 ^ cs.length :=
          ih (fun d hd => h d (List.mem_cons_of_mem c hd)) _
      _ ≤ (init + 1) * 10 * 10 ^ cs.length := by
          refine Nat.mul_le_mul_right _ ?_
          have : '9'.toNat = '0'.toNat + 9 := rfl
          omega
      _ = (init + 1) * (10 ^ cs.length * 10) := by
          rw [Nat.mul_assoc, Nat.mul_comm 10]

theorem number_eq_some {width : Nat} (h : number most text = some ((n, width), rest)) :
    n < 10 ^ width ∧ width ≤ most := by
  rw [number] at h
  split at h
  · cases h
  · simp only [Option.some.injEq, Prod.mk.injEq] at h
    obtain ⟨⟨rfl, rfl⟩, -⟩ := h
    have hdigits : ∀ c ∈ (text.takeWhile Char.isDigit).take most, c.isDigit = true :=
      fun c hc => List.all_eq_true.mp List.all_takeWhile c (List.mem_of_mem_take hc)
    have hlt := ofDigitChars_lt hdigits 0
    rw [Nat.ofDigitChars_eq_foldl, Nat.zero_add, Nat.one_mul] at hlt
    exact ⟨hlt, List.length_take_le _ _⟩

theorem fraction_eq_some (h : fraction text = some (n, rest)) : n < second := by
  obtain ⟨current, _, hcurrent, h⟩ := bind_eq_some.mp h
  split at h
  · obtain ⟨_, _, -, h⟩ := bind_eq_some.mp h
    obtain ⟨⟨value, width⟩, _, hnumber, h⟩ := bind_eq_some.mp h
    obtain ⟨_, _, -, h⟩ := bind_eq_some.mp h
    obtain ⟨rfl, -⟩ := Prod.mk.inj (Option.some.inj h)
    obtain ⟨hvalue, hwidth⟩ := number_eq_some hnumber
    calc value * Nat.pow 10 (9 - width)
        < 10 ^ width * 10 ^ (9 - width) :=
          Nat.mul_lt_mul_of_pos_right hvalue (Nat.pow_pos (by decide))
      _ = second := by rw [← Nat.pow_add, Nat.add_sub_cancel' hwidth]; rfl
  · obtain ⟨rfl, -⟩ := Prod.mk.inj (Option.some.inj h)
    decide

theorem offset_eq_some {seconds : Int} (h : offset text = some (seconds, rest)) :
    seconds % 60 = 0 := by
  obtain ⟨current, _, -, h⟩ := bind_eq_some.mp h
  split at h
  · split at h
    · obtain ⟨_, _, -, h⟩ := bind_eq_some.mp h
      obtain ⟨rfl, -⟩ := Prod.mk.inj (Option.some.inj h)
      rfl
    split at h
    · obtain ⟨_, _, -, h⟩ := bind_eq_some.mp h
      obtain ⟨rfl, -⟩ := Prod.mk.inj (Option.some.inj h)
      rfl
    · obtain ⟨_, _, -, h⟩ := bind_eq_some.mp h
      obtain ⟨_, _, -, h⟩ := bind_eq_some.mp h
      obtain ⟨hours, _, -, h⟩ := bind_eq_some.mp h
      obtain ⟨_, _, -, h⟩ := bind_eq_some.mp h
      obtain ⟨minutes, _, -, h⟩ := bind_eq_some.mp h
      obtain ⟨rfl, -⟩ := Prod.mk.inj (Option.some.inj h)
      split <;> omega
  · cases h

theorem instant_eq_some (h : instant text = some (t, rest)) : t.IsValid := by
  obtain ⟨year, _, -, h⟩ := bind_eq_some.mp h
  obtain ⟨_, _, -, h⟩ := bind_eq_some.mp h
  obtain ⟨month, _, -, h⟩ := bind_eq_some.mp h
  obtain ⟨_, _, -, h⟩ := bind_eq_some.mp h
  obtain ⟨day, _, -, h⟩ := bind_eq_some.mp h
  obtain ⟨_, _, -, h⟩ := bind_eq_some.mp h
  obtain ⟨_, _, -, h⟩ := bind_eq_some.mp h
  obtain ⟨hour, _, -, h⟩ := bind_eq_some.mp h
  obtain ⟨_, _, -, h⟩ := bind_eq_some.mp h
  obtain ⟨minute, _, -, h⟩ := bind_eq_some.mp h
  obtain ⟨_, _, -, h⟩ := bind_eq_some.mp h
  obtain ⟨second, _, hsecond, h⟩ := bind_eq_some.mp h
  obtain ⟨nanoseconds, _, hnanoseconds, h⟩ := bind_eq_some.mp h
  obtain ⟨_, _, -, h⟩ := bind_eq_some.mp h
  obtain ⟨offset, _, hoffset, h⟩ := bind_eq_some.mp h
  obtain ⟨_, _, hyear, h⟩ := bind_eq_some.mp h
  obtain ⟨rfl, -⟩ := Prod.mk.inj (Option.some.inj h)
  obtain ⟨hfirst, hlast⟩ := guard_eq_some hyear
  have hfraction := fraction_eq_some hnanoseconds
  have hminutes := offset_eq_some hoffset
  refine ⟨hfirst, hlast, ?_, ?_⟩
  · dsimp only
    split <;> omega
  · dsimp only [secondsPerDay]
    split <;> omega

end Scan

theorem isValid_of_parse? {text : String} (h : parse? text = some t) : t.IsValid := by
  obtain ⟨⟨t', rest⟩, hscan, h⟩ := Option.bind_eq_some_iff.mp h
  obtain ⟨-, -, h⟩ := Option.bind_eq_some_iff.mp h
  obtain rfl := Option.some.inj h
  exact Scan.instant_eq_some hscan

end ProseCheck.Instant
