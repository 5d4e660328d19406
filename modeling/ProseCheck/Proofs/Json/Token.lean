import Mathlib.Data.Bool.AllAny
import Mathlib.Tactic.Common
import ProseCheck.Json.Printer
import ProseCheck.Json.Reader

/-! # The tokens of a printed value

A printed value is cut into the tokens that it is made of, in whatever layout. Only the end of a
number depends on what follows, and nothing that follows a value goes on with a number.
-/

namespace ProseCheck.Json

variable {text more rest : List Char} {ts us : List Token}

/-- A text that does not go on with a number. -/
def EndsNumber (text : List Char) : Prop := ∀ c, text.head? = some c → isNumeralChar c = false

theorem endsNumber_nil : EndsNumber [] := nofun

theorem endsNumber_cons {c : Char} (h : isNumeralChar c = false) (cs : List Char) :
    EndsNumber (c :: cs) := by
  rintro _ ⟨⟩
  exact h

/-- The text is cut into the tokens, whatever follows. -/
def Lexes (text : List Char) (ts : List Token) : Prop :=
  ∀ rest, EndsNumber rest → tokens? (text ++ rest) = (tokens? rest).map (ts ++ ·)

namespace Lexes

theorem nil : Lexes [] [] := fun rest _ => by
  rw [List.nil_append]
  exact (congrFun Option.map_id _).symm

theorem append (h : Lexes text ts) (h' : Lexes more us)
    (hend : ∀ rest, EndsNumber rest → EndsNumber (more ++ rest)) :
    Lexes (text ++ more) (ts ++ us) := by
  intro rest hrest
  rw [List.append_assoc, h _ (hend rest hrest), h' rest hrest, Option.map_map]
  congr 1
  funext vs
  simp

end Lexes

theorem tokens?_cons_space {c : Char} (h : isSpace c = true) (cs : List Char) :
    tokens? (c :: cs) = tokens? cs := by
  rw [tokens?, if_pos h]

theorem tokens?_cons {c : Char} (h : isSpace c = false) (cs : List Char) :
    tokens? (c :: cs) =
      (firstToken? c cs).bind fun read => (tokens? read.2).map (read.1 :: ·) := by
  rw [tokens?, if_neg (by simp [h])]
  split
  · rename_i heq
    rw [heq]
    rfl
  · rename_i heq
    rw [heq]
    rfl

theorem Lexes.of_firstToken? {c : Char} {cs : List Char} {t : Token} (h : isSpace c = false)
    (ht : ∀ rest, EndsNumber rest → firstToken? c (cs ++ rest) = some (t, rest)) :
    Lexes (c :: cs) [t] := by
  intro rest hrest
  rw [List.cons_append, tokens?_cons h, ht rest hrest]
  rfl

theorem Lexes.space (hspace : ∀ c ∈ text, isSpace c = true) (h : Lexes more ts) :
    Lexes (text ++ more) ts := by
  intro rest hrest
  induction text with
  | nil => exact h rest hrest
  | cons c cs ih =>
    rw [List.cons_append, List.cons_append, tokens?_cons_space (hspace c List.mem_cons_self)]
    exact ih fun d hd => hspace d (List.mem_cons_of_mem c hd)

/-! ### Strings -/

theorem hexDigit?_hexDigit : ∀ n < 16, hexDigit? (hexDigit n) = some n := by
  decide

theorem readString?_cons {c : Char} (hquote : c ≠ '"') (hbackslash : c ≠ '\\')
    (hcontrol : 0x20 ≤ c.toNat) (units : List StringUnit) (cs : List Char) :
    readString? units (c :: cs) = readString? (.char c :: units) cs := by
  rw [readString?.eq_def]
  split
  case h_5 heq =>
    obtain ⟨rfl, rfl⟩ := List.cons.inj heq
    rw [if_neg]
    rintro (h | h)
    · exact hbackslash h
    · omega
  all_goals simp_all

theorem readString?_escape (c : Char) (units : List StringUnit) (rest : List Char) :
    readString? units (escape c ++ rest) = readString? (.char c :: units) rest := by
  unfold escape
  split
  case h_8 _ hquote hbackslash _ _ _ _ _ =>
    split
    · rename_i hcontrol
      have hhigh := hexDigit?_hexDigit (c.toNat / 16) (by omega)
      have hlow := hexDigit?_hexDigit (c.toNat % 16) (by omega)
      have hcode : hexValue? ['0', '0', hexDigit (c.toNat / 16), hexDigit (c.toNat % 16)] =
          some c.toNat := by
        have hzero : hexDigit? '0' = some 0 := by decide
        simp [hexValue?, hzero, hhigh, hlow]
        omega
      have hunit : StringUnit.ofCode c.toNat = .char c := by
        have hhalf : (StringUnit.isHigh c.toNat || StringUnit.isLow c.toNat) = false := by
          simp [StringUnit.isHigh, StringUnit.isLow]
          omega
        rw [StringUnit.ofCode, if_neg (by simp [hhalf]), Char.ofNat_toNat]
      simp [readString?, hcode, hunit]
    · rename_i hcontrol
      exact readString?_cons hquote hbackslash (Nat.not_lt.mp hcontrol) units rest
  all_goals simp [readString?, escaped?]

theorem readString?_flatMap_escape (cs : List Char) (units : List StringUnit) (rest : List Char) :
    readString? units (cs.flatMap escape ++ '"' :: rest) =
      some (units.reverse ++ cs.map .char, rest) := by
  induction cs generalizing units with
  | nil => simp [readString?]
  | cons c cs ih => rw [List.flatMap_cons, List.append_assoc, readString?_escape, ih]; simp

theorem join?_map_char (cs : List Char) : StringUnit.join? (cs.map .char) = some cs := by
  induction cs with
  | nil => rfl
  | cons c cs ih => rw [List.map_cons, StringUnit.join?, ih]; rfl

theorem lexes_quote (s : String) : Lexes (quote s).toList [.single (.string (some s))] := by
  rw [quote, String.toList_ofList]
  refine .of_firstToken? (by decide) fun rest _ => ?_
  rw [List.append_assoc]
  have hread := readString?_flatMap_escape s.toList [] rest
  simp [firstToken?, hread, join?_map_char]

/-! ### Numbers -/

theorem firstToken?_of_isNumeralChar {c : Char} (h : isNumeralChar c = true) (cs : List Char) :
    firstToken? c cs =
      (Numeral.read? (c :: cs.takeWhile isNumeralChar)).map fun n =>
        (.single (.number n.number?), cs.dropWhile isNumeralChar) := by
  have hne : c ∉ ['[', ']', '\x7b', '\x7d', ':', ',', 'n', 't', 'f', '"'] := by
    intro hin
    have hnone : ∀ d ∈ ['[', ']', '\x7b', '\x7d', ':', ',', 'n', 't', 'f', '"'],
        isNumeralChar d = false := List.all_iff_forall_prop.mp (by decide)
    exact Bool.noConfusion ((hnone c hin).symm.trans h)
  simp only [List.mem_cons, not_or] at hne
  unfold firstToken?
  split
  case h_11 =>
    cases Numeral.read? (c :: cs.takeWhile isNumeralChar) <;> rfl
  all_goals simp_all

theorem isSpace_eq_false_of_isNumeralChar {c : Char} (h : isNumeralChar c = true) :
    isSpace c = false := by
  rw [Bool.eq_false_iff]
  intro hspace
  have hin : c ∈ [' ', '\t', '\n', '\r'] := by
    simpa [isSpace, or_assoc] using hspace
  have hnone : ∀ d ∈ [' ', '\t', '\n', '\r'], isNumeralChar d = false :=
    List.all_iff_forall_prop.mp (by decide)
  exact Bool.noConfusion ((hnone c hin).symm.trans h)

theorem firstToken?_append {c : Char} {cs : List Char}
    (htext : ∀ d ∈ c :: cs, isNumeralChar d = true) (hrest : EndsNumber rest) :
    firstToken? c (cs ++ rest) =
      (Numeral.read? (c :: cs)).map fun n => (.single (.number n.number?), rest) := by
  have htail : ∀ d ∈ cs, isNumeralChar d = true := fun d hd => htext d (List.mem_cons_of_mem c hd)
  have htake : (cs ++ rest).takeWhile isNumeralChar = cs := by
    rw [List.takeWhile_append_of_pos htail]
    cases rest with
    | nil => simp
    | cons d ds => rw [List.takeWhile_cons, hrest d rfl]; simp
  have hdrop : (cs ++ rest).dropWhile isNumeralChar = rest := by
    rw [List.dropWhile_append_of_pos htail]
    cases rest with
    | nil => rfl
    | cons d ds => rw [List.dropWhile_cons, hrest d rfl]; rfl
  rw [firstToken?_of_isNumeralChar (htext c List.mem_cons_self), htake, hdrop]

theorem forall_toDigits_isNumeralChar (n : Nat) :
    ∀ c ∈ Nat.toDigits 10 n, isNumeralChar c = true := by
  intro c hc
  have hdigit : c.isDigit = true := Nat.isDigit_of_mem_toDigits (by decide) (by decide) hc
  simp [isNumeralChar, hdigit]

theorem forall_replicate_isNumeralChar (n : Nat) :
    ∀ c ∈ List.replicate n '0', isNumeralChar c = true := by
  intro c hc
  rw [List.eq_of_mem_replicate hc]
  rfl

theorem forall_write_isNumeralChar (style : Decimal.Style) (d : Decimal.Digits) :
    ∀ c ∈ (style.write d).toList, isNumeralChar c = true := by
  have hdigits := forall_toDigits_isNumeralChar d.digits
  have htake (k : Nat) : ∀ c ∈ (Nat.toDigits 10 d.digits).take k, isNumeralChar c = true :=
    fun c hc => hdigits c (List.mem_of_mem_take hc)
  have hdrop (k : Nat) : ∀ c ∈ (Nat.toDigits 10 d.digits).drop k, isNumeralChar c = true :=
    fun c hc => hdigits c (List.mem_of_mem_drop hc)
  have hpoint : isNumeralChar '.' = true := by decide
  have hzero : isNumeralChar '0' = true := by decide
  simp only [Decimal.Style.write, String.toList_ofList]
  split
  · simp only [List.forall_mem_append]
    refine ⟨⟨⟨⟨htake 1, ?_⟩, ?_⟩, forall_replicate_isNumeralChar _⟩,
      forall_toDigits_isNumeralChar _⟩
    · split
      · nofun
      · exact List.forall_mem_cons.mpr ⟨hpoint, hdrop 1⟩
    · split <;> exact List.all_eq_true.mp (by decide)
  split
  · simp only [List.cons_append, List.forall_mem_cons, List.forall_mem_append]
    exact ⟨hzero, hpoint, forall_replicate_isNumeralChar _, hdigits⟩
  · simp only [List.forall_mem_append]
    refine ⟨⟨⟨htake _, forall_replicate_isNumeralChar _⟩, List.all_eq_true.mp (by decide)⟩, ?_⟩
    split
    · exact List.all_eq_true.mp (by decide)
    · exact hdrop _

theorem forall_print_isNumeralChar (n : Number) : ∀ c ∈ n.print.toList, isNumeralChar c = true := by
  cases n with
  | int value =>
    cases value with
    | ofNat k =>
      show ∀ c ∈ (Nat.repr k).toList, _
      rw [Nat.repr_eq_ofList_toDigits, String.toList_ofList]
      exact forall_toDigits_isNumeralChar k
    | negSucc k =>
      show ∀ c ∈ ("-" ++ Nat.repr (k + 1)).toList, _
      simp only [Nat.repr_eq_ofList_toDigits, String.toList_append, String.toList_ofList]
      exact List.forall_mem_append.mpr
        ⟨List.all_eq_true.mp (by decide), forall_toDigits_isNumeralChar _⟩
  | float value =>
    simp only [Number.print, Decimal.Style.writeFloat, String.toList_append]
    refine List.forall_mem_append.mpr ⟨?_, forall_write_isNumeralChar _ _⟩
    split
    · nofun
    · exact List.all_eq_true.mp (by decide)

def Number.ReadsBack (n : Number) : Prop := parse? (Json.number n).pretty = some (.number n)

theorem lexes_print {n : Number} (h : n.ReadsBack) :
    Lexes n.print.toList [.single (.number (some n))] := by
  have hpretty : (Json.number n).pretty = n.print := rfl
  rw [Number.ReadsBack, hpretty, parse?, source?] at h
  have htext := forall_print_isNumeralChar n
  generalize n.print.toList = text at h htext ⊢
  cases text with
  | nil => simp [tokens?, Reader.start] at h
  | cons c cs =>
    have hspace := isSpace_eq_false_of_isNumeralChar (htext c List.mem_cons_self)
    have hfirst := firstToken?_append htext endsNumber_nil
    rw [List.append_nil] at hfirst
    rw [tokens?_cons hspace, hfirst] at h
    cases hread : Numeral.read? (c :: cs) with
    | none => simp [hread] at h
    | some numeral =>
      have hvalue : numeral.number? = some n := by
        simpa [hread, tokens?, Reader.start, Reader.step, Reader.beginValue, Reader.put,
          Source.keep?, Source.keepWithin] using h
      refine .of_firstToken? hspace fun rest hrest => ?_
      rw [firstToken?_append htext hrest, hread, Option.map_some, hvalue]

end ProseCheck.Json
