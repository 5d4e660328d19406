import Mathlib.Tactic.Common
import ProseCheck.Markdown.Html
import ProseCheck.Markdown.Link
import ProseCheck.Proofs.Markdown.Backtick

/-! # Where links and tags end

The parts of a link lie in the text in their order. A link ends with a parenthesis and a tag or
comment with an angle bracket, so neither ends in a run of backticks.
-/

namespace ProseCheck.Markdown

variable {text : List Char} {depth n : Nat}

theorem drop_cons_of_pos {α : Type} (c : α) (cs : List α) (h : 0 < n) :
    (c :: cs).drop n = cs.drop (n - 1) := by
  cases n with
  | zero => omega
  | succ n => simp

theorem getElem?_add_of_drop {α : Type} {xs ys : List α} {k : Nat} (h : xs.drop k = ys) (m : Nat) :
    xs[k + m]? = ys[m]? := by
  rw [← h, List.getElem?_drop]

theorem drop_succ_of_drop {α : Type} {x : α} {xs ys : List α} {k : Nat} (h : xs.drop k = x :: ys) :
    xs.drop (k + 1) = ys := by
  simpa using congrArg List.tail h

theorem drop_add_of_drop {α : Type} {x : α} {xs ys : List α} {k m : Nat}
    (h : xs.drop k = x :: ys) (hm : 0 < m) : xs.drop (k + m) = ys.drop (m - 1) := by
  rw [← drop_cons_of_pos x ys hm, ← h, List.drop_drop]

theorem length_of_drop {α : Type} {x : α} {xs ys : List α} {k : Nat} (h : xs.drop k = x :: ys) :
    xs.length = k + ys.length + 1 := by
  have := congrArg List.length h
  simp only [List.length_drop, List.length_cons] at this
  omega

theorem getElem?_last_of_drop {α : Type} {xs : List α} {x : α} {k m : Nat} (hm : 0 < m)
    (h : (xs.drop k)[m - 1]? = some x) : xs[k + m - 1]? = some x := by
  rwa [List.getElem?_drop, ← Nat.add_sub_assoc hm] at h

theorem closeBracket?_spec (h : closeBracket? depth text = some n) : text[n]? = some ']' := by
  fun_induction closeBracket? depth text generalizing n with
  | case1 => simp at h
  | case2 depth cs k =>
    rename_i ih
    have hpos : 0 < k := codeLength_pos (by simp)
    obtain ⟨m, hm, rfl⟩ := Option.map_eq_some_iff.mp h
    have hn := ih hm
    rwa [← drop_cons_of_pos backtick cs hpos, List.getElem?_drop] at hn
  | case3 depth cs _ ih =>
    obtain ⟨m, hm, rfl⟩ := Option.map_eq_some_iff.mp h
    simpa using ih hm
  | case4 depth cs =>
    obtain rfl : n = 0 := by simpa using h.symm
    rfl
  | case5 depth cs _ _ _ ih =>
    obtain ⟨m, hm, rfl⟩ := Option.map_eq_some_iff.mp h
    simpa using ih hm
  | case6 => simp at h
  | case7 depth c cs _ _ _ _ ih =>
    obtain ⟨m, hm, rfl⟩ := Option.map_eq_some_iff.mp h
    simpa using ih hm

theorem urlEnd?_spec (h : urlEnd? depth text = some n) :
    0 < n ∧ n ≤ text.length ∧ text[n - 1]? = some ')' := by
  induction text generalizing depth n with
  | nil => simp [urlEnd?] at h
  | cons c cs ih =>
    have step {d m : Nat} (hm : urlEnd? d cs = some m) :
        0 < m + 1 ∧ m + 1 ≤ (c :: cs).length ∧ (c :: cs)[m + 1 - 1]? = some ')' := by
      obtain ⟨hpos, hle, hlast⟩ := ih hm
      refine ⟨by omega, by simpa using hle, ?_⟩
      rw [Nat.add_sub_cancel, List.getElem?_cons, if_neg (Nat.ne_of_gt hpos), hlast]
    rw [urlEnd?] at h
    split at h
    · rename_i hc
      split at h
      · obtain rfl : n = 1 := by simpa using h.symm
        simp [hc]
      · obtain ⟨m, hm, rfl⟩ := Option.map_eq_some_iff.mp h
        exact step hm
    · split at h
      · simp at h
      · obtain ⟨m, hm, rfl⟩ := Option.map_eq_some_iff.mp h
        exact step hm

/-- Where the parts of a link are. -/
structure LinkTarget.In (t : LinkTarget) (text : List Char) : Prop where
  closeBracket_eq : text[t.closeBracket]? = some ']'
  urlStart_eq : t.urlStart = t.closeBracket + 2
  urlStart_lt : t.urlStart < t.finish
  finish_le : t.finish ≤ text.length
  last_eq : text[t.finish - 1]? = some ')'

theorem linkTarget?_eq_some_iff {t : LinkTarget} : linkTarget? text = some t ↔
    ∃ close url n, closeBracket? 0 text = some close ∧ text.drop (close + 1) = '(' :: url ∧
      urlEnd? 0 url = some n ∧ ⟨close, close + 2, close + 2 + n⟩ = t := by
  rw [linkTarget?, Option.bind_eq_bind, Option.bind_eq_some_iff]
  constructor
  · rintro ⟨close, hclose, h⟩
    split at h
    next url hurl =>
      obtain ⟨n, hn, h⟩ := Option.bind_eq_some_iff.mp h
      exact ⟨close, url, n, hclose, hurl, hn, Option.some.inj h⟩
    next => cases h
  · rintro ⟨close, url, n, hclose, hurl, hn, rfl⟩
    refine ⟨close, hclose, ?_⟩
    simp only [hurl]
    exact Option.bind_eq_some_iff.mpr ⟨n, hn, rfl⟩

theorem linkTarget?_spec {t : LinkTarget} (h : linkTarget? text = some t) : t.In text := by
  obtain ⟨close, url, length, hclose, hurl, hlength, rfl⟩ := linkTarget?_eq_some_iff.mp h
  obtain ⟨hpos, hle, hlast⟩ := urlEnd?_spec hlength
  have hdrop : text.drop (close + 2) = url := drop_succ_of_drop hurl
  have hlen : url.length = text.length - (close + 2) := by rw [← hdrop, List.length_drop]
  refine ⟨closeBracket?_spec hclose, rfl, by simpa, ?_, ?_⟩
  · show close + 2 + length ≤ text.length
    omega
  · exact getElem?_last_of_drop hpos (hdrop ▸ hlast)

theorem tagEnd?_spec (h : tagEnd? text = some n) :
    0 < n ∧ n ≤ text.length ∧ text[n - 1]? = some '>' := by
  induction text generalizing n with
  | nil => simp [tagEnd?] at h
  | cons c cs ih =>
    rw [tagEnd?] at h
    split at h
    · rename_i hc
      obtain rfl : n = 1 := by simpa using h.symm
      simp [hc]
    · split at h
      · simp at h
      · obtain ⟨m, hm, rfl⟩ := Option.map_eq_some_iff.mp h
        obtain ⟨hpos, hle, hlast⟩ := ih hm
        refine ⟨by omega, by simpa using hle, ?_⟩
        rw [Nat.add_sub_cancel, List.getElem?_cons, if_neg (Nat.ne_of_gt hpos), hlast]

theorem commentEnd?_spec (h : commentEnd? text = some n) :
    0 < n ∧ n ≤ text.length ∧ text[n - 1]? = some '>' := by
  fun_induction commentEnd? text generalizing n with
  | case1 => simp at h
  | case2 cs =>
    obtain rfl : n = 3 := by simpa using h.symm
    simp
  | case3 c cs _ ih =>
    obtain ⟨m, hm, rfl⟩ := Option.map_eq_some_iff.mp h
    obtain ⟨hpos, hle, hlast⟩ := ih hm
    refine ⟨by omega, by simpa using hle, ?_⟩
    rw [Nat.add_sub_cancel, List.getElem?_cons, if_neg (Nat.ne_of_gt hpos), hlast]

theorem html?_spec (h : html? text = some n) :
    0 < n ∧ n ≤ text.length ∧ text[n - 1]? = some '>' := by
  fun_cases html? text with
  | case1 rest =>
    obtain ⟨m, hm, rfl⟩ := Option.map_eq_some_iff.mp h
    obtain ⟨hpos, hle, hlast⟩ := commentEnd?_spec hm
    exact ⟨by omega, by simp; omega, getElem?_last_of_drop (k := 4) hpos hlast⟩
  | case2 c rest _ hc =>
    rw [html?.eq_2 _ _ ‹_›, if_pos hc] at h
    obtain ⟨m, hm, rfl⟩ := Option.map_eq_some_iff.mp h
    obtain ⟨hpos, hle, hlast⟩ := tagEnd?_spec hm
    exact ⟨by omega, by simp; omega, getElem?_last_of_drop (k := 2) hpos hlast⟩
  | case3 c rest _ hc =>
    rw [html?.eq_2 _ _ ‹_›, if_neg hc] at h
    simp at h
  | case4 => simp_all [html?]

end ProseCheck.Markdown
