import Mathlib.Tactic.Common
import ProseCheck.Proofs.Markdown.Lookahead
import ProseCheck.Markdown.Stripped

/-! # Pieces of well-formed markdown

Prose, code, links, images, tags, comments and emphasis, each with the text it is written as. A
scanner that meets a well-formed piece finds all of it and nothing of what follows.
-/

namespace ProseCheck.Markdown

open Text (blankLine)

def isPlain (c : Char) : Bool := !(['\x60', '*', '_', '<', '[', '!'].contains c)

/-- Texts in which every parenthesis has its partner. -/
inductive Nested : List Char → Prop
  | nil : Nested []
  | char {c : Char} {rest : List Char} : c ≠ '(' → c ≠ ')' → Nested rest → Nested (c :: rest)
  | group {inner rest : List Char} : Nested inner → Nested rest →
      Nested ('(' :: inner ++ ')' :: rest)

structure IsUrl (url : List Char) : Prop where
  nested : Nested url
  no_newline : '\n' ∉ url

theorem isUrl_of_forall_ne {url : List Char} (h : ∀ c ∈ url, c ≠ '(' ∧ c ≠ ')' ∧ c ≠ '\n') :
    IsUrl url where
  nested := by
    induction url with
    | nil => exact .nil
    | cons c cs ih =>
      obtain ⟨hopen, hclose, -⟩ := h c List.mem_cons_self
      exact .char hopen hclose (ih fun d hd => h d (List.mem_cons_of_mem c hd))
  no_newline hin := (h _ hin).2.2 rfl

structure IsLabel (text : List Char) : Prop where
  no_backtick : backtick ∉ text
  no_opening : '[' ∉ text
  no_closing : ']' ∉ text
  no_blankLine : ¬ blankLine <:+: text

def commentEnd : List Char := ['-', '-', '>']

inductive Piece where
  | prose (text : List Char)
  | code (run : Nat) (body : List Char)
  | fence (body : List Char)
  | link (text url : List Char)
  | image (alt url : List Char)
  | tag (first : Char) (body : List Char)
  | comment (body : List Char)
  | emphasis (marker : Char) (run : Nat) (text : List Char)
  deriving DecidableEq, Repr

def linkSource (text url : List Char) : List Char :=
  '[' :: (text ++ ']' :: '(' :: (url ++ [')']))

namespace Piece

def source : Piece → List Char
  | prose text => text
  | code run body => List.replicate run backtick ++ body ++ List.replicate run backtick
  | fence body =>
    List.replicate fenceLength backtick ++ body ++ List.replicate fenceLength backtick
  | link text url => linkSource text url
  | image alt url => '!' :: linkSource alt url
  | tag first body => '<' :: first :: (body ++ ['>'])
  | comment body => commentStart ++ (body ++ commentEnd)
  | emphasis marker run text => List.replicate run marker ++ text ++ List.replicate run marker

def WellFormed : Piece → Prop
  | prose text => text ≠ [] ∧ ∀ c ∈ text, isPlain c = true
  | code run body => (run = 1 ∨ run = 2) ∧ body ≠ [] ∧ backtick ∉ body ∧ '\n' ∉ body
  | fence body => backtick ∉ body
  | link text url =>
    (∀ c ∈ text, isPlain c = true) ∧ ']' ∉ text ∧ ¬ blankLine <:+: text ∧ IsUrl url
  | image alt url => IsLabel alt ∧ IsUrl url
  | tag first body =>
    (first = '/' ∨ first.isAlpha = true) ∧ '<' ∉ body ∧ '>' ∉ body ∧ '\n' ∉ body
  | comment body => ¬ commentEnd <:+: body
  | emphasis marker run text => (marker = '*' ∨ marker = '_') ∧ 1 ≤ run ∧
      (∀ c ∈ text, isPlain c = true) ∧
      text.head?.any Text.isAlphanumeric = true ∧ text.getLast?.any Text.isAlphanumeric = true

def isCode : Piece → Bool
  | code .. | fence _ => true
  | _ => false

/-- Whether the backticks of two neighbours do not run into each other. -/
def Apart (p q : Piece) : Prop := ¬ (p.isCode = true ∧ q.isCode = true)

instance : DecidableRel Apart := fun _ _ => inferInstanceAs (Decidable (¬ _))

/-- What a reader of the document sees of a piece. -/
def rendered : Piece → List Char
  | prose text | link text _ | emphasis _ _ text => text
  | image .. => [placeholder, placeholder]
  | code .. | fence _ | tag .. | comment _ => []

end Piece

variable {text url rest body : List Char} {c : Char}

theorem isPlain_iff : isPlain c = true ↔
    c ≠ backtick ∧ c ≠ '*' ∧ c ≠ '_' ∧ c ≠ '<' ∧ c ≠ '[' ∧ c ≠ '!' := by
  simp [isPlain, backtick]

/-! ### Backticks -/

theorem runLength_replicate_append (n : Nat) (h : rest.head? ≠ some backtick) :
    runLength (List.replicate n backtick ++ rest) = n := by
  induction n with
  | zero =>
    cases rest with
    | nil => rfl
    | cons c cs =>
      rw [List.replicate_zero, List.nil_append, runLength_cons, if_neg (by simpa using h)]
  | succ n ih => rw [List.replicate_succ, List.cons_append, runLength_cons, if_pos rfl, ih]

theorem startsFence_replicate_append (rest : List Char) :
    startsFence (List.replicate fenceLength backtick ++ rest) = true := by
  rw [startsFence_iff]
  simp only [fenceLength, List.replicate, List.cons_append, runLength_cons, if_true]
  omega

theorem startsFence_eq_false (h : c ≠ backtick) (cs : List Char) :
    startsFence (c :: cs) = false := by
  rw [startsFence, runLength_cons, if_neg h]
  rfl

theorem closingRun?_replicate_append (run seen : Nat) (h : rest.head? ≠ some backtick) :
    closingRun? (seen + run) seen (List.replicate run backtick ++ rest) = some run := by
  induction run generalizing seen with
  | zero =>
    cases rest with
    | nil => simp [closingRun?]
    | cons c cs => simp [closingRun?, show c ≠ backtick by simpa using h]
  | succ run ih =>
    have hseen : seen + (run + 1) = seen + 1 + run := by omega
    rw [List.replicate_succ, List.cons_append, closingRun?, if_pos rfl, hseen, ih, Option.map_some]

theorem closingRun?_body_append {run seen : Nat} (hseen : seen ≠ run)
    (hrun : run ≠ 0) (hbacktick : backtick ∉ body) (hnewline : '\n' ∉ body) (hbody : body ≠ []) :
    closingRun? run seen (body ++ rest) = (closingRun? run 0 rest).map (body.length + ·) := by
  induction body generalizing seen with
  | nil => exact absurd rfl hbody
  | cons c cs ih =>
    simp only [List.mem_cons, not_or] at hbacktick hnewline
    rw [List.cons_append, closingRun?, if_neg (Ne.symm hbacktick.1), if_neg hseen,
      if_neg (Ne.symm hnewline.1)]
    cases cs with
    | nil =>
      simp [Nat.add_comm]
    | cons d ds =>
      rw [ih (Ne.symm hrun) hbacktick.2 hnewline.2 (by simp), Option.map_map]
      congr 1
      funext n
      simp only [Function.comp_apply, List.length_cons]
      omega

theorem runLength_code {run : Nat} (hbody : body ≠ []) (hbacktick : backtick ∉ body) :
    runLength ((Piece.code run body).source ++ rest) = run := by
  have hhead : (body ++ (List.replicate run backtick ++ rest)).head? ≠ some backtick := by
    obtain ⟨c, cs, rfl⟩ := List.exists_cons_of_ne_nil hbody
    simp only [List.cons_append, List.head?_cons, ne_eq, Option.some.injEq]
    rintro rfl
    exact hbacktick List.mem_cons_self
  rw [Piece.source, List.append_assoc, List.append_assoc, runLength_replicate_append run hhead]

theorem codeSpan?_code {run : Nat} (hrun : run ≠ 0) (hbody : body ≠ [])
    (hbacktick : backtick ∉ body) (hnewline : '\n' ∉ body) (hrest : rest.head? ≠ some backtick) :
    codeSpan? ((Piece.code run body).source ++ rest) =
      some (Piece.code run body).source.length := by
  have hclose : closingRun? run 0 (List.replicate run backtick ++ rest) = some run := by
    simpa using closingRun?_replicate_append run 0 hrest
  rw [codeSpan?, runLength_code hbody hbacktick]
  simp only [Piece.source, List.append_assoc]
  rw [if_neg hrun, List.drop_left' (by simp),
    closingRun?_body_append (Ne.symm hrun) hrun hbacktick hnewline hbody, hclose]
  simp [Nat.add_comm]

/-! ### Links -/

theorem closeBracket?_label_append (h : IsLabel text) :
    closeBracket? 1 (text ++ ']' :: rest) = some text.length := by
  have hclosing : ']' ≠ backtick := by decide
  induction text with
  | nil => simp [closeBracket?, hclosing]
  | cons c cs ih =>
    obtain ⟨hbacktick, hopening, hnone, hblank⟩ := h
    simp only [List.mem_cons, not_or] at hbacktick hopening hnone
    have hline : ¬ (c = '\n' ∧ (cs ++ ']' :: rest).head? = some '\n') := by
      rintro ⟨rfl, hnext⟩
      cases cs with
      | nil => simp at hnext
      | cons d ds =>
        simp only [List.cons_append, List.head?_cons, Option.some.injEq] at hnext
        subst hnext
        exact hblank ⟨[], ds, rfl⟩
    have hrest : IsLabel cs := ⟨hbacktick.2, hopening.2, hnone.2,
      fun hin => hblank (hin.trans (List.infix_cons List.infix_rfl))⟩
    rw [List.cons_append, closeBracket?, if_neg (Ne.symm hbacktick.1), if_neg (Ne.symm hopening.1),
      if_neg (Ne.symm hnone.1), if_neg hline, ih hrest]
    rfl

theorem isLabel_of_isPlain (htext : ∀ c ∈ text, isPlain c = true) (hclosing : ']' ∉ text)
    (hblank : ¬ blankLine <:+: text) : IsLabel text where
  no_backtick h := absurd (htext _ h) (by decide)
  no_opening h := absurd (htext _ h) (by decide)
  no_closing := hclosing
  no_blankLine := hblank

theorem urlEnd?_nested_append (h : Nested url) (hnewline : '\n' ∉ url) (depth : Nat)
    (rest : List Char) :
    urlEnd? depth (url ++ rest) = (urlEnd? depth rest).map (url.length + ·) := by
  induction h generalizing depth rest with
  | nil => simp
  | @char c cs hopen hclose _ ih =>
    simp only [List.mem_cons, not_or] at hnewline
    rw [List.cons_append, urlEnd?, if_neg hclose, if_neg (Ne.symm hnewline.1), if_neg hopen,
      ih hnewline.2, Option.map_map]
    congr 1
    funext n
    simp only [Function.comp_apply, List.length_cons]
    omega
  | @group inner outer _ _ ih ih' =>
    simp only [List.cons_append, List.mem_cons, List.mem_append, not_or] at hnewline
    have hparens : ('(' : Char) ≠ ')' ∧ ('(' : Char) ≠ '\n' := by decide
    rw [List.cons_append, List.cons_append, List.append_assoc, urlEnd?, if_neg hparens.1,
      if_neg hparens.2, if_pos rfl, ih hnewline.2.1, List.cons_append, urlEnd?, if_pos rfl,
      if_neg (Nat.succ_ne_zero depth), Nat.add_sub_cancel, ih' hnewline.2.2.2, Option.map_map,
      Option.map_map, Option.map_map]
    congr 1
    funext n
    simp only [Function.comp_apply, List.length_cons, List.length_append]
    omega

theorem linkTarget?_linkSource_append (htext : IsLabel text) (hurl : IsUrl url)
    (rest : List Char) :
    linkTarget? (linkSource text url ++ rest) =
      some ⟨text.length + 1, text.length + 3, (linkSource text url).length⟩ := by
  have hsource : linkSource text url ++ rest =
      '[' :: (text ++ ']' :: '(' :: (url ++ ')' :: rest)) := by
    simp [linkSource]
  have hopening : '[' ≠ backtick := by decide
  have hclose : closeBracket? 0 (linkSource text url ++ rest) = some (text.length + 1) := by
    rw [hsource, closeBracket?, if_neg hopening, if_pos rfl, closeBracket?_label_append htext]
    rfl
  have hdrop : (linkSource text url ++ rest).drop (text.length + 1 + 1) =
      '(' :: (url ++ ')' :: rest) := by
    rw [hsource, List.drop_succ_cons, ← List.drop_drop, List.drop_left' rfl]
    rfl
  have hend : urlEnd? 0 (url ++ ')' :: rest) = some (url.length + 1) := by
    rw [urlEnd?_nested_append hurl.nested hurl.no_newline]
    simp [urlEnd?]
  simp only [linkTarget?, hclose, Option.bind_eq_bind, Option.bind_some, hdrop, hend]
  simp only [linkSource, List.length_cons, List.length_append, List.length_nil, pure,
    Option.some.injEq, LinkTarget.mk.injEq, true_and]
  omega

/-! ### Tags -/

theorem tagEnd?_append (hopen : '<' ∉ body) (hclose : '>' ∉ body) (hnewline : '\n' ∉ body) :
    tagEnd? (body ++ '>' :: rest) = some (body.length + 1) := by
  induction body with
  | nil => simp [tagEnd?]
  | cons c cs ih =>
    simp only [List.mem_cons, not_or] at hopen hclose hnewline
    have hline : ¬ (c = '\n' ∨ c = '<') := by
      rintro (rfl | rfl)
      · exact hnewline.1 rfl
      · exact hopen.1 rfl
    rw [List.cons_append, tagEnd?, if_neg (Ne.symm hclose.1), if_neg hline,
      ih hopen.2 hclose.2 hnewline.2]
    rfl

/-- The end of a comment does not start before the body is over, not even with its last dashes. -/
theorem commentEnd?_append (h : ¬ commentEnd <:+: body) :
    commentEnd? (body ++ (commentEnd ++ rest)) = some (body.length + 3) := by
  induction body with
  | nil => rfl
  | cons c cs ih =>
    have hrest : ¬ commentEnd <:+: cs :=
      fun hin => h (hin.trans (List.infix_cons List.infix_rfl))
    have hstep : commentEnd? (c :: (cs ++ (commentEnd ++ rest))) =
        (commentEnd? (cs ++ (commentEnd ++ rest))).map (· + 1) := by
      refine commentEnd?.eq_3 c _ ?_
      rintro tail rfl htail
      match cs with
      | [] => simp [commentEnd] at htail
      | [d] => simp [commentEnd] at htail
      | d :: e :: es =>
        simp only [List.cons_append, List.cons.injEq] at htail
        obtain ⟨rfl, rfl, -⟩ := htail
        exact h ⟨[], es, rfl⟩
    rw [List.cons_append, hstep, ih hrest]
    rfl

theorem html?_comment (h : ¬ commentEnd <:+: body) (rest : List Char) :
    html? ((Piece.comment body).source ++ rest) = some (Piece.comment body).source.length := by
  have hsource : (Piece.comment body).source ++ rest =
      '<' :: '!' :: '-' :: '-' :: (body ++ (commentEnd ++ rest)) := by
    simp [Piece.source, commentStart]
  rw [hsource, html?, commentEnd?_append h]
  simp [Piece.source, commentStart, commentEnd]
  omega

theorem html?_tag {first : Char} (hfirst : first = '/' ∨ first.isAlpha = true)
    (hopen : '<' ∉ body) (hclose : '>' ∉ body) (hnewline : '\n' ∉ body) (rest : List Char) :
    html? ((Piece.tag first body).source ++ rest) = some (Piece.tag first body).source.length := by
  have hsource : (Piece.tag first body).source ++ rest =
      '<' :: first :: (body ++ '>' :: rest) := by
    simp [Piece.source]
  have hcomment : ¬ commentStart <+: '<' :: first :: (body ++ '>' :: rest) := by
    rw [commentStart, List.cons_prefix_cons, List.cons_prefix_cons]
    rintro ⟨-, rfl, -⟩
    revert hfirst
    decide
  rw [hsource, html?_of_not_comment hcomment, if_pos hfirst, tagEnd?_append hopen hclose hnewline]
  simp [Piece.source]
  omega

end ProseCheck.Markdown
