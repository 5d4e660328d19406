import Mathlib.Data.Bool.AllAny
import Mathlib.Tactic.Common
import ProseCheck.Proofs.Markdown.Paragraph
import ProseCheck.Proofs.Markdown.Piece

/-! # Rendering well-formed markdown

Between two pieces the reading of a document is outside of fences and links. From there it goes
through a well-formed piece as a whole and keeps what is to be seen of it, so a document is rendered
piece by piece.
-/

namespace ProseCheck.Markdown

variable {cur : Cursor} {text url body rest : List Char} {c : Char} {cs : List Char}

def keptAt (offset : Nat) (text : List Char) : List Kept :=
  (text.zipIdx offset).map fun (c, i) => ⟨c, i⟩

theorem keptAt_cons (offset : Nat) (c : Char) (cs : List Char) :
    keptAt offset (c :: cs) = ⟨c, offset⟩ :: keptAt (offset + 1) cs := by
  simp [keptAt]

theorem map_char_keptAt (offset : Nat) (text : List Char) :
    (keptAt offset text).map (·.char) = text := by
  induction text generalizing offset with
  | nil => rfl
  | cons c cs ih => rw [keptAt_cons, List.map_cons, ih]

def Piece.kept (offset : Nat) : Piece → List Kept
  | prose text => keptAt offset text
  | link text _ => keptAt (offset + 1) text
  | emphasis _ run text => keptAt (offset + run) text
  | image alt _ => [⟨placeholder, offset⟩, ⟨placeholder, offset + alt.length + 4⟩]
  | code .. | fence _ | tag .. | comment _ => []

theorem Piece.map_char_kept (p : Piece) (offset : Nat) :
    (p.kept offset).map (·.char) = p.rendered := by
  cases p <;> simp [Piece.kept, Piece.rendered, map_char_keptAt]

def written (ps : List Piece) : List Char := ps.flatMap Piece.source

def keptOf (offset : Nat) : List Piece → List Kept
  | [] => []
  | p :: ps => p.kept offset ++ keptOf (offset + p.source.length) ps

namespace Cursor

structure Clear (cur : Cursor) : Prop where
  unfenced : cur.fenced = false
  unlinked : cur.openLink = none

theorem clear_atStart : atStart.Clear := ⟨rfl, rfl⟩

/-- The cursor behind a text that opens and closes nothing. -/
def past (cur : Cursor) (text : List Char) : Cursor :=
  { cur with offset := cur.offset + text.length, before := text.getLast?.or cur.before }

theorem past_nil (cur : Cursor) : cur.past [] = cur := by
  simp [past]

theorem past_cons (cur : Cursor) (c : Char) (cs : List Char) :
    cur.past (c :: cs) =
      { cur with offset := cur.offset + 1, before := some c : Cursor }.past cs := by
  simp only [past, List.length_cons, List.getLast?_cons, mk.injEq, and_true]
  refine ⟨by omega, ?_⟩
  cases cs.getLast? <;> rfl

theorem openLink_past (cur : Cursor) (text : List Char) :
    (cur.past text).openLink =
      cur.openLink.filter fun t => cur.offset + text.length ≤ t.closeBracket := by
  rw [openLink, openLink, Option.filter_filter]
  congr 1
  ext t
  rw [← Bool.decide_and, decide_eq_decide]
  simp only [past]
  omega

theorem Clear.past (h : cur.Clear) (text : List Char) : (cur.past text).Clear where
  unfenced := h.unfenced
  unlinked := openLink_eq_none_of_le h.unlinked rfl (Nat.le_add_right ..)

theorem Clear.after (h : cur.Clear) {k : Construct} (hfence : k ≠ .fence)
    (hlink : ∀ t, k ≠ .linkStart t) (text : List Char) : (cur.after k text).Clear where
  unfenced := by
    simp only [Cursor.after, if_neg hfence]
    exact h.unfenced
  unlinked := by
    rw [openLink_after cur hlink, h.unlinked]
    rfl

/-! ### Constructs -/

theorem read_construct (cs : List Char) {k : Construct} (hk : cur.construct c (cs ++ rest) = k)
    (hwidth : k.width = (c :: cs).length) :
    cur.read (c :: cs ++ rest) =
      k.kept cur.offset c ++ (cur.after k (c :: cs ++ rest)).read rest := by
  rw [List.cons_append, Cursor.read, hk, hwidth, List.length_cons, Nat.add_sub_cancel,
    List.drop_left' rfl]

theorem construct_plain (hc : isPlain c = true) (hfenced : cur.fenced = false)
    (hlink : ∀ t, cur.openLink = some t → cur.offset ≠ t.closeBracket) :
    cur.construct c cs = .plain := by
  obtain ⟨hb, hstar, hunder, hangle, hopen, hbang⟩ := isPlain_iff.mp hc
  have hhtml : html? (c :: cs) = none := html?_of_head_ne hangle
  have hend : cur.openLink.filter (cur.offset = ·.closeBracket) = none := by
    rw [Option.filter_eq_none_iff]
    intro t ht
    simpa using hlink t ht
  rw [openLink] at hend
  simp [construct, startsFence_eq_false hb, hfenced, hb, hend, hstar, hunder, hopen, hbang, hhtml]

theorem construct_fence (h : startsFence (c :: cs) = true) : cur.construct c cs = .fence := by
  simp [construct, h]

theorem construct_fenced (hc : c ≠ backtick) (hfenced : cur.fenced = true) :
    cur.construct c cs = .fenced := by
  simp [construct, startsFence_eq_false hc, hfenced]

theorem construct_code {n : Nat} (hfenced : cur.fenced = false)
    (hfence : startsFence (backtick :: cs) = false)
    (hspan : codeSpan? (backtick :: cs) = some n) : cur.construct backtick cs = .code n := by
  simp [construct, hfence, hfenced, hspan]

theorem construct_linkEnd {t : LinkTarget} (hfenced : cur.fenced = false)
    (hlink : cur.openLink = some t) (hat : cur.offset = t.closeBracket) :
    cur.construct ']' cs = .linkEnd (t.finish - cur.offset) := by
  have hb : ']' ≠ backtick := by decide
  have hend : cur.openLink.filter (cur.offset = ·.closeBracket) = some t := by
    rw [hlink, Option.filter_some, decide_eq_true hat]
    rfl
  rw [openLink] at hend
  simp [construct, startsFence_eq_false hb, hfenced, hb, hend]

theorem Clear.construct_linkStart (h : cur.Clear) {t : LinkTarget}
    (ht : linkTarget? ('[' :: cs) = some t) : cur.construct '[' cs = .linkStart t := by
  have hb : '[' ≠ backtick := by decide
  have hlink := h.unlinked
  rw [openLink] at hlink
  simp [construct, startsFence_eq_false hb, h.unfenced, hb, hlink, ht]

theorem Clear.construct_image (h : cur.Clear) {t : LinkTarget} (hnext : cs.head? = some '[')
    (ht : linkTarget? cs = some t) : cur.construct '!' cs = .image t := by
  have hb : '!' ≠ backtick := by decide
  have hlink := h.unlinked
  rw [openLink] at hlink
  simp [construct, startsFence_eq_false hb, h.unfenced, hb, hlink, hnext, ht]

theorem Clear.construct_marker (h : cur.Clear) (hc : c = '*' ∨ c = '_')
    (hword : cur.before.any touchesWord = true ∨ cs.head?.any touchesWord = true) :
    cur.construct c cs = .marker := by
  have hb : c ≠ backtick := by rcases hc with rfl | rfl <;> decide
  have hlink := h.unlinked
  rw [openLink] at hlink
  rcases hc with rfl | rfl <;>
    simp [construct, startsFence_eq_false hb, h.unfenced, hb, hlink, hword]

theorem Clear.construct_html (h : cur.Clear) {n : Nat} (hn : html? ('<' :: cs) = some n) :
    cur.construct '<' cs = .html n := by
  have hb : '<' ≠ backtick := by decide
  have hlink := h.unlinked
  rw [openLink] at hlink
  simp [construct, startsFence_eq_false hb, h.unfenced, hb, hlink, hn]

/-! ### Runs of one construct -/

theorem read_plain (htext : ∀ c ∈ text, isPlain c = true) (hfenced : cur.fenced = false)
    (hlink : ∀ t, cur.openLink = some t → cur.offset + text.length ≤ t.closeBracket)
    (rest : List Char) :
    cur.read (text ++ rest) = keptAt cur.offset text ++ (cur.past text).read rest := by
  induction text generalizing cur with
  | nil => rw [past_nil]; rfl
  | cons c cs ih =>
    have hconstruct : cur.construct c (cs ++ rest) = .plain := by
      refine construct_plain (htext c List.mem_cons_self) hfenced fun t ht => ?_
      have := hlink t ht
      rw [List.length_cons] at this
      omega
    let next : Cursor := { cur with offset := cur.offset + 1, before := some c }
    have hnext : ∀ t, next.openLink = some t → next.offset + cs.length ≤ t.closeBracket := by
      intro t ht
      have hlast : (cur.past [c]).openLink = some t := ht
      rw [openLink_past, Option.filter_eq_some_iff] at hlast
      have := hlink t hlast.1
      simp only [List.length_cons, next] at this ⊢
      omega
    have hrest : next.read (cs ++ rest) = keptAt next.offset cs ++ (next.past cs).read rest :=
      ih (fun x hx => htext x (List.mem_cons_of_mem c hx)) hfenced hnext
    rw [List.cons_append, Cursor.read, hconstruct, keptAt_cons, past_cons]
    exact congrArg _ hrest

theorem read_fenced (htext : backtick ∉ text) (hfenced : cur.fenced = true) (rest : List Char) :
    cur.read (text ++ rest) = (cur.past text).read rest := by
  induction text generalizing cur with
  | nil => rw [past_nil]; rfl
  | cons c cs ih =>
    simp only [List.mem_cons, not_or] at htext
    let next : Cursor := { cur with offset := cur.offset + 1, before := some c }
    have hrest : next.read (cs ++ rest) = (next.past cs).read rest := ih htext.2 hfenced
    rw [List.cons_append, Cursor.read, construct_fenced (Ne.symm htext.1) hfenced, past_cons]
    exact hrest

theorem Clear.read_markers (h : cur.Clear) (hc : c = '*' ∨ c = '_') (n : Nat)
    (hword : cur.before.any touchesWord = true ∨ rest.head?.any touchesWord = true) :
    cur.read (List.replicate n c ++ rest) = (cur.past (List.replicate n c)).read rest := by
  have hmarker : touchesWord c = true := by rcases hc with rfl | rfl <;> decide
  induction n generalizing cur with
  | zero => rw [List.replicate_zero, past_nil]; rfl
  | succ n ih =>
    have hnext : cur.before.any touchesWord = true ∨
        (List.replicate n c ++ rest).head?.any touchesWord = true := by
      cases n with
      | zero => exact hword
      | succ n => exact Or.inr hmarker
    have hclear : Clear { cur with offset := cur.offset + 1, before := some c } := h.past [c]
    rw [List.replicate_succ, List.cons_append, Cursor.read, h.construct_marker hc hnext, past_cons]
    exact ih hclear (Or.inl hmarker)

end Cursor

/-! ### Pieces -/

/-- The reading goes through `text` in front of `rest`, keeps `kept` of it, and is clear again. -/
def Cursor.Reads (cur : Cursor) (text rest : List Char) (kept : List Kept) : Prop :=
  ∃ next : Cursor, next.Clear ∧ next.offset = cur.offset + text.length ∧
    cur.read (text ++ rest) = kept ++ next.read rest

theorem Cursor.reads_linkEnd {t : LinkTarget} {tail : List Char} (hfenced : cur.fenced = false)
    (hlink : cur.openLink = some t) (hat : cur.offset = t.closeBracket)
    (hfinish : t.finish = cur.offset + (']' :: tail).length) (rest : List Char) :
    cur.Reads (']' :: tail) rest [] := by
  let k : Construct := .linkEnd (t.finish - cur.offset)
  have hconstruct : cur.construct ']' (tail ++ rest) = k := construct_linkEnd hfenced hlink hat
  have hwidth : k.width = (']' :: tail).length := by
    show t.finish - cur.offset = _
    rw [hfinish, Nat.add_sub_cancel_left]
  refine ⟨cur.after k (']' :: tail ++ rest), ⟨hfenced, ?_⟩, ?_,
    read_construct tail hconstruct hwidth⟩
  · rw [openLink_after _ (by simp [k]), hlink, Option.filter_some, hwidth, hat, decide_eq_false]
    · rfl
    · simp
  · rw [offset_after, hwidth]

namespace Cursor.Clear

theorem reads_construct (h : cur.Clear) {k : Construct} (hfence : k ≠ .fence)
    (hlink : ∀ t, k ≠ .linkStart t) (hk : cur.construct c (cs ++ rest) = k)
    (hwidth : k.width = (c :: cs).length) :
    cur.Reads (c :: cs) rest (k.kept cur.offset c) :=
  ⟨_, h.after hfence hlink _, by rw [offset_after, hwidth], read_construct _ hk hwidth⟩

theorem reads_prose (h : cur.Clear) (htext : ∀ c ∈ text, isPlain c = true) (rest : List Char) :
    cur.Reads text rest (keptAt cur.offset text) :=
  ⟨cur.past text, h.past text, rfl, read_plain htext h.unfenced (by simp [h.unlinked]) rest⟩

theorem reads_code (h : cur.Clear) {run : Nat} (hp : (Piece.code run body).WellFormed)
    (hrest : rest.head? ≠ some backtick) : cur.Reads (Piece.code run body).source rest [] := by
  obtain ⟨hrun, hbody, hbacktick, hnewline⟩ := hp
  have hpos : run ≠ 0 := by omega
  have hspan := codeSpan?_code hpos hbody hbacktick hnewline hrest
  have hfence : startsFence ((Piece.code run body).source ++ rest) = false := by
    rw [startsFence, runLength_code hbody hbacktick, decide_eq_false_iff_not, fenceLength]
    omega
  obtain ⟨n, rfl⟩ := Nat.exists_eq_succ_of_ne_zero hpos
  obtain ⟨cs, hcs⟩ : ∃ cs, (Piece.code (n + 1) body).source = backtick :: cs := ⟨_, rfl⟩
  rw [hcs] at hspan hfence ⊢
  exact h.reads_construct (by simp) (by simp) (construct_code h.unfenced hfence hspan) rfl

theorem reads_fence (h : cur.Clear) (hbody : backtick ∉ body) (rest : List Char) :
    cur.Reads (Piece.fence body).source rest [] := by
  let mark := List.replicate fenceLength backtick
  have hmark (cur : Cursor) (rest : List Char) :
      cur.read (mark ++ rest) = (cur.after .fence (mark ++ rest)).read rest :=
    read_construct _ (construct_fence (startsFence_replicate_append rest)) rfl
  let inside := (cur.after .fence (mark ++ (body ++ (mark ++ rest)))).past body
  have hinside : inside.fenced = true := by
    show (if Construct.fence = .fence then !cur.fenced else cur.fenced) = true
    rw [if_pos rfl, h.unfenced]
    rfl
  have hoffset : inside.offset = cur.offset + fenceLength + body.length := rfl
  refine ⟨inside.after .fence (mark ++ rest), ⟨?_, ?_⟩, ?_, ?_⟩
  · show (if Construct.fence = .fence then !inside.fenced else inside.fenced) = false
    rw [if_pos rfl, hinside]
    rfl
  · refine openLink_eq_none_of_le h.unlinked rfl ?_
    rw [offset_after, hoffset]
    omega
  · rw [offset_after, hoffset]
    simp [Piece.source, Construct.width]
    omega
  · have hfenced : (cur.after .fence (mark ++ (body ++ (mark ++ rest)))).fenced = true := hinside
    simp only [Piece.source, List.append_assoc, List.nil_append]
    rw [hmark, read_fenced hbody hfenced, hmark]

theorem reads_link (h : cur.Clear) (hp : (Piece.link text url).WellFormed) (rest : List Char) :
    cur.Reads (Piece.link text url).source rest (keptAt (cur.offset + 1) text) := by
  obtain ⟨htext, hclosing, hblank, hurl⟩ := hp
  have htarget := linkTarget?_linkSource_append (isLabel_of_isPlain htext hclosing hblank) hurl rest
  let target : LinkTarget := ⟨text.length + 1, text.length + 3, (linkSource text url).length⟩
  let tail := '(' :: (url ++ [')'])
  have hsource : linkSource text url ++ rest = '[' :: (text ++ ']' :: (tail ++ rest)) := by
    simp [linkSource, tail]
  rw [hsource] at htarget
  have hstart := read_construct [] (h.construct_linkStart htarget) rfl
  let inside := cur.after (.linkStart target) ('[' :: (text ++ ']' :: (tail ++ rest)))
  have hinside : inside.openLink = some (target.shift cur.offset) := by
    rw [openLink_after_linkStart, if_pos (Nat.succ_pos _)]
  have hunfenced : inside.fenced = false ∧ (inside.past text).fenced = false :=
    ⟨h.unfenced, h.unfenced⟩
  have htext' := read_plain htext hunfenced.1
    (by
      rw [hinside]
      rintro t ⟨⟩
      show cur.offset + 1 + text.length ≤ text.length + 1 + cur.offset
      omega)
    (']' :: (tail ++ rest))
  let last := inside.past text
  have hlast : last.openLink = some (target.shift cur.offset) := by
    rw [openLink_past, hinside, Option.filter_some, decide_eq_true]
    · rfl
    · show cur.offset + 1 + text.length ≤ text.length + 1 + cur.offset
      omega
  have hat : last.offset = (target.shift cur.offset).closeBracket := by
    show cur.offset + 1 + text.length = text.length + 1 + cur.offset
    omega
  have hfinish : (target.shift cur.offset).finish = last.offset + (']' :: tail).length := by
    rw [hat]
    simp [target, LinkTarget.shift, linkSource, tail]
    omega
  obtain ⟨next, hnext, hoffset, hend⟩ := reads_linkEnd hunfenced.2 hlast hat hfinish rest
  refine ⟨next, hnext, ?_, ?_⟩
  · rw [hoffset, ← hfinish]
    exact Nat.add_comm ..
  · rw [Piece.source, hsource]
    exact hstart.trans (htext'.trans (congrArg _ hend))

theorem reads_image (h : cur.Clear) (hp : (Piece.image text url).WellFormed) (rest : List Char) :
    cur.Reads (Piece.image text url).source rest ((Piece.image text url).kept cur.offset) := by
  obtain ⟨htext, hurl⟩ := hp
  have htarget := linkTarget?_linkSource_append htext hurl rest
  have hread := h.reads_construct (by simp) (by simp) (h.construct_image rfl htarget) rfl
  have hsecond : cur.offset + 1 + (text.length + 3) = cur.offset + text.length + 4 := by omega
  rw [Construct.kept, hsecond] at hread
  exact hread

theorem reads_html (h : cur.Clear) (hhtml : html? ('<' :: cs ++ rest) = some ('<' :: cs).length) :
    cur.Reads ('<' :: cs) rest [] :=
  h.reads_construct (by simp) (by simp) (h.construct_html hhtml) rfl

theorem reads_emphasis (h : cur.Clear) {marker : Char} {run : Nat}
    (hp : (Piece.emphasis marker run text).WellFormed) (rest : List Char) :
    cur.Reads (Piece.emphasis marker run text).source rest (keptAt (cur.offset + run) text) := by
  obtain ⟨hmarker, -, htext, hfirst, hlast⟩ := hp
  have hword {o : Option Char} (ho : o.any Text.isAlphanumeric = true) :
      o.any touchesWord = true := by
    cases o with
    | none => exact ho
    | some c => simpa [touchesWord] using Or.inr ho
  let marks := List.replicate run marker
  let inside := cur.past marks
  let behind := inside.past text
  have hopen : cur.read (marks ++ (text ++ (marks ++ rest))) =
      inside.read (text ++ (marks ++ rest)) := by
    refine h.read_markers hmarker run (Or.inr ?_)
    cases text with
    | nil => simp at hfirst
    | cons c cs => exact hword hfirst
  have hinside : inside.Clear := h.past marks
  have hplain := read_plain htext hinside.unfenced (by simp [hinside.unlinked]) (marks ++ rest)
  have hbehind : behind.Clear := hinside.past text
  have hclose : behind.read (marks ++ rest) = (behind.past marks).read rest := by
    refine hbehind.read_markers hmarker run (Or.inl ?_)
    show (text.getLast?.or inside.before).any touchesWord = true
    cases hl : text.getLast? with
    | none => simp [hl] at hlast
    | some c =>
      rw [hl] at hlast
      exact hword hlast
  have hoffset : inside.offset = cur.offset + run := by
    simp [inside, Cursor.past, marks]
  refine ⟨behind.past marks, hbehind.past marks, ?_, ?_⟩
  · simp [behind, inside, Cursor.past, marks, Piece.source]
    omega
  · rw [hclose, hoffset] at hplain
    rw [Piece.source, List.append_assoc, List.append_assoc]
    exact hopen.trans hplain

/-- The reading goes through a well-formed piece, whatever follows it. -/
theorem reads_piece (h : cur.Clear) {p : Piece} (hp : p.WellFormed)
    (hrest : p.isCode = true → rest.head? ≠ some backtick) :
    cur.Reads p.source rest (p.kept cur.offset) := by
  cases p with
  | prose text => exact h.reads_prose hp.2 rest
  | code run body => exact h.reads_code hp (hrest rfl)
  | fence body => exact h.reads_fence hp rest
  | link text url => exact h.reads_link hp rest
  | image alt url => exact h.reads_image hp rest
  | tag first body =>
    obtain ⟨hfirst, hopen, hclose, hnewline⟩ := hp
    exact h.reads_html (html?_tag hfirst hopen hclose hnewline rest)
  | comment body => exact h.reads_html (html?_comment hp rest)
  | emphasis marker run text => exact h.reads_emphasis hp rest

end Cursor.Clear

/-! ### Documents -/

theorem Piece.WellFormed.head?_ne {p : Piece} (hp : p.WellFormed) (hcode : p.isCode = false)
    (rest : List Char) : (p.source ++ rest).head? ≠ some backtick := by
  cases p with
  | code run body => exact absurd hcode (by simp [isCode])
  | fence body => exact absurd hcode (by simp [isCode])
  | prose text =>
    obtain ⟨hne, htext⟩ := hp
    obtain ⟨c, cs, rfl⟩ := List.exists_cons_of_ne_nil hne
    simpa [source] using (isPlain_iff.mp (htext c List.mem_cons_self)).1
  | emphasis marker run text =>
    obtain ⟨hmarker, hrun, -⟩ := hp
    obtain ⟨n, rfl⟩ := Nat.exists_eq_add_of_lt hrun
    rcases hmarker with rfl | rfl <;> simp [source, List.replicate_succ, backtick]
  | link text url => simp [source, linkSource, backtick]
  | image alt url => simp [source, backtick]
  | tag first body => simp [source, backtick]
  | comment body => simp [source, commentStart, backtick]

theorem Cursor.Clear.read_written {ps : List Piece} (h : cur.Clear)
    (hps : ∀ p ∈ ps, p.WellFormed) (hapart : ps.IsChain Piece.Apart) :
    cur.read (written ps) = keptOf cur.offset ps := by
  induction ps generalizing cur with
  | nil => simp [written, keptOf, Cursor.read]
  | cons p ps ih =>
    have hrest : p.isCode = true → (written ps).head? ≠ some backtick := by
      intro hcode
      cases ps with
      | nil => simp [written]
      | cons q qs =>
        have hq : q.isCode = false := by
          have := (List.isChain_cons_cons.mp hapart).1
          simpa [Piece.Apart, hcode] using this
        exact (hps q (by simp)).head?_ne hq _
    obtain ⟨next, hnext, hoffset, hread⟩ := h.reads_piece (hps p List.mem_cons_self) hrest
    rw [written, List.flatMap_cons, ← written, hread, keptOf, ← hoffset,
      ih hnext (fun q hq => hps q (List.mem_cons_of_mem p hq)) hapart.of_cons]

theorem map_char_keptOf (offset : Nat) (ps : List Piece) :
    (keptOf offset ps).map (·.char) = ps.flatMap Piece.rendered := by
  induction ps generalizing offset with
  | nil => rfl
  | cons p ps ih => rw [keptOf, List.map_append, p.map_char_kept, ih, List.flatMap_cons]

/-- A document of well-formed pieces is rendered piece by piece, and each character that is kept
comes from where it stands in its piece. -/
theorem strip_written {ps : List Piece} (hps : ∀ p ∈ ps, p.WellFormed)
    (hapart : ps.IsChain Piece.Apart) :
    (strip (written ps)).text = ps.flatMap Piece.rendered ∧
      (strip (written ps)).kept = keptOf 0 ps := by
  have hkept : (strip (written ps)).kept = keptOf 0 ps :=
    Cursor.clear_atStart.read_written hps hapart
  exact ⟨by rw [Stripped.text, hkept, map_char_keptOf], hkept⟩

/-- A document with a piece of each kind. Inside the code, the url, the tag and the comment there is
markdown that is not to be read. -/
def samplePieces : List Piece :=
  [.prose "See ](now) ".toList, .code 2 "*a* [b](c)".toList,
    .link "the \"docs\"".toList "x(`)_y_".toList, .prose " or".toList,
    .fence "\n[a](b)\n<i>".toList, .image "a (b) *c*".toList "p.png".toList,
    .tag 'a' " href=\"[x](`\"".toList, .emphasis '*' 2 "very well".toList,
    .comment " -- <b> ``` ".toList, .emphasis '_' 1 "x".toList]

theorem samplePieces_wellFormed : ∀ p ∈ samplePieces, p.WellFormed := by
  have hinner : IsUrl ['\x60'] := isUrl_of_forall_ne (List.all_iff_forall_prop.mp (by decide))
  have hrest : IsUrl "_y_".toList := isUrl_of_forall_ne (List.all_iff_forall_prop.mp (by decide))
  have hurl : IsUrl "p.png".toList := isUrl_of_forall_ne (List.all_iff_forall_prop.mp (by decide))
  have hparens : Nested "x(`)_y_".toList :=
    .char (by decide) (by decide) <| .group hinner.nested hrest.nested
  have hlink : (Piece.link "the \"docs\"".toList "x(`)_y_".toList).WellFormed :=
    ⟨List.all_eq_true.mp (by decide +kernel), by decide, by decide +kernel, hparens, by decide⟩
  have himage : (Piece.image "a (b) *c*".toList "p.png".toList).WellFormed :=
    ⟨⟨by decide, by decide, by decide, by decide +kernel⟩, hurl⟩
  simp only [samplePieces, List.forall_mem_cons]
  refine ⟨?_, ?_, hlink, ?_, ?_, himage, ?_, ?_, ?_, ?_, fun _ h => absurd h List.not_mem_nil⟩
  all_goals
    simp only [Piece.WellFormed, ← List.all_eq_true]
    decide +kernel

theorem strip_written_samplePieces :
    (∀ p ∈ samplePieces, p.WellFormed) ∧ samplePieces.IsChain Piece.Apart ∧
      (strip (written samplePieces)).text =
        "See ](now) the \"docs\" or⁂⁂very wellx".toList ∧
      (strip (written samplePieces)).kept = keptOf 0 samplePieces := by
  have hapart : samplePieces.IsChain Piece.Apart := by decide
  obtain ⟨htext, hkept⟩ := strip_written samplePieces_wellFormed hapart
  exact ⟨samplePieces_wellFormed, hapart, htext.trans (by decide +kernel), hkept⟩

end ProseCheck.Markdown
