import Mathlib.Data.List.Forall2
import ProseCheck.Proofs.Json.Token

/-! # Printing and reading back

A value is printed as the tokens of its arrays, objects and single values, and the reader puts them
together again. A printed value is read as what it says, and as itself if it can be kept.
-/

namespace ProseCheck.Json

mutual

def tokens : Json → List Token
  | .null => [.single .null]
  | .bool b => [.single (.bool b)]
  | .number n => [.single (.number (some n))]
  | .string s => [.single (.string (some s))]
  | .array items => .beginArray :: (List.intercalate [.comma] (itemTokens items) ++ [.endArray])
  | .object fields =>
    .beginObject :: (List.intercalate [.comma] (fieldTokens fields) ++ [.endObject])

def itemTokens : List Json → List (List Token)
  | [] => []
  | item :: rest => item.tokens :: itemTokens rest

def fieldTokens : List (String × Json) → List (List Token)
  | [] => []
  | (name, value) :: rest =>
    (.single (.string (some name)) :: .colon :: value.tokens) :: fieldTokens rest

end

mutual

def numbers : Json → List Number
  | .number n => [n]
  | .array items => itemNumbers items
  | .object fields => fieldNumbers fields
  | .null | .bool _ | .string _ => []

def itemNumbers : List Json → List Number
  | [] => []
  | item :: rest => item.numbers ++ itemNumbers rest

def fieldNumbers : List (String × Json) → List Number
  | [] => []
  | (_, value) :: rest => value.numbers ++ fieldNumbers rest

end

/-! ### Tokens -/

theorem lexes_char {c : Char} {t : Token} (h : isSpace c = false)
    (ht : ∀ cs, firstToken? c cs = some (t, cs)) : Lexes [c] [t] :=
  .of_firstToken? h fun rest _ => ht rest

theorem lexes_null : Lexes "null".toList [.single .null] :=
  show Lexes ['n', 'u', 'l', 'l'] _ from .of_firstToken? (by decide) fun _ _ => rfl

theorem lexes_true : Lexes "true".toList [.single (.bool true)] :=
  show Lexes ['t', 'r', 'u', 'e'] _ from .of_firstToken? (by decide) fun _ _ => rfl

theorem lexes_false : Lexes "false".toList [.single (.bool false)] :=
  show Lexes ['f', 'a', 'l', 's', 'e'] _ from .of_firstToken? (by decide) fun _ _ => rfl

/-- What stands in front of an item at a nesting depth. -/
def gap (depth : Nat) : List Char := '\n' :: List.replicate (2 * depth) ' '

theorem Lexes.gap {text : List Char} {ts : List Token} (depth : Nat) (h : Lexes text ts) :
    Lexes (gap depth ++ text) ts := by
  refine h.space fun c hc => ?_
  rcases List.mem_cons.mp hc with rfl | hc
  · rfl
  · rw [List.eq_of_mem_replicate hc]
    rfl

theorem endsNumber_gap (depth : Nat) (rest : List Char) : EndsNumber (gap depth ++ rest) :=
  endsNumber_cons (by decide) _

def itemLines (depth : Nat) (items : List (List Char)) : List Char :=
  List.intercalate [','] (items.map (gap depth ++ ·))

theorem endsNumber_itemLines (depth : Nat) {items : List (List Char)} (h : items ≠ [])
    (rest : List Char) : EndsNumber (itemLines depth items ++ rest) := by
  have hstart : ∃ more, itemLines depth items = '\n' :: more := by
    match items, h with
    | [item], _ =>
      exact ⟨_, by rw [itemLines, List.map_singleton, List.intercalate_singleton, gap]; rfl⟩
    | item :: next :: rest, _ =>
      exact ⟨_, by rw [itemLines, List.map_cons, gap, List.cons_append,
        List.intercalate_cons_cons_left]⟩
  obtain ⟨more, hmore⟩ := hstart
  rw [hmore]
  exact endsNumber_cons (by decide) _

theorem lexes_itemLines (depth : Nat) {items : List (List Char)} {ts : List (List Token)}
    (h : List.Forall₂ Lexes items ts) :
    Lexes (itemLines depth items) (List.intercalate [.comma] ts) := by
  have hcomma : Lexes [','] [.comma] := lexes_char (by decide) fun _ => rfl
  induction h with
  | nil => exact .nil
  | @cons item t items ts hitem hrest ih =>
    cases hrest with
    | nil =>
      rw [itemLines, List.map_singleton, List.intercalate_singleton, List.intercalate_singleton]
      exact hitem.gap depth
    | @cons next u items ts hnext hmore =>
      rw [itemLines, List.map_cons, List.map_cons, List.intercalate_cons_cons,
        List.intercalate_cons_cons, ← List.map_cons (f := (gap depth ++ ·)), ← itemLines]
      refine .append (.append (hitem.gap depth) hcomma ?_) ih ?_
      · exact fun _ _ => endsNumber_cons (by decide) _
      · exact fun rest _ => endsNumber_itemLines depth (by simp) rest

theorem lexes_enclose (depth : Nat) {opening closing : String} {first last : Token} {o c : Char}
    (ho : opening.toList = [o]) (hc : closing.toList = [c])
    (hopening : Lexes [o] [first]) (hclosing : Lexes [c] [last])
    (hends : isNumeralChar c = false) {items : List String} {ts : List (List Token)}
    (h : List.Forall₂ Lexes (items.map String.toList) ts) :
    Lexes (Layout.indented.enclose depth opening closing items).toList
      (first :: (List.intercalate [.comma] ts ++ [last])) := by
  have hgap (depth : Nat) : (Layout.indented.gap depth).toList = gap depth := by
    rw [Layout.indented, String.toList_ofList, gap]
  rw [Layout.enclose]
  split
  · rename_i hempty
    obtain rfl : items = [] := List.isEmpty_iff.mp hempty
    obtain rfl : ts = [] := List.forall₂_nil_left_iff.mp h
    rw [String.toList_append, ho, hc]
    exact hopening.append hclosing fun _ _ => endsNumber_cons hends _
  · rename_i hitems
    have hne : items.map String.toList ≠ [] := by simpa using hitems
    have hlines :
        (String.intercalate "," (items.map (Layout.indented.gap (depth + 1) ++ ·))).toList =
          itemLines (depth + 1) (items.map String.toList) := by
      rw [String.toList_intercalate, itemLines, List.map_map, List.map_map]
      congr 1
      refine List.map_congr_left fun item _ => ?_
      rw [Function.comp_apply, Function.comp_apply, String.toList_append, hgap]
    rw [String.toList_append, String.toList_append, String.toList_append, ho, hc, hlines, hgap,
      List.append_assoc, List.append_assoc]
    refine hopening.append ((lexes_itemLines (depth + 1) h).append (hclosing.gap depth) ?_) ?_
    · intro rest _
      rw [List.append_assoc]
      exact endsNumber_gap depth _
    · intro rest _
      rw [List.append_assoc]
      exact endsNumber_itemLines (depth + 1) hne _

theorem lexes_field {name value : String} {ts : List Token} (h : Lexes value.toList ts) :
    Lexes (quote name ++ Layout.indented.colon ++ value).toList
      (.single (.string (some name)) :: .colon :: ts) := by
  have hcolon : Lexes [':'] [.colon] := lexes_char (by decide) fun _ => rfl
  have hvalue : Lexes ([' '] ++ value.toList) ts := h.space (List.all_eq_true.mp (by decide))
  have htext : (quote name ++ Layout.indented.colon ++ value).toList =
      (quote name).toList ++ ([':'] ++ ([' '] ++ value.toList)) := by
    simp [Layout.indented]
  rw [htext]
  refine (lexes_quote name).append (hcolon.append hvalue ?_) ?_
  · exact fun _ _ => endsNumber_cons (by decide) _
  · exact fun _ _ => endsNumber_cons (by decide) _

mutual

theorem lexes_printAt (depth : Nat) (j : Json) (h : ∀ n ∈ j.numbers, n.ReadsBack) :
    Lexes (j.printAt .indented depth).toList j.tokens := by
  match j with
  | .null => exact lexes_null
  | .bool true => exact lexes_true
  | .bool false => exact lexes_false
  | .number n =>
    rw [printAt, tokens]
    exact lexes_print (h n (by rw [numbers]; exact List.mem_cons_self))
  | .string s =>
    rw [printAt, tokens]
    exact lexes_quote s
  | .array items =>
    rw [printAt, tokens]
    rw [numbers] at h
    exact lexes_enclose depth rfl rfl (lexes_char (by decide) fun _ => rfl)
      (lexes_char (by decide) fun _ => rfl) (by decide) (lexes_printItems (depth + 1) items h)
  | .object fields =>
    rw [printAt, tokens]
    rw [numbers] at h
    exact lexes_enclose depth rfl rfl (lexes_char (by decide) fun _ => rfl)
      (lexes_char (by decide) fun _ => rfl) (by decide) (lexes_printFields (depth + 1) fields h)

theorem lexes_printItems (depth : Nat) (items : List Json)
    (h : ∀ n ∈ itemNumbers items, n.ReadsBack) :
    List.Forall₂ Lexes ((printItems .indented depth items).map String.toList)
      (itemTokens items) := by
  match items with
  | [] => exact .nil
  | item :: rest =>
    rw [itemNumbers, List.forall_mem_append] at h
    exact .cons (lexes_printAt depth item h.1) (lexes_printItems depth rest h.2)

theorem lexes_printFields (depth : Nat) (fields : List (String × Json))
    (h : ∀ n ∈ fieldNumbers fields, n.ReadsBack) :
    List.Forall₂ Lexes ((printFields .indented depth fields).map String.toList)
      (fieldTokens fields) := by
  match fields with
  | [] => exact .nil
  | (name, value) :: rest =>
    rw [fieldNumbers, List.forall_mem_append] at h
    exact .cons (lexes_field (lexes_printAt depth value h.1)) (lexes_printFields depth rest h.2)

end

theorem tokens?_pretty (j : Json) (h : ∀ n ∈ j.numbers, n.ReadsBack) :
    tokens? j.pretty.toList = some j.tokens := by
  have hlexes := lexes_printAt 0 j h [] endsNumber_nil
  rw [List.append_nil] at hlexes
  simpa [pretty, Json.tokens?] using hlexes

/-! ### Reading -/

namespace Reader

/-- Reading on from where the reader is. -/
def run (ts : List Token) (r : Reader) : Option Reader := ts.foldlM step r

theorem run_cons (t : Token) (ts : List Token) (r : Reader) :
    run (t :: ts) r = (step r t).bind (run ts) := rfl

mutual

/-- The reader puts the value of the tokens where it belongs. -/
theorem run_tokens (j : Json) {e : Expected} (he : e = .value ∨ e = .itemOrEnd) (stack : List Frame)
    (ts : List Token) : run (j.tokens ++ ts) ⟨stack, e⟩ = (put j.toSource stack).bind (run ts) := by
  match j with
  | .null => rcases he with rfl | rfl <;> rfl
  | .bool b => rcases he with rfl | rfl <;> rfl
  | .number n => rcases he with rfl | rfl <;> rfl
  | .string s => rcases he with rfl | rfl <;> rfl
  | .array [] => rcases he with rfl | rfl <;> rfl
  | .object [] => rcases he with rfl | rfl <;> rfl
  | .array (item :: rest) =>
    have hbegin : step ⟨stack, e⟩ .beginArray = some ⟨.array [] :: stack, .itemOrEnd⟩ := by
      rcases he with rfl | rfl <;> rfl
    rw [tokens, List.cons_append, List.append_assoc, run_cons, hbegin]
    exact run_itemTokens (item :: rest) (List.cons_ne_nil _ _) (Or.inr rfl) [] stack ts
  | .object (field :: rest) =>
    have hbegin : step ⟨stack, e⟩ .beginObject = some ⟨.object [] :: stack, .nameOrEnd⟩ := by
      rcases he with rfl | rfl <;> rfl
    rw [tokens, List.cons_append, List.append_assoc, run_cons, hbegin]
    exact run_fieldTokens (field :: rest) (List.cons_ne_nil _ _) (Or.inr rfl) [] stack ts

theorem run_itemTokens (items : List Json) (hne : items ≠ []) {e : Expected}
    (he : e = .value ∨ e = .itemOrEnd) (before : List Source) (stack : List Frame)
    (ts : List Token) :
    run (List.intercalate [.comma] (itemTokens items) ++ ([.endArray] ++ ts))
        ⟨.array before :: stack, e⟩ =
      (put (.array (before.reverse ++ itemSources items)) stack).bind (run ts) := by
  match items with
  | [] => exact absurd rfl hne
  | [item] =>
    rw [itemTokens, itemTokens, List.intercalate_singleton, run_tokens item he]
    show (put (.array (item.toSource :: before).reverse) stack).bind (run ts) = _
    rw [List.reverse_cons]
    rfl
  | item :: next :: rest =>
    rw [itemTokens, itemTokens, List.intercalate_cons_cons, ← itemTokens, List.append_assoc,
      List.append_assoc, run_tokens item he]
    refine (run_itemTokens (next :: rest) (List.cons_ne_nil _ _) (Or.inl rfl)
      (item.toSource :: before) stack ts).trans ?_
    rw [List.reverse_cons, List.append_assoc]
    rfl

theorem run_fieldTokens (fields : List (String × Json)) (hne : fields ≠ []) {e : Expected}
    (he : e = .name ∨ e = .nameOrEnd) (before : List (Option String × Source))
    (stack : List Frame) (ts : List Token) :
    run (List.intercalate [.comma] (fieldTokens fields) ++ ([.endObject] ++ ts))
        ⟨.object before :: stack, e⟩ =
      (put (.object (before.reverse ++ fieldSources fields)) stack).bind (run ts) := by
  have hname (name : String) (value : Json) (hvalue : ∀ stack ts,
      run (value.tokens ++ ts) ⟨stack, .value⟩ = (put value.toSource stack).bind (run ts))
      (more : List Token) :
      run (.single (.string (some name)) :: .colon :: (value.tokens ++ more))
          ⟨.object before :: stack, e⟩ =
        run more ⟨.object ((some name, value.toSource) :: before) :: stack, .commaOrEnd⟩ := by
    have hstep : run (.single (.string (some name)) :: .colon :: (value.tokens ++ more))
        ⟨.object before :: stack, e⟩ =
        run (value.tokens ++ more) ⟨.field before (some name) :: stack, .value⟩ := by
      rcases he with rfl | rfl <;> rfl
    rw [hstep, hvalue]
    rfl
  match fields with
  | [] => exact absurd rfl hne
  | [(name, value)] =>
    rw [fieldTokens, fieldTokens, List.intercalate_singleton]
    refine (hname name value (run_tokens value (Or.inl rfl)) _).trans ?_
    show (put (.object ((some name, value.toSource) :: before).reverse) stack).bind (run ts) = _
    rw [List.reverse_cons]
    rfl
  | (name, value) :: next :: rest =>
    rw [fieldTokens, List.intercalate_cons_of_ne_nil (by simp [fieldTokens]), List.append_assoc,
      List.append_assoc]
    refine (hname name value (run_tokens value (Or.inl rfl)) _).trans ?_
    refine (run_fieldTokens (next :: rest) (List.cons_ne_nil _ _) (Or.inl rfl)
      ((some name, value.toSource) :: before) stack ts).trans ?_
    rw [List.reverse_cons, List.append_assoc]
    rfl

end

end Reader

theorem source?_pretty (j : Json) (h : ∀ n ∈ j.numbers, n.ReadsBack) :
    source? j.pretty = some j.toSource := by
  have hrun : Reader.run j.tokens Reader.start = some ⟨[], .nothing j.toSource⟩ := by
    have := Reader.run_tokens j (Or.inl rfl) [] []
    rw [List.append_nil] at this
    exact this
  rw [Reader.run] at hrun
  simp [source?, tokens?_pretty j h, hrun]

end ProseCheck.Json
