import Mathlib.Tactic.Common
import ProseCheck.Backend
import ProseCheck.Checker.Cache
import ProseCheck.Proofs.Grazie.Adapter
import ProseCheck.Proofs.Grazie.Answer
import ProseCheck.Proofs.LanguageTool.Adapter
import ProseCheck.Proofs.LanguageTool.Answer
import ProseCheck.Proofs.Text.Segment

/-! # What backends find

Every finding in a text comes from a report on a piece of it that the provider was sent. If the
report is over the code units of some characters of that piece, the finding is over these
characters.
-/

namespace ProseCheck

open Net

variable {σ : Type} {link : Link σ} {options : CheckOptions} {text : List Char} {f : Finding}

/-- What a provider says about a text. -/
inductive Answer where
  | languageTool (ms : List LanguageTool.Match)
  | grazie (sentences : List Grazie.CheckedSentence)

namespace Answer

def findings (text : List Char) : Answer → List Finding
  | languageTool ms => LanguageTool.findings ms text
  | grazie sentences => Grazie.findings sentences (Text.sentences text)

/-- The finding comes from a report over a stretch of code units of a piece of the text: of all of
it, or of a sentence that the answer has at its position. -/
inductive Reports (text : List Char) : Answer → Text.Segment → Span → Finding → Prop
  | languageTool {ms : List LanguageTool.Match} {m : LanguageTool.Match} {stretch : Span}
      {f : Finding} : m ∈ ms → m.Covers16 stretch → m.finding? text = some f →
      Reports text (.languageTool ms) ⟨0, text⟩ stretch f
  | grazie {sentences : List Grazie.CheckedSentence} {sentence : Text.Segment}
      {checked : Grazie.CheckedSentence} {p : Grazie.ReportedProblem} {stretch : Span}
      {f : Finding} : (sentence, checked) ∈ (Text.sentences text).zip sentences →
      checked.sentence.toList = sentence.text → p ∈ checked.problems → p.Covers16 stretch →
      p.finding? sentence = some f → Reports text (.grazie sentences) sentence stretch f

variable {a : Answer} {piece : Text.Segment} {stretch s : Span}

theorem mem_findings_iff :
    f ∈ a.findings text ↔ ∃ piece stretch, a.Reports text piece stretch f := by
  constructor
  · intro h
    cases a with
    | languageTool ms =>
      obtain ⟨m, hm, hf⟩ := LanguageTool.mem_findings.mp h
      obtain ⟨span, hspan, -⟩ := LanguageTool.Match.span_of_finding? hf
      obtain ⟨stretch, hstretch⟩ := LanguageTool.Match.exists_covers16 hspan
      exact ⟨_, stretch, .languageTool hm hstretch hf⟩
    | grazie sentences =>
      obtain ⟨sentence, checked, hmem, hecho, p, hp, hf⟩ := Grazie.mem_findings.mp h
      obtain ⟨span, hspan, -⟩ := Grazie.ReportedProblem.span_of_finding? hf
      obtain ⟨stretch, hstretch⟩ := Grazie.ReportedProblem.exists_covers16 hspan
      exact ⟨_, stretch, .grazie hmem hecho hp hstretch hf⟩
  · rintro ⟨piece, stretch, h⟩
    cases h with
    | languageTool hm _ hf => exact LanguageTool.mem_findings.mpr ⟨_, hm, hf⟩
    | grazie hmem hecho hp _ hf => exact Grazie.mem_findings.mpr ⟨_, _, hmem, hecho, _, hp, hf⟩

theorem Reports.piece_in (h : a.Reports text piece stretch f) : piece.In text := by
  cases h with
  | languageTool => simpa using Text.in_append [] text []
  | grazie hmem => exact Text.in_of_mem_sentences (List.of_mem_zip hmem).1

theorem Reports.place (h : a.Reports text piece (Text.span16 piece.text s) f)
    (hs : s.start ≤ s.finish) (hlen : s.finish ≤ piece.length) :
    f.offset = piece.start + s.start ∧ f.length = s.length := by
  cases h with
  | languageTool _ hm hf =>
    obtain ⟨span, hspan, hoffset, hlength⟩ := LanguageTool.Match.span_of_finding? hf
    obtain rfl := LanguageTool.Match.span_eq_of_covers16 hspan hm hs hlen
    exact ⟨by rw [hoffset, Nat.zero_add], hlength⟩
  | grazie _ _ _ hp hf =>
    obtain ⟨span, hspan, -, hoffset, hlength⟩ := Grazie.ReportedProblem.span_of_finding? hf
    obtain rfl := Grazie.ReportedProblem.span_eq_of_covers16 hspan hp hs hlen
    exact ⟨hoffset, hlength⟩

end Answer

/-- The finding covers at least one character and only such of the text. -/
def Finding.In (f : Finding) (text : List Char) : Prop :=
  0 < f.length ∧ f.offset + f.length ≤ text.length

theorem Answer.in_of_mem_findings {a : Answer} (h : f ∈ a.findings text) : f.In text := by
  obtain ⟨piece, stretch, h⟩ := Answer.mem_findings_iff.mp h
  have hpiece := h.piece_in.finish_le
  cases h with
  | languageTool _ _ hf =>
    obtain ⟨span, hspan, hoffset, hlength⟩ := LanguageTool.Match.span_of_finding? hf
    obtain ⟨-, -, -, hfinish, hlt⟩ := LanguageTool.Match.span?_eq_some_iff.mp hspan
    have hle := Text.charOffset?_le hfinish
    simp only [Finding.In, hoffset, hlength, Span.length]
    omega
  | grazie _ _ _ _ hf =>
    obtain ⟨span, hspan, hlt, hoffset, hlength⟩ := Grazie.ReportedProblem.span_of_finding? hf
    obtain ⟨-, -, hfinish, -⟩ := Grazie.Span16.chars?_eq_some_iff.mp hspan
    have hle : span.finish ≤ piece.length := Text.charOffset?_le hfinish
    simp only [Finding.In, hoffset, hlength, Span.length]
    omega

/-! ### Asking -/

def Answer.ofSource? (source : Json.Source) : Provider → Option Answer
  | .languageTool => (LanguageTool.matches? source).map .languageTool
  | .grazie => (Grazie.sentences? source).map .grazie

def Answer.ofResponse (p : Provider) (response : Option Response) : Except Trouble Answer :=
  match readResponse response with
  | .error trouble => .error trouble
  | .ok source =>
    match ofSource? source p with
    | some answer => .ok answer
    | none => .error .decode

theorem LanguageTool.read_eq (text : List Char) (response : Option Response) :
    Adapter.readResponse text response =
      (Answer.ofResponse .languageTool response).map (·.findings text) := by
  simp only [Adapter.readResponse, Answer.ofResponse, Answer.ofSource?, bind, Except.bind]
  cases readResponse response with
  | error => rfl
  | ok source => cases h : matches? source <;> simp [h] <;> rfl

theorem Grazie.read_eq (text : List Char) (response : Option Response) :
    Adapter.readResponse (Text.sentences text) response =
      (Answer.ofResponse .grazie response).map (·.findings text) := by
  simp only [Adapter.readResponse, Answer.ofResponse, Answer.ofSource?, bind, Except.bind]
  cases readResponse response with
  | error => rfl
  | ok source => cases h : sentences? source <;> simp [h] <;> rfl

namespace Backend

variable {b : Backend} {world : σ}

/-- The request for a text; none where there is no token or no sentence to send. -/
def request? (b : Backend) (options : CheckOptions) (text : List Char) : Option Request :=
  match b with
  | languageTool a => some (a.request options text)
  | grazie a =>
    match a.preferences.usableToken?, Text.sentences text with
    | some token, s :: ss => some (a.request token options (s :: ss))
    | _, _ => none

def read (b : Backend) (text : List Char) (response : Option Response) :
    Except Failure (List Finding) :=
  ((Answer.ofResponse b.provider response).map (·.findings text)).mapError (⟨b.provider, ·⟩)

/-- What a backend makes of a text that it sends no request for. -/
def unasked (b : Backend) : Except Failure (List Finding) :=
  if b.isAvailable then .ok [] else .error ⟨b.provider, .unavailable⟩

theorem check_of_request (r : Request) (h : b.request? options text = some r) :
    b.check link world options text =
      (b.read text (send link world r).1, (send link world r).2) := by
  cases b with
  | languageTool a =>
    obtain rfl := Option.some.inj h
    have hread := LanguageTool.read_eq text (send link world (a.request options text)).1
    simp only [check, LanguageTool.Adapter.check, read, provider, hread]
  | grazie a =>
    simp only [request?] at h
    split at h
    next token s ss htoken hsentences =>
      obtain rfl := Option.some.inj h
      have hread := Grazie.read_eq text (send link world (a.request token options (s :: ss))).1
      simp only [hsentences] at hread
      simp only [check, Grazie.Adapter.check, read, provider, htoken, hsentences, hread]
    next => cases h

theorem check_of_no_request (h : b.request? options text = none) :
    b.check link world options text = (b.unasked, world) := by
  cases b with
  | languageTool a => cases h
  | grazie a =>
    cases htoken : a.preferences.usableToken? with
    | none =>
      simp [check, Grazie.Adapter.check, unasked, isAvailable, htoken, Except.mapError, provider]
    | some token =>
      cases hsentences : Text.sentences text with
      | nil =>
        simp [check, Grazie.Adapter.check, unasked, isAvailable, htoken, hsentences,
          Except.mapError]
      | cons s ss => simp [request?, htoken, hsentences] at h

/-- The answer is in what comes over a link, in one of its worlds, for the request of the
backend. -/
def Hears (b : Backend) (link : Link σ) (options : CheckOptions) (text : List Char)
    (answer : Answer) : Prop :=
  ∃ world request, b.request? options text = some request ∧
    Answer.ofResponse b.provider (send link world request).1 = .ok answer

theorem exists_hears_of_mem {fs : List Finding} (h : (b.check link world options text).1 = .ok fs)
    (hf : f ∈ fs) : ∃ answer, b.Hears link options text answer ∧ f ∈ answer.findings text := by
  cases hr : b.request? options text with
  | none =>
    rw [check_of_no_request hr, unasked] at h
    split at h
    · cases h
      cases hf
    · cases h
  | some r =>
    rw [check_of_request r hr, read] at h
    cases hanswer : Answer.ofResponse b.provider (send link world r).1 with
    | error => simp [hanswer, Except.map, Except.mapError] at h
    | ok answer =>
      simp only [hanswer, Except.map, Except.mapError, Except.ok.injEq] at h
      exact ⟨answer, ⟨world, r, hr, hanswer⟩, h.symm ▸ hf⟩

theorem isAvailable_of_request? {r : Request} (h : b.request? options text = some r) :
    b.isAvailable = true := by
  cases b with
  | languageTool a => rfl
  | grazie a =>
    simp only [request?] at h
    split at h
    next token s ss htoken hsentences => simp [isAvailable, htoken]
    next => cases h

theorem request?_eq_none_iff (h : b.isAvailable = true) :
    b.request? options text = none ↔ b.provider = .grazie ∧ Text.sentences text = [] := by
  cases b with
  | languageTool a => simp [request?, provider]
  | grazie a =>
    obtain ⟨token, htoken⟩ := Option.isSome_iff_exists.mp h
    cases hsentences : Text.sentences text <;> simp [request?, provider, htoken, hsentences]

/-- The backends put the same into the request of a check, besides what its options say. -/
def Agrees (options : CheckOptions) : Backend → Backend → Prop
  | languageTool a, languageTool a' => a.Agrees a' options
  | grazie a, grazie a' => a.Agrees a' options
  | _, _ => False

theorem request?_eq_iff {b' : Backend} (hprovider : b.provider = b'.provider)
    (hb : b.isAvailable = true) (hb' : b'.isAvailable = true) (htext : Text.allBlank text = false) :
    b.request? options text = b'.request? options text ↔ b.Agrees options b' := by
  cases b with
  | languageTool a =>
    cases b' with
    | languageTool a' => exact Option.some_inj.trans LanguageTool.Adapter.request_eq_iff
    | grazie a' => cases hprovider
  | grazie a =>
    cases b' with
    | languageTool a' => cases hprovider
    | grazie a' =>
      obtain ⟨token, htoken⟩ := Option.isSome_iff_exists.mp hb
      obtain ⟨token', htoken'⟩ := Option.isSome_iff_exists.mp hb'
      obtain ⟨s, ss, hsentences⟩ : ∃ s ss, Text.sentences text = s :: ss :=
        List.exists_cons_of_ne_nil fun h => by
          simp [Text.allBlank_of_sentences_eq_nil h] at htext
      simp only [request?, htoken, htoken', hsentences, Option.some_inj,
        Grazie.Adapter.request_eq_iff]
      constructor
      · rintro ⟨hendpoint, rfl, hlanguage, hservices⟩
        exact ⟨hendpoint, htoken.trans htoken'.symm, hlanguage, hservices⟩
      · intro h
        have heq := h.token
        rw [htoken, htoken', Option.some_inj] at heq
        exact ⟨h.endpoint, heq, h.language, h.services⟩

end Backend

/-! ### Providers that always answer alike -/

def responseOf (body : String) : Response := ⟨200, some (body.toList.map (·.toNat.toUInt8))⟩

/-- A link over which a request always has the same response. -/
def answering (f : Request → Option Response) (next : σ → Request → σ) : Link σ :=
  fun world r => (f r, next world r)

namespace Backend

variable {b b' : Backend} {f : Request → Option Response} {key : CacheKey}

def answer? (b : Backend) (f : Request → Option Response) (key : CacheKey) :
    Option (List Finding) :=
  match b.request? key.options key.text with
  | some r => (b.read key.text (if r.isSendable then f r else none)).toOption
  | none => b.unasked.toOption

theorem toOption_check_answering (b : Backend) (f : Request → Option Response)
    (next : σ → Request → σ) (world : σ) (key : CacheKey) :
    (b.check (answering f next) world key.options key.text).1.toOption = b.answer? f key := by
  unfold answer?
  split
  next r hr =>
    rw [check_of_request r hr]
    unfold send
    split <;> rfl
  next hr => rw [check_of_no_request hr]

theorem in_of_mem_answer? {fs : List Finding} (h : b.answer? f key = some fs) {g : Finding}
    (hg : g ∈ fs) : g.In key.text := by
  have hcheck : (b.check (answering f fun _ _ => ()) () key.options key.text).1 = .ok fs := by
    have := b.toOption_check_answering f (fun _ _ => ()) () key
    rw [h] at this
    revert this
    cases (b.check (answering f fun _ _ => ()) () key.options key.text).1 with
    | error => simp [Except.toOption]
    | ok gs => simp [Except.toOption]
  obtain ⟨answer, -, hmem⟩ := exists_hears_of_mem hcheck hg
  exact Answer.in_of_mem_findings hmem

theorem isAvailable_of_answer? (h : (b.answer? f key).isSome = true) : b.isAvailable = true := by
  unfold answer? at h
  split at h
  next r hr => exact isAvailable_of_request? hr
  next =>
    unfold unasked at h
    split at h
    next havailable => exact havailable
    next => simp [Except.toOption] at h

theorem answer?_eq_of_request?_eq (hprovider : b.provider = b'.provider)
    (hb : b.isAvailable = true) (hb' : b'.isAvailable = true)
    (h : b.request? key.options key.text = b'.request? key.options key.text) :
    b.answer? f key = b'.answer? f key := by
  simp only [answer?, h, read, unasked, hprovider, hb, hb']

/-- A backend that answers can stand for another one, whatever the provider answers, exactly if
both send the same request. -/
theorem answers_alike_iff (hprovider : b.provider = b'.provider)
    (hanswer : (b.answer? f key).isSome = true) (hb' : b'.isAvailable = true) :
    (∀ g, b.answer? g key = b'.answer? g key) ↔
      b.request? key.options key.text = b'.request? key.options key.text := by
  have hb := isAvailable_of_answer? hanswer
  refine ⟨fun h => ?_, fun h g => answer?_eq_of_request?_eq hprovider hb hb' h⟩
  cases hr : b.request? key.options key.text with
  | none =>
    rw [request?_eq_none_iff hb, hprovider] at hr
    exact ((request?_eq_none_iff hb').mpr hr).symm
  | some r =>
    classical
    by_contra hne
    have hsame : b.answer? (fun q => if q = r then f r else none) key = b.answer? f key := by
      simp [answer?, hr]
    have hnone : b'.answer? (fun q => if q = r then f r else none) key = none := by
      cases hr' : b'.request? key.options key.text with
      | none =>
        rw [request?_eq_none_iff hb', ← hprovider, ← request?_eq_none_iff hb] at hr'
        cases hr.symm.trans hr'
      | some r' =>
        have hne' : r' ≠ r := fun heq => hne (heq ▸ hr'.symm)
        simp [answer?, hr', hne', read, Answer.ofResponse, readResponse, Except.map,
          Except.mapError, Except.toOption]
    rw [h, hnone] at hsame
    simp [← hsame] at hanswer

end Backend
end ProseCheck
