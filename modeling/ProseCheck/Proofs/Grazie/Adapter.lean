import Mathlib.Tactic.Common
import ProseCheck.Grazie.Adapter

/-! # What a request to Grazie tells

The token, the language and the services can be read off a request.
-/

namespace ProseCheck.Grazie.Adapter

variable {a a' : Adapter} {options : CheckOptions} {sentences : List Text.Segment}
  {token token' : String}

structure Agrees (a a' : Adapter) (options : CheckOptions) : Prop where
  endpoint : a.endpoint = a'.endpoint
  token : a.preferences.usableToken? = a'.preferences.usableToken?
  language : a.language options = a'.language options
  services : a.services options = a'.services options

theorem toJson_inj {v v' : GrazieService} : v.toJson = v'.toJson ↔ v = v' := by
  cases v <;> cases v' <;> simp [GrazieService.toJson, GrazieService.name]

theorem map_toJson_inj {vs vs' : List GrazieService} :
    vs.map (·.toJson) = vs'.map (·.toJson) ↔ vs = vs' :=
  List.map_inj_right fun _ _ => toJson_inj.mp

theorem body_eq (x y z : Json) :
    Json.ofFields [("sentences", x), ("lang", y), ("services", z)] =
      .object [("lang", y), ("sentences", x), ("services", z)] := by
  have hfirst : "lang" < "sentences" := by decide
  have hbehind : ¬ "services" < "lang" := by decide
  have hlast : ¬ "services" < "sentences" := by decide
  simp only [Json.ofFields, Json.insertField, List.foldl_cons, List.foldl_nil, if_pos hfirst,
    if_neg hbehind, if_neg hlast]
  simp

theorem request_eq_iff : a.request token options sentences = a'.request token' options sentences ↔
    a.endpoint = a'.endpoint ∧ token = token' ∧ a.language options = a'.language options ∧
      a.services options = a'.services options := by
  simp [request, body_eq, map_toJson_inj]

end ProseCheck.Grazie.Adapter
