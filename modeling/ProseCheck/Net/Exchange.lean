import ProseCheck.Error
import ProseCheck.Json.Reader
import ProseCheck.Net.Url

/-! # Exchanges

A request to a provider and what comes back. Whether anything comes back is up to the link.
-/

namespace ProseCheck.Net

/-- What a request carries. -/
inductive Content where
  | form (fields : List (String × String))
  | json (value : Json)

structure Request where
  url : Url
  accept : String := "*/*"
  /-- The name and the value of a header that says who asks. -/
  authentication : Option (String × String) := none
  content : Content

structure Response where
  status : Nat
  /-- None where the response ends early. -/
  body : Option (List UInt8)

/-- Carries requests, each to its response if one arrives. -/
abbrev Link (σ : Type) := σ → Request → Option Response × σ

/-- A link that reaches nobody. -/
def Link.down {σ : Type} : Link σ := fun world _ => (none, world)

def isHeaderValue (value : String) : Bool :=
  value.toList.all fun c => (0x20 ≤ c.toNat && c != '\x7f') || c == '\t'

def Request.isSendable (r : Request) : Bool :=
  (r.url.scheme == "http".toList || r.url.scheme == "https".toList) &&
    r.authentication.all fun (_, value) => isHeaderValue value

def send {σ : Type} (link : Link σ) (world : σ) (r : Request) : Option Response × σ :=
  if r.isSendable then link world r else (none, world)

/-- The JSON of a response. A client that asks too often is told so with either of two codes. -/
def readResponse : Option Response → Except Trouble Json.Source
  | none => .error .transport
  | some ⟨status, body⟩ =>
    if status = 429 ∨ status = 400 then .error (.rateLimited status)
    else if 200 ≤ status ∧ status < 300 then
      match body with
      | none => .error .transport
      | some bytes =>
        match (Text.Utf8.decode? bytes).bind fun text => Json.source? (String.ofList text) with
        | some source => .ok source
        | none => .error .decode
    else .error (.status status (String.ofList (Text.Utf8.decodeLossy (body.getD []))))

end ProseCheck.Net
