import ProseCheck.Provider
import ProseCheck.Text.Quoted
import ProseCheck.Time.Wait

/-! # Errors

What can go wrong, and what a user is told about it: a message, a code and perhaps a help.
-/

namespace ProseCheck

structure Diagnostic where
  message : String
  code : Option String := none
  help : Option String := none
  deriving DecidableEq, Repr

/-- Why a provider gave no findings. -/
inductive Trouble where
  /-- The request did not get there, or its answer not back. -/
  | transport
  | rateLimited (status : Nat)
  | status (status : Nat) (body : String)
  /-- The answer is not what it should be. -/
  | decode
  | timeout (after : Millis)
  | unavailable
  /-- Nobody is left to send the request. -/
  | queueClosed
  deriving DecidableEq, Repr

structure Failure where
  provider : Provider
  trouble : Trouble
  deriving DecidableEq, Repr

namespace Failure

def isRateLimited (f : Failure) : Bool := f.trouble matches .rateLimited _

def diagnostic (f : Failure) : Diagnostic :=
  let name := f.provider.name
  match f.trouble with
  | .transport =>
    { message := s!"request to {name} failed", code := some "backend::transport" }
  | .rateLimited status =>
    { message := s!"{name} rate limited the request (HTTP {status})"
      code := some "backend::rate_limited"
      help := some "requests are paused for a cooldown period before retrying" }
  | .status status _ =>
    { message := s!"{name} returned HTTP {status}", code := some "backend::status" }
  | .decode =>
    { message := s!"could not decode {name} response", code := some "backend::decode" }
  | .timeout after =>
    { message := s!"{name} did not answer within " ++ waitText after
      code := some "backend::timeout" }
  | .unavailable =>
    { message := s!"{name} is not configured", code := some "backend::unavailable" }
  | .queueClosed =>
    { message := s!"request queue closed before {name} answered"
      code := some "backend::queue_closed" }

end Failure

/-- Why a configuration is of no use. -/
inductive ConfigError where
  /-- The value of an environment variable. -/
  | invalidValue (name value : String)
  | invalidUrl (url : String)
  deriving DecidableEq, Repr

def ConfigError.diagnostic : ConfigError → Diagnostic
  | invalidValue name value =>
    { message := s!"invalid value for {name}: " ++ Text.quoted value
      code := some "config::invalid_env" }
  | invalidUrl url =>
    { message := "failed to parse URL: " ++ url, code := some "config::url_parse" }

/-- Why the stored preferences cannot be used. -/
inductive StoreError where
  | read (path : String)
  | write (path : String)
  /-- What is stored under a key is not what it should be. -/
  | decode (key : String)
  deriving DecidableEq, Repr

def StoreError.diagnostic : StoreError → Diagnostic
  | read path =>
    { message := "failed to read preference store at " ++ path, code := some "store::read" }
  | write path =>
    { message := "failed to write preference store at " ++ path, code := some "store::write" }
  | decode key =>
    { message := "stored value for " ++ Text.quoted key ++ " is not valid"
      code := some "store::decode"
      help := some "delete the entry to fall back to defaults" }

inductive ServiceError where
  /-- A provider that is not set up was selected. -/
  | unavailable (provider : Provider)
  | config (error : ConfigError)
  | store (error : StoreError)
  deriving DecidableEq, Repr

def ServiceError.diagnostic : ServiceError → Diagnostic
  | unavailable provider =>
    let name := provider.name
    { message := s!"{name} is not available"
      code := some "service::unavailable"
      help := some s!"configure {name} before selecting it (Grazie needs an auth token)" }
  | config error => error.diagnostic
  | store error => error.diagnostic

end ProseCheck
