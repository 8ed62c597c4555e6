import ProxiPort.Foundation.Threads
import ProxiPort.TwoFactor.Totp
import Mathlib.Logic.Function.Basic

/-!
# The second-factor service

`server/2fa_auth.go`.  The service keeps at most one pending session for each
user name behind a mutex.  Sessions are heap objects that calls go on holding
after they have released the lock, so they are modelled as indices into a list
of allocated objects; pointer comparison is comparison of indices.  The bodies
of the calls are cut at every critical section, and what happens between two
sections is a section of its own.
-/

namespace ProxiPort.TwoFactor

open Concurrency

structure ExpirableToken where
  token : String
  expiry : Time
  failures : Nat
  pendingPassword : String
  deriving DecidableEq, Repr

/-- A `*expirableToken`. -/
abbrev SessionRef := Nat

structure TwoFAService where
  tokenTTL : Int
  allocated : List ExpirableToken
  tokensByUser : String → Option SessionRef
  lastTotPStep : String → Option Int

def maxTwoFAFailures : Nat := 5

def minTwoFAResendInterval : Int := 30 * second

namespace TwoFAService

def new (tokenTTLSeconds : Int) : TwoFAService :=
  { tokenTTL := tokenTTLSeconds * second
    allocated := []
    tokensByUser := fun _ => none
    lastTotPStep := fun _ => none }

def recordStep (service : TwoFAService) (username : String) (step : Int) :
    TwoFAService :=
  { service with
    lastTotPStep := Function.update service.lastTotPStep username (some step) }

def acceptTotPStep (service : TwoFAService) (username : String) (step : Int) :
    TwoFAService × Bool :=
  match service.lastTotPStep username with
  | some last =>
    if step ≤ last then (service, false)
    else (service.recordStep username step, true)
  | none => (service.recordStep username step, true)

def forget (service : TwoFAService) (username : String) : TwoFAService :=
  { service with
    tokensByUser := Function.update service.tokensByUser username none }

def modify (service : TwoFAService) (session : SessionRef)
    (change : ExpirableToken → ExpirableToken) : TwoFAService :=
  { service with allocated := service.allocated.modify session change }

def store (service : TwoFAService) (username : String) (token : ExpirableToken) : TwoFAService :=
  { service with
    allocated := service.allocated ++ [token]
    tokensByUser := Function.update service.tokensByUser username (some service.allocated.length) }

def registerFailure (service : TwoFAService) (username : String)
    (session : SessionRef) : TwoFAService :=
  if service.tokensByUser username = some session then
    let counted := service.modify session fun token =>
      { token with failures := token.failures + 1 }
    if ∃ token ∈ counted.allocated[session]?, maxTwoFAFailures ≤ token.failures then
      counted.forget username
    else counted
  else service

def setPendingPasswordChange (service : TwoFAService)
    (username newPassword : String) : TwoFAService :=
  match service.tokensByUser username with
  | some session => service.modify session fun token =>
    { token with pendingPassword := newPassword }
  | none => service

def setTotPLoginSession (service : TwoFAService) (username : String)
    (loginSessionTTL : Int) (now : Time) : TwoFAService :=
  service.store username ⟨"", now + loginSessionTTL, 0, ""⟩

/-- The last section of both validations: the session is consumed if it is
still the current one, and the call succeeds either way. -/
def consume (service : TwoFAService) (username : String)
    (session : SessionRef) : TwoFAService × String :=
  if service.tokensByUser username = some session then
    (service.forget username, ((service.allocated[session]?).map (·.pendingPassword)).getD "")
  else (service, "")

end TwoFAService

inductive Validation where
  | token (username token : String)
  | totPCode (user : User) (code : String)
  deriving DecidableEq, Repr

namespace Validation

def username : Validation → String
  | .token username _ => username
  | .totPCode user _ => user.username

def notFound : Validation → APIError
  | .token .. => ⟨"2fa token not found for provided username", "", 401⟩
  | .totPCode .. => ⟨"login request not found for provided username", "", 401⟩

def expired : Validation → APIError
  | .token .. => ⟨"2fa token expired", "", 401⟩
  | .totPCode .. => ⟨"login request expired", "", 401⟩

def invalid : Validation → APIError
  | .token .. => ⟨"invalid token", "", 401⟩
  | .totPCode .. => ⟨"invalid code", "", 401⟩

end Validation

inductive Verdict where
  | matched
  | matchedStep (step : Int)
  | wrong
  | failed (error : APIError)
  deriving DecidableEq, Repr

/-- The work between the read section and the next critical section.  The two
clock readings are those of the expiry check and of the code check. -/
def compareCode (otp : OtpLibrary) (session : ExpirableToken)
    (validation : Validation) (now codeNow : Time) : Verdict :=
  if session.expiry < now then .failed validation.expired
  else
    match validation with
    | .token _ token => if session.token = token then .matched else .wrong
    | .totPCode user code =>
      match getUsersTotPCode otp user with
      | .error err => .failed ⟨"", err, 500⟩
      | .ok none => .failed ⟨"time based one time secret key should be generated for this user",
            "", 409⟩
      | .ok (some totP) =>
        if totP.secret = "" then .failed
          ⟨"time based one time secret key should be generated for this user", "", 409⟩
        else
          match checkTotPCodeStep otp code totP codeNow with
          | some step => .matchedStep step
          | none => .wrong

inductive Outcome where
  | sent (sendTo : String)
  | stored
  | failed (error : APIError)
  | rejected (session : SessionRef) (error : APIError)
  | verified (session : SessionRef) (pendingPassword : String)
  deriving DecidableEq, Repr

inductive Call where
  | sendToken (username : String)
  | setTotPLoginSession (username : String) (loginSessionTTL : Int)
  | setPendingPasswordChange (username newPassword : String)
  | validate (validation : Validation)

inductive Thread where
  | sendToken (username : String)
  | reuseToken (username sendTo : String)
  | deliverToken (username sendTo : String)
  | storeToken (username sendTo token : String)
  | setTotPLoginSession (username : String) (loginSessionTTL : Int)
  | setPendingPasswordChange (username newPassword : String)
  | readSession (validation : Validation)
  | compare (validation : Validation) (session : SessionRef)
  | acceptStep (validation : Validation) (session : SessionRef) (step : Int)
  | registerFailure (validation : Validation) (session : SessionRef) (error : APIError)
  | consume (validation : Validation) (session : SessionRef)
  | returned (outcome : Outcome)
  deriving DecidableEq, Repr

/-- What the service does not decide itself: the user the user service finds,
the clock, and the delivery of a random token. -/
inductive Choice where
  | proceed
  | foundUser (result : Except String (Option User))
  | clock (now codeNow : Time)
  | delivered (token : Except String String)

inductive Output where
  | accepted (username : String) (step : Int) (code : String)
  deriving DecidableEq, Repr

namespace Thread

def enter : Call → Thread
  | .sendToken username => .sendToken username
  | .setTotPLoginSession username loginSessionTTL =>
    .setTotPLoginSession username loginSessionTTL
  | .setPendingPasswordChange username newPassword =>
    .setPendingPasswordChange username newPassword
  | .validate validation => .readSession validation

/-- `SendToken` up to its first critical section. -/
def lookUp (username : String) (found : Except String (Option User)) :
    Thread :=
  if username = "" then
    .returned (.failed ⟨"username cannot be empty", "", 400⟩)
  else
    match found with
    | .error err => .returned (.failed ⟨"", err, 500⟩)
    | .ok none => .returned (.failed ⟨"user with username " ++ username ++ " not found", "", 404⟩)
    | .ok (some user) =>
      if user.twoFASendTo = "" then
        .returned (.failed ⟨"no two_fa_send_to set for this user", "", 400⟩)
      else .reuseToken username user.twoFASendTo

/-- Where a validation goes after its comparison. -/
def afterCompare (validation : Validation) (session : SessionRef) : Verdict → Thread
  | .failed error => .returned (.failed error)
  | .wrong => .registerFailure validation session validation.invalid
  | .matched => .consume validation session
  | .matchedStep step => .acceptStep validation session step

end Thread

/-- A live token with more than the resend interval left is not replaced. -/
def reusable (service : TwoFAService) (username : String) (now : Time) :
    Bool :=
  match service.tokensByUser username with
  | none => false
  | some session =>
    match service.allocated[session]? with
    | none => false
    | some existing =>
      existing.token ≠ "" && now < existing.expiry - minTwoFAResendInterval

def atomic (otp : OtpLibrary) (service : TwoFAService) :
    Thread → Choice → Option (TwoFAService × Thread × List Output)
  | .sendToken username, .foundUser found =>
    some (service, .lookUp username found, [])
  | .reuseToken username sendTo, .clock now _ =>
    if reusable service username now then
      some (service, .returned (.sent sendTo), [])
    else some (service, .deliverToken username sendTo, [])
  | .deliverToken username sendTo, .delivered result =>
    match result with
    | .error err => some (service, .returned (.failed ⟨"", err, 500⟩), [])
    | .ok token => some (service, .storeToken username sendTo token, [])
  | .storeToken username sendTo token, .clock now _ =>
    some (service.store username ⟨token, now + service.tokenTTL, 0, ""⟩,
      .returned (.sent sendTo), [])
  | .setTotPLoginSession username loginSessionTTL, .clock now _ =>
    some (service.setTotPLoginSession username loginSessionTTL now, .returned .stored, [])
  | .setPendingPasswordChange username newPassword, .proceed =>
    some (service.setPendingPasswordChange username newPassword, .returned .stored, [])
  | .readSession validation, .proceed =>
    match service.tokensByUser validation.username with
    | none => some (service, .returned (.failed validation.notFound), [])
    | some session => some (service, .compare validation session, [])
  | .compare validation session, .clock now codeNow =>
    match service.allocated[session]? with
    | none => none
    | some token =>
      some (service, .afterCompare validation session
        (compareCode otp token validation now codeNow), [])
  | .acceptStep validation session step, .proceed =>
    match validation with
    | .token .. => none
    | .totPCode user code =>
      match service.acceptTotPStep user.username step with
      | (after, true) =>
        some (after, .consume validation session, [.accepted user.username step code])
      | (after, false) =>
        some (after, .registerFailure validation session
          ⟨"code already used, wait for the next one", "", 401⟩, [])
  | .registerFailure validation session error, .proceed =>
    some (service.registerFailure validation.username session,
      .returned (.rejected session error), [])
  | .consume validation session, .proceed =>
    match service.consume validation.username session with
    | (after, pendingPassword) =>
      some (after, .returned (.verified session pendingPassword), [])
  | _, _ => none

def program (otp : OtpLibrary) : Program TwoFAService Thread Call Choice Empty Output where
  enter := Thread.enter
  atomic := atomic otp
  environment := fun _ event => event.elim

def initial (tokenTTLSeconds : Int) : Config TwoFAService Thread :=
  { shared := .new tokenTTLSeconds
    threads := [] }

end ProxiPort.TwoFactor
