import ProxiPort.TwoFactor.Service

/-!
# Login and second-factor verification requests

`handleLogin` of `server/api_handler_login.go` and
`handlePostVerify2FAToken` of `server/api_handler_verify2fa.go`.  The handlers
call the second-factor service, whose sections they take one at a time, so
requests interleave at the lock boundaries of the service and at the calls to
the stores.  What those stores answer is a choice.

Each login request is entered in a list of attempts, and every bearer token
and every pending session keeps the attempt it was made for.  This record is
the model's; the code does not keep it.
-/

namespace ProxiPort.TwoFactor

open Concurrency

/-- The second-factor part of the API configuration. -/
structure ApiConfig where
  isTwoFAOn : Bool
  totPEnabled : Bool
  totPLoginSessionTimeout : Int
  deliveryMethod : String

structure LoginRequest where
  username : String
  password : String
  newPassword : String
  skipPasswordValidation : Bool
  deriving DecidableEq, Repr

/-- The body of a verification request and its bearer token, if there is one,
as an index into the tokens minted so far. -/
structure VerifyRequest where
  username : String
  token : String
  bearer : Option Nat
  deriving DecidableEq, Repr

structure TwoFAResponse where
  sendTo : String
  deliveryMethod : String
  totPKeyStatus : String
  deriving DecidableEq, Repr

inductive Response where
  | login (twoFA : Option TwoFAResponse)
  | error (error : APIError)
  | panicked
  deriving DecidableEq, Repr

/-- The scopes of a minted token: `Scopes2FaCheckOnly`, the same with
`ScopesTotPCreateOnly`, or `ScopesAllExcluding2FaCheck`. -/
inductive Scopes where
  | twoFaCheckOnly
  | twoFaCheckAndTotPCreate
  | allExcluding2FaCheck
  deriving DecidableEq, Repr

def Scopes.allowVerify2FA : Scopes → Bool
  | .twoFaCheckOnly | .twoFaCheckAndTotPCreate => true
  | .allExcluding2FaCheck => false

structure Bearer where
  username : String
  scopes : Scopes
  attempt : Nat
  deriving DecidableEq, Repr

structure Server where
  service : TwoFAService
  attempts : List LoginRequest
  minted : List Bearer
  storedBy : List Nat

/-- The service after a section taken for an attempt; a session the section
allocated belongs to that attempt. -/
def Server.serve (server : Server) (attempt : Nat) (service : TwoFAService) :
    Server :=
  { server with
    service := service
    storedBy :=
      if server.service.allocated.length < service.allocated.length then
        server.storedBy ++ [attempt]
      else server.storedBy }

def deferPasswordChange (api : ApiConfig) (request : LoginRequest) : Bool :=
  request.newPassword ≠ "" && (api.isTwoFAOn || api.totPEnabled)

inductive Stage where
  | sendToken (request : LoginRequest)
  | pendingAfterToken (response : Response)
  | totPSession (request : LoginRequest) (user : User)
  | pendingAfterTotP (request : LoginRequest) (user : User)
  | validate (username : String)
  deriving DecidableEq, Repr

inductive Handler where
  | login (request : LoginRequest)
  | verify (request : VerifyRequest)
  | calling (attempt : Nat) (stage : Stage) (call : Thread)
  | createAuthToken (attempt : Nat) (request : LoginRequest)
      (scopes : Scopes) (twoFA : Option TwoFAResponse)
  | applyPassword (attempt : Nat) (username password : String)
  | sendJWTToken (username : String)
  | responded (response : Response)
  deriving DecidableEq, Repr

inductive HandlerCall where
  | login (request : LoginRequest)
  | verify (request : VerifyRequest)

/-- The answers of everything outside the second-factor service. -/
inductive HandlerChoice where
  | service (choice : Choice)
  | credentials (banned : Bool) (validated : Except APIError (Bool × User))
      (lifetime : Except String Unit) (changed : Except APIError Unit)
      (sessionsDeleted : Except String Unit)
  | authToken (created : Except APIError Unit)
  | bearerCheck (banned : Bool) (checked : Except APIError Bool)
      (found : Except APIError (Option User))
  | change (changed : Except APIError Unit)

inductive HandlerOutput where
  | applied (attempt : Nat) (username password : String)
  deriving DecidableEq, Repr

def errTooManyRequests : APIError := ⟨"too many requests, please try later", "", 429⟩

namespace Handler

def enter : HandlerCall → Handler
  | .login request => .login request
  | .verify request => .verify request

def fail (message : String) (httpStatus : Nat) : Handler :=
  .responded (.error ⟨message, "", httpStatus⟩)

/-- `handleLogin` after the password has been checked: which second factor is
asked for. -/
def secondFactor (api : ApiConfig) (attempt : Nat) (request : LoginRequest)
    (user : User) : Handler :=
  if api.isTwoFAOn then
    .calling attempt (.sendToken request) (.sendToken request.username)
  else if api.totPEnabled then
    .calling attempt (.totPSession request user)
      (.setTotPLoginSession request.username api.totPLoginSessionTimeout)
  else .createAuthToken attempt request .allExcluding2FaCheck none

/-- `handleLogin` up to the second factor. -/
def handleLogin (api : ApiConfig) (attempt : Nat) (request : LoginRequest)
    (banned : Bool) (validated : Except APIError (Bool × User))
    (lifetime : Except String Unit) (changed : Except APIError Unit)
    (sessionsDeleted : Except String Unit) : Handler :=
  if banned then .responded (.error errTooManyRequests)
  else if request.username = "" then fail "username is required" 401
  else
    match validated with
    | .error err => .responded (.error err)
    | .ok (false, _) => fail "unauthorized" 401
    | .ok (true, user) =>
      match lifetime with
      | .error err => .responded (.error ⟨"", err, 400⟩)
      | .ok () =>
        if request.newPassword ≠ "" ∧ deferPasswordChange api request = false then
          match changed, sessionsDeleted with
          | .error err, _ => .responded (.error err)
          | .ok (), .error err => .responded (.error ⟨"", err, 500⟩)
          | .ok (), .ok () => secondFactor api attempt request user
        else if deferPasswordChange api request = false ∧ user.passwordExpired = some true then
          fail "password has expired, please change your password" 401
        else secondFactor api attempt request user

/-- `handleLogin` after `SetTotPLoginSession` and the pending password. -/
def totPLogin (otp : OtpLibrary) (attempt : Nat) (request : LoginRequest) (user : User) : Handler :=
  match getUsersTotPCode otp user with
  | .error err => .responded (.error ⟨"", err, 500⟩)
  | .ok none => .createAuthToken attempt request .twoFaCheckAndTotPCreate
      (some ⟨"", "totp_authenticator_app", "pending"⟩)
  | .ok (some _) => .createAuthToken attempt request .twoFaCheckOnly
      (some ⟨"", "totp_authenticator_app", "exists"⟩)

/-- Where a handler goes when its call to the service has returned. -/
def resume (otp : OtpLibrary) (api : ApiConfig) (attempt : Nat) : Stage → Outcome → Handler
  | .sendToken request, .sent sendTo =>
    .createAuthToken attempt request .twoFaCheckOnly (some ⟨sendTo, api.deliveryMethod, ""⟩)
  | .pendingAfterToken response, _ => .responded response
  | .totPSession request user, _ =>
    if deferPasswordChange api request then
      .calling attempt (.pendingAfterTotP request user)
        (.setPendingPasswordChange request.username request.newPassword)
    else totPLogin otp attempt request user
  | .pendingAfterTotP request user, _ => totPLogin otp attempt request user
  | .validate username, .verified _ pendingPassword =>
    if pendingPassword = "" then .sendJWTToken username
    else .applyPassword attempt username pendingPassword
  | _, .failed error | _, .rejected _ error => .responded (.error error)
  | _, _ => .responded .panicked

/-- `parseAndValidate2FATokenRequest` up to the call to the service. -/
def parseAndValidate2FATokenRequest (api : ApiConfig) (minted : List Bearer)
    (request : VerifyRequest) (banned : Bool) (checked : Except APIError Bool)
    (found : Except APIError (Option User)) : Handler :=
  if api.isTwoFAOn = false ∧ api.totPEnabled = false then
    fail "2fa is disabled" 409
  else if banned then .responded (.error errTooManyRequests)
  else if request.username = "" then fail "username is required" 401
  else if request.token = "" then fail "token is required" 401
  else
    match request.bearer with
    | none => fail "token is required" 400
    | some index =>
      match minted[index]?, checked with
      | none, _ => fail "access denied" 403
      | some _, .error err => .responded (.error err)
      | some bearer, .ok authorized =>
        if (authorized && bearer.scopes.allowVerify2FA) = false then
          fail "access denied" 403
        else if request.username ≠ bearer.username then
          fail "username does not match the pending login session" 403
        else if api.totPEnabled then
          match found with
          | .error err => .responded (.error err)
          | .ok none => .responded .panicked
          | .ok (some user) =>
            .calling bearer.attempt (.validate bearer.username)
              (.readSession (.totPCode user request.token))
        else
          .calling bearer.attempt (.validate bearer.username)
            (.readSession (.token bearer.username request.token))

end Handler

def handle (otp : OtpLibrary) (api : ApiConfig) (server : Server) :
    Handler → HandlerChoice →
      Option (Server × Handler × List HandlerOutput)
  | .login request, .credentials banned validated lifetime changed sessionsDeleted =>
      some ({ server with attempts := server.attempts ++ [request] },
        .handleLogin api server.attempts.length request banned validated
          lifetime changed sessionsDeleted, [])
  | .verify request, .bearerCheck banned checked found =>
    some (server, .parseAndValidate2FATokenRequest api server.minted
      request banned checked found, [])
  | .calling attempt stage (.returned outcome), .service .proceed =>
    some (server, .resume otp api attempt stage outcome, [])
  | .calling attempt stage call, .service choice =>
    match atomic otp server.service call choice with
    | none => none
    | some (service, after, _) =>
      some (server.serve attempt service, .calling attempt stage after, [])
  | .createAuthToken attempt request scopes twoFA, .authToken created =>
    match created with
    | .error err => some (server, .responded (.error err), [])
    | .ok () =>
      some ({ server with minted := server.minted ++ [⟨request.username, scopes, attempt⟩] },
        if api.isTwoFAOn && deferPasswordChange api request then
          .calling attempt (.pendingAfterToken (.login twoFA))
            (.setPendingPasswordChange request.username request.newPassword)
        else .responded (.login twoFA), [])
  | .applyPassword attempt username password, .change changed =>
    match changed with
    | .error err => some (server, .responded (.error err), [])
    | .ok () => some (server, .sendJWTToken username, [.applied attempt username password])
  | .sendJWTToken _, .authToken created =>
    match created with
    | .error err => some (server, .responded (.error err), [])
    | .ok () => some (server, .responded (.login none), [])
  | _, _ => none

def handlers (otp : OtpLibrary) (api : ApiConfig) :
    Program Server Handler HandlerCall HandlerChoice Empty HandlerOutput where
  enter := Handler.enter
  atomic := handle otp api
  environment := fun _ event => event.elim

def startUp (tokenTTLSeconds : Int) : Config Server Handler :=
  { shared :=
      { service := .new tokenTTLSeconds
        attempts := []
        minted := []
        storedBy := [] }
    threads := [] }

end ProxiPort.TwoFactor
