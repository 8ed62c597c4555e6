import ProxiPort.Session.Requests
import ProxiPort.Users.Service

/-!
# Accounts and the credentials issued to them

Requests that create, change and delete users (`server/api_handler_users.go`),
log in, create API tokens (`server/api_handler_me.go`,
`server/api/authorization`) and authenticate with a bearer token or with basic
authentication (`server/api_listener.go`).  The three stores, users, sessions
and API tokens, are linked by the user name alone.

Which account a session or an API token was issued to is recorded next to it;
the code keeps no such record.
-/

namespace ProxiPort.Accounts

open Concurrency

inductive APITokenScope where
  | read
  | readWrite
  | clientsAuth
  deriving DecidableEq, Repr

def APITokenScope.ofString : String → Option APITokenScope
  | "read" => some .read
  | "read+write" => some .readWrite
  | "clients-auth" => some .clientsAuth
  | _ => none

structure APIToken where
  username : String
  tokenPrefix : String
  name : String
  createdAt : Time
  expiresAt : Option Time
  scope : APITokenScope
  token : String
  deriving DecidableEq, Repr

structure IssuedToken where
  token : APIToken
  issuedTo : Nat
  deriving DecidableEq, Repr

structure Server where
  directory : Directory
  apiTokens : List IssuedToken
  sessions : Session.Store
  issuedTo : List Nat

structure Settings where
  service : APIService
  secondFactor : Bool

/-- The body of a token request with the random parts of the new token. -/
structure TokenRequest where
  scope : String
  name : String
  expiresAt : Time
  tokenPrefix : String
  tokenHash : String
  deriving DecidableEq, Repr

inductive SessionCall where
  | updateTokenAccess (token : Nat) (accessTime : Time) (userAgent remoteAddress : String)
  | delete (sessionID : Int)
  | deleteByID (username : String) (sessionID : Int)
  | deleteAllByUser (username : String)
  | deleteExpired

def SessionCall.call : SessionCall → Session.Call
  | .updateTokenAccess token accessTime userAgent remoteAddress =>
    .updateTokenAccess token accessTime userAgent remoteAddress
  | .delete sessionID => .delete sessionID
  | .deleteByID username sessionID => .deleteByID username sessionID
  | .deleteAllByUser username => .deleteAllByUser username
  | .deleteExpired => .deleteExpired

inductive Call where
  | handleChangeUser (dataToChange : User) (userID : String)
  | handleDeleteUser (userID : String)
  | handleLogin (password : String) (request : Session.AuthRequest)
  | handlePostToken (username : String) (request : TokenRequest)
  | handleDeleteToken (username tokenPrefix : String)
  | basicAuth (method urlpath username password : String)
  | bearerAuth (token : Nat) (uri method : String)
  | session (call : SessionCall)

inductive Purpose where
  | issue (owner : Nat)
  | authenticated (username : String) (credential : Option Nat)
  | plain
  deriving DecidableEq, Repr

inductive Result where
  | done
  | authorizedByPassword
  | attributed
  | refused (errors : List APIError)
  deriving DecidableEq, Repr

inductive Thread where
  | handleChangeUser (dataToChange : User) (userID : String)
  | provide (dataToChange : User) (userID : String) (retire : Bool)
  | handleDeleteUser (userID : String)
  | remove (userID : String)
  | handleLogin (password : String) (request : Session.AuthRequest)
  | handlePostToken (username : String) (request : TokenRequest)
  | saveToken (token : IssuedToken)
  | handleDeleteToken (username tokenPrefix : String)
  | basicAuth (method urlpath username password : String)
  | apiToken (method urlpath username password : String)
  | bearerAuth (token : Nat) (uri method : String)
  | sessionCall (purpose : Purpose) (inner : Session.Thread)
  | resolveUser (username : String) (credential : Option Nat)
  | returned (result : Result)
  deriving DecidableEq, Repr

inductive Choice where
  | proceed
  | sql (result : Except String Unit)
  | session (choice : Session.Choice)

/-- A request was let through: the account its credential was issued to, and
the account its user name resolved to. -/
inductive Output where
  | attributed (issuedTo : Option Nat) (account : Nat)
  deriving DecidableEq, Repr

def refuse (message : String) (httpStatus : Nat) : Thread :=
  .returned (.refused [⟨message, "", httpStatus⟩])

def unauthorized : Thread := .returned (.refused [⟨"", "unauthorized", 401⟩])

namespace Thread

def enter : Call → Thread
  | .handleChangeUser dataToChange userID =>
    .handleChangeUser dataToChange userID
  | .handleDeleteUser userID => .handleDeleteUser userID
  | .handleLogin password request => .handleLogin password request
  | .handlePostToken username request => .handlePostToken username request
  | .handleDeleteToken username tokenPrefix =>
    .handleDeleteToken username tokenPrefix
  | .basicAuth method urlpath username password =>
    .basicAuth method urlpath username password
  | .bearerAuth token uri method => .bearerAuth token uri method
  | .session call => .sessionCall .plain (.enter call.call)

end Thread

/-- `handleChangeUser` up to the provider: `Change` with the checks of
`addUser` and `updateUser`. -/
def changeUser (settings : Settings) (directory : Directory)
    (dataToChange : User) (userID : String) : Thread :=
  match settings.service.prepareChange dataToChange userID with
  | .error errs => .returned (.refused errs)
  | .ok prepared =>
    let retire := (userID ≠ "" && dataToChange.password ≠ "") ||
      dataToChange.passwordExpired = some true
    if userID = "" then
      match directory.getByUsername prepared.username with
      | some _ => .returned (.refused [Directory.anotherUserExists])
      | none => .provide prepared userID retire
    else
      match directory.getByUsername userID with
      | none => .returned (.refused [Directory.cannotFind userID])
      | some _ =>
        if prepared.username ≠ "" ∧ prepared.username ≠ userID ∧
            (directory.getByUsername prepared.username).isSome then
          .returned (.refused [Directory.anotherUserExists])
        else .provide prepared userID retire

def provide (directory : Directory) (dataToChange : User)
    (userID : String) : Except APIError Directory :=
  if userID = "" then directory.add dataToChange
  else directory.update dataToChange userID

/-- `validateCredentials` and the check for an expired password in
`handleLogin`. -/
def login (settings : Settings) (directory : Directory) (password : String)
    (request : Session.AuthRequest) : Thread :=
  if request.username = "" then refuse "username is required" 401
  else
    match directory.getByUsername request.username with
    | none => refuse "unauthorized" 401
    | some account =>
      if settings.service.verifyPassword account.user.password password = false then
        refuse "unauthorized" 401
      else if account.user.passwordExpired = some true then
        refuse "password has expired, please change your password" 401
      else .sessionCall (.issue account.creation) (.createAuthToken request)

def maxAPITokenNameLength : Nat := 250

def postToken (directory : Directory) (now : Time) (username : String)
    (request : TokenRequest) : Thread :=
  match directory.getByUsername username with
  | none => refuse "user not found" 404
  | some account =>
    match APITokenScope.ofString request.scope with
    | none => refuse "missing or invalid scope." 400
    | some scope =>
      if request.name.utf8ByteSize = 0 ∨ maxAPITokenNameLength ≤ request.name.utf8ByteSize then
        .returned (.refused [⟨"missing or invalid name.",
          "field name is required, 250 characters max", 400⟩])
      else if scope = .clientsAuth ∧ account.user.isAdmin = false then
        refuse ("current user should belong to Administrators group " ++
          "to create a token with this scope") 400
      else .saveToken
        { token :=
            { username := account.user.username
              tokenPrefix := request.tokenPrefix
              name := request.name
              createdAt := now
              expiresAt := some request.expiresAt
              scope := scope
              token := request.tokenHash }
          issuedTo := account.creation }

/-- `SqliteProvider.Save` of the token table: a conflict on the user name and
the prefix keeps the stored token and its scope. -/
def saveToken (apiTokens : List IssuedToken) (issued : IssuedToken) : List IssuedToken :=
  if apiTokens.any fun stored =>
      stored.token.username = issued.token.username &&
        stored.token.tokenPrefix = issued.token.tokenPrefix then
    apiTokens.map fun stored =>
      if stored.token.username = issued.token.username ∧
          stored.token.tokenPrefix = issued.token.tokenPrefix then
        { stored with token :=
          { stored.token with
            expiresAt := issued.token.expiresAt <|> stored.token.expiresAt
            name :=
              if issued.token.name ≠ "" then issued.token.name
              else stored.token.name } }
      else stored
  else apiTokens ++ [issued]

/-- `handleBasicAuth` up to the token table. -/
def basicAuth (settings : Settings) (directory : Directory)
    (method urlpath username password : String) : Thread :=
  if username = "" then unauthorized
  else
    match directory.getByUsername username with
    | none => unauthorized
    | some account =>
      if account.user.passwordExpired = some true then
        .returned (.refused [⟨"", "password has expired, please change your password", 401⟩])
      else if settings.secondFactor = false ∧ settings.service.verifyPassword account.user.password
            password = true then
        .returned .authorizedByPassword
      else .apiToken method urlpath username password

def apiTokenPrefixLength : Nat := 8

/-- `authorization.Extract`: the parts before and after the first
underscore. -/
def extract (prefixedpwd : String) : Option (String × String) :=
  match prefixedpwd.toList.span (· ≠ '_') with
  | (first, '_' :: rest) =>
    if (String.ofList first).utf8ByteSize = apiTokenPrefixLength then
      some (String.ofList first, String.ofList rest)
    else none
  | _ => none

def routeMatches (urlpath route : String) : Bool :=
  let full := "/api/v1" ++ route
  urlpath = route || urlpath = full || (route ++ "/").isPrefixOf urlpath ||
    (full ++ "/").isPrefixOf urlpath

def readScopeDenied (urlpath : String) : Bool :=
  ["/ws", "/ws-ticket", "/me/totp-secret"].any (routeMatches urlpath) ||
    "/vault/".isPrefixOf urlpath || "/api/v1/vault/".isPrefixOf urlpath

def scopeAllows (method urlpath : String) : APITokenScope → Bool
  | .read => method = "GET" && !readScopeDenied urlpath
  | .readWrite => true
  | .clientsAuth => routeMatches urlpath "/clients-auth"

def apiTokenAuth (settings : Settings) (apiTokens : List IssuedToken)
    (now : Time) (method urlpath username password : String) : Thread :=
  match extract password with
  | none => unauthorized
  | some (tokenPrefix, secret) =>
    match apiTokens.find? fun stored =>
        stored.token.username = username && stored.token.tokenPrefix = tokenPrefix with
    | none => unauthorized
    | some stored =>
      if stored.token.expiresAt.any (· < now) then unauthorized
      else if settings.service.verifyPassword stored.token.token secret = false then
        unauthorized
      else if scopeAllows method urlpath stored.token.scope = false then
        .returned (.refused [⟨"", "the scope of the provided token is " ++
          "not authorized for this operation", 403⟩])
      else .resolveUser username (some stored.issuedTo)

/-- `lookupUser` for a bearer token up to the increase of the session's
lifetime. -/
def bearerAuth (server : Server) (token : Nat) (uri method : String) :
    Thread :=
  match server.sessions.parseToken token with
  | none => unauthorized
  | some claims =>
    match Session.validateBearerToken server.sessions claims uri method with
    | (true, some found) =>
      .sessionCall (.authenticated claims.username server.issuedTo[claims.origin]?)
        (.save (Session.increaseLifetime server.sessions.clock found) .done)
    | _ => unauthorized

def Server.withDirectory (server : Server) (directory : Directory) :
    Server :=
  { server with directory := directory }

def Server.withTokens (server : Server) (apiTokens : List IssuedToken) :
    Server :=
  { server with apiTokens := apiTokens }

def deleteToken (server : Server) (username tokenPrefix : String) : Server × Thread × List Output :=
  let matching := fun stored : IssuedToken =>
    stored.token.username = username && stored.token.tokenPrefix = tokenPrefix
  if tokenPrefix.utf8ByteSize ≠ apiTokenPrefixLength then
    (server, refuse "missing or invalid token prefix." 400, [])
  else if (server.directory.getByUsername username).isNone then
    (server, refuse "user not found" 404, [])
  else if server.apiTokens.any matching then
    (server.withTokens (server.apiTokens.filter fun stored =>
      !matching stored), .returned .done, [])
  else (server, .returned (.refused
    [⟨"", "cannot find API Token by prefix " ++ tokenPrefix, 500⟩]), [])

/-- The session store after a section; a new session belongs to the account
that logged in. -/
def Server.serve (server : Server) (purpose : Purpose) (sessions : Session.Store) : Server :=
  { server with
    sessions := sessions
    issuedTo :=
      match purpose with
      | .issue owner =>
        if server.sessions.created.length < sessions.created.length then
          server.issuedTo ++ [owner]
        else server.issuedTo
      | _ => server.issuedTo }

/-- A request goes on after its call to the session store; an error of the
write-back in `checkBearerToken` is only logged. -/
def resume : Purpose → Session.Result → Thread
  | .authenticated username credential, _ => .resolveUser username credential
  | _, .failed err => .returned (.refused [⟨"", err, 500⟩])
  | _, _ => .returned .done

def atomic (settings : Settings) (server : Server) :
    Thread → Choice → Option (Server × Thread × List Output)
  | .handleChangeUser dataToChange userID, .proceed =>
    some (server, changeUser settings server.directory dataToChange userID, [])
  | .provide dataToChange userID retire, .proceed =>
    match provide server.directory dataToChange userID with
    | .error err => some (server, .returned (.refused [err]), [])
    | .ok directory => some (server.withDirectory directory,
        if retire then
          .sessionCall .plain (.enter (.deleteAllByUser userID))
        else .returned .done, [])
  | .handleDeleteUser userID, .proceed =>
    match server.directory.getByUsername userID with
    | none => some (server, .returned (.refused [Directory.cannotFind userID]), [])
    | some _ => some (server, .remove userID, [])
  | .remove userID, .proceed =>
    match server.directory.delete userID with
    | .error err => some (server, .returned (.refused [err]), [])
    | .ok directory =>
      some (server.withDirectory directory, .returned .done, [])
  | .handleLogin password request, .proceed =>
    some (server, login settings server.directory password request, [])
  | .handlePostToken username request, .proceed =>
    some (server, postToken server.directory server.sessions.clock username request, [])
  | .saveToken issued, .sql result =>
    match result with
    | .error err => some (server, refuse err 400, [])
    | .ok () =>
      if issued.token.name ≠ "" ∧ server.apiTokens.any fun stored =>
          stored.token.username = issued.token.username &&
            stored.token.name = issued.token.name then
        some (server, refuse "A token with the same name already exists" 400, [])
      else
        some (server.withTokens (saveToken server.apiTokens issued), .returned .done, [])
  | .handleDeleteToken username tokenPrefix, .proceed =>
    some (deleteToken server username tokenPrefix)
  | .basicAuth method urlpath username password, .proceed =>
    some (server, basicAuth settings server.directory method urlpath username password, [])
  | .apiToken method urlpath username password, .proceed =>
    some (server, apiTokenAuth settings server.apiTokens
      server.sessions.clock method urlpath username password, [])
  | .bearerAuth token uri method, .proceed =>
    some (server, bearerAuth server token uri method, [])
  | .sessionCall purpose (.returned result), .proceed =>
    some (server, resume purpose result, [])
  | .sessionCall purpose inner, .session choice =>
    match Session.atomic server.sessions inner choice with
    | none => none
    | some (sessions, after, _) =>
      some (server.serve purpose sessions, .sessionCall purpose after, [])
  | .resolveUser username credential, .proceed =>
    match server.directory.getByUsername username with
    | none => some (server, refuse "unauthorized access" 401, [])
    | some account => some (server, .returned .attributed,
        [.attributed credential account.creation])
  | _, _ => none

def environment (server : Server) (event : Session.Event) : Option (Server × List Output) :=
  match Session.environment server.sessions event with
  | none => none
  | some (sessions, _) => some ({ server with sessions := sessions }, [])

def program (settings : Settings) : Program Server Thread Call Choice Session.Event Output where
  enter := Thread.enter
  atomic := atomic settings
  environment := environment

def initial (clock : Time) : Config Server Thread :=
  { shared :=
      { directory := ⟨[], 0⟩
        apiTokens := []
        sessions := .new clock
        issuedTo := [] }
    threads := [] }

end ProxiPort.Accounts
