import ProxiPort.Foundation.Threads
import ProxiPort.Session.Store

/-!
# Requests that use the session store

The calls of `server/api/session/cache.go`, `CreateAuthToken` and
`ValidateBearerToken` of `server/bearer/bearer_auth.go`, and the handlers that
read a session and write it back: `checkBearerToken`, which increases the
lifetime of the session it has validated, and `updateTokenAccess`.  Every SQL
statement and every access to the cache is a section of its own.
-/

namespace ProxiPort.Session

open Concurrency

structure AuthRequest where
  lifetime : Int
  username : String
  scopes : List Scope
  userAgent : String
  remoteAddress : String
  deriving DecidableEq, Repr

inductive Call where
  | createAuthToken (request : AuthRequest)
  | checkBearerToken (token : Nat) (uri method : String)
  | updateTokenAccess (token : Nat) (accessTime : Time) (userAgent remoteAddress : String)
  | get (sessionID : Int)
  | storageGet (sessionID : Int)
  | getAllByUser (username : String)
  | delete (sessionID : Int)
  | deleteByID (username : String) (sessionID : Int)
  | deleteAllByUser (username : String)
  | deleteExpired

inductive AfterSave where
  | mint (scopes : List Scope)
  | done
  deriving DecidableEq, Repr

inductive Target where
  | byID (sessionID : Int)
  | all
  deriving DecidableEq, Repr

namespace Target

def covers : Target → Int → Bool
  | .byID sessionID, other => sessionID = other
  | .all, _ => true

/-- `deleteUserSessionFromStorage`, `deleteUserSessionsFromStorage`. -/
def failure : Target → String → String
  | .byID _, err => "unable to delete session from storage: " ++ err
  | .all, err => "unable to delete sessions from storage: " ++ err

end Target

inductive Result where
  | succeeded
  | token (token : Nat)
  | found (sessions : List Tracked)
  | unauthorized
  | failed (err : String)
  deriving DecidableEq, Repr

inductive Thread where
  | createAuthToken (request : AuthRequest)
  | checkBearerToken (token : Nat) (uri method : String)
  | updateTokenAccess (token : Nat) (accessTime : Time) (userAgent remoteAddress : String)
  | get (sessionID : Int)
  | storageGet (sessionID : Int)
  | getAllByUser (username : String)
  | add (session : APISession) (after : AfterSave)
  | update (value : Tracked) (after : AfterSave)
  | cacheSet (value : Tracked) (after : AfterSave)
  | mint (value : Tracked) (scopes : List Scope)
  | delete (sessionID : Int)
  | deleteCached (sessionID : Int) (removed : List Nat)
  | deleteByID (username : String) (sessionID : Int)
  | listItems (username : String) (target : Target)
  | uncache (username : String) (keys : List Int) (removed : List Nat) (target : Target)
  | unstore (username : String) (removed : List Nat) (target : Target)
  | deleteExpired
  | returned (result : Result)
  deriving DecidableEq, Repr

inductive Choice where
  | proceed
  | pick (index : Nat)
  | sql (result : Except String Unit)
  | sign (result : Except String Unit)

inductive Event where
  | tick (now : Time)
  | janitor

/-- A look-up returned a session; a token was accepted on a session; a deletion
that took a session away has returned.  Sessions are named by origin. -/
inductive Output where
  | lookedUp (session : Nat)
  | accepted (token session : Nat)
  | deleted (session : Nat)
  deriving DecidableEq, Repr

namespace Thread

def enter : Call → Thread
  | .createAuthToken request => .createAuthToken request
  | .checkBearerToken token uri method => .checkBearerToken token uri method
  | .updateTokenAccess token accessTime userAgent remoteAddress =>
    .updateTokenAccess token accessTime userAgent remoteAddress
  | .get sessionID => .get sessionID
  | .storageGet sessionID => .storageGet sessionID
  | .getAllByUser username => .getAllByUser username
  | .delete sessionID => .delete sessionID
  | .deleteByID username sessionID =>
    if sessionID = -1 then .listItems username (.byID sessionID)
    else .deleteByID username sessionID
  | .deleteAllByUser username => .listItems username .all
  | .deleteExpired => .deleteExpired

/-- `Cache.Save` up to its SQL statement. -/
def save (value : Tracked) (after : AfterSave) : Thread :=
  if value.session.sessionID = 0 then .add value.session after
  else .update value after

/-- The loop of `deleteUserSessionsFromCache`. -/
def uncacheNext (username : String) (keys : List Int) (removed : List Nat)
    (target : Target) : Thread :=
  if keys = [] then .unstore username removed target
  else .uncache username keys removed target

def afterSave (value : Tracked) : AfterSave → Thread
  | .mint scopes => .mint value scopes
  | .done => .returned .succeeded

end Thread

def validateBearerToken (store : Store) (claims : Token)
    (uri method : String) : Bool × Option Tracked :=
  if currentURIMatchesTokenScopes uri method claims.scopes = false then
    (false, none)
  else if claims.username = "" then (false, none)
  else
    match store.get claims.sessionID with
    | none => (false, none)
    | some found => (decide (store.clock < found.session.expiresAt), some found)

/-- `checkBearerToken` up to the increase of the session's lifetime. -/
def checkBearerToken (store : Store) (token : Nat) (uri method : String) : Thread × List Output :=
  match store.parseToken token with
  | none => (.returned .unauthorized, [])
  | some claims =>
    match validateBearerToken store claims uri method with
    | (_, none) => (.returned .unauthorized, [])
    | (false, some found) =>
      (.returned .unauthorized, [.lookedUp found.origin])
    | (true, some found) =>
      (.save (increaseLifetime store.clock found) .done,
        [.lookedUp found.origin, .accepted claims.origin found.origin])

/-- `updateTokenAccess` up to its `Save`. -/
def updateTokenAccess (store : Store) (token : Nat) (accessTime : Time)
    (userAgent remoteAddress : String) : Thread × List Output :=
  match store.parseToken token with
  | none => (.returned .unauthorized, [])
  | some claims =>
    match store.get claims.sessionID with
    | none => (.returned .succeeded, [])
    | some found =>
      (.save { found with session :=
          { found.session with
            lastAccessAt := accessTime
            userAgent := userAgent
            ipAddress := remoteAddress } } .done,
        [.lookedUp found.origin])

def atomic (store : Store) : Thread → Choice → Option (Store × Thread × List Output)
  | .createAuthToken request, .proceed =>
    if request.username = "" then
      some (store, .returned (.failed "username cannot be empty"), [])
    else some (store, .add
      { sessionID := 0
        expiresAt := store.clock + request.lifetime
        lastAccessAt := store.clock
        username := request.username
        userAgent := request.userAgent
        ipAddress := request.remoteAddress } (.mint request.scopes), [])
  | .checkBearerToken token uri method, .proceed =>
    let (next, shown) := checkBearerToken store token uri method
    some (store, next, shown)
  | .updateTokenAccess token accessTime userAgent remoteAddress, .proceed =>
    let (next, shown) := updateTokenAccess store token accessTime userAgent remoteAddress
    some (store, next, shown)
  | .get sessionID, .proceed =>
    let found := (store.get sessionID).toList
    some (store, .returned (.found found), found.map fun value => .lookedUp value.origin)
  | .storageGet sessionID, .proceed =>
    let found := (store.storageGet sessionID).toList
    some (store, .returned (.found found), found.map fun value => .lookedUp value.origin)
  | .getAllByUser username, .proceed =>
    let found := store.getAllByUser username
    some (store, .returned (.found found), found.map fun value => .lookedUp value.origin)
  | .add session after, .sql result =>
    match result with
    | .error err => some (store, .returned (.failed ("unable to create api session: " ++ err)), [])
    | .ok () =>
      let (next, value) := store.add session
      some (next, .cacheSet value after, [])
  | .update value after, .sql result =>
    match result with
    | .error err => some (store, .returned (.failed ("unable to update api session: " ++ err)), [])
    | .ok () => some (store.update value, .cacheSet value after, [])
  | .cacheSet value after, .proceed =>
    some (store.cacheSet value, .afterSave value after, [])
  | .mint value scopes, .sign result =>
    match result with
    | .error err => some (store, .returned (.failed err), [])
    | .ok () =>
      some ({ store with minted := store.minted ++
          [{ username := value.session.username
             sessionID := value.session.sessionID
             scopes := scopes
             expiresAt := Time.unix value.session.expiresAt
             origin := value.origin }] },
        .returned (.token store.minted.length), [])
  | .delete sessionID, .sql result =>
    match result with
    | .error err => some (store, .returned
        (.failed ("unable to delete api session by token: " ++ err)), [])
    | .ok () =>
      let matching := fun row : Tracked =>
        decide (row.session.sessionID = sessionID)
      some (store.deleteRows matching, .deleteCached sessionID
        ((store.rows.filter matching).map Tracked.origin), [])
  | .deleteCached sessionID removed, .proceed =>
    some (store.uncache sessionID, .returned .succeeded,
      (removed ∪ store.orphans sessionID).map .deleted)
  | .deleteByID username sessionID, .proceed =>
    some (store.uncache sessionID,
      .unstore username (store.orphans sessionID) (.byID sessionID), [])
  | .listItems username target, .proceed =>
    some (store, .uncacheNext username ((store.items.filter fun item =>
        item.object.session.username = username).map Item.key)
      [] target, [])
  | .uncache username keys removed target, .pick index =>
    match keys[index]? with
    | none => none
    | some sessionID =>
      some (store.uncache sessionID, .uncacheNext username (keys.eraseIdx index)
          (removed ++ store.orphans sessionID) target, [])
  | .unstore username removed target, .sql result =>
    match result with
    | .error err =>
      some (store, .returned (.failed (target.failure err)), [])
    | .ok () =>
      let matching := fun row : Tracked =>
        decide (row.session.username = username) && target.covers row.session.sessionID
      some (store.deleteRows matching, .returned .succeeded,
        (removed ++ (store.rows.filter matching).map Tracked.origin).map .deleted)
  | .deleteExpired, .sql result =>
    match result with
    | .error err => some (store, .returned
        (.failed ("unable to delete expired api sessions: " ++ err)), [])
    | .ok () =>
      some (store.deleteRows fun row =>
          decide (Time.unix row.session.expiresAt ≤ Time.unix store.clock),
        .returned .succeeded, [])
  | _, _ => none

def environment (store : Store) : Event → Option (Store × List Output)
  | .tick now =>
    if store.clock ≤ now then some ({ store with clock := now }, [])
    else none
  | .janitor => some ({ store with cache := store.items }, [])

def program : Program Store Thread Call Choice Event Output where
  enter := Thread.enter
  atomic := atomic
  environment := environment

def initial (clock : Time) : Config Store Thread :=
  { shared := .new clock
    threads := [] }

end ProxiPort.Session
