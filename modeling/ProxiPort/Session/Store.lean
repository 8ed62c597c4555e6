import ProxiPort.Foundation.Keyed
import ProxiPort.Go.Strings
import ProxiPort.Go.Time
import Mathlib.Data.List.Sort

/-!
# The session store

`server/api/session`: sessions live in a table of an SQLite database and in an
expiring in-memory cache in front of it.  A new row gets the highest id in the
table plus one.

To be able to say which session a look-up returns, every session carries the
number of the insertion it goes back to, its origin.  The list `created` holds
the sessions as they were inserted.  Neither exists in the code.
-/

namespace ProxiPort.Session

open Keyed

structure APISession where
  sessionID : Int
  expiresAt : Time
  lastAccessAt : Time
  username : String
  userAgent : String
  ipAddress : String
  deriving DecidableEq, Repr

structure Tracked where
  session : APISession
  origin : Nat
  deriving DecidableEq, Repr

/-- A cache entry.  It is stored under the id of its session. -/
structure Item where
  object : Tracked
  expiration : Option Time
  deriving DecidableEq, Repr

namespace Item

def key (item : Item) : Int := item.object.session.sessionID

def live (now : Time) (item : Item) : Bool :=
  match item.expiration with
  | none => true
  | some expiration => now ≤ expiration

end Item

structure Scope where
  uri : String
  method : String
  exclude : Bool
  deriving DecidableEq, Repr

/-- The claims of a minted bearer token.  The origin is that of the session it
was minted for. -/
structure Token where
  username : String
  sessionID : Int
  scopes : List Scope
  expiresAt : Int
  origin : Nat
  deriving DecidableEq, Repr

structure Store where
  clock : Time
  rows : List Tracked
  cache : List Item
  created : List APISession
  minted : List Token

def defaultTokenLifetime : Int := 600 * second

namespace Store

def new (clock : Time) : Store :=
  { clock := clock
    rows := []
    cache := []
    created := []
    minted := [] }

/-- The id SQLite gives to a new row of the table. -/
def nextID (rows : List Tracked) : Int :=
  rows.foldr (fun row highest => max row.session.sessionID highest) 0 + 1

def add (store : Store) (session : APISession) : Store × Tracked :=
  let inserted := { session with sessionID := nextID store.rows }
  let row := ⟨inserted, store.created.length⟩
  ({ store with
      rows := store.rows ++ [row]
      created := store.created ++ [inserted] }, row)

/-- `SqliteProvider.update`: all columns of the row with that id, if there is
one. -/
def update (store : Store) (value : Tracked) : Store :=
  { store with rows := store.rows.map fun row =>
      if row.session.sessionID = value.session.sessionID then value else row }

def deleteRows (store : Store) (condition : Tracked → Bool) : Store :=
  { store with rows := store.rows.filter fun row => !condition row }

/-- `cache.Set` for a session: a session that has just expired is cached for
the default lifetime, one that expired earlier for ever. -/
def cacheSet (store : Store) (value : Tracked) : Store :=
  let duration := value.session.expiresAt - store.clock
  let expiration :=
    if duration = 0 then some (store.clock + defaultTokenLifetime)
    else if 0 < duration then some (store.clock + duration)
    else none
  { store with cache := put Item.key ⟨value, expiration⟩ store.cache }

def uncache (store : Store) (sessionID : Int) : Store :=
  { store with cache := remove Item.key sessionID store.cache }

def items (store : Store) : List Item := store.cache.filter (Item.live store.clock)

def get (store : Store) (sessionID : Int) : Option Tracked :=
  ((lookup Item.key sessionID store.cache).filter (Item.live store.clock)).map Item.object

def storageGet (store : Store) (sessionID : Int) : Option Tracked :=
  lookup (fun row : Tracked => row.session.sessionID) sessionID store.rows

/-- `Cache.GetAllByUser`, oldest access first. -/
def getAllByUser (store : Store) (username : String) : List Tracked :=
  ((store.items.map Item.object).filter
    fun value => value.session.username = username).insertionSort
      fun left right => left.session.lastAccessAt ≤ right.session.lastAccessAt

/-- The origins of the sessions a deletion of this cache key takes away for
good, because the table does not have them. -/
def orphans (store : Store) (sessionID : Int) : List Nat :=
  ((store.cache.filter fun item => item.key = sessionID &&
    store.rows.all fun row => row.origin ≠ item.object.origin).map fun item => item.object.origin)

/-- `ParseToken`: only tokens the server has minted carry a valid signature,
and a token with an expiry is refused from then on. -/
def parseToken (store : Store) (token : Nat) : Option Token :=
  (store.minted[token]?).filter fun claims =>
    claims.expiresAt = 0 || Time.unix store.clock < claims.expiresAt

end Store

/-- `IncreaseSessionLifetime` up to its `Save`. -/
def increaseLifetime (now : Time) (value : Tracked) : Tracked :=
  if value.session.expiresAt < now + defaultTokenLifetime then
    { value with session :=
      { value.session with expiresAt := now + defaultTokenLifetime } }
  else value

def currentURIMatchesTokenScopes (currentURI currentMethod : String)
    (tokenScopes : List Scope) : Bool :=
  if tokenScopes = [] then true
  else
    let uri := "/" ++ Go.trim currentURI '/'
    let matching := tokenScopes.filter fun scope =>
      (scope.uri = "*" || uri = scope.uri) && (scope.method = "*" || currentMethod = scope.method)
    matching.any (fun scope => !scope.exclude) && !matching.any fun scope => scope.exclude

end ProxiPort.Session
