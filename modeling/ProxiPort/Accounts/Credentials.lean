import ProxiPort.Accounts.Requests
import ProxiPort.Session.BearerToken

/-!
# What a request does to accounts and credentials

`Stepped` lists the effects of one section of a request.  A credential belongs
to a user name when whatever account has that name is the account the
credential was issued to; a change of the directory can break this only for
the name that it gives to an account.
-/

namespace ProxiPort.Accounts

open Concurrency List

def sessionFor : Session.Thread → Option String
  | .createAuthToken request => some request.username
  | .add session _ => some session.username
  | _ => none

theorem sessionFor_enter (call : SessionCall) : sessionFor (.enter call.call) = none := by
  cases call <;> simp only [SessionCall.call, Session.Thread.enter]
  all_goals try split
  all_goals rfl

namespace Thread

def inner : Thread → Option Session.Thread
  | .sessionCall _ inner => some inner
  | _ => none

def Idle : Thread → Prop
  | .saveToken _ | .resolveUser _ _ => False
  | .sessionCall purpose inner =>
    purpose = .plain ∧ inner.value = none ∧ sessionFor inner = none
  | _ => True

theorem idle_enter (call : Call) : (Thread.enter call).Idle := by
  cases call with
  | session call =>
    exact ⟨rfl, Session.Thread.value_enter _, sessionFor_enter call⟩
  | _ => trivial

end Thread

inductive Stepped (server : Server) :
    Thread → Server → Thread → List Output → Prop where
  | moved {thread after : Thread} : after.Idle → Stepped server thread server after []
  | provided {dataToChange : User} {userID : String} {retire : Bool}
      {directory : Directory} {after : Thread} :
      provide server.directory dataToChange userID = .ok directory →
      after.Idle →
      Stepped server (.provide dataToChange userID retire) (server.withDirectory directory) after []
  | removed {userID : String} {directory : Directory} :
      server.directory.delete userID = .ok directory →
      Stepped server (.remove userID) (server.withDirectory directory) (.returned .done) []
  | loggedIn {thread : Thread} {request : Session.AuthRequest} {account : Account} :
      server.directory.getByUsername request.username = some account →
      Stepped server thread server
        (.sessionCall (.issue account.creation) (.createAuthToken request)) []
  | tokenMade {thread : Thread} {issued : IssuedToken} {account : Account} :
      account ∈ server.directory.accounts →
      issued.token.username = account.user.username →
      issued.issuedTo = account.creation →
      Stepped server thread server (.saveToken issued) []
  | tokenSaved {issued : IssuedToken} : Stepped server (.saveToken issued)
        (server.withTokens (saveToken server.apiTokens issued)) (.returned .done) []
  | tokenDeleted {thread : Thread} {kept : IssuedToken → Bool} : Stepped server thread
        (server.withTokens (server.apiTokens.filter kept)) (.returned .done) []
  | tokenMatched {thread : Thread} {stored : IssuedToken} : stored ∈ server.apiTokens →
      Stepped server thread server (.resolveUser stored.token.username (some stored.issuedTo)) []
  | sessionMatched {thread : Thread} {claims : Session.Token} {found value : Session.Tracked} :
      claims ∈ server.sessions.minted →
      server.sessions.get claims.sessionID = some found →
      value.SameSession found →
      Stepped server thread server (.sessionCall
          (.authenticated claims.username server.issuedTo[claims.origin]?) (.save value .done)) []
  | served {purpose : Purpose} {inner after : Session.Thread}
      {sessions : Session.Store} {shown : List Session.Output} :
      Session.Stepped server.sessions inner sessions after shown →
      Stepped server (.sessionCall purpose inner)
        (server.serve purpose sessions) (.sessionCall purpose after) []
  | resumed {purpose : Purpose} {result : Session.Result} :
      Stepped server (.sessionCall purpose (.returned result)) server (resume purpose result) []
  | attributed {username : String} {credential : Option Nat} {account : Account} :
      server.directory.getByUsername username = some account →
      Stepped server (.resolveUser username credential) server
        (.returned .attributed) [.attributed credential account.creation]

section Handlers

variable {settings : Settings} {server : Server} {thread : Thread}

theorem changeUser_idle (directory : Directory) (dataToChange : User) (userID : String) :
    (changeUser settings directory dataToChange userID).Idle := by
  unfold changeUser
  split
  · trivial
  · dsimp only
    split
    · split <;> trivial
    · split
      · trivial
      · split <;> trivial

theorem login_stepped (password : String) (request : Session.AuthRequest) :
    Stepped server thread server (login settings server.directory password request) [] := by
  unfold login
  split
  · exact .moved trivial
  · split
    · exact .moved trivial
    · rename_i account found
      split
      · exact .moved trivial
      · split
        · exact .moved trivial
        · exact .loggedIn found

theorem postToken_stepped (now : Time) (username : String) (request : TokenRequest) :
    Stepped server thread server (postToken server.directory now username request) [] := by
  unfold postToken
  split
  · exact .moved trivial
  · rename_i account found
    have member : account ∈ server.directory.accounts := mem_of_find?_eq_some found
    split
    · exact .moved trivial
    · split
      · exact .moved trivial
      · split
        · exact .moved trivial
        · exact .tokenMade member rfl rfl

theorem basicAuth_idle (directory : Directory) (method urlpath username password : String) :
    (basicAuth settings directory method urlpath username password).Idle := by
  unfold basicAuth
  split
  · trivial
  · split
    · trivial
    · split
      · trivial
      · split <;> trivial

theorem apiTokenAuth_stepped (now : Time) (method urlpath username password : String) :
    Stepped server thread server (apiTokenAuth settings server.apiTokens now method urlpath username
        password) [] := by
  unfold apiTokenAuth
  split
  · exact .moved trivial
  · split
    · exact .moved trivial
    · rename_i stored found
      have named := find?_some found
      simp only [Bool.and_eq_true, decide_eq_true_eq] at named
      split
      · exact .moved trivial
      · split
        · exact .moved trivial
        · split
          · exact .moved trivial
          · rw [← named.1]
            exact .tokenMatched (mem_of_find?_eq_some found)

theorem bearerAuth_stepped (token : Nat) (uri method : String) :
    Stepped server thread server (bearerAuth server token uri method) [] := by
  unfold bearerAuth
  split
  · exact .moved trivial
  · rename_i claims parsed
    split
    · rename_i found validated
      exact .sessionMatched (Session.Store.mem_of_parseToken parsed)
        (Session.validateBearerToken_some validated) (Session.sameSession_increaseLifetime _ _)
    · exact .moved trivial

theorem deleteToken_stepped (username tokenPrefix : String) :
    Stepped server thread (deleteToken server username tokenPrefix).1
      (deleteToken server username tokenPrefix).2.1
      (deleteToken server username tokenPrefix).2.2 := by
  unfold deleteToken
  dsimp only
  split
  · exact .moved trivial
  · split
    · exact .moved trivial
    · split
      · exact .tokenDeleted
      · exact .moved trivial

end Handlers

theorem atomic_stepped {settings : Settings} {server next : Server}
    {thread after : Thread} {choice : Choice} {shown : List Output}
    (ran : atomic settings server thread choice = some (next, after, shown)) :
    Stepped server thread next after shown := by
  cases thread with
  | handleChangeUser dataToChange userID =>
    cases choice <;> cases ran
    exact .moved (changeUser_idle _ _ _)
  | provide dataToChange userID retire =>
    cases choice <;> simp only [atomic, reduceCtorEq] at ran
    split at ran <;> cases ran
    · exact .moved trivial
    · rename_i directory provided
      refine .provided provided ?_
      split
      · exact ⟨rfl, rfl, rfl⟩
      · trivial
  | handleDeleteUser userID =>
    cases choice <;> simp only [atomic, reduceCtorEq] at ran
    split at ran <;> cases ran
    all_goals exact .moved trivial
  | remove userID =>
    cases choice <;> simp only [atomic, reduceCtorEq] at ran
    split at ran <;> cases ran
    · exact .moved trivial
    · rename_i directory deleted
      exact .removed deleted
  | handleLogin password request =>
    cases choice <;> cases ran
    exact login_stepped password request
  | handlePostToken username request =>
    cases choice <;> cases ran
    exact postToken_stepped _ username request
  | saveToken issued =>
    cases choice <;> simp only [atomic, reduceCtorEq] at ran
    split at ran
    · cases ran
      exact .moved trivial
    · split at ran <;>
        cases ran
      · exact .moved trivial
      · exact .tokenSaved
  | handleDeleteToken username tokenPrefix =>
    cases choice <;> simp only [atomic, Option.some.injEq, reduceCtorEq] at ran
    have stepped := @deleteToken_stepped server
      (.handleDeleteToken username tokenPrefix) username tokenPrefix
    rw [ran] at stepped
    exact stepped
  | basicAuth method urlpath username password =>
    cases choice <;> cases ran
    exact .moved (basicAuth_idle _ _ _ _ _)
  | apiToken method urlpath username password =>
    cases choice <;> cases ran
    exact apiTokenAuth_stepped _ method urlpath username password
  | bearerAuth token uri method =>
    cases choice <;> cases ran
    exact bearerAuth_stepped token uri method
  | sessionCall purpose inner =>
    cases choice with
    | proceed =>
      cases inner <;> cases ran
      exact .resumed
    | sql result => cases inner <;> simp [atomic] at ran
    | session choice =>
      simp only [atomic] at ran
      split at ran
      · simp at ran
      · rename_i sessions afterInner shownInner ranInner
        cases ran
        exact .served (Session.atomic_stepped ranInner)
  | resolveUser username credential =>
    cases choice <;> simp only [atomic, reduceCtorEq] at ran
    split at ran <;> cases ran
    · exact .moved trivial
    · rename_i account found
      exact .attributed found
  | returned result => cases choice <;> simp [atomic] at ran

/-- Whatever account has the user name, the credential was issued to it. -/
def Belongs (directory : Directory) (username : String) (credential : Option Nat) : Prop :=
  ∀ account ∈ directory.accounts, account.user.username = username →
    credential = some account.creation

def NamesDistinct (directory : Directory) : Prop :=
  (directory.accounts.map fun account => account.user.username).Nodup

variable {directory : Directory} {account : Account}

theorem NamesDistinct.belongs (distinct : NamesDistinct directory)
    (member : account ∈ directory.accounts) :
    Belongs directory account.user.username (some account.creation) := by
  intro other otherMember same
  rw [inj_on_of_nodup_map distinct otherMember member same]

variable {credential : Option Nat} {username : String}

theorem Belongs.getByUsername (belongs : Belongs directory username credential)
    (found : directory.getByUsername username = some account) :
    credential = some account.creation := by
  apply belongs account (mem_of_find?_eq_some found)
  simpa using find?_some found

def takenName (dataToChange : User) (userID : String) : Option String :=
  if userID = "" then some dataToChange.username
  else if dataToChange.username = "" ∨ dataToChange.username = userID then
    none
  else some dataToChange.username

def renamed (dataToChange : User) (usernameToFind username : String) :
    String :=
  if username = usernameToFind ∧ dataToChange.username ≠ "" then
    dataToChange.username
  else username

variable {usernameToFind : String}

theorem renamed_cases (dataToChange : User) (given : usernameToFind ≠ "") (username : String) :
    renamed dataToChange usernameToFind username = username ∨ username = usernameToFind ∧
        takenName dataToChange usernameToFind =
          some (renamed dataToChange usernameToFind username) := by
  unfold renamed
  split
  · rename_i renames
    obtain ⟨rfl, present⟩ := renames
    by_cases same : dataToChange.username = username
    · exact .inl same
    · refine .inr ⟨rfl, ?_⟩
      simp [takenName, given, present, same]
  · exact .inl rfl

variable {directory next : Directory} {dataToChange : User}

theorem update_accounts (updated : directory.update dataToChange usernameToFind = .ok next) :
    ∃ change,
      next.accounts = directory.accounts.map change ∧
      (∀ account, (change account).creation = account.creation) ∧
      (∀ account, (change account).user.username =
        renamed dataToChange usernameToFind account.user.username) ∧
      (∀ username ∈ takenName dataToChange usernameToFind,
        usernameToFind ≠ "" → ∀ account ∈ directory.accounts,
          account.user.username ≠ username) := by
  unfold Directory.update at updated
  split at updated
  · simp at updated
  · rename_i free
    split at updated
    · simp at updated
    · cases updated
      refine ⟨_, rfl, ?_, ?_, ?_⟩
      · intro account
        split <;> rfl
      · intro account
        by_cases named : account.user.username = usernameToFind
        · by_cases given : dataToChange.username = "" <;>
            simp [renamed, User.apply, named, given]
        · simp [renamed, named]
      · intro username taken given account member same
        simp only [takenName, if_neg given, Option.mem_def] at taken
        split at taken
        · simp at taken
        · rename_i renames
          simp only [Option.some.injEq] at taken
          subst taken
          apply free
          refine ⟨fun empty => renames (.inl empty), fun kept => renames (.inr kept), ?_⟩
          exact any_eq_true.mpr ⟨account, member, by simpa using same⟩

theorem add_accounts (added : directory.add dataToChange = .ok next) :
    next.accounts = directory.accounts ++ [⟨dataToChange, directory.creations⟩] ∧
    ∀ account ∈ directory.accounts, account.user.username ≠ dataToChange.username := by
  unfold Directory.add at added
  split at added
  · simp at added
  · rename_i free
    cases added
    refine ⟨rfl, ?_⟩
    intro account member same
    exact free (any_eq_true.mpr ⟨account, member, by simpa using same⟩)

variable {userID : String}

theorem provide_belongs (provided : provide directory dataToChange userID = .ok next)
    (free : takenName dataToChange userID ≠ some username)
    (belongs : Belongs directory username credential) : Belongs next username credential := by
  intro account member named
  unfold provide at provided
  split at provided
  · rename_i empty
    rw [(add_accounts provided).1] at member
    rcases mem_or_eq_of_mem_concat member with old | rfl
    · exact belongs account old named
    · exact absurd (by simp [takenName, empty, ← named]) free
  · rename_i given
    obtain ⟨change, accounts, creation, name, -⟩ := update_accounts provided
    rw [accounts] at member
    obtain ⟨before, old, rfl⟩ := mem_map.mp member
    rw [creation]
    rw [name] at named
    rcases renamed_cases dataToChange given before.user.username with
      kept | ⟨-, taken⟩
    · exact belongs before old (kept.symm.trans named)
    · rw [named] at taken
      exact absurd taken free

theorem provide_namesDistinct (provided : provide directory dataToChange userID = .ok next)
    (distinct : NamesDistinct directory) : NamesDistinct next := by
  unfold provide at provided
  split at provided
  · obtain ⟨accounts, free⟩ := add_accounts provided
    rw [NamesDistinct, accounts, map_append]
    refine List.Nodup.append distinct (nodup_singleton _) ?_
    simp only [map_cons, map_nil, disjoint_singleton]
    intro taken
    obtain ⟨account, member, same⟩ := mem_map.mp taken
    exact free account member same
  · rename_i given
    obtain ⟨change, accounts, -, name, free⟩ := update_accounts provided
    have names : next.accounts.map (fun account => account.user.username) =
        (directory.accounts.map fun account => account.user.username).map
          (renamed dataToChange userID) := by
      rw [accounts, map_map, map_map]
      exact map_congr_left fun account _ => name account
    rw [NamesDistinct, names]
    refine List.Nodup.map_on ?_ distinct
    intro left leftMember right rightMember same
    obtain ⟨leftAccount, leftFound, rfl⟩ := mem_map.mp leftMember
    obtain ⟨rightAccount, rightFound, rfl⟩ := mem_map.mp rightMember
    -- A name that is taken over belongs to no other account.
    rcases renamed_cases dataToChange given leftAccount.user.username with
      leftKept | ⟨leftFirst, leftTaken⟩ <;>
    rcases renamed_cases dataToChange given rightAccount.user.username with
      rightKept | ⟨rightFirst, rightTaken⟩
    · rw [← leftKept, same, rightKept]
    · exact absurd (leftKept.symm.trans same) (free _ rightTaken given leftAccount leftFound)
    · exact absurd (rightKept.symm.trans same.symm) (free _ leftTaken given rightAccount rightFound)
    · rw [leftFirst, rightFirst]

theorem delete_sublist (deleted : directory.delete userID = .ok next) :
    next.accounts.Sublist directory.accounts := by
  unfold Directory.delete at deleted
  split at deleted
  · simp at deleted
  · cases deleted
    exact eraseP_sublist

end ProxiPort.Accounts
