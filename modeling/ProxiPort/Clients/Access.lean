import ProxiPort.Clients.Groups
import ProxiPort.Clients.Tunnel
import ProxiPort.Users.User

/-!
# Who may access a client

`getNonObsoleteClientsByUser` of `server/clients/cr.go` lists the clients of a
user, `CheckClientsAccess` of `server/clients/client_service.go` refuses clients.
-/

namespace ProxiPort.Clients

open Go List

variable (texts : Texts)

def noParams : ClientParams :=
  ⟨none, none, none, none, none, none, none, none, none, none, none, none, none, none⟩

namespace Client

def connectionState (client : Client) : String :=
  if client.isConnected then "connected" else "disconnected"

def belongsTo (client : Client) (group : ClientGroup) : Bool :=
  match group.params with
  | none => false
  | some params => params ≠ noParams && matchesOneOf texts params.clientID [client.id] &&
      matchesOneOf texts params.name [client.description.name] &&
      matchesOneOf texts params.os [client.description.os] &&
      matchesOneOf texts params.osArch [client.description.osArch] &&
      matchesOneOf texts params.osFamily [client.description.osFamily] &&
      matchesOneOf texts params.osKernel [client.description.osKernel] &&
      matchesOneOf texts params.hostname [client.description.hostname] &&
      matchesOneOf texts params.ipv4 client.description.ipv4 &&
      matchesOneOf texts params.ipv6 client.description.ipv6 &&
      matchesRawTags texts params.tag client.description.tags &&
      matchesOneOf texts params.version [client.description.version] &&
      matchesOneOf texts params.address [client.address] &&
      matchesOneOf texts params.clientAuthID [client.clientAuthID] &&
      matchesOneOf texts params.connectionState [client.connectionState]

def hasAccessViaUserGroups (client : Client) (userGroups : List String) :
    Bool :=
  userGroups.any fun userGroup =>
    userGroup = User.administrators || client.allowedUserGroups.contains userGroup

def userGroupHasAccessViaClientGroup (client : Client)
    (userGroups : List String) (allClientGroups : List ClientGroup) : Bool :=
  allClientGroups.any fun clientGroup =>
    client.belongsTo texts clientGroup && userGroups.any clientGroup.allowedUserGroups.contains

end Client

/-- `getNonObsoleteClientsByUser`, with the clients in the order of the map. -/
def getUserClients (keep : Option Int) (now : Time) (clients : List Client)
    (user : User) (clientGroups : List ClientGroup) : List Client :=
  let userGroups := user.groups.getD []
  clients.filter fun client => !client.obsolete keep now &&
    (user.isAdmin || client.hasAccessViaUserGroups userGroups ||
      client.userGroupHasAccessViaClientGroup texts userGroups clientGroups)

def accessDenied (clientsWithNoAccess : List String) : Err :=
  .api 403 ("Access denied to client(s) with ID(s): " ++ join clientsWithNoAccess ", ") none

def checkClientsAccess (clients : List Client) (user : User)
    (clientGroups : List ClientGroup) : Except Err Unit :=
  if user.isAdmin then .ok ()
  else
    let userGroups := user.groups.getD []
    let clientsWithNoAccess := (clients.filter fun client =>
      !(client.hasAccessViaUserGroups userGroups ||
        client.userGroupHasAccessViaClientGroup texts userGroups clientGroups)).map Client.id
    if clientsWithNoAccess = [] then .ok ()
    else .error (accessDenied clientsWithNoAccess)

variable {texts}

/-- What both decisions come to for one client. -/
def Client.isAccessible (texts : Texts) (user : User)
    (clientGroups : List ClientGroup) (client : Client) : Bool :=
  user.isAdmin || client.hasAccessViaUserGroups (user.groups.getD []) ||
    client.userGroupHasAccessViaClientGroup texts (user.groups.getD []) clientGroups

section Decisions

variable {clients : List Client} {client : Client} {user : User}
  {clientGroups : List ClientGroup}

theorem checkClientsAccess_eq :
    checkClientsAccess texts clients user clientGroups =
      if ∀ client ∈ clients, client.isAccessible texts user clientGroups then
        .ok ()
      else .error (accessDenied ((clients.filter fun client =>
        !client.isAccessible texts user clientGroups).map Client.id)) := by
  cases admin : user.isAdmin with
  | true => simp [checkClientsAccess, Client.isAccessible, admin]
  | false =>
    have same : ∀ client : Client, client.isAccessible texts user clientGroups =
          (client.hasAccessViaUserGroups (user.groups.getD []) ||
            client.userGroupHasAccessViaClientGroup texts (user.groups.getD []) clientGroups) := by
      simp [Client.isAccessible, admin]
    simp only [checkClientsAccess, admin, Bool.false_eq_true, if_false, same,
      map_eq_nil_iff, filter_eq_nil_iff, Bool.not_eq_true', Bool.not_eq_false]

theorem checkClientsAccess_singleton :
    checkClientsAccess texts [client] user clientGroups = .ok () ↔
      client.isAccessible texts user clientGroups = true := by
  rw [checkClientsAccess_eq]
  simp

theorem Client.isAccessible_mono {promoted : User} {allowed : List String}
    {moreGroups : List ClientGroup} (wider : user.groups.getD [] ⊆ promoted.groups.getD [])
    (allows : client.allowedUserGroups ⊆ allowed) (adds : clientGroups ⊆ moreGroups)
    (accessible : client.isAccessible texts user clientGroups = true) :
    { client with allowedUserGroups := allowed }.isAccessible texts promoted moreGroups = true := by
  simp only [Client.isAccessible, Bool.or_eq_true] at accessible ⊢
  rcases accessible with (admin | direct) | viaGroup
  · refine .inl (.inl ?_)
    rw [User.isAdmin, contains_iff_mem] at admin ⊢
    exact wider admin
  · obtain ⟨group, own, decided⟩ := any_eq_true.mp direct
    refine .inl (.inr (any_eq_true.mpr ⟨group, wider own, ?_⟩))
    simp only [Bool.or_eq_true, contains_iff_mem] at decided ⊢
    exact decided.imp_right fun listed => allows listed
  · obtain ⟨group, member, decided⟩ := any_eq_true.mp viaGroup
    obtain ⟨belongs, admits⟩ := Bool.and_eq_true_iff.mp decided
    obtain ⟨userGroup, own, listed⟩ := any_eq_true.mp admits
    refine .inr (any_eq_true.mpr ⟨group, adds member, ?_⟩)
    exact Bool.and_eq_true_iff.mpr ⟨belongs, any_eq_true.mpr ⟨userGroup, wider own, listed⟩⟩

end Decisions

/-- The clients listed for a user are those that the check of each alone lets
pass, the check of a list names those that it refuses, and more groups, of the
user, of the client or of clients, never take an access away. -/
theorem access_decisions_agree (texts : Texts) (keep : Option Int)
    (now : Time) (clients : List Client) (user : User) (clientGroups : List ClientGroup) :
    (getUserClients texts keep now clients user clientGroups =
      clients.filter fun client => !client.obsolete keep now &&
        checkClientsAccess texts [client] user clientGroups = .ok ()) ∧
    (checkClientsAccess texts clients user clientGroups =
      if ∀ client ∈ clients, checkClientsAccess texts [client] user clientGroups = .ok () then
        .ok ()
      else .error (accessDenied ((clients.filter fun client =>
        checkClientsAccess texts [client] user clientGroups ≠ .ok ()).map Client.id))) ∧
    ∀ client, checkClientsAccess texts [client] user clientGroups = .ok () →
      ∀ promoted allowed moreGroups, user.groups.getD [] ⊆ promoted.groups.getD [] →
        client.allowedUserGroups ⊆ allowed → clientGroups ⊆ moreGroups →
        checkClientsAccess texts
          [{ client with allowedUserGroups := allowed }] promoted moreGroups = .ok () := by
  simp only [ne_eq, decide_not, checkClientsAccess_singleton, Bool.decide_eq_true]
  refine ⟨rfl, checkClientsAccess_eq, ?_⟩
  intro client accessible promoted allowed moreGroups wider allows adds
  exact Client.isAccessible_mono wider allows adds accessible

end ProxiPort.Clients
