import Mathlib.Data.Finset.Card
import Mathlib.Data.Finset.Dedup
import Mathlib.Data.Finset.Image
import Mathlib.Algebra.Order.BigOperators.Group.Finset
import ProxiPort.Foundation.Keyed
import ProxiPort.Foundation.Threads
import ProxiPort.Go.Time

/-!
# WebSocket tickets

`wsTicketStore` of `server/api_ws_ticket.go`.  The store is locked during
`issue` and `redeem`; both read the clock once they have the lock.
-/

namespace ProxiPort.Tickets

open Concurrency List Keyed

def wsTicketTTL : Int := 30 * second

def maxOutstandingTickets : Nat := 8192

def maxTicketsPerUser : Nat := 32

structure WsTicketEntry where
  ticket : String
  username : String
  expiresAt : Time
  deriving DecidableEq, Repr

abbrev WsTicketStore := Table WsTicketEntry.ticket

inductive IssueError where
  | random (message : String)
  | tooManyTickets
  | tooManyUserTickets
  deriving DecidableEq, Repr

def sweep (store : WsTicketStore) (now : Time) : WsTicketStore :=
  store.filter fun entry => !decide (entry.expiresAt < now)

def held (store : WsTicketStore) (username : String) : Nat :=
  store.entries.countP fun entry => entry.username = username

/-- The ticket is drawn before the lock is taken. -/
def issue (store : WsTicketStore) (now : Time) (username : String) (random : Except String String) :
    WsTicketStore × Except IssueError WsTicketEntry :=
  match random with
  | .error message => (store, .error (.random message))
  | .ok ticket =>
    let swept := sweep store now
    if maxOutstandingTickets ≤ swept.entries.length then
      (swept, .error .tooManyTickets)
    else if maxTicketsPerUser ≤ held swept username then
      (swept, .error .tooManyUserTickets)
    else
      let entry : WsTicketEntry := ⟨ticket, username, now + wsTicketTTL⟩
      (swept.put entry, .ok entry)

def redeem (store : WsTicketStore) (now : Time) (ticket : String) : WsTicketStore × Option String :=
  if ticket = "" then (store, none)
  else match store.get ticket with
    | none => (store, none)
    | some entry =>
      (store.remove ticket,
        if entry.expiresAt < now then none else some entry.username)

inductive Call where
  | issue (now : Time) (username : String) (random : Except String String)
  | redeem (now : Time) (ticket : String)

inductive Event where
  | issued (entry : WsTicketEntry)
  | refused (now : Time) (username : String) (error : IssueError)
  | redeemed (now : Time) (ticket username : String)
  deriving DecidableEq, Repr

structure State where
  store : WsTicketStore
  drawn : List String

def Call.draws : Call → Option String
  | .issue _ _ (.ok ticket) => some ticket
  | .issue _ _ (.error _) | .redeem _ _ => none

def step (state : State) (call : Call) : State × List Event :=
  match call with
  | .issue now username random =>
    let (store, result) := issue state.store now username random
    (⟨store, call.draws.toList ++ state.drawn⟩,
      match result with
      | .ok entry => [.issued entry]
      | .error error => [.refused now username error])
  | .redeem now ticket =>
    let (store, result) := redeem state.store now ticket
    (⟨store, state.drawn⟩, result.toList.map (.redeemed now ticket))

def calling : System State Call Event where
  step state call := some (step state call)

def Fresh (state : State) (call : Call) : Prop := ∀ ticket ∈ call.draws, ticket ∉ state.drawn

instance (state : State) (call : Call) : Decidable (Fresh state call) :=
  inferInstanceAs (Decidable (∀ ticket ∈ _, _))

def initial : State := ⟨.empty, []⟩

/-- A ticket of a user is counted whether it is expired or not: the sweep before
it was issued removed those that were. -/
structure Bounded (store : WsTicketStore) : Prop where
  all : store.entries.length ≤ maxOutstandingTickets
  each : ∀ username, held store username ≤ maxTicketsPerUser

variable {store after : WsTicketStore}

theorem Bounded.sublist (bounded : Bounded store)
    (kept : after.entries.Sublist store.entries) : Bounded after where
  all := kept.length_le.trans bounded.all
  each username := kept.countP_le.trans (bounded.each username)

theorem sweep_sublist (store : WsTicketStore) (now : Time) :
    (sweep store now).entries.Sublist store.entries :=
  filter_sublist

theorem Bounded.put (bounded : Bounded store) {entry : WsTicketEntry}
    (room : store.entries.length < maxOutstandingTickets)
    (allowed : held store entry.username < maxTicketsPerUser) : Bounded (store.put entry) := by
  have kept : (remove WsTicketEntry.ticket entry.ticket
      store.entries).Sublist store.entries := filter_sublist
  refine ⟨(Nat.succ_le_succ kept.length_le).trans room, ?_⟩
  intro username
  have counted : held (store.put entry) username ≤ held store username +
      if decide (entry.username = username) then 1 else 0 :=
    countP_cons.trans_le (Nat.add_le_add_right kept.countP_le _)
  by_cases own : entry.username = username
  · subst own
    rw [decide_eq_true rfl, if_pos rfl] at counted
    exact counted.trans allowed
  · rw [decide_eq_false own, if_neg Bool.false_ne_true] at counted
    exact counted.trans (bounded.each username)

inductive Stepped (state : State) : Call → WsTicketStore → List Event → Prop where
  | failed {now username message} : Stepped state (.issue now username (.error message)) state.store
      [.refused now username (.random message)]
  | tooMany {now username ticket}
      (full : maxOutstandingTickets ≤ (sweep state.store now).entries.length) :
      Stepped state (.issue now username (.ok ticket)) (sweep state.store now)
        [.refused now username .tooManyTickets]
  | tooManyOwn {now username ticket}
      (many : maxTicketsPerUser ≤ held (sweep state.store now) username) :
      Stepped state (.issue now username (.ok ticket)) (sweep state.store now)
        [.refused now username .tooManyUserTickets]
  | issued {now username ticket}
      (room : (sweep state.store now).entries.length < maxOutstandingTickets)
      (allowed : held (sweep state.store now) username < maxTicketsPerUser) :
      Stepped state (.issue now username (.ok ticket)) ((sweep state.store now).put
          ⟨ticket, username, now + wsTicketTTL⟩)
        [.issued ⟨ticket, username, now + wsTicketTTL⟩]
  | unknown {now ticket} : Stepped state (.redeem now ticket) state.store []
  | expired {now ticket} : Stepped state (.redeem now ticket) (state.store.remove ticket) []
  | redeemed {now ticket entry} (found : state.store.get ticket = some entry)
      (valid : now ≤ entry.expiresAt) :
      Stepped state (.redeem now ticket) (state.store.remove ticket)
        [.redeemed now ticket entry.username]

theorem step_stepped (state : State) (call : Call) :
    Stepped state call (step state call).1.store (step state call).2 := by
  cases call with
  | issue now username random =>
    cases random with
    | error message => exact .failed
    | ok ticket =>
      simp only [step, issue]
      by_cases full : maxOutstandingTickets ≤ (sweep state.store now).entries.length
      · rw [if_pos full]
        exact .tooMany full
      · rw [if_neg full]
        by_cases many : maxTicketsPerUser ≤ held (sweep state.store now) username
        · rw [if_pos many]
          exact .tooManyOwn many
        · rw [if_neg many]
          exact .issued (Nat.lt_of_not_le full) (Nat.lt_of_not_le many)
  | redeem now ticket =>
    simp only [step, redeem]
    by_cases blank : ticket = ""
    · rw [if_pos blank]
      exact .unknown
    · rw [if_neg blank]
      cases found : state.store.get ticket with
      | none => exact .unknown
      | some entry =>
        by_cases late : entry.expiresAt < now
        · simp only [if_pos late]
          exact .expired
        · simp only [if_neg late]
          exact .redeemed found (Int.not_lt.mp late)

variable {call : Call} {state : State}

theorem Stepped.bounded {shown : List Event}
    (stepped : Stepped state call after shown) (bounded : Bounded state.store) : Bounded after := by
  cases stepped with
  | failed => exact bounded
  | tooMany | tooManyOwn => exact bounded.sublist (sweep_sublist _ _)
  | issued room allowed =>
    exact (bounded.sublist (sweep_sublist _ _)).put room allowed
  | unknown => exact bounded
  | expired | redeemed => exact bounded.sublist filter_sublist

def Event.ticket : Event → Option String
  | .issued entry => some entry.ticket
  | .redeemed _ ticket _ => some ticket
  | .refused _ _ _ => none

def life (ticket : String) (history : List Event) : List Event :=
  history.filter fun event => event.ticket = some ticket

/-- A ticket is issued to one user, and then redeemed at most once, as that user
and not after it expires. -/
def SingleUse (history : List Event) (ticket : String) : Prop :=
  life ticket history = [] ∨ ∃ username expiresAt,
    life ticket history = [.issued ⟨ticket, username, expiresAt⟩] ∨
    ∃ now ≤ expiresAt, life ticket history =
      [.issued ⟨ticket, username, expiresAt⟩, .redeemed now ticket username]

structure Traced (history : List Event) (state : State) : Prop where
  bounded : Bounded state.store
  stored : ∀ {ticket entry}, state.store.get ticket = some entry →
    life ticket history = [.issued entry]
  drawn : ∀ {ticket}, ticket ∉ state.drawn → life ticket history = []
  single : ∀ ticket, SingleUse history ticket

section Steps

variable {history shown : List Event} {state : State} {call : Call}
  {after : WsTicketStore} {ticket : String} {event : Event}

theorem life_own (about : event.ticket = some ticket) (history : List Event) :
    life ticket (history ++ [event]) = life ticket history ++ [event] := by
  simp [life, about]

theorem get_sweep {store : WsTicketStore} {now : Time} {entry : WsTicketEntry}
    (found : (sweep store now).get ticket = some entry) : store.get ticket = some entry := by
  rw [Table.get_eq_some_iff] at found ⊢
  exact ⟨mem_of_mem_filter found.1, found.2⟩

variable {drawn : List String}

theorem Traced.quiet (traced : Traced history state) (bounded : Bounded after)
    (kept : ∀ {ticket entry}, after.get ticket = some entry →
      state.store.get ticket = some entry) (more : state.drawn ⊆ drawn)
    (quiet : ∀ event ∈ shown, event.ticket = none) :
    Traced (history ++ shown) ⟨after, drawn⟩ := by
  have same : ∀ ticket, life ticket (history ++ shown) = life ticket history := by
    intro ticket
    have none : life ticket shown = [] := filter_eq_nil_iff.mpr fun event member => by
        simp [quiet event member]
    rw [life, filter_append, ← life, ← life, none, append_nil]
  refine ⟨bounded, ?_, ?_, ?_⟩
  · intro ticket entry found
    rw [same]
    exact traced.stored (kept found)
  · intro ticket new
    rw [same]
    exact traced.drawn fun old => new (more old)
  · intro ticket
    rw [SingleUse, same]
    exact traced.single ticket

theorem Traced.single_event (traced : Traced history state)
    (bounded : Bounded after) {own : String} (about : event.ticket = some own)
    (more : state.drawn ⊆ drawn) (isDrawn : own ∈ drawn) (kept : ∀ {ticket entry}, ticket ≠ own →
      after.get ticket = some entry → state.store.get ticket = some entry)
    (stored : ∀ {entry}, after.get own = some entry →
      life own (history ++ [event]) = [.issued entry])
    (single : SingleUse (history ++ [event]) own) :
    Traced (history ++ [event]) ⟨after, drawn⟩ := by
  have same : ∀ {ticket}, ticket ≠ own →
      life ticket (history ++ [event]) = life ticket history := by
    intro ticket different
    simp [life, about, different.symm]
  refine ⟨bounded, ?_, ?_, ?_⟩
  · intro ticket entry found
    by_cases mine : ticket = own
    · subst mine
      exact stored found
    · rw [same mine]
      exact traced.stored (kept mine found)
  · intro ticket new
    rw [same (fun mine => new (by rwa [mine]))]
    exact traced.drawn fun old => new (more old)
  · intro ticket
    by_cases mine : ticket = own
    · subst mine
      exact single
    · rw [SingleUse, same mine]
      exact traced.single ticket

theorem Traced.step (traced : Traced history state) (fresh : Fresh state call)
    (stepped : Stepped state call after shown) :
    Traced (history ++ shown) ⟨after, call.draws.toList ++ state.drawn⟩ := by
  have bounded := stepped.bounded traced.bounded
  cases stepped with
  | failed | unknown =>
    exact traced.quiet bounded id (List.Subset.refl _) (by simp [Event.ticket])
  | tooMany full | tooManyOwn many =>
    exact traced.quiet bounded get_sweep (subset_cons_self _ _) (by simp [Event.ticket])
  | expired =>
    exact traced.quiet bounded Table.get_of_get_remove (List.Subset.refl _) (forall_mem_nil _)
  | @issued now username ticket room allowed =>
    have new : life ticket history = [] := traced.drawn (fresh ticket rfl)
    have alone : life ticket (history ++ [.issued ⟨ticket, username, now + wsTicketTTL⟩]) =
        [.issued ⟨ticket, username, now + wsTicketTTL⟩] := by
      rw [life_own rfl, new]
      rfl
    refine traced.single_event bounded rfl (subset_cons_self _ _)
      mem_cons_self ?_ ?_ (.inr ⟨username, _, .inl alone⟩)
    · intro other entry different found
      exact get_sweep ((Table.get_put_of_ne different).symm.trans found)
    · intro entry found
      cases Table.get_put_self.symm.trans found
      exact alone
  | @redeemed now ticket entry found valid =>
    obtain ⟨-, rfl⟩ := Table.get_eq_some_iff.mp found
    have issued := traced.stored found
    have isDrawn : entry.ticket ∈ state.drawn := by
      by_contra new
      rw [traced.drawn new] at issued
      cases issued
    refine traced.single_event bounded rfl (List.Subset.refl _) isDrawn ?_ ?_
      (.inr ⟨entry.username, entry.expiresAt, .inr ⟨now, valid, ?_⟩⟩)
    · intro other kept different
      exact Table.get_of_get_remove
    · intro kept left
      rw [Table.get_remove_self] at left
      cases left
    · rw [life_own rfl, issued]
      rfl

end Steps

theorem Traced.initial : Traced [] initial where
  bounded := ⟨Nat.zero_le _, fun _ => Nat.zero_le _⟩
  stored := by simp [Tickets.initial]
  drawn := fun _ => rfl
  single := fun _ => .inl rfl

theorem Traced.preserved {history shown : List Event} {next : State}
    (traced : Traced history state) (fresh : Fresh state call)
    (stepped : calling.step state call = some (next, shown)) : Traced (history ++ shown) next := by
  have same : Tickets.step state call = (next, shown) := Option.some.inj stepped
  have drawn : (Tickets.step state call).1.drawn = call.draws.toList ++ state.drawn := by
    cases call <;> rfl
  have kept := traced.step fresh (step_stepped state call)
  rw [← drawn, same] at kept
  exact kept

def users (store : WsTicketStore) : Finset String :=
  (store.entries.map WsTicketEntry.username).toFinset

theorem Bounded.length_le (bounded : Bounded store) :
    store.entries.length ≤ maxTicketsPerUser * (users store).card := by
  have distinct : store.entries.Nodup := store.distinct.of_map _
  rw [← toFinset_card_of_nodup distinct]
  apply Finset.card_le_mul_card_image_of_maps_to
  · intro entry member
    exact mem_toFinset.mpr (mem_map_of_mem (mem_toFinset.mp member))
  · intro username _
    have same : {entry ∈ store.entries.toFinset | entry.username = username} =
        (store.entries.filter fun entry => entry.username = username).toFinset := by
      ext entry
      simp
    rw [same, toFinset_card_of_nodup (distinct.filter _), ← countP_eq_length_filter]
    exact bounded.each username

theorem Stepped.refused {now : Time} {username : String} {error : IssueError}
    (bounded : Bounded state.store)
    (stepped : Stepped state call after [.refused now username error])
    (limit : ∀ message, error ≠ .random message)
    (few : held (sweep state.store now) username < maxTicketsPerUser) :
    (sweep state.store now).entries.length = maxOutstandingTickets ∧
      256 ≤ (users (sweep state.store now)).card := by
  cases stepped with
  | failed => exact (limit _ rfl).elim
  | tooManyOwn many => exact (Nat.not_lt.mpr many few).elim
  | tooMany full =>
    have swept := bounded.sublist (sweep_sublist state.store now)
    refine ⟨Nat.le_antisymm swept.all full, ?_⟩
    have counted := full.trans swept.length_le
    simp only [maxOutstandingTickets, maxTicketsPerUser] at counted
    omega

end ProxiPort.Tickets
