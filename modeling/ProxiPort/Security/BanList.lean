import ProxiPort.Foundation.Keyed
import ProxiPort.Foundation.Run
import ProxiPort.Go.Time

/-!
# Visitors with too many bad attempts

`MaxBadAttemptsBanList` of `share/security/banlist.go`.  The list is locked
during every call, so calls are steps; each reads the clock once.
-/

namespace ProxiPort.Security

open Concurrency Keyed

/-- A `seenFailures` that is nil is empty. -/
structure Visitor where
  badAttempts : Nat := 0
  banTime : Option Time := none
  seenFailures : List String := []
  deriving DecidableEq, Repr

def visitorKey (entry : String × Visitor) : String := entry.1

structure MaxBadAttemptsBanList where
  banDuration : Int
  maxBadAttempts : Nat
  visitors : Table visitorKey

inductive Attempt where
  | bad
  | distinct (dedupKey : String)
  | success
  deriving DecidableEq, Repr

namespace Visitor

def fail (visitor : Visitor) (maxBadAttempts : Nat) (expiry : Time)
    (keptOnBan : List String) : Visitor :=
  if visitor.badAttempts + 1 = maxBadAttempts then
    { badAttempts := 0
      banTime := some expiry
      seenFailures := keptOnBan }
  else { visitor with badAttempts := visitor.badAttempts + 1 }

/-- `AddBadAttempt` keeps the keys when it bans. -/
def addBadAttempt (visitor : Visitor) (maxBadAttempts : Nat) (expiry : Time) : Visitor :=
  visitor.fail maxBadAttempts expiry visitor.seenFailures

def addDistinctBadAttempt (visitor : Visitor) (maxBadAttempts : Nat)
    (expiry : Time) (dedupKey : String) : Visitor :=
  if dedupKey ∈ visitor.seenFailures then visitor
  else Visitor.fail { visitor with
    seenFailures := dedupKey :: visitor.seenFailures } maxBadAttempts expiry []

def add (visitor : Visitor) (maxBadAttempts : Nat) (expiry : Time) : Attempt → Visitor
  | .bad => visitor.addBadAttempt maxBadAttempts expiry
  | .distinct dedupKey =>
    visitor.addDistinctBadAttempt maxBadAttempts expiry dedupKey
  | .success => {}

end Visitor

namespace MaxBadAttemptsBanList

def newMaxBadAttemptsBanList (maxBadAttempts : Nat) (banDuration : Int) :
    MaxBadAttemptsBanList :=
  { banDuration := banDuration
    maxBadAttempts := maxBadAttempts
    visitors := .empty }

def visitor (list : MaxBadAttemptsBanList) (key : String) : Visitor :=
  ((list.visitors.get key).map Prod.snd).getD {}

/-- A failure is recorded for a new visitor too, a success only for a known
one. -/
def add (list : MaxBadAttemptsBanList) (now : Time) (key : String)
    (attempt : Attempt) : MaxBadAttemptsBanList :=
  if attempt = .success ∧ list.visitors.get key = none then list
  else { list with visitors := list.visitors.put (key,
    (list.visitor key).add list.maxBadAttempts (now + list.banDuration) attempt) }

def isBanned (list : MaxBadAttemptsBanList) (now : Time) (key : String) :
    Bool :=
  match list.visitors.get key with
  | none => false
  | some (_, v) =>
    match v.banTime with
    | none => false
    | some banTime => now < banTime

variable {list : MaxBadAttemptsBanList} {now : Time} {key other : String}

theorem visitor_add_self (attempt : Attempt) :
    (list.add now key attempt).visitor key =
      (list.visitor key).add list.maxBadAttempts (now + list.banDuration)
        attempt := by
  rw [add]
  split
  · rename_i unknown
    rw [unknown.1, visitor, unknown.2]
    rfl
  · have found : ∀ entry, (list.visitors.put entry).get
        entry.1 = some entry := fun _ => Table.get_put_self
    rw [visitor, found (key, _)]
    rfl

theorem visitor_add_of_ne (attempt : Attempt) (different : other ≠ key) :
    (list.add now key attempt).visitor other = list.visitor other := by
  rw [add]
  split
  · rfl
  · have same : ∀ visitor, (list.visitors.put (key, visitor)).get other =
        list.visitors.get other := fun _ => Table.get_put_of_ne different
    rw [visitor, same]
    rfl

theorem settings_add (attempt : Attempt) :
    (list.add now key attempt).banDuration = list.banDuration ∧
      (list.add now key attempt).maxBadAttempts = list.maxBadAttempts := by
  rw [add]
  split <;> exact ⟨rfl, rfl⟩

theorem isBanned_iff :
    list.isBanned now key = true ↔
      ∃ banTime, (list.visitor key).banTime = some banTime ∧ now < banTime := by
  rw [isBanned, MaxBadAttemptsBanList.visitor]
  cases list.visitors.get key with
  | none => simp
  | some entry =>
    cases ban : entry.2.banTime with
    | none | some => simp [ban]

end MaxBadAttemptsBanList

structure Call where
  now : Time
  visitorKey : String
  attempt : Attempt
  deriving DecidableEq, Repr

structure Log where
  list : MaxBadAttemptsBanList
  calls : List Call

/-- The clock does not run backwards. -/
def calling : System Log Call Empty where
  step log call :=
    if log.calls.all fun earlier => earlier.now ≤ call.now then
      some ({ list := log.list.add call.now call.visitorKey call.attempt
              calls := log.calls ++ [call] }, [])
    else none

end ProxiPort.Security
