import Mathlib.Data.Finset.Card
import Mathlib.Data.Finset.Dedup
import ProxiPort.Foundation.Threads
import ProxiPort.Security.BanList

/-!
# Who is banned, by the calls that were made

A visitor's own calls decide.  Its window holds the failures since its last
success or ban; the failure that brings the counted ones to the maximum is a
ban.
-/

namespace ProxiPort.Security

open Concurrency List

def dedupKeys (window : List Attempt) : List String := window.filterMap fun attempt =>
    match attempt with
    | .distinct dedupKey => some dedupKey
    | _ => none

/-- Every bad attempt counts; of the distinct ones, the first with its key. -/
def countedFailures (window : List Attempt) : Nat :=
  window.count .bad + (dedupKeys window).toFinset.card

def Reaches (maxBadAttempts : Nat) (window : List Attempt) (attempt : Attempt) : Prop :=
  attempt ≠ .success ∧ countedFailures (window ++ [attempt]) = maxBadAttempts

instance (maxBadAttempts : Nat) (window : List Attempt) (attempt : Attempt) :
    Decidable (Reaches maxBadAttempts window attempt) :=
  inferInstanceAs (Decidable (_ ∧ _))

def extend (maxBadAttempts : Nat) (window : List Attempt) (attempt : Attempt) : List Attempt :=
  if attempt = .success ∨ Reaches maxBadAttempts window attempt then []
  else window ++ [attempt]

def window (maxBadAttempts : Nat) (own : List Call) : List Attempt :=
  own.foldl (fun window call => extend maxBadAttempts window call.attempt) []

/-- Since the last success, some failure less than the duration before `t`
reached the maximum. -/
def Banned (maxBadAttempts : Nat) (banDuration : Int) (own : List Call) (t : Time) : Prop :=
  ∃ before call after, own = before ++ call :: after ∧
    Reaches maxBadAttempts (window maxBadAttempts before) call.attempt ∧
    (∀ later ∈ after, later.attempt ≠ .success) ∧
    t < call.now + banDuration

def own (key : String) (calls : List Call) : List Call :=
  calls.filter fun call => call.visitorKey = key

variable {maxBadAttempts : Nat} {banDuration : Int} {calls : List Call}
  {failures : List Attempt} {dedupKey : String} {call : Call}

theorem dedupKeys_append (first second : List Attempt) :
    dedupKeys (first ++ second) = dedupKeys first ++ dedupKeys second :=
  filterMap_append

theorem countedFailures_bad :
    countedFailures (failures ++ [.bad]) = countedFailures failures + 1 := by
  have same : dedupKeys (failures ++ [.bad]) = dedupKeys failures := by
    rw [dedupKeys_append]
    exact append_nil _
  rw [countedFailures, countedFailures, same, count_append, count_singleton_self]
  omega

theorem dedupKeys_distinct :
    dedupKeys (failures ++ [.distinct dedupKey]) =
      dedupKeys failures ++ [dedupKey] :=
  dedupKeys_append failures _

theorem count_bad_distinct :
    (failures ++ [Attempt.distinct dedupKey]).count Attempt.bad =
      failures.count Attempt.bad := by
  simp

theorem countedFailures_repeated (used : dedupKey ∈ dedupKeys failures) :
    countedFailures (failures ++ [.distinct dedupKey]) = countedFailures failures := by
  rw [countedFailures, countedFailures, count_bad_distinct, dedupKeys_distinct, toFinset_append]
  congr 2
  simpa using used

theorem countedFailures_fresh (unused : dedupKey ∉ dedupKeys failures) :
    countedFailures (failures ++ [.distinct dedupKey]) = countedFailures failures + 1 := by
  have more : (dedupKeys failures ++ [dedupKey]).toFinset.card =
      (dedupKeys failures).toFinset.card + 1 := by
    have inserted : (dedupKeys failures ++ [dedupKey]).toFinset =
        insert dedupKey (dedupKeys failures).toFinset := by
      ext other
      simp
    rw [inserted, Finset.card_insert_of_notMem (by simpa using unused)]
  rw [countedFailures, countedFailures, count_bad_distinct, dedupKeys_distinct, more]
  omega

theorem window_append :
    window maxBadAttempts (calls ++ [call]) =
      extend maxBadAttempts (window maxBadAttempts calls) call.attempt := by
  rw [window, window, foldl_append]
  rfl

theorem window_ends (ends : call.attempt = .success ∨
      Reaches maxBadAttempts (window maxBadAttempts calls) call.attempt) :
    window maxBadAttempts (calls ++ [call]) = [] := by
  rw [window_append, extend, if_pos ends]

theorem window_failure (failure : call.attempt ≠ .success)
    (reaches : ¬ Reaches maxBadAttempts (window maxBadAttempts calls) call.attempt) :
    window maxBadAttempts (calls ++ [call]) = window maxBadAttempts calls ++ [call.attempt] := by
  rw [window_append, extend, if_neg]
  rintro (success | reached)
  · exact failure success
  · exact reaches reached

theorem split_grown {ban : Call} {before after : List Call}
    (split : calls ++ [call] = before ++ ban :: after) :
    (before = calls ∧ ban = call ∧ after = []) ∨
      ∃ rest, calls = before ++ ban :: rest ∧ after = rest ++ [call] := by
  rcases eq_nil_or_concat' after with rfl | ⟨rest, last, rfl⟩
  · obtain ⟨rfl, same⟩ := append_inj' split rfl
    cases same
    exact .inl ⟨rfl, rfl, rfl⟩
  · rw [← cons_append, ← append_assoc] at split
    obtain ⟨rfl, same⟩ := append_inj' split rfl
    cases same
    exact .inr ⟨rest, rfl, rfl⟩

theorem banned_success {t : Time} (success : call.attempt = .success) :
    ¬ Banned maxBadAttempts banDuration (calls ++ [call]) t := by
  rintro ⟨before, ban, after, split, reaches, unbroken, -⟩
  rcases split_grown split with ⟨-, rfl, -⟩ | ⟨rest, -, rfl⟩
  · exact reaches.1 success
  · exact unbroken call (by simp) success

theorem banned_failure {t : Time} (failure : call.attempt ≠ .success) :
    Banned maxBadAttempts banDuration (calls ++ [call]) t ↔
      (Reaches maxBadAttempts (window maxBadAttempts calls) call.attempt ∧
        t < call.now + banDuration) ∨
      Banned maxBadAttempts banDuration calls t := by
  constructor
  · rintro ⟨before, ban, after, split, reaches, unbroken, recent⟩
    rcases split_grown split with ⟨rfl, rfl, rfl⟩ | ⟨rest, rfl, rfl⟩
    · exact .inl ⟨reaches, recent⟩
    · exact .inr ⟨before, ban, rest, rfl, reaches,
        fun later found => unbroken later (mem_append_left _ found), recent⟩
  · rintro (⟨reaches, recent⟩ | ⟨before, ban, after, rfl, reaches, unbroken, recent⟩)
    · exact ⟨calls, call, [], rfl, reaches, by simp, recent⟩
    · refine ⟨before, ban, after ++ [call], by simp, reaches, ?_, recent⟩
      intro later found
      rcases mem_append.mp found with inside | last
      · exact unbroken later inside
      · rw [mem_singleton.mp last]
        exact failure

structure Agrees (maxBadAttempts : Nat) (banDuration : Int)
    (calls : List Call) (visitor : Visitor) : Prop where
  counted : visitor.badAttempts = countedFailures (window maxBadAttempts calls)
  low : visitor.badAttempts < maxBadAttempts
  recorded : ∀ dedupKey ∈ dedupKeys (window maxBadAttempts calls), dedupKey ∈ visitor.seenFailures
  banned : ∀ t, Banned maxBadAttempts banDuration calls t ↔
    ∃ banTime, visitor.banTime = some banTime ∧ t < banTime
  past : ∀ banTime, visitor.banTime = some banTime →
    ∃ call ∈ calls, banTime = call.now + banDuration

namespace Agrees

variable {visitor : Visitor}

theorem empty (positive : 1 ≤ maxBadAttempts) (ended : window maxBadAttempts calls = [])
    (never : ∀ t, ¬ Banned maxBadAttempts banDuration calls t) :
    Agrees maxBadAttempts banDuration calls {} where
  counted := by
    rw [ended]
    rfl
  low := positive
  recorded := by simp [ended, dedupKeys]
  banned t := by simp [never t]
  past := by simp

theorem initial (positive : 1 ≤ maxBadAttempts) : Agrees maxBadAttempts banDuration [] {} := by
  refine empty positive rfl ?_
  rintro t ⟨before, ban, after, split, -⟩
  simp at split

theorem success (positive : 1 ≤ maxBadAttempts) (success : call.attempt = .success) :
    Agrees maxBadAttempts banDuration (calls ++ [call]) {} :=
  empty positive (window_ends (.inl success)) fun _ => banned_success success

section

variable (agrees : Agrees maxBadAttempts banDuration calls visitor)
include agrees

theorem ban (positive : 1 ≤ maxBadAttempts) (ordered : ∀ earlier ∈ calls, earlier.now ≤ call.now)
    (reaches : Reaches maxBadAttempts (window maxBadAttempts calls)
      call.attempt) (kept : List String) :
    Agrees maxBadAttempts banDuration (calls ++ [call])
      { badAttempts := 0
        banTime := some (call.now + banDuration)
        seenFailures := kept } where
  counted := by
    rw [window_ends (.inr reaches)]
    rfl
  low := positive
  recorded := by simp [window_ends (.inr reaches), dedupKeys]
  banned t := by
    rw [banned_failure reaches.1, agrees.banned t]
    constructor
    · rintro (⟨-, recent⟩ | ⟨banTime, found, early⟩)
      · exact ⟨_, rfl, recent⟩
      · -- An earlier ban ends no later than this one.
        obtain ⟨earlier, member, rfl⟩ := agrees.past banTime found
        exact ⟨_, rfl, early.trans_le (Int.add_le_add_right (ordered earlier member) _)⟩
    · rintro ⟨banTime, found, early⟩
      cases found
      exact .inl ⟨reaches, early⟩
  past := by
    intro banTime found
    cases found
    exact ⟨call, by simp, rfl⟩

theorem failure (failed : call.attempt ≠ .success)
    (reaches : ¬ Reaches maxBadAttempts (window maxBadAttempts calls)
      call.attempt) {badAttempts : Nat} {seenFailures : List String}
    (counted : badAttempts = countedFailures (window maxBadAttempts calls ++ [call.attempt]))
    (low : badAttempts < maxBadAttempts)
    (recorded : ∀ dedupKey ∈ dedupKeys (window maxBadAttempts calls ++ [call.attempt]),
        dedupKey ∈ seenFailures) :
    Agrees maxBadAttempts banDuration (calls ++ [call])
      { badAttempts := badAttempts
        banTime := visitor.banTime
        seenFailures := seenFailures } where
  counted := by rw [window_failure failed reaches, counted]
  low := low
  recorded := by
    rw [window_failure failed reaches]
    exact recorded
  banned t := by
    rw [banned_failure failed, agrees.banned t]
    constructor
    · rintro (⟨reached, -⟩ | banned)
      · exact (reaches reached).elim
      · exact banned
    · exact .inr
  past := by
    intro banTime found
    obtain ⟨earlier, member, same⟩ := agrees.past banTime found
    exact ⟨earlier, mem_append_left _ member, same⟩

theorem fail (positive : 1 ≤ maxBadAttempts) (ordered : ∀ earlier ∈ calls, earlier.now ≤ call.now)
    (failed : call.attempt ≠ .success)
    (more : countedFailures (window maxBadAttempts calls ++ [call.attempt]) =
      countedFailures (window maxBadAttempts calls) + 1)
    {seenFailures kept : List String}
    (recorded : ∀ dedupKey ∈ dedupKeys (window maxBadAttempts calls ++ [call.attempt]),
        dedupKey ∈ seenFailures) :
    Agrees maxBadAttempts banDuration (calls ++ [call])
      (Visitor.fail { visitor with seenFailures := seenFailures }
        maxBadAttempts (call.now + banDuration) kept) := by
  rw [← agrees.counted] at more
  rw [Visitor.fail]
  split
  · rename_i reached
    exact agrees.ban positive ordered ⟨failed, more.trans reached⟩ kept
  · rename_i missed
    exact agrees.failure failed (fun reaches => missed (more.symm.trans reaches.2)) more.symm
      (Nat.lt_of_le_of_ne agrees.low missed) recorded

end

end Agrees

/-- A distinct attempt with a recorded key repeats one of the window. -/
def RecordedInWindow (log : Log) (call : Call) : Prop :=
  ∀ dedupKey ∈ (log.list.visitor call.visitorKey).seenFailures, call.attempt = .distinct dedupKey →
    dedupKey ∈ dedupKeys (window log.list.maxBadAttempts (own call.visitorKey log.calls))

instance (log : Log) (call : Call) : Decidable (RecordedInWindow log call) :=
  inferInstanceAs (Decidable (∀ dedupKey ∈ _, _ → _))

theorem Agrees.add {visitor : Visitor} (agrees : Agrees maxBadAttempts banDuration calls visitor)
    (positive : 1 ≤ maxBadAttempts) (ordered : ∀ earlier ∈ calls, earlier.now ≤ call.now)
    (recorded : ∀ dedupKey ∈ visitor.seenFailures, call.attempt = .distinct dedupKey →
      dedupKey ∈ dedupKeys (window maxBadAttempts calls)) :
    Agrees maxBadAttempts banDuration (calls ++ [call])
      (visitor.add maxBadAttempts (call.now + banDuration) call.attempt) := by
  cases attempted : call.attempt with
  | success => exact .success positive attempted
  | bad =>
    have failed : call.attempt ≠ .success := by simp [attempted]
    refine agrees.fail positive ordered failed ?_ ?_
    · rw [attempted, countedFailures_bad]
    · intro dedupKey member
      rw [attempted, dedupKeys_append] at member
      rcases mem_append.mp member with inside | last
      · exact agrees.recorded dedupKey inside
      · simp [dedupKeys] at last
  | distinct dedupKey =>
    have failed : call.attempt ≠ .success := by simp [attempted]
    have keys : ∀ {key}, key ∈ dedupKeys (window maxBadAttempts calls ++ [call.attempt]) →
        key ∈ visitor.seenFailures ∨ key = dedupKey := by
      intro key member
      rw [attempted, dedupKeys_distinct] at member
      exact (mem_or_eq_of_mem_concat member).imp (agrees.recorded key) id
    rw [Visitor.add, Visitor.addDistinctBadAttempt]
    by_cases seen : dedupKey ∈ visitor.seenFailures
    · rw [if_pos seen]
      have same : countedFailures (window maxBadAttempts calls ++ [call.attempt]) =
          visitor.badAttempts := by
        rw [attempted, countedFailures_repeated (recorded dedupKey seen attempted), agrees.counted]
      refine agrees.failure failed
        (fun reaches => agrees.low.ne (same.symm.trans reaches.2)) same.symm agrees.low ?_
      intro key member
      rcases keys member with recordedKey | rfl
      · exact recordedKey
      · exact seen
    · rw [if_neg seen]
      -- The window has no key that is not recorded.
      have unused : dedupKey ∉ dedupKeys (window maxBadAttempts calls) :=
        fun used => seen (agrees.recorded dedupKey used)
      refine agrees.fail positive ordered failed ?_ ?_
      · rw [attempted, countedFailures_fresh unused]
      · exact fun key member => mem_cons.mpr (keys member).symm

def Log.initial (maxBadAttempts : Nat) (banDuration : Int) : Log where
  list := .newMaxBadAttemptsBanList maxBadAttempts banDuration
  calls := []

structure Log.Sound (maxBadAttempts : Nat) (banDuration : Int)
    (log : Log) : Prop where
  duration : log.list.banDuration = banDuration
  maximum : log.list.maxBadAttempts = maxBadAttempts
  agrees : ∀ key, Agrees maxBadAttempts banDuration (own key log.calls) (log.list.visitor key)

theorem calling_cases {log next : Log} {call : Call} {shown : List Empty}
    (stepped : calling.step log call = some (next, shown)) :
    (∀ earlier ∈ log.calls, earlier.now ≤ call.now) ∧
      next = { list := log.list.add call.now call.visitorKey call.attempt
               calls := log.calls ++ [call] } := by
  simp only [calling] at stepped
  split at stepped
  · rename_i ordered
    simp only [Option.some.injEq, Prod.mk.injEq] at stepped
    refine ⟨?_, stepped.1.symm⟩
    intro earlier member
    simpa using all_eq_true.mp ordered earlier member
  · cases stepped

namespace Log.Sound

theorem initial (positive : 1 ≤ maxBadAttempts) :
    (Log.initial maxBadAttempts banDuration).Sound maxBadAttempts banDuration where
  duration := rfl
  maximum := rfl
  agrees _ := Agrees.initial positive

theorem step (positive : 1 ≤ maxBadAttempts) {log next : Log} {call : Call}
    {shown : List Empty} (sound : log.Sound maxBadAttempts banDuration)
    (admitted : RecordedInWindow log call) (stepped : calling.step log call = some (next, shown)) :
    next.Sound maxBadAttempts banDuration := by
  obtain ⟨ordered, rfl⟩ := calling_cases stepped
  obtain ⟨rfl, rfl, agrees⟩ := sound
  refine ⟨(MaxBadAttemptsBanList.settings_add _).1, (MaxBadAttemptsBanList.settings_add _).2, ?_⟩
  intro key
  by_cases same : call.visitorKey = key
  · subst same
    have grown : own call.visitorKey (log.calls ++ [call]) =
        own call.visitorKey log.calls ++ [call] := by
      simp [own]
    rw [grown, MaxBadAttemptsBanList.visitor_add_self]
    exact (agrees call.visitorKey).add positive
      (fun earlier member => ordered earlier (mem_of_mem_filter member)) admitted
  · have unchanged : own key (log.calls ++ [call]) = own key log.calls := by
      simp [own, same]
    rw [unchanged, MaxBadAttemptsBanList.visitor_add_of_ne _ (Ne.symm same)]
    exact agrees key

end Log.Sound

/-- In every sequence of calls in which no recorded key is from before the last
ban, a visitor is banned exactly when its own calls say so, and a call for
another one changes nothing for it. -/
theorem isBanned_iff_banned {maxBadAttempts : Nat} {banDuration : Int}
    {history : List Empty} {log : Log} (positive : 1 ≤ maxBadAttempts)
    (run : Run calling RecordedInWindow
      (.initial maxBadAttempts banDuration) history log) (key : String) :
    (∀ t, log.list.isBanned t key = true ↔
      Banned maxBadAttempts banDuration (own key log.calls) t) ∧
    ∀ call : Call, call.visitorKey ≠ key → ∀ t,
      (log.list.add call.now call.visitorKey call.attempt).isBanned t key =
        log.list.isBanned t key := by
  have sound : log.Sound maxBadAttempts banDuration :=
    run.stateInvariant (Log.Sound maxBadAttempts banDuration) (.initial positive)
      (fun sound admitted stepped => sound.step positive admitted stepped)
  constructor
  · intro t
    rw [MaxBadAttemptsBanList.isBanned_iff, (sound.agrees key).banned t]
  · intro call different t
    rw [Bool.eq_iff_iff, MaxBadAttemptsBanList.isBanned_iff, MaxBadAttemptsBanList.isBanned_iff,
      MaxBadAttemptsBanList.visitor_add_of_ne _ (Ne.symm different)]

def guesses : List Call :=
  [⟨0, "10.0.0.1", .distinct "a"⟩, ⟨1, "10.0.0.1", .distinct "a"⟩,
    ⟨2, "10.0.0.2", .bad⟩, ⟨3, "10.0.0.1", .distinct "b"⟩]

def bansFirst (outcome : Log × List Empty) : Bool := outcome.1.list.isBanned 12 "10.0.0.1"

theorem isBanned_iff_banned_guesses :
    ∃ log history, Run calling RecordedInWindow (.initial 2 10) history log ∧
      log.list.isBanned 12 "10.0.0.1" = true ∧
      Banned 2 10 (own "10.0.0.1" log.calls) 12 := by
  obtain ⟨log, history, run, banned⟩ :=
    Run.exists_ofExecute calling RecordedInWindow (.initial 2 10) guesses
      bansFirst (by decide +kernel) (by decide +kernel)
  exact ⟨log, history, run, banned,
    ((isBanned_iff_banned (by decide) run "10.0.0.1").1 12).mp banned⟩

def mixedFailures : List Call :=
  [⟨0, "10.0.0.1", .distinct "a"⟩, ⟨1, "10.0.0.1", .bad⟩,
    ⟨20, "10.0.0.1", .distinct "a"⟩, ⟨21, "10.0.0.1", .bad⟩]

def missesSecondBan (outcome : Log × List Empty) : Bool :=
  outcome.1.calls = mixedFailures &&
    !outcome.1.list.isBanned 22 "10.0.0.1"

theorem banned_mixedFailures : Banned 2 10 (own "10.0.0.1" mixedFailures) 22 :=
  ⟨mixedFailures.take 3, ⟨21, "10.0.0.1", .bad⟩, [], by decide +kernel,
    by decide +kernel, by simp, by decide⟩

/-- A ban through a bad attempt does not forget the keys: the credential is not
counted again, and the second ban is missed. -/
theorem isBanned_misses_ban :
    ∃ log history, Run calling Unrestricted (.initial 2 10) history log ∧
      log.list.isBanned 22 "10.0.0.1" = false ∧
      Banned 2 10 (own "10.0.0.1" log.calls) 22 := by
  obtain ⟨log, history, run, missed⟩ :=
    Run.exists_unrestricted calling (.initial 2 10) mixedFailures
      missesSecondBan (by decide +kernel)
  simp only [missesSecondBan, Bool.and_eq_true, decide_eq_true_eq, Bool.not_eq_true'] at missed
  refine ⟨log, history, run, missed.2, ?_⟩
  rw [missed.1]
  exact banned_mixedFailures

end ProxiPort.Security
