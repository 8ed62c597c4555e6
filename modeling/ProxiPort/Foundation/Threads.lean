import ProxiPort.Foundation.Run
import Mathlib.Data.List.Count

/-!
# Interleaved calls over a shared state

A program consists of calls whose bodies are cut into atomic sections.  Any
number of calls may be in flight; a scheduler picks one of them and lets it
take its next section, or lets the environment act.  A call that has returned
stays in the list of threads with its result, so counting threads counts
calls.
-/

namespace Concurrency

variable {Entry : Type}

/-- The counterpart of `List.mem_or_eq_of_mem_set` for a new last entry. -/
theorem mem_or_eq_of_mem_concat {entries : List Entry} {entry last : Entry}
    (member : entry ∈ entries ++ [last]) : entry ∈ entries ∨ entry = last := by
  rcases List.mem_append.mp member with old | new
  · exact .inl old
  · exact .inr (List.mem_singleton.mp new)

theorem mem_of_mem_concat {entries : List Entry} {entry last : Entry}
    (different : entry ≠ last) (member : entry ∈ entries ++ [last]) : entry ∈ entries :=
  (mem_or_eq_of_mem_concat member).resolve_right different

variable {property : Entry → Prop} {index : Nat}

theorem forall_mem_set {entries : List Entry} {new : Entry}
    (old : ∀ entry ∈ entries, property entry) (here : property new) :
    ∀ entry ∈ entries.set index new, property entry := by
  intro entry member
  rcases List.mem_or_eq_of_mem_set member with before | rfl
  · exact old entry before
  · exact here

theorem forall_mem_concat {entries : List Entry} {last : Entry}
    (old : ∀ entry ∈ entries, property entry) (here : property last) :
    ∀ entry ∈ entries ++ [last], property entry := by
  intro entry member
  rcases mem_or_eq_of_mem_concat member with before | rfl
  · exact old entry before
  · exact here

theorem getElem?_set_cases {entries : List Entry} {place : Nat}
    {entry new : Entry} (found : (entries.set index new)[place]? = some entry) :
    (place = index ∧ entry = new) ∨ (place ≠ index ∧ entries[place]? = some entry) := by
  by_cases same : place = index
  · subst same
    obtain ⟨bound, rfl⟩ := List.getElem?_eq_some_iff.mp found
    exact .inl ⟨rfl, List.getElem_set_self bound⟩
  · rw [List.getElem?_set_ne (Ne.symm same)] at found
    exact .inr ⟨same, found⟩

theorem getElem?_concat_cases {entries : List Entry} {place : Nat}
    {entry last : Entry} (found : (entries ++ [last])[place]? = some entry) :
    entries[place]? = some entry ∨ entry = last := by
  by_cases old : place < entries.length
  · rw [List.getElem?_append_left old] at found
    exact .inl found
  · rw [List.getElem?_append_right (Nat.le_of_not_lt old)] at found
    exact .inr (List.mem_singleton.mp (List.mem_of_getElem? found))

theorem mem_set_of_ne {entries : List Entry} {entry replaced : Entry}
    (found : entries[index]? = some replaced) (member : entry ∈ entries)
    (different : entry ≠ replaced) (after : Entry) : entry ∈ entries.set index after := by
  obtain ⟨position, bound, rfl⟩ := List.getElem_of_mem member
  have apart : index ≠ position := by
    rintro rfl
    rw [List.getElem?_eq_getElem bound] at found
    exact different (Option.some.inj found)
  refine List.mem_of_getElem? (i := position) ?_
  rw [List.getElem?_set_ne apart, List.getElem?_eq_getElem bound]

theorem exists_mem_set {entries : List Entry} {replaced after : Entry}
    (found : entries[index]? = some replaced) (kept : property replaced → property after)
    (present : ∃ entry ∈ entries, property entry) :
    ∃ entry ∈ entries.set index after, property entry := by
  obtain ⟨entry, member, holds⟩ := present
  by_cases same : entry = replaced
  · subst same
    exact ⟨after, List.mem_set (List.getElem?_eq_some_iff.mp found).1 after, kept holds⟩
  · exact ⟨entry, mem_set_of_ne found member same after, holds⟩

theorem filterMap_set {Entry Part : Type} {entries : List Entry} {entry : Entry}
    (found : entries[index]? = some entry) (new : Entry) (part : Entry → Option Part) :
    ∃ front back, entries.filterMap part = front ++ ((part entry).toList ++ back) ∧
      (entries.set index new).filterMap part = front ++ ((part new).toList ++ back) := by
  simp only [List.filterMap_eq_flatMap_toList]
  induction entries generalizing index with
  | nil => cases found
  | cons first rest induction =>
    cases index with
    | zero =>
      cases found
      exact ⟨[], _, List.flatMap_cons, List.flatMap_cons⟩
    | succ index =>
      obtain ⟨front, back, before, after⟩ := induction found
      refine ⟨(part first).toList ++ front, back, ?_, ?_⟩
      · rw [List.flatMap_cons, before, List.append_assoc]
      · rw [List.set_cons_succ, List.flatMap_cons, after, List.append_assoc]

theorem forall_mem_of_eq_none {Part : Type} {part : Option Part}
    {property : Part → Prop} (absent : part = none) : ∀ held ∈ part, property held := by
  rintro held isHeld
  cases absent.symm.trans isHeld

theorem eq_of_countP_le_one {entries : List Entry} {test : Entry → Bool}
    (once : entries.countP test ≤ 1) {first second : Entry}
    (firstMember : first ∈ entries) (secondMember : second ∈ entries)
    (firstPasses : test first = true) (secondPasses : test second = true) :
    first = second := by
  rw [List.countP_eq_length_filter] at once
  have firstKept := List.mem_filter.mpr ⟨firstMember, firstPasses⟩
  have secondKept := List.mem_filter.mpr ⟨secondMember, secondPasses⟩
  generalize entries.filter test = kept at once firstKept secondKept
  match kept, once with
  | [only], _ =>
    rw [List.mem_singleton.mp firstKept, List.mem_singleton.mp secondKept]

/-- Bodies of calls, cut into atomic sections.  The choice handed to a section
carries everything the section does not decide itself: clock readings, random
values, failures of what it calls. -/
structure Program (Shared Thread Call Choice Event Output : Type) where
  enter : Call → Thread
  atomic : Shared → Thread → Choice → Option (Shared × Thread × List Output)
  environment : Shared → Event → Option (Shared × List Output)

structure Config (Shared Thread : Type) where
  shared : Shared
  threads : List Thread

inductive Move (Call Choice Event : Type) where
  | spawn (call : Call)
  | advance (index : Nat) (choice : Choice)
  | environment (event : Event)

namespace Program

variable {Shared Thread Call Choice Event Output : Type}

def step (program : Program Shared Thread Call Choice Event Output)
    (config : Config Shared Thread) :
    Move Call Choice Event → Option (Config Shared Thread × List Output)
  | .spawn call =>
    some (⟨config.shared, config.threads ++ [program.enter call]⟩, [])
  | .advance index choice => do
    let thread ← config.threads[index]?
    let (shared, thread, shown) ← program.atomic config.shared thread choice
    pure (⟨shared, config.threads.set index thread⟩, shown)
  | .environment event => do
    let (shared, shown) ← program.environment config.shared event
    pure (⟨shared, config.threads⟩, shown)

def system (program : Program Shared Thread Call Choice Event Output) :
    System (Config Shared Thread) (Move Call Choice Event) Output where
  step := program.step

variable {program : Program Shared Thread Call Choice Event Output}
  {config next : Config Shared Thread} {shown : List Output}

inductive Step (program : Program Shared Thread Call Choice Event Output)
    (config : Config Shared Thread) : Move Call Choice Event →
      Config Shared Thread → List Output → Prop
  | spawn (call : Call) : Step program config (.spawn call)
    ⟨config.shared, config.threads ++ [program.enter call]⟩ []
  | advance {index : Nat} {choice : Choice} {thread : Thread} {shared : Shared}
    {after : Thread} {shown : List Output} (found : config.threads[index]? = some thread)
    (ran : program.atomic config.shared thread choice = some (shared, after, shown)) :
    Step program config (.advance index choice) ⟨shared, config.threads.set index after⟩ shown
  | environment {event : Event} {shared : Shared} {shown : List Output}
    (ran : program.environment config.shared event = some (shared, shown)) :
    Step program config (.environment event) ⟨shared, config.threads⟩ shown

theorem step_cases {move : Move Call Choice Event}
    (stepped : program.system.step config move = some (next, shown)) :
    Step program config move next shown := by
  cases move with
  | spawn call =>
    cases stepped
    exact .spawn call
  | advance index choice =>
    simp only [system, step, Option.bind_eq_bind, Option.bind_eq_some_iff] at stepped
    obtain ⟨thread, found, ⟨shared, after, shownHere⟩, ran, result⟩ := stepped
    cases result
    exact .advance found ran
  | environment event =>
    simp only [system, step, Option.bind_eq_bind, Option.bind_eq_some_iff] at stepped
    obtain ⟨⟨shared, shownHere⟩, ran, result⟩ := stepped
    cases result
    exact .environment ran

variable {thread : Thread}

theorem countP_set {threads : List Thread} {index : Nat}
    (found : threads[index]? = some thread) (after : Thread) (test : Thread → Bool) :
    (threads.set index after).countP test + (if test thread then 1 else 0) =
      threads.countP test + (if test after then 1 else 0) := by
  obtain ⟨bound, rfl⟩ := List.getElem?_eq_some_iff.mp found
  have counted : (if test threads[index] then 1 else 0) ≤ threads.countP test := by
    split
    · rename_i passes
      exact List.countP_pos_iff.mpr ⟨threads[index], List.getElem_mem bound, passes⟩
    · exact Nat.zero_le _
  rw [List.countP_set bound]
  omega

/-- Counting calls that have ended in some way: a call that can still take a
section is not counted yet. -/
theorem countP_set_of_false {threads : List Thread} {index : Nat}
    {thread : Thread} (found : threads[index]? = some thread)
    (after : Thread) {test : Thread → Bool} (running : test thread = false) :
    (threads.set index after).countP test =
      threads.countP test + (if test after then 1 else 0) := by
  have count := countP_set found after test
  rwa [if_neg (ne_true_of_eq_false running), Nat.add_zero] at count

end Program

variable {Shared Thread Call Choice Event : Type}

/-- An admission condition on the thread that is about to take a section. -/
def OnAdvance (condition : Config Shared Thread → Thread → Choice → Prop)
    (config : Config Shared Thread) : Move Call Choice Event → Prop
  | .advance index choice =>
    ∀ thread ∈ config.threads[index]?, condition config thread choice
  | _ => True

instance (condition : Config Shared Thread → Thread → Choice → Prop)
    [decide : ∀ config thread choice, Decidable (condition config thread choice)]
    (config : Config Shared Thread) :
    ∀ move : Move Call Choice Event, Decidable (OnAdvance condition config move)
  | .spawn _ => .isTrue trivial
  | .environment _ => .isTrue trivial
  | .advance index choice =>
    inferInstanceAs (Decidable (∀ thread ∈ config.threads[index]?, condition config thread choice))

theorem OnAdvance.condition {condition : Config Shared Thread → Thread → Choice → Prop}
    {config : Config Shared Thread} {index : Nat} {choice : Choice}
    (admitted : OnAdvance condition config (.advance index choice : Move Call Choice Event))
    (found : config.threads[index]? = some thread) : condition config thread choice :=
  admitted thread found

end Concurrency
