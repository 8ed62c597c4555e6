import ProxiPort.Foundation.Run

/-!
# Reading a stream from a WebSocket

`share/conn_ws.go`: messages are read as a stream of bytes, and what does not
fit into the buffer of a call is kept for the next one.
-/

namespace ProxiPort.Transports.WebSocket

open Concurrency List

/-- A call of `Read`: the length of its buffer, and what `ReadMessage` answers. -/
structure Call where
  ldst : Nat
  readMessage : Except String (List UInt8)

/-- The message that a call has read, if it has, and what it returns. -/
structure Event where
  received : Option (List UInt8)
  result : Except String (List UInt8)
  deriving DecidableEq

def copy (src : List UInt8) (ldst : Nat) : List UInt8 × List UInt8 :=
  if ldst < src.length then (src.take ldst, src.drop ldst) else (src, [])

/-- `Read`, with what was kept before and afterwards. -/
def read (buff : List UInt8) (call : Call) : List UInt8 × Event :=
  if 0 < buff.length then
    let (dst, buff) := copy buff call.ldst
    (buff, ⟨none, .ok dst⟩)
  else
    match call.readMessage with
    | .ok msg =>
      let (dst, buff) := copy msg call.ldst
      (buff, ⟨some msg, .ok dst⟩)
    | .error err => (buff, ⟨none, .error err⟩)

def reads : System (List UInt8) Call Event :=
  ⟨fun buff call => some ((read buff call).1, [(read buff call).2])⟩

def Event.message (event : Event) : List UInt8 := event.received.getD []

def Event.bytes (event : Event) : List UInt8 := event.result.toOption.getD []

/-- Neither a message nor an error is received. -/
def Event.Quiet (event : Event) : Prop := event.received = none ∧ event.result.isOk

/-- What is kept is what is missing of the messages. -/
def Complete (history : List Event) (buff : List UInt8) : Prop :=
  history.flatMap Event.bytes ++ buff = history.flatMap Event.message

variable {history shown : List Event} {buff next : List UInt8} {call : Call}

theorem copy_append (src : List UInt8) (ldst : Nat) :
    (copy src ldst).1 ++ (copy src ldst).2 = src := by
  rw [copy]
  split
  · exact take_append_drop _ _
  · exact append_nil _

theorem read_spec (buff : List UInt8) (call : Call) :
    buff ++ (read buff call).2.message = (read buff call).2.bytes ++ (read buff call).1 ∧
      ((read buff call).2.Quiet ∨ buff = []) := by
  rw [read]
  split
  · exact ⟨by simp [Event.message, Event.bytes, Except.toOption, copy_append], .inl ⟨rfl, rfl⟩⟩
  · rename_i short
    have nothing : buff = [] := length_eq_zero_iff.mp (Nat.eq_zero_of_not_pos short)
    refine ⟨?_, .inr nothing⟩
    split
    · simp [Event.message, Event.bytes, Except.toOption, copy_append, nothing]
    · simp [Event.message, Event.bytes, Except.toOption]

theorem Complete.step (complete : Complete history buff)
    (stepped : reads.step buff call = some (next, shown)) : Complete (history ++ shown) next := by
  cases stepped
  simp only [Complete, flatMap_append, flatMap_singleton] at complete ⊢
  rw [append_assoc, ← (read_spec buff call).1, ← append_assoc, complete]

/-- The bytes that are returned are the start of the messages.  When a message
or an error is received, all bytes of the messages before it have been
returned. -/
theorem stream_complete (run : Run reads Unrestricted [] history buff) :
    history.flatMap Event.bytes <+: history.flatMap Event.message ∧
    ∀ {before event after}, history = before ++ event :: after →
      event.Quiet ∨ before.flatMap Event.bytes = before.flatMap Event.message := by
  refine ⟨⟨buff, run.invariant Complete rfl fun complete _ => complete.step⟩, ?_⟩
  refine run.justified Complete rfl (fun complete _ => complete.step)
    (fun before event => event.Quiet ∨
      before.flatMap Event.bytes = before.flatMap Event.message) ?_
  intro history shown buff next call complete _ stepped earlier event later shows
  cases stepped
  obtain ⟨rfl, only⟩ | ⟨_, nothing⟩ := append_eq_singleton_iff.mp shows.symm
  · cases only
    refine (read_spec buff call).2.imp_right ?_
    rintro rfl
    rwa [append_nil, ← append_nil (history.flatMap Event.bytes)]
  · cases nothing

theorem stream_complete_hi :
    ∃ state history, Run reads Unrestricted [] history state ∧
      history = [⟨some [104, 105], .ok [104]⟩, ⟨none, .ok [105]⟩, ⟨none, .error "EOF"⟩] ∧
      history.flatMap Event.bytes <+: history.flatMap Event.message :=
  Run.exists_reaching_follows [⟨1, .ok [104, 105]⟩, ⟨1, .error "EOF"⟩, ⟨1, .error "EOF"⟩]
    (by decide +kernel) (reads.admitsAlong_unrestricted _ _) fun run _ => (stream_complete run).1

/-- What calls of `Read` with these buffers return while messages come in. -/
def receive (buff : List UInt8) (messages : List (List UInt8)) : List Nat → List UInt8
  | [] => []
  | ldst :: sizes =>
    let (next, event) := read buff ⟨ldst, messages.head?.elim (.error "EOF") .ok⟩
    event.bytes ++ receive next (if event.received.isSome then messages.tail else messages) sizes

theorem length_copy (src : List UInt8) (ldst : Nat) :
    (copy src ldst).2.length = src.length - ldst := by
  rw [copy]
  split
  · exact length_drop
  · rw [length_nil]
    omega

/-- Messages are read as the same bytes, however the buffers cut them, after as
many calls as there are bytes and messages. -/
theorem messages_read_whole {sizes : List Nat} (positive : ∀ ldst ∈ sizes, 0 < ldst)
    (buff : List UInt8) (messages : List (List UInt8))
    (enough : buff.length + messages.flatten.length + messages.length ≤ sizes.length) :
    receive buff messages sizes = buff ++ messages.flatten := by
  induction sizes generalizing buff messages with
  | nil =>
    rw [length_nil, Nat.le_zero] at enough
    have nothing : buff = [] ∧ messages = [] := by
      constructor <;> apply length_eq_zero_iff.mp <;> omega
    rw [nothing.1, nothing.2]
    rfl
  | cons ldst sizes induction =>
    obtain ⟨room, positive⟩ := forall_mem_cons.mp positive
    rw [length_cons] at enough
    simp only [receive, read]
    split
    · have shorter := length_copy buff ldst
      simp only [Event.bytes, Except.toOption, Option.getD_some, Option.isSome_none,
        Bool.false_eq_true, if_false]
      rw [induction positive _ _ (by omega), ← append_assoc, copy_append]
    · rename_i short
      obtain rfl : buff = [] := length_eq_zero_iff.mp (Nat.eq_zero_of_not_pos short)
      cases messages with
      | nil => exact induction positive [] [] (Nat.zero_le _)
      | cons message messages =>
        have shorter := length_copy message ldst
        rw [flatten_cons, length_append, length_cons] at enough
        simp only [head?_cons, Option.elim_some, Event.bytes, Except.toOption, Option.getD_some,
          Option.isSome_some, if_true, tail_cons]
        rw [induction positive _ _ (by omega), ← append_assoc, copy_append]
        rfl

theorem messages_read_whole_hi :
    receive [] [[104, 105], [], [33]] [1, 2, 1, 1, 5, 1] = [104, 105, 33] :=
  messages_read_whole (by decide) [] _ (by decide)

end ProxiPort.Transports.WebSocket
