import ProxiPort.Go.Strings

/-!
# Stored notifications

`server/notifications/repository/sqlite/repository.go`: each attempt to deliver a notification is
a row with its output and error, which are cut if they are long.
-/

namespace ProxiPort.Notifications

inductive ProcessingState where
  | queued | dispatching | done | error
  deriving DecidableEq, Repr

structure Identifiable where
  iType : String
  id : String
  deriving DecidableEq, Repr

/-- `String` of an `identifiable`. -/
def Identifiable.print (identifiable : Identifiable) : String :=
  identifiable.iType ++ ":::" ++ identifiable.id

structure NotificationData where
  target : String
  recipients : List String
  subject : String
  content : String
  contentType : String
  deriving DecidableEq, Repr

structure NotificationDetails where
  refID : Identifiable
  data : NotificationData
  state : ProcessingState
  id : Identifiable
  out : List UInt8
  err : List UInt8
  deriving DecidableEq, Repr

structure SQLNotification where
  notificationID : String
  contentType : String
  referenceID : String
  transport : String
  recipients : String
  state : ProcessingState
  subject : String
  body : String
  out : List UInt8
  err : List UInt8
  deriving DecidableEq, Repr

def maxNotificationsQueue : Nat := 1000

def maxOutAndErrorSize : Nat := 2000

def recipientsSeparator : String := "@|@"

def slice (text : List UInt8) (bound : Nat) : Option (List UInt8) :=
  if bound ≤ text.length then some (text.take bound) else none

def limited (text : List UInt8) : Option (List UInt8) :=
  if text.length > maxNotificationsQueue then slice text maxOutAndErrorSize else some text

def save (details : NotificationDetails) : Option SQLNotification := do
  let out ← limited details.out
  let err ← limited details.err
  return {
    notificationID := details.id.id
    referenceID := details.refID.print
    transport := details.data.target
    recipients := Go.join details.data.recipients recipientsSeparator
    state := details.state
    subject := details.data.subject
    body := details.data.content
    contentType := details.data.contentType
    out := out
    err := err }

def setError (details : NotificationDetails) (out err : List UInt8) : Option SQLNotification :=
  save { details with out := out, err := err, state := .error }

def setDone (details : NotificationDetails) (out : List UInt8) : Option SQLNotification :=
  save { details with state := .done, out := out }

def Keeps (saved : Option SQLNotification) (out err : List UInt8) : Prop :=
  ∃ row, saved = some row ∧ row.out = out.take maxOutAndErrorSize ∧
    row.err = err.take maxOutAndErrorSize

/-- Short, or as long as the slice that is taken. -/
def Fits (text : List UInt8) : Prop :=
  text.length ≤ maxNotificationsQueue ∨ maxOutAndErrorSize ≤ text.length

theorem limited_of_fits {text : List UInt8} (fits : Fits text) :
    limited text = some (text.take maxOutAndErrorSize) := by
  rw [limited]
  split
  · rename_i long
    exact if_pos (fits.resolve_left (Nat.not_le.mpr long))
  · rename_i short
    have within : text.length ≤ maxOutAndErrorSize := (Nat.not_lt.mp short).trans (by decide)
    rw [List.take_of_length_le within]

theorem limited_of_not_fits {text : List UInt8} (unfit : ¬ Fits text) : limited text = none := by
  obtain ⟨long, short⟩ := not_or.mp unfit
  rw [limited, if_pos (Nat.not_le.mp long), slice, if_neg short]

theorem save_keeps_iff (details : NotificationDetails) :
    Keeps (save details) details.out details.err ↔ Fits details.out ∧ Fits details.err := by
  by_cases out : Fits details.out
  · by_cases err : Fits details.err
    · simp [Keeps, save, limited_of_fits, out, err]
    · simp [Keeps, save, limited_of_fits, limited_of_not_fits, out, err]
  · simp [Keeps, save, limited_of_not_fits, out]

theorem long_output_kept_iff (details : NotificationDetails) (out err : List UInt8) :
    (Keeps (setError details out err) out err ↔ Fits out ∧ Fits err) ∧
      (Keeps (setDone details out) out details.err ↔ Fits out ∧ Fits details.err) :=
  ⟨save_keeps_iff { details with out := out, err := err, state := .error },
    save_keeps_iff { details with state := .done, out := out }⟩

def sampleNotification : NotificationDetails :=
  ⟨⟨"problem", "1"⟩, ⟨"smtp", ["a@b"], "s", "c", "text/plain"⟩, .queued, ⟨"notification", "2"⟩, [], []⟩

/-- An output of 1500 bytes is longer than the queue and shorter than the slice. -/
theorem output_out_of_range : setDone sampleNotification (List.replicate 1500 0) = none := by
  have unfit : limited (List.replicate 1500 0) = none := by
    apply limited_of_not_fits
    rw [Fits, List.length_replicate]
    decide
  rw [setDone, save, unfit]
  rfl

end ProxiPort.Notifications
