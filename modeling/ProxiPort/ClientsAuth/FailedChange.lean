import ProxiPort.ClientsAuth.Linearization

/-!
# Changes of the credentials that fail

`save` truncates the file when it opens it and hands the encoded text to one
`Write`.  The text ends with a newline that is not needed to decode it.
-/

namespace ProxiPort.ClientsAuth

open Keyed

/-- How `save` ends, with the case that the write misses only the newline at
the end. -/
inductive Saved where
  | written (outcome : Written)
  | unterminated (err : String)
  deriving DecidableEq, Repr

def Saved.save (file : Option Pairs) (pairs : Pairs) : Saved → Option Pairs × Except String Unit
  | .written outcome => ClientsAuth.save file pairs outcome
  | .unterminated err => (some pairs, .error ("failed to write proxiport clients auth: " ++ err))

inductive Change where
  | add (clientAuth : ClientAuth)
  | update (clientAuth : ClientAuth)
  | delete (id : String)
  deriving DecidableEq, Repr

namespace Change

def validate : Change → Except String Unit
  | .add clientAuth | .update clientAuth =>
    validateStorableCredential clientAuth
  | .delete _ => .ok ()

def apply (settings : Settings) (pairs : Pairs) : Change → Except (Except String Bool) Pairs
  | .add clientAuth =>
    match lookup ClientAuth.id clientAuth.id pairs with
    | some _ => .error (.ok false)
    | none => .ok (put ClientAuth.id clientAuth pairs)
  | .update clientAuth =>
    match lookup ClientAuth.id clientAuth.id pairs with
    | none => .error (.error ("client auth with ID " ++
        Go.quote settings.unicode clientAuth.id ++ " not found"))
    | some _ => .ok (put ClientAuth.id clientAuth pairs)
  | .delete id => .ok (remove ClientAuth.id id pairs)

def perform (settings : Settings) (provider : FileProvider)
    (read : Except String Unit) (saved : Saved) (change : Change) :
    Option Pairs × Except String Bool :=
  match change.validate with
  | .error err => (provider.file, .error err)
  | .ok () =>
    match provider.load settings read with
    | .error err => (provider.file, .error (decodeFailure err))
    | .ok pairs =>
      match change.apply settings pairs with
      | .error result => (provider.file, result)
      | .ok changed =>
        let (file, result) := saved.save provider.file changed
        (file, match result with
          | .ok () => .ok true
          | .error err => .error (encodeFailure err))

end Change

def SameCredentials : Option Pairs → Option Pairs → Prop
  | some pairs, some others => ∀ id, stored pairs id = stored others id
  | none, none => True
  | _, _ => False

theorem SameCredentials.refl (file : Option Pairs) : SameCredentials file file := by
  cases file with
  | none => trivial
  | some pairs => exact fun _ => rfl

/-- The file is decoded, changed and opened for writing, which truncates it, and
then the write fails: before the text can be decoded again, or at its last
newline when the change is one of the credentials. -/
def Truncates (settings : Settings) (provider : FileProvider)
    (read : Except String Unit) (saved : Saved) (change : Change) : Prop :=
  change.validate = .ok () ∧
  ∃ pairs changed, provider.load settings read = .ok pairs ∧
    change.apply settings pairs = .ok changed ∧
    ((∃ err, saved = .written (.truncated err)) ∨ (∃ err, saved = .unterminated err) ∧
        ∃ id, stored changed id ≠ stored pairs id)

/-- `Add`, `Update` and `Delete` leave the credentials when they fail exactly if
the write does not fail after the file was truncated. -/
theorem failed_change_harmless_iff (settings : Settings)
    (provider : FileProvider) (read : Except String Unit) (saved : Saved) (change : Change) :
    (∀ err, (change.perform settings provider read saved).2 = .error err →
      SameCredentials (change.perform settings provider read saved).1 provider.file) ↔
    ¬ Truncates settings provider read saved change := by
  rw [Truncates, Change.perform]
  cases change.validate with
  | error err => simp [SameCredentials.refl]
  | ok =>
    cases loaded : provider.load settings read with
    | error err => simp [SameCredentials.refl]
    | ok pairs =>
      have file : provider.file = some pairs := by
        unfold FileProvider.load at loaded
        split at loaded <;> cases loaded
        assumption
      cases applied : change.apply settings pairs with
      | error result => simp [applied, SameCredentials.refl]
      | ok changed =>
        cases saved with
        | unterminated err =>
          simp [applied, Saved.save, file, SameCredentials]
        | written outcome =>
          cases outcome with
          | complete => simp [applied, Saved.save, save]
          | notOpened err =>
            simp [applied, Saved.save, save, SameCredentials.refl]
          | truncated err =>
            simp [applied, Saved.save, save, file, SameCredentials]

/-- A full disk: the deletion of a credential fails and takes the others. -/
theorem failed_delete_loses_credentials :
    (Change.perform plainSettings ⟨0, some [⟨"a", "x"⟩, ⟨"b", "y"⟩], []⟩ (.ok ())
      (.written (.truncated "no space left on device")) (.delete "a")) =
      (none, .error ("failed to encode proxiport clients auth file: " ++
        "failed to write proxiport clients auth: no space left on device")) ∧
    ¬ SameCredentials none (some [⟨"a", "x"⟩, ⟨"b", "y"⟩]) :=
  ⟨by decide +kernel, id⟩

end ProxiPort.ClientsAuth
