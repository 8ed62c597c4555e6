import ProxiPort.Jobs.ResultKept
import ProxiPort.Vault.KeyConsistency

/-!
# Output read back

Whether a text is encrypted when it is stored, and decrypted when it is read,
is decided from the text, which the agent chooses.
-/

namespace ProxiPort.Jobs

open Enc

/-- The text is not taken for one that is encrypted already, unless decrypting
gives it back. -/
def Provider.Survives (provider : Provider) (text : String) : Prop :=
  if provider.envelope.enabled then
    provider.envelope.isEncryptedBy provider.crypto text = true →
      provider.envelope.decrypt provider.crypto text = .ok text
  else isEncrypted text = false

/-- `SaveJob`, and then `GetByJID` for the client of the job, gives the same
output. -/
def Provider.Keeps (provider : Provider) (nonces : Nat → Nonce) (job : Job)
    (database : Database) : Prop :=
  ∃ after, provider.saveJob nonces job database = .ok after ∧
    ∃ read, provider.getByJID job.clientID job.jid after = .ok (some read) ∧
      read.details.output = job.details.output

variable {provider : Provider}

theorem decryptStringField_eq (text : String) :
    provider.decryptStringField text =
      provider.envelope.decrypt provider.crypto text := by
  unfold Provider.decryptStringField
  split
  · rename_i empty
    subst empty
    rfl
  · rfl

theorem store_survives (usable : provider.envelope.Usable)
    (laws : provider.crypto.Laws) (nonce : Nonce) (text : String) :
    ∃ stored, provider.encryptStringField nonce text = .ok stored ∧
      (provider.decryptStringField stored = .ok text ↔ provider.Survives text) := by
  simp only [decryptStringField_eq, Provider.encryptStringField, Provider.Survives]
  cases enabled : provider.envelope.enabled with
  | false =>
    refine ⟨text, by simp [Envelope.encrypt, enabled], ?_⟩
    cases shape : isEncrypted text with
    | false => simp [Envelope.decrypt, shape]
    | true =>
      refine iff_of_false ?_ (by simp)
      simp only [Envelope.decrypt, shape, enabled, Bool.not_true, Bool.false_eq_true, if_false]
      split
      all_goals
        intro read
        cases read
  | true =>
    split
    · rename_i kept
      refine ⟨text, rfl, ?_⟩
      obtain rfl | already := kept
      · exact iff_of_true rfl fun _ => rfl
      · simp [already]
    · rename_i fresh
      obtain ⟨stored, encrypted⟩ := usable.encrypt nonce text
      have read := Envelope.decrypt_encrypt laws encrypted (.inl enabled)
      exact ⟨stored, encrypted, iff_of_true read fun already => absurd (.inr already) fresh⟩

theorem decryptJobResult_output (job : Job) {texts : List String} :
    (∃ read, provider.decryptJobResult job = .ok read ∧ read.details.output = texts) ↔
      List.Forall₂ (fun text stored =>
        provider.decryptStringField stored = .ok text)
        texts job.details.output := by
  simp only [Provider.decryptJobResult, Job.details, JobDetails.output,
    List.forall₂_cons_right_iff, Outcome.bind_eq_ok_iff]
  cases job.result with
  | none =>
    simp only [Option.elim, List.forall₂_nil_right_iff]
    constructor
    · rintro ⟨_, ⟨error, decrypted, made⟩, rfl⟩
      cases made
      exact ⟨error, [], decrypted, rfl, rfl⟩
    · rintro ⟨error, _, decrypted, rfl, rfl⟩
      exact ⟨_, ⟨error, decrypted, rfl⟩, rfl⟩
  | some result =>
    simp only [Option.elim, List.forall₂_cons_right_iff,
      List.forall₂_nil_right_iff, Outcome.bind_eq_ok_iff]
    constructor
    · rintro ⟨_, ⟨error, decrypted, stdOut, outRead, stdErr, errRead, made⟩,
        rfl⟩
      cases made
      exact ⟨error, _, decrypted, ⟨stdOut, _, outRead, ⟨stdErr, [], errRead, rfl, rfl⟩, rfl⟩, rfl⟩
    · rintro ⟨error, _, decrypted, ⟨stdOut, _, outRead, ⟨stdErr, _, errRead, rfl, rfl⟩, rfl⟩, rfl⟩
      exact ⟨_, ⟨error, decrypted, stdOut, outRead, stdErr, errRead, rfl⟩, rfl⟩

theorem forall₂_iff_forall_mem {Text : Type} {Reads : Text → Text → Prop}
    {Survives : Text → Prop} {texts stored : List Text}
    (each : List.Forall₂ (fun text stored => Reads text stored ↔ Survives text) texts stored) :
    List.Forall₂ Reads texts stored ↔ ∀ text ∈ texts, Survives text := by
  induction each with
  | nil => simp
  | cons first _ induction => simp [first, induction]

theorem job_output_kept_iff (usable : provider.envelope.Usable)
    (laws : provider.crypto.Laws) (nonces : Nat → Nonce) (job : Job) (database : Database) :
    provider.Keeps nonces job database ↔ ∀ text ∈ job.details.output, provider.Survives text := by
  obtain ⟨details, converted, survives⟩ := toSqlite_stored (store_survives usable laws) nonces job
  let after := { database with jobs := database.jobs.put (job.toRow details) }
  have saved : provider.saveJob nonces job database = .ok after := by
    simp only [Provider.saveJob, converted]
    rfl
  have stored : after.jobs.get job.jid = some (job.toRow details) := Keyed.Table.get_put_self
  have own : (job.toRow details).clientID = job.clientID := rfl
  rw [← forall₂_iff_forall_mem survives]
  refine Iff.trans ?_ (decryptJobResult_output
    ((job.toRow details).convert details (after.scheduleOf (job.toRow details))))
  simp only [Provider.Keeps, saved, Except.ok.injEq, exists_eq_left',
    Provider.getByJID, find_of_get stored own]
  simp only [Job.toRow, Outcome.bind_eq_ok_iff]
  constructor
  · rintro ⟨read, ⟨_, decrypted, made⟩, same⟩
    cases made
    exact ⟨read, decrypted, same⟩
  · rintro ⟨read, decrypted, same⟩
    exact ⟨read, ⟨read, decrypted, rfl⟩, same⟩

def keyless : Provider where
  crypto := Vault.plainCrypto
  envelope := ⟨[]⟩

theorem job_output_kept_iff_date : keyless.Keeps works.nonces dateResult emptyDatabase := by
  have usable : keyless.envelope.Usable := by
    intro enabled
    cases enabled
  refine (job_output_kept_iff usable Vault.plainCrypto_laws _ _ _).mpr ?_
  change ∀ text ∈ ["", "Monday", ""], isEncrypted text = false
  decide

/-- The client fails with a message of the shape that the server stores. -/
theorem loses_output :
    ¬ keyless.Keeps works.nonces { dateJob with error := "enc:v1:" }
      emptyDatabase := by
  rintro ⟨after, saved, read, got, -⟩
  cases saved
  cases got

end ProxiPort.Jobs
