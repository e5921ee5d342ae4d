import Stackfort.TextBounds

/-! Secrets at rest. A secret is sealed under a data key of its own, which is sealed under the master key; the
associated data of both name the kind of the secret, its record and its owner. The cipher is ideal: it opens what was
sealed under the same key, nonce and associated data, and nothing else. -/

namespace Stackfort.Secrets

open List

abbrev Bytes := List UInt8

/-- An identifier that has passed its check. -/
abbrev UUID := { id : ID // isCanonicalUUIDv7 id = true }

inductive Purpose where
  | data
  | dek

def Purpose.text : Purpose → String
  | .data => "data"
  | .dek => "dek"

/-- What a secret belongs to. -/
structure Place where
  kind : String
  (recordID identityID : UUID)

/-- The associated data; the bytes of a text determine it. -/
def secretAAD (place : Place) (purpose : Purpose) : String :=
  "stackfort:" ++ place.kind ++ ":v1:" ++ purpose.text ++ ":" ++ place.recordID.1 ++ ":" ++ place.identityID.1

/-- A message that was sealed. -/
structure Sealed where
  (key nonce : Bytes)
  aad : String
  plaintext : Bytes

/-- The cipher as a function, of which only the length of a ciphertext matters. -/
structure AEAD where
  sealing : Sealed → Bytes
  length_sealing : ∀ message, (sealing message).length = message.plaintext.length + 16

/-- The first message of the log that was sealed to the ciphertext. -/
def AEAD.opening (aead : AEAD) (log : List Sealed) (key nonce ciphertext : Bytes) (aad : String) : Option Bytes :=
  (log.find? fun message => decide (message.key = key ∧ message.nonce = nonce ∧ message.aad = aad ∧
    aead.sealing message = ciphertext)).map Sealed.plaintext

structure EncryptedSecretEnvelope where
  (ciphertext nonce wrappedKey wrapNonce : Bytes)
  keyVersion : Int

def secretKeyVersion : Int := 1

def secretDataKeyBytes : Nat := 32

structure Repository where
  aead : AEAD
  secretStorageAvailable : Bool
  secretMasterKey : Bytes

inductive SecretError where
  | secretStorageUnavailable
  | invalidInput (message : String)
  | failed (message : String)

/-- The arguments of an encryption and what it draws. -/
structure EncryptCall where
  place : Place
  plaintext : Bytes
  (dataKey nonce wrapNonce : Bytes)
  lengths : dataKey.length = secretDataKeyBytes ∧ nonce.length = 12 ∧ wrapNonce.length = 12

/-- What an encryption seals under the data key, and what under the master key. -/
def EncryptCall.message (call : EncryptCall) (master : Bytes) : Purpose → Sealed
  | .data => ⟨call.dataKey, call.nonce, secretAAD call.place .data, call.plaintext⟩
  | .dek => ⟨master, call.wrapNonce, secretAAD call.place .dek, call.dataKey⟩

namespace Repository

variable (r : Repository)

/-- The envelope of an encryption. -/
def envelope (call : EncryptCall) : EncryptedSecretEnvelope :=
  ⟨r.aead.sealing (call.message r.secretMasterKey .data), call.nonce,
    r.aead.sealing (call.message r.secretMasterKey .dek), call.wrapNonce, secretKeyVersion⟩

def encryptSecret (call : EncryptCall) : Except SecretError EncryptedSecretEnvelope :=
  if r.secretStorageAvailable = false then .error .secretStorageUnavailable
  else if call.plaintext = [] then .error (.invalidInput "plaintext is empty")
  else .ok (r.envelope call)

/-- The messages that were sealed for the envelopes of some calls. -/
def sealed (calls : List EncryptCall) : List Sealed :=
  (calls.filter fun call => (r.encryptSecret call).isOk).flatMap fun call =>
    [Purpose.data, .dek].map (call.message r.secretMasterKey)

def decryptSecret (log : List Sealed) (place : Place) (envelope : EncryptedSecretEnvelope) :
    Except SecretError Bytes :=
  if r.secretStorageAvailable = false then .error .secretStorageUnavailable
  else if envelope.keyVersion ≠ secretKeyVersion ∨ envelope.nonce.length ≠ 12 ∨ envelope.wrapNonce.length ≠ 12 ∨
      envelope.wrappedKey.length ≠ secretDataKeyBytes + 16 then
    .error (.failed "decrypt secret envelope: unsupported or malformed envelope")
  else
    match r.aead.opening log r.secretMasterKey envelope.wrapNonce envelope.wrappedKey (secretAAD place .dek) with
    | none => .error (.failed "decrypt secret envelope: key authentication failed")
    | some dataKey =>
      match r.aead.opening log dataKey envelope.nonce envelope.ciphertext (secretAAD place .data) with
      | none => .error (.failed "decrypt secret envelope: data authentication failed")
      | some plaintext => .ok plaintext

end Repository

/-! ### Associated data -/

/-- Identifiers have one length, so a text of associated data is read from its end. -/
theorem secretAAD_inj {place place' : Place} {purpose purpose' : Purpose}
    (h : secretAAD place purpose = secretAAD place' purpose') : place = place' ∧ purpose = purpose' := by
  obtain ⟨kind, record, owner⟩ := place
  obtain ⟨kind', record', owner'⟩ := place'
  have hlength : ∀ id : UUID, id.1.toList.length = 36 := fun id => by
    rw [String.length_toList, (isCanonicalUUIDv7_chars id.2).1]
  have hlists := congrArg String.toList h
  simp only [secretAAD, String.toList_append] at hlists
  obtain ⟨hrest, howner⟩ := append_inj' hlists ((hlength owner).trans (hlength owner').symm)
  obtain ⟨hrest, hrecord⟩ := append_inj' (append_inj_left' hrest rfl) ((hlength record).trans (hlength record').symm)
  have hnamed := append_inj_left' hrest rfl
  obtain rfl := Subtype.ext (String.toList_inj.mp howner)
  obtain rfl := Subtype.ext (String.toList_inj.mp hrecord)
  cases purpose <;> cases purpose'
  case data.data | dek.dek =>
    have hkind := append_inj_left' (append_inj_left' hnamed rfl) rfl
    rw [append_cancel_left_eq] at hkind
    rw [String.toList_inj.mp hkind]
    exact ⟨rfl, rfl⟩
  all_goals
    have hlast := congrArg getLast? hnamed
    rw [getLast?_append_of_ne_nil _ (by decide), getLast?_append_of_ne_nil _ (by decide)] at hlast
    exact absurd hlast (by decide)

/-! ### Opening -/

/-- Encryptions with data keys and nonces that were drawn afresh. -/
structure History where
  calls : List EncryptCall
  dataKeys : (calls.map EncryptCall.dataKey).Nodup
  nonces : (calls.map EncryptCall.nonce).Nodup
  wrapNonces : (calls.map EncryptCall.wrapNonce).Nodup

section Opening

variable {r : Repository} {history : History} {place : Place} {envelope : EncryptedSecretEnvelope}
  {call : EncryptCall} {plaintext : Bytes} {message : Sealed}

theorem Repository.encryptSecret_eq_ok (h : r.encryptSecret call = .ok envelope) :
    r.secretStorageAvailable = true ∧ r.envelope call = envelope := by
  unfold encryptSecret at h
  split_ifs at h with havailable
  exact ⟨by simpa using havailable, Except.ok.inj h⟩

theorem Repository.mem_sealed {calls : List EncryptCall} :
    message ∈ r.sealed calls ↔ ∃ call ∈ calls, r.encryptSecret call = .ok (r.envelope call) ∧
      ∃ purpose, call.message r.secretMasterKey purpose = message := by
  have hmade : ∀ call, (r.encryptSecret call).isOk = true ↔ r.encryptSecret call = .ok (r.envelope call) := by
    intro call
    unfold encryptSecret
    split_ifs <;> simp [Except.isOk, Except.toBool]
  have hpurpose : ∀ purpose, purpose ∈ [Purpose.data, .dek] := by
    rintro (_ | _) <;> simp
  simp only [sealed, mem_flatMap, mem_filter, hmade, mem_map, hpurpose, true_and, and_assoc]

/-- What is opened for a purpose was sealed for it, in a call for the same place. -/
theorem opened {purpose : Purpose} {key nonce ciphertext : Bytes}
    (h : r.aead.opening (r.sealed history.calls) key nonce ciphertext (secretAAD place purpose) = some plaintext) :
    ∃ call ∈ history.calls, r.encryptSecret call = .ok (r.envelope call) ∧ call.place = place ∧
      (call.message r.secretMasterKey purpose).key = key ∧ (call.message r.secretMasterKey purpose).nonce = nonce ∧
      r.aead.sealing (call.message r.secretMasterKey purpose) = ciphertext ∧
      (call.message r.secretMasterKey purpose).plaintext = plaintext := by
  obtain ⟨message, hfound, rfl⟩ := Option.map_eq_some_iff.mp h
  have hmessage := find?_some hfound
  rw [decide_eq_true_eq] at hmessage
  obtain ⟨hkey, hnonce, haad, hciphertext⟩ := hmessage
  obtain ⟨call, hcall, hmade, sealedFor, rfl⟩ := Repository.mem_sealed.mp (mem_of_find?_eq_some hfound)
  have hsealed : (call.message r.secretMasterKey sealedFor).aad = secretAAD call.place sealedFor := by
    cases sealedFor <;> rfl
  obtain ⟨hplace, rfl⟩ := secretAAD_inj (hsealed.symm.trans haad)
  exact ⟨call, hcall, hmade, hplace, hkey, hnonce, hciphertext, rfl⟩

theorem exists_opening (hcall : call ∈ history.calls) (hmade : r.encryptSecret call = .ok (r.envelope call))
    (purpose : Purpose) (hmessage : call.message r.secretMasterKey purpose = message) :
    ∃ plaintext, r.aead.opening (r.sealed history.calls) message.key message.nonce (r.aead.sealing message) message.aad =
      some plaintext := by
  rw [← Option.isSome_iff_exists, AEAD.opening, Option.isSome_map, find?_isSome]
  exact ⟨message, Repository.mem_sealed.mpr ⟨call, hcall, hmade, purpose, hmessage⟩, by simp⟩

/-- An envelope opens for the place it was made for, and to what was sealed in it. -/
theorem decryptSecret_eq_ok_iff :
    r.decryptSecret (r.sealed history.calls) place envelope = .ok plaintext ↔
      ∃ call ∈ history.calls, r.encryptSecret call = .ok envelope ∧ call.place = place ∧
        call.plaintext = plaintext := by
  constructor
  · intro h
    unfold Repository.decryptSecret at h
    split_ifs at h with havailable hform
    split at h
    · cases h
    next dataKey hkey =>
    split at h
    · cases h
    next hdata =>
    cases h
    obtain ⟨call, hcall, hmade, hplace, -, hwrapNonce, hwrapped, rfl⟩ := opened hkey
    obtain ⟨other, hother, -, -, hsame, hnonce, hciphertext, hplaintext⟩ := opened hdata
    obtain rfl := inj_on_of_nodup_map history.dataKeys hcall hother hsame.symm
    refine ⟨call, hcall, ?_, hplace, hplaintext⟩
    obtain ⟨ciphertext, nonce, wrappedKey, wrapNonce, keyVersion⟩ := envelope
    obtain rfl : keyVersion = secretKeyVersion := not_not.mp (not_or.mp hform).1
    dsimp only [EncryptCall.message] at hnonce hwrapNonce
    rw [hmade, Repository.envelope, hciphertext, hnonce, hwrapped, hwrapNonce]
  · rintro ⟨call, hcall, hmade, rfl, rfl⟩
    obtain ⟨havailable, rfl⟩ := Repository.encryptSecret_eq_ok hmade
    obtain ⟨dataKey, hkey⟩ := exists_opening hcall hmade .dek rfl
    obtain ⟨wrapper, hwrapper, -, -, -, hsame, -, rfl⟩ := opened hkey
    obtain rfl := inj_on_of_nodup_map history.wrapNonces hcall hwrapper hsame.symm
    obtain ⟨plaintext, hdata⟩ := exists_opening hcall hmade .data rfl
    obtain ⟨sealer, hsealer, -, -, hsame, -, -, rfl⟩ := opened hdata
    obtain rfl := inj_on_of_nodup_map history.dataKeys hcall hsealer hsame.symm
    have hform : ¬((r.envelope call).keyVersion ≠ secretKeyVersion ∨ (r.envelope call).nonce.length ≠ 12 ∨
        (r.envelope call).wrapNonce.length ≠ 12 ∨ (r.envelope call).wrappedKey.length ≠ secretDataKeyBytes + 16) := by
      simp [Repository.envelope, r.aead.length_sealing, EncryptCall.message, call.lengths]
    unfold Repository.decryptSecret
    rw [if_neg (by simp [havailable]), if_neg hform]
    dsimp only [Repository.envelope, EncryptCall.message] at hkey hdata ⊢
    rw [hkey]
    dsimp only
    rw [hdata]

end Opening

/-- **Secret envelopes.** An envelope opens exactly for the kind, the record and the owner it was made for, and to the
plaintext of that call; with one of its fields from another envelope it opens for nobody. -/
theorem envelopes_bound (r : Repository) (history : History) :
    (∀ place envelope plaintext, r.decryptSecret (r.sealed history.calls) place envelope = .ok plaintext ↔
      ∃ call ∈ history.calls, r.encryptSecret call = .ok envelope ∧ call.place = place ∧ call.plaintext = plaintext) ∧
    ∀ call ∈ history.calls, ∀ envelope, r.encryptSecret call = .ok envelope →
      (∀ place ≠ call.place, ∀ plaintext,
        r.decryptSecret (r.sealed history.calls) place envelope ≠ .ok plaintext) ∧
      ∀ other : EncryptedSecretEnvelope, ∀ mixed ∈ [{ envelope with ciphertext := other.ciphertext },
          { envelope with nonce := other.nonce }, { envelope with wrappedKey := other.wrappedKey },
          { envelope with wrapNonce := other.wrapNonce }], mixed ≠ envelope →
        ∀ place plaintext, r.decryptSecret (r.sealed history.calls) place mixed ≠ .ok plaintext := by
  refine ⟨fun _ _ _ => decryptSecret_eq_ok_iff, fun call hcall envelope hmade => ⟨?_, ?_⟩⟩
  · intro place hplace plaintext hopened
    obtain ⟨call', hcall', hmade', rfl, -⟩ := decryptSecret_eq_ok_iff.mp hopened
    have hsame := (Repository.encryptSecret_eq_ok hmade').2.trans (Repository.encryptSecret_eq_ok hmade).2.symm
    have hcalls := inj_on_of_nodup_map history.wrapNonces hcall' hcall (congrArg EncryptedSecretEnvelope.wrapNonce hsame)
    exact hplace (congrArg EncryptCall.place hcalls)
  · intro other mixed hmixed hne place plaintext hopened
    obtain ⟨call', hcall', hmade', -⟩ := decryptSecret_eq_ok_iff.mp hopened
    obtain ⟨-, rfl⟩ := Repository.encryptSecret_eq_ok hmade
    obtain ⟨-, rfl⟩ := Repository.encryptSecret_eq_ok hmade'
    -- one of the two nonces is still that of the envelope
    have hshared : call'.nonce = call.nonce ∨ call'.wrapNonce = call.wrapNonce := by
      simp only [mem_cons, not_mem_nil, or_false, Repository.envelope, EncryptedSecretEnvelope.mk.injEq] at hmixed
      tauto
    have hcalls : call' = call := hshared.elim (inj_on_of_nodup_map history.nonces hcall' hcall)
      (inj_on_of_nodup_map history.wrapNonces hcall' hcall)
    exact hne (congrArg r.envelope hcalls)

end Stackfort.Secrets
