import OpenPanel.CallPool
import OpenPanel.Factors
import OpenPanel.Rows

/-! The two-factor service over its repository: verifying a login challenge,
enrolling a factor and revoking one. Every statement and audit record is a step and may
fail, which leaves the tables as they were. Hashes, encryption and the passkey ceremony
are parameters. The challenges a run uses are stored from its start. -/
namespace OpenPanel.TwoFactor
open CallPool

section Store

inductive TwoFactorError where
  | noFactor
  | invalidCode
  | codeReplayed
  | revoked
  | factorNotFound
  | storage (message : String)
  | webAuthnUnavailable
  | webAuthnCeremony (message : String)
  | webAuthnCeremonyExpired
  deriving DecidableEq

def mapFactorError : FactorError → TwoFactorError
  | .codeReplayed => .codeReplayed
  | .webAuthnCounterRegression => .codeReplayed
  | .revoked => .revoked
  | .invalidCodeFormat => .invalidCode
  | .codeMismatch => .invalidCode
  | .recoveryMismatch => .invalidCode
  | .recoveryConsumed => .invalidCode
  | .invalidSecret => .storage "invalid secret"
  | .notVerified => .invalidCode

structure TwoFactorCrypto where
  verifyToken : String → String → Bool
  decrypt : String → Except String String
  hexDecode : String → Except String (List UInt8)
  hotp : Hotp
  verifyRecovery : String → String → Bool
  finishAssert : String → String → Except TwoFactorError (String × Int)
  finishRegister : String → String → Except TwoFactorError (String × Int)

structure FactorRow extends Factor where
  totpSecretEncrypted : Option String

structure RecoveryRow where
  id : Nat
  userId : Uuid
  codeHash : String
  consumedAt : Option DateTime

structure FactorStore where
  factors : List FactorRow
  enrollments : List TotpEnrollmentChallenge
  recoveryCodes : List RecoveryRow
  recoverySequence : Nat
  challenges : List TwoFactorChallenge
  credentials : List WebAuthnCredential
  ceremonies : List WebAuthnChallenge

namespace FactorStore
variable (store : FactorStore)

def hasFactor (id : Uuid) : Bool := store.factors.any (fun row => row.id == id)

def insertFactor (factor : Factor) (secret : String) : FactorStore :=
  {store with factors := store.factors ++ [⟨factor,some secret⟩]}

def findFactor (id : Uuid) : Option Factor := (store.factors.find? (fun row => row.id == id)).map FactorRow.toFactor

def updateFactor (factor : Factor) : FactorStore :=
  let written := fun row : FactorRow => {row with revokedAt := factor.revokedAt,lastUsedStep := factor.lastUsedStep}
  {store with factors := Rows.update (fun row => row.id) factor.id written store.factors}

def findActiveTotpFactor (user : Uuid) : Option Factor :=
  (store.factors.find? (fun row => row.userId == user && row.kind == .totp && row.revokedAt.isNone)).map FactorRow.toFactor

def findTotpSecretEncrypted (id : Uuid) : Option String :=
  (store.factors.find? (fun row => row.id == id)).bind FactorRow.totpSecretEncrypted

def findTotpEnrollment (id : Uuid) : Option TotpEnrollmentChallenge :=
  store.enrollments.find? (fun row => row.id == id && row.consumedAt.isNone)

-- The second component is `rows_affected() == 1`.
def consumeTotpEnrollment (id : Uuid) (now : DateTime) : FactorStore × Bool :=
  let hit := fun row : TotpEnrollmentChallenge => row.id == id && row.consumedAt.isNone && decide (now < row.expiresAt)
  ({store with enrollments := store.enrollments.map (fun row => if hit row then {row with consumedAt := some now} else row)},
    store.enrollments.countP hit == 1)

def replaceRecoveryCodes (user : Uuid) (hashes : List String) : FactorStore :=
  {store with
    recoveryCodes := store.recoveryCodes.filter (fun row => row.userId != user) ++
      hashes.zipIdx.map (fun entry => ⟨store.recoverySequence + 1 + entry.2,user,entry.1,none⟩)
    recoverySequence := store.recoverySequence + hashes.length}

-- The count of unconsumed codes is cast to `u8`.
def countRecoveryCodes (user : Uuid) : Nat :=
  store.recoveryCodes.countP (fun row => row.userId == user && row.consumedAt.isNone) % 256

def useRecoveryCode (id : Nat) (now : DateTime) : FactorStore :=
  {store with recoveryCodes := Rows.update RecoveryRow.id id (fun row => {row with consumedAt := some now}) store.recoveryCodes}

def findChallenge (id : Uuid) : Option TwoFactorChallenge := store.challenges.find? (fun row => row.id == id)

def markChallenge (id : Uuid) (now : DateTime) : FactorStore :=
  {store with challenges := Rows.update TwoFactorChallenge.id id (fun row => {row with consumedAt := some now}) store.challenges}

def hasCredential (id : String) : Bool := store.credentials.any (fun row => row.credentialId == id)

def insertWebAuthnCredential (credential : WebAuthnCredential) : FactorStore :=
  {store with credentials := store.credentials ++ [credential]}

def listWebAuthnCredentials (user : Uuid) : List WebAuthnCredential :=
  (store.credentials.filter (fun row => row.userId == user && row.revokedAt.isNone)).insertionSort
    (fun a b => b.createdAt ≤ a.createdAt)

def findWebAuthnCredentialById (id : String) : Option WebAuthnCredential :=
  store.credentials.find? (fun row => row.credentialId == id)

def touchWebAuthnCredential (id : String) (counter : Int) : FactorStore :=
  {store with credentials := Rows.update WebAuthnCredential.credentialId id (fun row => {row with signCount := counter}) store.credentials}

def revokeWebAuthnCredential (id : String) (now : DateTime) : FactorStore :=
  {store with credentials := Rows.update WebAuthnCredential.credentialId id (fun row => {row with revokedAt := some now}) store.credentials}

def findWebAuthnChallenge (id : Uuid) : Option WebAuthnChallenge := store.ceremonies.find? (fun row => row.id == id)

def consumeWebAuthnChallenge (id : Uuid) (now : DateTime) : FactorStore × Bool :=
  let hit := fun row : WebAuthnChallenge => row.id == id && row.consumedAt.isNone && decide (now < row.expiresAt)
  ({store with ceremonies := store.ceremonies.map (fun row => if hit row then {row with consumedAt := some now} else row)},
    store.ceremonies.countP hit == 1)

end FactorStore

-- What the environment decides about a step: nothing, or the error of its statement.
abbrev Fault := Option String

def fallibly {π : Type} (advance : FactorStore → π → Option (FactorStore × π)) (breakOff : String → π → Option π)
    (store : FactorStore) (point : π) : Fault → Option (FactorStore × π)
  | none => advance store point
  | some message => (breakOff message point).map (fun target => (store,target))

def statementFailed (statement message : String) : TwoFactorError := .storage (statement ++ ": " ++ message)

def openSecret (crypto : TwoFactorCrypto) (encrypted : String) : Except TwoFactorError (List UInt8) := do
  let plaintext ← (crypto.decrypt encrypted).mapError (statementFailed "decrypt")
  (crypto.hexDecode plaintext).mapError (statementFailed "hex decode")

end Store

section Verification

inductive FactorResponse where
  | totp (code : List Char)
  | recovery (code : String)
  | webAuthn (ceremonyId : Uuid) (credential : String)
  deriving DecidableEq

structure LoginCall where
  challengeId : Uuid
  token : String
  response : FactorResponse
  now : DateTime
  deriving DecidableEq

structure Accepted where
  userId : Uuid
  factorId : Option Uuid
  step : Option Int
  deriving DecidableEq

inductive VerifyPoint where
  | token (call : LoginCall)
  | challenge (call : LoginCall)
  | activeTotp (call : LoginCall) (user : Uuid) (code : List Char)
  | totpSecret (call : LoginCall) (user : Uuid) (code : List Char) (factor : Factor)
  | storeStep (call : LoginCall) (user : Uuid) (factor : Factor) (step : Int)
  | recoveryCodes (call : LoginCall) (user : Uuid) (code : String)
  | useRecovery (call : LoginCall) (user : Uuid) (id : Nat)
  | ceremony (call : LoginCall) (user : Uuid) (ceremonyId : Uuid) (credential : String)
  | useCeremony (call : LoginCall) (user : Uuid) (ceremony : WebAuthnChallenge) (credential : String)
  | credential (call : LoginCall) (user : Uuid) (credentialId : String) (counter : Int)
  | touch (call : LoginCall) (user : Uuid) (credential : WebAuthnCredential) (counter : Int)
  | consume (call : LoginCall) (accepted : Accepted)
  | mark (call : LoginCall) (accepted : Accepted)
  | auditSuccess (call : LoginCall) (accepted : Accepted)
  | auditFailure (error : TwoFactorError)
  | verified (call : LoginCall) (accepted : Accepted)
  | failed (error : TwoFactorError)
  deriving DecidableEq

def verifyTotp (crypto : TwoFactorCrypto) (factor : Factor) (encrypted : String) (code : List Char) (now : DateTime) :
    Except TwoFactorError (Factor × Int) := do
  let bytes ← openSecret crypto encrypted
  let secret ← (TotpSecret.fromBytes bytes).mapError (fun e => statementFailed "invalid secret" e.message)
  let step ← (secret.verify crypto.hotp code now).mapError mapFactorError
  let factor ← (factor.recordUsedStep step).mapError mapFactorError
  return (factor,step)

namespace VerifyPoint

def respond (call : LoginCall) (user : Uuid) : VerifyPoint :=
  match call.response with
  | .totp code => .activeTotp call user code
  | .recovery code => .recoveryCodes call user code
  | .webAuthn ceremonyId response => .ceremony call user ceremonyId response

def asserted (crypto : TwoFactorCrypto) (call : LoginCall) (user : Uuid) (started : WebAuthnChallenge) (response : String) :
    VerifyPoint :=
  if started.kind ≠ .assertion then .failed .invalidCode
  else match crypto.finishAssert response started.stateJson with
    | .error e => .failed e
    | .ok (id,counter) => .credential call user id counter

def advance (crypto : TwoFactorCrypto) (store : FactorStore) : VerifyPoint → Option (FactorStore × VerifyPoint)
  | .token call =>
    some (store,if (store.findChallenge call.challengeId).any (fun row => crypto.verifyToken row.tokenHash call.token)
      then .challenge call else .failed .invalidCode)
  | .challenge call => some (store,match store.findChallenge call.challengeId with
    | none => .failed .invalidCode
    | some pending => if !pending.isUsable call.now then .failed .codeReplayed else respond call pending.userId)
  | .activeTotp call user code => some (store,match store.findActiveTotpFactor user with
    | none => .auditFailure .noFactor
    | some factor => .totpSecret call user code factor)
  | .totpSecret call user code factor => some (store,match store.findTotpSecretEncrypted factor.id with
    | none => .auditFailure .noFactor
    | some encrypted => match verifyTotp crypto factor encrypted code call.now with
      | .error e => .auditFailure e
      | .ok (factor,step) => .storeStep call user factor step)
  | .storeStep call user factor step => some (store.updateFactor factor,.consume call ⟨user,some factor.id,some step⟩)
  | .recoveryCodes call user code =>
    let hit := fun row : RecoveryRow => row.userId == user && row.consumedAt.isNone && crypto.verifyRecovery code row.codeHash
    some (store,match store.recoveryCodes.find? hit with
    | none => .auditFailure .invalidCode
    | some row => .useRecovery call user row.id)
  | .useRecovery call user id => some (store.useRecoveryCode id call.now,.consume call ⟨user,none,none⟩)
  | .ceremony call user ceremonyId response => some (store,match store.findWebAuthnChallenge ceremonyId with
    | none => .failed .webAuthnCeremonyExpired
    | some started => if !started.isUsable call.now then .failed .webAuthnCeremonyExpired
      else .useCeremony call user started response)
  | .useCeremony call user started response =>
    let taken := store.consumeWebAuthnChallenge started.id call.now
    some (taken.1,if taken.2 then asserted crypto call user started response else .failed .webAuthnCeremonyExpired)
  | .credential call user id counter => some (store,match store.findWebAuthnCredentialById id with
    | none => .failed .invalidCode
    | some passkey => match passkey.recordAssertion counter with
      | .error e => .auditFailure (mapFactorError e)
      | .ok () => .touch call user passkey counter)
  | .touch call user passkey counter =>
    some (store.touchWebAuthnCredential passkey.credentialId counter,
      if passkey.userId ≠ user then .auditFailure .invalidCode
      else .consume call ⟨user,some passkey.factorId,none⟩)
  -- The caller drops the result of `consume_challenge`, so a used challenge only skips the update.
  | .consume call accepted => some (store,match store.findChallenge call.challengeId with
    | none => .auditSuccess call accepted
    | some pending => match pending.consume call.now with
      | .ok _ => .mark call accepted
      | .error _ => .auditSuccess call accepted)
  | .mark call accepted => some (store.markChallenge call.challengeId call.now,.auditSuccess call accepted)
  | .auditSuccess call accepted => some (store,.verified call accepted)
  | .auditFailure error => some (store,.failed error)
  | .verified _ _ => none
  | .failed _ => none

def breakOff (message : String) : VerifyPoint → Option VerifyPoint
  | .token _ => some (.failed (statementFailed "find_challenge" message))
  | .challenge _ => some (.failed (statementFailed "find_challenge" message))
  | .activeTotp _ _ _ => some (.auditFailure (statementFailed "find_active_totp_factor" message))
  | .totpSecret _ _ _ _ => some (.auditFailure (statementFailed "find_totp_secret_encrypted" message))
  | .storeStep _ _ _ _ => some (.auditFailure (statementFailed "update_factor" message))
  | .recoveryCodes _ _ _ => some (.auditFailure (statementFailed "consume_recovery_code select" message))
  | .useRecovery _ _ _ => some (.auditFailure (statementFailed "consume_recovery_code update" message))
  | .ceremony _ _ _ _ => some (.failed (statementFailed "find_webauthn_challenge" message))
  | .useCeremony _ _ _ _ => some (.failed (statementFailed "consume_webauthn_challenge" message))
  | .credential _ _ _ _ => some (.failed (statementFailed "find_webauthn_credential_by_id" message))
  | .touch _ _ _ _ => some (.failed (statementFailed "touch_webauthn_credential" message))
  | .consume _ _ => some (.failed (statementFailed "find_challenge" message))
  | .mark _ _ => some (.failed (statementFailed "consume_challenge update" message))
  | .auditSuccess _ _ => some (.failed (statementFailed "audit" message))
  | .auditFailure _ => some (.failed (statementFailed "audit" message))
  | .verified _ _ => none
  | .failed _ => none

def step (crypto : TwoFactorCrypto) : FactorStore → VerifyPoint → Fault → Option (FactorStore × VerifyPoint) :=
  fallibly (advance crypto) breakOff

def idle : VerifyPoint → Bool
  | .totpSecret _ _ _ _ => false
  | .storeStep _ _ _ _ => false
  | .touch _ _ _ _ => false
  | .consume _ _ => false
  | .mark _ _ => false
  | .auditSuccess _ _ => false
  | .verified _ _ => false
  | _ => true

end VerifyPoint

inductive VerifyMove (crypto : TwoFactorCrypto) (store : FactorStore) : VerifyPoint → Fault → FactorStore → VerifyPoint → Prop where
  | idle {point fault store' target} (idle : target.idle = true) (factors : store'.factors = store.factors)
      (challenges : store'.challenges = store.challenges) (credentials : store'.credentials = store.credentials) :
      VerifyMove crypto store point fault store' target
  | copied {call user code factor} (found : store.findActiveTotpFactor user = some factor) :
      VerifyMove crypto store (.activeTotp call user code) none store (.totpSecret call user code factor)
  | checked {call user code factor encrypted factor' step}
      (verified : verifyTotp crypto factor encrypted code call.now = .ok (factor',step)) :
      VerifyMove crypto store (.totpSecret call user code factor) none store (.storeStep call user factor' step)
  | stored {call user factor step} : VerifyMove crypto store (.storeStep call user factor step) none
      (store.updateFactor factor) (.consume call ⟨user,some factor.id,some step⟩)
  | recovered {call user id} : VerifyMove crypto store (.useRecovery call user id) none
      (store.useRecoveryCode id call.now) (.consume call ⟨user,none,none⟩)
  | asserted {call user id counter passkey} (found : store.findWebAuthnCredentialById id = some passkey)
      (recorded : passkey.recordAssertion counter = .ok ()) :
      VerifyMove crypto store (.credential call user id counter) none store (.touch call user passkey counter)
  | mismatched {call user passkey counter} : VerifyMove crypto store (.touch call user passkey counter) none
      (store.touchWebAuthnCredential passkey.credentialId counter) (.auditFailure .invalidCode)
  | touched {call user passkey counter} : VerifyMove crypto store (.touch call user passkey counter) none
      (store.touchWebAuthnCredential passkey.credentialId counter) (.consume call ⟨user,some passkey.factorId,none⟩)
  | opened {call accepted} : VerifyMove crypto store (.consume call accepted) none store (.mark call accepted)
  | skipped {call accepted} (unusable : (store.findChallenge call.challengeId).any (fun row => row.isUsable call.now) = false) :
      VerifyMove crypto store (.consume call accepted) none store (.auditSuccess call accepted)
  | marked {call accepted} : VerifyMove crypto store (.mark call accepted) none
      (store.markChallenge call.challengeId call.now) (.auditSuccess call accepted)
  | finished {call accepted} : VerifyMove crypto store (.auditSuccess call accepted) none store (.verified call accepted)

section Moves
variable {store store' : FactorStore} {point target : VerifyPoint}

theorem brokenIdle (broken : point.breakOff message = some target) : target.idle = true := by
  cases point <;> first | contradiction | (cases broken; rfl)

theorem respondIdle : (VerifyPoint.respond call user).idle = true := by
  unfold VerifyPoint.respond
  split <;> rfl

theorem assertedIdle : (VerifyPoint.asserted crypto call user started response).idle = true := by
  unfold VerifyPoint.asserted
  split
  · rfl
  · split <;> rfl

theorem consumeMove (moved : (VerifyPoint.consume call accepted).advance crypto store = some (store',target)) :
    VerifyMove crypto store (.consume call accepted) none store' target := by
  cases moved
  cases found : store.findChallenge call.challengeId with
  | none => exact .skipped (by rw [found]; rfl)
  | some pending =>
    cases usable : pending.isUsable call.now with
    | true =>
      simp only [TwoFactorChallenge.consume,usable]
      exact .opened
    | false =>
      simp only [TwoFactorChallenge.consume,usable]
      exact .skipped (by rw [found]; exact usable)

theorem verifyMove (moved : point.step crypto store fault = some (store',target)) :
    VerifyMove crypto store point fault store' target := by
  cases fault with
  | some message =>
    obtain ⟨_,broken,same⟩ := Option.map_eq_some_iff.mp moved
    cases same
    exact .idle (brokenIdle broken) rfl rfl rfl
  | none =>
    cases point with
    | token call =>
      cases moved
      refine .idle ?_ rfl rfl rfl
      split <;> rfl
    | challenge call =>
      cases moved
      refine .idle ?_ rfl rfl rfl
      split
      · rfl
      · split
        · rfl
        · exact respondIdle
    | activeTotp call user code =>
      cases moved
      split
      · exact .idle rfl rfl rfl rfl
      · rename_i found
        exact .copied found
    | totpSecret call user code factor =>
      cases moved
      split
      · exact .idle rfl rfl rfl rfl
      · split
        · exact .idle rfl rfl rfl rfl
        · rename_i verified
          exact .checked verified
    | storeStep call user factor step =>
      cases moved
      exact .stored
    | recoveryCodes call user code =>
      cases moved
      refine .idle ?_ rfl rfl rfl
      split <;> rfl
    | useRecovery call user id =>
      cases moved
      exact .recovered
    | ceremony call user ceremonyId response =>
      cases moved
      refine .idle ?_ rfl rfl rfl
      split
      · rfl
      · split <;> rfl
    | useCeremony call user started response =>
      cases moved
      refine .idle ?_ rfl rfl rfl
      split
      · exact assertedIdle
      · rfl
    | credential call user id counter =>
      cases moved
      split
      · exact .idle rfl rfl rfl rfl
      · rename_i found
        split
        · exact .idle rfl rfl rfl rfl
        · rename_i recorded
          exact .asserted found recorded
    | touch call user passkey counter =>
      cases moved
      split
      · exact .mismatched
      · exact .touched
    | consume call accepted => exact consumeMove moved
    | mark call accepted =>
      cases moved
      exact .marked
    | auditSuccess call accepted =>
      cases moved
      exact .finished
    | auditFailure error =>
      cases moved
      exact .idle rfl rfl rfl rfl
    | verified call accepted => contradiction
    | failed error => contradiction

end Moves

end Verification

structure RevokeCall where
  userId : Uuid
  factorId : Uuid
  now : DateTime
  deriving DecidableEq

inductive RevokePoint where
  | find (call : RevokeCall)
  | update (call : RevokeCall) (factor : Factor)
  | credentials (call : RevokeCall)
  | revokeEach (call : RevokeCall) (id : String) (rest : List String)
  | audit (call : RevokeCall)
  | revoked (call : RevokeCall)
  | failed (error : TwoFactorError)
  deriving DecidableEq

namespace RevokePoint

def next (call : RevokeCall) : List String → RevokePoint
  | [] => .audit call
  | id::rest => .revokeEach call id rest

def advance (store : FactorStore) : RevokePoint → Option (FactorStore × RevokePoint)
  | .find call => some (store,match store.findFactor call.factorId with
    | none => .failed .factorNotFound
    | some factor =>
      if factor.userId ≠ call.userId then .failed .factorNotFound
      else if factor.revokedAt.isSome then .revoked call
      else .update call (factor.revoke call.now))
  | .update call factor => some (store.updateFactor factor,if factor.kind = .webAuthn then .credentials call else .audit call)
  | .credentials call =>
    let own := (store.listWebAuthnCredentials call.userId).filter (fun row => row.factorId == call.factorId)
    some (store,next call (own.map WebAuthnCredential.credentialId))
  | .revokeEach call id rest => some (store.revokeWebAuthnCredential id call.now,next call rest)
  | .audit call => some (store,.revoked call)
  | .revoked _ => none
  | .failed _ => none

def breakOff (message : String) : RevokePoint → Option RevokePoint
  | .find _ => some (.failed (statementFailed "find_factor" message))
  | .update _ _ => some (.failed (statementFailed "update_factor" message))
  | .credentials _ => some (.failed (statementFailed "list_webauthn_credentials" message))
  | .revokeEach _ _ _ => some (.failed (statementFailed "revoke_webauthn_credential" message))
  | .audit _ => some (.failed (statementFailed "audit" message))
  | .revoked _ => none
  | .failed _ => none

def step : FactorStore → RevokePoint → Fault → Option (FactorStore × RevokePoint) := fallibly advance breakOff

end RevokePoint

-- The id of the new factor and the hashes of the new recovery codes are the
-- environment's; without hashes the hash function failed.
structure EnrollCall where
  userId : Uuid
  enrollmentId : Uuid
  code : List Char
  now : DateTime
  factorId : Uuid
  hashes : Option (List String)
  deriving DecidableEq

inductive EnrollPoint where
  | find (call : EnrollCall)
  | consume (call : EnrollCall) (secret : String) (step : Int)
  | insert (call : EnrollCall) (secret : String) (factor : Factor)
  | recovery (call : EnrollCall) (factor : Factor) (hashes : List String)
  | audit (call : EnrollCall) (factor : Factor)
  | enrolled (call : EnrollCall) (factor : Factor)
  | failed (error : TwoFactorError)
  deriving DecidableEq

def hashesFailed : TwoFactorError := .storage FactorError.invalidSecret.message

def factorTaken : TwoFactorError := statementFailed "insert_factor" "UNIQUE constraint failed: user_factors.id"

namespace EnrollPoint

def verifySecret (crypto : TwoFactorCrypto) (encrypted : String) (code : List Char) (now : DateTime) : Except TwoFactorError Int := do
  let bytes ← openSecret crypto encrypted
  let secret ← (TotpSecret.fromBytes bytes).mapError mapFactorError
  (secret.verify crypto.hotp code now).mapError mapFactorError

def advance (crypto : TwoFactorCrypto) (store : FactorStore) : EnrollPoint → Option (FactorStore × EnrollPoint)
  | .find call =>
    let usable := fun row : TotpEnrollmentChallenge => row.userId == call.userId && row.isUsable call.now
    some (store,match (store.findTotpEnrollment call.enrollmentId).filter usable with
    | none => .failed .invalidCode
    | some enrollment => match verifySecret crypto enrollment.encryptedSecret call.code call.now with
      | .error e => .failed e
      | .ok step => .consume call enrollment.encryptedSecret step)
  | .consume call secret step =>
    let taken := store.consumeTotpEnrollment call.enrollmentId call.now
    some (taken.1,if taken.2 then
      match (Factor.newVerified call.factorId call.userId .totp).recordUsedStep step with
      | .error e => .failed (mapFactorError e)
      | .ok factor => .insert call secret factor
    else .failed .codeReplayed)
  | .insert call secret factor =>
    if store.hasFactor factor.id then some (store,.failed factorTaken)
    else some (store.insertFactor factor secret,match call.hashes with
      | none => .failed hashesFailed
      | some hashes => .recovery call factor hashes)
  | .recovery call factor hashes => some (store.replaceRecoveryCodes call.userId hashes,.audit call factor)
  | .audit call factor => some (store,.enrolled call factor)
  | .enrolled _ _ => none
  | .failed _ => none

def breakOff (message : String) : EnrollPoint → Option EnrollPoint
  | .find _ => some (.failed (statementFailed "find_totp_enrollment" message))
  | .consume _ _ _ => some (.failed (statementFailed "consume_totp_enrollment" message))
  | .insert _ _ _ => some (.failed (statementFailed "insert_factor" message))
  | .recovery _ _ _ => some (.failed (.storage ("replace_recovery_codes " ++ message)))
  | .audit _ _ => some (.failed (statementFailed "audit" message))
  | .enrolled _ _ => none
  | .failed _ => none

def step (crypto : TwoFactorCrypto) : FactorStore → EnrollPoint → Fault → Option (FactorStore × EnrollPoint) :=
  fallibly (advance crypto) breakOff

end EnrollPoint

structure RegisterCall where
  userId : Uuid
  ceremonyId : Uuid
  response : String
  now : DateTime
  factorId : Uuid
  hashes : Option (List String)
  deriving DecidableEq

inductive RegisterPoint where
  | ceremony (call : RegisterCall)
  | useCeremony (call : RegisterCall) (ceremony : WebAuthnChallenge)
  | insert (call : RegisterCall) (credentialId : String) (counter : Int)
  | credential (call : RegisterCall) (credentialId : String) (counter : Int)
  | count (call : RegisterCall)
  | recovery (call : RegisterCall) (hashes : List String)
  | audit (call : RegisterCall)
  | registered (call : RegisterCall)
  | failed (error : TwoFactorError)
  deriving DecidableEq

namespace RegisterPoint

def attested (crypto : TwoFactorCrypto) (call : RegisterCall) (started : WebAuthnChallenge) : RegisterPoint :=
  if started.userId ≠ call.userId ∨ started.kind ≠ .register then .failed .invalidCode
  else match crypto.finishRegister call.response started.stateJson with
    | .error e => .failed e
    | .ok (id,counter) => .insert call id counter

def newCredential (call : RegisterCall) (id : String) (counter : Int) : WebAuthnCredential :=
  ⟨id,call.userId,call.factorId,counter,call.now,none⟩

def advance (crypto : TwoFactorCrypto) (store : FactorStore) : RegisterPoint → Option (FactorStore × RegisterPoint)
  | .ceremony call => some (store,match store.findWebAuthnChallenge call.ceremonyId with
    | none => .failed .webAuthnCeremonyExpired
    | some started => if !started.isUsable call.now then .failed .webAuthnCeremonyExpired else .useCeremony call started)
  | .useCeremony call started =>
    let taken := store.consumeWebAuthnChallenge started.id call.now
    some (taken.1,if taken.2 then attested crypto call started else .failed .webAuthnCeremonyExpired)
  | .insert call id counter =>
    if store.hasFactor call.factorId then some (store,.failed factorTaken)
    else some (store.insertFactor (.newVerified call.factorId call.userId .webAuthn) "",.credential call id counter)
  | .credential call id counter =>
    if store.hasCredential id then
      some (store,.failed (statementFailed "insert_webauthn_credential" "UNIQUE constraint failed: webauthn_credentials.credential_id"))
    else some (store.insertWebAuthnCredential (newCredential call id counter),.count call)
  | .count call => some (store,
    if store.countRecoveryCodes call.userId = 0 then
      match call.hashes with
      | none => .failed hashesFailed
      | some hashes => .recovery call hashes
    else .audit call)
  | .recovery call hashes => some (store.replaceRecoveryCodes call.userId hashes,.audit call)
  | .audit call => some (store,.registered call)
  | .registered _ => none
  | .failed _ => none

def breakOff (message : String) : RegisterPoint → Option RegisterPoint
  | .ceremony _ => some (.failed (statementFailed "find_webauthn_challenge" message))
  | .useCeremony _ _ => some (.failed (statementFailed "consume_webauthn_challenge" message))
  | .insert _ _ _ => some (.failed (statementFailed "insert_factor" message))
  | .credential _ _ _ => some (.failed (statementFailed "insert_webauthn_credential" message))
  | .count _ => some (.failed (statementFailed "list_recovery_codes" message))
  | .recovery _ _ => some (.failed (.storage ("replace_recovery_codes " ++ message)))
  | .audit _ => some (.failed (statementFailed "audit" message))
  | .registered _ => none
  | .failed _ => none

def step (crypto : TwoFactorCrypto) : FactorStore → RegisterPoint → Fault → Option (FactorStore × RegisterPoint) :=
  fallibly (advance crypto) breakOff

end RegisterPoint

end OpenPanel.TwoFactor
