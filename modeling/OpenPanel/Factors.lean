import OpenPanel.Values

/-! Second factors: the factor and its replay protection, one-time codes, login
challenges and passkey credentials. The HOTP value of a secret and a counter is a
parameter, and `generate(t)` is the one of the counter `t / 30`. Timestamps that no
modelled function reads are left out. -/
namespace OpenPanel.TwoFactor

inductive FactorError where
  | revoked
  | notVerified
  | invalidCodeFormat
  | codeMismatch
  | codeReplayed
  | recoveryMismatch
  | recoveryConsumed
  | webAuthnCounterRegression
  | invalidSecret
  deriving DecidableEq

def FactorError.message : FactorError → String
  | .revoked => "factor has been revoked"
  | .notVerified => "factor is not yet verified"
  | .invalidCodeFormat => "invalid TOTP code format"
  | .codeMismatch => "TOTP code did not match"
  | .codeReplayed => "TOTP code has already been used"
  | .recoveryMismatch => "recovery code did not match"
  | .recoveryConsumed => "recovery code has already been consumed"
  | .webAuthnCounterRegression => "WebAuthn signature counter did not advance"
  | .invalidSecret => "TOTP secret is malformed"

inductive FactorKind where | totp | webAuthn deriving DecidableEq

structure Factor where
  id : Uuid
  userId : Uuid
  kind : FactorKind
  revokedAt : Option DateTime
  lastUsedStep : Option Int
  deriving DecidableEq

namespace Factor

def newVerified (id userId : Uuid) (kind : FactorKind) : Factor := ⟨id,userId,kind,none,none⟩

def isUsable (factor : Factor) : Bool := factor.revokedAt.isNone

def recordUsedStep (factor : Factor) (step : Int) : Except FactorError Factor :=
  if !factor.isUsable then .error .revoked
  else if factor.lastUsedStep.any (fun previous => decide (step ≤ previous)) then .error .codeReplayed
  else .ok {factor with lastUsedStep := some step}

def revoke (factor : Factor) (now : DateTime) : Factor := {factor with revokedAt := some now}

end Factor

def SixDigits (code : List Char) : Prop := code.length = 6 ∧ code.all isAsciiDigit = true

instance (code) : Decidable (SixDigits code) := by unfold SixDigits; infer_instance

structure Hotp where
  value : List UInt8 → Nat → List Char
  sixDigits : ∀ secret counter, SixDigits (value secret counter)

-- `TOTP::generate` at a time in seconds.
def Hotp.generate (hotp : Hotp) (secret : List UInt8) (time : Nat) : List Char := hotp.value secret (time / 30)

structure TotpSecret where
  bytes : List UInt8
  valid : bytes ≠ []

def TotpSecret.fromBytes (bytes : List UInt8) : Except FactorError TotpSecret :=
  if valid : bytes ≠ [] then .ok ⟨bytes,valid⟩ else .error .invalidSecret

def timestamp (now : DateTime) : Int := now / 1000000000

-- `i64` division truncates.
def currentStep (now : DateTime) : Int := (timestamp now).tdiv 30

def asciiBytes (text : List Char) : List UInt8 := text.map (fun c => UInt8.ofNat c.toNat)

def constantTimeEq (a b : List UInt8) : Bool :=
  if a.length ≠ b.length then false
  else (a.zip b).foldl (fun diff pair => diff ||| (pair.1 ^^^ pair.2)) 0 == 0

def normalized (code : List Char) : List Char := (trim code).filter (fun c => c ≠ ' ')

def TotpSecret.tryOffsets (hotp : Hotp) (secret : TotpSecret) (code : List Char) (current : Int) :
    List Int → Except FactorError Int
  | [] => .error .codeMismatch
  | offset::rest =>
    let step := current + offset
    if step < 0 then .error .invalidSecret
    else if constantTimeEq (asciiBytes (hotp.generate secret.bytes step.toNat)) (asciiBytes code) then .ok step
    else tryOffsets hotp secret code current rest

def TotpSecret.verify (hotp : Hotp) (secret : TotpSecret) (code : List Char) (now : DateTime) : Except FactorError Int :=
  let code := normalized code
  if byteLength code ≠ 6 ∨ code.all isAsciiDigit = false then .error .invalidCodeFormat
  else secret.tryOffsets hotp code (currentStep now) [0,-1,1]

structure TwoFactorChallenge where
  id : Uuid
  userId : Uuid
  tokenHash : String
  expiresAt : DateTime
  consumedAt : Option DateTime

def TwoFactorChallenge.isUsable (challenge : TwoFactorChallenge) (now : DateTime) : Bool :=
  challenge.consumedAt.isNone && decide (now < challenge.expiresAt)

def TwoFactorChallenge.consume (challenge : TwoFactorChallenge) (now : DateTime) : Except FactorError Uuid :=
  if !challenge.isUsable now then .error .codeReplayed else .ok challenge.userId

structure TotpEnrollmentChallenge where
  id : Uuid
  userId : Uuid
  encryptedSecret : String
  expiresAt : DateTime
  consumedAt : Option DateTime

def TotpEnrollmentChallenge.isUsable (enrollment : TotpEnrollmentChallenge) (now : DateTime) : Bool :=
  decide (now < enrollment.expiresAt)

inductive CeremonyKind where | assertion | register deriving DecidableEq

structure WebAuthnChallenge where
  id : Uuid
  userId : Uuid
  kind : CeremonyKind
  stateJson : String
  expiresAt : DateTime
  consumedAt : Option DateTime
  deriving DecidableEq

def WebAuthnChallenge.isUsable (challenge : WebAuthnChallenge) (now : DateTime) : Bool :=
  challenge.consumedAt.isNone && decide (now < challenge.expiresAt)

structure WebAuthnCredential where
  credentialId : String
  userId : Uuid
  factorId : Uuid
  signCount : Int
  createdAt : DateTime
  revokedAt : Option DateTime
  deriving DecidableEq

def WebAuthnCredential.isUsable (credential : WebAuthnCredential) : Bool := credential.revokedAt.isNone

def WebAuthnCredential.recordAssertion (credential : WebAuthnCredential) (counter : Int) : Except FactorError Unit :=
  if !credential.isUsable then .error .revoked
  else if counter ≤ credential.signCount then .error .webAuthnCounterRegression
  else .ok ()

end OpenPanel.TwoFactor
