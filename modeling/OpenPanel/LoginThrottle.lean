import OpenPanel.FirewallService
import OpenPanel.Rows

/-! Login throttling over the tables of its SQLite repository, in nanoseconds.
RFC 3339 texts of the years 0 to 9999 sort as the instants, so the rows hold these. An
instant past chrono's range panics, which ends the call. Lower case is a parameter. -/
namespace OpenPanel.Security
open Fallible

abbrev Duration := Nat
def Duration.asSecs (duration : Duration) : Nat := duration / 1000000000
def Duration.fromSecs (secs : Nat) : Duration := secs * 1000000000

structure LoginKey where
  text : List Char
  deriving DecidableEq

def LoginKey.account (lowercase : List Char → List Char) (value : List Char) : Except SecurityError LoginKey :=
  let normalized := lowercase (trim value)
  if normalized = [] ∨ 254 < byteLength normalized ∨ normalized.any isControl = true then .error .invalidLoginKey
  else .ok ⟨"account:".toList ++ normalized⟩

def LoginKey.ip (address : IpAddr) : LoginKey := ⟨"ip:".toList ++ address.text⟩

inductive ThrottleStop where
  | refused (error : SecurityServiceError)
  | panicked
  deriving DecidableEq

def ThrottleStop.ofDomain (error : SecurityError) : ThrottleStop := .refused (.ofDomain error)

-- `i64::MAX` milliseconds, the longest `chrono::Duration`.
def maxDelta : Duration := 9223372036854775807 * 1000000

structure TemporaryBlock where
  key : LoginKey
  startedAt : DateTime
  expiresAt : DateTime
  unblockedAt : Option DateTime
  deriving DecidableEq

def TemporaryBlock.new (key : LoginKey) (now : DateTime) (duration : Duration) : Except ThrottleStop TemporaryBlock :=
  if duration = 0 ∨ 9223372036854775807 < duration.asSecs then .error (.ofDomain .invalidBlock)
  else if maxDelta < Duration.fromSecs duration.asSecs ∨ maxUtc < now + seconds duration.asSecs then .error .panicked
  else .ok ⟨key,now,now + seconds duration.asSecs,none⟩

def TemporaryBlock.isActive (block : TemporaryBlock) (now : DateTime) : Bool :=
  block.unblockedAt.isNone && decide (block.startedAt ≤ now) && decide (now < block.expiresAt)

structure LoginThrottlePolicy where
  attempts : UInt32
  window : Duration
  base : Duration
  maximum : Duration
  valid : attempts ≠ 0 ∧ window ≠ 0 ∧ base ≠ 0 ∧ base ≤ maximum
  deriving DecidableEq

namespace LoginThrottlePolicy

def new (attempts : UInt32) (window base maximum : Duration) : Except SecurityError LoginThrottlePolicy :=
  if invalid : attempts = 0 ∨ window = 0 ∨ base = 0 ∨ maximum < base then .error .invalidThrottlePolicy
  else .ok ⟨attempts,window,base,maximum,by
    simp only [not_or,Nat.not_lt] at invalid
    exact invalid⟩

def blockDuration (policy : LoginThrottlePolicy) (offense : Nat) : Duration :=
  let exponent := min (offense - 1) 63
  .fromSecs (min (min (policy.base.asSecs * (1 <<< exponent)) 18446744073709551615) policy.maximum.asSecs)

example : (LoginThrottlePolicy.new 5 (.fromSecs 300) (.fromSecs 30) (.fromSecs 3600)).map
    (fun policy => [1,2,100].map (fun offense => (policy.blockDuration offense).asSecs)) = .ok [30,60,3600] := by decide

end LoginThrottlePolicy

def trustedClientIp (peer : IpAddr) (forwarded : Option IpAddr) (trustedProxies : List NetworkCidr) : IpAddr :=
  if trustedProxies.any (fun network => network.contains peer) then forwarded.getD peer else peer

structure FailureRow where
  key : LoginKey
  occurredAt : DateTime
  deriving DecidableEq

structure ThrottleStore where
  failures : List FailureRow
  blocks : List TemporaryBlock
  allowlists : List NetworkCidr
  deriving DecidableEq

abbrev ThrottleProg := Prog ThrottleStore ThrottleStop

def saveFailure (key : LoginKey) (now : DateTime) : ThrottleProg Unit :=
  attempt (fun store => .ok ((),{store with failures := store.failures ++ [⟨key,now⟩]}))

def ThrottleStore.failureCount (store : ThrottleStore) (key : LoginKey) (since : DateTime) : Nat :=
  min (store.failures.filter (fun row => row.key == key && decide (since ≤ row.occurredAt))).length 4294967295

def upsertBlock (block : TemporaryBlock) (blocks : List TemporaryBlock) : List TemporaryBlock :=
  if blocks.any (fun stored => stored.key == block.key) then Rows.update TemporaryBlock.key block.key (fun _ => block) blocks
  else blocks ++ [block]

def saveBlock (block : TemporaryBlock) : ThrottleProg Unit :=
  attempt (fun store => .ok ((),{store with blocks := upsertBlock block store.blocks}))

def ThrottleStore.activeBlock (store : ThrottleStore) (key : LoginKey) (now : DateTime) : Option TemporaryBlock :=
  (store.blocks.find? (fun block => block.key == key)).filter (fun block => block.isActive now)

section Service

structure LoginThrottleDecision where
  publicMessage : String
  retryAfterSeconds : Option Nat
  deriving DecidableEq

structure LoginThrottleService where
  lowercase : List Char → List Char
  policy : LoginThrottlePolicy
  trustedProxies : List NetworkCidr

structure LoginRequest where
  account : List Char
  peer : IpAddr
  forwarded : Option IpAddr

namespace LoginThrottleService
variable (service : LoginThrottleService) (request : LoginRequest)

def client : IpAddr := trustedClientIp request.peer request.forwarded service.trustedProxies

def accountKey : Except ThrottleStop LoginKey :=
  (LoginKey.account service.lowercase request.account).mapError ThrottleStop.ofDomain

def allowed (store : ThrottleStore) : Bool := store.allowlists.any (fun network => network.contains (service.client request))

def since (now : DateTime) : Except ThrottleStop DateTime :=
  if maxDelta < service.policy.window then .error (.refused (.validation "invalid throttle window"))
  else if now - service.policy.window < minUtc then .error .panicked
  else .ok (now - service.policy.window)

def recordKey (now since : DateTime) (key : LoginKey) (retry : Option Nat) : ThrottleProg (Option Nat) := do
  saveFailure key now
  let failures ← reads (fun store => .ok (store.failureCount key since))
  if service.policy.attempts.toNat ≤ failures then do
    let duration := service.policy.blockDuration (failures - service.policy.attempts.toNat + 1)
    let block ← reads (fun _ => TemporaryBlock.new key now duration)
    saveBlock block
    pure (some (max (retry.getD 0) duration.asSecs))
  else pure retry

def recordFailure (now : DateTime) : ThrottleProg LoginThrottleDecision := do
  let listed ← reads (fun store => .ok (service.allowed request store))
  if listed then pure ⟨"invalid credentials",none⟩
  else do
    let account ← reads (fun _ => service.accountKey request)
    let since ← reads (fun _ => service.since now)
    let retry ← service.recordKey now since account none
    let retry ← service.recordKey now since (.ip (service.client request)) retry
    pure ⟨"invalid credentials",retry⟩

def denial (store : ThrottleStore) (now : DateTime) (key : LoginKey) : Option LoginThrottleDecision :=
  (store.activeBlock key now).bind (fun block =>
    if block.isActive now then
      some ⟨"invalid credentials",some (max 1 ((block.expiresAt - now).toNat / 1000000000))⟩
    else none)

def check (now : DateTime) (store : ThrottleStore) : Except ThrottleStop (Option LoginThrottleDecision) := do
  if service.allowed request store then return none
  else
    let account ← service.accountKey request
    return (denial store now account <|> denial store now (.ip (service.client request)))

end LoginThrottleService

end Service

end OpenPanel.Security
