import OpenPanel.FactorCodes

/-! Revoking a factor while others verify with it, enroll and revoke. A verification
writes a copy of the factor back, a registration stores its passkey after its factor,
and a second revocation returns as soon as it finds the factor revoked. -/
namespace OpenPanel.TwoFactor
open CallPool GuardedRun Fallible

inductive FactorPoint where
  | verify (point : VerifyPoint)
  | revoke (point : RevokePoint)
  | enroll (point : EnrollPoint)
  | register (point : RegisterPoint)
  deriving DecidableEq

namespace FactorPoint

def entry : FactorPoint → Bool
  | .verify (.token _) => true
  | .revoke (.find _) => true
  | .enroll (.find _) => true
  | .register (.ceremony _) => true
  | _ => false

def step (crypto : TwoFactorCrypto) (store : FactorStore) : FactorPoint → Fault → Option (FactorStore × FactorPoint)
  | .verify point,fault => (point.step crypto store fault).map (Prod.map id .verify)
  | .revoke point,fault => (point.step store fault).map (Prod.map id .revoke)
  | .enroll point,fault => (point.step crypto store fault).map (Prod.map id .enroll)
  | .register point,fault => (point.step crypto store fault).map (Prod.map id .register)

/-- A copy is written back over a factor that is not revoked, a passkey is stored for
one that is not, and who finds a factor revoked finds its passkeys revoked. -/
def harmless (store : FactorStore) : FactorPoint → Bool
  | .verify (.storeStep _ _ factor _) => store.factors.all (fun row => row.id != factor.id || row.revokedAt.isNone)
  | .register (.credential call _ _) => store.factors.all (fun row => row.id != call.factorId || row.revokedAt.isNone)
  | .revoke (.find call) => (store.findFactor call.factorId).all (fun factor => factor.userId != call.userId ||
      factor.revokedAt.isNone || store.credentials.all (fun passkey => passkey.factorId != call.factorId || passkey.revokedAt.isSome))
  | _ => true

end FactorPoint

def factorMachine (crypto : TwoFactorCrypto) : Machine FactorStore FactorPoint Fault where
  entry := FactorPoint.entry
  step := FactorPoint.step crypto

def lasting : Discipline FactorStore FactorPoint Fault where
  alone store point fault := fault = none → point.harmless store = true
  beside _ _ _ _ := True

instance (store point fault) : Decidable (lasting.alone store point fault) := by
  unfold lasting
  infer_instance

instance (store point fault other) :
    Decidable (lasting.beside store point fault other) := by
  unfold lasting
  infer_instance

section Assertions

def OwnedBy (store : FactorStore) (id user : Uuid) : Prop :=
  (∃ row ∈ store.factors, row.id = id) ∧ ∀ row ∈ store.factors, row.id = id → row.kind = .webAuthn ∧ row.userId = user

def Withdrawn (store : FactorStore) (id : Uuid) : Prop :=
  (∃ row ∈ store.factors, row.id = id) ∧ ∀ row ∈ store.factors, row.id = id → row.revokedAt.isSome = true

def RevokedBut (store : FactorStore) (id : Uuid) (listed : List String) : Prop :=
  Withdrawn store id ∧ ∀ passkey ∈ store.credentials, passkey.factorId = id →
    passkey.revokedAt.isSome = true ∨ passkey.credentialId ∈ listed

structure Consistent (store : FactorStore) : Prop where
  keys : Rows.Unique (fun row => row.id) store.factors
  owned : ∀ passkey ∈ store.credentials, OwnedBy store passkey.factorId passkey.userId

structure FactorRow.Becomes (row row' : FactorRow) : Prop where
  id : row'.id = row.id
  kind : row'.kind = row.kind
  owner : row'.userId = row.userId
  revoked : row.revokedAt.isSome = true → row'.revokedAt.isSome = true

structure WebAuthnCredential.Becomes (passkey passkey' : WebAuthnCredential) : Prop where
  name : passkey'.credentialId = passkey.credentialId
  factor : passkey'.factorId = passkey.factorId
  owner : passkey'.userId = passkey.userId
  revoked : passkey.revokedAt.isSome = true → passkey'.revokedAt.isSome = true

theorem rowKept (row : FactorRow) : row.Becomes row := ⟨rfl,rfl,rfl,fun revoked => revoked⟩

theorem passkeyKept (passkey : WebAuthnCredential) : passkey.Becomes passkey := ⟨rfl,rfl,rfl,fun revoked => revoked⟩

structure Steady (store store' : FactorStore) : Prop where
  keys : Rows.Unique (fun row => row.id) store.factors → Rows.Unique (fun row => row.id) store'.factors
  stored : ∀ row ∈ store.factors, ∃ row' ∈ store'.factors, row.Becomes row'
  origin : ∀ row' ∈ store'.factors, (∃ row ∈ store.factors, row.id = row'.id) → ∃ row ∈ store.factors, row.Becomes row'
  passkeys : ∀ passkey' ∈ store'.credentials, (∃ passkey ∈ store.credentials, passkey.Becomes passkey') ∨
    OwnedBy store passkey'.factorId passkey'.userId ∧ ¬Withdrawn store passkey'.factorId

variable {store store' : FactorStore} {id user : Uuid}

theorem Steady.known (steady : Steady store store') (known : ∃ row ∈ store.factors, row.id = id) :
    ∃ row ∈ store'.factors, row.id = id := by
  obtain ⟨row,mem,rfl⟩ := known
  obtain ⟨row',mem',becomes⟩ := steady.stored row mem
  exact ⟨row',mem',becomes.id⟩

theorem Steady.ownedBy (steady : Steady store store') (owned : OwnedBy store id user) : OwnedBy store' id user := by
  refine ⟨steady.known owned.1,?_⟩
  rintro row' mem rfl
  obtain ⟨row,before,becomes⟩ := steady.origin row' mem owned.1
  have facts := owned.2 row before becomes.id.symm
  exact ⟨becomes.kind.trans facts.1,becomes.owner.trans facts.2⟩

theorem Steady.withdrawn (steady : Steady store store') (withdrawn : Withdrawn store id) : Withdrawn store' id := by
  refine ⟨steady.known withdrawn.1,?_⟩
  rintro row' mem rfl
  obtain ⟨row,before,becomes⟩ := steady.origin row' mem withdrawn.1
  exact becomes.revoked (withdrawn.2 row before becomes.id.symm)

theorem Steady.revokedBut (steady : Steady store store') (revoked : RevokedBut store id listed) : RevokedBut store' id listed := by
  refine ⟨steady.withdrawn revoked.1,?_⟩
  rintro passkey' mem rfl
  rcases steady.passkeys passkey' mem with ⟨passkey,before,becomes⟩ | ⟨_,fresh⟩
  · rw [becomes.name]
    exact (revoked.2 passkey before becomes.factor.symm).imp_left becomes.revoked
  · exact absurd revoked.1 fresh

theorem Steady.consistent (steady : Steady store store') (consistent : Consistent store) : Consistent store' := by
  refine ⟨steady.keys consistent.keys,fun passkey' mem => steady.ownedBy ?_⟩
  rcases steady.passkeys passkey' mem with ⟨passkey,before,becomes⟩ | ⟨owned,_⟩
  · rw [becomes.factor,becomes.owner]
    exact consistent.owned passkey before
  · exact owned

theorem steadyFactors (factors : store'.factors = store.factors)
    (passkeys : ∀ passkey' ∈ store'.credentials, (∃ passkey ∈ store.credentials, passkey.Becomes passkey') ∨
      OwnedBy store passkey'.factorId passkey'.userId ∧ ¬Withdrawn store passkey'.factorId) : Steady store store' where
  keys unique := by rwa [factors]
  stored row mem := ⟨row,factors ▸ mem,rowKept row⟩
  origin row mem _ := ⟨row,factors ▸ mem,rowKept row⟩
  passkeys := passkeys

theorem steadySame (factors : store'.factors = store.factors) (credentials : store'.credentials = store.credentials) :
    Steady store store' :=
  steadyFactors factors (fun passkey mem => .inl ⟨passkey,credentials ▸ mem,passkeyKept passkey⟩)

theorem steadyPasskeys (factors : store'.factors = store.factors)
    (credentials : store'.credentials = Rows.update WebAuthnCredential.credentialId name change store.credentials)
    (becomes : ∀ passkey : WebAuthnCredential, passkey.Becomes (change passkey)) : Steady store store' := by
  refine steadyFactors factors (fun passkey' mem => .inl ?_)
  rw [credentials] at mem
  rcases Rows.memUpdate mem with ⟨before,_⟩ | ⟨passkey,before,_,rfl⟩
  · exact ⟨passkey',before,passkeyKept passkey'⟩
  · exact ⟨passkey,before,becomes passkey⟩

theorem steadyRegister (owned : OwnedBy store passkey.factorId passkey.userId)
    (unrevoked : ¬Withdrawn store passkey.factorId) : Steady store (store.insertWebAuthnCredential passkey) := by
  refine steadyFactors rfl (fun passkey' mem => ?_)
  rcases List.mem_append.mp mem with before | added
  · exact .inl ⟨passkey',before,passkeyKept passkey'⟩
  · rw [List.mem_singleton.mp added]
    exact .inr ⟨owned,unrevoked⟩

theorem steadyUpdate (lasts : ∀ row ∈ store.factors, row.id = factor.id → row.revokedAt.isSome = true →
    factor.revokedAt.isSome = true) : Steady store (store.updateFactor factor) where
  keys unique := Rows.updateUnique unique (fun _ _ => rfl)
  stored row mem := by
    by_cases hit : row.id = factor.id
    · exact ⟨_,Rows.updateHit mem hit,rfl,rfl,rfl,lasts row mem hit⟩
    · exact ⟨row,Rows.updateOther mem hit,rowKept row⟩
  origin row' mem _ := by
    rcases Rows.memUpdate mem with ⟨before,_⟩ | ⟨row,before,hit,rfl⟩
    · exact ⟨row',before,rowKept row'⟩
    · exact ⟨row,before,rfl,rfl,rfl,lasts row before hit⟩
  passkeys passkey mem := .inl ⟨passkey,mem,passkeyKept passkey⟩

theorem freshFactor (fresh : store.hasFactor id = false) : ∀ row ∈ store.factors, row.id ≠ id :=
  fun row mem same => List.any_eq_false.mp fresh row mem (beq_iff_eq.mpr same)

theorem steadyInsert (fresh : store.hasFactor factor.id = false) :
    Steady store (store.insertFactor factor secret) where
  keys unique := Rows.insertUnique unique (freshFactor fresh)
  stored row mem := ⟨row,List.mem_append_left _ mem,rowKept row⟩
  origin row' mem known := by
    rcases List.mem_append.mp mem with before | added
    · exact ⟨row',before,rowKept row'⟩
    · obtain ⟨row,before,same⟩ := known
      rw [List.mem_singleton.mp added] at same
      exact absurd same (freshFactor fresh row before)
  passkeys passkey mem := .inl ⟨passkey,mem,passkeyKept passkey⟩

end Assertions

section Steps
variable {store store' : FactorStore}

def Promised (store : FactorStore) : FactorPoint → Prop
  | .register (.credential call _ _) => OwnedBy store call.factorId call.userId
  | .revoke (.update call factor) => factor.id = call.factorId ∧ factor.revokedAt.isSome = true ∧
      ∃ row ∈ store.factors, row.id = call.factorId ∧ row.kind = factor.kind ∧ row.userId = call.userId
  | .revoke (.credentials call) => Withdrawn store call.factorId ∧
      ∃ row ∈ store.factors, row.id = call.factorId ∧ row.userId = call.userId
  | .revoke (.revokeEach call name rest) => RevokedBut store call.factorId (name::rest)
  | .revoke (.audit call) => RevokedBut store call.factorId []
  | .revoke (.revoked call) => RevokedBut store call.factorId []
  | _ => True

theorem Steady.promised (steady : Steady store store') (promised : Promised store point) : Promised store' point := by
  cases point with
  | verify point => trivial
  | enroll point => trivial
  | register point =>
    cases point with
    | credential call name counter => exact steady.ownedBy promised
    | _ => trivial
  | revoke point =>
    cases point with
    | update call factor =>
      obtain ⟨same,revoked,row,mem,id,kind,owner⟩ := promised
      obtain ⟨row',mem',becomes⟩ := steady.stored row mem
      exact ⟨same,revoked,row',mem',becomes.id.trans id,becomes.kind.trans kind,becomes.owner.trans owner⟩
    | credentials call =>
      obtain ⟨withdrawn,row,mem,id,owner⟩ := promised
      obtain ⟨row',mem',becomes⟩ := steady.stored row mem
      exact ⟨steady.withdrawn withdrawn,row',mem',becomes.id.trans id,becomes.owner.trans owner⟩
    | revokeEach call name rest => exact steady.revokedBut promised
    | audit call => exact steady.revokedBut promised
    | revoked call => exact steady.revokedBut promised
    | _ => trivial

theorem unrevokedAll {id} (all : store.factors.all (fun row => row.id != id || row.revokedAt.isNone) = true) :
    ∀ row ∈ store.factors, row.id = id → row.revokedAt = none := by
  intro row mem same
  have checked := List.all_eq_true.mp all row mem
  simpa [same] using checked

theorem verifySteady (harmless : lasting.alone store (.verify point) fault)
    (moved : point.step crypto store fault = some (store',target)) : Steady store store' := by
  cases verifyMove moved with
  | idle _ factors _ credentials => exact steadySame factors credentials
  | @stored call user factor step =>
    refine steadyUpdate (fun row mem same revoked => ?_)
    rw [unrevokedAll (harmless rfl) row mem same] at revoked
    cases revoked
  | mismatched => exact steadyPasskeys rfl rfl (fun _ => ⟨rfl,rfl,rfl,fun revoked => revoked⟩)
  | touched => exact steadyPasskeys rfl rfl (fun _ => ⟨rfl,rfl,rfl,fun revoked => revoked⟩)
  | _ => exact steadySame rfl rfl

theorem enrollSteady {point target : EnrollPoint} (moved : point.step crypto store fault = some (store',target)) :
    Steady store store' := by
  cases fault with
  | some message =>
    obtain ⟨_,_,same⟩ := Option.map_eq_some_iff.mp moved
    cases same
    exact steadySame rfl rfl
  | none =>
    cases point with
    | insert call secret factor =>
      simp only [EnrollPoint.step,fallibly,EnrollPoint.advance] at moved
      split at moved <;> cases moved
      · exact steadySame rfl rfl
      · rename_i fresh
        exact steadyInsert (Bool.eq_false_iff.mpr fresh)
    | enrolled call factor => contradiction
    | failed error => contradiction
    | _ =>
      cases moved
      exact steadySame rfl rfl

theorem attestedPromised : Promised store (.register (RegisterPoint.attested crypto call started)) := by
  unfold RegisterPoint.attested
  split
  · trivial
  · split <;> trivial

theorem insertedOwned {id user secret} (fresh : store.hasFactor id = false) :
    OwnedBy (store.insertFactor (.newVerified id user .webAuthn) secret) id user := by
  refine ⟨⟨_,List.mem_append_right _ (List.mem_singleton.mpr rfl),rfl⟩,fun row mem same => ?_⟩
  rcases List.mem_append.mp mem with before | added
  · exact absurd same (freshFactor fresh row before)
  · rw [List.mem_singleton.mp added]
    exact ⟨rfl,rfl⟩

theorem registerSteady (promised : Promised store (.register point))
    (harmless : lasting.alone store (.register point) fault) (moved : point.step crypto store fault = some (store',target)) :
    Steady store store' ∧ Promised store' (.register target) := by
  cases fault with
  | some message =>
    obtain ⟨_,broken,same⟩ := Option.map_eq_some_iff.mp moved
    cases same
    refine ⟨steadySame rfl rfl,?_⟩
    cases point <;> first | contradiction | (cases broken; trivial)
  | none =>
    cases point with
    | ceremony call =>
      cases moved
      refine ⟨steadySame rfl rfl,?_⟩
      split
      · trivial
      · split <;> trivial
    | useCeremony call started =>
      cases moved
      refine ⟨steadySame rfl rfl,?_⟩
      split
      · exact attestedPromised
      · trivial
    | insert call name counter =>
      simp only [RegisterPoint.step,fallibly,RegisterPoint.advance] at moved
      split at moved <;> cases moved
      · exact ⟨steadySame rfl rfl,trivial⟩
      · rename_i fresh
        have fresh := Bool.eq_false_iff.mpr fresh
        exact ⟨steadyInsert fresh,insertedOwned fresh⟩
    | credential call name counter =>
      simp only [RegisterPoint.step,fallibly,RegisterPoint.advance] at moved
      split at moved <;> cases moved
      · exact ⟨steadySame rfl rfl,trivial⟩
      · refine ⟨steadyRegister promised ?_,trivial⟩
        rintro ⟨⟨row,mem,same⟩,revoked⟩
        have revoked := revoked row mem same
        rw [unrevokedAll (harmless rfl) row mem same] at revoked
        cases revoked
    | count call =>
      cases moved
      refine ⟨steadySame rfl rfl,?_⟩
      split
      · split <;> trivial
      · trivial
    | recovery call hashes =>
      cases moved
      exact ⟨steadySame rfl rfl,trivial⟩
    | audit call =>
      cases moved
      exact ⟨steadySame rfl rfl,trivial⟩
    | registered call => contradiction
    | failed error => contradiction

theorem withdrawnUpdated (revoked : factor.revokedAt.isSome = true)
    (known : ∃ row ∈ store.factors, row.id = factor.id) : Withdrawn (store.updateFactor factor) factor.id := by
  constructor
  · obtain ⟨row,mem,same⟩ := known
    exact ⟨_,Rows.updateHit mem same,same⟩
  · intro row' mem same
    rcases Rows.memUpdate mem with ⟨_,other⟩ | ⟨row,_,_,rfl⟩
    · exact absurd same other
    · exact revoked

theorem foundWithdrawn {id factor} (consistent : Consistent store) (found : store.findFactor id = some factor)
    (revoked : factor.revokedAt.isSome = true) : Withdrawn store id := by
  obtain ⟨row,hit,rfl⟩ := Option.map_eq_some_iff.mp found
  obtain ⟨mem,same⟩ := Rows.found hit
  refine ⟨⟨row,mem,same⟩,fun row' mem' same' => ?_⟩
  rw [Rows.equalOfKey consistent.keys mem' mem (same'.trans same.symm)]
  exact revoked

theorem nextPromised (revoked : RevokedBut store call.factorId names) : Promised store (.revoke (RevokePoint.next call names)) := by
  cases names with
  | nil => exact revoked
  | cons name rest => exact revoked

theorem findPromised (consistent : Consistent store) (harmless : FactorPoint.harmless store (.revoke (.find call)) = true)
    (moved : (RevokePoint.find call).advance store = some (store',target)) : Promised store (.revoke target) := by
  obtain ⟨rfl,rfl⟩ := moved
  split
  · trivial
  · rename_i factor found
    split
    · trivial
    · rename_i owner
      have owner : factor.userId = call.userId := Decidable.not_not.mp owner
      split
      · rename_i revoked
        refine ⟨foundWithdrawn consistent found revoked,fun passkey mem same => .inl ?_⟩
        rw [FactorPoint.harmless,found,Option.all_some] at harmless
        simp only [owner,bne_self_eq_false,Bool.false_or,Bool.or_eq_true,List.all_eq_true] at harmless
        rcases harmless with unrevoked | all
        · rw [Option.isNone_iff_eq_none.mp unrevoked] at revoked
          cases revoked
        · simpa [same] using all passkey mem
      · obtain ⟨row,hit,rfl⟩ := Option.map_eq_some_iff.mp found
        obtain ⟨mem,same⟩ := Rows.found hit
        exact ⟨same,rfl,row,mem,same,rfl,owner⟩

theorem listedPromised (consistent : Consistent store) (promised : Promised store (.revoke (.credentials call))) :
    RevokedBut store call.factorId (((store.listWebAuthnCredentials call.userId).filter
      (fun row => row.factorId == call.factorId)).map WebAuthnCredential.credentialId) := by
  obtain ⟨withdrawn,row,mem,id,owner⟩ := promised
  refine ⟨withdrawn,fun passkey stored same => ?_⟩
  cases revoked : passkey.revokedAt with
  | some at' => exact .inl rfl
  | none =>
    have owned := ((consistent.owned passkey stored).2 row mem (id.trans same.symm)).2
    refine .inr (List.mem_map.mpr ⟨passkey,List.mem_filter.mpr ⟨?_,beq_iff_eq.mpr same⟩,rfl⟩)
    rw [FactorStore.listWebAuthnCredentials,List.mem_insertionSort]
    refine List.mem_filter.mpr ⟨stored,?_⟩
    simp [← owned,owner,revoked]

theorem revokeSteady (consistent : Consistent store) (promised : Promised store (.revoke point))
    (harmless : lasting.alone store (.revoke point) fault) (moved : point.step store fault = some (store',target)) :
    Steady store store' ∧ Promised store' (.revoke target) := by
  cases fault with
  | some message =>
    obtain ⟨_,broken,same⟩ := Option.map_eq_some_iff.mp moved
    cases same
    refine ⟨steadySame rfl rfl,?_⟩
    cases point <;> first | contradiction | (cases broken; trivial)
  | none =>
    cases point with
    | find call =>
      have promise := findPromised consistent (harmless rfl) moved
      cases moved
      exact ⟨steadySame rfl rfl,promise⟩
    | update call factor =>
      obtain ⟨same,revoked,row,mem,id,kind,owner⟩ := promised
      cases moved
      have steady : Steady store (store.updateFactor factor) := steadyUpdate (fun _ _ _ _ => revoked)
      have withdrawn := withdrawnUpdated revoked ⟨row,mem,id.trans same.symm⟩
      rw [same] at withdrawn
      refine ⟨steady,?_⟩
      split
      · obtain ⟨row',mem',becomes⟩ := steady.stored row mem
        exact ⟨withdrawn,row',mem',becomes.id.trans id,becomes.owner.trans owner⟩
      · -- Only a passkey factor has passkeys.
        rename_i other
        refine ⟨withdrawn,fun passkey stored factor' => absurd ?_ other⟩
        rw [← kind]
        exact ((consistent.owned passkey stored).2 row mem (id.trans factor'.symm)).1
    | credentials call =>
      cases moved
      exact ⟨steadySame rfl rfl,nextPromised (listedPromised consistent promised)⟩
    | revokeEach call name rest =>
      cases moved
      have steady : Steady store (store.revokeWebAuthnCredential name call.now) :=
        steadyPasskeys rfl rfl (fun _ => ⟨rfl,rfl,rfl,fun _ => rfl⟩)
      refine ⟨steady,nextPromised ⟨steady.withdrawn promised.1,fun passkey mem same => ?_⟩⟩
      rcases Rows.memUpdate mem with ⟨before,other⟩ | ⟨_,_,_,rfl⟩
      · refine (promised.2 passkey before same).imp (fun revoked => revoked) (fun left => ?_)
        exact (List.mem_cons.mp left).resolve_left other
      · exact .inl rfl
    | audit call =>
      cases moved
      exact ⟨steadySame rfl rfl,promised⟩
    | revoked call => contradiction
    | failed error => contradiction

theorem factorSteady (consistent : Consistent store) (promised : Promised store point)
    (harmless : lasting.alone store point fault) (moved : point.step crypto store fault = some (store',target)) :
    Steady store store' ∧ Promised store' target := by
  cases point with
  | verify point =>
    obtain ⟨⟨_,_⟩,inner,same⟩ := Option.map_eq_some_iff.mp moved
    cases same
    exact ⟨verifySteady harmless inner,trivial⟩
  | revoke point =>
    obtain ⟨⟨_,_⟩,inner,same⟩ := Option.map_eq_some_iff.mp moved
    cases same
    exact revokeSteady consistent promised harmless inner
  | enroll point =>
    obtain ⟨⟨_,_⟩,inner,same⟩ := Option.map_eq_some_iff.mp moved
    cases same
    exact ⟨enrollSteady inner,trivial⟩
  | register point =>
    obtain ⟨⟨_,_⟩,inner,same⟩ := Option.map_eq_some_iff.mp moved
    cases same
    exact registerSteady promised harmless inner

end Steps

section Final

def factorOutline : Outline FactorStore FactorPoint where
  shared := Consistent
  point := Promised
  pair _ _ := True

theorem entryPromised (entry : point.entry = true) : Promised store point := by
  cases point with
  | verify point => trivial
  | revoke point => cases point <;> first | contradiction | trivial
  | enroll point => trivial
  | register point => cases point <;> first | contradiction | trivial

theorem factorSound : factorOutline.Sound (factorMachine crypto) lasting where
  symm _ _ _ := trivial
  start s p entry := entryPromised entry
  startPair _ _ _ _ _ := trivial
  own s p i s' p' consistent promised harmless moved := by
    obtain ⟨steady,promise⟩ := factorSteady consistent promised harmless moved
    exact ⟨steady.consistent consistent,promise⟩
  other s p i s' p' q consistent promised other _ harmless _ moved :=
    ⟨(factorSteady consistent promised harmless moved).1.promised other,trivial⟩

def VerifyPoint.factor : VerifyPoint → Option Uuid
  | .totpSecret _ _ _ factor => some factor.id
  | .storeStep _ _ factor _ => some factor.id
  | .touch _ _ passkey _ => some passkey.factorId
  | .consume _ accepted => accepted.factorId
  | .mark _ accepted => accepted.factorId
  | .auditSuccess _ accepted => accepted.factorId
  | .verified _ accepted => accepted.factorId
  | _ => none

def FactorPoint.relies (id : Uuid) : FactorPoint → Bool
  | .verify point => point.factor == some id
  | _ => false

variable {crypto : TwoFactorCrypto} {id : Uuid}

theorem idleFactor {point : VerifyPoint} (idle : point.idle = true) : point.factor = none := by
  cases point <;> first | contradiction | rfl

theorem assertedUnrevoked {passkey : WebAuthnCredential} (recorded : passkey.recordAssertion counter = .ok ()) :
    passkey.revokedAt = none := by
  unfold WebAuthnCredential.recordAssertion at recorded
  split at recorded <;> try contradiction
  rename_i usable
  simpa [WebAuthnCredential.isUsable] using usable

theorem revokedAvoided {point target : VerifyPoint} (revoked : RevokedBut store id [])
    (moved : point.step crypto store fault = some (store',target)) (avoids : point.factor ≠ some id) : target.factor ≠ some id := by
  cases verifyMove moved with
  | idle idle =>
    rw [idleFactor idle]
    simp
  | copied found =>
    rintro ⟨⟩
    obtain ⟨row,hit,rfl⟩ := Option.map_eq_some_iff.mp found
    have active := List.find?_some hit
    simp only [Bool.and_eq_true,Option.isNone_iff_eq_none] at active
    have withdrawn := revoked.1.2 row (List.mem_of_find?_eq_some hit) rfl
    rw [active.2] at withdrawn
    cases withdrawn
  | checked verified =>
    rw [VerifyPoint.factor,(verifiedTotp verified).1]
    exact avoids
  | recovered => simp [VerifyPoint.factor]
  | asserted found recorded =>
    rintro ⟨⟩
    rcases revoked.2 _ (List.mem_of_find?_eq_some found) rfl with closed | listed
    · rw [assertedUnrevoked recorded] at closed
      cases closed
    · cases listed
  | mismatched => simp [VerifyPoint.factor]
  | _ => exact avoids

theorem reliesStep {point target : FactorPoint} (revoked : RevokedBut store id [])
    (moved : point.step crypto store fault = some (store',target)) (avoids : point.relies id = false) : target.relies id = false := by
  cases point with
  | verify point =>
    obtain ⟨⟨_,_⟩,inner,same⟩ := Option.map_eq_some_iff.mp moved
    cases same
    simp only [FactorPoint.relies,beq_eq_false_iff_ne] at avoids ⊢
    exact revokedAvoided revoked inner avoids
  | _ =>
    obtain ⟨_,_,same⟩ := Option.map_eq_some_iff.mp moved
    cases same
    rfl

theorem entryRelies {point : FactorPoint} (entry : point.entry = true) : point.relies id = false := by
  cases point with
  | verify point => cases point <;> first | contradiction | rfl
  | _ => rfl

theorem revocationFinal (crypto : TwoFactorCrypto) (start : FactorStore) (consistent : Consistent start)
    {events later : List (Event FactorPoint Fault)} {between last : Pool FactorStore FactorPoint} (call : RevokeCall)
    (run : Run (factorMachine crypto).fire lasting.guard ⟨start,[]⟩ events between)
    (revoked : .revoke (.revoked call) ∈ between.calls)
    (rest : Run (factorMachine crypto).fire lasting.guard between later last) :
    (∃ row ∈ last.shared.factors, row.id = call.factorId) ∧
      (∀ row ∈ last.shared.factors, row.id = call.factorId → row.revokedAt.isSome = true) ∧
      ∀ (index : Nat) login accepted, between.calls.length ≤ index →
        last.calls[index]? = some (.verify (.verified login accepted)) → accepted.factorId ≠ some call.factorId := by
  have holds := Outline.runHolds factorSound run (Outline.emptyHolds consistent)
  have promised : RevokedBut between.shared call.factorId [] := holds.point _ revoked
  have retired := Outline.laterKeeps (S := fun store => RevokedBut store call.factorId [])
    (P := fun point => point.relies call.factorId = false) factorSound (fun _ entry => entryRelies entry)
    (fun _ _ _ _ _ consistent here revoked alone moved =>
      ⟨(factorSteady consistent here alone moved).1.revokedBut revoked,reliesStep revoked moved⟩) rest holds promised
  refine ⟨retired.1.1.1,retired.1.1.2,fun index login accepted late position => ?_⟩
  have avoids := retired.2 index _ late position
  simpa [FactorPoint.relies,VerifyPoint.factor] using avoids

def enrolledStore : FactorStore :=
  {loginStore with
    factors := loginStore.factors ++ [⟨⟨2,7,.webAuthn,none,none⟩,some ""⟩]
    credentials := [⟨"passkey",7,2,0,0,none⟩]
    ceremonies := [⟨20,7,.assertion,"state",1000000000000,none⟩,⟨21,7,.register,"state",1000000000000,none⟩]}

theorem enrolledConsistent : Consistent enrolledStore := by
  refine ⟨by decide,fun passkey mem => ?_⟩
  rw [List.mem_singleton.mp mem]
  exact ⟨⟨_,List.mem_append_right _ (List.mem_singleton.mpr rfl),rfl⟩,by decide⟩

def factorSteps (index count : Nat) : List (Event FactorPoint Fault) := List.replicate count (.step index none)

def revoking (factor : Uuid) : Event FactorPoint Fault := .start (.revoke (.find ⟨7,factor,5⟩))

def verifying (response : FactorResponse) : Event FactorPoint Fault :=
  .start (.verify (.token ⟨10,"token",response,60000000000⟩))

theorem passkeyRevoked : ∃ between last,
    Run (factorMachine sampleCrypto).fire lasting.guard ⟨enrolledStore,[]⟩ (revoking 2::factorSteps 0 5) between ∧
      Run (factorMachine sampleCrypto).fire lasting.guard between
        (verifying (.webAuthn 20 "passkey")::factorSteps 1 6) last ∧
      ∀ row ∈ last.shared.factors, row.id = 2 → row.revokedAt.isSome = true := by
  obtain ⟨between,last,ran,revoked,later,_⟩ := replayTwice (factorMachine sampleCrypto).fire lasting.guard ⟨enrolledStore,[]⟩
    (revoking 2::factorSteps 0 5) (verifying (.webAuthn 20 "passkey")::factorSteps 1 6)
    (fun c => .revoke (.revoked ⟨7,2,5⟩) ∈ c.calls) (fun _ => True) (by decide +kernel)
  have final := revocationFinal sampleCrypto enrolledStore enrolledConsistent ⟨7,2,5⟩ ran revoked later
  exact ⟨between,last,ran,later,final.2.1⟩

theorem revocationUndone : ∃ between last,
    Run (factorMachine sampleCrypto).fire free ⟨enrolledStore,[]⟩
      (verifying (.totp (fixedCode '0'))::factorSteps 0 4 ++ revoking 1::factorSteps 1 3) between ∧
      .revoke (.revoked ⟨7,1,5⟩) ∈ between.calls ∧
      Run (factorMachine sampleCrypto).fire free between (factorSteps 0 1) last ∧
      ∃ row ∈ last.shared.factors, row.id = 1 ∧ row.revokedAt = none := replayTwice _ _ _ _ _ _ _ (by decide +kernel)

end Final

end OpenPanel.TwoFactor
