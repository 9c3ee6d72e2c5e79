import OpenPanel.Fallible
import OpenPanel.Users

/-! The verified service catalog: manifests and signatures, install plans, revocations,
jobs with bounded retries, and the calls of the service one after another. The
provisioner is any function of what it was asked so far; signing and redaction are
parameters. A release is a plan with its publisher. Names, versions, times, views, audit
events and the calls that only read are left out. -/
namespace OpenPanel.Catalog
open OpenPanel.Identity (Role)

inductive VerifiedServiceCatalogError where
  | invalid (detail : String)
  | invalidSignature
  | revoked (detail : String)
  | blocked
  | incompatibleTarget (detail : String)
  | provision (detail : String)
  deriving DecidableEq

def VerifiedServiceCatalogError.message : VerifiedServiceCatalogError → String
  | .invalid detail => "invalid manifest: " ++ detail
  | .invalidSignature => "manifest signature does not verify"
  | .revoked detail => "revoked: " ++ detail
  | .blocked => "entry is blocked"
  | .incompatibleTarget detail => "incompatible target: " ++ detail
  | .provision detail => "provisioning failed: " ++ detail

inductive TrustState where
  | verified | community | revoked | blocked
  deriving DecidableEq

structure PublisherIdentity where
  id : String
  fingerprint : String
  deriving DecidableEq

structure Attempts where
  count : Nat
  least : 1 ≤ count
  most : count ≤ 10
  deriving DecidableEq

structure ServiceManifest where
  id : String
  publisher : PublisherIdentity
  digest : String
  signature : List Char
  targets : List String
  cpuMillis : Nat
  memoryBytes : Nat
  storageBytes : Nat
  publicNetwork : Bool
  ports : List Nat
  credentialRefs : List String
  dataEffects : List String
  health : Attempts
  requiredBeforeUpgrade : Bool
  upgrade : Attempts
  rollbackOnFailure : Bool
  deriving DecidableEq

def ServiceManifest.supports (manifest : ServiceManifest) (os arch : String) : Bool :=
  manifest.targets.contains "*:*" || manifest.targets.contains (os ++ ":*") || manifest.targets.contains ("*:" ++ arch) ||
    manifest.targets.contains (os ++ ":" ++ arch)

structure HostPolicy where
  targetId : String
  targetArch : String
  allowedPorts : List Nat
  maxCpuMillis : Nat
  maxMemoryBytes : Nat
  freeStorageBytes : Nat

inductive PlanConflict where
  | portNotAllowed (port : Nat)
  | storageQuotaExceeded (requested available : Nat)
  | cpuQuotaExceeded (requested limit : Nat)
  | memoryQuotaExceeded (requested limit : Nat)
  deriving DecidableEq

structure ServicePlan where
  entryId : String
  digest : String
  ports : List Nat
  publicNetwork : Bool
  credentialRefs : List String
  dataEffects : List String
  storageBytes : Nat
  cpuMillis : Nat
  memoryBytes : Nat
  deriving DecidableEq

def ServicePlan.fromManifest (manifest : ServiceManifest) : ServicePlan :=
  ⟨manifest.id,manifest.digest,manifest.ports,manifest.publicNetwork,manifest.credentialRefs,manifest.dataEffects,
    manifest.storageBytes,manifest.cpuMillis,manifest.memoryBytes⟩

structure Release where
  plan : ServicePlan
  publisher : String
  deriving DecidableEq

structure RevocationList where
  publishers : List String
  digests : List String
  deriving DecidableEq

inductive JobPhase where
  | install | upgrade | backup | health | rollback | remove
  deriving DecidableEq

inductive JobOutcome where
  | pending | running | succeeded | failed | rolledBack
  deriving DecidableEq

def JobOutcome.name : JobOutcome → String
  | .pending => "pending"
  | .running => "running"
  | .succeeded => "succeeded"
  | .failed => "failed"
  | .rolledBack => "rolled_back"

structure ServiceJob where
  id : Uuid
  entryId : String
  phase : JobPhase
  outcome : JobOutcome
  attempts : Nat
  maxAttempts : Nat
  lastError : Option String
  guidance : Option String
  deriving DecidableEq

/-- What the service gets from elsewhere: the signature of a digest under a publisher's
key, and the redaction of a diagnostic. -/
structure Env where
  manifestSignature : PublisherIdentity → String → List Char
  redactDiagnostic : String → String

def serviceJobTransitionAllowed : JobOutcome → JobOutcome → Bool
  | .pending,.running | .running,.succeeded | .running,.failed | .failed,.running | .failed,.rolledBack => true
  | _,_ => false

namespace ServiceJob

def begin (id : Uuid) (entryId : String) (phase : JobPhase) (maxAttempts : Nat) : ServiceJob :=
  ⟨id,entryId,phase,.pending,0,maxAttempts,none,none⟩

def transitionTo (job : ServiceJob) (target : JobOutcome) : Except VerifiedServiceCatalogError ServiceJob :=
  if serviceJobTransitionAllowed job.outcome target then .ok {job with outcome := target}
  else .error (.invalid ("illegal job transition " ++ job.outcome.name ++ " -> " ++ target.name))

def start (job : ServiceJob) : Except VerifiedServiceCatalogError ServiceJob :=
  (job.transitionTo .running).map (fun job => {job with attempts := job.attempts + 1})

def succeed (job : ServiceJob) : Except VerifiedServiceCatalogError ServiceJob := job.transitionTo .succeeded

def fail (env : Env) (job : ServiceJob) (error : String) : Except VerifiedServiceCatalogError ServiceJob :=
  (job.transitionTo .failed).map (fun job => {job with lastError := some (env.redactDiagnostic error)})

def rollBack (job : ServiceJob) (guidance : String) : Except VerifiedServiceCatalogError ServiceJob :=
  (job.transitionTo .rolledBack).map (fun job => {job with guidance := some guidance})

def canRetry (job : ServiceJob) : Bool :=
  (job.outcome == .pending || job.outcome == .failed) && job.attempts < job.maxAttempts

end ServiceJob

def signatureMatches (presented expected : List Char) : Bool :=
  let lower := presented.map Char.toLower
  byteLength lower == 64 && lower.all (fun c => isAsciiDigit c || 'a' ≤ c && c ≤ 'f') && lower == expected

def verifyManifestSignature (env : Env) (manifest : ServiceManifest) (trusted : List PublisherIdentity) :
    Except VerifiedServiceCatalogError TrustState :=
  if !signatureMatches manifest.signature (env.manifestSignature manifest.publisher manifest.digest) then .error .invalidSignature
  else if trusted.any (fun publisher => publisher.id == manifest.publisher.id &&
      publisher.fingerprint == manifest.publisher.fingerprint) then .ok .verified
  else .ok .community

def checkTargetCompatibility (manifest : ServiceManifest) (policy : HostPolicy) : Except VerifiedServiceCatalogError Unit :=
  if manifest.supports policy.targetId policy.targetArch then .ok ()
  else .error (.incompatibleTarget (policy.targetId ++ ":" ++ policy.targetArch ++ " is not in the declared compatibility set"))

def planServiceInstall (manifest : ServiceManifest) (policy : HostPolicy) : Except PlanConflict ServicePlan :=
  match manifest.ports.find? (fun port => !policy.allowedPorts.contains port) with
  | some port => .error (.portNotAllowed port)
  | none =>
    if policy.freeStorageBytes < manifest.storageBytes then
      .error (.storageQuotaExceeded manifest.storageBytes policy.freeStorageBytes)
    else if policy.maxCpuMillis < manifest.cpuMillis then .error (.cpuQuotaExceeded manifest.cpuMillis policy.maxCpuMillis)
    else if policy.maxMemoryBytes < manifest.memoryBytes then
      .error (.memoryQuotaExceeded manifest.memoryBytes policy.maxMemoryBytes)
    else .ok (.fromManifest manifest)

def ensureInstallable (trust : TrustState) (manifest : ServiceManifest) (revocations : RevocationList) :
    Except VerifiedServiceCatalogError Unit :=
  match trust with
  | .blocked => .error .blocked
  | .revoked => .error (.revoked ("entry " ++ manifest.id))
  | .verified | .community =>
    if manifest.publisher.id ∈ revocations.publishers then .error (.revoked ("publisher " ++ manifest.publisher.id))
    else if manifest.digest ∈ revocations.digests then .error (.revoked ("digest " ++ manifest.digest))
    else .ok ()

structure ManagedEntry where
  manifest : ServiceManifest
  trust : TrustState
  installedPlan : Option Release
  previousPlan : Option Release
  backupTaken : Bool
  deriving DecidableEq

def ManagedEntry.id (entry : ManagedEntry) : String := entry.manifest.id

structure ServiceState where
  entries : List ManagedEntry
  publishers : List PublisherIdentity
  revocations : RevocationList
  jobs : List ServiceJob
  deriving DecidableEq

inductive Request where
  | install (release : Release)
  | backup (entryId : String)
  | healthCheck (entryId : String)
  | remove (entryId : String)
  deriving DecidableEq

structure World where
  state : ServiceState
  log : List Request
  deriving DecidableEq

structure Provisioner where
  install : List Request → ServicePlan → Except VerifiedServiceCatalogError Unit
  backup : List Request → String → Except VerifiedServiceCatalogError Unit
  healthCheck : List Request → String → Except VerifiedServiceCatalogError Bool
  remove : List Request → String → Except VerifiedServiceCatalogError Unit

inductive VerifiedServiceCatalogServiceError where
  | domain (error : VerifiedServiceCatalogError)
  | conflict (conflict : PlanConflict)
  | forbidden
  | entryNotFound (id : String)
  | publisherNotFound (id : String)
  deriving DecidableEq

abbrev Outcome := Except VerifiedServiceCatalogServiceError

namespace ServiceState

def entryRef (s : ServiceState) (entryId : String) : Outcome ManagedEntry :=
  match s.entries.find? (fun entry => entry.id == entryId) with
  | none => .error (.entryNotFound entryId)
  | some entry => .ok entry

def modify (s : ServiceState) (entryId : String) (f : ManagedEntry → ManagedEntry) : ServiceState :=
  {s with entries := Rows.update ManagedEntry.id entryId f s.entries}

def insertJob (s : ServiceState) (job : ServiceJob) : ServiceState :=
  {s with jobs := Rows.delete ServiceJob.id job.id s.jobs ++ [job]}

def insertPublisher (s : ServiceState) (publisher : PublisherIdentity) : ServiceState :=
  {s with publishers := Rows.delete PublisherIdentity.id publisher.id s.publishers ++ [publisher]}

end ServiceState

def World.ask (w : World) (request : Request) : World := {w with log := w.log ++ [request]}

section Service

variable (env : Env) (provisioner : Provisioner)

def internal (error : VerifiedServiceCatalogError) : VerifiedServiceCatalogServiceError :=
  .domain (.invalid ("internal: " ++ error.message))

def probeHealth (entryId : String) : Nat → World → World × Bool
  | 0,w => (w,false)
  | probes + 1,w =>
    if provisioner.healthCheck w.log entryId = .ok true then (w.ask (.healthCheck entryId),true)
    else probeHealth entryId probes (w.ask (.healthCheck entryId))

def provision (release : Release) (manifest : ServiceManifest) (entryId : String) (w : World) :
    World × Except VerifiedServiceCatalogError Bool :=
  match provisioner.install w.log release.plan with
  | .error e => (w.ask (.install release),.error e)
  | .ok _ =>
    let probed := probeHealth provisioner entryId manifest.health.count (w.ask (.install release))
    (probed.1,.ok probed.2)

def tries (attempt : World → World × Except VerifiedServiceCatalogError Bool) :
    Nat → ServiceJob → World → World × Outcome ServiceJob
  | 0,job,w => (w,.ok job)
  | left + 1,job,w => match job.start with
    | .error e => (w,.error (internal e))
    | .ok running =>
      let tried := attempt w
      match tried.2 with
      | .ok true => match running.succeed with
        | .error e => (tried.1,.error (internal e))
        | .ok done => (tried.1,.ok done)
      | .ok false => match running.fail env "health probe failed" with
        | .error e => (tried.1,.error (internal e))
        | .ok failed => if failed.canRetry then tries attempt left failed tried.1 else (tried.1,.ok failed)
      | .error error => match running.fail env error.message with
        | .error e => (tried.1,.error (internal e))
        | .ok failed => if failed.canRetry then tries attempt left failed tried.1 else (tried.1,.ok failed)

def runJob (manifest : ServiceManifest) (phase : JobPhase) (jobId : Uuid)
    (attempt : World → World × Except VerifiedServiceCatalogError Bool) (w : World) : World × Outcome ServiceJob :=
  match tries env attempt manifest.upgrade.count (.begin jobId manifest.id phase manifest.upgrade.count) w with
  | (after,.error e) => (after,.error e)
  | (after,.ok job) => ({after with state := after.state.insertJob job},.ok job)

def requireOwner (role : Role) : Outcome Unit := if role = .owner then .ok () else .error .forbidden

def requireOperator (role : Role) : Outcome Unit :=
  if role = .owner ∨ role = .admin then .ok () else .error .forbidden

inductive Reply where
  | done
  | entry (entry : ManagedEntry)
  | job (job : ServiceJob)
  deriving DecidableEq

inductive Call where
  | trustPublisher (role : Role) (publisher : PublisherIdentity)
  | revokePublisher (role : Role) (publisherId : String)
  | revokeDigest (role : Role) (digest : String)
  | submitEntry (role : Role) (manifest : ServiceManifest)
  | installEntry (role : Role) (entryId : String) (policy : HostPolicy) (jobId : Uuid)
  | upgradeEntry (role : Role) (manifest : ServiceManifest) (policy : HostPolicy) (jobId : Uuid)
  | runBackup (role : Role) (entryId : String) (jobId : Uuid)
  | verifyHealth (role : Role) (entryId : String) (jobId : Uuid)
  | rollback (role : Role) (entryId : String) (jobId : Uuid)
  | removeEntry (role : Role) (entryId : String) (jobId : Uuid)

def gated (s : ServiceState) (role : Role) (entryId : String) : Outcome ServiceManifest := do
  requireOperator role
  let entry ← s.entryRef entryId
  (ensureInstallable entry.trust entry.manifest s.revocations).mapError .domain
  .ok entry.manifest

def planned (manifest : ServiceManifest) (policy : HostPolicy) : Outcome Release := do
  (checkTargetCompatibility manifest policy).mapError .domain
  let plan ← (planServiceInstall manifest policy).mapError .conflict
  .ok ⟨plan,manifest.publisher.id⟩

def deciding {α : Type} (decision : Outcome α)
    (accept : α → World × Outcome Reply) (w : World) :
    World × Outcome Reply :=
  match decision with
  | .error e => (w,.error e)
  | .ok value => accept value

def finishing (ran : World × Outcome ServiceJob) (finish : ServiceJob → World → World × ServiceJob) :
    World × Outcome Reply :=
  match ran with
  | (after,.error e) => (after,.error e)
  | (after,.ok job) => ((finish job after).1,.ok (.job (finish job after).2))

def concluded (entryId : String) (f : ManagedEntry → ManagedEntry) (job : ServiceJob) (w : World) : World × ServiceJob :=
  (if job.outcome = .succeeded then {w with state := w.state.modify entryId f} else w,job)

def trustPublisher (role : Role) (publisher : PublisherIdentity) (w : World) : World × Outcome Reply :=
  deciding (requireOwner role) (fun _ => ({w with state := w.state.insertPublisher publisher},.ok .done)) w

def revokePublisher (role : Role) (publisherId : String) (w : World) : World × Outcome Reply :=
  let s := w.state
  let decision := do
    requireOwner role
    if !s.publishers.any (fun publisher => publisher.id == publisherId) &&
        !s.entries.any (fun entry => entry.manifest.publisher.id == publisherId) then .error (.publisherNotFound publisherId)
    else .ok ()
  deciding decision (fun _ => ({w with state := {s with
    revocations := {s.revocations with publishers := publisherId::s.revocations.publishers}
    entries := s.entries.map (fun entry =>
      if entry.manifest.publisher.id = publisherId then {entry with trust := .revoked} else entry)}},.ok .done)) w

def revokeDigest (role : Role) (digest : String) (w : World) : World × Outcome Reply :=
  let s := w.state
  let decision := do
    requireOwner role
    if !s.entries.any (fun entry => entry.manifest.digest == digest) then
      .error (.entryNotFound ("no catalog entry publishes digest " ++ digest))
    else .ok ()
  deciding decision (fun _ => ({w with state := {s with
    revocations := {s.revocations with digests := digest::s.revocations.digests}
    entries := s.entries.map (fun entry =>
      if entry.manifest.digest = digest then {entry with trust := .revoked} else entry)}},.ok .done)) w

def submitEntry (role : Role) (manifest : ServiceManifest) (w : World) : World × Outcome Reply :=
  let s := w.state
  let decision := do
    requireOperator role
    let trust ← (match verifyManifestSignature env manifest s.publishers with
      | .ok trust => .ok trust
      | .error .invalidSignature => .ok .blocked
      | .error other => .error (.domain other) : Outcome TrustState)
    if s.entries.any (fun entry => entry.id == manifest.id) then
      .error (.domain (.invalid ("catalog entry `" ++ manifest.id ++ "` already exists")))
    else .ok (⟨manifest,trust,none,none,false⟩ : ManagedEntry)
  deciding decision (fun entry => ({w with state := {s with entries := s.entries ++ [entry]}},.ok (.entry entry))) w

def installEntry (role : Role) (entryId : String) (policy : HostPolicy) (jobId : Uuid) (w : World) :
    World × Outcome Reply :=
  let decision := do
    let manifest ← gated w.state role entryId
    let release ← planned manifest policy
    .ok (manifest,release)
  deciding decision (fun (manifest,release) =>
    finishing (runJob env manifest .install jobId (provision provisioner release manifest entryId) w)
      (concluded entryId (fun entry => {entry with installedPlan := some release,backupTaken := false}))) w

structure Upgrade where
  previous : Release
  release : Release
  trust : TrustState

def upgradePlan (s : ServiceState) (role : Role) (manifest : ServiceManifest) (policy : HostPolicy) :
    Outcome Upgrade := do
  requireOperator role
  let entry ← s.entryRef manifest.id
  let trust ← (verifyManifestSignature env manifest s.publishers).mapError .domain
  (ensureInstallable trust manifest s.revocations).mapError .domain
  let previous ← (match entry.installedPlan with
    | some previous => .ok previous
    | none => .error (.domain (.invalid ("entry `" ++ manifest.id ++ "` is not installed; run install first"))) : Outcome Release)
  if manifest.requiredBeforeUpgrade && !entry.backupTaken then
    .error (.domain (.invalid ("entry `" ++ manifest.id ++ "` requires a successful backup before upgrade")))
  else (planned manifest policy).map (fun release => ⟨previous,release,trust⟩)

def restored (manifest : ServiceManifest) (previous : Release) (job : ServiceJob) (w : World) : World × ServiceJob :=
  let again := provision provisioner previous manifest manifest.id w
  let guidance := "previous verified release " ++ previous.plan.digest ++ " restored " ++
    (if again.2 = .ok true then "successfully" else "with errors") ++ "; fix the failing health probe and retry"
  -- The result of `roll_back` is ignored: a refused transition leaves the job as it was.
  let rolled := match job.rollBack guidance with
    | .ok rolled => rolled
    | .error _ => job
  let state := again.1.state.modify manifest.id (fun entry => {entry with installedPlan := some previous,previousPlan := none})
  ({again.1 with state := state.insertJob rolled},rolled)

def upgradeFinish (manifest : ServiceManifest) (plan : Upgrade) (job : ServiceJob) (w : World) : World × ServiceJob :=
  if job.outcome = .succeeded then
    ({w with state := w.state.modify manifest.id (fun entry => {entry with
      manifest := manifest,installedPlan := some plan.release,previousPlan := some plan.previous,
      backupTaken := false,trust := plan.trust})},job)
  else if manifest.rollbackOnFailure then restored provisioner manifest plan.previous job w
  else (w,job)

def upgradeEntry (role : Role) (manifest : ServiceManifest) (policy : HostPolicy) (jobId : Uuid) (w : World) :
    World × Outcome Reply :=
  deciding (upgradePlan env w.state role manifest policy) (fun plan =>
    finishing (runJob env manifest .upgrade jobId (provision provisioner plan.release manifest manifest.id) w)
      (upgradeFinish provisioner manifest plan)) w

def lifecycleJob (role : Role) (entryId : String) (phase : JobPhase) (jobId : Uuid) (f : ManagedEntry → ManagedEntry)
    (work : ServiceManifest → World → World × Except VerifiedServiceCatalogError Unit) (w : World) :
    World × Outcome Reply :=
  deciding (gated w.state role entryId) (fun manifest =>
    finishing (runJob env manifest phase jobId (fun w => ((work manifest w).1,(work manifest w).2.map (fun _ => true))) w)
      (concluded entryId f)) w

def runBackup (role : Role) (entryId : String) (jobId : Uuid) (w : World) : World × Outcome Reply :=
  lifecycleJob env role entryId .backup jobId (fun entry => {entry with backupTaken := true})
    (fun manifest w => (w.ask (.backup manifest.id),provisioner.backup w.log manifest.id)) w

def verifyHealth (role : Role) (entryId : String) (jobId : Uuid) (w : World) : World × Outcome Reply :=
  lifecycleJob env role entryId .health jobId id
    (fun manifest w =>
      let probed := probeHealth provisioner manifest.id manifest.health.count w
      (probed.1,if probed.2 then .ok () else .error (.provision "health probe failed"))) w

def removeEntry (role : Role) (entryId : String) (jobId : Uuid) (w : World) : World × Outcome Reply :=
  lifecycleJob env role entryId .remove jobId
    (fun entry => {entry with installedPlan := none,previousPlan := none,backupTaken := false})
    (fun manifest w => (w.ask (.remove manifest.id),provisioner.remove w.log manifest.id)) w

def rollbackPlan (s : ServiceState) (role : Role) (entryId : String) :
    Outcome (Release × ServiceManifest) := do
  requireOperator role
  let entry ← s.entryRef entryId
  match entry.previousPlan with
  | some previous => .ok (previous,entry.manifest)
  | none => .error (.domain (.invalid ("entry `" ++ entryId ++ "` has no previous verified release to restore")))

def rollback (role : Role) (entryId : String) (jobId : Uuid) (w : World) : World × Outcome Reply :=
  deciding (rollbackPlan w.state role entryId) (fun (previous,manifest) =>
    finishing (runJob env manifest .rollback jobId (provision provisioner previous manifest entryId) w)
      (concluded entryId (fun entry => {entry with installedPlan := some previous,previousPlan := none}))) w

def perform : Call → World → World × Outcome Reply
  | .trustPublisher role publisher => trustPublisher role publisher
  | .revokePublisher role publisherId => revokePublisher role publisherId
  | .revokeDigest role digest => revokeDigest role digest
  | .submitEntry role manifest => submitEntry env role manifest
  | .installEntry role entryId policy jobId => installEntry env provisioner role entryId policy jobId
  | .upgradeEntry role manifest policy jobId => upgradeEntry env provisioner role manifest policy jobId
  | .runBackup role entryId jobId => runBackup env provisioner role entryId jobId
  | .verifyHealth role entryId jobId => verifyHealth env provisioner role entryId jobId
  | .rollback role entryId jobId => rollback env provisioner role entryId jobId
  | .removeEntry role entryId jobId => removeEntry env provisioner role entryId jobId

def fire (w : World) (call : Call) : Option World := some (perform env provisioner call w).1

end Service

end OpenPanel.Catalog
