import OpenPanel.DeliveryReleases

/-! The delivery service over its maps of applications and releases, wired to the
docker runtime adapter and locked during a whole call. The deployment adapter shares
the runtime adapter. Not stored: what it was asked to converge, and what it reported. -/
namespace OpenPanel.Delivery
open Fallible Identity

structure Attempt where
  target : ConvergeTarget
  result : Except ApplicationDeliveryError ReleaseOutcome

structure Provider where
  runtime : Runtime
  attempts : List Attempt

def converge (adapter : DockerRuntimeAdapter) (host : Host) (target : ConvergeTarget) :
    Prog Provider ApplicationDeliveryError ReleaseOutcome := fun p =>
  let ran := exec (convergeAndRecord adapter host target) p.runtime
  let result := ran.1.map ConvergeResult.outcome
  (result,⟨ran.2,p.attempts ++ [⟨target,result⟩]⟩)

def ConvergeTarget.new (applicationId environmentId : Uuid) (applicationName environmentName : String)
    (releaseId : Uuid) (digest : String) : Except ApplicationDeliveryError ConvergeTarget :=
  match checked : ConvergeTarget.check applicationName environmentName digest with
  | .error e => .error e
  | .ok () => .ok ⟨applicationId,environmentId,applicationName,environmentName,releaseId,digest,checked⟩

def targetFor (release : Release) (environment : Environment) : Except ApplicationDeliveryError ConvergeTarget :=
  if release.environmentId ≠ environment.id then
    .error (.illegalTransition "release does not belong to the target environment")
  else ConvergeTarget.new release.applicationId environment.id release.applicationId.hyphenated environment.name
    release.id release.digest.value

def rollbackTarget (registry : ConvergeRegistry) (release : Release) (environment : Environment)
    (targetReleaseId : Uuid) : Except ApplicationDeliveryError ConvergeTarget := do
  let current ← targetFor release environment
  match registry.byRelease targetReleaseId with
  | none => .error (.illegalTransition "rollback target release was never converged by this provider")
  | some target =>
    if target.environmentId ≠ current.environmentId then
      .error (.illegalTransition "rollback target release belongs to another environment")
    else .ok target

def deploy (adapter : DockerRuntimeAdapter) (host : Host) (release : Release) (environment : Environment) :
    Prog Provider ApplicationDeliveryError ReleaseOutcome := do
  let target ← reads (fun _ => targetFor release environment)
  converge adapter host target

def rollback (adapter : DockerRuntimeAdapter) (host : Host) (release : Release) (environment : Environment)
    (targetReleaseId : Uuid) : Prog Provider ApplicationDeliveryError ReleaseOutcome := do
  let target ← reads (fun p => rollbackTarget p.runtime.registry release environment targetReleaseId)
  converge adapter host target

inductive ApplicationDeliveryServiceError where
  | domain (error : ApplicationDeliveryError)
  | forbidden
  | applicationNotFound (id : Uuid)
  | releaseNotFound (id : Uuid)
  | environmentExpired

structure ServiceState where
  applications : List Application
  releases : List Release

structure World where
  state : ServiceState
  provider : Provider

def World.empty : World := ⟨⟨[],[]⟩,⟨⟨[],ConvergeRegistry.new⟩,[]⟩⟩

abbrev Panel := Prog World ApplicationDeliveryServiceError

def domain {α : Type} (result : Except ApplicationDeliveryError α) : Except ApplicationDeliveryServiceError α :=
  result.mapError .domain

def requireOperator (caller : User) : Except ApplicationDeliveryServiceError Unit :=
  if caller.role = .owner ∨ caller.role = .admin then .ok () else .error .forbidden

namespace ServiceState

def application (s : ServiceState) (caller : User) (id : Uuid) :
    Except ApplicationDeliveryServiceError Application := do
  requireOperator caller
  match s.applications.find? (fun a => a.id == id) with
  | none => .error (.applicationNotFound id)
  | some application => if application.ownerId ≠ caller.id then .error .forbidden else .ok application

-- How `build_release`, `promote` and `rollback` begin.
def environment (s : ServiceState) (caller : User) (applicationId : Uuid) (name : String) (now : DateTime) :
    Except ApplicationDeliveryServiceError (Application × Environment) := do
  let application ← s.application caller applicationId
  match application.environment name with
  | none => .error (.domain (.missingEnvironment "environment not found"))
  | some environment =>
    if environment.isExpired now then .error .environmentExpired else .ok (application,environment)

def release (s : ServiceState) (id : Uuid) : Except ApplicationDeliveryServiceError Release :=
  match s.releases.find? (fun r => r.id == id) with
  | none => .error (.releaseNotFound id)
  | some release => .ok release

def insertApplication (s : ServiceState) (application : Application) : ServiceState :=
  {s with applications := Rows.delete Application.id application.id s.applications ++ [application]}

def insertRelease (s : ServiceState) (release : Release) : ServiceState :=
  {s with releases := Rows.delete Release.id release.id s.releases ++ [release]}

end ServiceState

def stored {α : Type} (change : ServiceState → Except ApplicationDeliveryServiceError (α × ServiceState)) :
    Panel α :=
  attempt (fun w => (change w.state).map (fun (a,state) => (a,{w with state := state})))

def registerApplication (caller : User) (name : String) (source : ApplicationSource) (buildCommand : String)
    (fresh : Uuid) (now : DateTime) : Panel Application :=
  stored (fun s => do
    requireOperator caller
    if name.utf8ByteSize > maxApplicationName then
      .error (.domain (.invalid "application name must be <= 64 chars"))
    else if source.sourceRef.utf8ByteSize > maxRefLen then
      .error (.domain (.invalid "source ref must be <= 128 chars"))
    else
      let application ← domain (Application.new fresh caller.id name source buildCommand now)
      if s.applications.any (fun a => a.ownerId == caller.id && a.name == name) then
        .error (.domain (.invalid ("application `" ++ name ++ "` already exists for this owner")))
      else return (application,s.insertApplication application))

def addEnvironment (caller : User) (applicationId : Uuid) (kind : EnvironmentKind) (name : String) (quota : Nat)
    (secretSet : SecretSetRef) (expiresAt : Option DateTime) (fresh : Uuid) (now : DateTime) :
    Panel Environment :=
  stored (fun s => do
    let application ← s.application caller applicationId
    let environment ← domain (Environment.new fresh applicationId kind name quota secretSet now expiresAt)
    let application ← domain (application.addEnvironment environment)
    return (environment,s.insertApplication application))

def prodSecrets : SecretSetRef := ⟨"prod-secrets",none,by decide⟩
def previewSecrets : SecretSetRef := ⟨"preview-secrets",none,by decide⟩

-- `resolved` is the answer of the build adapter.
def buildRelease (redact : String → String) (caller : User) (applicationId : Uuid) (environmentName : String)
    (resolved : Except ApplicationDeliveryError ReleaseDigest) (fresh : Uuid) (checkedAt now : DateTime) :
    Panel Release :=
  stored (fun s => do
    let (application,environment) ← s.environment caller applicationId environmentName checkedAt
    let _ ← domain (resolveEnvironment environment prodSecrets previewSecrets)
    let digest ← domain resolved
    if digest.value.utf8ByteSize > maxDigestLen then
      .error (.domain (.invalid "resolved digest must be <= 128 chars"))
    else
      let release := Release.new fresh applicationId environment.id digest application.source now none
      let release ← domain (startBuild redact release now)
      let release ← domain (finishBuild redact release now digest)
      return (release,s.insertRelease release))

structure ChangeRequest where
  caller : User
  applicationId : Uuid
  environmentName : String
  releaseId : Uuid
  confirmation : String
  checkedAt : DateTime
  appliedAt : DateTime
  host : Host

def ServiceState.promotion (s : ServiceState) (c : ChangeRequest) :
    Except ApplicationDeliveryServiceError (Release × Environment) := do
  let (_,environment) ← s.environment c.caller c.applicationId c.environmentName c.checkedAt
  let release ← s.release c.releaseId
  if release.applicationId ≠ c.applicationId then .error .forbidden
  else
    domain (requestCheck c.caller.username.text c.confirmation)
    domain (canPromote release environment c.confirmation)
    return (release,environment)

-- The application of the release is not compared here.
def ServiceState.reversal (s : ServiceState) (c : ChangeRequest) :
    Except ApplicationDeliveryServiceError (Release × Environment) := do
  let (_,environment) ← s.environment c.caller c.applicationId c.environmentName c.checkedAt
  let release ← s.release c.releaseId
  domain (requestCheck c.caller.username.text c.confirmation)
  domain (canRollback release environment c.confirmation)
  return (release,environment)

def applyOutcome (redact : String → String) (releaseId : Uuid) (outcome : ReleaseOutcome) (now : DateTime) :
    Panel Unit :=
  stored (fun s => do
    let release ← s.release releaseId
    let release ← domain (release.transition redact outcome.state now (redact outcome.diagnostic))
    return ((),{s with releases := Rows.update Release.id releaseId (fun _ => release) s.releases}))

def asking {α : Type} (prog : Prog Provider ApplicationDeliveryError α) : Panel α :=
  zoom World.provider (fun p w => {w with provider := p}) .domain prog

def promote (adapter : DockerRuntimeAdapter) (c : ChangeRequest) : Panel Release := do
  let (release,environment) ← reads (fun w => w.state.promotion c)
  let outcome ← asking (deploy adapter c.host release environment)
  applyOutcome adapter.redact c.releaseId outcome c.appliedAt
  reads (fun w => w.state.release c.releaseId)

def rollbackRelease (adapter : DockerRuntimeAdapter) (c : ChangeRequest) : Panel Release := do
  let (release,environment) ← reads (fun w => w.state.reversal c)
  let outcome ← asking (rollback adapter c.host release environment c.releaseId)
  applyOutcome adapter.redact c.releaseId outcome c.appliedAt
  reads (fun w => w.state.release c.releaseId)

inductive Call where
  | register (caller : User) (name : String) (source : ApplicationSource) (buildCommand : String) (fresh : Uuid)
      (now : DateTime)
  | addEnvironment (caller : User) (applicationId : Uuid) (kind : EnvironmentKind) (name : String) (quota : Nat)
      (secretSet : SecretSetRef) (expiresAt : Option DateTime) (fresh : Uuid) (now : DateTime)
  | build (caller : User) (applicationId : Uuid) (environmentName : String)
      (resolved : Except ApplicationDeliveryError ReleaseDigest) (fresh : Uuid) (checkedAt now : DateTime)
  | promote (c : ChangeRequest)
  | rollback (c : ChangeRequest)
  | converge (target : ConvergeTarget) (host : Host)

def Call.after (adapter : DockerRuntimeAdapter) (w : World) : Call → World
  | .register caller name source buildCommand fresh now =>
    (exec (registerApplication caller name source buildCommand fresh now) w).2
  | .addEnvironment caller applicationId kind name quota secretSet expiresAt fresh now =>
    (exec (Delivery.addEnvironment caller applicationId kind name quota secretSet expiresAt fresh now) w).2
  | .build caller applicationId environmentName resolved fresh checkedAt now =>
    (exec (buildRelease adapter.redact caller applicationId environmentName resolved fresh checkedAt now) w).2
  | .promote c => (exec (Delivery.promote adapter c) w).2
  | .rollback c => (exec (rollbackRelease adapter c) w).2
  | .converge target host => (exec (asking (Delivery.converge adapter host target)) w).2

def serve (adapter : DockerRuntimeAdapter) (w : World) (call : Call) : Option World := some (call.after adapter w)

end OpenPanel.Delivery
