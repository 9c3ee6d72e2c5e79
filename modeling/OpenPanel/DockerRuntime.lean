import OpenPanel.Fallible
import OpenPanel.Rows
import OpenPanel.Values

/-! The docker runtime adapter of application delivery: one converge creates,
starts and polls a container, and the registry holds the container that backs each
environment. The host keeps the containers the adapter created and has not removed;
what the ports answer is an input. Of a specification the fields a delivery sets are
kept. The redaction of diagnostics is a parameter. -/
namespace OpenPanel.Delivery
open Fallible

inductive ApplicationDeliveryError where
  | runtimeUnavailable
  | registryUnauthorized
  | invalid (detail : String)
  | illegalTransition (detail : String)
  | missingEnvironment (detail : String)
  | previewCannotUseProductionSecret
  | releaseNotReady (action : String)
  | mutableDigest (detail : String)
  deriving DecidableEq

def ApplicationDeliveryError.message : ApplicationDeliveryError → String
  | .runtimeUnavailable => "docker runtime unavailable"
  | .registryUnauthorized => "registry authorization rejected"
  | .invalid detail => "invalid application-delivery value: " ++ detail
  | .illegalTransition detail => "illegal transition: " ++ detail
  | .missingEnvironment detail => "environment is required: " ++ detail
  | .previewCannotUseProductionSecret => "preview environment cannot resolve production secret"
  | .releaseNotReady action => "release is not in a state that can be " ++ action
  | .mutableDigest detail => "mutable digest rejected: " ++ detail

inductive DockerError where
  | forbidden
  | invalid (detail : String)
  | imageDenied (image : String)
  | adapter (detail : String)
  | notFound (object : String)
  | quotaExceeded
  | persistence (detail : String)
  deriving DecidableEq

def mapDockerError : DockerError → ApplicationDeliveryError
  | .forbidden => .registryUnauthorized
  | _ => .runtimeUnavailable

def isImmutableDigest (value : String) : Bool :=
  value.utf8ByteSize == 71 && "sha256:".toList.isPrefixOf value.toList && (value.toList.drop 7).all isAsciiHexdigit

def ConvergeTarget.check (applicationName environmentName digest : String) :
    Except ApplicationDeliveryError Unit :=
  if trimIsEmpty applicationName || trimIsEmpty environmentName then
    .error (.invalid "converge target names are required")
  else if isImmutableDigest digest = false then
    .error (.mutableDigest "converge target requires an immutable sha256 digest")
  else .ok ()

structure ConvergeTarget where
  applicationId : Uuid
  environmentId : Uuid
  applicationName : String
  environmentName : String
  releaseId : Uuid
  digest : String
  valid : ConvergeTarget.check applicationName environmentName digest = .ok ()

structure ResourceLimits where
  cpuShares : Nat := 1024
  memMb : Nat := 512
  pidsMax : Int := 256

structure ContainerSpec where
  id : Uuid
  name : String
  image : String
  limits : ResourceLimits
  userNamespace : String

def nameChar (c : Char) : Bool := isAsciiAlphanumeric c || c == '_' || c == '-'
def imageChar (c : Char) : Bool := isAsciiAlphanumeric c || ['.','_','-','/',':','@'].contains c
def userChar (c : Char) : Bool := (48 ≤ c.toNat && c.toNat ≤ 57) || c == ':'

def validateImage (image : String) : Except DockerError Unit :=
  if image = "" ∨ image.utf8ByteSize > 255 ∨ image.toList.all imageChar = false then
    .error (.invalid "invalid image reference")
  else .ok ()

def ContainerSpec.validate (spec : ContainerSpec) : Except DockerError Unit := do
  if spec.name = "" ∨ spec.name.utf8ByteSize > 63 ∨ spec.name.toList.all nameChar = false then
    .error (.invalid "invalid container name")
  else
    validateImage spec.image
    if spec.userNamespace = "0" ∨ "0:".toList.isPrefixOf spec.userNamespace.toList = true ∨
        spec.userNamespace.toList.all userChar = false then
      .error (.invalid "container user must be a numeric non-root uid:gid")
    else if spec.limits.cpuShares < 2 ∨ spec.limits.cpuShares > 262144 ∨ spec.limits.memMb < 16 ∨
        spec.limits.memMb > 1048576 ∨ spec.limits.pidsMax < 1 ∨ spec.limits.pidsMax > 1000000 then
      .error (.invalid "resource limit is out of range")
    else .ok ()

def containerName (environmentId releaseId : Uuid) : String :=
  String.ofList ("openpanel-".toList ++ environmentId.digits.take 8 ++ '-'::releaseId.digits.take 8)

namespace ConvergeTarget

def imageReference (target : ConvergeTarget) (registryNamespace : String) : String :=
  registryNamespace ++ "/" ++ target.applicationId.hyphenated ++ "@" ++ target.digest

def labels (target : ConvergeTarget) : List (String × String) :=
  [("openpanel.application",target.applicationId.hyphenated),
    ("openpanel.environment",target.environmentId.hyphenated),
    ("openpanel.release",target.releaseId.hyphenated)]

def containerSpec (target : ConvergeTarget) (image : String) : ContainerSpec :=
  ⟨target.environmentId,containerName target.environmentId target.releaseId,image,{},"1000:1000"⟩

end ConvergeTarget

structure Converged where
  target : ConvergeTarget
  containerId : String

def Converged.environmentId (c : Converged) : Uuid := c.target.environmentId

structure ConvergeRegistry where
  converged : List Converged
  unique : Rows.Unique Converged.environmentId converged

namespace ConvergeRegistry

def new : ConvergeRegistry := ⟨[],List.nodup_nil⟩

def find (registry : ConvergeRegistry) (environmentId : Uuid) : Option Converged :=
  registry.converged.find? (fun c => c.environmentId == environmentId)

def insert (registry : ConvergeRegistry) (entry : Converged) : ConvergeRegistry :=
  ⟨Rows.delete Converged.environmentId entry.environmentId registry.converged ++ [entry],
    Rows.insertUnique (Rows.deleteUnique registry.unique) (fun _ old => (Rows.memDelete.mp old).2)⟩

def replace (registry : ConvergeRegistry) (target : ConvergeTarget) (containerId : String) :
    Option String × ConvergeRegistry :=
  let previous := (registry.find target.environmentId).filter (fun p => p.containerId != containerId)
  (previous.map Converged.containerId,registry.insert ⟨target,containerId⟩)

def record (registry : ConvergeRegistry) (target : ConvergeTarget) : ConvergeRegistry :=
  (registry.replace target "").2

def byRelease (registry : ConvergeRegistry) (releaseId : Uuid) : Option ConvergeTarget :=
  ((registry.converged.insertionSort (fun a b => a.environmentId ≤ b.environmentId)).find?
    (fun c => c.target.releaseId == releaseId)).map Converged.target

end ConvergeRegistry

inductive ReleaseState where
  | pending | building | deploying | healthy | failed | rolledBack | rolledBackFailed
  deriving DecidableEq

structure ReleaseOutcome where
  state : ReleaseState
  diagnostic : String
  deriving DecidableEq

structure RuntimeContainerState where
  status : String
  oomKilled : Bool
  health : Option String

structure ConvergeResult where
  outcome : ReleaseOutcome
  containerId : Option String

structure Container where
  id : String
  spec : ContainerSpec
  labels : List (String × String)

structure Runtime where
  containers : List Container
  registry : ConvergeRegistry

/-- What the ports answer during one converge. A removal is asked for at most
once; `inspect` is given the number of the poll. -/
structure Host where
  imageExists : Except DockerError Bool
  pull : Except DockerError String
  ensure : Except DockerError Unit
  create : Except DockerError String
  start : Except DockerError Unit
  inspect : Nat → Except DockerError RuntimeContainerState
  remove : Except DockerError Unit

structure DockerRuntimeAdapter where
  redact : String → String
  registryNamespace : String
  healthPolls : Nat := 5

abbrev Service := Prog Runtime ApplicationDeliveryError

def ask {α : Type} (report : DockerError → ApplicationDeliveryError) (answer : Except DockerError α) : Service α :=
  attempt (fun s => match answer with
    | .error e => .error (report e)
    | .ok a => .ok (a,s))

def Host.createLabeled (host : Host) (spec : ContainerSpec) (labels : List (String × String)) : Service String :=
  attempt (fun s => match host.create with
    | .error e => .error (mapDockerError e)
    | .ok id => .ok (id,{s with containers := s.containers ++ [⟨id,spec,labels⟩]}))

def Host.discard (host : Host) (id : String) : Service Unit :=
  attempt (fun s => match host.remove with
    | .error _ => .ok ((),s)
    | .ok () => .ok ((),{s with containers := Rows.delete Container.id id s.containers}))

def maxDiagnosticLen : Nat := 1024

def boundedDiagnostic (redact : String → String) (value : String) : String :=
  let redacted := redact value
  if redacted.utf8ByteSize ≤ maxDiagnosticLen then redacted
  else String.ofList (redacted.toList.take maxDiagnosticLen)

def bounded (value : String) : String :=
  String.ofList ((value.toList.filter imageChar).take maxDiagnosticLen)

def healthy (redact : String → String) (diagnostic : String) : ReleaseOutcome :=
  ⟨.healthy,boundedDiagnostic redact diagnostic⟩

def failed (redact : String → String) (diagnostic : String) : ReleaseOutcome :=
  ⟨.failed,boundedDiagnostic redact diagnostic⟩

def projectState (redact : String → String) (state : RuntimeContainerState) : ReleaseOutcome :=
  if state.oomKilled then failed redact "container was OOM killed"
  else if state.health = some "healthy" then healthy redact "container reported healthy"
  else if state.health = some "unhealthy" then failed redact "container reported unhealthy"
  else if state.status = "running" then healthy redact "container is running"
  else failed redact ("container status is " ++ bounded state.status)

def Host.poll (host : Host) (redact : String → String) :
    Nat → Nat → ReleaseOutcome → Except ApplicationDeliveryError ReleaseOutcome
  | 0,_,outcome => .ok outcome
  | left + 1,attempt,_ =>
    match host.inspect attempt with
    | .error _ => .error .runtimeUnavailable
    | .ok state =>
      let outcome := projectState redact state
      if outcome.state ≠ .healthy ∨ state.health = some "healthy" then .ok outcome
      else host.poll redact left (attempt + 1) outcome

def Host.awaitTerminalState (host : Host) (redact : String → String) (healthPolls : Nat) :
    Except ApplicationDeliveryError ReleaseOutcome :=
  host.poll redact (max healthPolls 1) 0 (failed redact "container never reported a terminal state")

-- `str::ends_with`.
def endsWith (value ending : String) : Bool := ending.toList.isSuffixOf value.toList

def Host.ensureImage (host : Host) (digest : String) : Service Unit := do
  let present ← ask mapDockerError host.imageExists
  if present then pure () else do
    let pulled ← ask mapDockerError host.pull
    if endsWith pulled digest = false then
      throw (mapDockerError (.invalid "registry returned a different digest"))
    else pure ()

def convergeWith (adapter : DockerRuntimeAdapter) (host : Host) (target : ConvergeTarget) :
    Service ConvergeResult := do
  let image := target.imageReference adapter.registryNamespace
  host.ensureImage target.digest
  let spec := target.containerSpec image
  ask (fun _ => .invalid "delivery container spec is invalid") spec.validate
  ask (fun _ => .runtimeUnavailable) host.ensure
  let created ← host.createLabeled spec target.labels
  match host.start with
  | .error e => do
    host.discard created
    throw (mapDockerError e)
  | .ok () => match host.awaitTerminalState adapter.redact adapter.healthPolls with
    -- The container stays: this exit does not discard it.
    | .error e => throw e
    | .ok outcome =>
      if outcome.state ≠ .healthy then do
        host.discard created
        pure ⟨outcome,none⟩
      else pure ⟨outcome,some created⟩

def convergeAndRecord (adapter : DockerRuntimeAdapter) (host : Host) (target : ConvergeTarget) :
    Service ConvergeResult := do
  let converged ← convergeWith adapter host target
  match converged.containerId with
  | none => pure converged
  | some containerId => do
    let retired ← attempt (fun s =>
      let replaced := s.registry.replace target containerId
      .ok (replaced.1,{s with registry := replaced.2}))
    match retired with
    | none => pure converged
    | some old => do
      host.discard old
      pure converged

def Host.Fresh (host : Host) (s : Runtime) : Prop :=
  ∀ id, host.create = .ok id → id ≠ "" ∧ ∀ c ∈ s.containers, c.id ≠ id

instance (host : Host) (s : Runtime) : Decidable (host.Fresh s) :=
  match made : host.create with
  | .error _ => isTrue (by simp [Host.Fresh,made])
  | .ok id => decidable_of_iff (id ≠ "" ∧ ∀ c ∈ s.containers, c.id ≠ id) (by simp [Host.Fresh,made])

def fire (adapter : DockerRuntimeAdapter) (s : Runtime) (call : ConvergeTarget × Host) : Option Runtime :=
  if call.2.Fresh s then some (exec (convergeAndRecord adapter call.2 call.1) s).2 else none

end OpenPanel.Delivery
