import OpenPanel.DockerRuntime
import OpenPanel.Users

/-! Applications, environments and releases of application delivery: the checks
of their constructors, the table of legal release transitions, and the two
predicates that admit a promotion or a rollback. -/
namespace OpenPanel.Delivery
open Identity

def startsWith (value start : String) : Bool := start.toList.isPrefixOf value.toList

inductive ApplicationSourceKind where | git | oci | compose

def ApplicationSource.check (url sourceRef : String) : Except ApplicationDeliveryError Unit :=
  if trimIsEmpty url then .error (.invalid "source url is required")
  else if trimIsEmpty sourceRef then .error (.invalid "source ref is required")
  else .ok ()

structure ApplicationSource where
  kind : ApplicationSourceKind
  url : String
  sourceRef : String
  valid : ApplicationSource.check url sourceRef = .ok ()

def hexRef (name sourceRef : String) : Except ApplicationDeliveryError Unit :=
  if sourceRef.utf8ByteSize < 7 ∨ sourceRef.utf8ByteSize > 64 ∨ sourceRef.toList.all isAsciiHexdigit = false then
    .error (.invalid (name ++ " ref must be 7..=64 hex chars, got `" ++ sourceRef ++ "`"))
  else .ok ()

def validateSourceRef (kind : ApplicationSourceKind) (sourceRef : String) : Except ApplicationDeliveryError Unit :=
  match kind with
  | .git => hexRef "git" sourceRef
  | .compose => hexRef "compose" sourceRef
  | .oci =>
    if startsWith sourceRef "sha256:" = false ∨ sourceRef.utf8ByteSize < 8 ∨ sourceRef.utf8ByteSize > 128 then
      .error (.invalid ("oci ref must be `sha256:...`, got `" ++ sourceRef ++ "`"))
    else if (sourceRef.toList.drop 7).all isAsciiHexdigit = false then
      .error (.invalid ("oci ref must be hex, got `" ++ sourceRef ++ "`"))
    else .ok ()

def SecretSetRef.check (name : String) (version : Option String) : Except ApplicationDeliveryError Unit :=
  if trimIsEmpty name then .error (.invalid "secret-set name is required")
  else if version.any trimIsEmpty then .error (.invalid "secret-set version is invalid")
  else .ok ()

structure SecretSetRef where
  name : String
  version : Option String
  valid : SecretSetRef.check name version = .ok ()

inductive EnvironmentKind where | production | preview deriving DecidableEq

def EnvironmentKind.asStr : EnvironmentKind → String
  | .production => "production"
  | .preview => "preview"

def EnvironmentKind.secretStart : EnvironmentKind → String
  | .production => "prod-"
  | .preview => "preview-"

structure Environment where
  id : Uuid
  applicationId : Uuid
  kind : EnvironmentKind
  name : String
  quota : Nat
  secretSet : SecretSetRef
  createdAt : DateTime
  expiresAt : Option DateTime

def Environment.new (id applicationId : Uuid) (kind : EnvironmentKind) (name : String) (quota : Nat)
    (secretSet : SecretSetRef) (createdAt : DateTime) (expiresAt : Option DateTime) :
    Except ApplicationDeliveryError Environment :=
  if trimIsEmpty name then .error (.invalid "environment name is required")
  else if quota = 0 then .error (.invalid "environment quota must be > 0")
  else if startsWith secretSet.name kind.secretStart = false then
    .error (.invalid ("environment of kind `" ++ kind.asStr ++ "` requires a secret set whose name starts with `" ++
      kind.secretStart ++ "`"))
  else if kind = .preview ∧ expiresAt = none then .error (.invalid "preview environment must have expires_at")
  else if expiresAt.any (fun expires => expires ≤ createdAt) then .error (.invalid "expires_at must be in the future")
  else .ok ⟨id,applicationId,kind,name,quota,secretSet,createdAt,expiresAt⟩

def Environment.isExpired (environment : Environment) (now : DateTime) : Bool :=
  environment.expiresAt.any (fun expires => expires ≤ now)

def validateEnvironmentIsolation (environment : Environment) (secretSet : SecretSetRef) :
    Except ApplicationDeliveryError Unit :=
  if environment.isExpired environment.createdAt then .error (.invalid "environment is born expired")
  else match environment.kind with
    | .production =>
      if startsWith secretSet.name "prod-" then .ok ()
      else .error (.invalid "production environment must resolve a `prod-` secret set")
    | .preview =>
      if startsWith secretSet.name "preview-" then .ok () else .error .previewCannotUseProductionSecret

def resolveEnvironment (environment : Environment) (productionSet previewSet : SecretSetRef) :
    Except ApplicationDeliveryError SecretSetRef := do
  let candidate := match environment.kind with
    | .production => productionSet
    | .preview => previewSet
  validateEnvironmentIsolation environment candidate
  return candidate

def ReleaseDigest.check (value : String) : Except ApplicationDeliveryError Unit :=
  if startsWith value "sha256:" = false then .error (.mutableDigest value)
  else if value.utf8ByteSize < 8 ∨ value.utf8ByteSize > 128 then
    .error (.invalid ("release digest must be 8..=128 chars, got `" ++ toString value.utf8ByteSize ++ "`"))
  else if (value.toList.drop 7).all isAsciiHexdigit = false then .error (.mutableDigest value)
  else .ok ()

structure ReleaseDigest where
  value : String
  resolvedAt : DateTime
  valid : ReleaseDigest.check value = .ok ()

def ReleaseState.asStr : ReleaseState → String
  | .pending => "pending"
  | .building => "building"
  | .deploying => "deploying"
  | .healthy => "healthy"
  | .failed => "failed"
  | .rolledBack => "rolled_back"
  | .rolledBackFailed => "rolled_back_failed"

def ReleaseState.legal : ReleaseState → ReleaseState → Bool
  | .pending,.building | .pending,.failed
  | .building,.deploying | .building,.failed
  | .deploying,.healthy | .deploying,.failed
  | .failed,.rolledBack | .failed,.rolledBackFailed => true
  | _,_ => false

structure Release where
  id : Uuid
  applicationId : Uuid
  environmentId : Uuid
  digest : ReleaseDigest
  source : ApplicationSource
  state : ReleaseState
  createdAt : DateTime
  lastTransitionAt : DateTime
  previousReleaseId : Option Uuid
  diagnostic : String

def Release.new (id applicationId environmentId : Uuid) (digest : ReleaseDigest) (source : ApplicationSource)
    (createdAt : DateTime) (previousReleaseId : Option Uuid) : Release :=
  ⟨id,applicationId,environmentId,digest,source,.pending,createdAt,createdAt,previousReleaseId,""⟩

def Release.transition (redact : String → String) (release : Release) (target : ReleaseState) (now : DateTime)
    (diagnostic : String) : Except ApplicationDeliveryError Release :=
  if release.state = target then
    .error (.illegalTransition ("release already in state `" ++ target.asStr ++ "`"))
  else if release.state.legal target = false then
    .error (.illegalTransition ("cannot move from `" ++ release.state.asStr ++ "` to `" ++ target.asStr ++ "`"))
  else .ok {release with state := target, lastTransitionAt := now, diagnostic := redact diagnostic}

def startBuild (redact : String → String) (release : Release) (now : DateTime) :
    Except ApplicationDeliveryError Release :=
  release.transition redact .building now "build started"

def finishBuild (redact : String → String) (release : Release) (now : DateTime) (digest : ReleaseDigest) :
    Except ApplicationDeliveryError Release :=
  (release.transition redact .deploying now "build finished; deploying").mapError (fun err =>
    .illegalTransition ("finish_build: " ++ err.message ++ "; digest=" ++ digest.value))

structure Application where
  id : Uuid
  ownerId : Uuid
  name : String
  source : ApplicationSource
  buildCommand : String
  environments : List Environment
  createdAt : DateTime

def maxApplicationName : Nat := 64
def maxRefLen : Nat := 128
def maxDigestLen : Nat := 128

def applicationNameChar (c : Char) : Bool :=
  (97 ≤ c.toNat && c.toNat ≤ 122) || (48 ≤ c.toNat && c.toNat ≤ 57) || c == '-'

def Application.new (id ownerId : Uuid) (name : String) (source : ApplicationSource) (buildCommand : String)
    (createdAt : DateTime) : Except ApplicationDeliveryError Application := do
  if name = "" ∨ name.utf8ByteSize > 64 ∨ name.toList.all applicationNameChar = false then
    .error (.invalid ("application name `" ++ name ++ "` must be 1..=64 chars of [a-z0-9-]"))
  else
    validateSourceRef source.kind source.sourceRef
    return ⟨id,ownerId,name,source,buildCommand,[],createdAt⟩

def Application.environment (application : Application) (name : String) : Option Environment :=
  application.environments.find? (fun e => e.name == name)

def Application.addEnvironment (application : Application) (environment : Environment) :
    Except ApplicationDeliveryError Application :=
  if environment.applicationId ≠ application.id then
    .error (.invalid "environment.application_id does not match this application")
  else if application.environments.any (fun e => e.name == environment.name) then
    .error (.invalid ("environment `" ++ environment.name ++ "` already exists"))
  else .ok {application with
    environments := (application.environments ++ [environment]).insertionSort (fun a b => a.name ≤ b.name)}

-- `PromotionRequest::new` and `RollbackRequest::new` make the same two checks.
def requestCheck (actor confirmation : String) : Except ApplicationDeliveryError Unit :=
  if trimIsEmpty actor then .error (.invalid "actor is required")
  else if trimIsEmpty confirmation then .error (.invalid "confirmation is required")
  else .ok ()

def canPromote (release : Release) (environment : Environment) (confirmation : String) :
    Except ApplicationDeliveryError Unit :=
  if release.environmentId ≠ environment.id then
    .error (.invalid "release.environment_id does not match the target environment")
  else if release.applicationId ≠ environment.applicationId then
    .error (.invalid "release.application_id does not match the target environment")
  else if trimIsEmpty confirmation then .error (.invalid "promotion requires a non-empty confirmation")
  else match release.state with
    | .pending | .building | .deploying => .ok ()
    | _ => .error (.releaseNotReady "promoted")

def canRollback (release : Release) (environment : Environment) (confirmation : String) :
    Except ApplicationDeliveryError Unit :=
  if release.environmentId ≠ environment.id then
    .error (.invalid "release.environment_id does not match the rollback environment")
  else if trimIsEmpty confirmation then .error (.invalid "rollback requires a non-empty confirmation")
  else match release.state with
    | .failed | .deploying => .ok ()
    | _ => .error (.releaseNotReady "rolled back")

theorem transitioned {release} (ok : Release.transition redact release target now diagnostic = .ok next) :
    release.state.legal target = true ∧
    next = {release with state := target, lastTransitionAt := now, diagnostic := redact diagnostic} := by
  unfold Release.transition at ok
  split at ok <;> try contradiction
  split at ok <;> cases ok
  rename_i legal
  exact ⟨by simpa using legal,rfl⟩

theorem transitionLegal {release} (legal : Release.state release |>.legal target) :
    Release.transition redact release target now diagnostic =
      .ok {release with state := target, lastTransitionAt := now, diagnostic := redact diagnostic} := by
  have different : release.state ≠ target := by
    rintro rfl
    cases h : release.state <;> simp [h,ReleaseState.legal] at legal
  simp [Release.transition,different,legal]

theorem promotable {release} (ok : canPromote release environment confirmation = .ok ()) :
    release.state = .pending ∨ release.state = .building ∨ release.state = .deploying := by
  unfold canPromote at ok
  split at ok <;> try contradiction
  split at ok <;> try contradiction
  split at ok <;> try contradiction
  split at ok <;> simp_all

theorem reversible {release} (ok : canRollback release environment confirmation = .ok ()) :
    release.state = .failed ∨ release.state = .deploying := by
  unfold canRollback at ok
  split at ok <;> try contradiction
  split at ok <;> try contradiction
  split at ok <;> simp_all

end OpenPanel.Delivery
