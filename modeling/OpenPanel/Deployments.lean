import OpenPanel.Fallible
import OpenPanel.Users

/-! Deployment plans, the evidence of running them and the contract of an adapter,
with the docker adapter as the one that ships. Of a manifest the fields that plan
validation reads are kept. The redaction of diagnostics is a parameter: no
decision here reads a diagnostic. -/
namespace OpenPanel.Deployment

inductive DeploymentAction where
  | preflight | deploy | verify | restart | rollback | status | logs
  deriving DecidableEq

def DeploymentAction.isMutating : DeploymentAction → Bool
  | .deploy | .restart | .rollback | .preflight => true
  | _ => false

def DeploymentAction.asStr : DeploymentAction → String
  | .preflight => "preflight"
  | .deploy => "deploy"
  | .verify => "verify"
  | .restart => "restart"
  | .rollback => "rollback"
  | .status => "status"
  | .logs => "logs"

inductive RollbackPolicy where | attempt | skip | refuse

def DeploymentAction.rollbackPolicy : DeploymentAction → RollbackPolicy
  | .deploy | .restart => .attempt
  | _ => .skip

inductive DeploymentAdapterError where
  | invalid (detail : String)
  | unsupportedAction (action : String)
  deriving DecidableEq

def DeploymentAdapterError.message : DeploymentAdapterError → String
  | .invalid detail => "invalid deployment-adapter value: " ++ detail
  | .unsupportedAction action => "unsupported adapter action: " ++ action

def maxIdentifierLen : Nat := 254

def required (detail value : String) : Except DeploymentAdapterError Unit :=
  if trimIsEmpty value || decide (maxIdentifierLen < value.utf8ByteSize) then
    .error (.invalid (detail ++ " is required"))
  else .ok ()

structure OperationKey where
  target : String
  action : String
  value : String
  deriving DecidableEq

def DeploymentPlan.check (target : String) (action : DeploymentAction) (operationKey : Option OperationKey)
    (releaseDigest : String) (secretRefs : List String) (adapter actor : String) :
    Except DeploymentAdapterError Unit := do
  required "target" target
  required "release_digest" releaseDigest
  required "adapter" adapter
  required "actor" actor
  if secretRefs.length > 16 then .error (.invalid "secret_refs must be 0..=16")
  else if action.isMutating && operationKey.isNone then
    .error (.invalid "mutating action requires an operation key")
  else if !action.isMutating && operationKey.isSome then
    .error (.invalid "read-only action must not carry an operation key")
  else .ok ()

/-- `secretRefs` are the names of the references; nothing here reads a version. -/
structure DeploymentPlan where
  target : String
  action : DeploymentAction
  operationKey : Option OperationKey
  releaseDigest : String
  secretRefs : List String
  adapter : String
  actor : String
  dryRun : Bool
  valid : DeploymentPlan.check target action operationKey releaseDigest secretRefs adapter actor = .ok ()
  deriving DecidableEq

structure AdapterManifest where
  id : String
  actions : List DeploymentAction
  supportsRollback : Bool
  secretRefs : List String

inductive DeploymentState where
  | accepted | preflightInProgress | preflightRejected | applied | verifying | ready | failed
  | rolledBack | rollbackFailed
  deriving DecidableEq

def DeploymentState.isTerminal : DeploymentState → Bool
  | .ready | .failed | .rolledBack | .rollbackFailed | .preflightRejected => true
  | _ => false

structure DeploymentEvidence where
  id : Uuid
  target : String
  adapter : String
  action : DeploymentAction
  operationKey : Option OperationKey
  releaseDigest : String
  state : DeploymentState
  startedAt : DateTime
  completedAt : DateTime
  diagnostic : String
  deriving DecidableEq

def DeploymentEvidence.new (redact : String → String) (id : Uuid) (target adapter : String)
    (action : DeploymentAction) (operationKey : Option OperationKey) (releaseDigest : String)
    (state : DeploymentState) (startedAt completedAt : DateTime) (diagnostic : String) :
    Except DeploymentAdapterError DeploymentEvidence := do
  required "target" target
  required "adapter" adapter
  required "release_digest" releaseDigest
  if completedAt < startedAt then .error (.invalid "completed_at must not precede started_at")
  else .ok ⟨id,target,adapter,action,operationKey,releaseDigest,state,startedAt,completedAt,redact diagnostic⟩

def validatePlan (plan : DeploymentPlan) (manifest : AdapterManifest) :
    Except DeploymentAdapterError RollbackPolicy :=
  if plan.adapter ≠ manifest.id then
    .error (.invalid ("plan targets adapter `" ++ plan.adapter ++ "` but manifest is `" ++ manifest.id ++ "`"))
  else if plan.action ∉ manifest.actions then .error (.unsupportedAction plan.action.asStr)
  else if plan.action.isMutating && plan.operationKey.isNone then
    .error (.invalid "mutating action requires an operation key")
  else match plan.secretRefs.find? (fun name => !manifest.secretRefs.contains name) with
    | some name => .error (.invalid ("plan references undeclared secret `" ++ name ++ "`"))
    | none =>
      if plan.action = .rollback ∧ manifest.supportsRollback = false then
        .error (.invalid "adapter does not declare rollback support")
      else .ok plan.action.rollbackPolicy

inductive IdempotencyDecision where | replay | rerun

def decideReplay (plan : DeploymentPlan) : Option DeploymentEvidence → IdempotencyDecision
  | none => .rerun
  | some cached =>
    if cached.state.isTerminal = false then .rerun
    else if cached.releaseDigest ≠ plan.releaseDigest then .rerun
    else if cached.action ≠ plan.action then .rerun
    else if plan.dryRun then .rerun
    else .replay

structure Adapter (η : Type) where
  manifest : AdapterManifest
  execute : η → DeploymentPlan → Option DeploymentEvidence → DeploymentEvidence

structure Reports (e : DeploymentEvidence) (plan : DeploymentPlan) : Prop where
  target : e.target = plan.target
  adapter : e.adapter = plan.adapter
  action : e.action = plan.action
  operationKey : e.operationKey = plan.operationKey
  releaseDigest : e.releaseDigest = plan.releaseDigest

/-- What the contract asks of an adapter, for the plans its manifest admits. -/
structure Adapter.Conforms {η : Type} (a : Adapter η) : Prop where
  reports : ∀ host plan policy, validatePlan plan a.manifest = .ok policy →
    Reports (a.execute host plan none) plan
  terminal : ∀ host plan policy, validatePlan plan a.manifest = .ok policy →
    (a.execute host plan none).state.isTerminal = true
  replays : ∀ host plan policy cached, validatePlan plan a.manifest = .ok policy →
    decideReplay plan (some cached) = .replay → a.execute host plan (some cached) = cached

/-- What the docker host and the resolver of targets answer during one execution:
the texts are the diagnostics they give. -/
structure DockerHost where
  now : DateTime
  id : Uuid
  resolve : Except String Bool
  check : Except String String
  converge : Except String String

def targetScheme : String := "forge:"

def bounded (value : String) : String := String.ofList (value.toList.take 254)

def DockerHost.resolveTarget (host : DockerHost) (plan : DeploymentPlan) : Except String Unit :=
  if targetScheme.toList.isPrefixOf plan.target.toList then
    match host.resolve with
    | .ok true => .ok ()
    | .ok false =>
      .error ("plan target `" ++ bounded plan.target ++ "` has no converged release in this process")
    | .error detail => .error detail
  else .error ("plan target `" ++ bounded plan.target ++ "` is outside the " ++ targetScheme ++ " namespace")

def refusedState (plan : DeploymentPlan) : DeploymentState :=
  match plan.action with
  | .preflight => .preflightRejected
  | _ => .failed

def terminal (redact : String → String) (host : DockerHost) (unreportable : DeploymentEvidence)
    (plan : DeploymentPlan) (state : DeploymentState) (diagnostic : String) : DeploymentEvidence :=
  match DeploymentEvidence.new redact host.id plan.target plan.adapter plan.action plan.operationKey
      plan.releaseDigest state host.now host.now diagnostic with
  | .ok e => e
  | .error _ => unreportable

def reported (redact : String → String) (host : DockerHost) (unreportable : DeploymentEvidence)
    (plan : DeploymentPlan) : Except String String → DeploymentEvidence
  | .ok diagnostic => terminal redact host unreportable plan .ready diagnostic
  | .error detail => terminal redact host unreportable plan .failed detail

def dockerAdapter (redact : String → String) (manifest : AdapterManifest)
    (unreportable : DeploymentEvidence) : Adapter DockerHost where
  manifest := manifest
  execute host plan cached :=
    match validatePlan plan manifest with
    | .error e => terminal redact host unreportable plan .preflightRejected e.message
    | .ok _ => match cached,decideReplay plan cached with
      | some cached,.replay => cached
      | _,_ => match host.resolveTarget plan with
        | .error detail => terminal redact host unreportable plan (refusedState plan) detail
        | .ok () =>
          if plan.dryRun || !plan.action.isMutating then reported redact host unreportable plan host.check
          else reported redact host unreportable plan host.converge

theorem planFields (plan : DeploymentPlan) : required "target" plan.target = .ok () ∧
    required "release_digest" plan.releaseDigest = .ok () ∧ required "adapter" plan.adapter = .ok () := by
  obtain ⟨_,target,rest⟩ := Fallible.bindOk plan.valid
  obtain ⟨_,digest,rest⟩ := Fallible.bindOk rest
  obtain ⟨_,adapter,_⟩ := Fallible.bindOk rest
  exact ⟨target,digest,adapter⟩

theorem mutatingKeyed (plan : DeploymentPlan) (mutating : plan.action.isMutating = true) : ∃ key, plan.operationKey = some key := by
  obtain ⟨_,_,rest⟩ := Fallible.bindOk plan.valid
  obtain ⟨_,_,rest⟩ := Fallible.bindOk rest
  obtain ⟨_,_,rest⟩ := Fallible.bindOk rest
  obtain ⟨_,_,rest⟩ := Fallible.bindOk rest
  split at rest <;> try contradiction
  split at rest <;> try contradiction
  rename_i keyed
  cases found : plan.operationKey with
  | some key => exact ⟨key,rfl⟩
  | none => simp [found,mutating] at keyed

theorem terminalReports (redact host unreportable) (plan) (state diagnostic) :
    Reports (terminal redact host unreportable plan state diagnostic) plan ∧
      (terminal redact host unreportable plan state diagnostic).state = state := by
  obtain ⟨target,digest,adapter⟩ := planFields plan
  simp only [terminal,DeploymentEvidence.new,target,digest,adapter,bind,Except.bind,
    if_neg (Int.lt_irrefl host.now),and_true]
  exact ⟨rfl,rfl,rfl,rfl,rfl⟩

theorem reportedReports (redact host unreportable) (plan) (outcome) :
    Reports (reported redact host unreportable plan outcome) plan ∧
      (reported redact host unreportable plan outcome).state.isTerminal = true := by
  cases outcome with
  | ok diagnostic =>
    have made := terminalReports redact host unreportable plan .ready diagnostic
    exact ⟨made.1,congrArg DeploymentState.isTerminal made.2⟩
  | error detail =>
    have made := terminalReports redact host unreportable plan .failed detail
    exact ⟨made.1,congrArg DeploymentState.isTerminal made.2⟩

theorem dockerFresh (admitted : validatePlan plan manifest = .ok policy) :
    Reports ((dockerAdapter redact manifest unreportable).execute host plan none) plan ∧
      ((dockerAdapter redact manifest unreportable).execute host plan none).state.isTerminal = true := by
  simp only [dockerAdapter,admitted]
  split
  · have made := terminalReports redact host unreportable plan (refusedState plan)
    refine ⟨(made _).1,?_⟩
    rw [(made _).2]
    unfold refusedState
    split <;> rfl
  · split <;> exact reportedReports redact host unreportable plan _

theorem dockerConforms (redact manifest unreportable) :
    (dockerAdapter redact manifest unreportable).Conforms where
  reports _ _ _ admitted := (dockerFresh admitted).1
  terminal _ _ _ admitted := (dockerFresh admitted).2
  replays host plan policy cached admitted decided := by
    have same : validatePlan plan manifest = .ok policy := admitted
    simp only [dockerAdapter,same,decided]

end OpenPanel.Deployment
