import OpenPanel.CallPool
import OpenPanel.Deployments

/-! The deployment service over its in-memory evidence: the locked lookup, the
execution of the adapter and the locked insertion are the steps of a call. The order
the map is searched in is the environment's; `Uuid::new_v4` does not repeat. Audit is
left out, and no lock is poisoned. -/
namespace OpenPanel.Deployment
open CallPool Identity

inductive DeploymentServiceError where
  | forbidden
  | adapterNotFound (id : String)
  | validation (detail : String)
  | unsupportedAction (action : String)
  | rollbackUnsupported
  deriving DecidableEq

def DeploymentServiceError.message : DeploymentServiceError → String
  | .forbidden => "forbidden"
  | .adapterNotFound id => "adapter not found: " ++ id
  | .validation detail => "deployment-adapter validation failed: " ++ detail
  | .unsupportedAction action => "unsupported adapter action: " ++ action
  | .rollbackUnsupported => "rollback is not supported by this adapter"

/-- An entry of the evidence map. `dryRun` is not stored: it says whether the
entry was synthesized for a dry run. -/
structure Record where
  evidence : DeploymentEvidence
  dryRun : Bool

def Record.id (r : Record) : Uuid := r.evidence.id

structure Execution where
  plan : DeploymentPlan
  evidence : DeploymentEvidence
  deriving DecidableEq

/-- Only `evidence` is the service's; the other two record what has happened. -/
structure Service where
  evidence : List Record
  executions : List Execution
  issued : List Uuid

def Matches (plan : DeploymentPlan) (e : DeploymentEvidence) : Prop :=
  e.state.isTerminal = true ∧ e.action = plan.action ∧ e.target = plan.target ∧
    e.releaseDigest = plan.releaseDigest ∧
    ∃ key ∈ plan.operationKey, ∃ candidate ∈ e.operationKey, candidate.value = key.value

instance (plan e) : Decidable (Matches plan e) := by unfold Matches; infer_instance

def Service.matching (s : Service) (plan : DeploymentPlan) : List DeploymentEvidence :=
  (s.evidence.map Record.evidence).filter (fun e => decide (Matches plan e))

/-- `values().find(..)`: some match if there is one; `pick` says which. -/
def Service.cachedEvidence (s : Service) (plan : DeploymentPlan) (pick : Nat) : Option DeploymentEvidence :=
  match (s.matching plan)[pick]? with
  | some e => some e
  | none => (s.matching plan).head?

def Service.recordEvidence (s : Service) (e : DeploymentEvidence) (dryRun : Bool) : Service :=
  {s with evidence := Rows.delete Record.id e.id s.evidence ++ [⟨e,dryRun⟩]}

inductive Pc where
  | run (caller : Role) (plan : DeploymentPlan)
  | execute (plan : DeploymentPlan) (cached : Option DeploymentEvidence)
  | record (plan : DeploymentPlan) (e : DeploymentEvidence)
  | done (plan : DeploymentPlan) (result : Except DeploymentServiceError DeploymentEvidence)
  deriving DecidableEq

structure Env (η : Type) where
  now : DateTime
  fresh : Uuid
  pick : Nat
  host : η

def entry : Pc → Bool
  | .run _ _ => true
  | _ => false

def requireOperator : Role → Bool
  | .owner | .admin => true
  | .user => false

def propagateValidation : DeploymentAdapterError → DeploymentServiceError
  | .unsupportedAction action => .unsupportedAction action
  | e => .validation e.message

def findAdapter (adapters : List (Adapter η)) (id : String) : Option (Adapter η) :=
  adapters.find? (fun a => a.manifest.id == id)

def admission (adapters : List (Adapter η)) (caller : Role) (plan : DeploymentPlan) :
    Except DeploymentServiceError (Adapter η) :=
  if requireOperator caller = false then .error .forbidden
  else match findAdapter adapters plan.adapter with
    | none => .error (.adapterNotFound plan.adapter)
    | some a => match validatePlan plan a.manifest with
      | .error e => .error (propagateValidation e)
      | .ok _ =>
        if plan.action = .rollback ∧ a.manifest.supportsRollback = false then .error .rollbackUnsupported
        else .ok a

def buildDryRunEvidence (redact : String → String) (id : Uuid) (now : DateTime) (plan : DeploymentPlan) :
    Except DeploymentAdapterError DeploymentEvidence :=
  DeploymentEvidence.new redact id plan.target plan.adapter plan.action plan.operationKey
    plan.releaseDigest .ready now now "dry-run; no mutation"

def Service.issue (s : Service) (id : Uuid) : Service := {s with issued := id::s.issued}

def step (redact : String → String) (adapters : List (Adapter η)) (s : Service) (pc : Pc) (env : Env η) :
    Option (Service × Pc) :=
  match pc with
  | .run caller plan =>
    match admission adapters caller plan with
    | .error e => some (s,.done plan (.error e))
    | .ok _ =>
      if plan.dryRun then
        if env.fresh ∈ s.issued then none
        else match buildDryRunEvidence redact env.fresh env.now plan with
          | .error e => some (s,.done plan (.error (.validation e.message)))
          | .ok e => some (s.issue e.id,.record plan e)
      else some (s,.execute plan (s.cachedEvidence plan env.pick))
  | .execute plan cached =>
    match findAdapter adapters plan.adapter with
    | none => some (s,.done plan (.error (.adapterNotFound plan.adapter)))
    | some a =>
      let e := a.execute env.host plan cached
      match decideReplay plan cached with
      | .replay => some (s,.done plan (.ok e))
      | .rerun =>
        if e.id ∈ s.issued then none
        else some ({s.issue e.id with executions := s.executions ++ [⟨plan,e⟩]},.record plan e)
  | .record plan e => some (s.recordEvidence e plan.dryRun,.done plan (.ok e))
  | .done _ _ => none

def machine (redact : String → String) (adapters : List (Adapter η)) : Machine Service Pc (Env η) :=
  ⟨entry,step redact adapters⟩

end OpenPanel.Deployment
