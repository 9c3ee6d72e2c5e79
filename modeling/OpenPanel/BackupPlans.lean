import OpenPanel.BackupService
import OpenPanel.CronService

/-! Backup plans and the cron jobs that run them, in tables written by separate
statements without a transaction: the two agree as long as no statement for the plan
fails once the one for the job is through. -/
namespace OpenPanel.Cron
open Fallible

def CronServiceError.message : CronServiceError → String
  | .validation detail => "validation failed: " ++ detail
  | .notFound => "cron record not found"
  | .persistence error => "cron persistence failed: " ++ error.message

structure CronInput where
  name : String
  schedule : String
  timezone : String
  kind : String
  executable : Option String
  arguments : List String
  workingDirectory : Option String
  url : Option String
  method : Option String
  timeoutSecs : Nat
  overlapPolicy : String

section Jobs

variable (cal : Calendar) (allowedRoots : List String)

def CronInput.jobKind (input : CronInput) : Except CronServiceError JobKind :=
  if input.kind = "command" then
    match input.workingDirectory with
    | none => .error (.validation "working_directory is required")
    | some directory => do
      let directory ← (OwnedWorkingDirectory.new directory allowedRoots).mapError invalid
      (JobKind.newCommand (input.executable.getD "") input.arguments directory).mapError invalid
  else if input.kind = "http" then
    (JobKind.newHttp (input.url.getD "") (input.method.getD "GET")).mapError invalid
  else .error (.validation "kind must be command or http")

def CronInput.build (id ownerId : Uuid) (now : DateTime) (input : CronInput) : Except CronServiceError CronJob :=
  if input.overlapPolicy ≠ "skip" then .error (.validation "overlap_policy must be skip")
  else do
    let schedule ← (CronSchedule.parse cal input.schedule input.timezone).mapError invalid
    let kind ← input.jobKind allowedRoots
    (CronJob.new cal id ownerId input.name schedule kind input.timeoutSecs .skip now).mapError invalid

abbrev Jobs := Prog (List JobRow) CronServiceError

def changeJobs (fault : Option String) (change : List JobRow → Except DbError (List JobRow)) : Jobs Unit :=
  attempt (fun jobs => match fault with
    | some message => .error (.persistence (.fault message))
    | none => match change jobs with
      | .error e => .error (.persistence e)
      | .ok next => .ok ((),next))

def create (fault : Option String) (id ownerId : Uuid) (now : DateTime) (input : CronInput) : Jobs CronJob := do
  let job ← reads (fun _ => input.build cal allowedRoots id ownerId now)
  changeJobs fault (fun jobs =>
    if jobs.any (fun r => r.id == job.id) then .error (.unique "cron_jobs.id") else .ok (jobs ++ [⟨job.id,ownerId,job⟩]))
  return job

def get (fault : Option String) (ownerId : Uuid) (all : Bool) (id : Uuid) : Jobs CronJob :=
  reads (fun jobs => match fault with
    | some message => .error (.persistence (.fault message))
    | none => match jobs.find? (fun r => r.id == id && (all || r.ownerId == ownerId)) with
      | none => .error .notFound
      | some row => .ok row.payload)

def switch (readFault saveFault : Option String) (now : DateTime) (ownerId : Uuid) (all : Bool) (id : Uuid)
    (enabled : Bool) : Jobs CronJob := do
  let job ← get readFault ownerId all id
  let job ← reads (fun _ => (Edit.setEnabled enabled).apply cal now job)
  changeJobs saveFault (fun jobs => .ok (Rows.update JobRow.id job.id (fun r => {r with payload := job}) jobs))
  return job

def delete (readFault deleteFault : Option String) (ownerId : Uuid) (all : Bool) (id : Uuid) : Jobs Unit := do
  let _ ← get readFault ownerId all id
  changeJobs deleteFault (fun jobs => .ok (Rows.delete JobRow.id id jobs))

end Jobs

end OpenPanel.Cron

namespace OpenPanel.Backups
open Fallible
open Cron (Calendar CronInput CronJob CronSchedule CronServiceError JobRow)

structure BackupPlanInput where
  name : String
  resources : List BackupResource
  schedule : String
  timezone : String
  retentionCopies : Nat

structure BackupPlanUpdate where
  name : Option String
  retentionCopies : Option Nat

namespace BackupPlan

def new (cal : Calendar) (id ownerId : Uuid) (name : String) (resources : List BackupResource) (schedule timezone : String)
    (retention : RetentionPolicy) (now : DateTime) : Except BackupError BackupPlan :=
  if trimIsEmpty name ∨ resources.isEmpty then .error (.invalid "name and resources are required")
  else match CronSchedule.parse cal schedule timezone with
    | .error e => .error (.invalid e.message)
    | .ok _ => .ok ⟨id,ownerId,name,resources,schedule,timezone,retention,true,now,now,none⟩

def disable (plan : BackupPlan) (now : DateTime) : BackupPlan := {plan with enabled := false, updatedAt := now}
def enable (plan : BackupPlan) (now : DateTime) : BackupPlan := {plan with enabled := true, updatedAt := now}

def linkCron (plan : BackupPlan) (cronJobId : Uuid) (now : DateTime) : BackupPlan :=
  {plan with cronJobId := some cronJobId, updatedAt := now}

def update (plan : BackupPlan) (name : Option String) (retention : Option RetentionPolicy) (now : DateTime) :
    Except BackupError BackupPlan :=
  if name.any trimIsEmpty then .error (.invalid "name is required")
  else .ok {plan with name := name.getD plan.name, retention := retention.getD plan.retention, updatedAt := now}

end BackupPlan

structure PlanWorld where
  plans : List BackupPlan
  jobs : List JobRow

inductive PlanStep where
  | readPlan
  | currentExe
  | insertJob
  | readJob
  | saveJob
  | deleteJob
  | insertPlan
  | savePlan
  | deletePlan
  deriving DecidableEq

structure Scheduler where
  allowedRoots : List String
  workingRoot : String

structure PlanEnv where
  planId : Uuid
  jobId : Uuid
  now : DateTime
  scheduledAt : DateTime
  linkedAt : DateTime
  executable : String
  fault : PlanStep → Option String

abbrev Plans := Prog PlanWorld BackupServiceError

section Calls

variable (cal : Calendar) (scheduler : Option Scheduler) (env : PlanEnv)

def onJobs {α : Type} (prog : Cron.Jobs α) : Plans α :=
  zoom PlanWorld.jobs (fun jobs w => {w with jobs := jobs}) (fun e => .internal e.message) prog

def changePlans (step : PlanStep) (change : List BackupPlan → Except DbError (List BackupPlan)) : Plans Unit :=
  attempt (fun w => match env.fault step with
    | some message => .error (.internal message)
    | none => match change w.plans with
      | .error e => .error (.internal e.message)
      | .ok plans => .ok ((),{w with plans := plans}))

def plan (owner : Uuid) (all : Bool) (id : Uuid) : Plans BackupPlan :=
  reads (fun w => match env.fault .readPlan with
    | some message => .error (.internal message)
    | none => match w.plans.find? (fun p => p.id == id && (all || p.ownerId == owner)) with
      | none => .error .notFound
      | some plan => .ok plan)

def savePlan (plan : BackupPlan) : Plans Unit :=
  changePlans env .savePlan (fun plans => .ok (Rows.update BackupPlan.id plan.id (fun _ => plan) plans))

def BackupPlanInput.build (owner : Uuid) (input : BackupPlanInput) : Except BackupServiceError BackupPlan := do
  let retention ← (RetentionPolicy.ofCopies input.retentionCopies).mapError invalid
  (BackupPlan.new cal env.planId owner input.name input.resources input.schedule input.timezone retention
    env.now).mapError invalid

def planArguments (id : Uuid) : List String := ["backup","run","--plan-id",id.hyphenated]

def cronInput (plan : BackupPlan) (workingRoot : String) : CronInput where
  name := "Backup: " ++ plan.name
  schedule := plan.schedule
  timezone := plan.timezone
  kind := "command"
  executable := some env.executable
  arguments := planArguments plan.id
  workingDirectory := some workingRoot
  url := none
  method := none
  timeoutSecs := 86400
  overlapPolicy := "skip"

def schedulePlan (owner : Uuid) (plan : BackupPlan) : Plans BackupPlan :=
  match scheduler with
  | none => return plan
  | some cron => do
    reads (fun _ => match env.fault .currentExe with
      | some message => .error (.internal message)
      | none => .ok ())
    let job ← onJobs (Cron.create cal cron.allowedRoots (env.fault .insertJob) env.jobId owner env.scheduledAt
      (cronInput env plan cron.workingRoot))
    return plan.linkCron job.id env.linkedAt

def createPlan (owner : Uuid) (input : BackupPlanInput) : Plans BackupPlan := do
  let plan ← reads (fun _ => input.build cal env owner)
  let plan ← schedulePlan cal scheduler env owner plan
  changePlans env .insertPlan (fun plans =>
    if plans.any (fun p => p.id == plan.id) then .error (.unique "backup_plans.id") else .ok (plans ++ [plan]))
  return plan

def updatePlan (owner : Uuid) (all : Bool) (id : Uuid) (update : BackupPlanUpdate) : Plans BackupPlan := do
  let plan ← plan env owner all id
  let retention ← reads (fun _ => match update.retentionCopies with
    | none => .ok none
    | some copies => ((RetentionPolicy.ofCopies copies).mapError invalid).map some)
  let plan ← reads (fun _ => (plan.update update.name retention env.now).mapError invalid)
  savePlan env plan
  return plan

def withJob (plan : BackupPlan) (prog : Uuid → Cron.Jobs Unit) : Plans Unit :=
  match plan.cronJobId,scheduler with
  | some cronId,some _ => onJobs (prog cronId)
  | _,_ => pure ()

def setEnabled (owner : Uuid) (all : Bool) (id : Uuid) (enabled : Bool) : Plans BackupPlan := do
  let plan ← plan env owner all id
  let plan := if enabled then plan.enable env.now else plan.disable env.now
  withJob scheduler plan (fun cronId => do
    let _ ← Cron.switch cal (env.fault .readJob) (env.fault .saveJob) env.scheduledAt owner all cronId enabled)
  savePlan env plan
  return plan

def deletePlan (owner : Uuid) (all : Bool) (id : Uuid) : Plans Unit := do
  let plan ← plan env owner all id
  withJob scheduler plan (Cron.delete (env.fault .readJob) (env.fault .deleteJob) owner all)
  changePlans env .deletePlan (fun plans => .ok (Rows.delete BackupPlan.id id plans))

inductive PlanCall where
  | create (owner : Uuid) (input : BackupPlanInput)
  | update (owner : Uuid) (all : Bool) (id : Uuid) (fields : BackupPlanUpdate)
  | setEnabled (owner : Uuid) (all : Bool) (id : Uuid) (enabled : Bool)
  | delete (owner : Uuid) (all : Bool) (id : Uuid)

def PlanCall.left (w : PlanWorld) : PlanCall → PlanWorld
  | .create owner input => (exec (createPlan cal scheduler env owner input) w).2
  | .update owner all id fields => (exec (updatePlan env owner all id fields) w).2
  | .setEnabled owner all id enabled => (exec (Backups.setEnabled cal scheduler env owner all id enabled) w).2
  | .delete owner all id => (exec (deletePlan scheduler env owner all id) w).2

end Calls

-- `Uuid::new_v4` draws no id that is in use.
def fire (cal : Calendar) (scheduler : Option Scheduler) (w : PlanWorld) (event : PlanCall × PlanEnv) : Option PlanWorld :=
  if event.2.planId ∈ w.plans.map BackupPlan.id ∨ event.2.jobId ∈ w.jobs.map JobRow.id then none
  else some (event.1.left cal scheduler event.2 w)

end OpenPanel.Backups
