import OpenPanel.CallPool
import OpenPanel.Rows
import OpenPanel.CronJob

/-! The cron service over its two tables, one step for each statement and for the
start and the end of an execution. A stored payload is the value it serializes. Any
statement may fail, which ends the call; the clock is read in no assumed order. Audit,
`create` and `delete` are left out. -/
namespace OpenPanel.Cron
open CallPool

structure JobRow where
  id : Uuid
  ownerId : Uuid
  payload : CronJob

structure RunRow where
  id : Uuid
  jobId : Uuid
  ownerId : Uuid
  payload : JobRun
  active : Bool
  createdAt : DateTime

/-- `issued` is not stored: it holds what `Uuid::new_v4` has returned so far. -/
structure Db where
  jobs : List JobRow
  runs : List RunRow
  issued : List Uuid

inductive CronServiceError where
  | validation (message : String)
  | notFound
  | persistence (error : DbError)
  deriving DecidableEq

def Db.get (db : Db) (ownerId : Uuid) (all : Bool) (id : Uuid) : Option CronJob :=
  (db.jobs.find? (fun r => r.id == id && (all || r.ownerId == ownerId))).map JobRow.payload

-- `ORDER BY id`: the text form of identifiers orders as their value.
def Db.list (db : Db) : List CronJob :=
  (db.jobs.insertionSort (fun a b => a.id ≤ b.id)).map JobRow.payload

def Db.save (db : Db) (job : CronJob) : Db :=
  {db with jobs := Rows.update JobRow.id job.id (fun r => {r with payload := job}) db.jobs}

def Db.activeRun (db : Db) (jobId : Uuid) : Bool :=
  (db.runs.filter (fun r => r.jobId == jobId)).any (fun r => !r.payload.isTerminal)

def Db.insertRun (db : Db) (ownerId : Uuid) (run : JobRun) (now : DateTime) : Except DbError Db :=
  if db.runs.any (fun r => r.id == run.id) then .error (.unique "cron_runs.id")
  else if !run.isTerminal && db.runs.any (fun r => r.jobId == run.jobId && r.active) then
    .error (.unique "cron_runs.job_id")
  else if !db.jobs.any (fun r => r.id == run.jobId) then .error .foreignKey
  else .ok {db with runs := db.runs ++ [⟨run.id,run.jobId,ownerId,run,!run.isTerminal,now⟩]}

def Db.updateRun (db : Db) (run : JobRun) : Db :=
  let write (r : RunRow) : RunRow := {r with payload := run, active := !run.isTerminal}
  {db with runs := Rows.update RunRow.id run.id write db.runs}

def Db.deleteRun (db : Db) (id : Uuid) : Db := {db with runs := Rows.delete RunRow.id id db.runs}

def Db.expired (db : Db) (now : DateTime) : List JobRun :=
  (db.runs.map RunRow.payload).filter (fun run => !run.isTerminal && decide (run.leaseUntil < now))

def Db.prunable (db : Db) (cutoff : DateTime) : List Uuid :=
  ((db.runs.filter (fun r => decide (r.createdAt < cutoff))).filter
    (fun r => r.payload.isTerminal)).map RunRow.id

structure CronUpdate where
  name : Option String
  schedule : Option String
  timezone : Option String
  timeoutSecs : Option Nat
  deriving DecidableEq

inductive Edit where
  | update (fields : CronUpdate)
  | setEnabled (enabled : Bool)
  deriving DecidableEq

def invalid (e : CronError) : CronServiceError := .validation e.message

def Edit.apply (cal : Calendar) (now : DateTime) (job : CronJob) : Edit → Except CronServiceError CronJob
  | .update fields =>
    match CronSchedule.parse cal (fields.schedule.getD job.schedule.expression)
        (fields.timezone.getD job.schedule.timezone) with
    | .error e => .error (invalid e)
    | .ok schedule =>
      match job.update cal (fields.name.getD job.name) schedule job.kind
          (fields.timeoutSecs.getD job.timeoutSecs) now with
      | (_,.error e) => .error (invalid e)
      | (job,.ok _) => .ok job
  | .setEnabled true =>
    match job.enable cal now with
    | (_,.error e) => .error (invalid e)
    | (job,.ok _) => .ok job
  | .setEnabled false => .ok (job.disable now)

inductive Outcome where
  | output (status : Option Int) (stdout stderr : List UInt8)
  | failed (message : String)
  | response (status : Nat) (body : Option (List UInt8))
  | elapsed

def cap (bytes : List UInt8) : List UInt8 := bytes.take (64 * 1024)

def settle (kind : JobKind) (run : JobRun) (now : DateTime) :
    Outcome → Option (Except CronError JobRun)
  | .output status stdout stderr =>
    match kind with
    | .command .. => some (run.complete now (status.getD (-1)) (cap stdout) (cap stderr))
    | .http .. => none
  | .failed message => some (run.complete now (-1) [] (cap message.toUTF8.toList))
  | .response status body =>
    match kind with
    | .command .. => none
    | .http .. => some (run.complete now (if 200 ≤ status ∧ status < 300 then 0 else status)
        ((body.map cap).getD []) [])
  | .elapsed => some (run.timeout now)

inductive Result where
  | ran (run : JobRun)
  | ticked (count : Nat)
  | edited (job : CronJob)
  | failed (error : CronServiceError)
  deriving DecidableEq

inductive Caller where
  | direct
  | tick (now : DateTime) (retention : Int) (count : Nat) (rest : List CronJob)
  deriving DecidableEq

inductive Pc where
  | get (ownerId : Uuid) (all : Bool) (id : Uuid) (caller : Caller)
  | scan (id : Uuid) (job : CronJob) (caller : Caller)
  | insertSkipped (ownerId : Uuid) (run : JobRun) (now : DateTime) (caller : Caller)
  | insertLeased (job : CronJob) (run : JobRun) (now : DateTime) (caller : Caller)
  | launch (job : CronJob) (run : JobRun) (caller : Caller)
  | executing (job : CronJob) (run : JobRun) (caller : Caller)
  | finish (run : JobRun) (caller : Caller)
  | recoverScan (now : DateTime) (retention : Int)
  | recover (now : DateTime) (retention : Int) (run : JobRun) (rest : List JobRun)
  | listDue (now : DateTime) (retention : Int)
  | save (now : DateTime) (retention : Int) (count : Nat) (job : CronJob) (rest : List CronJob)
  | pruneScan (now : DateTime) (retention : Int) (count : Nat)
  | prune (count : Nat) (id : Uuid) (rest : List Uuid)
  | edit (ownerId : Uuid) (all : Bool) (id : Uuid) (edit : Edit)
  | saveEdit (job : CronJob)
  | done (result : Result)
  deriving DecidableEq

def runNow (ownerId : Uuid) (all : Bool) (id : Uuid) : Pc := .get ownerId all id .direct
def tick (now : DateTime) (retention : Int) : Pc := .recoverScan now retention
def update (ownerId : Uuid) (all : Bool) (id : Uuid) (fields : CronUpdate) : Pc :=
  .edit ownerId all id (.update fields)
def setEnabled (ownerId : Uuid) (all : Bool) (id : Uuid) (enabled : Bool) : Pc :=
  .edit ownerId all id (.setEnabled enabled)

def entry : Pc → Bool
  | .get _ _ _ .direct | .recoverScan .. | .edit .. => true
  | _ => false

def nextDue (cal : Calendar) (now : DateTime) (retention : Int) (count : Nat) : List CronJob → Pc
  | [] => if 0 < retention then .pruneScan now retention count else .done (.ticked count)
  | job::rest =>
    match job.advance cal now with
    | (_,.error e) => .done (.failed (invalid e))
    | (job,.ok _) => .save now retention count job rest

def Caller.resume (cal : Calendar) (run : JobRun) : Caller → Pc
  | .direct => .done (.ran run)
  | .tick now retention count rest => nextDue cal now retention count rest

def recovering (now : DateTime) (retention : Int) : List JobRun → Pc
  | [] => .listDue now retention
  | run::rest => .recover now retention run rest

def pruning (count : Nat) : List Uuid → Pc
  | [] => .done (.ticked count)
  | id::rest => .prune count id rest

structure Env where
  now : DateTime := 0
  fresh : Uuid := 0
  fault : Option String := none
  setup : Option String := none
  outcome : Outcome := .elapsed

def Db.issue (db : Db) (id : Uuid) : Db := {db with issued := id::db.issued}

def fail (error : CronServiceError) : Pc := .done (.failed error)

def statement (cal : Calendar) (db : Db) (env : Env) : Pc → Option (Db × Pc)
  | .get ownerId all id caller =>
    match db.get ownerId all id with
    | none => some (db,fail .notFound)
    | some job => some (db,.scan id job caller)
  | .scan id job caller =>
    if env.fresh ∈ db.issued then none
    else if db.activeRun id then
      some (db.issue env.fresh,.insertSkipped job.ownerId (.skipped env.fresh id env.now) env.now caller)
    else match (JobRun.leased env.fresh id env.now (env.now + seconds 30)).start env.now with
      | .error e => some (db.issue env.fresh,fail (invalid e))
      | .ok run => some (db.issue env.fresh,.insertLeased job run env.now caller)
  | .insertSkipped ownerId run now caller =>
    match db.insertRun ownerId run now with
    | .error e => some (db,fail (.persistence e))
    | .ok db => some (db,caller.resume cal run)
  | .insertLeased job run now caller =>
    match db.insertRun job.ownerId run now with
    | .ok db => some (db,.launch job run caller)
    -- Told from other failures by the text "UNIQUE constraint failed".
    | .error (.unique _) =>
      if env.fresh ∈ db.issued then none
      else some (db.issue env.fresh,
        .insertSkipped job.ownerId (.skipped env.fresh run.jobId now) now caller)
    | .error e => some (db,fail (.persistence e))
  | .finish run caller => some (db.updateRun run,caller.resume cal run)
  | .recoverScan now retention => some (db,recovering now retention (db.expired now))
  | .recover now retention run rest =>
    match run.interrupt now with
    | .error e => some (db,fail (invalid e))
    | .ok run => some (db.updateRun run,recovering now retention rest)
  | .listDue now retention =>
    let due := db.list.filter (fun job => job.enabled && decide (job.nextRunAt ≤ now))
    some (db,nextDue cal now retention due.length due)
  | .save now retention count job rest =>
    some (db.save job,.get job.ownerId true job.id (.tick now retention count rest))
  | .pruneScan now retention count => some (db,pruning count (db.prunable (now - days retention)))
  | .prune count id rest => some (db.deleteRun id,pruning count rest)
  | .edit ownerId all id edit =>
    match db.get ownerId all id with
    | none => some (db,fail .notFound)
    | some job => match edit.apply cal env.now job with
      | .error e => some (db,fail e)
      | .ok job => some (db,.saveEdit job)
  | .saveEdit job => some (db.save job,.done (.edited job))
  | .launch .. | .executing .. | .done _ => none

def step (cal : Calendar) (db : Db) (pc : Pc) (env : Env) : Option (Db × Pc) :=
  match pc with
  | .done _ => none
  | .launch job run caller =>
    -- Only the HTTP arm can fail before it starts; the run then stays stored as running.
    match job.kind,env.setup with
    | .http ..,some message => some (db,fail (.validation message))
    | _,_ => some (db,.executing job run caller)
  | .executing job run caller =>
    match settle job.kind run env.now env.outcome with
    | none => none
    | some (.error e) => some (db,fail (invalid e))
    | some (.ok run) => some (db,.finish run caller)
  | pc =>
    match env.fault with
    | some message => some (db,fail (.persistence (.fault message)))
    | none => statement cal db env pc

def machine (cal : Calendar) : Machine Db Pc Env := ⟨entry,step cal⟩

end OpenPanel.Cron
