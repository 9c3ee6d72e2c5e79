import OpenPanel.Values

/-! Cron schedules, jobs and run records. Time zones, cron expressions and the
occurrences of a schedule come from the crates `chrono-tz` and `cron`: they are
parameters, with nothing assumed about them. A mutator returns the aggregate as
it leaves it, also when it fails. -/
namespace OpenPanel.Cron

inductive CronError where
  | invalidSchedule (detail : String)
  | invalidTimezone (name : String)
  | invalidWorkingDirectory
  | invalidExecutable
  | invalidJob (detail : String)
  | runTerminal
  | invalidRunTransition
  deriving DecidableEq

def CronError.message : CronError → String
  | .invalidSchedule detail => "invalid cron schedule: " ++ detail
  | .invalidTimezone name => "unknown timezone: " ++ name
  | .invalidWorkingDirectory => "invalid working directory"
  | .invalidExecutable => "invalid executable"
  | .invalidJob detail => "invalid job: " ++ detail
  | .runTerminal => "run is already terminal"
  | .invalidRunTransition => "invalid run transition"

structure Calendar where
  zone : String → Bool
  expression : String → Option String
  next : String → String → DateTime → Option DateTime

structure CronSchedule where
  expression : String
  timezone : String
  deriving DecidableEq

def CronSchedule.parse (cal : Calendar) (expression timezone : String) :
    Except CronError CronSchedule :=
  if splitWhitespaceCount expression ≠ 5 then .error (.invalidSchedule expression)
  else if cal.zone timezone = false then .error (.invalidTimezone timezone)
  else match cal.expression ("0 " ++ expression) with
    | some detail => .error (.invalidSchedule detail)
    | none => .ok ⟨expression,timezone⟩

def CronSchedule.nextAfter (cal : Calendar) (s : CronSchedule) (after : DateTime) :
    Except CronError DateTime :=
  if cal.zone s.timezone = false then .error (.invalidTimezone s.timezone)
  else match cal.expression ("0 " ++ s.expression) with
    | some detail => .error (.invalidSchedule detail)
    | none => match cal.next s.expression s.timezone after with
      | some next => .ok next
      | none => .error (.invalidSchedule "schedule has no future occurrence")

inductive JobKind where
  | command (executable : String) (arguments : List String) (workingDirectory : String)
  | http (url method : String)
  deriving DecidableEq

def isAbsolute (path : String) : Bool := path.toList.head? == some '/'

-- `Path::components` of an absolute path, behind its root.
def components (path : String) : List (List Char) :=
  (path.toList.splitOn '/').filter (fun part => part ≠ [] ∧ part ≠ ['.'])

def OwnedWorkingDirectory.new (path : String) (ownedRoots : List String) : Except CronError String :=
  if isAbsolute path = false ∨ ['.','.'] ∈ components path then .error .invalidWorkingDirectory
  else if ownedRoots.any (fun root => isAbsolute root && (components root).isPrefixOf (components path)) then .ok path
  else .error .invalidWorkingDirectory

def JobKind.newCommand (executable : String) (arguments : List String) (workingDirectory : String) :
    Except CronError JobKind :=
  if isAbsolute executable then .ok (.command executable arguments workingDirectory) else .error .invalidExecutable

def JobKind.newHttp (url method : String) : Except CronError JobKind :=
  if "http://".toList.isPrefixOf url.toList || "https://".toList.isPrefixOf url.toList then
    .ok (.http url (String.ofList (method.toList.map Char.toUpper)))
  else .error (.invalidJob "HTTP URL must use http or https")

inductive OverlapPolicy where | skip deriving DecidableEq

structure CronJob where
  id : Uuid
  ownerId : Uuid
  name : String
  schedule : CronSchedule
  kind : JobKind
  timeoutSecs : Nat
  overlapPolicy : OverlapPolicy
  enabled : Bool
  nextRunAt : DateTime
  createdAt : DateTime
  updatedAt : DateTime
  deriving DecidableEq

-- The check `new` and `update` share.
def acceptedFields (name : String) (timeout : Nat) : Bool :=
  !(trimIsEmpty name || timeout == 0 || decide (86400 < timeout))

def fieldError : CronError := .invalidJob "name and timeout must be valid"

def CronJob.new (cal : Calendar) (id ownerId : Uuid) (name : String) (schedule : CronSchedule)
    (kind : JobKind) (timeout : Nat) (overlapPolicy : OverlapPolicy) (now : DateTime) :
    Except CronError CronJob :=
  if acceptedFields name timeout = false then .error fieldError
  else match schedule.nextAfter cal now with
    | .error e => .error e
    | .ok next => .ok ⟨id,ownerId,name,schedule,kind,timeout,overlapPolicy,true,next,now,now⟩

def CronJob.disable (job : CronJob) (now : DateTime) : CronJob :=
  {job with enabled := false, updatedAt := now}

def CronJob.enable (cal : Calendar) (job : CronJob) (now : DateTime) :
    CronJob × Except CronError Unit :=
  let job := {job with enabled := true}
  match job.schedule.nextAfter cal now with
  | .error e => (job,.error e)
  | .ok next => ({job with nextRunAt := next, updatedAt := now},.ok ())

def CronJob.update (cal : Calendar) (job : CronJob) (name : String) (schedule : CronSchedule)
    (kind : JobKind) (timeout : Nat) (now : DateTime) : CronJob × Except CronError Unit :=
  if acceptedFields name timeout = false then (job,.error fieldError)
  else
    let job := {job with name := name, schedule := schedule, kind := kind, timeoutSecs := timeout}
    match job.schedule.nextAfter cal now with
    | .error e => (job,.error e)
    | .ok next => ({job with nextRunAt := next, updatedAt := now},.ok ())

def CronJob.advance (cal : Calendar) (job : CronJob) (after : DateTime) :
    CronJob × Except CronError Unit :=
  match job.schedule.nextAfter cal after with
  | .error e => (job,.error e)
  | .ok next => ({job with nextRunAt := next, updatedAt := after},.ok ())

structure Settings where
  enabled : Bool
  name : String
  schedule : CronSchedule
  timeoutSecs : Nat

def CronJob.settings (job : CronJob) : Settings :=
  ⟨job.enabled,job.name,job.schedule,job.timeoutSecs⟩

theorem advanceKeeps (cal) (job : CronJob) (after) :
    (job.advance cal after).1.settings = job.settings ∧ (job.advance cal after).1.id = job.id := by
  unfold CronJob.advance
  split <;> exact ⟨rfl,rfl⟩

inductive RunState where
  | leased | running | succeeded | failed | timedOut | skipped | interrupted
  deriving DecidableEq

def RunState.terminal : RunState → Bool
  | .leased | .running => false
  | _ => true

structure JobRun where
  id : Uuid
  jobId : Uuid
  state : RunState
  leasedAt : DateTime
  leaseUntil : DateTime
  startedAt : Option DateTime
  finishedAt : Option DateTime
  exitCode : Option Int
  stdout : List UInt8
  stderr : List UInt8
  deriving DecidableEq

def JobRun.isTerminal (run : JobRun) : Bool := run.state.terminal

def JobRun.leased (id jobId : Uuid) (now leaseUntil : DateTime) : JobRun :=
  ⟨id,jobId,.leased,now,leaseUntil,none,none,none,[],[]⟩

def JobRun.skipped (id jobId : Uuid) (now : DateTime) : JobRun :=
  ⟨id,jobId,.skipped,now,now,none,some now,none,[],[]⟩

def JobRun.start (run : JobRun) (now : DateTime) : Except CronError JobRun :=
  if run.state ≠ .leased then .error .invalidRunTransition
  else .ok {run with state := .running, startedAt := some now}

def JobRun.ensureActive (run : JobRun) : Except CronError Unit :=
  if run.state.terminal then .error .runTerminal else .ok ()

def JobRun.complete (run : JobRun) (now : DateTime) (exitCode : Int) (stdout stderr : List UInt8) :
    Except CronError JobRun := do
  run.ensureActive
  return {run with
    state := if exitCode = 0 then .succeeded else .failed
    finishedAt := some now
    exitCode := some exitCode
    stdout := stdout
    stderr := stderr}

def JobRun.finish (run : JobRun) (state : RunState) (now : DateTime) : Except CronError JobRun := do
  run.ensureActive
  return {run with state := state, finishedAt := some now}

def JobRun.timeout (run : JobRun) (now : DateTime) : Except CronError JobRun := run.finish .timedOut now
def JobRun.interrupt (run : JobRun) (now : DateTime) : Except CronError JobRun :=
  run.finish .interrupted now

structure Verdict where
  state : RunState
  exitCode : Option Int
  stdout : List UInt8
  stderr : List UInt8

def JobRun.verdict (run : JobRun) : Verdict := ⟨run.state,run.exitCode,run.stdout,run.stderr⟩

theorem activeOnly {run : JobRun} (ok : run.ensureActive = .ok u) : run.isTerminal = false := by
  unfold JobRun.ensureActive at ok
  split at ok <;> try contradiction
  rename_i open_
  simpa [JobRun.isTerminal] using open_

theorem finished {run out : JobRun} (ok : run.finish state now = .ok out) :
    run.isTerminal = false ∧ out = {run with state := state, finishedAt := some now} := by
  simp only [JobRun.finish,bind,Except.bind] at ok
  split at ok <;> try contradiction
  rename_i active
  cases ok
  exact ⟨activeOnly active,rfl⟩

theorem completed {run out : JobRun} (ok : run.complete now code stdout stderr = .ok out) :
    run.isTerminal = false ∧ out.isTerminal = true ∧ out.id = run.id ∧ out.jobId = run.jobId ∧ out.leaseUntil = run.leaseUntil := by
  simp only [JobRun.complete,bind,Except.bind] at ok
  split at ok <;> try contradiction
  rename_i active
  cases ok
  refine ⟨activeOnly active,?_,rfl,rfl,rfl⟩
  split <;> rfl

end OpenPanel.Cron
