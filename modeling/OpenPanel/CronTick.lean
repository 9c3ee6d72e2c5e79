import OpenPanel.CronEdits
import OpenPanel.CronMutators
import OpenPanel.Fallible

/-! One tick with no other call beside it: `tick`, `run_now` and `recover_expired`
over the statements of the interleaved service. What the environment answers is given
for each job. `started` is history: the jobs whose command was started or whose request
was sent. An outcome only the other kind of job has is read as the time running out. -/
namespace OpenPanel.Cron
open Fallible

structure RunAnswers where
  get : Option String := none
  scan : Option String := none
  insert : Option String := none
  insertSkipped : Option String := none
  setup : Option String := none
  finish : Option String := none
  now : DateTime := 0
  finishedAt : DateTime := 0
  fresh : Uuid := 0
  freshSkipped : Uuid := 0
  outcome : Outcome := .elapsed

structure JobAnswers where
  save : Option String := none
  run : RunAnswers := {}

structure TickAnswers where
  recoverScan : Option String
  recover : Uuid → Option String
  list : Option String
  job : Uuid → JobAnswers
  pruneScan : Option String
  prune : Uuid → Option String

structure Book where
  db : Db
  started : List Uuid

abbrev Service (α : Type) := Prog Book CronServiceError α

def query {α : Type} (fault : Option String) (f : Db → Except CronServiceError α) : Service α :=
  reads (fun b => match fault with
    | some message => .error (.persistence (.fault message))
    | none => f b.db)

def execute {α : Type} (fault : Option String) (f : Db → Except CronServiceError (α × Db)) : Service α :=
  attempt (fun b => match fault with
    | some message => .error (.persistence (.fault message))
    | none => (f b.db).map (fun result => (result.1,{b with db := result.2})))

def write (fault : Option String) (f : Db → Db) : Service Unit := execute fault (fun db => .ok ((),f db))

def noted (id : Uuid) : Service Unit := attempt (fun b => .ok ((),{b with started := b.started ++ [id]}))

def checked {α : Type} (result : Except CronError α) : Service α := reads (fun _ => result.mapError invalid)

def insertRun (fault : Option String) (ownerId : Uuid) (run : JobRun) (now : DateTime) : Service Unit :=
  execute fault (fun db => ((db.insertRun ownerId run now).mapError .persistence).map (fun db => ((),db)))

def insertLeased (fault : Option String) (ownerId : Uuid) (run : JobRun) (now : DateTime) : Service Bool :=
  execute fault (fun db => match db.insertRun ownerId run now with
    | .ok db => .ok (true,db)
    | .error (.unique _) => .ok (false,db)
    | .error e => .error (.persistence e))

def skip (fault : Option String) (ownerId : Uuid) (run : JobRun) (now : DateTime) : Service JobRun := do
  insertRun fault ownerId run now
  return run

def executed (answers : RunAnswers) (job : CronJob) (run : JobRun) : Service JobRun := do
  reads (fun _ => match job.kind,answers.setup with
    | .http ..,some message => .error (.validation message)
    | _,_ => .ok ())
  noted run.jobId
  let run ← checked ((settle job.kind run answers.finishedAt answers.outcome).getD (run.timeout answers.finishedAt))
  write answers.finish (·.updateRun run)
  return run

def runNowAlone (answers : RunAnswers) (ownerId : Uuid) (all : Bool) (id : Uuid) : Service JobRun := do
  let job ← query answers.get (fun db => match db.get ownerId all id with
    | none => .error .notFound
    | some job => .ok job)
  let active ← query answers.scan (fun db => .ok (db.activeRun id))
  if active then skip answers.insertSkipped job.ownerId (.skipped answers.fresh id answers.now) answers.now
  else do
    let run ← checked ((JobRun.leased answers.fresh id answers.now (answers.now + seconds 30)).start answers.now)
    let inserted ← insertLeased answers.insert job.ownerId run answers.now
    if inserted then executed answers job run
    else skip answers.insertSkipped job.ownerId (.skipped answers.freshSkipped id answers.now) answers.now

variable (cal : Calendar) (answers : TickAnswers) (now : DateTime)

def advanced (job : CronJob) : Except CronError CronJob :=
  match job.advance cal now with
  | (_,.error e) => .error e
  | (job,.ok _) => .ok job

def serveJob (job : CronJob) : Service Unit := do
  let job ← checked (advanced cal now job)
  write (answers.job job.id).save (·.save job)
  let _ ← runNowAlone (answers.job job.id).run job.ownerId true job.id
  return ()

def serveDue : List CronJob → Service Unit
  | [] => return ()
  | job::rest => do
    serveJob cal answers now job
    serveDue rest

def recoverRuns : List JobRun → Service Unit
  | [] => return ()
  | run::rest => do
    let run ← checked (run.interrupt now)
    write (answers.recover run.id) (·.updateRun run)
    recoverRuns rest

def recoverExpired : Service Unit := do
  let runs ← query answers.recoverScan (fun db => .ok (db.expired now))
  recoverRuns answers now runs

def pruneRuns : List Uuid → Service Unit
  | [] => return ()
  | id::rest => do
    write (answers.prune id) (·.deleteRun id)
    pruneRuns rest

def pruneRetention (retention : Int) : Service Unit :=
  if 0 < retention then do
    let ids ← query answers.pruneScan (fun db => .ok (db.prunable (now - days retention)))
    pruneRuns answers ids
  else return ()

def Db.due (db : Db) : List CronJob := db.list.filter (fun job => job.enabled && decide (job.nextRunAt ≤ now))

def tickAlone (retention : Int) : Service Nat := do
  recoverExpired answers now
  let due ← query answers.list (fun db => .ok (db.due now))
  serveDue cal answers now due
  pruneRetention answers now retention
  return due.length

section Isolation

-- A run of the job that is not finished and whose lease recovery leaves alone.
def Waiting (db : Db) (id : Uuid) : Prop :=
  ∃ row ∈ db.runs, row.jobId = id ∧ row.payload.isTerminal = false ∧ ¬ row.payload.leaseUntil < now

def SetUp (run : RunAnswers) (kind : JobKind) : Prop := ∀ url method, kind = .http url method → run.setup = none

/-- No run is in the way, and the steps up to the start of the execution report no error. -/
structure Runs (run : RunAnswers) (kind : JobKind) (waiting : Prop) : Prop where
  get : run.get = none
  scan : run.scan = none
  free : ¬ waiting
  insert : run.insert = none
  setup : SetUp run kind

def Fails (run : RunAnswers) (kind : JobKind) (waiting : Prop) : Prop :=
  run.get ≠ none ∨ run.scan ≠ none ∨ (waiting ∧ run.insertSkipped ≠ none) ∨
  (¬ waiting ∧ (run.insert ≠ none ∨ ¬ SetUp run kind ∨ run.finish ≠ none))

/-- Every own step of the job up to its execution can be taken. -/
structure Viable (db : Db) (job : CronJob) : Prop where
  advance : (advanced cal now job).isOk = true
  save : (answers.job job.id).save = none
  runs : Runs (answers.job job.id).run job.kind (Waiting now db job.id)

/-- Some step of the job reports an error. -/
def Stops (db : Db) (job : CronJob) : Prop :=
  (advanced cal now job).isOk = false ∨ (answers.job job.id).save ≠ none ∨
  Fails (answers.job job.id).run job.kind (Waiting now db job.id)

def Served (b : Book) (job : CronJob) : Prop :=
  b.started.count job.id = 1 ∧ ∃ row ∈ b.db.jobs, row.id = job.id ∧ now < row.payload.nextRunAt

structure Prepared (db : Db) : Prop where
  scan : answers.recoverScan = none
  recover : ∀ run ∈ db.expired now, answers.recover run.id = none
  list : answers.list = none

def Undisturbed (db : Db) : Prop := (∀ job ∈ db.due now, ¬ Viable cal answers now db job) ∨
  Prepared answers now db ∧ (db.due now).Pairwise (fun job later => Stops cal answers now db job → ¬ Viable cal answers now db later)

-- The identifiers drawn for the runs are new and differ from each other.
structure Minted (db : Db) : Prop where
  new : ∀ job ∈ db.due now, ∀ row ∈ db.runs, row.id ≠ (answers.job job.id).run.fresh
  apart : (db.due now).Pairwise (fun a b => (answers.job a.id).run.fresh ≠ (answers.job b.id).run.fresh)

variable {cal answers now} {job saved : CronJob} {id fresh drawn other : Uuid} {waiting : Prop} {run : RunAnswers} {b mid next : Book} {db : Db}

theorem advancedOk (ok : advanced cal now job = .ok saved) : saved.id = job.id ∧ saved.ownerId = job.ownerId ∧ saved.kind = job.kind ∧
    job.schedule.nextAfter cal now = .ok saved.nextRunAt := by
  unfold advanced at ok
  cases found : job.schedule.nextAfter cal now with
  | error e =>
    rw [advanceError found] at ok
    cases ok
  | ok later =>
    rw [advanceOk found] at ok
    cases ok
    exact ⟨rfl,rfl,rfl,rfl⟩

/-- What the turn of one job may change: its own row, its own entry of the history and one new run of it. -/
structure Beside (fresh id : Uuid) (b next : Book) : Prop where
  jobs : ∀ row : JobRow, row.id ≠ id → (row ∈ next.db.jobs ↔ row ∈ b.db.jobs)
  keys : next.db.jobs.map JobRow.id = b.db.jobs.map JobRow.id
  started : ∀ other, other ≠ id → next.started.count other = b.started.count other
  runs : next.db.runs = b.db.runs ∨ ∃ row, row.id = fresh ∧ row.jobId = id ∧ next.db.runs = b.db.runs ++ [row]

structure Ready (fresh id : Uuid) (waiting : Prop) (b : Book) : Prop where
  unique : Rows.Unique JobRow.id b.db.jobs
  there : id ∈ b.db.jobs.map JobRow.id
  active : b.db.activeRun id = true ↔ waiting
  flags : ∀ row ∈ b.db.runs, row.jobId = id → row.active = !row.payload.isTerminal
  fresh : ∀ row ∈ b.db.runs, row.id ≠ fresh
  unstarted : id ∉ b.started

abbrev Due (answers : TickAnswers) (now : DateTime) (db : Db) (b : Book) (job : CronJob) : Prop :=
  Ready (answers.job job.id).run.fresh job.id (Waiting now db job.id) b

theorem besideRefl (fresh id) (b) : Beside fresh id b b := ⟨fun _ _ => Iff.rfl,rfl,fun _ _ => rfl,.inl rfl⟩

theorem besideReady (beside : Beside drawn id b next) (apart : other ≠ id) (distinct : drawn ≠ fresh)
    (ready : Ready fresh other waiting b) : Ready fresh other waiting next := by
  have unstarted : other ∉ next.started := by
    rw [← List.count_eq_zero,beside.started _ apart,List.count_eq_zero]
    exact ready.unstarted
  have unique : Rows.Unique JobRow.id next.db.jobs := by
    rw [Rows.Unique,beside.keys]
    exact ready.unique
  have there := beside.keys ▸ ready.there
  rcases beside.runs with same | ⟨row,own,of,more⟩
  · exact ⟨unique,there,by rw [Db.activeRun,same]; exact ready.active,same ▸ ready.flags,same ▸ ready.fresh,unstarted⟩
  · have away : row.jobId ≠ other := fun same => apart (same.symm.trans of)
    refine ⟨unique,there,?_,?_,?_,unstarted⟩
    · rw [← ready.active,Db.activeRun,Db.activeRun,more,List.filter_append,List.filter_cons_of_neg (by simpa using away),
        List.filter_nil,List.append_nil]
    · rw [more,List.forall_mem_append]
      exact ⟨ready.flags,by simp [away]⟩
    · rw [more,List.forall_mem_append]
      exact ⟨ready.fresh,by simpa [own] using distinct⟩

theorem besideServed (beside : Beside fresh id b next) (apart : job.id ≠ id) : Served now next job ↔ Served now b job := by
  unfold Served
  rw [beside.started _ apart]
  refine and_congr_right (fun _ => exists_congr (fun row => ?_))
  constructor
  · exact fun ⟨mem,same,later⟩ => ⟨(beside.jobs row (fun hit => apart (same.symm.trans hit))).mp mem,same,later⟩
  · exact fun ⟨mem,same,later⟩ => ⟨(beside.jobs row (fun hit => apart (same.symm.trans hit))).mpr mem,same,later⟩

theorem insertOk {run : JobRun} (new : ∀ row ∈ db.runs, row.id ≠ run.id)
    (index : run.isTerminal = false → ∀ row ∈ db.runs, row.jobId = run.jobId → row.active = false)
    (there : run.jobId ∈ db.jobs.map JobRow.id) (ownerId) (at_) :
    db.insertRun ownerId run at_ = .ok {db with runs := db.runs ++ [⟨run.id,run.jobId,ownerId,run,!run.isTerminal,at_⟩]} := by
  obtain ⟨row,mem,same⟩ := List.mem_map.mp there
  unfold Db.insertRun
  rw [if_neg (by simpa using new),if_neg ?_,if_neg ?_]
  · simpa using ⟨row,mem,same⟩
  · cases terminal : run.isTerminal with
    | true => simp
    | false => simpa [terminal] using index terminal

theorem settlesOk {run : JobRun} (open_ : run.isTerminal = false) (kind) (at_) (outcome) :
    ∃ out, (settle kind run at_ outcome).getD (run.timeout at_) = .ok out ∧ out.id = run.id := by
  have active : run.ensureActive = .ok () := if_neg (by simpa [JobRun.isTerminal] using open_)
  cases outcome <;> cases kind <;>
    simp [settle,JobRun.timeout,JobRun.finish,JobRun.complete,active,bind,Except.bind,pure,Except.pure]

theorem updateNew {rows : List RunRow} (new : ∀ row ∈ rows, row.id ≠ last.id) (f) :
    Rows.update RunRow.id last.id f (rows ++ [last]) = rows ++ [f last] := by
  have rest : Rows.update RunRow.id last.id f rows = rows := Rows.updateSame (fun row mem hit => absurd hit (new row mem))
  unfold Rows.update at rest ⊢
  rw [List.map_append,rest]
  simp

section Statements

variable {α β : Type} {f : Db → Except CronServiceError α} {g : Db → Except CronServiceError (α × Db)} {next : α → Service β}

theorem queried (clear : f b.db = .ok a) (done : fault = none → Ends (next a) b post failed)
    (stopped : fault ≠ none → ∀ e, failed e b) : Ends (query fault f >>= next) b post failed := by
  cases fault with
  | none => exact .andThen (.knows clear (done rfl))
  | some message => exact .asks nofun (fun e _ => stopped nofun e)

theorem wrote (clear : g b.db = .ok (a,after)) (done : fault = none → Ends (next a) {b with db := after} post failed)
    (stopped : fault ≠ none → ∀ e, failed e b) : Ends (execute fault g >>= next) b post failed := by
  refine .andThen (.attempts (fun _ mid ok => ?_) (fun e error => ?_))
  · cases fault with
    | none =>
      simp only [clear] at ok
      cases ok
      exact done rfl
    | some message => cases ok
  · cases fault with
    | none =>
      simp only [clear] at error
      cases error
    | some message => exact stopped nofun e

end Statements

-- The new run stays the last row, with what became of it.
def Leased (front : List RunRow) (leased : JobRun) (b next : Book) : Prop := next.db.jobs = b.db.jobs ∧
  ∃ row, row.id = leased.id ∧ row.jobId = leased.jobId ∧ next.db.runs = front ++ [row]

theorem executedEnds {leased : JobRun} (open_ : leased.isTerminal = false) (new : ∀ row ∈ front, row.id ≠ leased.id)
    (last : b.db.runs = front ++ [row]) (own : row.id = leased.id) (of : row.jobId = leased.jobId) : Ends (executed run job leased) b
      (fun _ next => Leased front leased b next ∧ next.started = b.started ++ [leased.jobId] ∧ SetUp run job.kind ∧ run.finish = none)
      (fun _ next => Leased front leased b next ∧ (¬ SetUp run job.kind ∧ next.started = b.started ∨
        run.finish ≠ none ∧ next.started = b.started ++ [leased.jobId])) := by
  have still : Leased front leased b b := ⟨rfl,row,own,of,last⟩
  refine .asks (fun _ ok => ?_) (fun e failed => ⟨still,.inl ⟨fun setup => ?_,rfl⟩⟩)
  · have setup : SetUp run job.kind := by
      intro url method http
      cases fault : run.setup with
      | none => rfl
      | some message => simp [http,fault] at ok
    refine .andThen (.attempts (fun _ mid ok => ?_) nofun)
    cases ok
    obtain ⟨out,settles,same⟩ := settlesOk open_ job.kind run.finishedAt run.outcome
    refine .andThen (.knows (by rw [settles]; rfl) ?_)
    refine wrote rfl (fun finish => .returns ⟨⟨rfl,{row with payload := out, active := !out.isTerminal},own,of,?_⟩,rfl,setup,finish⟩)
      (fun fault _ => ⟨still,.inr ⟨fault,rfl⟩⟩)
    change Rows.update RunRow.id out.id _ b.db.runs = _
    rw [same,last,← own]
    exact updateNew (own ▸ new) _
  · cases kind : job.kind with
    | http url method => simp [kind,setup url method kind] at failed
    | command => simp [kind] at failed

/-- The run of a job that is there: what it reports, and that it is started when its own steps allow it. -/
theorem runNowEnds (ready : Ready run.fresh id waiting b) (found : b.db.get ownerId true id = some job) :
    Ends (runNowAlone run ownerId true id) b
      (fun _ next => (Beside run.fresh id b next ∧ next.db.jobs = b.db.jobs) ∧
        (Runs run job.kind waiting → next.started = b.started ++ [id]) ∧ ¬ Fails run job.kind waiting)
      (fun _ next => (Beside run.fresh id b next ∧ next.db.jobs = b.db.jobs) ∧
        (Runs run job.kind waiting → next.started = b.started ++ [id]) ∧ Fails run job.kind waiting) := by
  have still : Beside run.fresh id b b ∧ b.db.jobs = b.db.jobs := ⟨besideRefl _ _ b,rfl⟩
  refine queried (by simp only [found]; rfl) (fun get => ?_) (fun fault _ => ⟨still,fun runs => absurd runs.get fault,.inl fault⟩)
  refine queried rfl (fun scan => ?_) (fun fault _ => ⟨still,fun runs => absurd runs.scan fault,.inr (.inl fault)⟩)
  refine .branch (fun busy => ?_) (fun idle => ?_)
  · have hold := ready.active.mp busy
    have ok := @insertOk b.db (.skipped run.fresh id run.now) ready.fresh nofun ready.there
    refine wrote (by rw [ok]; rfl) (fun insert => .returns ?_) (fun fault _ => ?_)
    · exact ⟨⟨⟨fun _ _ => Iff.rfl,rfl,fun _ _ => rfl,.inr ⟨_,rfl,rfl,rfl⟩⟩,rfl⟩,fun runs => absurd hold runs.free,
        by simp [Fails,get,scan,hold,insert]⟩
    · exact ⟨still,fun runs => absurd hold runs.free,.inr (.inr (.inl ⟨hold,fault⟩))⟩
  · have free := ready.active.not.mp idle
    obtain ⟨leased,starts,own,of,open_⟩ : ∃ leased : JobRun, (JobRun.leased run.fresh id run.now (run.now + seconds 30)).start run.now =
      .ok leased ∧ leased.id = run.fresh ∧ leased.jobId = id ∧ leased.isTerminal = false := ⟨_,rfl,rfl,rfl,rfl⟩
    refine .andThen (.knows (by rw [starts]; rfl) ?_)
    have new : ∀ row ∈ b.db.runs, row.id ≠ leased.id := own ▸ ready.fresh
    have index : ∀ row ∈ b.db.runs, row.jobId = leased.jobId → row.active = false := by
      intro row mem same
      have done : ∀ row ∈ b.db.runs, row.jobId = id → row.payload.isTerminal = true := by simpa [Db.activeRun] using idle
      rw [ready.flags row mem (same.trans of),done row mem (same.trans of)]
      rfl
    have inserted := insertOk new (fun _ => index) (of ▸ ready.there)
    refine wrote (by rw [inserted]) (fun insert => ?_)
      (fun fault _ => ⟨still,fun runs => absurd runs.insert fault,.inr (.inr (.inr ⟨free,.inl fault⟩))⟩)
    have beside : ∀ next, Leased b.db.runs leased b next → next.started = b.started ∨ next.started = b.started ++ [leased.jobId] →
        Beside run.fresh id b next ∧ next.db.jobs = b.db.jobs := by
      rintro next ⟨jobs,row,same,ofJob,more⟩ log
      refine ⟨⟨fun _ _ => by rw [jobs],by rw [jobs],fun other apart => ?_,.inr ⟨row,same.trans own,ofJob.trans of,more⟩⟩,jobs⟩
      rcases log with same | more
      · rw [same]
      · simp [more,of,Ne.symm apart]
    refine (executedEnds open_ new rfl rfl rfl).weaken ?_ ?_
    · rintro _ next ⟨stays,log,setup,finish⟩
      exact ⟨beside next stays (.inr log),fun _ => of ▸ log,by simp [Fails,get,scan,free,insert,setup,finish]⟩
    · rintro e next ⟨stays,⟨setup,log⟩ | ⟨finish,log⟩⟩
      · exact ⟨beside next stays (.inl log),fun runs => absurd runs.setup setup,.inr (.inr (.inr ⟨free,.inr (.inl setup)⟩))⟩
      · exact ⟨beside next stays (.inr log),fun _ => of ▸ log,.inr (.inr (.inr ⟨free,.inr (.inr finish)⟩))⟩

theorem serveJobEnds (forward : cal.Forward) (ready : Due answers now db b job) :
    Ends (serveJob cal answers now job) b
      (fun _ next => Beside (answers.job job.id).run.fresh job.id b next ∧ (Viable cal answers now db job → Served now next job) ∧
        ¬ Stops cal answers now db job)
      (fun _ next => Beside (answers.job job.id).run.fresh job.id b next ∧ (Viable cal answers now db job → Served now next job) ∧
        Stops cal answers now db job) := by
  cases advance : advanced cal now job with
  | error e =>
    have fault : (advanced cal now job).isOk = false := by rw [advance]; rfl
    refine .asks (fun saved ok => ?_) (fun _ _ => ⟨besideRefl _ _ b,fun viable => ?_,.inl fault⟩)
    · rw [advance] at ok
      cases ok
    · rw [viable.advance] at fault
      cases fault
  | ok saved =>
    obtain ⟨same,_,kind,found⟩ := advancedOk advance
    have fine : (advanced cal now job).isOk = true := by rw [advance]; rfl
    refine .andThen (.knows (by rw [advance]; rfl) ?_)
    rw [same]
    refine wrote rfl (fun save => ?_) (fun fault _ => ⟨besideRefl _ _ b,fun viable => absurd viable.save fault,.inr (.inl fault)⟩)
    have keys : (b.db.save saved).jobs.map JobRow.id = b.db.jobs.map JobRow.id := Rows.updateKeys (fun _ _ => rfl)
    have saves : Beside (answers.job job.id).run.fresh job.id b {b with db := b.db.save saved} := by
      refine ⟨fun row apart => ⟨fun mem => ?_,fun mem => ?_⟩,keys,fun _ _ => rfl,.inl rfl⟩
      · obtain ⟨old,_⟩ | ⟨old,_,hit,rfl⟩ := memSave mem
        · exact old
        · exact absurd (hit.trans same) apart
      · exact Rows.updateOther mem (fun hit => apart (hit.trans same))
    obtain ⟨row,mem,id⟩ := List.mem_map.mp ready.there
    have written : {row with payload := saved} ∈ (b.db.save saved).jobs := Rows.updateHit mem (id.trans same.symm)
    have kept : Due answers now db {b with db := b.db.save saved} job :=
      ⟨by rw [Rows.Unique,keys]; exact ready.unique,keys ▸ ready.there,ready.active,ready.flags,ready.fresh,ready.unstarted⟩
    have got : (b.db.save saved).get saved.ownerId true job.id = some saved := by
      have only := Rows.findOnly (p := fun r : JobRow => r.id == job.id && (true || r.ownerId == saved.ownerId)) written (by simp [id])
        (fun other mem hit => Rows.equalOfKey kept.unique mem written (by simpa [id] using hit))
      rw [Db.get,only]
      rfl
    have serves : ∀ next : Book, next.db.jobs = (b.db.save saved).jobs → next.started = b.started ++ [job.id] → Served now next job := by
      intro next jobs log
      exact ⟨by simp [log,List.count_eq_zero_of_not_mem ready.unstarted],{row with payload := saved},jobs ▸ written,id,nextLater forward found⟩
    have whole : ∀ next, Beside (answers.job job.id).run.fresh job.id {b with db := b.db.save saved} next →
        Beside (answers.job job.id).run.fresh job.id b next := fun next ran =>
      ⟨fun row apart => (ran.jobs row apart).trans (saves.jobs row apart),ran.keys.trans saves.keys,ran.started,ran.runs⟩
    refine .after (runNowEnds kept got) (fun _ next done => .returns ?_) (fun _ next done => ?_)
    · obtain ⟨⟨ran,jobs⟩,log,clear⟩ := done
      rw [kind] at log clear
      exact ⟨whole next ran,fun viable => serves next jobs (log viable.runs),by simp [Stops,fine,save,clear]⟩
    · obtain ⟨⟨ran,jobs⟩,log,fault⟩ := done
      rw [kind] at log fault
      exact ⟨whole next ran,fun viable => serves next jobs (log viable.runs),.inr (.inr fault)⟩

/-- The jobs of the loop are served as the condition says, and no other job is served or lost by it. -/
theorem serveDueServes (forward : cal.Forward) (apart : (rest.map CronJob.id).Nodup)
    (drawn : rest.Pairwise (fun a b => (answers.job a.id).run.fresh ≠ (answers.job b.id).run.fresh))
    (ready : ∀ job ∈ rest, Due answers now db b job) :
    ((∀ job ∈ rest, Viable cal answers now db job → Served now (exec (serveDue cal answers now rest) b).2 job) ↔
      rest.Pairwise (fun job later => Stops cal answers now db job → ¬ Viable cal answers now db later)) ∧
    ∀ job : CronJob, job.id ∉ rest.map CronJob.id → (Served now (exec (serveDue cal answers now rest) b).2 job ↔ Served now b job) := by
  induction rest generalizing b with
  | nil => exact ⟨by simp,fun _ _ => Iff.rfl⟩
  | cons job rest ih =>
    rw [List.map_cons,List.nodup_cons] at apart
    rw [List.forall_mem_cons] at ready
    rw [List.pairwise_cons] at drawn
    have turn := serveJobEnds forward ready.1
    have later : ∀ mid, Beside (answers.job job.id).run.fresh job.id b mid →
        ∀ other ∈ rest, Due answers now db mid other := fun mid beside other mem =>
      besideReady beside (fun same => apart.1 (same ▸ List.mem_map_of_mem mem)) (drawn.1 other mem) (ready.2 other mem)
    rw [serveDue,execBind,List.forall_mem_cons,List.pairwise_cons]
    rcases ran : exec (serveJob cal answers now job) b with ⟨e | _,mid⟩
    · obtain ⟨beside,own,stops⟩ := turn.stopped ran
      have unserved : ∀ other ∈ rest, ¬ Served now mid other := fun other mem served => by
        have once := served.1
        rw [List.count_eq_zero_of_not_mem (later mid beside other mem).unstarted] at once
        cases once
      refine ⟨⟨fun all => ?_,fun none => ⟨own,fun other mem viable => absurd viable (none.1 other mem stops)⟩⟩,fun other away => ?_⟩
      · have none : ∀ other ∈ rest, ¬ Viable cal answers now db other := fun other mem viable => unserved other mem (all.2 other mem viable)
        exact ⟨fun other mem _ => none other mem,List.pairwise_of_forall_mem_list (fun _ _ other mem _ => none other mem)⟩
      · exact besideServed beside (fun same => away (same ▸ List.mem_cons_self))
    · obtain ⟨beside,own,goes⟩ := turn.reached ran
      obtain ⟨condition,others⟩ := ih apart.2 drawn.2 (later mid beside)
      refine ⟨?_,fun other away => (others other (fun mem => away (List.mem_cons_of_mem _ mem))).trans
        (besideServed beside (fun same => away (same ▸ List.mem_cons_self)))⟩
      simp only
      rw [← condition]
      exact ⟨fun all => ⟨fun _ _ stops => absurd stops goes,all.2⟩,fun all => ⟨fun viable => (others job apart.1).mpr (own viable),all.2⟩⟩

theorem pruneKeeps (retention) (b : Book) : Leaves (pruneRetention answers now retention) b
    (fun next => next.db.jobs = b.db.jobs ∧ next.started = b.started) := by
  have each : ∀ ids (b : Book), Leaves (pruneRuns answers ids) b (fun next => next.db.jobs = b.db.jobs ∧ next.started = b.started) := by
    intro ids
    induction ids with
    | nil => exact fun b => .returns ⟨rfl,rfl⟩
    | cons id rest ih => exact fun b => wrote rfl (fun _ => ih {b with db := b.db.deleteRun id}) (fun _ _ => ⟨rfl,rfl⟩)
  exact .branch (fun _ => queried rfl (fun _ => each _ b) (fun _ _ => ⟨rfl,rfl⟩)) (fun _ => .returns ⟨rfl,rfl⟩)

/-- Recovery changes the runs of the given identifiers only, and those are finished after it. -/
structure Recovered (ids : List Uuid) (b next : Book) : Prop where
  jobs : next.db.jobs = b.db.jobs
  started : next.started = b.started
  before : ∀ row ∈ next.db.runs, ∃ old ∈ b.db.runs, old.id = row.id ∧ old.jobId = row.jobId ∧
    (row = old ∧ row.id ∉ ids ∨ row.payload.isTerminal = true ∧ row.active = false)
  after : ∀ old ∈ b.db.runs, old.id ∉ ids → old ∈ next.db.runs

theorem recoverRunsEnds {runs : List JobRun} (active : ∀ run ∈ runs, run.isTerminal = false) (b) : Ends (recoverRuns answers now runs) b
      (fun _ next => Recovered (runs.map JobRun.id) b next ∧ ∀ run ∈ runs, answers.recover run.id = none)
      (fun _ next => next.started = b.started ∧ ∃ run ∈ runs, answers.recover run.id ≠ none) := by
  induction runs generalizing b with
  | nil => exact .returns ⟨⟨rfl,rfl,fun row mem => ⟨row,mem,rfl,rfl,.inl ⟨rfl,by simp⟩⟩,fun old mem _ => mem⟩,by simp⟩
  | cons run rest ih =>
    rw [List.forall_mem_cons] at active
    have stops : run.interrupt now = .ok {run with state := .interrupted, finishedAt := some now} := by
      simp [JobRun.interrupt,JobRun.finish,JobRun.ensureActive,show run.state.terminal = false from active.1,bind,Except.bind]
      rfl
    refine .andThen (.knows (by rw [stops]; rfl) ?_)
    refine wrote rfl (fun clear => (ih active.2 _).weaken ?_ ?_) (fun fault _ => ⟨rfl,run,List.mem_cons_self,fault⟩)
    · rintro _ next ⟨⟨jobs,started,before,after⟩,fine⟩
      refine ⟨⟨jobs,started,fun row mem => ?_,fun old mem miss => ?_⟩,List.forall_mem_cons.mpr ⟨clear,fine⟩⟩
      · obtain ⟨mid,there,id,of,what⟩ := before row mem
        obtain ⟨old,away⟩ | ⟨old,inside,hit,rfl⟩ := memUpdateRun there
        · refine ⟨mid,old,id,of,what.imp_left (fun same => ⟨same.1,?_⟩)⟩
          rw [List.map_cons,List.mem_cons,not_or]
          exact ⟨id ▸ away,same.2⟩
        · refine ⟨old,inside,id,of,.inr (what.elim (fun same => ?_) (fun done => done))⟩
          rw [same.1]
          exact ⟨rfl,rfl⟩
      · rw [List.map_cons,List.mem_cons,not_or] at miss
        exact after old (Rows.updateOther mem miss.1) miss.2
    · rintro _ next ⟨same,bad,mem,fault⟩
      exact ⟨same,bad,List.mem_cons_of_mem _ mem,fault⟩

theorem recoverExpiredEnds (b) : Ends (recoverExpired answers now) b
    (fun _ next => Recovered ((b.db.expired now).map JobRun.id) b next ∧ answers.recoverScan = none ∧
      ∀ run ∈ b.db.expired now, answers.recover run.id = none)
    (fun _ next => next.started = b.started ∧ ¬ (answers.recoverScan = none ∧ ∀ run ∈ b.db.expired now, answers.recover run.id = none)) := by
  refine queried rfl (fun clear => ?_) (fun fault _ => ⟨rfl,fun both => fault both.1⟩)
  have active : ∀ run ∈ b.db.expired now, run.isTerminal = false := by
    intro run mem
    simpa using (Bool.and_eq_true_iff.mp (List.mem_filter.mp mem).2).1
  refine (recoverRunsEnds active b).weaken ?_ ?_
  · exact fun _ _ done => ⟨done.1,clear,done.2⟩
  · rintro _ _ ⟨same,run,mem,fault⟩
    exact ⟨same,fun both => fault (both.2 run mem)⟩

theorem dueMem {db : Db} (mem : job ∈ db.due now) : ∃ row ∈ db.jobs, row.payload = job := by
  obtain ⟨row,inside,same⟩ := List.mem_map.mp (List.mem_of_mem_filter mem)
  exact ⟨row,(List.mem_insertionSort _).mp inside,same⟩

theorem dueDistinct (stored : JobsStored db) (now) : ((db.due now).map CronJob.id).Nodup := by
  have perm := List.perm_insertionSort (fun a b : JobRow => a.id ≤ b.id) db.jobs
  have same : db.list.map CronJob.id = (db.jobs.insertionSort (fun a b => a.id ≤ b.id)).map JobRow.id := by
    rw [Db.list,List.map_map]
    exact List.map_congr_left (fun row mem => stored.payload row (perm.mem_iff.mp mem))
  have whole : (db.list.map CronJob.id).Nodup := by
    rw [same]
    exact (perm.map JobRow.id).nodup_iff.mpr stored.unique
  exact whole.sublist (List.filter_sublist.map _)

theorem recoveredReady (stored : JobsStored db) (runs : Stored db) (minted : Minted answers now db)
    (recovered : Recovered ((db.expired now).map JobRun.id) ⟨db,[]⟩ mid) (mem : job ∈ db.due now) :
    Due answers now db mid job := by
  have expired : ∀ row ∈ db.runs, row.id ∈ (db.expired now).map JobRun.id →
      row.payload.isTerminal = false ∧ row.payload.leaseUntil < now := by
    intro row inside among
    obtain ⟨run,late,same⟩ := List.mem_map.mp among
    simp only [Db.expired,List.mem_filter,List.mem_map,Bool.and_eq_true,decide_eq_true_eq] at late
    obtain ⟨⟨other,there,rfl⟩,open_,past⟩ := late
    cases Rows.equalOfKey runs.unique inside there (same.symm.trans (runs.payload other there))
    exact ⟨by simpa using open_,past⟩
  refine ⟨recovered.jobs ▸ stored.unique,?_,?_,fun row inside _ => ?_,fun row inside => ?_,by simp [recovered.started]⟩
  · obtain ⟨row,inside,rfl⟩ := dueMem mem
    rw [recovered.jobs,stored.payload row inside]
    exact List.mem_map_of_mem inside
  · constructor
    · intro busy
      obtain ⟨row,inside,of,open_⟩ : ∃ row ∈ mid.db.runs, row.jobId = job.id ∧ row.payload.isTerminal = false := by
        simpa [Db.activeRun,and_assoc] using busy
      obtain ⟨old,there,_,_,⟨rfl,kept⟩ | ⟨done,_⟩⟩ := recovered.before row inside
      · refine ⟨row,there,of,open_,fun past => kept ?_⟩
        refine List.mem_map.mpr ⟨row.payload,?_,runs.payload row there⟩
        exact List.mem_filter.mpr ⟨List.mem_map_of_mem there,by simp [open_,past]⟩
      · rw [done] at open_
        cases open_
    · rintro ⟨row,there,of,open_,lasts⟩
      have inside := recovered.after row there (fun among => lasts (expired row there among).2)
      simpa [Db.activeRun] using ⟨row,inside,of,open_⟩
  · obtain ⟨old,there,_,_,⟨rfl,_⟩ | ⟨done,off⟩⟩ := recovered.before row inside
    · exact runs.active row there
    · rw [done,off]
      rfl
  · obtain ⟨old,there,same,_⟩ := recovered.before row inside
    exact same ▸ minted.new job mem old there

theorem tickIsolates (forward : cal.Forward) {db : Db} (stored : JobsStored db) (runs : Stored db) (minted : Minted answers now db)
    (retention : Int) :
    (∀ job ∈ db.due now, Viable cal answers now db job →
      Served now (exec (tickAlone cal answers now retention) ⟨db,[]⟩).2 job) ↔ Undisturbed cal answers now db := by
  -- A tick that does not come to its jobs serves none of them.
  have early : ∀ mid : Book, mid.started = [] → ¬ Prepared answers now db →
      ((∀ job ∈ db.due now, Viable cal answers now db job → Served now mid job) ↔ Undisturbed cal answers now db) := by
    intro mid none fault
    have unserved : ∀ job, ¬ Served now mid job := fun job served => by
      have once := served.1
      rw [none] at once
      cases once
    simp only [Undisturbed,fault,false_and,or_false,unserved,imp_false]
  rw [tickAlone,execBind]
  have recovery : Ends (recoverExpired answers now) ⟨db,[]⟩ _ _ := recoverExpiredEnds ⟨db,[]⟩
  rcases ran : exec (recoverExpired answers now) ⟨db,[]⟩ with ⟨e | _,mid⟩
  · obtain ⟨same,fault⟩ := recovery.stopped ran
    exact early mid same (fun prepared => fault ⟨prepared.scan,prepared.recover⟩)
  · obtain ⟨recovered,clear,fine⟩ := recovery.reached ran
    have due : mid.db.due now = db.due now := by rw [Db.due,Db.due,Db.list,Db.list,recovered.jobs]
    simp only
    rw [execBind,query,execReads]
    cases listed : answers.list with
    | some message =>
      exact early mid recovered.started (fun prepared => absurd (listed.symm.trans prepared.list) (by simp))
    | none =>
      simp only [due]
      have loop := (serveDueServes forward (dueDistinct stored now) minted.apart
        (fun job mem => recoveredReady stored runs minted recovered mem)).1
      have prepared : Prepared answers now db := ⟨clear,fine,listed⟩
      have condition : Undisturbed cal answers now db ↔ (db.due now).Pairwise
          (fun job later => Stops cal answers now db job → ¬ Viable cal answers now db later) := by
        refine ⟨?_,fun all => .inr ⟨prepared,all⟩⟩
        rintro (none | ⟨_,all⟩)
        · exact List.pairwise_of_forall_mem_list (fun _ _ later mem _ => none later mem)
        · exact all
      rw [condition,← loop,execBind]
      rcases served : exec (serveDue cal answers now (db.due now)) mid with ⟨e | _,last⟩
      · rfl
      · have rest : Leaves (pruneRetention answers now retention >>= fun _ => (pure (db.due now).length : Service Nat)) last
            (fun next => next.db.jobs = last.db.jobs ∧ next.started = last.started) :=
          .after (pruneKeeps retention last) (fun _ _ same => .returns same) (fun _ _ same => same)
        have kept := rest.always
        simp only [Served,kept.1,kept.2]

end Isolation

def ping : CronJob := {hourly with id := 5, name := "ping", kind := .http "https://example.com" "GET NOW"}

def pingFirst : Db := ⟨[⟨7,3,hourly⟩,⟨5,3,ping⟩],[],[]⟩

def due : DateTime := seconds 1700000040

def answering (setup : Option String) : TickAnswers :=
  ⟨none,fun _ => none,none,fun id => {run := {now := due, finishedAt := due, fresh := id + 100, setup}},none,fun _ => none⟩

theorem pingFirstStored : JobsStored pingFirst ∧ Stored pingFirst :=
  ⟨⟨by decide,by decide⟩,⟨by decide,by decide,by decide,(fun _ none => by cases none),by decide⟩⟩

theorem pingFirstMinted : Minted (answering none) due pingFirst := ⟨fun _ _ _ none => absurd none List.not_mem_nil,by decide +kernel⟩

theorem bothServed : sparse.Forward ∧ JobsStored pingFirst ∧ Stored pingFirst ∧ Minted (answering none) due pingFirst ∧
    Undisturbed sparse (answering none) due pingFirst ∧ ∀ job ∈ pingFirst.due due, Viable sparse (answering none) due pingFirst job →
      Served due (exec (tickAlone sparse (answering none) due 30) ⟨pingFirst,[]⟩).2 job := by
  have goes : ∀ job ∈ pingFirst.due due, (advanced sparse due job).isOk = true := by decide +kernel
  have calm : Undisturbed sparse (answering none) due pingFirst := by
    refine .inr ⟨⟨rfl,by decide,rfl⟩,List.pairwise_of_forall_mem_list (fun job mem _ _ stops => ?_)⟩
    simp [Stops,Fails,SetUp,goes job mem,answering] at stops
  exact ⟨sparseForward,pingFirstStored.1,pingFirstStored.2,pingFirstMinted,calm,
    (tickIsolates sparseForward pingFirstStored.1 pingFirstStored.2 pingFirstMinted 30).mpr calm⟩

theorem laterNotServed : (exec (tickAlone sparse (answering (some "invalid HTTP method")) due 30) ⟨pingFirst,[]⟩).2.started = [] ∧
    hourly ∈ pingFirst.due due ∧ Viable sparse (answering (some "invalid HTTP method")) due pingFirst hourly ∧
    ¬ Served due (exec (tickAlone sparse (answering (some "invalid HTTP method")) due 30) ⟨pingFirst,[]⟩).2 hourly := by
  have none : (exec (tickAlone sparse (answering (some "invalid HTTP method")) due 30) ⟨pingFirst,[]⟩).2.started = [] := by
    decide +kernel
  refine ⟨none,by decide +kernel,⟨by decide +kernel,rfl,rfl,rfl,?_,rfl,?_⟩,fun served => ?_⟩
  · rintro ⟨_,mem,_⟩
    cases mem
  · exact fun _ _ => nofun
  · have once := served.1
    rw [none] at once
    cases once

end OpenPanel.Cron
