import OpenPanel.CronService

/-! The moves a call can make, one constructor for each way through `step`, and
the view of them that the run table has: what a call holds or is about to write
before and after a move. Every invariant of the service is derived from the
moves. -/
namespace OpenPanel.Cron

namespace Pc

def minted : Pc → Option JobRun
  | .insertSkipped _ run _ _ | .insertLeased _ run _ _ => some run
  | _ => none

def busy : Pc → Option JobRun
  | .launch _ run _ | .executing _ run _ => some run
  | _ => none

def finishing : Pc → Option JobRun
  | .finish run _ => some run
  | _ => none

def snapshots : Pc → List JobRun
  | .recover _ _ run rest => run::rest
  | _ => []

def doomed : Pc → List Uuid
  | .prune _ id rest => id::rest
  | _ => []

def savesEdit (env : Env) : Pc → Option CronJob
  | .saveEdit job => if env.fault = none then some job else none
  | _ => none

structure Unowned (pc : Pc) : Prop where
  minted : pc.minted = none
  busy : pc.busy = none
  finishing : pc.finishing = none

structure Idle (pc : Pc) : Prop extends Unowned pc where
  snapshots : pc.snapshots = []
  doomed : pc.doomed = []

end Pc

inductive Move (cal : Calendar) (db : Db) (env : Env) : Pc → Db → Pc → Prop where
  | failed {pc error} (unsaved : pc.savesEdit env = none) : Move cal db env pc db (fail error)
  | get {ownerId all id job caller} : Move cal db env (.get ownerId all id caller) db (.scan id job caller)
  | skip {id job run caller} (fresh : env.fresh ∉ db.issued) (runId : run.id = env.fresh)
      (terminal : run.isTerminal = true) :
      Move cal db env (.scan id job caller) (db.issue env.fresh) (.insertSkipped job.ownerId run env.now caller)
  | lease {id job run caller} (fresh : env.fresh ∉ db.issued) (runId : run.id = env.fresh)
      (active : run.isTerminal = false) :
      Move cal db env (.scan id job caller) (db.issue env.fresh) (.insertLeased job run env.now caller)
  | insertSkipped {ownerId run now caller db'} (inserted : db.insertRun ownerId run now = .ok db') :
      Move cal db env (.insertSkipped ownerId run now caller) db' (caller.resume cal run)
  | insertLeased {job run now caller db'} (inserted : db.insertRun job.ownerId run now = .ok db') :
      Move cal db env (.insertLeased job run now caller) db' (.launch job run caller)
  | overtaken {job run skipped now caller} (fresh : env.fresh ∉ db.issued) (runId : skipped.id = env.fresh)
      (terminal : skipped.isTerminal = true) : Move cal db env (.insertLeased job run now caller)
        (db.issue env.fresh) (.insertSkipped job.ownerId skipped now caller)
  | launch (job run caller) : Move cal db env (.launch job run caller) db (.executing job run caller)
  | settle {job run caller out} (terminal : out.isTerminal = true) (runId : out.id = run.id)
      (jobId : out.jobId = run.jobId) (lease : out.leaseUntil = run.leaseUntil) :
      Move cal db env (.executing job run caller) db (.finish out caller)
  | finish (run caller) : Move cal db env (.finish run caller) (db.updateRun run) (caller.resume cal run)
  | recoverScan (now retention) (read : env.fault = none) :
      Move cal db env (.recoverScan now retention) db (recovering now retention (db.expired now))
  | recover {now retention run rest out} (interrupted : run.interrupt now = .ok out) :
      Move cal db env (.recover now retention run rest) (db.updateRun out) (recovering now retention rest)
  | listDue {now retention due} (listed : due ⊆ db.list) :
      Move cal db env (.listDue now retention) db (nextDue cal now retention due.length due)
  | save (now retention count job rest) : Move cal db env (.save now retention count job rest)
      (db.save job) (.get job.ownerId true job.id (.tick now retention count rest))
  | pruneScan (now retention count) : Move cal db env (.pruneScan now retention count) db
      (pruning count (db.prunable (now - days retention)))
  | prune (count id rest) : Move cal db env (.prune count id rest) (db.deleteRun id) (pruning count rest)
  | edit {ownerId all id edit job} : Move cal db env (.edit ownerId all id edit) db (.saveEdit job)
  | saveEdit (job) (stored : env.fault = none) :
      Move cal db env (.saveEdit job) (db.save job) (.done (.edited job))

theorem settled (ok : settle kind run now outcome = some (.ok out)) :
    out.isTerminal = true ∧ out.id = run.id ∧ out.jobId = run.jobId ∧ out.leaseUntil = run.leaseUntil := by
  cases outcome with
  | output status stdout stderr =>
    cases kind with
    | command executable arguments directory =>
      exact (completed (Option.some.inj ok)).2
    | http url method => contradiction
  | failed message => exact (completed (Option.some.inj ok)).2
  | response status body =>
    cases kind with
    | command executable arguments directory => contradiction
    | http url method => exact (completed (Option.some.inj ok)).2
  | elapsed =>
    obtain ⟨_,rfl⟩ := finished (Option.some.inj ok)
    exact ⟨rfl,rfl,rfl,rfl⟩

theorem statementMove (read : env.fault = none) (ok : statement cal db env pc = some (db',pc')) : Move cal db env pc db' pc' := by
  cases pc with
  | get ownerId all id caller =>
    simp only [statement] at ok
    split at ok <;> cases ok
    · exact .failed rfl
    · exact .get
  | scan id job caller =>
    simp only [statement] at ok
    split at ok <;> try contradiction
    rename_i fresh
    split at ok
    · cases ok
      exact .skip fresh rfl rfl
    · -- A lease just built always starts.
      cases ok
      exact .lease fresh rfl rfl
  | insertSkipped ownerId run now caller =>
    simp only [statement] at ok
    split at ok <;> cases ok
    · exact .failed rfl
    · rename_i inserted
      exact .insertSkipped inserted
  | insertLeased job run now caller =>
    simp only [statement] at ok
    split at ok
    · rename_i inserted
      cases ok
      exact .insertLeased inserted
    · split at ok <;> try contradiction
      rename_i fresh
      cases ok
      exact .overtaken fresh rfl rfl
    · cases ok
      exact .failed rfl
  | launch job run caller => contradiction
  | executing job run caller => contradiction
  | finish run caller =>
    cases ok
    exact .finish run caller
  | recoverScan now retention =>
    cases ok
    exact .recoverScan now retention read
  | recover now retention run rest =>
    simp only [statement] at ok
    split at ok <;> cases ok
    · exact .failed rfl
    · rename_i interrupted
      exact .recover interrupted
  | listDue now retention =>
    cases ok
    exact .listDue List.filter_sublist.subset
  | save now retention count job rest =>
    cases ok
    exact .save now retention count job rest
  | pruneScan now retention count =>
    cases ok
    exact .pruneScan now retention count
  | prune count id rest =>
    cases ok
    exact .prune count id rest
  | edit ownerId all id edit =>
    simp only [statement] at ok
    split at ok
    · cases ok
      exact .failed rfl
    · split at ok <;> cases ok
      · exact .failed rfl
      · exact .edit
  | saveEdit job =>
    cases ok
    exact .saveEdit job read
  | done result => contradiction

theorem move (ok : step cal db pc env = some (db',pc')) : Move cal db env pc db' pc' := by
  unfold step at ok
  split at ok
  · contradiction
  · split at ok <;> cases ok
    · exact .failed rfl
    · exact .launch _ _ _
  · split at ok
    · contradiction
    · cases ok
      exact .failed rfl
    · rename_i done_
      cases ok
      obtain ⟨terminal,runId,jobId,lease⟩ := settled done_
      exact .settle terminal runId jobId lease
  · split at ok
    · rename_i message failed
      cases ok
      exact .failed (by cases pc <;> simp [Pc.savesEdit,failed])
    · rename_i read
      exact statementMove read ok

theorem failIdle (error) : (fail error).Idle := ⟨⟨rfl,rfl,rfl⟩,rfl,rfl⟩

theorem nextDueIdle (cal now retention count due) : (nextDue cal now retention count due).Idle := by
  cases due with
  | nil =>
    simp only [nextDue]
    split <;> exact ⟨⟨rfl,rfl,rfl⟩,rfl,rfl⟩
  | cons job rest =>
    simp only [nextDue]
    split <;> exact ⟨⟨rfl,rfl,rfl⟩,rfl,rfl⟩

theorem resumeIdle (cal run) (caller : Caller) : (caller.resume cal run).Idle := by
  cases caller with
  | direct => exact ⟨⟨rfl,rfl,rfl⟩,rfl,rfl⟩
  | tick now retention count rest => exact nextDueIdle cal now retention count rest

theorem recoveringHolds (now retention runs) :
    (recovering now retention runs).Unowned ∧ (recovering now retention runs).snapshots = runs ∧
    (recovering now retention runs).doomed = [] := by
  cases runs <;> exact ⟨⟨rfl,rfl,rfl⟩,rfl,rfl⟩

theorem pruningHolds (count ids) : (pruning count ids).Unowned ∧ (pruning count ids).snapshots = [] ∧
    (pruning count ids).doomed = ids := by
  cases ids <;> exact ⟨⟨rfl,rfl,rfl⟩,rfl,rfl⟩

inductive Effect (db : Db) (env : Env) : Pc → Db → Pc → Prop where
  | quiet {pc db' pc'} (runs : db'.runs = db.runs) (issued : db'.issued = db.issued)
      (idle : pc'.Idle) : Effect db env pc db' pc'
  | mintSkipped {pc ownerId run now caller} (fresh : env.fresh ∉ db.issued)
      (id : run.id = env.fresh) (terminal : run.isTerminal = true) :
      Effect db env pc (db.issue env.fresh) (.insertSkipped ownerId run now caller)
  | mintLeased {pc job run now caller} (fresh : env.fresh ∉ db.issued)
      (id : run.id = env.fresh) (active : run.isTerminal = false) :
      Effect db env pc (db.issue env.fresh) (.insertLeased job run now caller)
  | store {ownerId run now caller db' pc'} (inserted : db.insertRun ownerId run now = .ok db')
      (idle : pc'.Idle) : Effect db env (.insertSkipped ownerId run now caller) db' pc'
  | lease {job run now caller db'} (inserted : db.insertRun job.ownerId run now = .ok db') :
      Effect db env (.insertLeased job run now caller) db' (.launch job run caller)
  | begin (job run caller) : Effect db env (.launch job run caller) db (.executing job run caller)
  | settle {job run caller out} (terminal : out.isTerminal = true) (id : out.id = run.id)
      (jobId : out.jobId = run.jobId) (lease : out.leaseUntil = run.leaseUntil) :
      Effect db env (.executing job run caller) db (.finish out caller)
  | write {run caller pc'} (idle : pc'.Idle) : Effect db env (.finish run caller) (db.updateRun run) pc'
  | snapshot (now retention) (read : env.fault = none) :
      Effect db env (.recoverScan now retention) db (recovering now retention (db.expired now))
  | interrupt {now retention run rest out} (interrupted : run.interrupt now = .ok out) :
      Effect db env (.recover now retention run rest) (db.updateRun out) (recovering now retention rest)
  | select {now retention count cutoff} :
      Effect db env (.pruneScan now retention count) db (pruning count (db.prunable cutoff))
  | remove (count id rest) : Effect db env (.prune count id rest) (db.deleteRun id) (pruning count rest)

theorem effect (ok : step cal db pc env = some (db',pc')) : Effect db env pc db' pc' := by
  cases move ok with
  | failed => exact .quiet rfl rfl (failIdle _)
  | get | save | edit | saveEdit => exact .quiet rfl rfl ⟨⟨rfl,rfl,rfl⟩,rfl,rfl⟩
  | listDue => exact .quiet rfl rfl (nextDueIdle cal _ _ _ _)
  | skip fresh runId terminal | overtaken fresh runId terminal => exact .mintSkipped fresh runId terminal
  | lease fresh runId active => exact .mintLeased fresh runId active
  | insertSkipped inserted => exact .store inserted (resumeIdle cal _ _)
  | insertLeased inserted => exact .lease inserted
  | launch job run caller => exact .begin job run caller
  | settle terminal runId jobId lease => exact .settle terminal runId jobId lease
  | finish run caller => exact .write (resumeIdle cal run caller)
  | recoverScan now retention read => exact .snapshot now retention read
  | recover interrupted => exact .interrupt interrupted
  | pruneScan => exact .select
  | prune count id rest => exact .remove count id rest

end OpenPanel.Cron
