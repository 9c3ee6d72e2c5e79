import OpenPanel.BackupRuns
import OpenPanel.Rows

/-! The backup service over its tables and the files of its runs. Every statement
and system call may fail. The order `created_at DESC` leaves open among equal instants
is a parameter. Audit events are left out. -/
namespace OpenPanel.Backups
open Fallible FileTree

structure StoredFile where
  runId : Uuid
  path : String
  bytes : Bytes

structure World where
  runs : List BackupRun
  stored : List StoredFile

structure Listing where
  arrange : List BackupRun → List BackupRun
  same : ∀ runs, (arrange runs).Perm runs
  newestFirst : ∀ runs, (arrange runs).Pairwise (fun a b => b.createdAt ≤ a.createdAt)

def Listing.stable : Listing where
  arrange runs := runs.insertionSort (fun a b => b.createdAt ≤ a.createdAt)
  same runs := List.perm_insertionSort _ runs
  newestFirst runs := by
    have : Std.Total (fun a b : BackupRun => b.createdAt ≤ a.createdAt) := ⟨fun a b => le_total b.createdAt a.createdAt⟩
    have : IsTrans BackupRun (fun a b => b.createdAt ≤ a.createdAt) := ⟨fun _ _ _ first second => second.trans first⟩
    exact List.pairwise_insertionSort _ runs

inductive Step where
  | runs (turn : Nat)
  | saveRun
  | deleteRun (id : Uuid)
  | removeFiles (id : Uuid)
  | read (turn index : Nat)

structure Env where
  now : DateTime
  listing : Listing
  fault : Step → Option String

def quiet : Env := ⟨0,.stable,fun _ => none⟩

abbrev Service := Prog World BackupServiceError

def invalid (e : BackupError) : BackupServiceError := .validation e.message

section Calls

variable (env : Env)

def query {α : Type} (step : Step) (rows : World → Except BackupServiceError α) : Service α :=
  reads (fun w => match env.fault step with
    | some message => .error (.internal message)
    | none => rows w)

def execute (step : Step) (change : World → Except BackupServiceError World) : Service Unit :=
  attempt (fun w => match env.fault step with
    | some message => .error (.internal message)
    | none => (change w).map (fun next => ((),next)))

section Rules

variable {env : Env}

theorem queryEnds {rows : World → Except BackupServiceError α} {post : α → World → Prop}
    (done : ∀ a, env.fault step = none → rows w = .ok a → post a w)
    (faulted : ∀ message, env.fault step = some message → failed (.internal message) w)
    (stopped : ∀ e, rows w = .error e → failed e w) : Ends (query env step rows) w post failed := by
  refine .checks ?_ ?_
  · intro a read
    split at read
    · cases read
    · exact done a (by assumption) read
  · intro e read
    split at read
    · cases read
      exact faulted _ (by assumption)
    · exact stopped e read

theorem queryOk {a} (calm : env.fault step = none) (read : rows w = .ok a)
    (done : post a w) : Ends (query env step rows) w post failed :=
  Ends.knows (by rw [calm]; exact read) done

theorem executeEnds (done : ∀ next, change w = .ok next → post () next)
    (faulted : ∀ message, env.fault step = some message → failed (.internal message) w)
    (stopped : ∀ e, change w = .error e → failed e w) : Ends (execute env step change) w post failed := by
  refine .attempts ?_ ?_
  · intro _ next ran
    split at ran
    · cases ran
    · obtain ⟨made,changed,same⟩ := mapOk ran
      cases same
      exact done _ changed
  · intro e ran
    split at ran
    · cases ran
      exact faulted _ (by assumption)
    · exact stopped e (mapFails ran)

end Rules

def visible (owner : Uuid) (all : Bool) (run : BackupRun) : Bool := all || run.ownerId == owner

def listRuns (turn : Nat) (owner : Uuid) (all : Bool) : Service (List BackupRun) :=
  query env (.runs turn) (fun w => .ok (env.listing.arrange (w.runs.filter (visible owner all))))

def getRun (turn : Nat) (owner : Uuid) (all : Bool) (id : Uuid) : Service BackupRun := do
  let runs ← listRuns env turn owner all
  reads (fun _ => match runs.find? (fun run => run.id == id) with
    | none => .error .notFound
    | some run => .ok run)

def saveRun (run : BackupRun) : Service Unit :=
  execute env .saveRun (fun w => .ok {w with runs := Rows.update BackupRun.id run.id (fun _ => run) w.runs})

def readStored (step : Step) (runId : Uuid) (path : String) : Service Bytes :=
  query env step (fun w => match w.stored.find? (fun f => f.runId == runId && f.path == path) with
    | none => .error (.internal noSuch)
    | some f => .ok f.bytes)

variable (sha256 : Bytes → String)

def verifyArtifacts (turn : Nat) (run : BackupRun) : Nat → List BackupArtifact → Service Unit
  | _,[] => pure ()
  | index,artifact::rest => do
    let bytes ← readStored env (.read turn index) run.id artifact.path
    if artifact.verify sha256 bytes then verifyArtifacts turn run (index + 1) rest
    else do
      let run ← reads (fun _ => (run.markCorrupt env.now).mapError invalid)
      saveRun env run
      throw .corrupt

def verify (turn : Nat) (owner : Uuid) (all : Bool) (id : Uuid) : Service BackupRun := do
  let run ← getRun env turn owner all id
  if run.state ≠ .completed then throw .corrupt
  else do
    verifyArtifacts env sha256 turn run 0 run.artifacts
    return run

end Calls

section Retention

variable (env : Env)

def deleteRun (turn : Nat) (owner : Uuid) (all : Bool) (id : Uuid) : Service Unit := do
  let run ← getRun env turn owner all id
  if run.state = .pending ∨ run.state = .running then throw (.validation "active run cannot be deleted")
  else do
    -- `remove_dir_all` may fail, and nobody asks.
    attempt (fun w => .ok ((),match env.fault (.removeFiles id) with
      | some _ => w
      | none => {w with stored := w.stored.filter (fun f => f.runId ≠ id)}))
    execute env (.deleteRun id) (fun w => .ok {w with runs := Rows.delete BackupRun.id id w.runs})

def retentionCandidate (entry : BackupRun × Nat) : RetentionCandidate :=
  if entry.1.state = .completed then .terminal entry.1.id (-entry.2) entry.1.pinned
  else .active entry.1.id (-entry.2)

def deleteRuns (owner : Uuid) : Nat → List Uuid → Service Unit
  | _,[] => pure ()
  | turn,id::rest => do
    deleteRun env turn owner false id
    deleteRuns owner (turn + 1) rest

def applyRetention (plan : BackupPlan) : Service Unit := do
  let runs ← listRuns env 0 plan.ownerId false
  let candidates := (runs.filter (fun run => run.planId == plan.id)).zipIdx.map retentionCandidate
  deleteRuns env plan.ownerId 1 (plan.retention.deletions candidates)

end Retention

end OpenPanel.Backups
