import OpenPanel.Fallible
import OpenPanel.GuardedRun
import OpenPanel.Users

/-! Point-in-time restores of databases. The sink keeps the segments of each
transaction log and the range they span; a request within the range is stored with its
full backup and log position. Texts of instants are a parameter. Not stored: the full
backups, and the base backup each request named. -/
namespace OpenPanel.Pitr
open Fallible Identity GuardedRun

inductive PitrError where
  | invalid (detail : String)
  | invalidTransition
  | io (detail : String)

structure LogSeq where
  bytes : List UInt8
  valid : bytes.length ≤ 64
  deriving DecidableEq

def LogSeq.initial : LogSeq := ⟨[],by decide⟩

structure RestoreTimestamp where
  asDatetime : DateTime
  deriving DecidableEq

def RestoreTimestamp.new (rfc3339 : DateTime → String) (now ts : DateTime) : Except PitrError RestoreTimestamp :=
  if ts > now then .error (.invalid ("restore timestamp " ++ rfc3339 ts ++ " is in the future")) else .ok ⟨ts⟩

structure BinlogRange where
  earliest : LogSeq
  latest : LogSeq
  start : DateTime
  «end» : DateTime
  empty : Bool

def BinlogRange.new (earliest latest : LogSeq) (start «end» : DateTime) : Except PitrError BinlogRange :=
  if «end» < start then .error (.invalid "binlog range end is before start")
  else .ok ⟨earliest,latest,start,«end»,earliest == latest && earliest == LogSeq.initial⟩

def BinlogRange.covers (range : BinlogRange) (ts : DateTime) : Bool :=
  !range.empty && ts ≥ range.start && ts ≤ range.end

structure BinlogSegment where
  «from» : LogSeq
  «to» : LogSeq
  generatedAt : DateTime
  deriving DecidableEq

structure Span where
  earliest : LogSeq
  latest : LogSeq
  start : DateTime
  «end» : DateTime

-- What `append` does to the entry of the database in `ranges`.
def Span.extend : Option Span → BinlogSegment → Option Span
  | none,segment => some ⟨segment.from,segment.to,segment.generatedAt,segment.generatedAt⟩
  | some span,segment =>
    some ⟨span.earliest,segment.to,
      if segment.generatedAt < span.start then segment.generatedAt else span.start,
      if segment.generatedAt > span.end then segment.generatedAt else span.end⟩

abbrev BinlogSink := List (Uuid × BinlogSegment)

def BinlogSink.segments (sink : BinlogSink) (databaseId : Uuid) : List BinlogSegment :=
  (sink.filter (fun entry => entry.1 == databaseId)).map Prod.snd

def BinlogSink.span (sink : BinlogSink) (databaseId : Uuid) : Option Span :=
  (sink.segments databaseId).foldl Span.extend none

def BinlogSink.availableRange (sink : BinlogSink) (databaseId : Uuid) (now : DateTime) :
    Except PitrError BinlogRange :=
  match sink.span databaseId with
  | some span => BinlogRange.new span.earliest span.latest span.start span.end
  | none => BinlogRange.new .initial .initial now now

inductive PitrRestoreStatus where | pending | staged | promoting | promoted | failed deriving DecidableEq

structure RestoreReplayWindow where
  baseBackup : Uuid
  replayTo : LogSeq
  deriving DecidableEq

structure PitrRestore where
  id : Uuid
  databaseId : Uuid
  requestTs : RestoreTimestamp
  window : Option RestoreReplayWindow
  stagingDbId : Option Uuid
  status : PitrRestoreStatus
  requestedBy : String
  requestedAt : DateTime
  updatedAt : DateTime
  failureReason : Option String
  deriving DecidableEq

namespace PitrRestore

def new (id databaseId : Uuid) (requestTs : RestoreTimestamp) (requestedBy : String) (now : DateTime) :
    Except PitrError PitrRestore :=
  if databaseId = Uuid.nil then .error (.invalid "database id is nil")
  else if trimIsEmpty requestedBy then .error (.invalid "requested_by is empty")
  else .ok ⟨id,databaseId,requestTs,none,none,.pending,requestedBy,now,now,none⟩

def markStaged (restore : PitrRestore) (stagingDbId : Uuid) (window : RestoreReplayWindow) (now : DateTime) :
    Except PitrError PitrRestore :=
  if restore.status ≠ .pending then .error .invalidTransition
  else if stagingDbId = Uuid.nil then .error (.invalid "staging database id is nil")
  else .ok {restore with
    stagingDbId := some stagingDbId, window := some window, status := .staged, updatedAt := now}

def beginPromotion (restore : PitrRestore) (now : DateTime) : Except PitrError PitrRestore :=
  if restore.status ≠ .staged then .error .invalidTransition
  else .ok {restore with status := .promoting, updatedAt := now}

def completePromotion (restore : PitrRestore) (now : DateTime) : Except PitrError PitrRestore :=
  if restore.status ≠ .promoting then .error .invalidTransition
  else .ok {restore with status := .promoted, updatedAt := now}

def fail (restore : PitrRestore) (reason : String) (now : DateTime) : Except PitrError PitrRestore :=
  if restore.status = .promoted ∨ restore.status = .failed then .error .invalidTransition
  else .ok {restore with status := .failed, failureReason := some reason, updatedAt := now}

end PitrRestore

inductive RestoreRequestError where
  | forbidden
  | timestampOutOfRange (instant : String)
  | databaseNotFound (id : String)
  | unknownTarget (id : String)
  | pitr (error : PitrError)
  | database (detail : String)

structure Database where
  id : Uuid
  ownerId : Uuid
  deriving DecidableEq

structure FullBackup where
  id : Uuid
  databaseId : Uuid
  takenAt : DateTime
  deriving DecidableEq

structure World where
  databases : List Database
  sink : BinlogSink
  backups : List FullBackup
  restores : List PitrRestore
  named : List (Uuid × Option Uuid)
  deriving DecidableEq

inductive Statement where
  | findDatabase | range | list | insert | stage | find | begin | complete | fail

structure Env where
  checkedAt : DateTime := 0
  now : DateTime := 0
  promotedAt : DateTime := 0
  restoreId : Uuid := 0
  baseId : Uuid := 0
  stagingId : Uuid := 0
  fault : Statement → Option String := fun _ => none

structure RestoreRequest where
  timestamp : DateTime
  baseBackup : Option Uuid
  confirm : Bool

abbrev Service := Prog World RestoreRequestError

def ensureOwner (caller : User) : Except RestoreRequestError Unit :=
  if caller.role ≠ .owner then .error .forbidden else .ok ()

def pitr {α : Type} (result : Except PitrError α) : Except RestoreRequestError α := result.mapError .pitr

namespace Env

def query {α : Type} (env : Env) (statement : Statement) (rows : World → Except PitrError α) : Service α :=
  reads (fun w => match env.fault statement with
    | some message => .error (.pitr (.io message))
    | none => pitr (rows w))

def loadDatabase (env : Env) (caller : User) (databaseId : Uuid) : Service Database :=
  reads (fun w => match env.fault .findDatabase with
    | some message => .error (.database message)
    | none => match w.databases.find? (fun d => d.id == databaseId) with
      | none => .error (.databaseNotFound databaseId.hyphenated)
      | some database =>
        if caller.role ≠ .owner ∧ database.ownerId ≠ caller.id then .error .forbidden else .ok database)

def insert (env : Env) (restore : PitrRestore) (baseBackup : Option Uuid) : Service Unit :=
  attempt (fun w => match env.fault .insert with
    | some message => .error (.pitr (.io message))
    | none =>
      if w.restores.any (fun r => r.id == restore.id) then
        .error (.pitr (.io (DbError.unique "pitr_restores.id").message))
      else if w.databases.any (fun d => d.id == restore.databaseId) = false then
        .error (.pitr (.io DbError.foreignKey.message))
      else .ok ((),{w with
        restores := w.restores ++ [restore], named := w.named ++ [(restore.id,baseBackup)]}))

def update (env : Env) (statement : Statement) (restore : PitrRestore) : Service Unit :=
  attempt (fun w => match env.fault statement with
    | some message => .error (.pitr (.io message))
    | none => .ok ((),{w with
        restores := Rows.update PitrRestore.id restore.id
          (fun row => {restore with databaseId := row.databaseId}) w.restores}))

end Env

def listByDatabase (restores : List PitrRestore) (databaseId : Uuid) : List PitrRestore :=
  (restores.filter (fun r => r.databaseId == databaseId)).insertionSort (fun a b => b.requestedAt ≤ a.requestedAt)

def PitrRestore.answers (ts : DateTime) (restore : PitrRestore) : Bool :=
  restore.requestTs.asDatetime == ts && (restore.status == .pending || restore.status == .staged)

def findRestore (env : Env) (restoreId : Uuid) : Service PitrRestore :=
  reads (fun w => match env.fault .find with
    | some message => .error (.pitr (.io message))
    | none => match w.restores.find? (fun r => r.id == restoreId) with
      | none => .error (.unknownTarget restoreId.hyphenated)
      | some restore => .ok restore)

def promoteRestore (env : Env) (caller : User) (restoreId : Uuid) : Service PitrRestore := do
  reads (fun _ => ensureOwner caller)
  let restore ← findRestore env restoreId
  let restore ← reads (fun _ => pitr (restore.beginPromotion env.now))
  env.update .begin restore
  let restore ← reads (fun _ => pitr (restore.completePromotion env.promotedAt))
  env.update .complete restore
  return restore

def failRestore (env : Env) (restoreId : Uuid) (reason : String) : Service Unit := do
  let restore ← findRestore env restoreId
  let restore ← reads (fun _ => pitr (restore.fail reason env.now))
  env.update .fail restore

def requestRestore (rfc3339 : DateTime → String) (env : Env) (caller : User) (databaseId : Uuid)
    (request : RestoreRequest) : Service PitrRestore := do
  reads (fun _ => ensureOwner caller)
  let _ ← env.loadDatabase caller databaseId
  let requestTs ← reads (fun _ => pitr (RestoreTimestamp.new rfc3339 env.checkedAt request.timestamp))
  let range ← env.query .range (fun w => w.sink.availableRange databaseId env.checkedAt)
  if range.covers request.timestamp = false then throw (.timestampOutOfRange (rfc3339 request.timestamp))
  else do
    let existing ← env.query .list (fun w => .ok (listByDatabase w.restores databaseId))
    match existing.find? (PitrRestore.answers request.timestamp) with
    | some restore => return restore
    | none => do
      let restore ← reads (fun _ =>
        pitr (PitrRestore.new env.restoreId databaseId requestTs caller.username.text env.now))
      env.insert restore request.baseBackup
      let window := ⟨request.baseBackup.getD env.baseId,range.latest⟩
      let restore ← reads (fun _ => pitr (restore.markStaged env.stagingId window env.now))
      env.update .stage restore
      if request.confirm then do
        let _ ← promoteRestore env caller restore.id
        return restore
      else return restore

inductive Event where
  | append (databaseId : Uuid) (segment : BinlogSegment)
  | backUp (backup : FullBackup)
  | request (caller : User) (databaseId : Uuid) (request : RestoreRequest) (env : Env)
  | promote (caller : User) (restoreId : Uuid) (env : Env)
  | fail (restoreId : Uuid) (reason : String) (env : Env)

def fire (rfc3339 : DateTime → String) (w : World) : Event → Option World
  | .append databaseId segment => some {w with sink := w.sink ++ [(databaseId,segment)]}
  | .backUp backup => some {w with backups := w.backups ++ [backup]}
  | .request caller databaseId request env => some (exec (requestRestore rfc3339 env caller databaseId request) w).2
  | .promote caller restoreId env => some (exec (promoteRestore env caller restoreId) w).2
  | .fail restoreId reason env => some (exec (failRestore env restoreId reason) w).2

def Reached (w : World) (databaseId : Uuid) (position : LogSeq) (ts : DateTime) : Prop :=
  ∃ segment ∈ w.sink.segments databaseId, segment.to = position ∧ segment.generatedAt ≤ ts

def TakenBy (w : World) (databaseId backupId : Uuid) (ts : DateTime) : Prop :=
  ∃ backup ∈ w.backups, backup.databaseId = databaseId ∧ backup.id = backupId ∧ backup.takenAt ≤ ts

def Stops (w : World) (restore : PitrRestore) : Prop :=
  ∀ window, restore.window = some window →
    Reached w restore.databaseId window.replayTo restore.requestTs.asDatetime ∧
    ((restore.id,none) ∈ w.named → TakenBy w restore.databaseId window.baseBackup restore.requestTs.asDatetime)

def asksForEnd (w : World) : Event → Prop
  | .request _ databaseId request _ =>
    request.baseBackup.isSome ∧ ∀ span, w.sink.span databaseId = some span → span.end ≤ request.timestamp
  | _ => True

theorem spanReached {segments : List BinlogSegment} (folded : segments.foldl Span.extend none = some span) :
    ∃ segment ∈ segments, segment.to = span.latest ∧ segment.generatedAt ≤ span.end := by
  induction segments using List.reverseRecOn generalizing span with
  | nil => cases folded
  | append_singleton earlier segment ih =>
    rw [List.foldl_append,List.foldl_cons,List.foldl_nil] at folded
    refine ⟨segment,List.mem_append_right _ List.mem_cons_self,?_⟩
    cases before : earlier.foldl Span.extend none with
    | none =>
      simp only [before,Span.extend,Option.some.injEq] at folded
      subst folded
      exact ⟨rfl,le_refl _⟩
    | some old =>
      simp only [before,Span.extend,Option.some.injEq] at folded
      subst folded
      refine ⟨rfl,?_⟩
      simp only
      split
      · exact le_refl _
      · exact not_lt.mp (by assumption)

theorem coveredSpan {sink : BinlogSink}
    (available : sink.availableRange databaseId now = .ok range) (covers : range.covers ts = true) :
    ∃ span, sink.span databaseId = some span ∧ range.latest = span.latest ∧ range.end = span.end := by
  unfold BinlogSink.availableRange BinlogRange.new at available
  split at available
  · rename_i span spanned
    split at available <;> cases available
    exact ⟨span,spanned,rfl,rfl⟩
  · split at available <;> cases available
    simp [BinlogRange.covers] at covers

theorem endReached (available : w.sink.availableRange databaseId now = .ok range)
    (covers : range.covers ts = true) (asked : ∀ span, w.sink.span databaseId = some span → span.end ≤ ts) :
    Reached w databaseId range.latest ts := by
  obtain ⟨span,spanned,latest,_⟩ := coveredSpan available covers
  obtain ⟨segment,mem,position,by_⟩ := spanReached spanned
  exact ⟨segment,mem,position.trans latest.symm,le_trans by_ (asked span spanned)⟩

structure Kept (w : World) : Prop where
  unique : Rows.Unique PitrRestore.id w.restores
  stops : ∀ r ∈ w.restores, Stops w r
  named : ∀ n ∈ w.named, n.2.isSome

def Writable (w : World) (restore : PitrRestore) : Prop :=
  Stops w restore ∧ ∀ row ∈ w.restores, row.id = restore.id → row.databaseId = restore.databaseId

theorem stopsGrow (stops : Stops w restore) (sink : ∀ databaseId, w.sink.segments databaseId ⊆ next.sink.segments databaseId)
    (backups : w.backups ⊆ next.backups) (named : ∀ id, (id,none) ∈ next.named → (id,none) ∈ w.named) : Stops next restore := by
  intro window staged
  obtain ⟨⟨segment,mem,reached⟩,based⟩ := stops window staged
  refine ⟨⟨segment,sink _ mem,reached⟩,fun unnamed => ?_⟩
  obtain ⟨backup,inside,taken⟩ := based (named _ unnamed)
  exact ⟨backup,backups inside,taken⟩

theorem foundWritable (kept : Kept w) (mem : restore ∈ w.restores) : Writable w restore :=
  ⟨kept.stops restore mem,fun row inside same => by rw [Rows.equalOfKey kept.unique inside mem same]⟩

theorem updateKept (kept : Kept w) {env : Env} (writable : Writable w restore) :
    Ends (env.update statement restore) w (fun _ next => Kept next ∧ Writable next restore) (fun _ => Kept) := by
  refine .attempts ?_ (fun _ _ => kept)
  intro _ next ran
  split at ran <;> cases ran
  have rewritten : ∀ row ∈ w.restores, row.id = restore.id →
      {restore with databaseId := row.databaseId} = restore := by
    intro row mem same
    rw [writable.2 row mem same]
  refine ⟨⟨Rows.updateUnique kept.unique (fun _ hit => hit.symm),?_,kept.named⟩,writable.1,?_⟩
  · intro r mem
    rcases Rows.memUpdate mem with ⟨old,_⟩ | ⟨row,inside,hit,rfl⟩
    · exact kept.stops r old
    · rw [rewritten row inside hit]
      exact writable.1
  · intro row mem same
    rcases Rows.memUpdate mem with ⟨_,other⟩ | ⟨old,inside,hit,rfl⟩
    · exact absurd same other
    · exact writable.2 old inside hit

theorem beginKeeps (began : restore.beginPromotion now = .ok next) (writable : Writable w restore) : Writable w next := by
  unfold PitrRestore.beginPromotion at began
  split at began <;> cases began
  exact writable

theorem completeKeeps (completed : restore.completePromotion now = .ok next) (writable : Writable w restore) : Writable w next := by
  unfold PitrRestore.completePromotion at completed
  split at completed <;> cases completed
  exact writable

theorem failKeeps (failed : restore.fail reason now = .ok next) (writable : Writable w restore) : Writable w next := by
  unfold PitrRestore.fail at failed
  split at failed <;> cases failed
  exact writable

theorem pitrOk (ok : pitr result = .ok a) : result = .ok a := by
  cases result with
  | error e => cases ok
  | ok b =>
    cases ok
    rfl

theorem insertEnds {env : Env} : Ends (env.insert restore baseBackup) w
    (fun _ next => (∀ old ∈ w.restores, old.id ≠ restore.id) ∧
      next = {w with restores := w.restores ++ [restore], named := w.named ++ [(restore.id,baseBackup)]}) (fun _ next => next = w) := by
  refine .attempts (fun _ next ran => ?_) (fun _ _ => rfl)
  split at ran <;> try contradiction
  split at ran <;> try contradiction
  rename_i free
  split at ran <;> cases ran
  exact ⟨fun old mem same => free (List.any_eq_true.mpr ⟨old,mem,by simp [same]⟩),rfl⟩

section Calls

variable (kept : Kept w)
include kept

theorem findThen (rest : ∀ restore, Writable w restore → Leaves (next restore) w Kept) :
    Leaves (findRestore env restoreId >>= next) w Kept := by
  refine .asks (fun restore found => ?_) (fun _ _ => kept)
  split at found <;> try contradiction
  split at found <;> cases found
  rename_i hit
  exact rest restore (foundWritable kept (List.mem_of_find?_eq_some hit))

theorem promoteKept : Leaves (promoteRestore env caller restoreId) w Kept := by
  refine .asks (fun _ _ => ?_) (fun _ _ => kept)
  refine findThen kept (fun restore writable => ?_)
  refine .asks (fun begun began => ?_) (fun _ _ => kept)
  have begunWritable := beginKeeps (pitrOk began) writable
  refine .andThen (.gives (updateKept kept begunWritable) ?_)
  rintro _ mid ⟨kept,writable⟩
  refine .asks (fun ended completed => ?_) (fun _ _ => kept)
  have endedWritable := completeKeeps (pitrOk completed) writable
  refine .andThen (.gives (updateKept kept endedWritable) ?_)
  exact fun _ _ after => .returns after.1

theorem failKept : Leaves (failRestore env restoreId reason) w Kept := by
  refine findThen kept (fun restore writable => ?_)
  refine .asks (fun ended failed => ?_) (fun _ _ => kept)
  exact .gives (updateKept kept (failKeeps (pitrOk failed) writable)) (fun _ _ after => after.1)

theorem insertKept {env : Env} (bare : restore.window = none) (given : baseBackup.isSome = true) :
    Ends (env.insert restore baseBackup) w (fun _ next => Kept next ∧ next.sink = w.sink ∧
        ∀ row ∈ next.restores, row.id = restore.id → row.databaseId = restore.databaseId) (fun _ => Kept) := by
  refine .weaken insertEnds ?_ (fun _ _ same => same ▸ kept)
  rintro _ _ ⟨fresh,rfl⟩
  have unnamed : ∀ id, (id,none) ∈ w.named ++ [(restore.id,baseBackup)] → (id,none) ∈ w.named := by
    intro id mem
    rcases List.mem_append.mp mem with old | new
    · exact old
    · cases List.mem_singleton.mp new
      cases given
  refine ⟨⟨Rows.insertUnique kept.unique fresh,?_,?_⟩,rfl,?_⟩
  · intro r mem
    rcases List.mem_append.mp mem with old | new
    · exact stopsGrow (kept.stops r old) (fun _ => List.Subset.refl _) (List.Subset.refl _) unnamed
    · intro window staged
      rw [List.mem_singleton.mp new,bare] at staged
      cases staged
  · intro n mem
    rcases List.mem_append.mp mem with old | new
    · exact kept.named n old
    · rw [List.mem_singleton.mp new]
      exact given
  · intro row mem same
    rcases List.mem_append.mp mem with old | new
    · exact absurd same (fresh row old)
    · rw [List.mem_singleton.mp new]

theorem requestKept (asked : asksForEnd w (.request caller databaseId request env)) :
    Leaves (requestRestore rfc3339 env caller databaseId request) w Kept := by
  obtain ⟨given,last⟩ := asked
  refine .asks (fun _ _ => ?_) (fun _ _ => kept)
  refine .asks (fun _ _ => ?_) (fun _ _ => kept)
  refine .asks (fun requestTs bound => ?_) (fun _ _ => kept)
  refine .asks (fun range available => ?_) (fun _ _ => kept)
  refine .branch (fun _ => .fails kept) (fun covers => ?_)
  refine .asks (fun existing _ => ?_) (fun _ _ => kept)
  split
  · exact .returns kept
  have reached : Reached w databaseId range.latest requestTs.asDatetime := by
    split at available <;> try contradiction
    have instant : requestTs.asDatetime = request.timestamp := by
      have made := pitrOk bound
      unfold RestoreTimestamp.new at made
      split at made <;> cases made
      rfl
    rw [instant]
    exact endReached (pitrOk available) (by simpa using covers) last
  refine .asks (fun pending made => ?_) (fun _ _ => kept)
  obtain ⟨bare,database,instant⟩ : pending.window = none ∧ pending.databaseId = databaseId ∧
      pending.requestTs = requestTs := by
    have built := pitrOk made
    unfold PitrRestore.new at built
    split at built <;> try contradiction
    split at built <;> cases built
    exact ⟨rfl,rfl,rfl⟩
  refine .andThen (.gives (insertKept kept bare given) ?_)
  rintro _ mid ⟨kept,sink,rows⟩
  refine .asks (fun staged marked => ?_) (fun _ _ => kept)
  have writable : Writable mid staged := by
    have stagedAs := pitrOk marked
    unfold PitrRestore.markStaged at stagedAs
    split at stagedAs <;> try contradiction
    split at stagedAs <;> cases stagedAs
    refine ⟨?_,rows⟩
    rintro window ⟨⟩
    refine ⟨?_,fun unnamed => absurd (kept.named _ unnamed) (by simp)⟩
    simp only [database,instant,Reached,sink]
    exact reached
  refine .andThen (.gives (updateKept kept writable) ?_)
  rintro _ last ⟨kept,_⟩
  refine .branch (fun _ => ?_) (fun _ => .returns kept)
  exact .andThen (.gives (promoteKept kept) (fun _ _ after => .returns after))

theorem fireKept (asked : asksForEnd w event) (fired : fire rfc3339 w event = some next) : Kept next := by
  cases event with
  | append databaseId segment =>
    cases fired
    refine ⟨kept.unique,fun r mem => ?_,kept.named⟩
    refine stopsGrow (kept.stops r mem) (fun other => ?_) (List.Subset.refl _) (fun _ unnamed => unnamed)
    simp only [BinlogSink.segments,List.filter_append,List.map_append]
    exact List.subset_append_left _ _
  | backUp backup =>
    cases fired
    refine ⟨kept.unique,fun r mem => ?_,kept.named⟩
    exact stopsGrow (kept.stops r mem) (fun _ => List.Subset.refl _) (List.subset_append_left _ _)
      (fun _ unnamed => unnamed)
  | request =>
    cases fired
    exact Ends.always (requestKept kept asked)
  | promote =>
    cases fired
    exact Ends.always (promoteKept kept)
  | fail =>
    cases fired
    exact Ends.always (failKept kept)

end Calls

section Requests

def Reports (next : World) (confirm : Bool) (restore : PitrRestore) : Prop :=
  next.restores.find? (fun r => r.id == restore.id) = some restore ∧ (confirm = true → restore.status = .promoted)

def openRows (databaseId : Uuid) (ts : DateTime) (w : World) : List PitrRestore :=
  w.restores.filter (fun r => r.databaseId == databaseId && r.answers ts)

structure Lone (databaseId : Uuid) (ts : DateTime) (id : Uuid) (w : World) : Prop where
  unique : Rows.Unique PitrRestore.id w.restores
  only : ∀ r ∈ openRows databaseId ts w, r.id = id

variable {w : World} {databaseId id : Uuid} {env : Env} {restore : PitrRestore}

theorem loneCount (lone : Lone databaseId ts id w) : (openRows databaseId ts w).length ≤ 1 := by
  have keys : ((openRows databaseId ts w).map PitrRestore.id).Nodup := lone.unique.sublist (List.filter_sublist.map _)
  have same := lone.only
  match rows : openRows databaseId ts w with
  | [] => simp
  | [_] => simp
  | a::b::rest =>
    rw [rows] at keys same
    have equal : a.id = b.id := (same a (by simp)).trans (same b (by simp)).symm
    simp [equal] at keys

theorem updateLone (lone : Lone databaseId ts id w) (named : restore.id = id) :
    Leaves (env.update statement restore) w (Lone databaseId ts id) := by
  refine .attempts (fun _ next ran => ?_) (fun _ _ => lone)
  split at ran <;> cases ran
  refine ⟨Rows.updateUnique lone.unique (fun _ hit => hit.symm),fun r mem => ?_⟩
  obtain ⟨mem,hit⟩ := List.mem_filter.mp mem
  obtain ⟨old,_⟩ | ⟨row,_,_,rfl⟩ := Rows.memUpdate mem
  · exact lone.only r (List.mem_filter.mpr ⟨old,hit⟩)
  · exact named

theorem updateStored (stored : w.restores.find? (fun r => r.id == restore.id) = some row)
    (database : row.databaseId = restore.databaseId) : Ends (env.update statement restore) w
      (fun _ next => next.restores.find? (fun r => r.id == restore.id) = some restore) (fun _ _ => True) := by
  refine .attempts (fun _ next ran => ?_) (fun _ _ => trivial)
  split at ran <;> cases ran
  have named : ∀ row : PitrRestore, row.id = restore.id → ({restore with databaseId := row.databaseId} : PitrRestore).id = restore.id :=
    fun _ _ => rfl
  rw [Rows.findUpdated named,stored,Option.map_some,database]

theorem promoteLone (lone : Lone databaseId ts id w) : Leaves (promoteRestore env caller id) w (Lone databaseId ts id) := by
  refine .asks (fun _ _ => ?_) (fun _ _ => lone)
  refine .asks (fun found read => ?_) (fun _ _ => lone)
  have named : found.id = id := by
    split at read <;> try contradiction
    split at read <;> cases read
    rename_i hit
    simpa using List.find?_some hit
  refine .asks (fun begun began => ?_) (fun _ _ => lone)
  have begunNamed : begun.id = id := by
    have made := pitrOk began
    unfold PitrRestore.beginPromotion at made
    split at made <;> cases made
    exact named
  refine .andThen (.gives (updateLone lone begunNamed) (fun _ mid lone => ?_))
  refine .asks (fun ended completed => ?_) (fun _ _ => lone)
  have endedNamed : ended.id = id := by
    have made := pitrOk completed
    unfold PitrRestore.completePromotion at made
    split at made <;> cases made
    exact begunNamed
  exact .andThen (.gives (updateLone lone endedNamed) (fun _ _ after => .returns after))

theorem insertLone (unique : Rows.Unique PitrRestore.id w.restores) (closed : openRows databaseId ts w = []) :
    Ends (env.insert restore baseBackup) w
      (fun _ next => Lone databaseId ts restore.id next ∧ next.restores.find? (fun r => r.id == restore.id) = some restore)
      (fun _ next => next = w) := by
  refine .gives insertEnds ?_
  rintro _ _ ⟨fresh,rfl⟩
  refine ⟨⟨Rows.insertUnique unique fresh,fun r mem => ?_⟩,?_⟩
  · simp only [openRows,List.filter_append] at closed mem
    rw [closed,List.nil_append] at mem
    rw [List.mem_singleton.mp (List.mem_filter.mp mem).1]
  · rw [List.find?_append,List.find?_eq_none.mpr (fun old mem => by simpa using fresh old mem)]
    simp

theorem noneOpen (none : (listByDatabase w.restores databaseId).find? (PitrRestore.answers ts) = none) :
    openRows databaseId ts w = [] := by
  refine List.filter_eq_nil_iff.mpr (fun r mem hit => ?_)
  simp only [Bool.and_eq_true,beq_iff_eq] at hit
  refine List.find?_eq_none.mp none r ?_ hit.2
  exact (List.mem_insertionSort _).mpr (List.mem_filter.mpr ⟨mem,by simp [hit.1]⟩)

theorem requestEnds (rfc3339) (env) (databaseId) (caller) (request) (unique : Rows.Unique PitrRestore.id w.restores) :
    Ends (requestRestore rfc3339 env caller databaseId request) w
      (fun restore next => (Reports next request.confirm restore ↔ request.confirm = false) ∧
        (next = w ∨ ∃ id, Lone databaseId request.timestamp id next))
      (fun _ next => next = w ∨ ∃ id, Lone databaseId request.timestamp id next) := by
  have unchanged : w = w ∨ ∃ id, Lone databaseId request.timestamp id w := .inl rfl
  refine .asks (fun _ _ => ?_) (fun _ _ => unchanged)
  refine .asks (fun _ _ => ?_) (fun _ _ => unchanged)
  refine .asks (fun requestTs _ => ?_) (fun _ _ => unchanged)
  refine .asks (fun range _ => ?_) (fun _ _ => unchanged)
  refine .branch (fun _ => .fails unchanged) (fun _ => ?_)
  refine .asks (fun existing listed => ?_) (fun _ _ => unchanged)
  have rows : existing = listByDatabase w.restores databaseId := by
    split at listed <;> cases listed
    rfl
  subst rows
  split
  · -- The open row is returned as it is stored, promoted or not.
    rename_i restore found
    have mem : restore ∈ w.restores :=
      (List.mem_filter.mp ((List.mem_insertionSort _).mp (List.mem_of_find?_eq_some found))).1
    have stored : w.restores.find? (fun r => r.id == restore.id) = some restore :=
      Rows.findOnly mem (by simp) (fun other inside same => Rows.equalOfKey unique inside mem (by simpa using same))
    have isOpen := List.find?_some found
    refine .returns ⟨⟨fun reports => ?_,fun off => ⟨stored,by simp [off]⟩⟩,unchanged⟩
    by_contra on
    have promoted := reports.2 (by simpa using on)
    simp [PitrRestore.answers,promoted] at isOpen
  · rename_i missing
    have closed := noneOpen missing
    refine .asks (fun pending made => ?_) (fun _ _ => unchanged)
    refine .andThen (.weaken (insertLone unique closed) ?_ (fun _ _ same => .inl same))
    rintro _ mid ⟨lone,stored⟩
    refine .asks (fun staged marked => ?_) (fun _ _ => .inr ⟨_,lone⟩)
    obtain ⟨named,database,status⟩ : staged.id = pending.id ∧ staged.databaseId = pending.databaseId ∧ staged.status = .staged := by
      have stagedAs := pitrOk marked
      unfold PitrRestore.markStaged at stagedAs
      split at stagedAs <;> try contradiction
      split at stagedAs <;> cases stagedAs
      exact ⟨rfl,rfl,rfl⟩
    refine .andThen (.weaken (.both (updateLone lone named) (updateStored (named ▸ stored) database.symm)) ?_
      (fun _ _ left => .inr ⟨_,left.1⟩))
    rintro _ last ⟨lone,stored⟩
    refine .branch (fun on => ?_) (fun off => .returns ⟨⟨fun _ => by simpa using off,fun _ => ⟨stored,?_⟩⟩,.inr ⟨_,lone⟩⟩)
    · rw [named]
      refine .andThen (.weaken (promoteLone lone) (fun _ _ lone => ?_) (fun _ _ left => .inr ⟨_,left⟩))
      refine .returns ⟨⟨fun reports => ?_,fun off => absurd on (by simp [off])⟩,.inr ⟨_,lone⟩⟩
      have promoted := reports.2 on
      rw [status] at promoted
      cases promoted
    · exact fun on => absurd on off

theorem requestReports (rfc3339 : DateTime → String) (env : Env) (caller : User) (databaseId : Uuid) (request : RestoreRequest)
    (unique : Rows.Unique PitrRestore.id w.restores) :
    (∀ restore next, exec (requestRestore rfc3339 env caller databaseId request) w = (.ok restore,next) →
      (Reports next request.confirm restore ↔ request.confirm = false)) ∧
    (openRows databaseId request.timestamp (exec (requestRestore rfc3339 env caller databaseId request) w).2).length ≤
      max 1 (openRows databaseId request.timestamp w).length := by
  have ends := requestEnds rfc3339 env databaseId caller request unique
  refine ⟨fun restore next ran => (ends.reached ran).1,?_⟩
  have left : (fun next => next = w ∨ ∃ id, Lone databaseId request.timestamp id next)
      (exec (requestRestore rfc3339 env caller databaseId request) w).2 :=
    Ends.always (.gives ends (fun _ _ after => after.2))
  obtain same | ⟨id,lone⟩ := left
  · rw [same]
    exact le_max_right _ _
  · exact le_trans (loneCount lone) (le_max_left _ _)

end Requests

def World.start (databases : List Database) : World := ⟨databases,[],[],[],[]⟩

theorem restoresStop (rfc3339 : DateTime → String) {databases events last}
    (run : Run (fire rfc3339) asksForEnd (World.start databases) events last) :
    ∀ restore ∈ last.restores, Stops last restore := by
  have start : Kept (World.start databases) :=
    ⟨List.nodup_nil,fun _ mem => absurd mem List.not_mem_nil,fun _ mem => absurd mem List.not_mem_nil⟩
  exact (run.keeps (fun _ _ _ kept asked fired => fireKept kept asked fired) start).stops

def owner : User := ⟨9,⟨"owner",by decide⟩,⟨"owner@panel.test",by decide⟩,.owner,none,none,0⟩

def streamed : List Event :=
  [.append 1 ⟨⟨[0],by decide⟩,⟨[1],by decide⟩,0⟩,.append 1 ⟨⟨[1],by decide⟩,⟨[2],by decide⟩,100⟩,.backUp ⟨7,1,10⟩]

def asked (ts : DateTime) (baseBackup : Option Uuid) : Event :=
  .request owner 1 ⟨ts,baseBackup,false⟩
    {checkedAt := 200, now := 200, restoreId := 3, baseId := 4, stagingId := 5}

instance (w event) : Decidable (asksForEnd w event) :=
  match event with
  | .request _ databaseId request _ =>
    decidable_of_iff (request.baseBackup.isSome ∧ ((w.sink.span databaseId).all (fun span => span.end ≤ request.timestamp)))
      (by cases spanned : w.sink.span databaseId <;> simp [asksForEnd,spanned])
  | .append .. => isTrue trivial
  | .backUp .. => isTrue trivial
  | .promote .. => isTrue trivial
  | .fail .. => isTrue trivial

def shown (w : World) : List (Option RestoreReplayWindow) := w.restores.map PitrRestore.window

theorem restoresStopNewest : ∃ last,
    Run (fire fun _ => "") asksForEnd (World.start [⟨1,9⟩]) (streamed ++ [asked 100 (some 7)]) last ∧
    shown last = [some ⟨7,⟨[2],by decide⟩⟩] ∧ ∀ restore ∈ last.restores, Stops last restore := by
  obtain ⟨last,run,windows⟩ := replayShows (fire fun _ => "") asksForEnd (World.start [⟨1,9⟩]) (streamed ++ [asked 100 (some 7)])
    (fun w => shown w = [some ⟨7,⟨[2],by decide⟩⟩]) (by decide +kernel)
  exact ⟨last,run,windows,restoresStop _ run⟩

theorem replayOvershoots : ∃ last restore,
    Run (fire fun _ => "") free (World.start [⟨1,9⟩]) (streamed ++ [asked 50 none]) last ∧
    restore ∈ last.restores ∧ restore.window = some ⟨4,⟨[2],by decide⟩⟩ ∧
    ¬ Reached last 1 ⟨[2],by decide⟩ 50 ∧ (∀ backup ∈ last.backups, backup.id ≠ 4) ∧ ¬ Stops last restore := by
  let restore : PitrRestore :=
    ⟨3,1,⟨50⟩,some ⟨4,⟨[2],by decide⟩⟩,some 5,.staged,"owner",200,200,none⟩
  let last : World :=
    ⟨[⟨1,9⟩],[(1,⟨⟨[0],by decide⟩,⟨[1],by decide⟩,0⟩),(1,⟨⟨[1],by decide⟩,⟨[2],by decide⟩,100⟩)],[⟨7,1,10⟩],
      [restore],[(3,none)]⟩
  have computed : replay (fire fun _ => "") free (World.start [⟨1,9⟩]) (streamed ++ [asked 50 none]) =
      some last := by decide +kernel
  have late : ¬ Reached last 1 ⟨[2],by decide⟩ 50 := by unfold Reached; decide
  exact ⟨last,restore,replaySound computed,List.mem_cons_self,rfl,late,by decide,
    fun stops => late (stops _ rfl).1⟩

def logged : World := ⟨[⟨1,9⟩],[(1,⟨⟨[0],by decide⟩,⟨[1],by decide⟩,0⟩),(1,⟨⟨[1],by decide⟩,⟨[2],by decide⟩,100⟩)],[],[],[]⟩

def tomorrow : Env := {checkedAt := 200, now := 200, promotedAt := 201, restoreId := 3, baseId := 4, stagingId := 5}

def stagedRow : PitrRestore := ⟨3,1,⟨50⟩,some ⟨4,⟨[2],by decide⟩⟩,some 5,.staged,"owner",200,200,none⟩

theorem stagedReported : ∃ next, exec (requestRestore (fun _ => "") tomorrow owner 1 ⟨50,none,false⟩) logged = (.ok stagedRow,next) ∧
    Reports next false stagedRow := by
  have ran : exec (requestRestore (fun _ => "") tomorrow owner 1 ⟨50,none,false⟩) logged =
      (.ok stagedRow,{logged with restores := [stagedRow], named := [(3,none)]}) := rfl
  exact ⟨_,ran,((requestReports (fun _ => "") tomorrow owner 1 ⟨50,none,false⟩
    (show Rows.Unique PitrRestore.id logged.restores from List.nodup_nil)).1 _ _ ran).mpr rfl⟩

theorem promotedUnreported : ∃ next, exec (requestRestore (fun _ => "") tomorrow owner 1 ⟨50,none,true⟩) logged = (.ok stagedRow,next) ∧
    next.restores = [{stagedRow with status := .promoted, updatedAt := 201}] ∧
    exec (requestRestore (fun _ => "") {tomorrow with restoreId := 6} owner 1 ⟨50,none,true⟩) {logged with restores := [stagedRow]} =
      (.ok stagedRow,{logged with restores := [stagedRow]}) :=
  ⟨{logged with restores := [{stagedRow with status := .promoted, updatedAt := 201}], named := [(3,none)]},rfl,rfl,rfl⟩

end OpenPanel.Pitr
