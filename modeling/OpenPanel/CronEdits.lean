import OpenPanel.CronHistory

/-! Operator edits against a running tick. A tick reads all due jobs at once and
writes each one back whole when its turn comes, so an edit stored in between is
overwritten. When no edit is stored between the read and the write of the same
job, the settings of a job are always those of the last edit. -/
namespace OpenPanel.Cron
open CallPool GuardedRun

def Caller.rest : Caller → List CronJob
  | .direct => []
  | .tick _ _ _ rest => rest

def Pc.pendingJobs : Pc → List CronJob
  | .save _ _ _ job rest => job::rest
  | .get _ _ _ caller | .scan _ _ caller | .insertSkipped _ _ _ caller | .insertLeased _ _ _ caller
  | .launch _ _ caller | .executing _ _ caller | .finish _ caller => caller.rest
  | _ => []

def editsApart : Discipline Db Pc Env where
  alone _ _ _ := True
  beside _ pc env other := ∀ job ∈ pc.savesEdit env, ∀ pending ∈ other.pendingJobs, pending.id ≠ job.id

def noEditOf (id : Uuid) : Discipline Db Pc Env where
  alone _ pc env := ∀ job ∈ pc.savesEdit env, job.id ≠ id
  beside := editsApart.beside

instance (s p i) : Decidable (editsApart.alone s p i) := by unfold editsApart; infer_instance
instance (s p i q) : Decidable (editsApart.beside s p i q) := by unfold editsApart; infer_instance
instance (id s p i) : Decidable ((noEditOf id).alone s p i) := by unfold noEditOf; infer_instance
instance (id s p i q) : Decidable ((noEditOf id).beside s p i q) :=
  inferInstanceAs (Decidable (editsApart.beside s p i q))

def SameSettings (a b : CronJob) : Prop := a.id = b.id ∧ a.settings = b.settings

def Carries (jobs' jobs : List CronJob) : Prop := ∀ a ∈ jobs', ∃ b ∈ jobs, SameSettings a b

inductive JobEffect (db : Db) (env : Env) : Pc → Db → Pc → Prop where
  | other {pc db' pc'} (jobs : db'.jobs = db.jobs) (unsaved : pc.savesEdit env = none)
      (pending : Carries pc'.pendingJobs pc.pendingJobs) : JobEffect db env pc db' pc'
  | read {now retention pc'} (pending : Carries pc'.pendingJobs db.list) :
      JobEffect db env (.listDue now retention) db pc'
  | save {now retention count job rest pc'} (pending : pc'.pendingJobs = rest) :
      JobEffect db env (.save now retention count job rest) (db.save job) pc'
  | edit {job} (stored : env.fault = none) :
      JobEffect db env (.saveEdit job) (db.save job) (.done (.edited job))

theorem nextDueCarries (cal now retention count due) : Carries (nextDue cal now retention count due).pendingJobs due := by
  cases due with
  | nil =>
    simp only [nextDue]
    split <;> simp [Carries,Pc.pendingJobs]
  | cons job rest =>
    have kept := advanceKeeps cal job now
    simp only [nextDue]
    split
    · simp [Carries,Pc.pendingJobs]
    · rename_i next _ advanced
      rw [advanced] at kept
      intro a mem
      rcases List.mem_cons.mp mem with rfl | inside
      · exact ⟨job,List.mem_cons_self,kept.2,kept.1⟩
      · exact ⟨a,List.mem_cons_of_mem _ inside,rfl,rfl⟩

theorem carriesRefl (jobs) : Carries jobs jobs := fun a mem => ⟨a,mem,rfl,rfl⟩

theorem carriesNil (jobs) : Carries [] jobs := by simp [Carries]

theorem resumeCarries (cal run) (caller : Caller) : Carries (caller.resume cal run).pendingJobs caller.rest := by
  cases caller with
  | direct => exact carriesNil _
  | tick now retention count rest => exact nextDueCarries cal now retention count rest

theorem insertJobs {db db' : Db} (ok : db.insertRun ownerId run now = .ok db') : db'.jobs = db.jobs := by
  obtain ⟨_,_,rfl⟩ := insertedRun ok
  rfl

theorem recoveringPending (now retention runs) : (recovering now retention runs).pendingJobs = [] := by
  cases runs <;> rfl

theorem pruningPending (count ids) : (pruning count ids).pendingJobs = [] := by
  cases ids <;> rfl

theorem jobEffect (ok : step cal db pc env = some (db',pc')) : JobEffect db env pc db' pc' := by
  cases move ok with
  | failed unsaved => exact .other rfl unsaved (carriesNil _)
  | get | skip | lease | overtaken | launch | settle => exact .other rfl rfl (carriesRefl _)
  | edit => exact .other rfl rfl (carriesNil _)
  | insertSkipped inserted => exact .other (insertJobs inserted) rfl (resumeCarries cal _ _)
  | insertLeased inserted => exact .other (insertJobs inserted) rfl (carriesRefl _)
  | finish run caller => exact .other rfl rfl (resumeCarries cal run caller)
  | recoverScan | recover => exact .other rfl rfl (recoveringPending .. ▸ carriesNil _)
  | pruneScan | prune => exact .other rfl rfl (pruningPending .. ▸ carriesNil _)
  | listDue listed =>
    refine .read ?_
    intro a mem
    obtain ⟨b,inside,same⟩ := nextDueCarries cal _ _ _ _ a mem
    exact ⟨b,listed inside,same⟩
  | save => exact .save rfl
  | saveEdit _ stored => exact .edit stored

structure JobsStored (db : Db) : Prop where
  unique : Rows.Unique JobRow.id db.jobs
  payload : ∀ r ∈ db.jobs, r.payload.id = r.id

def Keeps (db : Db) (job : CronJob) : Prop :=
  ∀ r ∈ db.jobs, r.id = job.id → r.payload.settings = job.settings

def editsOutline : Outline Db Pc where
  shared := JobsStored
  point db pc := ∀ job ∈ pc.pendingJobs, Keeps db job
  pair _ _ := True

theorem memSave {db : Db} (mem : r ∈ (db.save job).jobs) :
    (r ∈ db.jobs ∧ r.id ≠ job.id) ∨ ∃ old ∈ db.jobs, old.id = job.id ∧ r = {old with payload := job} :=
  Rows.memUpdate mem

theorem savedJobs (stored : JobsStored db) (job) : JobsStored (db.save job) := by
  refine ⟨Rows.updateUnique stored.unique (fun _ _ => rfl),?_⟩
  intro r mem
  obtain ⟨old,_⟩ | ⟨old,_,hit,rfl⟩ := memSave mem
  · exact stored.payload r old
  · exact hit.symm

theorem keepsSave (current : Keeps db mine) (kept : Keeps db job) : Keeps (db.save mine) job := by
  intro r mem same
  obtain ⟨old,_⟩ | ⟨old,inside,hit,rfl⟩ := memSave mem
  · exact kept r old same
  · exact (current old inside hit).symm.trans (kept old inside same)

theorem keepsOther (different : job.id ≠ mine.id) (kept : Keeps db job) : Keeps (db.save mine) job := by
  intro r mem same
  obtain ⟨old,_⟩ | ⟨old,_,hit,rfl⟩ := memSave mem
  · exact kept r old same
  · exact absurd (same.symm.trans hit) different

theorem keepsMine (db : Db) (job) : Keeps (db.save job) job := by
  intro r mem same
  obtain ⟨_,miss⟩ | ⟨_,_,_,rfl⟩ := memSave mem
  · exact absurd same miss
  · rfl

theorem keepsCarried (carried : Carries jobs' jobs) (kept : ∀ job ∈ jobs, Keeps db job) : ∀ job ∈ jobs', Keeps db job := by
  intro job mem r inside same
  obtain ⟨before,member,id,settings⟩ := carried job mem
  exact (kept before member r inside (same.trans id)).trans settings.symm

theorem listedKept (stored : JobsStored db) : ∀ job ∈ db.list, Keeps db job := by
  intro job mem r inside same
  simp only [Db.list,List.mem_map,List.mem_insertionSort] at mem
  obtain ⟨origin,member,rfl⟩ := mem
  rw [Rows.equalOfKey stored.unique inside member (same.trans (stored.payload origin member))]

theorem keepsSame (jobs : db'.jobs = db.jobs) (kept : Keeps db job) : Keeps db' job := by
  unfold Keeps
  rw [jobs]
  exact kept

theorem editsSound (cal) : editsOutline.Sound (machine cal) editsApart where
  symm _ _ _ := trivial
  start _ pc h := by
    cases pc <;> first | contradiction | skip
    all_goals simp [editsOutline,Pc.pendingJobs]
    rename_i caller
    cases caller <;> first | contradiction | simp [Caller.rest]
  startPair _ _ _ _ _ := trivial
  own db pc env db' pc' stored here _ ok := by
    cases jobEffect ok with
    | other jobs _ pending =>
      refine ⟨⟨jobs ▸ stored.unique,jobs ▸ stored.payload⟩,?_⟩
      exact keepsCarried pending (fun job mem => keepsSame jobs (here job mem))
    | read pending => exact ⟨stored,keepsCarried pending (listedKept stored)⟩
    | @save now retention count job rest _ pending =>
      refine ⟨savedJobs stored job,?_⟩
      intro later mem
      rw [pending] at mem
      exact keepsSave (here job List.mem_cons_self) (here later (List.mem_cons_of_mem _ mem))
    | edit => exact ⟨savedJobs stored _,by simp [editsOutline,Pc.pendingJobs]⟩
  other db pc env db' pc' q stored here theirs _ _ allowed ok := by
    refine ⟨?_,trivial⟩
    intro job mem
    cases jobEffect ok with
    | other jobs _ _ => exact keepsSame jobs (theirs job mem)
    | read _ => exact theirs job mem
    | @save now retention count mine rest _ _ =>
      exact keepsSave (here mine List.mem_cons_self) (theirs job mem)
    | @edit mine clean =>
      exact keepsOther (allowed mine (by simp [Pc.savesEdit,clean]) job mem) (theirs job mem)

theorem keepsStep (holds : editsOutline.Holds c) (allowed : (noEditOf job.id).guard c e) (kept : Keeps c.shared job)
    (fired : (machine cal).fire c e = some next) : Keeps next.shared job := by
  obtain ⟨point,rfl,entry,rfl⟩ | ⟨index,input,point,shared,target,rfl,found,moved,rfl⟩ :=
    fireCases fired
  · exact kept
  · have here := holds.point point (List.mem_of_getElem? found)
    cases jobEffect moved with
    | other jobs _ _ => exact keepsSame jobs kept
    | read _ => exact kept
    | @save now retention count mine rest _ _ => exact keepsSave (here mine List.mem_cons_self) kept
    | @edit mine clean =>
      have different := (allowed _ found).1 mine (by simp [Pc.savesEdit,clean])
      exact keepsOther (Ne.symm different) kept

theorem noEditWeaker {id} (c) (e) (allowed : (noEditOf id).guard c e) : editsApart.guard c e := by
  cases e with
  | start point => trivial
  | step index input => exact fun point found => ⟨trivial,(allowed point found).2⟩

theorem editReturned (ok : step cal db (.saveEdit job) env = some (db',.done (.edited job))) : db' = db.save job := by
  cases move ok with
  | saveEdit => rfl

theorem editsKept {cal db es mid index env after more last job} (stored : JobsStored db)
    (run : Run (machine cal).fire editsApart.guard ⟨db,[]⟩ es mid)
    (saving : mid.calls[index]? = some (.saveEdit job)) (allowed : editsApart.guard mid (.step index env))
    (fired : (machine cal).fire mid (.step index env) = some after)
    (returned : after.calls[index]? = some (.done (.edited job)))
    (later : Run (machine cal).fire (noEditOf job.id).guard after more last) :
    ∀ r ∈ last.shared.jobs, r.id = job.id → r.payload.settings = job.settings := by
  have sound := editsSound cal
  have holds := Outline.stepHolds sound
    (editsOutline.runHolds sound run (Outline.emptyHolds stored)) allowed fired
  have kept : Keeps after.shared job := by
    obtain ⟨_,same,_⟩ | ⟨i,input,point,shared,target,same,found,moved,rfl⟩ := fireCases fired
    · contradiction
    · cases same
      cases Option.some.inj (saving.symm.trans found)
      have inside := (List.getElem?_eq_some_iff.mp saving).1
      simp only [List.getElem?_set_self inside,Option.some.injEq] at returned
      subst returned
      rw [editReturned moved]
      exact keepsMine _ job
  have both : ∀ c e next, editsOutline.Holds c ∧ Keeps c.shared job → (noEditOf job.id).guard c e →
      (machine cal).fire c e = some next → editsOutline.Holds next ∧ Keeps next.shared job :=
    fun c e next inv quiet moved =>
      ⟨Outline.stepHolds sound inv.1 (noEditWeaker c e quiet) moved,keepsStep inv.1 quiet inv.2 moved⟩
  exact (later.keeps both ⟨holds,kept⟩).2

def ticking : List (Event Pc Env) :=
  [.start (tick (seconds 1700000040) 30),.step 0 {},.step 0 {},.start (setEnabled 3 false 7 false),
    .step 1 {now := seconds 1700000041}]

def disabledHourly : CronJob := hourly.disable (seconds 1700000041)

def enabledOf (id : Uuid) (c : Pool Db Pc) : Option Bool :=
  (c.shared.jobs.find? (fun r => r.id == id)).map (fun r => r.payload.enabled)

theorem enabledOfRow {id c enabled} (found : enabledOf id c = some enabled) :
    ∃ r ∈ c.shared.jobs, r.id = id ∧ r.payload.enabled = enabled := by
  obtain ⟨r,hit,same⟩ := Option.map_eq_some_iff.mp found
  exact ⟨r,(Rows.found hit).1,(Rows.found hit).2,same⟩

theorem storedHourly : JobsStored hourlyDb := ⟨by decide,by decide⟩

theorem editOverwritten : JobsStored hourlyDb ∧ ∃ mid after last,
    Run (machine everyMinute).fire free ⟨hourlyDb,[]⟩ ticking mid ∧
    mid.calls[1]? = some (.saveEdit disabledHourly) ∧
    (machine everyMinute).fire mid (.step 1 {}) = some after ∧
    after.calls[1]? = some (.done (.edited disabledHourly)) ∧
    Run (machine everyMinute).fire free after [.step 0 {}] last ∧
    ∃ r ∈ last.shared.jobs, r.id = disabledHourly.id ∧ r.payload.settings ≠ disabledHourly.settings := by
  have computed : (do
      let mid ← replay (machine everyMinute).fire free ⟨hourlyDb,[]⟩ ticking
      let after ← (machine everyMinute).fire mid (.step 1 {})
      let last ← replay (machine everyMinute).fire free after [.step 0 {}]
      some (mid.calls[1]?,after.calls[1]?,enabledOf 7 last)) =
      some (some (.saveEdit disabledHourly),some (.done (.edited disabledHourly)),some true) := by decide
  simp only [bind,Option.bind_eq_some_iff,Option.some.injEq,Prod.mk.injEq] at computed
  obtain ⟨mid,first,after,second,last,third,saving,returned,on⟩ := computed
  obtain ⟨r,mem,id,enabled⟩ := enabledOfRow on
  refine ⟨storedHourly,mid,after,last,replaySound first,saving,second,returned,replaySound third,
    r,mem,id,?_⟩
  intro same
  have flags : r.payload.enabled = disabledHourly.enabled := congrArg Settings.enabled same
  rw [enabled] at flags
  contradiction

def early : List (Event Pc Env) :=
  [.start (setEnabled 3 false 7 false),.step 0 {now := seconds 1700000041},
    .start (tick (seconds 1700000040) 30),.step 1 {}]

theorem editsKeptHourly : ∃ mid after last,
    Run (machine everyMinute).fire editsApart.guard ⟨hourlyDb,[]⟩ early mid ∧
    (machine everyMinute).fire mid (.step 0 {}) = some after ∧
    Run (machine everyMinute).fire (noEditOf 7).guard after [.step 1 {},.step 1 {}] last ∧
    ∃ r ∈ last.shared.jobs, r.id = 7 ∧ r.payload.settings = disabledHourly.settings := by
  have computed : (do
      let mid ← replay (machine everyMinute).fire editsApart.guard ⟨hourlyDb,[]⟩ early
      let after ← (machine everyMinute).fire mid (.step 0 {})
      let last ← replay (machine everyMinute).fire (noEditOf 7).guard after [.step 1 {},.step 1 {}]
      some (mid.calls[0]?,decide (editsApart.guard mid (.step 0 {})),after.calls[0]?,enabledOf 7 last)) =
      some (some (.saveEdit disabledHourly),true,some (.done (.edited disabledHourly)),some false) := by
    decide
  simp only [bind,Option.bind_eq_some_iff,Option.some.injEq,Prod.mk.injEq,decide_eq_true_eq] at computed
  obtain ⟨mid,first,after,second,last,third,saving,allowed,returned,off⟩ := computed
  obtain ⟨r,mem,id,_⟩ := enabledOfRow off
  exact ⟨mid,after,last,replaySound first,second,replaySound third,r,mem,id,
    editsKept storedHourly (replaySound first) saving allowed second returned (replaySound third) r mem id⟩

end OpenPanel.Cron
