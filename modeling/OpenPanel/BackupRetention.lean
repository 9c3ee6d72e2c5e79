import OpenPanel.BackupService

/-! What retention deletes. The runs of a plan are listed newest first, so the
candidates come to the policy in the order it sorts them into, and it drops the
first `copies` of those that may go. Each deletion looks its run up again and
finds it as listed. -/
namespace OpenPanel.Backups
open Fallible

def BackupRun.expendable (run : BackupRun) : Bool := run.state == .completed && !run.pinned

def BackupRun.ofPlan (plan : BackupPlan) (run : BackupRun) : Prop := run.planId = plan.id ∧ run.ownerId = plan.ownerId

instance (plan run) : Decidable (BackupRun.ofPlan plan run) := inferInstanceAs (Decidable (_ ∧ _))

def newer (listing : Listing) (runs : List BackupRun) (plan : BackupPlan) (run : BackupRun) : List BackupRun :=
  ((listing.arrange (runs.filter (visible plan.ownerId false))).takeWhile (fun r => r ≠ run)).filter
    (fun r => r.planId == plan.id && r.expendable)

def Surplus (listing : Listing) (runs : List BackupRun) (plan : BackupPlan) (run : BackupRun) : Prop :=
  run.ofPlan plan ∧ run.state = .completed ∧ run.pinned = false ∧
    plan.retention.copies ≤ (newer listing runs plan run).length

instance (listing runs plan run) : Decidable (Surplus listing runs plan run) :=
  inferInstanceAs (Decidable (_ ∧ _ ∧ _ ∧ _))

theorem zipIdxSorted (runs : List BackupRun) : (runs.zipIdx.map retentionCandidate).Pairwise (fun a b => b.sequence ≤ a.sequence) := by
  have counted : (runs.zipIdx.map Prod.snd).Pairwise (· < ·) := by
    rw [List.zipIdx_map_snd]
    exact List.pairwise_lt_range'
  refine List.pairwise_map.mpr ((List.pairwise_map.mp counted).imp ?_)
  intro a b before
  have sequence : ∀ entry, (retentionCandidate entry).sequence = -(entry.2 : Int) := by
    intro entry
    unfold retentionCandidate
    split <;> rfl
  rw [sequence,sequence]
  omega

theorem deletionsListed (policy : RetentionPolicy) (runs : List BackupRun) :
    policy.deletions (runs.zipIdx.map retentionCandidate) =
      ((runs.filter BackupRun.expendable).drop policy.copies).map BackupRun.id := by
  have kind : ∀ entry, ((retentionCandidate entry).completed && !(retentionCandidate entry).pinned) =
      entry.1.expendable := by
    intro entry
    unfold retentionCandidate BackupRun.expendable
    split
    · rename_i done
      simp [RetentionCandidate.terminal,done]
    · rename_i other
      simp [RetentionCandidate.active,other]
  have named : ∀ entry, (retentionCandidate entry).id = entry.1.id := by
    intro entry
    unfold retentionCandidate
    split <;> rfl
  unfold RetentionPolicy.deletions
  rw [((zipIdxSorted runs).filter _).insertionSort_eq,List.filter_map,← List.map_drop,List.map_map]
  have listed : (runs.zipIdx.filter (fun entry => entry.1.expendable)).map Prod.fst =
      runs.filter BackupRun.expendable := by
    calc (runs.zipIdx.filter (BackupRun.expendable ∘ Prod.fst)).map Prod.fst
      _ = (runs.zipIdx.map Prod.fst).filter BackupRun.expendable := (List.filter_map ..).symm
      _ = runs.filter BackupRun.expendable := by rw [List.zipIdx_map_fst]
  rw [← listed,← List.map_drop,List.map_map]
  simp only [Function.comp_def,kind,named]

section Deletion

variable {w : World}

def FilesKept (ids : List Uuid) (w next : World) : Prop := ∀ f ∈ w.stored, f.runId ∉ ids → f ∈ next.stored

/-- The rows are gone, and the files of the rows with them where they could be removed. -/
def Removed (env : Env) (ids : List Uuid) (w next : World) : Prop :=
  next.runs = w.runs.filter (fun r => r.id ∉ ids) ∧
    next.stored = w.stored.filter (fun f => f.runId ∉ ids ∨ env.fault (.removeFiles f.runId) ≠ none)

def RemovedSome (env : Env) (ids : List Uuid) (w next : World) : Prop :=
  (∃ gone : List Uuid, (∀ id ∈ gone, id ∈ ids) ∧ next.runs = w.runs.filter (fun r => r.id ∉ gone)) ∧
    FilesKept ids w next ∧ ∃ step, env.fault step ≠ none

theorem Removed.filesKept (removed : Removed env ids w next) : FilesKept ids w next := by
  intro f inside other
  rw [removed.2]
  exact List.mem_filter.mpr ⟨inside,decide_eq_true (.inl other)⟩

theorem getRunFinds (unique : Rows.Unique BackupRun.id w.runs) (mem : run ∈ w.runs) (seen : visible owner all run = true)
    (faulted : ∀ message, env.fault (.runs turn) = some message → failed (.internal message) w)
    (found : Ends (next run) w post failed) : Ends (getRun env turn owner all run.id >>= next) w post failed := by
  have listed : (env.listing.arrange (w.runs.filter (visible owner all))).find? (fun r => r.id == run.id) = some run := by
    have perm := env.listing.same (w.runs.filter (visible owner all))
    refine Rows.findOnly (perm.mem_iff.mpr (List.mem_filter.mpr ⟨mem,seen⟩)) (by simp) ?_
    intro other inside same
    exact Rows.equalOfKey unique (List.mem_of_mem_filter (perm.mem_iff.mp inside)) mem (by simpa using same)
  have looked : Ends (getRun env turn owner all run.id) w (fun r last => r = run ∧ last = w) failed := by
    refine .andThen (queryEnds ?_ faulted nofun)
    intro runs _ read
    cases read
    refine .checks ?_ ?_
    · intro r hit
      rw [listed] at hit
      cases hit
      exact ⟨rfl,rfl⟩
    · intro e missed
      rw [listed] at missed
      cases missed
  refine .andThen (.gives looked ?_)
  rintro _ _ ⟨rfl,rfl⟩
  exact found

theorem deleteRunEnds (unique : Rows.Unique BackupRun.id w.runs) (mem : run ∈ w.runs)
    (own : run.ownerId = owner) (done : run.state = .completed) : Ends (deleteRun env turn owner false run.id) w
      (fun _ => Removed env [run.id] w) (fun _ next => next.runs = w.runs ∧ FilesKept [run.id] w next ∧ ∃ step, env.fault step ≠ none) := by
  refine getRunFinds unique mem (by simp [visible,own]) ?_ ?_
  · exact fun message fault => ⟨rfl,fun _ inside _ => inside,_,by rw [fault]; nofun⟩
  rw [if_neg (by simp [done])]
  refine .andThen (.attempts ?_ (fun e stopped => nomatch stopped))
  rintro _ mid cleared
  have files : mid.runs = w.runs ∧
      mid.stored = w.stored.filter (fun f => f.runId ∉ [run.id] ∨ env.fault (.removeFiles f.runId) ≠ none) := by
    cases cleared
    split
    · rename_i message fault
      refine ⟨rfl,(List.filter_eq_self.mpr (fun f _ => decide_eq_true ?_)).symm⟩
      by_cases ours : f.runId = run.id
      · exact .inr (by rw [ours,fault]; nofun)
      · exact .inl (by simpa using ours)
    · rename_i sound
      refine ⟨rfl,List.filter_congr (fun f _ => decide_eq_decide.mpr ?_)⟩
      by_cases ours : f.runId = run.id <;> simp [ours,sound]
  have kept : FilesKept [run.id] w mid := by
    intro f inside other
    rw [files.2]
    exact List.mem_filter.mpr ⟨inside,decide_eq_true (.inl other)⟩
  refine executeEnds ?_ (fun message fault => ⟨files.1,kept,_,by rw [fault]; nofun⟩) nofun
  intro next deleted
  cases deleted
  refine ⟨?_,files.2⟩
  simp only [files.1,Rows.delete,List.mem_singleton]

theorem deleteRunsEnds (unique : Rows.Unique BackupRun.id w.runs) (distinct : ids.Nodup)
    (listed : ∀ id ∈ ids, ∃ run ∈ w.runs, run.id = id ∧ run.ownerId = owner ∧ run.state = .completed) :
    Ends (deleteRuns env owner turn ids) w (fun _ => Removed env ids w) (fun _ => RemovedSome env ids w) := by
  induction ids generalizing w turn with
  | nil => exact .returns ⟨by simp,by simp⟩
  | cons id rest ih =>
    obtain ⟨run,mem,rfl,own,done⟩ := listed id List.mem_cons_self
    obtain ⟨fresh,distinct⟩ := List.nodup_cons.mp distinct
    refine .andThen (.weaken (deleteRunEnds unique mem own done) ?_ ?_)
    · rintro _ mid removed
      have ⟨runs,files⟩ := removed
      have left : ∀ r, r ∈ mid.runs ↔ r ∈ w.runs ∧ r.id ≠ run.id := by simp [runs]
      have later := @ih mid (turn + 1) ?_ distinct ?_
      · have both : ∀ gone : List Uuid, mid.runs.filter (fun r => r.id ∉ gone) =
            w.runs.filter (fun r => r.id ∉ run.id::gone) := by
          intro gone
          rw [runs,List.filter_filter]
          congr 1
          simp [Bool.and_comm]
        have kept : ∀ next, FilesKept rest mid next → FilesKept (run.id::rest) w next := by
          intro next keeps f inside other
          rw [List.mem_cons,not_or] at other
          exact keeps f (removed.filesKept f inside (by simpa using other.1)) other.2
        refine .weaken later ?_ ?_
        · refine fun _ next more => ⟨more.1.trans (both rest),?_⟩
          rw [more.2,files,List.filter_filter]
          refine List.filter_congr (fun f _ => ?_)
          by_cases fault : env.fault (.removeFiles f.runId) = none <;> simp [fault,Bool.and_comm]
        · rintro _ next ⟨⟨gone,within,same⟩,keeps,fault⟩
          refine ⟨⟨run.id::gone,?_,same.trans (both gone)⟩,kept next keeps,fault⟩
          exact List.forall_mem_cons.mpr ⟨List.mem_cons_self,fun i inside => List.mem_cons_of_mem _ (within i inside)⟩
      · rw [runs]
        exact List.Nodup.sublist (List.filter_sublist.map BackupRun.id) unique
      · intro id inside
        obtain ⟨other,there,rfl,fits⟩ := listed id (List.mem_cons_of_mem _ inside)
        exact ⟨other,(left other).mpr ⟨there,fun same => fresh (same ▸ inside)⟩,rfl,fits⟩
    · rintro _ next ⟨same,files,fault⟩
      refine ⟨⟨[],fun _ none => absurd none List.not_mem_nil,by simp [same]⟩,fun f inside other => ?_,fault⟩
      refine files f inside (fun here => other ?_)
      rw [List.mem_singleton.mp here]
      exact List.mem_cons_self

end Deletion

section Exactness

variable {env : Env} {plan : BackupPlan} {w : World}

theorem newerBetween (listing) (mem : run ∈ runs) (ours : run.ofPlan plan) :
    (∀ r ∈ newer listing runs plan run, run.createdAt ≤ r.createdAt) ∧
    ∀ r ∈ runs, r.ofPlan plan → r.expendable = true → run.createdAt < r.createdAt → r ∈ newer listing runs plan run := by
  have perm := listing.same (runs.filter (visible plan.ownerId false))
  have sorted := listing.newestFirst (runs.filter (visible plan.ownerId false))
  have there : run ∈ listing.arrange (runs.filter (visible plan.ownerId false)) :=
    perm.mem_iff.mpr (List.mem_filter.mpr ⟨mem,by simp [visible,ours.2]⟩)
  let order := listing.arrange (runs.filter (visible plan.ownerId false))
  let first := order.takeWhile (fun r => r ≠ run)
  let last := order.dropWhile (fun r => r ≠ run)
  have parts : first ++ last = order := List.takeWhile_append_dropWhile
  have ordered : (first ++ last).Pairwise (fun a b => b.createdAt ≤ a.createdAt) := parts ▸ sorted
  obtain ⟨_,behind,across⟩ := List.pairwise_append.mp ordered
  have starts : ∃ rest, last = run::rest := by
    have inside : run ∈ last := by
      rcases List.mem_append.mp (parts ▸ there : run ∈ first ++ last) with before | after
      · have other := List.mem_takeWhile_imp (p := fun r => decide (r ≠ run)) before
        exact absurd rfl (of_decide_eq_true other)
      · exact after
    have filled := List.ne_nil_of_mem inside
    have head : last.head filled = run :=
      not_not.mp (of_decide_eq_false (List.head_dropWhile_not (fun r => decide (r ≠ run)) filled))
    exact ⟨last.tail,by rw [← head,List.cons_head_tail]⟩
  obtain ⟨rest,starts⟩ := starts
  refine ⟨fun r mem => ?_,fun r mem ours kind later => ?_⟩
  · exact across r (List.mem_of_mem_filter mem) run (starts ▸ List.mem_cons_self)
  · have listed : r ∈ first ++ last := by
      rw [parts]
      exact perm.mem_iff.mpr (List.mem_filter.mpr ⟨mem,by simp [visible,ours.2]⟩)
    refine List.mem_filter.mpr ⟨?_,by simp [ours.1,kind]⟩
    rcases List.mem_append.mp listed with before | after
    · exact before
    · rw [starts] at after behind
      rcases List.mem_cons.mp after with same | behindRun
      · exact absurd (same ▸ later) (lt_irrefl _)
      · exact absurd later (not_lt.mpr (List.rel_of_pairwise_cons behind behindRun))

def deletable (listing : Listing) (runs : List BackupRun) (plan : BackupPlan) : List BackupRun :=
  (((listing.arrange (runs.filter (visible plan.ownerId false))).filter (fun r => r.planId == plan.id)).filter
    BackupRun.expendable).drop plan.retention.copies

theorem deletableStored (mem : r ∈ deletable env.listing w.runs plan) :
    r ∈ w.runs ∧ r.ownerId = plan.ownerId ∧ r.state = .completed := by
  obtain ⟨inside,kind⟩ := List.mem_filter.mp (List.mem_of_mem_drop mem)
  obtain ⟨stored,seen⟩ := List.mem_filter.mp ((env.listing.same _).mem_iff.mp (List.mem_of_mem_filter inside))
  simp only [BackupRun.expendable,Bool.and_eq_true,beq_iff_eq] at kind
  exact ⟨stored,by simpa [visible] using seen,kind.1⟩

theorem arrangedNodup (unique : Rows.Unique BackupRun.id w.runs) (seen) : (env.listing.arrange (w.runs.filter seen)).Nodup :=
  (env.listing.same _).nodup_iff.mpr ((List.Nodup.of_map _ unique).filter _)

theorem deletableUnique (unique : Rows.Unique BackupRun.id w.runs) : ((deletable env.listing w.runs plan).map BackupRun.id).Nodup := by
  refine List.Nodup.map_on ?_ (List.Nodup.sublist (List.drop_sublist ..) (((arrangedNodup unique _).filter _).filter _))
  exact fun a left b right same => Rows.equalOfKey unique (deletableStored left).1 (deletableStored right).1 same

theorem surplusDeletable (unique : Rows.Unique BackupRun.id w.runs) (mem : run ∈ w.runs) :
    run.id ∈ (deletable env.listing w.runs plan).map BackupRun.id ↔ Surplus env.listing w.runs plan run := by
  have only : run.id ∈ (deletable env.listing w.runs plan).map BackupRun.id ↔
      run ∈ deletable env.listing w.runs plan := by
    refine ⟨fun named => ?_,List.mem_map_of_mem⟩
    obtain ⟨r,there,same⟩ := List.mem_map.mp named
    exact Rows.equalOfKey unique (deletableStored there).1 mem same ▸ there
  have kinds : (fun r : BackupRun => r.expendable && r.planId == plan.id) =
      (fun r => r.planId == plan.id && r.expendable) := funext (fun r => Bool.and_comm ..)
  rw [only]
  unfold deletable Surplus newer
  rw [List.filter_filter,kinds,Rows.memDropFilter (arrangedNodup unique _),(env.listing.same _).mem_iff,List.mem_filter]
  constructor
  · rintro ⟨⟨_,seen⟩,kind,many⟩
    simp only [BackupRun.expendable,Bool.and_eq_true,beq_iff_eq,Bool.not_eq_true'] at kind
    exact ⟨⟨kind.1,by simpa [visible] using seen⟩,kind.2.1,kind.2.2,many⟩
  · rintro ⟨ours,done,free,many⟩
    exact ⟨⟨mem,by simp [visible,ours.2]⟩,by simp [BackupRun.expendable,ours.1,done,free],many⟩

theorem retentionExact (env : Env) (plan : BackupPlan) (w : World) (unique : Rows.Unique BackupRun.id w.runs) :
    (∀ run ∈ w.runs, run.ofPlan plan →
      (∀ r ∈ newer env.listing w.runs plan run, run.createdAt ≤ r.createdAt) ∧
      ∀ r ∈ w.runs, r.ofPlan plan → r.expendable = true → run.createdAt < r.createdAt →
        r ∈ newer env.listing w.runs plan run) ∧
    Ends (applyRetention env plan) w
      (fun _ next => (∀ run, run ∈ next.runs ↔ run ∈ w.runs ∧ ¬ Surplus env.listing w.runs plan run) ∧
        ∀ f, f ∈ next.stored ↔ f ∈ w.stored ∧ ∀ run ∈ w.runs, run.id = f.runId → Surplus env.listing w.runs plan run →
          env.fault (.removeFiles run.id) ≠ none)
      (fun _ next => (∃ step, env.fault step ≠ none) ∧ (∀ run ∈ next.runs, run ∈ w.runs) ∧
        ∀ run ∈ w.runs, ¬ Surplus env.listing w.runs plan run →
          run ∈ next.runs ∧ ∀ f ∈ w.stored, f.runId = run.id → f ∈ next.stored) := by
  refine ⟨fun run mem ours => newerBetween env.listing mem ours,?_⟩
  refine .andThen (queryEnds ?_ ?_ nofun)
  · intro runs _ read
    cases read
    have chosen : plan.retention.deletions (((env.listing.arrange (w.runs.filter (visible plan.ownerId false))).filter
        (fun run => run.planId == plan.id)).zipIdx.map retentionCandidate) =
        (deletable env.listing w.runs plan).map BackupRun.id := deletionsListed ..
    simp only [chosen]
    refine .weaken (deleteRunsEnds unique (deletableUnique unique) ?_) ?_ ?_
    · intro id named
      obtain ⟨run,there,rfl⟩ := List.mem_map.mp named
      obtain ⟨stored,own,done⟩ := deletableStored there
      exact ⟨run,stored,rfl,own,done⟩
    · rintro _ next ⟨left,files⟩
      refine ⟨fun run => ?_,fun f => ?_⟩
      · rw [left,List.mem_filter]
        refine and_congr_right (fun mem => ?_)
        rw [decide_eq_true_iff,surplusDeletable unique mem]
      · rw [files,List.mem_filter,decide_eq_true_iff]
        refine and_congr_right (fun _ => ⟨?_,fun safe => ?_⟩)
        · rintro held run mem same surplus
          exact same ▸ held.resolve_left (fun spared => spared (same ▸ (surplusDeletable unique mem).mpr surplus))
        · refine or_iff_not_imp_left.mpr (fun named => ?_)
          obtain ⟨run,there,same⟩ := List.mem_map.mp (not_not.mp named)
          have mem := (deletableStored there).1
          exact same ▸ safe run mem same ((surplusDeletable unique mem).mp (List.mem_map_of_mem there))
    · rintro _ next ⟨⟨gone,within,left⟩,files,fault⟩
      refine ⟨fault,fun run mem => List.mem_of_mem_filter (left ▸ mem),fun run mem kept => ?_⟩
      have safe : run.id ∉ (deletable env.listing w.runs plan).map BackupRun.id := fun named =>
        kept ((surplusDeletable unique mem).mp named)
      refine ⟨?_,fun f inside same => files f inside (same ▸ safe)⟩
      rw [left]
      exact List.mem_filter.mpr ⟨mem,decide_eq_true (fun named => safe (within _ named))⟩
  · intro message fault
    exact ⟨⟨_,by rw [fault]; nofun⟩,fun _ mem => mem,fun _ mem _ => ⟨mem,fun _ inside _ => inside⟩⟩

end Exactness

def taken (id : Uuid) (state : BackupRunState) (pinned : Bool) (createdAt : DateTime) : BackupRun :=
  ⟨id,1,9,state,[],true,pinned,createdAt,none,none,none⟩

def keptFile (id : Uuid) : StoredFile := ⟨id,"panel.opbk",[1]⟩

def kept : World where
  runs := [taken 2 .failed false 10,taken 3 .completed false 20,taken 4 .completed false 30,
    taken 5 .completed true 15,taken 6 .completed false 40,taken 7 .running false 50]
  stored := [keptFile 3,keptFile 4]

def nightly : BackupPlan := ⟨1,9,"nightly",[.panelMetadata],"0 2 * * *","UTC",⟨2,by decide⟩,true,0,0,none⟩

theorem retentionExactNightly : ∃ next, exec (applyRetention quiet nightly) kept = (.ok (),next) ∧
    (taken 3 .completed false 20 ∉ next.runs ∧ keptFile 3 ∉ next.stored) ∧
    (taken 4 .completed false 30 ∈ next.runs ∧ keptFile 4 ∈ next.stored) ∧ taken 5 .completed true 15 ∈ next.runs := by
  have exact := (retentionExact quiet nightly kept (by decide)).2
  unfold Ends at exact
  split at exact
  · rename_i next ran
    have third : taken 3 .completed false 20 ∈ kept.runs ∧ Surplus quiet.listing kept.runs nightly (taken 3 .completed false 20) := by
      decide +kernel
    refine ⟨next,ran,⟨fun left => ((exact.1 _).mp left).2 third.2,fun left => ?_⟩,⟨(exact.1 _).mpr ⟨?_,?_⟩,(exact.2 _).mpr ⟨?_,?_⟩⟩,
      (exact.1 _).mpr ⟨?_,?_⟩⟩
    · exact ((exact.2 _).mp left).2 _ third.1 rfl third.2 rfl
    · decide +kernel
    · decide +kernel
    · exact List.mem_cons_of_mem _ List.mem_cons_self
    · decide +kernel
    · decide +kernel
    · decide +kernel
  · exact absurd exact.1 (by simp [quiet])

end OpenPanel.Backups
