import OpenPanel.BackupPlans

/-! Each plan is linked to a job that is enabled when it is, and each job made
for a plan has it. A call keeps this whatever fails in it, except a statement for
the plan: it comes when the job is already written, and nothing takes that back. -/
namespace OpenPanel.Backups
open Fallible
open Cron (Calendar CronInput CronJob CronServiceError JobRow)

def Steady (w : PlanWorld) : PlanCall × PlanEnv → Prop
  | (.create ..,env) => env.fault .insertPlan = none
  | (.update ..,_) => True
  | (.setEnabled _ _ id enabled,env) =>
    env.fault .savePlan = none ∨ ∀ plan ∈ w.plans, plan.id = id → plan.enabled = enabled
  | (.delete ..,env) => env.fault .deletePlan = none

def CreatedFor (planId : Uuid) (job : CronJob) : Prop :=
  match job.kind with
  | .command _ arguments _ => arguments = planArguments planId
  | .http .. => False

instance (planId job) : Decidable (CreatedFor planId job) := by unfold CreatedFor; split <;> infer_instance

structure Linked (plan : BackupPlan) (row : JobRow) : Prop where
  cron : plan.cronJobId = some row.id
  payload : row.payload.id = row.id
  createdFor : CreatedFor plan.id row.payload
  enabled : row.payload.enabled = plan.enabled

structure Agree (w : PlanWorld) : Prop where
  planIds : Rows.Unique BackupPlan.id w.plans
  jobIds : Rows.Unique JobRow.id w.jobs
  linked : ∀ plan ∈ w.plans, ∃ row ∈ w.jobs, Linked plan row
  known : ∀ row ∈ w.jobs, ∀ planId, CreatedFor planId row.payload →
    ∃ plan ∈ w.plans, plan.id = planId ∧ plan.cronJobId = some row.id

section Agreement

variable {plan : BackupPlan}

theorem createdForOne (first : CreatedFor a job) (second : CreatedFor b job) : a = b := by
  unfold CreatedFor at first second
  split at first
  · rename_i kind
    rw [kind] at second
    have same : planArguments a = planArguments b := first.symm.trans second
    simp only [planArguments,List.cons.injEq,and_true,true_and] at same
    exact hyphenatedInj same
  · exact first.elim

theorem createdForKind {job other id} (same : other.kind = job.kind) (created : CreatedFor id job) : CreatedFor id other := by
  unfold CreatedFor at created ⊢
  rwa [same]

theorem linkedOnce (agree : Agree w) (mem : plan ∈ w.plans) (inside : other ∈ w.plans)
    (first : Linked plan row) (second : Linked other row) : other = plan :=
  Rows.equalOfKey agree.planIds inside mem (createdForOne second.createdFor first.createdFor)

theorem agreeAdded (agree : Agree w) (newPlan : ∀ p ∈ w.plans, p.id ≠ plan.id) (newJob : ∀ r ∈ w.jobs, r.id ≠ row.id)
    (linked : Linked plan row) : Agree ⟨w.plans ++ [plan],w.jobs ++ [row]⟩ where
  planIds := Rows.insertUnique agree.planIds newPlan
  jobIds := Rows.insertUnique agree.jobIds newJob
  linked p mem := by
    rcases List.mem_append.mp mem with old | new
    · obtain ⟨r,inside,held⟩ := agree.linked p old
      exact ⟨r,List.mem_append_left _ inside,held⟩
    · rw [List.mem_singleton.mp new]
      exact ⟨row,List.mem_append_right _ List.mem_cons_self,linked⟩
  known r mem id created := by
    rcases List.mem_append.mp mem with old | new
    · obtain ⟨p,inside,named,held⟩ := agree.known r old id created
      exact ⟨p,List.mem_append_left _ inside,named,held⟩
    · rw [List.mem_singleton.mp new] at created ⊢
      exact ⟨plan,List.mem_append_right _ List.mem_cons_self,createdForOne linked.createdFor created,linked.cron⟩

theorem agreeChanged (agree : Agree w) (mem : plan ∈ w.plans) (inside : row ∈ w.jobs) (linked : Linked plan row)
    {changed job} (sameId : changed.id = plan.id) (sameCron : changed.cronJobId = plan.cronJobId)
    (jobId : job.id = row.id) (kind : job.kind = row.payload.kind) (enabled : job.enabled = changed.enabled) :
    Agree ⟨Rows.update BackupPlan.id plan.id (fun _ => changed) w.plans,
      Rows.update JobRow.id row.id (fun r => {r with payload := job}) w.jobs⟩ where
  planIds := Rows.updateUnique agree.planIds (fun p hit => sameId.trans hit.symm)
  jobIds := Rows.updateUnique agree.jobIds (fun _ _ => rfl)
  linked p there := by
    rcases Rows.memUpdate there with ⟨old,other⟩ | ⟨q,_,_,rfl⟩
    · obtain ⟨r,held,its⟩ := agree.linked p old
      refine ⟨r,Rows.updateOther held (fun same => ?_),its⟩
      cases Rows.equalOfKey agree.jobIds held inside same
      exact other (congrArg BackupPlan.id (linkedOnce agree mem old linked its))
    · refine ⟨_,Rows.updateHit inside rfl,sameCron.trans linked.cron,jobId,?_,enabled⟩
      rw [sameId]
      exact createdForKind kind linked.createdFor
  known r there id created := by
    have found : ∃ q ∈ w.plans, q.id = id ∧ q.cronJobId = some r.id := by
      rcases Rows.memUpdate there with ⟨old,_⟩ | ⟨before,old,hit,rfl⟩
      · exact agree.known r old id created
      · have same := Rows.equalOfKey agree.jobIds old inside hit
        subst same
        exact agree.known before old id (createdForKind kind.symm created)
    obtain ⟨q,held,named,cron⟩ := found
    by_cases hit : q.id = plan.id
    · cases Rows.equalOfKey agree.planIds held mem hit
      exact ⟨changed,Rows.updateHit mem rfl,sameId.trans named,sameCron.trans cron⟩
    · exact ⟨q,Rows.updateOther held hit,named,cron⟩

theorem agreeRemoved (agree : Agree w) (mem : plan ∈ w.plans) (inside : row ∈ w.jobs) (linked : Linked plan row) :
    Agree ⟨Rows.delete BackupPlan.id plan.id w.plans,Rows.delete JobRow.id row.id w.jobs⟩ where
  planIds := Rows.deleteUnique agree.planIds
  jobIds := Rows.deleteUnique agree.jobIds
  linked p there := by
    obtain ⟨old,other⟩ := Rows.memDelete.mp there
    obtain ⟨r,held,its⟩ := agree.linked p old
    refine ⟨r,Rows.memDelete.mpr ⟨held,fun same => ?_⟩,its⟩
    cases Rows.equalOfKey agree.jobIds held inside same
    exact other (congrArg BackupPlan.id (linkedOnce agree mem old linked its))
  known r there id created := by
    obtain ⟨old,other⟩ := Rows.memDelete.mp there
    obtain ⟨q,held,named,cron⟩ := agree.known r old id created
    refine ⟨q,Rows.memDelete.mpr ⟨held,fun same => ?_⟩,named,cron⟩
    cases Rows.equalOfKey agree.planIds held mem same
    rw [linked.cron,Option.some.injEq] at cron
    exact other cron.symm

end Agreement

section Steps

variable {owner id : Uuid}

theorem planThen (found : ∀ p ∈ w.plans, p.id = id → Ends (next p) w post failed) (stopped : ∀ e, failed e w) :
    Ends (plan env owner all id >>= next) w post failed := by
  refine .asks ?_ (fun e _ => stopped e)
  intro p read
  split at read <;> try contradiction
  split at read <;> cases read
  rename_i hit
  have named := List.find?_some hit
  simp only [Bool.and_eq_true,beq_iff_eq] at named
  exact found p (List.mem_of_find?_eq_some hit) named.1

theorem changePlansEnds {step} (done : ∀ plans, change w.plans = .ok plans → post () {w with plans := plans})
    (faulted : ∀ message, env.fault step = some message → failed (.internal message) w)
    (stopped : ∀ e, change w.plans = .error e → failed (.internal e.message) w) : Ends (changePlans env step change) w post failed := by
  refine .attempts ?_ ?_
  · intro _ next ran
    split at ran <;> try contradiction
    split at ran <;> cases ran
    exact done _ (by assumption)
  · intro e ran
    split at ran
    · cases ran
      exact faulted _ (by assumption)
    · split at ran <;> cases ran
      exact stopped _ (by assumption)

theorem changeJobsEnds (done : ∀ next, change jobs = .ok next → post () next) (stopped : ∀ e, failed e jobs) :
    Ends (Cron.changeJobs fault change) jobs post failed := by
  refine .attempts ?_ (fun e _ => stopped e)
  intro _ next ran
  split at ran <;> try contradiction
  split at ran <;> cases ran
  exact done _ (by assumption)

theorem getThen (unique : Rows.Unique JobRow.id jobs)
    (mem : row ∈ jobs) (found : Ends (next row.payload) jobs post failed) (stopped : ∀ e, failed e jobs) :
    Ends (Cron.get fault owner all row.id >>= next) jobs post failed := by
  refine .asks ?_ (fun e _ => stopped e)
  intro job read
  split at read <;> try contradiction
  split at read <;> cases read
  rename_i hit
  have named := List.find?_some hit
  simp only [Bool.and_eq_true,beq_iff_eq] at named
  rw [Rows.equalOfKey unique (List.mem_of_find?_eq_some hit) mem named.1]
  exact found

theorem switchedFields (applied : (Cron.Edit.setEnabled enabled).apply cal now job = .ok switched) :
    switched.id = job.id ∧ switched.kind = job.kind ∧ switched.enabled = enabled := by
  cases enabled with
  | false =>
    cases applied
    exact ⟨rfl,rfl,rfl⟩
  | true =>
    simp only [Cron.Edit.apply,CronJob.enable] at applied
    split at applied
    · cases applied
    · rename_i ran
      split at ran <;> cases ran
      cases applied
      exact ⟨rfl,rfl,rfl⟩

theorem switchEnds (unique : Rows.Unique JobRow.id jobs) (mem : row ∈ jobs) (payload : row.payload.id = row.id) :
    Ends (Cron.switch cal readFault saveFault now owner all row.id enabled) jobs
      (fun job next => job.id = row.id ∧ job.kind = row.payload.kind ∧ job.enabled = enabled ∧
        next = Rows.update JobRow.id row.id (fun r => {r with payload := job}) jobs) (fun _ next => next = jobs) := by
  refine getThen unique mem (.asks ?_ (fun _ _ => rfl)) (fun _ => rfl)
  intro job applied
  obtain ⟨same,kind,flag⟩ := switchedFields applied
  refine .andThen (changeJobsEnds ?_ (fun _ => rfl))
  intro next saved
  cases saved
  exact .returns ⟨same.trans payload,kind,flag,by rw [same,payload]⟩

theorem deleteEnds (unique : Rows.Unique JobRow.id jobs) (mem : row ∈ jobs) :
    Ends (Cron.delete readFault deleteFault owner all row.id) jobs (fun _ next => next = Rows.delete JobRow.id row.id jobs)
      (fun _ next => next = jobs) := by
  refine getThen unique mem (changeJobsEnds ?_ (fun _ => rfl)) (fun _ => rfl)
  intro next deleted
  cases deleted
  rfl

theorem builtKind {input : CronInput}
    (command : input.kind = "command") (built : input.build cal roots jobId owner now = .ok job) :
    job.id = jobId ∧ job.enabled = true ∧ ∃ executable directory, job.kind = .command executable input.arguments directory := by
  unfold CronInput.build at built
  split at built
  · cases built
  obtain ⟨schedule,_,built⟩ := bindOk built
  obtain ⟨kind,chosen,built⟩ := bindOk built
  have made := mapErrorOk built
  unfold CronInput.jobKind at chosen
  rw [if_pos command] at chosen
  split at chosen
  · cases chosen
  obtain ⟨directory,_,chosen⟩ := bindOk chosen
  have ran := mapErrorOk chosen
  unfold Cron.JobKind.newCommand at ran
  split at ran <;> cases ran
  unfold CronJob.new at made
  split at made
  · cases made
  · split at made <;> cases made
    exact ⟨rfl,rfl,_,_,rfl⟩

theorem createEnds (command : input.kind = "command") :
    Ends (Cron.create cal roots fault jobId owner now input) jobs
      (fun job next => job.id = jobId ∧ job.enabled = true ∧
        (∃ executable directory, job.kind = .command executable input.arguments directory) ∧
        next = jobs ++ [⟨jobId,owner,job⟩])
      (fun _ next => next = jobs) := by
  refine .asks ?_ (fun _ _ => rfl)
  intro job built
  obtain ⟨same,enabled,kind⟩ := builtKind command built
  refine .andThen (changeJobsEnds ?_ (fun _ => rfl))
  intro next inserted
  split at inserted <;> cases inserted
  exact .returns ⟨same,enabled,kind,by rw [same]⟩

theorem builtPlan {input : BackupPlanInput} (built : input.build cal env owner = .ok p) : p.id = env.planId ∧ p.enabled = true := by
  obtain ⟨_,_,built⟩ := bindOk built
  have made := mapErrorOk built
  unfold BackupPlan.new at made
  split at made
  · cases made
  · split at made <;> cases made
    exact ⟨rfl,rfl⟩

theorem createPlanKeeps (agree : Agree w) (newPlan : env.planId ∉ w.plans.map BackupPlan.id)
    (newJob : env.jobId ∉ w.jobs.map JobRow.id) (steady : env.fault .insertPlan = none) :
    Agree (exec (createPlan cal (some cron) env owner input) w).2 := by
  refine Ends.always (Ends.andThen (Ends.checks ?_ (fun _ _ => agree)))
  intro p built
  obtain ⟨named,enabled⟩ := builtPlan built
  refine Ends.andThen (Ends.andThen (Ends.checks (fun _ _ => ?_) (fun _ _ => agree)))
  refine Ends.andThen (Ends.within (Ends.weaken (createEnds rfl) ?_ (fun _ _ same => same ▸ agree)))
  rintro job _ ⟨same,on,⟨executable,directory,kind⟩,rfl⟩
  have linked : Linked (p.linkCron job.id env.linkedAt) ⟨env.jobId,owner,job⟩ := by
    refine ⟨congrArg some same,same,?_,on.trans enabled.symm⟩
    simp only [CreatedFor,kind]
    rfl
  have absent : ∀ q ∈ w.plans, q.id ≠ p.id := fun q mem hit =>
    newPlan (List.mem_map.mpr ⟨q,mem,hit.trans named⟩)
  refine Ends.returns (Ends.andThen (changePlansEnds ?_ ?_ ?_))
  · intro plans inserted
    split at inserted <;> cases inserted
    exact Ends.returns (agreeAdded agree absent (fun r mem hit => newJob (List.mem_map.mpr ⟨r,mem,hit⟩)) linked)
  · intro message fault
    rw [steady] at fault
    cases fault
  · intro e stopped
    split at stopped <;> cases stopped
    rename_i taken
    obtain ⟨q,mem,hit⟩ := List.any_eq_true.mp taken
    exact (absent q mem (beq_iff_eq.mp hit)).elim

theorem updatePlanKeeps {fields} (agree : Agree w) : Agree (exec (updatePlan env owner all id fields) w).2 := by
  refine Ends.always (planThen ?_ (fun _ => agree))
  rintro p mem rfl
  refine Ends.andThen (Ends.checks (fun retention _ => ?_) (fun _ _ => agree))
  refine Ends.andThen (Ends.checks ?_ (fun _ _ => agree))
  intro changed made
  unfold BackupPlan.update at made
  split at made <;> cases made
  refine Ends.andThen (changePlansEnds ?_ (fun _ _ => agree) nofun)
  intro plans saved
  cases saved
  obtain ⟨row,inside,linked⟩ := agree.linked p mem
  have jobs : Rows.update JobRow.id row.id (fun r => {r with payload := row.payload}) w.jobs = w.jobs :=
    Rows.updateSame (fun r held hit => by cases Rows.equalOfKey agree.jobIds held inside hit; rfl)
  refine Ends.returns ?_
  rw [← jobs]
  exact agreeChanged agree mem inside linked rfl rfl linked.payload rfl linked.enabled

theorem setEnabledKeeps (agree : Agree w)
    (steady : env.fault .savePlan = none ∨ ∀ plan ∈ w.plans, plan.id = id → plan.enabled = enabled) :
    Agree (exec (setEnabled cal (some cron) env owner all id enabled) w).2 := by
  refine Ends.always (planThen ?_ (fun _ => agree))
  rintro p mem rfl
  obtain ⟨row,inside,linked⟩ := agree.linked p mem
  have fields : ∀ q, q = (if enabled then p.enable env.now else p.disable env.now) →
      q.id = p.id ∧ q.cronJobId = some row.id ∧ q.enabled = enabled := by
    rintro q rfl
    cases enabled <;> exact ⟨rfl,linked.cron,rfl⟩
  generalize (if enabled then p.enable env.now else p.disable env.now) = changed at fields ⊢
  obtain ⟨named,cronId,flag⟩ := fields changed rfl
  refine Ends.andThen ?_
  simp only [withJob,cronId]
  refine Ends.within (Ends.after (switchEnds agree.jobIds inside linked.payload) ?_ (fun _ _ same => same ▸ agree))
  rintro job _ ⟨same,kind,on,rfl⟩
  have together : ∀ q : BackupPlan, q.id = p.id → q.cronJobId = some row.id → q.enabled = enabled →
      Agree ⟨Rows.update BackupPlan.id p.id (fun _ => q) w.plans,
        Rows.update JobRow.id row.id (fun r => {r with payload := job}) w.jobs⟩ := fun q its cron its' =>
    agreeChanged agree mem inside linked its (cron.trans linked.cron.symm) same kind (on.trans its'.symm)
  refine Ends.returns (Ends.andThen (changePlansEnds ?_ ?_ nofun))
  · intro plans saved
    cases saved
    rw [named]
    exact Ends.returns (together changed named cronId flag)
  · intro message fault
    rcases steady with free | already
    · rw [free] at fault
      cases fault
    · have kept := together p rfl linked.cron (already p mem rfl)
      rwa [Rows.updateSame (fun q held hit => (Rows.equalOfKey agree.planIds held mem hit).symm)] at kept

theorem deletePlanKeeps (agree : Agree w) (steady : env.fault .deletePlan = none) :
    Agree (exec (deletePlan (some cron) env owner all id) w).2 := by
  refine Ends.always (planThen ?_ (fun _ => agree))
  rintro p mem rfl
  obtain ⟨row,inside,linked⟩ := agree.linked p mem
  refine Ends.andThen ?_
  simp only [withJob,linked.cron]
  refine Ends.within (Ends.weaken (deleteEnds agree.jobIds inside) ?_ (fun _ _ same => same ▸ agree))
  rintro _ _ rfl
  refine changePlansEnds ?_ (fun message fault => by rw [steady] at fault; cases fault) nofun
  intro plans deleted
  cases deleted
  exact agreeRemoved agree mem inside linked

theorem stepKeeps (agree : Agree w) (steady : Steady w event) (fired : fire cal (some cron) w event = some next) : Agree next := by
  unfold fire at fired
  split at fired
  · cases fired
  rename_i fresh
  obtain ⟨newPlan,newJob⟩ := not_or.mp fresh
  cases fired
  obtain ⟨call,env⟩ := event
  cases call with
  | create owner input => exact createPlanKeeps agree newPlan newJob steady
  | update owner all id fields => exact updatePlanKeeps agree
  | setEnabled owner all id enabled => exact setEnabledKeeps agree steady
  | delete owner all id => exact deletePlanKeeps agree steady

end Steps

theorem plansAgree (cal : Calendar) (cron : Scheduler) {start events last} (none : start.plans = [])
    (unique : Rows.Unique JobRow.id start.jobs) (others : ∀ row ∈ start.jobs, ∀ planId, ¬ CreatedFor planId row.payload)
    (run : GuardedRun.Run (fire cal (some cron)) Steady start events last) :
    (∀ plan ∈ last.plans, ∃ row ∈ last.jobs, plan.cronJobId = some row.id ∧ row.payload.enabled = plan.enabled) ∧
    ∀ row ∈ last.jobs, ∀ planId, CreatedFor planId row.payload →
      ∃ plan ∈ last.plans, plan.id = planId ∧ plan.cronJobId = some row.id := by
  have begins : Agree start := by
    refine ⟨?_,unique,?_,fun row mem planId created => absurd created (others row mem planId)⟩
    · rw [none]
      exact List.nodup_nil
    · rw [none]
      exact fun _ absent => absurd absent List.not_mem_nil
  have agree : Agree last := run.keeps (fun w event next agree steady fired => stepKeeps agree steady fired) begins
  refine ⟨fun plan mem => ?_,agree.known⟩
  obtain ⟨row,inside,linked⟩ := agree.linked plan mem
  exact ⟨row,inside,linked.cron,linked.enabled⟩

def anyTime : Calendar := ⟨fun _ => true,fun _ => none,fun _ _ now => some (now + 1)⟩

def panelCron : Scheduler := ⟨["/var/lib/openpanel"],"/var/lib/openpanel/backups"⟩

def nightlyPlan : PlanCall := .create 9 ⟨"nightly",[.panelMetadata],"0 3 * * *","UTC",7⟩

def failing (step : Option PlanStep) : PlanEnv where
  planId := 1
  jobId := 2
  now := 0
  scheduledAt := 0
  linkedAt := 0
  executable := "/usr/bin/openpanel"
  fault asked := if some asked = step then some "database is locked" else none

def later (step : Option PlanStep) : PlanEnv := {failing step with planId := 3, jobId := 4}

instance (w event) : Decidable (Steady w event) := by
  rcases event with ⟨_ | _ | _ | _,_⟩ <;> unfold Steady <;> infer_instance

theorem plansAgreeNightly : ∃ last,
    GuardedRun.Run (fire anyTime (some panelCron)) Steady ⟨[],[]⟩
      [(nightlyPlan,failing none),(.setEnabled 9 false 1 false,later (some .saveJob)),
        (.setEnabled 9 false 1 false,later none)] last ∧
    (∃ plan ∈ last.plans, plan.enabled = false) ∧
    ∀ plan ∈ last.plans, ∃ row ∈ last.jobs, plan.cronJobId = some row.id ∧ row.payload.enabled = plan.enabled := by
  obtain ⟨last,run,off⟩ := GuardedRun.replayShows (fire anyTime (some panelCron)) Steady ⟨[],[]⟩
    [(nightlyPlan,failing none),(.setEnabled 9 false 1 false,later (some .saveJob)),(.setEnabled 9 false 1 false,later none)]
    (fun w => ∃ plan ∈ w.plans, plan.enabled = false) (by decide +kernel)
  have empty : ∀ row ∈ ([] : List JobRow), ∀ planId, ¬ CreatedFor planId row.payload :=
    fun _ absent => absurd absent List.not_mem_nil
  exact ⟨last,run,off,(plansAgree anyTime panelCron rfl (by decide) empty run).1⟩

theorem plansAdrift :
    (∃ last, GuardedRun.Run (fire anyTime (some panelCron)) GuardedRun.free ⟨[],[]⟩
        [(nightlyPlan,failing (some .insertPlan))] last ∧
      last.plans = [] ∧ ∃ row ∈ last.jobs, CreatedFor 1 row.payload) ∧
    (∃ last, GuardedRun.Run (fire anyTime (some panelCron)) GuardedRun.free ⟨[],[]⟩
        [(nightlyPlan,failing none),(.setEnabled 9 false 1 false,later (some .savePlan))] last ∧
      last.plans.map BackupPlan.enabled = [true] ∧ last.jobs.map (fun row => row.payload.enabled) = [false]) ∧
    (∃ last, GuardedRun.Run (fire anyTime (some panelCron)) GuardedRun.free ⟨[],[]⟩
        [(nightlyPlan,failing none),(.delete 9 false 1,later (some .deletePlan))] last ∧
      last.plans.map BackupPlan.cronJobId = [some 2] ∧ last.jobs = []) ∧
    ∃ last, GuardedRun.Run (fire anyTime none) GuardedRun.free ⟨[],[]⟩ [(nightlyPlan,failing none)] last ∧
      last.plans.map BackupPlan.cronJobId = [none] ∧ last.jobs = [] := by
  refine ⟨⟨_,GuardedRun.replaySound rfl,?_⟩,⟨_,GuardedRun.replaySound rfl,?_⟩,⟨_,GuardedRun.replaySound rfl,?_⟩,
    _,GuardedRun.replaySound rfl,?_⟩ <;> decide +kernel

end OpenPanel.Backups
