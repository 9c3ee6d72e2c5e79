import OpenPanel.CronRuns

/-! The overlap policy `Skip`. The lease written by `run_now` lasts thirty
seconds whatever the timeout of the job is, so lease recovery can release a job
whose command still runs. As long as it does not, at most one execution of a job
is in progress. -/
namespace OpenPanel.Cron
open CallPool GuardedRun

def inProgress (jobId : Uuid) : Pc → Bool
  | .executing _ run _ => run.jobId == jobId
  | _ => false

def executions (c : Pool Db Pc) (jobId : Uuid) : Nat := (c.calls.filter (inProgress jobId)).length

theorem inProgressHeld (late) (h : inProgress jobId pc = true) : ∃ run, pc.held late = some run ∧ run.jobId = jobId := by
  cases pc <;> try contradiction
  rename_i job run caller
  exact ⟨run,rfl,by simpa [inProgress] using h⟩

theorem holdsExclusive (holds : (outline late).Holds c) (jobId) : executions c jobId ≤ 1 := by
  refine atMostOne ?_
  intro i j p q different left right onP onQ
  obtain ⟨a,heldA,jobA⟩ := inProgressHeld late onP
  obtain ⟨b,heldB,jobB⟩ := inProgressHeld late onQ
  obtain ⟨r,memR,idR,rowJobR,openR,_⟩ := (holds.point p (List.mem_of_getElem? left)).backed a heldA
  obtain ⟨t,memT,idT,rowJobT,openT,_⟩ := (holds.point q (List.mem_of_getElem? right)).backed b heldB
  have stored : Stored c.shared := holds.shared
  have onR : r.active = true := by rw [stored.active r memR,openR]; rfl
  have onT : t.active = true := by rw [stored.active t memT,openT]; rfl
  have sameJob : r.jobId = t.jobId := by rw [rowJobR,rowJobT,jobA,jobB]
  have same := stored.index r memR t memT onR onT sameJob
  have apart : Apart late p q := holds.pair i j p q different left right
  exact apart.owned a b (heldOwned heldA) (heldOwned heldB) (by rw [← idR,← idT,same])

theorem skipExcludes {cal db es c} (stored : Stored db)
    (run : Run (machine cal).fire (leasesRespected false).guard ⟨db,[]⟩ es c) (jobId : Uuid) :
    executions c jobId ≤ 1 :=
  holdsExclusive ((outline false).runHolds (runsSound false cal) run (Outline.emptyHolds stored)) jobId

theorem storedFresh (jobs) : Stored ⟨jobs,[],[]⟩ := by
  refine ⟨?_,?_,?_,?_,?_⟩ <;> simp [Rows.Unique]

def hourly : CronJob where
  id := 7
  ownerId := 3
  name := "report"
  schedule := ⟨"* * * * *","UTC"⟩
  kind := .command "/usr/bin/report" [] "/srv/site"
  timeoutSecs := 3600
  overlapPolicy := .skip
  enabled := true
  nextRunAt := seconds 1700000040
  createdAt := seconds 1699999980
  updatedAt := seconds 1699999980

def everyMinute : Calendar where
  zone name := name == "UTC"
  expression text := if text == "0 * * * * *" then none else some "unsupported"
  next _ _ after := some ((after / seconds 60 + 1) * seconds 60)

def hourlyDb : Db := ⟨[⟨7,3,hourly⟩],[],[]⟩

def overlapping : List (Event Pc Env) :=
  [.start (runNow 3 false 7),.step 0 {},.step 0 {now := seconds 1699999990, fresh := 1},.step 0 {},
    .step 0 {},.start (tick (seconds 1700000040) 30),.step 1 {},.step 1 {},.step 1 {},.step 1 {},
    .step 1 {},.step 1 {now := seconds 1700000040, fresh := 2},.step 1 {},.step 1 {}]

theorem skipOverlapped : Stored hourlyDb ∧
    CronJob.new everyMinute 7 3 hourly.name hourly.schedule hourly.kind 3600 .skip hourly.createdAt = .ok hourly ∧
    ∃ c, Run (machine everyMinute).fire free ⟨hourlyDb,[]⟩ overlapping c ∧ ¬ executions c 7 ≤ 1 := by
  obtain ⟨c,run,two⟩ := replayShows (machine everyMinute).fire free ⟨hourlyDb,[]⟩ overlapping (fun c => executions c 7 = 2) (by decide)
  exact ⟨storedFresh _,by decide,c,run,by omega⟩

def skipping : List (Event Pc Env) :=
  [.start (runNow 3 false 7),.step 0 {},.step 0 {now := seconds 1699999990, fresh := 1},.step 0 {},
    .step 0 {},.start (tick (seconds 1700000020) 30),.step 1 {},.start (runNow 3 false 7),.step 2 {},
    .step 2 {now := seconds 1700000021, fresh := 2},.step 2 {}]

theorem skipExcludesHourly : ∃ c, Run (machine everyMinute).fire (leasesRespected false).guard
    ⟨hourlyDb,[]⟩ skipping c ∧ 0 < executions c 7 ∧ executions c 7 ≤ 1 := by
  obtain ⟨c,run,one⟩ := replayShows (machine everyMinute).fire (leasesRespected false).guard ⟨hourlyDb,[]⟩ skipping
    (fun c => executions c 7 = 1) (by decide)
  exact ⟨c,run,by omega,skipExcludes (storedFresh _) run 7⟩

/-- A call that executes a run or is about to record it has an open row of its own. -/
theorem executionsRecorded {cal db es c} (stored : Stored db)
    (run : Run (machine cal).fire (leasesRespected true).guard ⟨db,[]⟩ es c) :
    (∀ p ∈ c.calls, ∀ r, p.held true = some r → Backed c.shared r) ∧
    ∀ (i j : Nat) p q a b, i ≠ j → c.calls[i]? = some p → c.calls[j]? = some q →
      p.owned = some a → q.owned = some b → a.id ≠ b.id := by
  have holds := (outline true).runHolds (runsSound true cal) run (Outline.emptyHolds stored)
  refine ⟨fun p mem => (holds.point p mem).backed,fun i j p q a b other left right => ?_⟩
  exact (holds.pair i j p q other left right).owned a b

theorem hourlyRecorded : ∃ c run, Run (machine everyMinute).fire (leasesRespected true).guard ⟨hourlyDb,[]⟩ skipping c ∧
    (∃ p ∈ c.calls, p.held true = some run) ∧ Backed c.shared run := by
  obtain ⟨c,ran,found⟩ := replayShows (machine everyMinute).fire (leasesRespected true).guard ⟨hourlyDb,[]⟩ skipping
    (fun c => ∃ p ∈ c.calls, (p.held true).isSome) (by decide)
  obtain ⟨p,mem,held⟩ := found
  obtain ⟨run,busy⟩ := Option.isSome_iff_exists.mp held
  exact ⟨c,run,ran,⟨p,mem,busy⟩,(executionsRecorded (storedFresh _) ran).1 p mem run busy⟩

end OpenPanel.Cron
