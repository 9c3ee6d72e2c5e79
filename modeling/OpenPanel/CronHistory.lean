import OpenPanel.CronOverlap

/-! Stored run records. `JobRun` refuses to leave a terminal state, but lease
recovery and the call that executes a run write the same row from their own
copies. When recovery reads no row whose call has yet to write it, a terminal
record keeps its state, exit code and output for good. -/
namespace OpenPanel.Cron
open CallPool GuardedRun

structure Sealed (id : Uuid) (v : Verdict) (c : Pool Db Pc) : Prop where
  issued : id ∈ c.shared.issued
  unminted : ∀ p ∈ c.calls, ∀ run, p.minted = some run → run.id ≠ id
  verdict : ∀ r ∈ c.shared.runs, r.id = id → r.payload.isTerminal = true ∧ r.payload.verdict = v

theorem sealedRow (holds : (outline late).Holds c) (mem : r ∈ c.shared.runs) (terminal : r.payload.isTerminal = true) :
    Sealed r.id r.payload.verdict c := by
  have stored : Stored c.shared := holds.shared
  refine ⟨stored.issued r mem,?_,?_⟩
  · intro p member run minted same
    exact (holds.point p member).unstored run minted r mem same.symm
  · intro other inside same
    rw [Rows.equalOfKey stored.unique inside mem same]
    exact ⟨terminal,rfl⟩

theorem sealedWrite {cal db env p db' p' id v} (here : At true db p) (unminted : ∀ run, p.minted = some run → run.id ≠ id)
    (verdict : ∀ r ∈ db.runs, r.id = id → r.payload.isTerminal = true ∧ r.payload.verdict = v)
    (ok : step cal db p env = some (db',p')) {r} (mem : r ∈ db'.runs) (hit : r.id = id) :
    r.payload.isTerminal = true ∧ r.payload.verdict = v := by
  have inserted : ∀ {ownerId run now}, p.minted = some run →
      db.insertRun ownerId run now = .ok db' → r ∈ db.runs := by
    intro ownerId run now minted done_
    obtain ⟨_,_,rfl⟩ := insertedRun done_
    rcases List.mem_append.mp mem with old | new
    · exact old
    · rw [List.mem_singleton.mp new] at hit
      exact absurd hit (unminted run minted)
  cases effect ok with
  | quiet runs _ _ => exact verdict r (runs ▸ mem) hit
  | mintSkipped | mintLeased | begin | settle | snapshot | select => exact verdict r mem hit
  | store done_ _ => exact verdict r (inserted rfl done_) hit
  | lease done_ => exact verdict r (inserted rfl done_) hit
  | @write run caller _ _ =>
    obtain ⟨old,_⟩ | ⟨old,inside,same,rfl⟩ := memUpdateRun mem
    · exact verdict r old hit
    · -- The finishing call is backed by an open row of this identifier.
      obtain ⟨b,row,id,_,open_,_⟩ := here.backed run rfl
      have closed := (verdict b row (id.trans (same.symm.trans hit))).1
      rw [open_] at closed
      contradiction
  | @interrupt now retention run rest out interrupted =>
    obtain ⟨_,shape⟩ := finished interrupted
    obtain ⟨old,_⟩ | ⟨old,inside,same,rfl⟩ := memUpdateRun mem
    · exact verdict r old hit
    · -- Another recovery has interrupted this row from the same snapshot.
      obtain ⟨terminal,as⟩ := verdict old inside hit
      have follows := here.follows rfl run List.mem_cons_self old inside (same.trans (by rw [shape]))
      have interruptedState := follows.2.2.2 terminal
      refine ⟨by rw [shape]; rfl,?_⟩
      rw [← as,shape]
      simp only [JobRun.verdict,interruptedState,follows.1,follows.2.1,follows.2.2.1]
  | remove count id rest => exact verdict r (Rows.memDelete.mp mem).1 hit

theorem sealedMint {cal db env p db' p' id} (issued : id ∈ db.issued) (unminted : ∀ run, p.minted = some run → run.id ≠ id)
    (ok : step cal db p env = some (db',p')) : id ∈ db'.issued ∧ ∀ run, p'.minted = some run → run.id ≠ id := by
  have inserted : ∀ {ownerId run now}, db.insertRun ownerId run now = .ok db' → id ∈ db'.issued := by
    intro ownerId run now done_
    obtain ⟨_,_,rfl⟩ := insertedRun done_
    exact issued
  cases effect ok with
  | quiet _ same idle => exact ⟨same ▸ issued,by simp [idle.minted]⟩
  | mintSkipped fresh new _ | mintLeased fresh new _ =>
    refine ⟨List.mem_cons_of_mem _ issued,?_⟩
    intro run minted
    cases Option.some.inj minted
    rintro rfl
    exact fresh (new ▸ issued)
  | store done_ idle => exact ⟨inserted done_,by simp [idle.minted]⟩
  | lease done_ => exact ⟨inserted done_,by simp [Pc.minted]⟩
  | begin | settle => exact ⟨issued,by simp [Pc.minted]⟩
  | write idle => exact ⟨issued,by simp [idle.minted]⟩
  | snapshot | interrupt => exact ⟨issued,by simp [(recoveringHolds _ _ _).1.minted]⟩
  | select | remove => exact ⟨issued,by simp [(pruningHolds _ _).1.minted]⟩

theorem sealedStep {cal c e next id v} (holds : (outline true).Holds c)
    (closed : Sealed id v c) (fired : (machine cal).fire c e = some next) : Sealed id v next := by
  obtain ⟨point,rfl,entry,rfl⟩ | ⟨index,input,point,shared,target,rfl,found,moved,rfl⟩ :=
    fireCases fired
  · refine ⟨closed.issued,?_,closed.verdict⟩
    intro p member
    rcases List.mem_append.mp member with old | new
    · exact closed.unminted p old
    · rw [List.mem_singleton.mp new]
      simp [(entryIdle entry).minted]
  · have here := List.mem_of_getElem? found
    obtain ⟨issued,unminted⟩ := sealedMint closed.issued (closed.unminted point here) moved
    refine ⟨issued,?_,?_⟩
    · intro p member
      rcases List.mem_or_eq_of_mem_set member with old | rfl
      · exact closed.unminted p old
      · exact unminted
    · intro r mem hit
      exact sealedWrite (holds.point point here) (closed.unminted point here) closed.verdict moved mem hit

theorem historyFinal {cal db es mid more last} (stored : Stored db)
    (run : Run (machine cal).fire (leasesRespected true).guard ⟨db,[]⟩ es mid)
    (later : Run (machine cal).fire (leasesRespected true).guard mid more last)
    {r r'} (mem : r ∈ mid.shared.runs) (terminal : r.payload.isTerminal = true)
    (still : r' ∈ last.shared.runs) (same : r'.id = r.id) :
    r'.payload.verdict = r.payload.verdict := by
  have sound := runsSound true cal
  have holds := (outline true).runHolds sound run (Outline.emptyHolds stored)
  have closed := Outline.runKeeps (Sealed r.id r.payload.verdict) sound
    (fun _ _ _ holds closed _ fired => sealedStep holds closed fired) later holds
    (sealedRow holds mem terminal)
  exact (closed.verdict r' still same).2

def recovered : List (Event Pc Env) :=
  [.start (runNow 3 false 7),.step 0 {},.step 0 {now := seconds 1699999990, fresh := 1},.step 0 {},
    .step 0 {},.start (tick (seconds 1700000040) 30),.step 1 {},.step 1 {}]

def overwritten : List (Event Pc Env) :=
  [.step 0 {now := seconds 1700000050, outcome := .output (some 0) [] []},.step 0 {}]

def stateOf (id : Uuid) (c : Pool Db Pc) : Option RunState :=
  (c.shared.runs.find? (fun r => r.id == id)).map (fun r => r.payload.state)

theorem stateOfRow {id c state} (found : stateOf id c = some state) : ∃ r ∈ c.shared.runs, r.id = id ∧ r.payload.state = state := by
  obtain ⟨r,hit,same⟩ := Option.map_eq_some_iff.mp found
  exact ⟨r,(Rows.found hit).1,(Rows.found hit).2,same⟩

theorem historyRewritten : Stored hourlyDb ∧ ∃ mid last,
    Run (machine everyMinute).fire free ⟨hourlyDb,[]⟩ recovered mid ∧
    Run (machine everyMinute).fire free mid overwritten last ∧
    ∃ r ∈ mid.shared.runs, ∃ r' ∈ last.shared.runs, r.payload.isTerminal = true ∧ r'.id = r.id ∧
      r'.payload.verdict ≠ r.payload.verdict := by
  obtain ⟨mid,last,first,before,second,after⟩ := replayTwice (machine everyMinute).fire free ⟨hourlyDb,[]⟩ recovered overwritten
    (fun c => stateOf 1 c = some .interrupted) (fun c => stateOf 1 c = some .succeeded) (by decide)
  obtain ⟨r,mem,id,interrupted⟩ := stateOfRow before
  obtain ⟨r',mem',id',succeeded⟩ := stateOfRow after
  refine ⟨storedFresh _,mid,last,first,second,r,mem,r',mem',?_,id'.trans id.symm,?_⟩
  · rw [JobRun.isTerminal,interrupted]; rfl
  · intro same
    have states := congrArg Verdict.state same
    rw [show r'.payload.verdict.state = .succeeded from succeeded,
      show r.payload.verdict.state = .interrupted from interrupted] at states
    contradiction

def recorded : List (Event Pc Env) :=
  [.start (runNow 3 false 7),.step 0 {},.step 0 {now := seconds 1699999990, fresh := 1},.step 0 {},
    .step 0 {},.step 0 {now := seconds 1700000000, outcome := .output (some 0) [104,105] []},.step 0 {}]

def followed : List (Event Pc Env) :=
  [.start (tick (seconds 1700000040) 30),.step 1 {},.step 1 {},.step 1 {},.step 1 {},
    .step 1 {now := seconds 1700000041, fresh := 2},.step 1 {},.step 1 {},
    .step 1 {now := seconds 1700000045, outcome := .output none [] []},.step 1 {},.step 1 {}]

theorem historyFinalHourly : ∃ mid last, Run (machine everyMinute).fire (leasesRespected true).guard
    ⟨hourlyDb,[]⟩ recorded mid ∧
    Run (machine everyMinute).fire (leasesRespected true).guard mid followed last ∧
    ∃ r ∈ mid.shared.runs, ∃ r' ∈ last.shared.runs, r.payload.isTerminal = true ∧ r'.id = r.id ∧
      last.shared.runs.length = 2 ∧ r'.payload.verdict = r.payload.verdict := by
  obtain ⟨mid,last,first,before,second,after,two⟩ := replayTwice (machine everyMinute).fire (leasesRespected true).guard
    ⟨hourlyDb,[]⟩ recorded followed (fun c => stateOf 1 c = some .succeeded)
    (fun c => stateOf 1 c = some .succeeded ∧ c.shared.runs.length = 2) (by decide)
  obtain ⟨r,mem,id,succeeded⟩ := stateOfRow before
  obtain ⟨r',mem',id',_⟩ := stateOfRow after
  have terminal : r.payload.isTerminal = true := by rw [JobRun.isTerminal,succeeded]; rfl
  have same := id'.trans id.symm
  exact ⟨mid,last,first,second,r,mem,r',mem',terminal,same,two,
    historyFinal (storedFresh _) first second mem terminal mem' same⟩

end OpenPanel.Cron
