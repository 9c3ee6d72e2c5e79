import OpenPanel.PlanMoves

/-! The current plan of a user, held twice: as the open assignment row and as a
column of the account, written in three writes that two calls can interleave and a
failure cut short. Otherwise both agree once no call is in flight. -/
namespace OpenPanel.HostingPlans
open CallPool GuardedRun Identity

def Pc.inFlight : Pc → Bool
  | .done _ => false
  | _ => true

structure Agrees (s : State) (userId : Uuid) : Prop where
  single : (s.currentRows userId).length ≤ 1
  pointer : ∀ u ∈ s.users, u.id = userId →
    u.hostingPlanId = (s.currentRows userId).head?.map PlanAssignment.planId

def undisturbed : Discipline State Pc Env where
  alone s pc env := match pc with
    | .insertAssignment a => env.fault = none ∧ (s.findPlan a.planId).isSome = true ∧
        ∀ row ∈ s.assignments, row.userId = a.userId → row.assignedAt ≠ a.assignedAt
    | .pointUser _ | .clearUser _ => env.fault = none
    | _ => True
  beside _ pc _ other := match pc with
    | .replaceCurrent _ userId _ | .unassignPlan userId => other.midway ≠ some userId
    | _ => True

instance (s pc env) : Decidable (undisturbed.alone s pc env) := by
  unfold undisturbed
  dsimp only
  split <;> exact inferInstance

instance (s pc env other) : Decidable (undisturbed.beside s pc env other) := by
  unfold undisturbed
  dsimp only
  split <;> exact inferInstance

def assignmentOutline : Outline State Pc where
  shared _ := True
  point s pc := match pc with
    | .insertAssignment a => s.currentRows a.userId = [] ∧ a.replacedAt = none
    | .invalidateAssigned a | .pointUser a => s.currentRows a.userId = [a]
    | .clearUser userId => s.currentRows userId = []
    | _ => True
  pair p q := ∀ userId, p.midway = some userId → q.midway ≠ some userId

inductive Placement (s : State) (env : Env) : Pc → State → Pc → Prop where
  | quiet {pc s' pc'} (rows : s'.assignments = s.assignments) (users : s'.users = s.users)
      (before : pc.midway = none) (after : pc'.midway = none) : Placement s env pc s' pc'
  | replace {planId userId actorId} :
      Placement s env (.replaceCurrent planId userId actorId) (s.closeCurrent userId env.now)
        (.insertAssignment (.new userId planId actorId env.now))
  | insert {a s'} (rows : s'.assignments = s.assignments ++ [a]) (users : s'.users = s.users) :
      Placement s env (.insertAssignment a) s' (.invalidateAssigned a)
  | invalidate {a s'} (rows : s'.assignments = s.assignments) (users : s'.users = s.users) :
      Placement s env (.invalidateAssigned a) s' (.pointUser a)
  | point {a result} :
      Placement s env (.pointUser a) (s.updateHostingPlanId a.userId (some a.planId)) (.done result)
  | absent {userId result} (none : s.currentAssignment userId = none) :
      Placement s env (.unassignPlan userId) (s.closeCurrent userId env.now) (.done result)
  | remove {userId} :
      Placement s env (.unassignPlan userId) (s.closeCurrent userId env.now) (.clearUser userId)
  | clear {userId} :
      Placement s env (.clearUser userId) (s.updateHostingPlanId userId none) (.invalidateUnassigned userId)
  | cut {pc pc'} (failed : ¬ undisturbed.alone s pc env) : Placement s env pc s pc'

theorem refusedAssignment {s : State} (refused : s.insertAssignment a = .error e) (plan : (s.findPlan a.planId).isSome = true)
    (fresh : ∀ row ∈ s.assignments, row.userId = a.userId → row.assignedAt ≠ a.assignedAt) : False := by
  unfold State.insertAssignment at refused
  split at refused
  · rename_i taken
    obtain ⟨row,mem,hit⟩ := List.any_eq_true.mp taken
    simp only [Bool.and_eq_true,beq_iff_eq] at hit
    exact fresh row mem hit.1 hit.2
  · split at refused
    · rename_i missing
      rw [Option.isNone_iff_eq_none.mp missing] at plan
      cases plan
    · cases refused

theorem faultPlacement (failed : env.fault = some message) (stored : pc.cached = false) : Placement s env pc s (.done result) := by
  have broken : env.fault ≠ none := by simp [failed]
  cases pc with
  | insertAssignment a => exact .cut (fun allowed => broken allowed.1)
  | pointUser a => exact .cut broken
  | clearUser userId => exact .cut broken
  | invalidateAssigned a => contradiction
  | _ => exact .quiet rfl rfl rfl rfl

theorem asksUnwritten {pc : Pc} (asks : pc.asks = some userId) : pc.midway = none := by
  cases pc <;> first | contradiction | rfl

theorem placement (ok : step s pc env = some (s',pc')) : Placement s env pc s' pc' := by
  cases move ok with
  | faulted fault stored => exact faultPlacement fault stored
  | rejected unwritten => exact .quiet rfl rfl unwritten rfl
  | replaceCurrent => exact .replace
  | refused refused => exact .cut (fun allowed => refusedAssignment refused allowed.2.1 allowed.2.2)
  | insertAssignment => exact .insert rfl rfl
  | invalidateAssigned => exact .invalidate rfl rfl
  | pointUser => exact .point
  | unassigned none => exact .absent none
  | unassignPlan => exact .remove
  | clearUser => exact .clear
  | hit asks => exact .quiet rfl rfl (asksUnwritten asks) rfl
  | _ => exact .quiet rfl rfl rfl rfl

theorem closedRows (s : State) (userId now) : (s.closeCurrent userId now).currentRows userId = [] := by
  refine List.filter_eq_nil_iff.mpr ?_
  intro row mem hit
  obtain ⟨a,_,rfl⟩ := List.mem_map.mp mem
  simp only [Bool.and_eq_true,beq_iff_eq,Option.isNone_iff_eq_none] at hit
  split at hit
  · cases hit.2
  · rename_i open'
    exact open' hit

theorem closedOther {s : State} (different : other ≠ userId) (now) :
    (s.closeCurrent userId now).currentRows other = s.currentRows other := by
  simp only [State.currentRows,State.closeCurrent]
  induction s.assignments with
  | nil => rfl
  | cons a rest ih =>
    simp only [List.map_cons,List.filter_cons,ih]
    split
    · rename_i hit
      have miss : a.userId ≠ other := fun same => different (same.symm.trans hit.1)
      simp [miss]
    · rfl

theorem rowsSame {s s' : State} (rows : s'.assignments = s.assignments) (userId) : s'.currentRows userId = s.currentRows userId := by
  simp only [State.currentRows,rows]

theorem rowsInsert {s s' : State} (rows : s'.assignments = s.assignments ++ [a])
    (empty : s.currentRows a.userId = []) (current : a.replacedAt = none) : s'.currentRows a.userId = [a] := by
  simp only [State.currentRows] at empty ⊢
  simp [rows,List.filter_append,empty,current]

theorem rowsInsertOther {s s' : State} (rows : s'.assignments = s.assignments ++ [a])
    (different : other ≠ a.userId) : s'.currentRows other = s.currentRows other := by
  simp [State.currentRows,rows,List.filter_append,Ne.symm different]

theorem pointKept (same : ∀ userId, q.midway = some userId → s'.currentRows userId = s.currentRows userId)
    (here : assignmentOutline.point s q) : assignmentOutline.point s' q := by
  cases q with
  | insertAssignment a => exact ⟨(same _ rfl).trans here.1,here.2⟩
  | invalidateAssigned a => exact (same _ rfl).trans here
  | pointUser a => exact (same _ rfl).trans here
  | clearUser userId => exact (same _ rfl).trans here
  | _ => trivial

theorem assignmentsSound : assignmentOutline.Sound machine undisturbed where
  symm p q apart := fun userId mine theirs => apart userId theirs mine
  start s pc h := by cases pc <;> first | contradiction | trivial
  startPair s p q h _ := by
    intro userId mine
    cases p <;> contradiction
  own s pc env s' pc' _ here allowed ok := by
    refine ⟨trivial,?_⟩
    cases placement ok with
    | quiet rows users before after => cases pc' <;> first | contradiction | trivial
    | replace => exact ⟨closedRows s _ _,rfl⟩
    | insert rows users => exact rowsInsert rows here.1 here.2
    | invalidate rows users => exact (rowsSame rows _).trans here
    | point => trivial
    | absent none => trivial
    | remove => exact closedRows s _ _
    | clear => trivial
    | cut failed => exact absurd allowed failed
  other s pc env s' pc' q _ _ theirs apart allowed beside ok := by
    cases placement ok with
    | quiet rows users before after =>
      refine ⟨pointKept (fun userId _ => rowsSame rows userId) theirs,?_⟩
      intro userId mine
      rw [after] at mine
      cases mine
    | replace =>
      refine ⟨pointKept (fun other their => closedOther ?_ _) theirs,?_⟩
      · rintro rfl
        exact beside their
      · rintro userId ⟨⟩
        exact beside
    | insert rows users =>
      refine ⟨pointKept (fun other their => rowsInsertOther rows ?_) theirs,apart⟩
      rintro rfl
      exact apart _ rfl their
    | invalidate rows users => exact ⟨pointKept (fun userId _ => rowsSame rows userId) theirs,apart⟩
    | point => exact ⟨pointKept (fun _ _ => rfl) theirs,fun userId mine => by cases mine⟩
    | absent none =>
      refine ⟨pointKept (fun other their => closedOther ?_ _) theirs,fun userId mine => by cases mine⟩
      rintro rfl
      exact beside their
    | remove =>
      refine ⟨pointKept (fun other their => closedOther ?_ _) theirs,?_⟩
      · rintro rfl
        exact beside their
      · rintro userId ⟨⟩
        exact beside
    | clear => exact ⟨pointKept (fun _ _ => rfl) theirs,fun userId mine => by cases mine⟩
    | cut failed => exact absurd allowed failed

def Settled (c : Pool State Pc) : Prop :=
  ∀ userId, (∀ p ∈ c.calls, p.midway ≠ some userId) → Agrees c.shared userId

theorem agreesSame (rows : s'.currentRows userId = s.currentRows userId)
    (users : s'.users = s.users) (agrees : Agrees s userId) : Agrees s' userId := by
  refine ⟨rows ▸ agrees.single,?_⟩
  rw [rows,users]
  exact agrees.pointer

theorem agreesPointed {s : State} (single : (s.currentRows userId).length ≤ 1)
    (plans : (s.currentRows userId).head?.map PlanAssignment.planId = plan) : Agrees (s.updateHostingPlanId userId plan) userId := by
  refine ⟨single,?_⟩
  intro u mem same
  obtain ⟨_,miss⟩ | ⟨_,_,_,rfl⟩ := Rows.memUpdate mem
  · exact absurd same miss
  · exact plans.symm

theorem agreesElsewhere (different : other ≠ userId) (agrees : Agrees s other) : Agrees (s.updateHostingPlanId userId plan) other := by
  refine ⟨agrees.single,?_⟩
  intro u mem same
  obtain ⟨old,_⟩ | ⟨before,_,hit,rfl⟩ := Rows.memUpdate mem
  · exact agrees.pointer u old same
  · exact absurd (same.symm.trans hit) different

theorem settledStep (c e next) (holds : assignmentOutline.Holds c) (settled : Settled c)
    (allowed : undisturbed.guard c e) (fired : machine.fire c e = some next) : Settled next := by
  obtain ⟨point,rfl,_,rfl⟩ | ⟨index,env,pc,s',pc',rfl,found,moved,rfl⟩ := fireCases fired
  · exact fun userId free => settled userId (fun p mem => free p (List.mem_append_left _ mem))
  · intro userId free
    have here := holds.point pc (List.mem_of_getElem? found)
    have alone := (allowed pc found).1
    have target : pc'.midway ≠ some userId := free pc' (stepMem found)
    have before : pc.midway ≠ some userId → Agrees c.shared userId := by
      intro mine
      refine settled userId (fun p mem => ?_)
      obtain rfl | kept := othersKept found pc' mem
      · exact mine
      · exact free p kept
    cases placement moved with
    | quiet rows users none _ => exact agreesSame (rowsSame rows userId) users (before (by simp [none]))
    | replace =>
      have different : userId ≠ _ := fun same => target (congrArg some same.symm)
      exact agreesSame (closedOther different _) rfl (before nofun)
    | @insert a _ rows users =>
      have different : userId ≠ a.userId := fun same => target (congrArg some same.symm)
      exact agreesSame (rowsInsertOther rows different) users (before target)
    | invalidate rows users => exact agreesSame (rowsSame rows userId) users (before target)
    | @point a _ =>
      by_cases same : userId = a.userId
      · subst same
        have only : c.shared.currentRows a.userId = [a] := here
        exact agreesPointed (by simp [only]) (by simp [only])
      · exact agreesElsewhere same (before (fun mine => same (Option.some.inj mine).symm))
    | @absent mine _ none =>
      have agrees := before nofun
      by_cases same : userId = mine
      · subst same
        exact agreesSame ((closedRows _ _ _).trans (Rows.noneSorted none).symm) rfl agrees
      · exact agreesSame (closedOther same _) rfl agrees
    | remove =>
      have different : userId ≠ _ := fun same => target (congrArg some same.symm)
      exact agreesSame (closedOther different _) rfl (before nofun)
    | @clear mine =>
      by_cases same : userId = mine
      · subst same
        have empty : c.shared.currentRows userId = [] := here
        exact agreesPointed (by simp [empty]) (by simp [empty])
      · exact agreesElsewhere same (before (fun their => same (Option.some.inj their).symm))
    | cut failed => exact absurd alone failed

theorem onePlan {s es last} (start : ∀ userId, Agrees s userId)
    (run : Run machine.fire undisturbed.guard ⟨s,[]⟩ es last)
    (idle : ∀ p ∈ last.calls, p.inFlight = false) (userId : Uuid) : Agrees last.shared userId := by
  have settled : Settled last := Outline.runKeeps Settled assignmentsSound settledStep run
    (Outline.emptyHolds trivial) (fun userId _ => start userId)
  refine settled userId (fun p mem => ?_)
  have finished := idle p mem
  cases p <;> first | contradiction | nofun

def caps (sites : Nat) : PlanQuotas := ⟨20 * 1024 * 1024 * 1024,200 * 1024 * 1024 * 1024,sites,10,5,50,25,4,0⟩
def basic : HostingPlan := ⟨10,[],caps 10,.active,0⟩
def pro : HostingPlan := ⟨11,[],caps 50,.active,0⟩
def tenant : User := ⟨2,⟨"tenant",by decide⟩,⟨"tenant@panel.test",by decide⟩,.user,none,none,0⟩
def hosted : State := ⟨[tenant],[basic,pro],[],[]⟩

theorem hostedAgrees (userId) : Agrees hosted userId := by
  refine ⟨Nat.zero_le 1,?_⟩
  intro u mem _
  cases List.mem_singleton.mp mem
  rfl

def crossed : List (Event Pc Env) :=
  [.start (.assignPlan 10 2 1),.start (.assignPlan 11 2 1),.step 0 {},.step 0 {},.step 1 {},.step 1 {},
    .step 0 {now := 1},.step 1 {now := 2},.step 0 {},.step 1 {},.step 0 {},.step 0 {},.step 1 {},.step 1 {}]

def failed : List (Event Pc Env) :=
  [.start (.assignPlan 10 2 1),.step 0 {},.step 0 {},.step 0 {now := 1},.step 0 {},.step 0 {},.step 0 {},
    .start (.assignPlan 11 2 1),.step 1 {},.step 1 {},.step 1 {now := 2},
    .step 1 {fault := some "disk I/O error"}]

def plansOf (userId : Uuid) (c : Pool State Pc) : Bool × List Uuid × List (Option Uuid) :=
  (c.calls.all (fun p => !p.inFlight),(c.shared.currentRows userId).map PlanAssignment.planId,
    (c.shared.users.filter (fun u => u.id == userId)).map User.hostingPlanId)

theorem plansIdle (shown : plansOf userId c = (true,plans,pointers)) : ∀ p ∈ c.calls, p.inFlight = false := by
  have every : c.calls.all (fun p => !p.inFlight) = true := congrArg Prod.fst shown
  intro p mem
  simpa using List.all_eq_true.mp every p mem

theorem plansDisagree (shown : plansOf userId c = (idle,plans,[pointer]))
    (different : 1 < plans.length ∨ pointer ≠ plans.head?) : ¬ Agrees c.shared userId := by
  have rows : (c.shared.currentRows userId).map PlanAssignment.planId = plans :=
    congrArg (fun t => t.2.1) shown
  have pointers : (c.shared.users.filter (fun u => u.id == userId)).map User.hostingPlanId = [pointer] :=
    congrArg (fun t => t.2.2) shown
  intro agrees
  obtain more | other := different
  · rw [← rows,List.length_map] at more
    exact absurd agrees.single (Nat.not_le.mpr more)
  · obtain ⟨u,mem,held⟩ := List.mem_map.mp (pointers ▸ List.mem_singleton_self pointer)
    obtain ⟨inside,same⟩ := List.mem_filter.mp mem
    refine other (held.symm.trans ?_)
    rw [agrees.pointer u inside (by simpa using same),← rows,List.head?_map]

theorem plansDiverge : (∀ userId, Agrees hosted userId) ∧
    (∃ last, Run machine.fire free ⟨hosted,[]⟩ crossed last ∧ (∀ p ∈ last.calls, p.inFlight = false) ∧
      ¬ Agrees last.shared 2) ∧
    (∃ last, Run machine.fire free ⟨hosted,[]⟩ failed last ∧ (∀ p ∈ last.calls, p.inFlight = false) ∧
      ¬ Agrees last.shared 2) := by
  obtain ⟨first,run,shown⟩ := replayShows machine.fire free ⟨hosted,[]⟩ crossed
    (fun c => plansOf 2 c = (true,[10,11],[some 11])) (by decide)
  obtain ⟨second,run',shown'⟩ := replayShows machine.fire free ⟨hosted,[]⟩ failed
    (fun c => plansOf 2 c = (true,[],[some 10])) (by decide)
  exact ⟨hostedAgrees,⟨first,run,plansIdle shown,plansDisagree shown (.inl (by decide))⟩,
    ⟨second,run',plansIdle shown',plansDisagree shown' (.inr (by decide))⟩⟩

def inTurn : List (Event Pc Env) :=
  [.start (.assignPlan 10 2 1),.start (.assignPlan 11 2 1),.step 0 {},.step 0 {},.step 1 {},.step 1 {},
    .step 0 {now := 1},.step 0 {},.step 0 {},.step 0 {},.step 1 {now := 2},.step 1 {},.step 1 {},.step 1 {}]

theorem onePlanInTurn : ∃ last, Run machine.fire undisturbed.guard ⟨hosted,[]⟩ inTurn last ∧
    plansOf 2 last = (true,[11],[some 11]) ∧ Agrees last.shared 2 := by
  obtain ⟨last,run,shown⟩ := replayShows machine.fire undisturbed.guard ⟨hosted,[]⟩ inTurn
    (fun c => plansOf 2 c = (true,[11],[some 11])) (by decide)
  exact ⟨last,run,shown,onePlan hostedAgrees run (plansIdle shown) 2⟩

end OpenPanel.HostingPlans
