import OpenPanel.PlanAssignments

/-! What the cache of effective quotas holds. `effective_async` stores the role
default on a miss without asking the tables, `effective` when a read fails, and both
may store after the tables have changed. Otherwise an entry is what the tables gave. -/
namespace OpenPanel.HostingPlans
open CallPool GuardedRun

def Pc.resolving : Pc → Option Uuid
  | .currentPlan userId _ | .cacheStore userId _ => some userId
  | _ => none

def faithful : Discipline State Pc Env where
  alone s pc env := match pc with
    | .effectiveAsync userId => s.cacheHit userId env.now = none → s.heldCaps userId = none
    | .currentAssignment _ | .currentPlan _ _ => env.fault = none
    | _ => True
  beside s pc _ other := match pc with
    | .replaceCurrent _ userId _ | .unassignPlan userId => other.resolving ≠ some userId
    | .insertAssignment a => other.resolving ≠ some a.userId
    | .writePlan plan => ∀ userId ∈ other.resolving, ∀ a ∈ s.currentAssignment userId, a.planId ≠ plan.id
    | _ => True

instance (s pc env) : Decidable (faithful.alone s pc env) := by
  unfold faithful
  dsimp only
  split <;> exact inferInstance

instance (s pc env other) : Decidable (faithful.beside s pc env other) := by
  refine Pc.casesOn pc ?_ ?_ ?_ ?_ ?_ ?_ ?_ ?_ ?_ ?_ ?_ ?_ ?_ ?_ ?_ ?_ ?_ ?_ ?_ ?_ ?_ <;> intros <;>
    dsimp only [faithful] <;> infer_instance

def CacheEntry.Sound (e : CacheEntry) : Prop := e.caps = e.actual.getD roleDefault

def cacheOutline : Outline State Pc where
  shared s := ∀ e ∈ s.cache, e.Sound
  point s pc := match pc with
    | .currentPlan userId planId => ∃ a, s.currentAssignment userId = some a ∧ a.planId = planId
    | .cacheStore userId caps => caps = (s.heldCaps userId).getD roleDefault
    | _ => True
  pair _ _ := True

def SameFor (s s' : State) (userId : Uuid) : Prop :=
  s'.currentAssignment userId = s.currentAssignment userId ∧ s'.heldCaps userId = s.heldCaps userId

theorem sameOfRows (rows : s'.currentRows userId = s.currentRows userId)
    (plans : ∀ a ∈ s.currentAssignment userId, s'.findPlan a.planId = s.findPlan a.planId) : SameFor s s' userId := by
  have current : s'.currentAssignment userId = s.currentAssignment userId := by
    simp only [State.currentAssignment,rows]
  refine ⟨current,?_⟩
  unfold State.heldCaps
  rw [current]
  cases held : s.currentAssignment userId with
  | none => rfl
  | some a => simp only [bind,Option.bind,plans a held]

theorem currentMem {s : State} (current : s.currentAssignment userId = some a) : a ∈ s.assignments := by
  have first := List.mem_of_head? current
  rw [List.mem_insertionSort] at first
  exact (List.mem_filter.mp first).1

theorem findUpdated {s : State} {id : Uuid} (different : id ≠ plan.id) : (s.updatePlan plan).findPlan id = s.findPlan id :=
  Rows.findUpdate (fun r hit => by simp [hit,Ne.symm different])

theorem findDeleted {s : State} (unused : ∀ a ∈ s.assignments, a.planId ≠ planId) (userId) : ∀ a ∈ s.currentAssignment userId,
      State.findPlan {s with plans := Rows.delete HostingPlan.id planId s.plans} a.planId = s.findPlan a.planId := by
  intro a current
  refine Rows.findDelete (fun plan hit => ?_)
  simp [hit,Ne.symm (unused a (currentMem current))]

inductive CacheEffect (s : State) (env : Env) : Pc → State → Pc → Prop where
  | keeps {pc s' pc'} (cache : s'.cache ⊆ s.cache) (next : pc'.resolving = none)
      (same : ∀ q : Pc, ∀ userId, q.resolving = some userId → faithful.beside s pc env q →
        SameFor s s' userId) : CacheEffect s env pc s' pc'
  | reads {pc pc'} (valid : cacheOutline.point s pc → faithful.alone s pc env → cacheOutline.point s pc') :
      CacheEffect s env pc s pc'
  | stores {userId caps result} :
      CacheEffect s env (.cacheStore userId caps) (s.cacheStore userId caps env.now) (.done result)

theorem CacheEffect.idle (next : pc'.resolving = none) : CacheEffect s env pc s pc' :=
  .keeps (List.Subset.refl _) next (fun _ _ _ _ => ⟨rfl,rfl⟩)

theorem closedSame (q : Pc) (userId) (their : q.resolving = some userId)
    (apart : q.resolving ≠ some mine) : SameFor s (s.closeCurrent mine now) userId := by
  refine sameOfRows (closedOther ?_ now) (fun _ _ => rfl)
  rintro rfl
  exact apart their

theorem cacheEffect (ok : step s pc env = some (s',pc')) : CacheEffect s env pc s' pc' := by
  cases move ok with
  | replaceCurrent | unassigned | unassignPlan => exact .keeps (List.Subset.refl _) rfl closedSame
  | insertAssignment a =>
    refine .keeps (List.Subset.refl _) rfl (fun _ _ their beside => sameOfRows ?_ (fun _ _ => rfl))
    exact rowsInsertOther rfl (fun same => beside (same ▸ their))
  | pointUser | clearUser => exact .keeps (List.Subset.refl _) rfl (fun _ _ _ _ => ⟨rfl,rfl⟩)
  | invalidateAssigned | invalidateUnassigned =>
    exact .keeps (fun _ mem => (Rows.memDelete.mp mem).1) rfl (fun _ _ _ _ => ⟨rfl,rfl⟩)
  | invalidateAll => exact .keeps (fun _ mem => nomatch mem) rfl (fun _ _ _ _ => ⟨rfl,rfl⟩)
  | writePlan plan =>
    refine .keeps (List.Subset.refl _) rfl (fun q userId their beside => sameOfRows rfl ?_)
    exact fun a current => findUpdated (beside userId their a current)
  | removePlan unused =>
    exact .keeps (List.Subset.refl _) rfl (fun _ userId _ _ => sameOfRows rfl (findDeleted unused userId))
  | currentFound found => exact .reads (fun _ _ => ⟨_,found,rfl⟩)
  | currentMissing missing =>
    refine .reads (fun _ clean => ?_)
    simp [cacheOutline,State.heldCaps,missing clean]
  | planFound found =>
    refine .reads (fun here _ => ?_)
    obtain ⟨a,current,rfl⟩ := here
    simp [cacheOutline,State.heldCaps,current,found]
  | planMissing missing =>
    refine .reads (fun here clean => ?_)
    obtain ⟨a,current,rfl⟩ := here
    simp [cacheOutline,State.heldCaps,current,missing clean]
  | effectiveAsync miss =>
    refine .reads (fun _ unheld => ?_)
    simp [cacheOutline,unheld miss]
  | cacheStore => exact .stores
  | _ => exact .idle rfl

theorem pointSame (same : ∀ userId, q.resolving = some userId → SameFor s s' userId)
    (here : cacheOutline.point s q) : cacheOutline.point s' q := by
  cases q with
  | currentPlan userId planId =>
    obtain ⟨a,current,plan⟩ := here
    exact ⟨a,(same userId rfl).1.trans current,plan⟩
  | cacheStore userId caps => exact here.trans (congrArg (Option.getD · roleDefault) (same userId rfl).2.symm)
  | _ => trivial

theorem pointIdle (idle : pc.resolving = none) : cacheOutline.point s pc := by
  cases pc <;> first | contradiction | trivial

theorem storedSound {s : State} {userId caps now} (sound : ∀ e ∈ s.cache, e.Sound)
    (valid : caps = (s.heldCaps userId).getD roleDefault) : ∀ e ∈ (s.cacheStore userId caps now).cache, e.Sound := by
  intro e mem
  rcases List.mem_append.mp mem with old | new
  · exact sound e (Rows.memDelete.mp old).1
  · cases List.mem_singleton.mp new
    exact valid

theorem cacheSound : cacheOutline.Sound machine faithful where
  symm _ _ _ := trivial
  start s pc h := by cases pc <;> first | contradiction | trivial
  startPair _ _ _ _ _ := trivial
  own s pc env s' pc' sound here allowed ok := by
    cases cacheEffect ok with
    | keeps cache next _ => exact ⟨fun e mem => sound e (cache mem),pointIdle next⟩
    | reads valid => exact ⟨sound,valid here allowed⟩
    | stores => exact ⟨storedSound sound here,trivial⟩
  other s pc env s' pc' q _ _ theirs _ _ beside ok := by
    refine ⟨?_,trivial⟩
    cases cacheEffect ok with
    | keeps _ _ same => exact pointSame (fun userId their => same q userId their beside) theirs
    | reads _ => exact theirs
    | stores => exact pointSame (fun _ _ => ⟨rfl,rfl⟩) theirs

theorem servedEntry (asks : pc.asks = some userId)
    (hit : s.cacheHit userId env.now = some e) (ok : step s pc env = some (s',.done (.quotas answer))) : answer = e.caps := by
  cases pc with
  | effective mine | resolverEffective mine | effectiveAsync mine =>
    cases Option.some.inj asks
    simp only [step,hit] at ok
    cases ok
    rfl
  | _ => cases asks

theorem hitMem {s : State} (hit : s.cacheHit userId now = some e) : e ∈ s.cache := by
  unfold State.cacheHit at hit
  split at hit <;> try contradiction
  rename_i found
  split at hit <;> cases hit
  exact List.mem_of_find?_eq_some found

theorem cacheFaithful {s es last} (start : ∀ e ∈ s.cache, e.Sound)
    (run : Run machine.fire faithful.guard ⟨s,[]⟩ es last) :
    (∀ e ∈ last.shared.cache, e.caps = e.actual.getD roleDefault) ∧
    ∀ pc env s' userId e answer, Pc.asks pc = some userId → last.shared.cacheHit userId env.now = some e →
      step last.shared pc env = some (s',.done (.quotas answer)) → answer = e.actual.getD roleDefault := by
  have sound := (cacheOutline.runHolds cacheSound run (Outline.emptyHolds start)).shared
  refine ⟨sound,?_⟩
  intro pc env s' userId e answer asks hit ok
  exact (servedEntry asks hit ok).trans (sound e (hitMem hit))

def subscribed : State :=
  ⟨[{tenant with hostingPlanId := some 10}],[basic,pro],[.new 2 10 1 0],[]⟩

def asyncFirst : List (Event Pc Env) :=
  [.start (.effectiveAsync 2),.step 0 {now := seconds 5},.step 0 {now := seconds 5},.start (.effective 2)]

theorem cacheDefaulted : subscribed.cache = [] ∧ ∃ last, Run machine.fire free ⟨subscribed,[]⟩ asyncFirst last ∧
    last.shared.cache = [⟨2,roleDefault,seconds 5,some (.fromCaps basic.quotaCaps)⟩] ∧
    step last.shared (.effective 2) {now := seconds 30} = some (last.shared,.done (.quotas roleDefault)) ∧
    ¬ ∀ e ∈ last.shared.cache, e.caps = e.actual.getD roleDefault := ⟨rfl,replayShows _ _ _ _ _ (by decide +kernel)⟩

def asyncLater : List (Event Pc Env) :=
  [.start (.effective 2),.step 0 {now := seconds 5},.step 0 {},.step 0 {},.step 0 {now := seconds 5},
    .start (.effectiveAsync 2),.step 1 {now := seconds 30}]

theorem cacheFaithfulLater : ∃ last, Run machine.fire faithful.guard ⟨subscribed,[]⟩ asyncLater last ∧
    last.calls[1]? = some (.done (.quotas (.fromCaps basic.quotaCaps))) ∧
    ∀ e ∈ last.shared.cache, e.caps = e.actual.getD roleDefault := by
  obtain ⟨last,run,shown⟩ := replayShows machine.fire faithful.guard ⟨subscribed,[]⟩ asyncLater
    (fun c => c.calls[1]? = some (.done (.quotas (.fromCaps basic.quotaCaps)))) (by decide)
  have start : ∀ e ∈ subscribed.cache, e.Sound := nofun
  exact ⟨last,run,shown,(cacheFaithful start run).1⟩

end OpenPanel.HostingPlans
