import OpenPanel.HostingPlans

/-! The moves a call can make on the plan tables, the accounts and the cache: one
constructor for each way through `step`. What the later modules say of a step is
read off the moves. -/
namespace OpenPanel.HostingPlans

def Pc.midway : Pc → Option Uuid
  | .insertAssignment a | .invalidateAssigned a | .pointUser a => some a.userId
  | .clearUser userId => some userId
  | _ => none

def Pc.asks : Pc → Option Uuid
  | .effective userId | .resolverEffective userId | .effectiveAsync userId => some userId
  | _ => none

def Pc.cached : Pc → Bool
  | .invalidateAssigned _ => true
  | _ => false

inductive Move (s : State) (env : Env) : Pc → State → Pc → Prop where
  | faulted {pc message} (fault : env.fault = some message) (stored : pc.cached = false) :
      Move s env pc s (fail (.persistence message))
  | rejected {pc error} (unwritten : pc.midway = none) : Move s env pc s (fail error)
  | assignPlan (planId userId actorId) :
      Move s env (.assignPlan planId userId actorId) s (.findUser planId userId actorId)
  | findUser (planId userId actorId) :
      Move s env (.findUser planId userId actorId) s (.replaceCurrent planId userId actorId)
  | replaceCurrent (planId userId actorId) : Move s env (.replaceCurrent planId userId actorId)
      (s.closeCurrent userId env.now) (.insertAssignment (.new userId planId actorId env.now))
  | refused {a e error} (refused : s.insertAssignment a = .error e) :
      Move s env (.insertAssignment a) s (fail error)
  | insertAssignment (a) : Move s env (.insertAssignment a) {s with assignments := s.assignments ++ [a]}
      (.invalidateAssigned a)
  | invalidateAssigned (a) :
      Move s env (.invalidateAssigned a) (s.invalidateCache (some a.userId)) (.pointUser a)
  | pointUser (a) : Move s env (.pointUser a) (s.updateHostingPlanId a.userId (some a.planId))
      (.done (.assigned a))
  | unassigned {userId} (none : s.currentAssignment userId = none) :
      Move s env (.unassignPlan userId) (s.closeCurrent userId env.now) (.done .unassigned)
  | unassignPlan (userId) :
      Move s env (.unassignPlan userId) (s.closeCurrent userId env.now) (.clearUser userId)
  | clearUser (userId) :
      Move s env (.clearUser userId) (s.updateHostingPlanId userId none) (.invalidateUnassigned userId)
  | invalidateUnassigned (userId) :
      Move s env (.invalidateUnassigned userId) (s.invalidateCache (some userId)) (.done .unassigned)
  | changePlan {planId change plan} : Move s env (.changePlan planId change) s (.writePlan plan)
  | writePlan (plan) : Move s env (.writePlan plan) (s.updatePlan plan) (.invalidateAll (.plan plan))
  | deletePlan (planId) : Move s env (.deletePlan planId) s (.removePlan planId)
  | removePlan {planId} (unused : ∀ a ∈ s.assignments, a.planId ≠ planId) : Move s env (.removePlan planId)
      {s with plans := Rows.delete HostingPlan.id planId s.plans} (.invalidateAll .deleted)
  | invalidateAll (result) : Move s env (.invalidateAll result) (s.invalidateCache none) (.done result)
  | hit {pc userId e} (asks : pc.asks = some userId) (held : s.cacheHit userId env.now = some e) :
      Move s env pc s (.done (.quotas e.caps))
  | effective (userId) : Move s env (.effective userId) s (.currentAssignment userId)
  | currentFound {userId a} (found : s.currentAssignment userId = some a) :
      Move s env (.currentAssignment userId) s (.currentPlan userId a.planId)
  | currentMissing {userId} (missing : env.fault = none → s.currentAssignment userId = none) :
      Move s env (.currentAssignment userId) s (.cacheStore userId roleDefault)
  | planFound {userId planId plan} (found : s.findPlan planId = some plan) :
      Move s env (.currentPlan userId planId) s (.cacheStore userId (.fromCaps plan.quotaCaps))
  | planMissing {userId planId} (missing : env.fault = none → s.findPlan planId = none) :
      Move s env (.currentPlan userId planId) s (.cacheStore userId roleDefault)
  | resolverEffective {userId} (miss : s.cacheHit userId env.now = none) :
      Move s env (.resolverEffective userId) s (.done (.quotas roleDefault))
  | effectiveAsync {userId} (miss : s.cacheHit userId env.now = none) :
      Move s env (.effectiveAsync userId) s (.cacheStore userId roleDefault)
  | cacheStore (userId caps) :
      Move s env (.cacheStore userId caps) (s.cacheStore userId caps env.now) (.done (.quotas caps))

theorem insertedAssignment {s s' : State} (ok : s.insertAssignment a = .ok s') : s' = {s with assignments := s.assignments ++ [a]} := by
  unfold State.insertAssignment at ok
  split at ok <;> try contradiction
  split at ok <;> cases ok
  rfl

theorem deletedPlan {s s' : State} (ok : s.deletePlan planId = .ok s') : (∀ a ∈ s.assignments, a.planId ≠ planId) ∧
    s' = {s with plans := Rows.delete HostingPlan.id planId s.plans} := by
  unfold State.deletePlan at ok
  split at ok <;> try contradiction
  split at ok <;> cases ok
  rename_i unused
  refine ⟨?_,rfl⟩
  intro a mem same
  exact unused (List.any_eq_true.mpr ⟨a,mem,by simp [same]⟩)

theorem statementMove (ok : statement s env.now pc = some (s',pc')) : Move s env pc s' pc' := by
  cases pc with
  | assignPlan planId userId actorId =>
    simp only [statement] at ok
    split at ok
    · cases ok
      exact .rejected rfl
    · split at ok <;> cases ok
      · exact .assignPlan planId userId actorId
      · exact .rejected rfl
  | findUser planId userId actorId =>
    simp only [statement] at ok
    split at ok <;> cases ok
    · exact .rejected rfl
    · exact .findUser planId userId actorId
  | replaceCurrent planId userId actorId =>
    cases ok
    exact .replaceCurrent planId userId actorId
  | insertAssignment a =>
    simp only [statement] at ok
    split at ok <;> cases ok
    · rename_i refused
      exact .refused refused
    · rename_i inserted
      cases insertedAssignment inserted
      exact .insertAssignment a
  | pointUser a =>
    cases ok
    exact .pointUser a
  | unassignPlan userId =>
    simp only [statement] at ok
    split at ok <;> cases ok
    · rename_i none
      exact .unassigned none
    · exact .unassignPlan userId
  | clearUser userId =>
    cases ok
    exact .clearUser userId
  | changePlan planId change =>
    simp only [statement] at ok
    split at ok
    · cases ok
      exact .rejected rfl
    · split at ok <;> cases ok
      · exact .rejected rfl
      · exact .changePlan
  | writePlan plan =>
    cases ok
    exact .writePlan plan
  | deletePlan planId =>
    simp only [statement] at ok
    split at ok <;> cases ok
    · exact .rejected rfl
    · exact .deletePlan planId
  | removePlan planId =>
    simp only [statement] at ok
    split at ok <;> cases ok
    · exact .rejected rfl
    · rename_i removed
      obtain ⟨unused,rfl⟩ := deletedPlan removed
      exact .removePlan unused
  | _ => cases ok

theorem move (ok : step s pc env = some (s',pc')) : Move s env pc s' pc' := by
  unfold step at ok
  split at ok
  · contradiction
  · cases ok
    exact .invalidateAssigned _
  · cases ok
    exact .invalidateUnassigned _
  · cases ok
    exact .invalidateAll _
  · split at ok <;> cases ok
    · rename_i held
      exact .hit rfl held
    · exact .effective _
  · split at ok <;> cases ok
    · rename_i found
      exact .currentFound found
    · rename_i missing
      exact .currentMissing (fun clean => Option.eq_none_iff_forall_ne_some.mpr (fun a => missing a clean))
  · split at ok <;> cases ok
    · rename_i found
      exact .planFound found
    · rename_i missing
      exact .planMissing (fun clean => Option.eq_none_iff_forall_ne_some.mpr (fun plan => missing plan clean))
  · split at ok <;> cases ok
    · rename_i held
      exact .hit rfl held
    · rename_i miss
      exact .resolverEffective miss
  · split at ok <;> cases ok
    · rename_i held
      exact .hit rfl held
    · rename_i miss
      exact .effectiveAsync miss
  · cases ok
    exact .cacheStore _ _
  · rename_i notAssigned _ _ _ _ _ _ _ _
    split at ok
    · rename_i failed
      cases ok
      refine .faulted failed ?_
      cases pc with
      | invalidateAssigned a => exact absurd rfl (notAssigned a)
      | _ => rfl
    · exact statementMove ok

end OpenPanel.HostingPlans
