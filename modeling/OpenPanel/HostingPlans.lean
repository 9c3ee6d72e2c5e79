import OpenPanel.CallPool
import OpenPanel.Users

/-! Hosting plans, their assignment to users and the cache of effective quotas,
one step for each repository call and each time the cache is locked. Stored plans and
assignments read back as written. Of a plan only what these calls read or return is
kept. Audit writes and the calls that only add plans are left out. -/
namespace OpenPanel.HostingPlans
open CallPool Identity

inductive PlanStatus where | active | disabled deriving DecidableEq

inductive PlanFeatureState where | disabled | optional | required deriving DecidableEq

inductive PlanFeature where
  | smtp | cron | sftp | docker | apiTokens | mail | databases | backups | webApps | malwareScanner
  deriving DecidableEq

structure PlanQuotas where
  diskBytes : Nat
  bandwidthBytesPerMonth : Nat
  maxSites : Nat
  maxDatabases : Nat
  maxMailDomains : Nat
  maxMailboxes : Nat
  maxCronJobs : Nat
  maxApiTokens : Nat
  maxFleetAgents : Nat
  deriving DecidableEq

structure EffectiveQuotas where
  diskBytes : Nat
  bandwidthBytesPerMonth : Nat
  maxSites : Nat
  maxDatabases : Nat
  maxMailDomains : Nat
  maxMailboxes : Nat
  maxCronJobs : Nat
  maxApiTokens : Nat
  maxFleetAgents : Nat
  deriving DecidableEq

def EffectiveQuotas.fromCaps (caps : PlanQuotas) : EffectiveQuotas :=
  ⟨caps.diskBytes,caps.bandwidthBytesPerMonth,caps.maxSites,caps.maxDatabases,caps.maxMailDomains,
    caps.maxMailboxes,caps.maxCronJobs,caps.maxApiTokens,caps.maxFleetAgents⟩

def roleDefault : EffectiveQuotas :=
  ⟨10 * 1024 * 1024 * 1024,100 * 1024 * 1024 * 1024,5,5,2,10,25,4,0⟩

structure HostingPlan where
  id : Uuid
  features : List (PlanFeature × PlanFeatureState)
  quotaCaps : PlanQuotas
  status : PlanStatus
  updatedAt : DateTime
  deriving DecidableEq

def HostingPlan.acceptsAssignments (plan : HostingPlan) : Bool := plan.status == .active

def HostingPlan.setQuotaCaps (plan : HostingPlan) (caps : PlanQuotas) (now : DateTime) : HostingPlan :=
  {plan with quotaCaps := caps, updatedAt := now}

def HostingPlan.setFeature (now : DateTime) (plan : HostingPlan) (toggle : PlanFeature × PlanFeatureState) :
    HostingPlan :=
  let others := plan.features.filter (fun f => f.1 != toggle.1)
  {plan with features := others ++ [toggle], updatedAt := now}

inductive HostingPlansError where
  | planDisabled
  | planInUse
  | planNotFound
  | userNotFound
  | wouldShrinkBelowUsage
  | persistence (detail : String)
  deriving DecidableEq

def HostingPlansError.message : HostingPlansError → String
  | .planDisabled => "plan is disabled"
  | .planInUse => "plan is in use"
  | .planNotFound => "plan not found"
  | .userNotFound => "user not found"
  | .wouldShrinkBelowUsage => "would shrink quota cap below assigned usage"
  | .persistence detail => "hosting plan persistence error: " ++ detail

inductive PlanChange where
  | update (caps : PlanQuotas) (features : List (PlanFeature × PlanFeatureState))
  | disable
  | enable
  deriving DecidableEq

def PlanChange.apply (change : PlanChange) (plan : HostingPlan) (now : DateTime) :
    Except HostingPlansError HostingPlan :=
  match change with
  | .update caps features =>
    if caps.diskBytes < plan.quotaCaps.diskBytes then .error .wouldShrinkBelowUsage
    else if caps.bandwidthBytesPerMonth < plan.quotaCaps.bandwidthBytesPerMonth then
      .error .wouldShrinkBelowUsage
    else .ok (features.foldl (HostingPlan.setFeature now) (plan.setQuotaCaps caps now))
  | .disable => .ok {plan with status := .disabled, updatedAt := now}
  | .enable => .ok {plan with status := .active, updatedAt := now}

structure PlanAssignment where
  userId : Uuid
  planId : Uuid
  assignedAt : DateTime
  assignedBy : Uuid
  replacedAt : Option DateTime
  deriving DecidableEq

def PlanAssignment.new (userId planId assignedBy : Uuid) (assignedAt : DateTime) : PlanAssignment :=
  ⟨userId,planId,assignedAt,assignedBy,none⟩

/-- `actual` is not stored: it is what the tables gave for the user when the
entry was written, `none` for a user without a plan. -/
structure CacheEntry where
  userId : Uuid
  caps : EffectiveQuotas
  storedAt : DateTime
  actual : Option EffectiveQuotas
  deriving DecidableEq

structure State where
  users : Users
  plans : List HostingPlan
  assignments : List PlanAssignment
  cache : List CacheEntry
  deriving DecidableEq

def State.findPlan (s : State) (id : Uuid) : Option HostingPlan := s.plans.find? (fun p => p.id == id)

def State.currentRows (s : State) (userId : Uuid) : List PlanAssignment :=
  s.assignments.filter (fun a => a.userId == userId && a.replacedAt.isNone)

-- `ORDER BY assigned_at DESC LIMIT 1`.
def State.currentAssignment (s : State) (userId : Uuid) : Option PlanAssignment :=
  ((s.currentRows userId).insertionSort (fun a b => b.assignedAt ≤ a.assignedAt)).head?

def State.closeCurrent (s : State) (userId : Uuid) (now : DateTime) : State :=
  let close (a : PlanAssignment) : PlanAssignment :=
    if a.userId = userId ∧ a.replacedAt = none then {a with replacedAt := some now} else a
  {s with assignments := s.assignments.map close}

def State.insertAssignment (s : State) (a : PlanAssignment) : Except DbError State :=
  if s.assignments.any (fun row => row.userId == a.userId && row.assignedAt == a.assignedAt) then
    .error (.unique "user_plan_assignments.user_id, user_plan_assignments.assigned_at")
  else if (s.findPlan a.planId).isNone then .error .foreignKey
  else .ok {s with assignments := s.assignments ++ [a]}

def State.countAssignments (s : State) (planId : Uuid) : Nat :=
  (s.assignments.filter (fun a => a.planId == planId && a.replacedAt.isNone)).length

def State.updatePlan (s : State) (plan : HostingPlan) : State :=
  {s with plans := Rows.update HostingPlan.id plan.id (fun _ => plan) s.plans}

-- The reference from replaced rows restricts the deletion too.
def State.deletePlan (s : State) (planId : Uuid) : Except HostingPlansError State :=
  if s.countAssignments planId > 0 then .error .planInUse
  else if s.assignments.any (fun a => a.planId == planId) then
    .error (.persistence DbError.foreignKey.message)
  else .ok {s with plans := Rows.delete HostingPlan.id planId s.plans}

def State.updateHostingPlanId (s : State) (userId : Uuid) (plan : Option Uuid) : State :=
  {s with users := s.users.updateHostingPlanId userId plan}

def State.heldCaps (s : State) (userId : Uuid) : Option EffectiveQuotas := do
  let a ← s.currentAssignment userId
  let plan ← s.findPlan a.planId
  some (.fromCaps plan.quotaCaps)

def cacheTtlSeconds : Int := 60

-- `num_seconds` drops the fraction of a second.
def State.cacheHit (s : State) (userId : Uuid) (now : DateTime) : Option CacheEntry :=
  match s.cache.find? (fun e => e.userId == userId) with
  | some e => if Int.tdiv (now - e.storedAt) (seconds 1) ≤ cacheTtlSeconds then some e else none
  | none => none

def State.cacheStore (s : State) (userId : Uuid) (caps : EffectiveQuotas) (now : DateTime) : State :=
  {s with cache := Rows.delete CacheEntry.userId userId s.cache ++ [⟨userId,caps,now,s.heldCaps userId⟩]}

def State.invalidateCache (s : State) : Option Uuid → State
  | some userId => {s with cache := Rows.delete CacheEntry.userId userId s.cache}
  | none => {s with cache := []}

inductive Result where
  | assigned (assignment : PlanAssignment)
  | unassigned
  | plan (plan : HostingPlan)
  | deleted
  | quotas (quotas : EffectiveQuotas)
  | failed (error : HostingPlansError)
  deriving DecidableEq

inductive Pc where
  -- `assign_plan`
  | assignPlan (planId userId actorId : Uuid)
  | findUser (planId userId actorId : Uuid)
  | replaceCurrent (planId userId actorId : Uuid)
  | insertAssignment (a : PlanAssignment)
  | invalidateAssigned (a : PlanAssignment)
  | pointUser (a : PlanAssignment)
  -- `unassign_plan`
  | unassignPlan (userId : Uuid)
  | clearUser (userId : Uuid)
  | invalidateUnassigned (userId : Uuid)
  -- `update_plan`, `disable_plan`, `enable_plan` and `delete_plan`
  | changePlan (planId : Uuid) (change : PlanChange)
  | writePlan (plan : HostingPlan)
  | deletePlan (planId : Uuid)
  | removePlan (planId : Uuid)
  | invalidateAll (result : Result)
  -- `effective`, the `effective` of `PlanResolver`, and `effective_async`
  | effective (userId : Uuid)
  | currentAssignment (userId : Uuid)
  | currentPlan (userId planId : Uuid)
  | resolverEffective (userId : Uuid)
  | effectiveAsync (userId : Uuid)
  | cacheStore (userId : Uuid) (caps : EffectiveQuotas)
  | done (result : Result)
  deriving DecidableEq

structure Env where
  now : DateTime := 0
  fault : Option String := none

def entry : Pc → Bool
  | .assignPlan .. | .unassignPlan _ | .changePlan .. | .deletePlan _ | .effective _
  | .resolverEffective _ | .effectiveAsync _ => true
  | _ => false

def fail (error : HostingPlansError) : Pc := .done (.failed error)

def statement (s : State) (now : DateTime) : Pc → Option (State × Pc)
  | .assignPlan planId userId actorId =>
    match s.findPlan planId with
    | none => some (s,fail .planNotFound)
    | some plan =>
      if plan.acceptsAssignments then some (s,.findUser planId userId actorId)
      else some (s,fail .planDisabled)
  | .findUser planId userId actorId =>
    match s.users.findById userId with
    | none => some (s,fail .userNotFound)
    | some _ => some (s,.replaceCurrent planId userId actorId)
  -- The instant is read before this call and used for both rows.
  | .replaceCurrent planId userId actorId =>
    some (s.closeCurrent userId now,.insertAssignment (.new userId planId actorId now))
  | .insertAssignment a =>
    match s.insertAssignment a with
    | .error e => some (s,fail (.persistence e.message))
    | .ok s => some (s,.invalidateAssigned a)
  | .pointUser a => some (s.updateHostingPlanId a.userId (some a.planId),.done (.assigned a))
  | .unassignPlan userId =>
    match s.currentAssignment userId with
    | none => some (s.closeCurrent userId now,.done .unassigned)
    | some _ => some (s.closeCurrent userId now,.clearUser userId)
  | .clearUser userId => some (s.updateHostingPlanId userId none,.invalidateUnassigned userId)
  | .changePlan planId change =>
    match s.findPlan planId with
    | none => some (s,fail .planNotFound)
    | some plan => match change.apply plan now with
      | .error e => some (s,fail e)
      | .ok plan => some (s,.writePlan plan)
  | .writePlan plan => some (s.updatePlan plan,.invalidateAll (.plan plan))
  | .deletePlan planId =>
    if s.countAssignments planId > 0 then some (s,fail .planInUse) else some (s,.removePlan planId)
  | .removePlan planId =>
    match s.deletePlan planId with
    | .error e => some (s,fail e)
    | .ok s => some (s,.invalidateAll .deleted)
  | _ => none

def step (s : State) (pc : Pc) (env : Env) : Option (State × Pc) :=
  match pc with
  | .done _ => none
  | .invalidateAssigned a => some (s.invalidateCache (some a.userId),.pointUser a)
  | .invalidateUnassigned userId => some (s.invalidateCache (some userId),.done .unassigned)
  | .invalidateAll result => some (s.invalidateCache none,.done result)
  | .effective userId =>
    match s.cacheHit userId env.now with
    | some e => some (s,.done (.quotas e.caps))
    | none => some (s,.currentAssignment userId)
  -- A failed read counts as no plan, here and in the next case.
  | .currentAssignment userId =>
    match env.fault,s.currentAssignment userId with
    | none,some a => some (s,.currentPlan userId a.planId)
    | _,_ => some (s,.cacheStore userId roleDefault)
  | .currentPlan userId planId =>
    match env.fault,s.findPlan planId with
    | none,some plan => some (s,.cacheStore userId (.fromCaps plan.quotaCaps))
    | _,_ => some (s,.cacheStore userId roleDefault)
  | .resolverEffective userId =>
    match s.cacheHit userId env.now with
    | some e => some (s,.done (.quotas e.caps))
    | none => some (s,.done (.quotas roleDefault))
  | .effectiveAsync userId =>
    match s.cacheHit userId env.now with
    | some e => some (s,.done (.quotas e.caps))
    | none => some (s,.cacheStore userId roleDefault)
  | .cacheStore userId caps => some (s.cacheStore userId caps env.now,.done (.quotas caps))
  | pc => match env.fault with
    | some message => some (s,fail (.persistence message))
    | none => statement s env.now pc

def machine : Machine State Pc Env := ⟨entry,step⟩

end OpenPanel.HostingPlans
