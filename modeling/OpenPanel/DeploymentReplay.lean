import OpenPanel.DeploymentService

/-! Where the evidence a call returns comes from. A dry run leaves a `Ready` record
that differs from a real one in nothing the lookup compares, nor are adapters compared.
If no such record matches, `Ready` goes back to a real execution of the operation. -/
namespace OpenPanel.Deployment
open CallPool GuardedRun Identity

structure Operation where
  adapter : String
  target : String
  action : DeploymentAction
  releaseDigest : String
  keyValue : String
  deriving DecidableEq

def DeploymentPlan.operation (plan : DeploymentPlan) : Option Operation :=
  plan.operationKey.map (fun key => ⟨plan.adapter,plan.target,plan.action,plan.releaseDigest,key.value⟩)

variable {η : Type}

def sameSource : Discipline Service Pc (Env η) where
  alone s pc _ := match pc with
    | .run _ plan => plan.dryRun = false → ∀ r ∈ s.evidence, Matches plan r.evidence →
        r.dryRun = false ∧ r.evidence.adapter = plan.adapter
    | _ => True
  beside _ _ _ _ := True

instance (s pc) (env : Env η) : Decidable (sameSource.alone s pc env) := by
  unfold sameSource
  cases pc <;> exact inferInstance

instance (s pc) (env : Env η) (other) : Decidable (sameSource.beside s pc env other) :=
  isTrue trivial

structure Source (plan : DeploymentPlan) (e : DeploymentEvidence) (x : Execution) : Prop where
  evidence : x.evidence = e
  operation : x.plan.operation = plan.operation

def Admitted (adapters : List (Adapter η)) (plan : DeploymentPlan) : Prop :=
  ∃ a ∈ adapters, findAdapter adapters plan.adapter = some a ∧
    ∃ policy, validatePlan plan a.manifest = .ok policy

structure Sourced (s : Service) : Prop where
  executed : ∀ x ∈ s.executions, x.plan.dryRun = false ∧ Reports x.evidence x.plan ∧
    x.evidence.state.isTerminal = true
  recorded : ∀ r ∈ s.evidence, r.dryRun = false → ∃ x ∈ s.executions, x.evidence = r.evidence

def sourceOutline (adapters : List (Adapter η)) : Outline Service Pc where
  shared := Sourced
  point s pc := match pc with
    | .run _ _ => True
    | .execute plan cached => plan.dryRun = false ∧ Admitted adapters plan ∧
        ∀ c ∈ cached, decideReplay plan (some c) = .replay ∧ ∃ x ∈ s.executions, Source plan c x
    | .record plan e => plan.dryRun = false → ∃ x ∈ s.executions, Source plan e x
    | .done plan (.ok e) => plan.dryRun = false → ∃ x ∈ s.executions, Source plan e x
    | .done _ (.error _) => True
  pair _ _ := True

theorem cachedMatches {s : Service} (found : s.cachedEvidence plan pick = some c) :
    ∃ r ∈ s.evidence, r.evidence = c ∧ Matches plan c := by
  have mem : c ∈ s.matching plan := by
    unfold Service.cachedEvidence at found
    split at found
    · rename_i picked
      cases found
      exact List.mem_of_getElem? picked
    · exact List.mem_of_head? found
  obtain ⟨inside,hit⟩ := List.mem_filter.mp mem
  obtain ⟨r,member,same⟩ := List.mem_map.mp inside
  exact ⟨r,member,same,of_decide_eq_true hit⟩

theorem cachedNone {s : Service} (none : s.cachedEvidence plan pick = none) : ∀ r ∈ s.evidence, ¬ Matches plan r.evidence := by
  intro r mem hit
  have inside : r.evidence ∈ s.matching plan :=
    List.mem_filter.mpr ⟨List.mem_map_of_mem mem,decide_eq_true hit⟩
  unfold Service.cachedEvidence at none
  split at none
  · cases none
  · rw [List.head?_eq_none_iff.mp none] at inside
    cases inside

theorem matchedReplay (hit : Matches plan c) (real : plan.dryRun = false) : decideReplay plan (some c) = .replay := by
  obtain ⟨terminal,action,_,digest,_⟩ := hit
  simp [decideReplay,terminal,action,digest,real]

theorem matchedOperation {x : Execution} (hit : Matches plan x.evidence)
    (reports : Reports x.evidence x.plan) (adapter : x.evidence.adapter = plan.adapter) : x.plan.operation = plan.operation := by
  obtain ⟨_,action,target,digest,key,mine,candidate,theirs,value⟩ := hit
  have keyed : plan.operationKey = some key := mine
  have recorded : x.plan.operationKey = some candidate := reports.operationKey.symm.trans theirs
  simp only [DeploymentPlan.operation,keyed,recorded,Option.map_some,← reports.adapter,← reports.target,
    ← reports.action,← reports.releaseDigest,adapter,target,action,digest,value]

theorem operationMatches {x : Execution} (reports : Reports x.evidence x.plan)
    (terminal : x.evidence.state.isTerminal = true) (same : x.plan.operation = plan.operation)
    (keyed : plan.operation.isSome = true) : Matches plan x.evidence := by
  obtain ⟨op,some⟩ := Option.isSome_iff_exists.mp keyed
  obtain ⟨key,mine,rfl⟩ := Option.map_eq_some_iff.mp some
  obtain ⟨candidate,theirs,fields⟩ := Option.map_eq_some_iff.mp (same.trans some)
  simp only [Operation.mk.injEq] at fields
  obtain ⟨_,target,action,digest,value⟩ := fields
  exact ⟨terminal,reports.action.trans action,reports.target.trans target,
    reports.releaseDigest.trans digest,key,mine,candidate,reports.operationKey.trans theirs,value⟩

theorem admitted (ok : admission adapters caller plan = .ok a) : Admitted adapters plan := by
  unfold admission at ok
  split at ok <;> try contradiction
  split at ok <;> try contradiction
  rename_i found
  split at ok <;> try contradiction
  rename_i policy valid
  exact ⟨_,List.mem_of_find?_eq_some found,found,policy,valid⟩

theorem pointGrows (grown : s.executions ⊆ s'.executions) (here : (sourceOutline adapters).point s q) :
    (sourceOutline adapters).point s' q := by
  cases q with
  | run caller plan => trivial
  | execute plan cached =>
    refine ⟨here.1,here.2.1,fun c mem => ?_⟩
    obtain ⟨decided,x,inside,source⟩ := here.2.2 c mem
    exact ⟨decided,x,grown inside,source⟩
  | record plan e =>
    intro real
    obtain ⟨x,inside,source⟩ := here real
    exact ⟨x,grown inside,source⟩
  | done plan result =>
    cases result with
    | error e => trivial
    | ok e =>
      intro real
      obtain ⟨x,inside,source⟩ := here real
      exact ⟨x,grown inside,source⟩

def Pc.recording : Pc → Bool
  | .record _ _ => true
  | _ => false

inductive Effect (adapters : List (Adapter η)) (s : Service) (env : Env η) : Pc → Service → Pc → Prop where
  | refused {plan pc e} (early : pc.recording = false) : Effect adapters s env pc s (.done plan (.error e))
  | synthesized {caller plan e} (dry : plan.dryRun = true) (fresh : e.id ∉ s.issued) :
      Effect adapters s env (.run caller plan) (s.issue e.id) (.record plan e)
  | lookup {caller plan} (real : plan.dryRun = false) (valid : Admitted adapters plan) :
      Effect adapters s env (.run caller plan) s (.execute plan (s.cachedEvidence plan env.pick))
  | replayed {plan cached a} (found : findAdapter adapters plan.adapter = some a)
      (decided : decideReplay plan cached = .replay) :
      Effect adapters s env (.execute plan cached) s (.done plan (.ok (a.execute env.host plan cached)))
  | executed {plan cached a e} (found : findAdapter adapters plan.adapter = some a)
      (made : e = a.execute env.host plan cached) (decided : decideReplay plan cached = .rerun)
      (fresh : e.id ∉ s.issued) :
      Effect adapters s env (.execute plan cached)
        {s.issue e.id with executions := s.executions ++ [⟨plan,e⟩]} (.record plan e)
  | recorded {plan e} : Effect adapters s env (.record plan e) (s.recordEvidence e plan.dryRun) (.done plan (.ok e))

theorem dryRunId {redact id now plan e} (ok : buildDryRunEvidence redact id now plan = .ok e) : e.id = id := by
  obtain ⟨target,digest,adapter⟩ := planFields plan
  simp only [buildDryRunEvidence,DeploymentEvidence.new,target,digest,adapter,bind,Except.bind,
    if_neg (Int.lt_irrefl now)] at ok
  cases ok
  rfl

theorem effect (ok : step redact adapters s pc env = some (s',pc')) : Effect adapters s env pc s' pc' := by
  cases pc with
  | run caller plan =>
    simp only [step] at ok
    split at ok
    · cases ok
      exact .refused rfl
    · rename_i allowed
      split at ok
      · rename_i dry
        split at ok <;> try contradiction
        rename_i fresh
        split at ok <;> cases ok
        · exact .refused rfl
        · rename_i made
          exact .synthesized dry (by rw [dryRunId made]; exact fresh)
      · rename_i real
        cases ok
        exact .lookup (by simpa using real) (admitted allowed)
  | execute plan cached =>
    simp only [step] at ok
    split at ok
    · cases ok
      exact .refused rfl
    · rename_i found
      split at ok
      · rename_i decided
        cases ok
        exact .replayed found decided
      · rename_i decided
        split at ok <;> cases ok
        rename_i fresh
        exact .executed found rfl decided fresh
  | record plan e =>
    cases ok
    exact .recorded
  | done plan result => cases ok

theorem uncached (decided : decideReplay plan cached = .rerun)
    (replays : ∀ c ∈ cached, decideReplay plan (some c) = .replay) : cached = none := by
  cases cached with
  | none => rfl
  | some c => simp [replays c rfl] at decided

theorem sourceOfCached (sourced : Sourced s) (real : plan.dryRun = false)
    (genuine : ∀ r ∈ s.evidence, Matches plan r.evidence → r.dryRun = false ∧ r.evidence.adapter = plan.adapter)
    (found : s.cachedEvidence plan pick = some c) : decideReplay plan (some c) = .replay ∧ ∃ x ∈ s.executions, Source plan c x := by
  obtain ⟨r,mem,rfl,hit⟩ := cachedMatches found
  obtain ⟨executed,adapter⟩ := genuine r mem hit
  obtain ⟨x,inside,same⟩ := sourced.recorded r mem executed
  rw [← same] at hit adapter ⊢
  exact ⟨matchedReplay hit real,x,inside,rfl,matchedOperation hit (sourced.executed x inside).2.1 adapter⟩

theorem sourcedExecuted (sourced : Sourced s) (real : x.plan.dryRun = false)
    (reports : Reports x.evidence x.plan) (terminal : x.evidence.state.isTerminal = true) (issued) :
    Sourced {s with executions := s.executions ++ [x], issued := issued} where
  executed y inside := by
    rcases List.mem_append.mp inside with old | new
    · exact sourced.executed y old
    · cases List.mem_singleton.mp new
      exact ⟨real,reports,terminal⟩
  recorded r inside genuine := by
    obtain ⟨y,member,same⟩ := sourced.recorded r inside genuine
    exact ⟨y,List.mem_append_left _ member,same⟩

theorem sourcedRecorded (sourced : Sourced s)
    (source : plan.dryRun = false → ∃ x ∈ s.executions, Source plan e x) :
    Sourced (s.recordEvidence e plan.dryRun) where
  executed := sourced.executed
  recorded r inside genuine := by
    rcases List.mem_append.mp inside with old | new
    · exact sourced.recorded r (Rows.memDelete.mp old).1 genuine
    · cases List.mem_singleton.mp new
      obtain ⟨x,member,same⟩ := source genuine
      exact ⟨x,member,same.evidence⟩

theorem sourceSound {adapters : List (Adapter η)} (conforms : ∀ a ∈ adapters, a.Conforms) :
    (sourceOutline adapters).Sound (machine redact adapters) sameSource where
  symm _ _ _ := trivial
  start _ pc h := by cases pc <;> first | contradiction | trivial
  startPair _ _ _ _ _ := trivial
  own s pc env s' pc' sourced here allowed ok := by
    cases effect ok with
    | refused _ => exact ⟨sourced,trivial⟩
    | synthesized dry _ =>
      refine ⟨⟨sourced.executed,sourced.recorded⟩,fun real => ?_⟩
      rw [dry] at real
      cases real
    | lookup real valid => exact ⟨sourced,real,valid,fun c found => sourceOfCached sourced real (allowed real) found⟩
    | @replayed plan cached a found decided =>
      refine ⟨sourced,fun _ => ?_⟩
      obtain ⟨_,⟨b,mem,located,policy,valid⟩,sources⟩ := here
      cases Option.some.inj (found.symm.trans located)
      cases cached with
      | none => cases decided
      | some c =>
        rw [(conforms a mem).replays env.host plan policy c valid decided]
        exact (sources c rfl).2
    | @executed plan cached a e found made decided _ =>
      obtain ⟨real,⟨b,mem,located,policy,valid⟩,sources⟩ := here
      cases Option.some.inj (found.symm.trans located)
      have none := uncached decided (fun c inside => (sources c inside).1)
      subst none made
      refine ⟨?_,fun _ => ⟨_,List.mem_append_right _ List.mem_cons_self,rfl,rfl⟩⟩
      exact sourcedExecuted sourced real ((conforms a mem).reports env.host plan policy valid)
        ((conforms a mem).terminal env.host plan policy valid) _
    | recorded => exact ⟨sourcedRecorded sourced here,here⟩
  other s pc env s' pc' q _ _ theirs _ _ _ ok := by
    refine ⟨pointGrows ?_ theirs,trivial⟩
    cases effect ok with
    | executed _ _ _ _ => exact List.subset_append_left _ _
    | _ => exact List.Subset.refl _

def Service.empty : Service := ⟨[],[],[]⟩

theorem emptySourced : Sourced Service.empty where
  executed _ mem := by cases mem
  recorded _ mem := by cases mem

theorem readyExecuted {redact} {adapters : List (Adapter η)} (conforms : ∀ a ∈ adapters, a.Conforms)
    {es last} (run : Run (machine redact adapters).fire sameSource.guard ⟨Service.empty,[]⟩ es last)
    {plan e} (returned : .done plan (.ok e) ∈ last.calls) (mutating : plan.action.isMutating = true)
    (real : plan.dryRun = false) (ready : e.state = .ready) :
    ∃ x ∈ last.shared.executions, x.plan.dryRun = false ∧ x.plan.adapter = plan.adapter ∧
      x.plan.target = plan.target ∧ x.plan.action = plan.action ∧
      x.plan.releaseDigest = plan.releaseDigest ∧
      x.plan.operationKey.map OperationKey.value = plan.operationKey.map OperationKey.value ∧
      x.evidence.state = .ready := by
  have holds := Outline.runHolds (sourceSound conforms) run (Outline.emptyHolds emptySourced)
  obtain ⟨x,mem,source⟩ := holds.point _ returned real
  obtain ⟨key,keyed⟩ := mutatingKeyed plan mutating
  have same := source.operation
  simp only [DeploymentPlan.operation,keyed,Option.map_some,Option.map_eq_some_iff,Operation.mk.injEq] at same
  obtain ⟨other,theirs,adapter,target,action,digest,value⟩ := same
  refine ⟨x,mem,(holds.shared.executed x mem).1,adapter,target,action,digest,?_,source.evidence ▸ ready⟩
  rw [theirs,keyed,Option.map_some,Option.map_some,value]

def dockerManifest (id : String) : AdapterManifest :=
  ⟨id,[.deploy,.preflight,.rollback,.status,.verify],true,[]⟩

def unreportable : DeploymentEvidence :=
  ⟨0,"docker-deploy","docker-deploy-v1",.status,none,"sha256:0",.failed,0,0,
    "plan evidence could not be recorded"⟩

def dockerHosts : List (Adapter DockerHost) :=
  [dockerAdapter (fun text => text) (dockerManifest "docker-deploy-v1") unreportable,
    dockerAdapter (fun text => text) (dockerManifest "docker-deploy-v2") unreportable]

theorem dockerHostsConform : ∀ a ∈ dockerHosts, a.Conforms := by
  intro a mem
  simp only [dockerHosts,List.mem_cons,List.not_mem_nil,or_false] at mem
  obtain rfl | rfl := mem <;> exact dockerConforms _ _ _

def shopPlan (adapter : String) (dryRun : Bool)
    (named : required "adapter" adapter = .ok ()) : DeploymentPlan :=
  ⟨"forge:shop:production",.deploy,some ⟨"forge:shop:production","deploy","v1"⟩,"sha256:deadbeef",[],
    adapter,"owner",dryRun,by simp only [DeploymentPlan.check,named]; decide⟩

def rehearsal : DeploymentPlan := shopPlan "docker-deploy-v1" true (by decide)
def rollout : DeploymentPlan := shopPlan "docker-deploy-v1" false (by decide)
def elsewhere : DeploymentPlan := shopPlan "docker-deploy-v2" false (by decide)

def healthy (id : Uuid) : Env DockerHost :=
  ⟨0,id,0,⟨0,id,.ok true,.ok "checked",.ok "converged"⟩⟩

def rehearsed : List (Event Pc (Env DockerHost)) :=
  [.start (.run .owner rehearsal),.step 0 (healthy 1),.step 0 (healthy 1),.start (.run .owner rollout),
    .step 1 (healthy 2),.step 1 (healthy 2)]

def redirected : List (Event Pc (Env DockerHost)) :=
  [.start (.run .owner elsewhere),.step 0 (healthy 1),.step 0 (healthy 1),.step 0 (healthy 1),
    .start (.run .owner rollout),.step 1 (healthy 2),.step 1 (healthy 2)]

def shopMachine : Machine Service Pc (Env DockerHost) := machine (fun text => text) dockerHosts

def shopReady (id : Uuid) (adapter diagnostic : String) : DeploymentEvidence :=
  ⟨id,"forge:shop:production",adapter,.deploy,some ⟨"forge:shop:production","deploy","v1"⟩,
    "sha256:deadbeef",.ready,0,0,diagnostic⟩

theorem readyFaked :
    (∃ last e, Run shopMachine.fire free ⟨Service.empty,[]⟩ rehearsed last ∧
      .done rollout (.ok e) ∈ last.calls ∧ e.state = .ready ∧ last.shared.executions = []) ∧
    (∃ last e, Run shopMachine.fire free ⟨Service.empty,[]⟩ redirected last ∧
      .done rollout (.ok e) ∈ last.calls ∧ e.state = .ready ∧
      ∀ x ∈ last.shared.executions, x.plan.adapter ≠ rollout.adapter) := by
  let dry := shopReady 1 "docker-deploy-v1" "dry-run; no mutation"
  let other := shopReady 1 "docker-deploy-v2" "converged"
  obtain ⟨c,run,called,executions⟩ := replayShows shopMachine.fire free ⟨Service.empty,[]⟩ rehearsed
    (fun c => .done rollout (.ok dry) ∈ c.calls ∧ c.shared.executions = []) (by decide)
  obtain ⟨c',run',called',elsewhere⟩ := replayShows shopMachine.fire free ⟨Service.empty,[]⟩ redirected (fun c =>
    .done rollout (.ok other) ∈ c.calls ∧ ∀ x ∈ c.shared.executions, x.plan.adapter ≠ rollout.adapter) (by decide)
  exact ⟨⟨c,dry,run,called,rfl,executions⟩,c',other,run',called',rfl,elsewhere⟩

def repeated : List (Event Pc (Env DockerHost)) :=
  [.start (.run .owner rollout),.step 0 (healthy 1),.step 0 (healthy 1),.step 0 (healthy 1),
    .start (.run .owner rollout),.step 1 (healthy 2),.step 1 (healthy 2)]

theorem readyExecutedRepeated : ∃ last,
    Run shopMachine.fire sameSource.guard ⟨Service.empty,[]⟩ repeated last ∧
    ∃ x ∈ last.shared.executions, x.plan.adapter = rollout.adapter ∧ x.evidence.state = .ready := by
  let made := shopReady 1 "docker-deploy-v1" "converged"
  obtain ⟨last,run,called⟩ := replayShows shopMachine.fire sameSource.guard ⟨Service.empty,[]⟩ repeated
    (fun c => .done rollout (.ok made) ∈ c.calls) (by decide)
  obtain ⟨x,mem,_,adapter,_,_,_,_,state⟩ := readyExecuted dockerHostsConform run called rfl rfl rfl
  exact ⟨last,run,x,mem,adapter,state⟩

end OpenPanel.Deployment
