import Mathlib.Data.List.Pairwise
import OpenPanel.DeploymentReplay

/-! How often an operation is executed. The lookup and the insertion of the evidence
are separate critical sections: calls that look up the same operation before either has
recorded it all execute it. Without such an overlap it is executed once. -/
namespace OpenPanel.Deployment
open CallPool GuardedRun Identity

variable {η : Type}

def Pc.pending : Pc → Option Operation
  | .execute plan none => plan.operation
  | .record plan _ => if plan.dryRun then none else plan.operation
  | _ => none

def Apart (a b : Option Operation) : Prop := ∀ op ∈ a, b ≠ some op

instance (a b) : Decidable (Apart a b) := by unfold Apart; infer_instance

theorem Apart.symm (apart : Apart a b) : Apart b a :=
  fun op mine theirs => apart op theirs mine

instance : Std.Symm (fun x y : Execution => Apart x.plan.operation y.plan.operation) :=
  ⟨fun _ _ apart => apart.symm⟩

def exclusive : Discipline Service Pc (Env η) where
  alone := sameSource.alone
  beside _ pc _ other := match pc with
    | .run _ plan => plan.dryRun = false → Apart plan.operation other.pending
    | _ => True

instance (s pc) (env : Env η) : Decidable (exclusive.alone s pc env) :=
  inferInstanceAs (Decidable (sameSource.alone s pc env))

instance (s pc) (env : Env η) (other) : Decidable (exclusive.beside s pc env other) := by
  refine Pc.casesOn pc ?_ ?_ ?_ ?_ <;> intros <;> dsimp only [exclusive] <;> infer_instance

theorem exclusiveSource (allowed : exclusive.guard c e) : sameSource.guard c e := by
  cases e with
  | start point => trivial
  | step index env => exact fun point found => ⟨(allowed point found).1,fun _ _ => trivial⟩

def Unexecuted (s : Service) (plan : DeploymentPlan) : Prop :=
  ∀ x ∈ s.executions, Apart plan.operation x.plan.operation

structure Once (s : Service) : Prop where
  distinct : s.executions.Pairwise (fun x y => Apart x.plan.operation y.plan.operation)
  stored : ∀ r ∈ s.evidence, r.id ∈ s.issued

def onceOutline : Outline Service Pc where
  shared := Once
  point s pc := match pc with
    | .execute plan none => Unexecuted s plan
    | .record _ e => e.id ∈ s.issued ∧ ∀ r ∈ s.evidence, r.id ≠ e.id
    | _ => True
  pair p q := match p,q with
    | .execute plan none,.execute other none => Apart plan.operation other.operation
    | .record _ e,.record _ e' => e.id ≠ e'.id
    | _,_ => True

def attested : Discipline Service Pc (Env η) where
  alone s pc env := match pc with
    | .run _ plan => plan.dryRun = false → s.cachedEvidence plan env.pick = none → Unexecuted s plan
    | .execute plan cached => ∀ c ∈ cached, decideReplay plan (some c) = .replay
    | _ => True
  beside := exclusive.beside

theorem pairSymm (p q) (pair : onceOutline.pair p q) : onceOutline.pair q p := by
  cases p with
  | execute plan cached =>
    cases q with
    | execute other cached' =>
      cases cached <;> cases cached' <;> first | exact Apart.symm pair | trivial
    | _ => cases cached <;> trivial
  | record plan e =>
    cases q with
    | record other e' => exact Ne.symm pair
    | execute other cached' => cases cached' <;> trivial
    | _ => trivial
  | _ =>
    cases q with
    | execute other cached' => cases cached' <;> trivial
    | _ => trivial

theorem pairFinished (q) : onceOutline.pair (.done plan result) q := by
  cases q <;> trivial

theorem pairIssued (fresh : e.id ∉ s.issued) (theirs : onceOutline.point s q) : onceOutline.pair (.record plan e) q := by
  cases q with
  | record other e' =>
    intro same
    exact fresh (same ▸ theirs.1)
  | _ => trivial

theorem oncePointKept (theirs : onceOutline.point s q)
    (executions : ∀ plan, q = .execute plan none → Unexecuted s plan → Unexecuted s' plan)
    (stored : ∀ plan e, q = .record plan e → (∀ r ∈ s.evidence, r.id ≠ e.id) → ∀ r ∈ s'.evidence, r.id ≠ e.id)
    (issued : s.issued ⊆ s'.issued) : onceOutline.point s' q := by
  cases q with
  | execute plan cached =>
    cases cached with
    | none => exact executions plan rfl theirs
    | some c => trivial
  | record plan e => exact ⟨issued theirs.1,stored plan e rfl theirs.2⟩
  | _ => trivial

theorem freshStored {s} (once : Once s) {id} (fresh : id ∉ s.issued) : ∀ r ∈ s.evidence, r.id ≠ id := by
  intro r mem same
  exact fresh (same ▸ once.stored r mem)

theorem onceExecuted (once : Once s) (unexecuted : Unexecuted s plan) :
    Once {s.issue e.id with executions := s.executions ++ [⟨plan,e⟩]} where
  distinct := by
    refine List.pairwise_append.mpr ⟨once.distinct,List.pairwise_singleton _ _,?_⟩
    intro x mem y new
    cases List.mem_singleton.mp new
    exact (unexecuted x mem).symm
  stored r mem := List.mem_cons_of_mem _ (once.stored r mem)

theorem onceRecorded (once : Once s) (issued : e.id ∈ s.issued) :
    Once (s.recordEvidence e dryRun) where
  distinct := once.distinct
  stored r mem := by
    rcases List.mem_append.mp mem with old | new
    · exact once.stored r (Rows.memDelete.mp old).1
    · cases List.mem_singleton.mp new
      exact issued

theorem onceOwn (once : Once s) (here : onceOutline.point s pc) (allowed : attested.alone s pc env)
    (ok : step redact adapters s pc env = some (s',pc')) : Once s' ∧ onceOutline.point s' pc' := by
  cases effect ok with
  | refused _ => exact ⟨once,trivial⟩
  | synthesized _ fresh =>
    exact ⟨⟨once.distinct,fun r mem => List.mem_cons_of_mem _ (once.stored r mem)⟩,
      List.mem_cons_self,freshStored once fresh⟩
  | @lookup caller plan real _ =>
    refine ⟨once,?_⟩
    cases found : s.cachedEvidence plan env.pick with
    | none => exact allowed real found
    | some c => trivial
  | replayed _ _ => exact ⟨once,trivial⟩
  | executed _ _ decided fresh =>
    cases uncached decided allowed
    exact ⟨onceExecuted once here,List.mem_cons_self,freshStored once fresh⟩
  | recorded => exact ⟨onceRecorded once here.1,trivial⟩

theorem onceOther (theirs : onceOutline.point s q) (pair : onceOutline.pair pc q) (allowed : attested.alone s pc env)
    (apart : attested.beside s pc env q) (ok : step redact adapters s pc env = some (s',pc')) :
    onceOutline.point s' q ∧ onceOutline.pair pc' q := by
  cases effect ok with
  | refused _ => exact ⟨theirs,pairFinished q⟩
  | synthesized _ fresh =>
    exact ⟨oncePointKept theirs (fun _ _ kept => kept) (fun _ _ _ kept => kept) (List.subset_cons_self _ _),
      pairIssued fresh theirs⟩
  | @lookup caller plan real _ =>
    refine ⟨theirs,?_⟩
    cases s.cachedEvidence plan env.pick with
    | none =>
      cases q with
      | execute other cached =>
        cases cached with
        | none => exact apart real
        | some c => trivial
      | _ => trivial
    | some c => cases q <;> trivial
  | replayed _ _ => exact ⟨theirs,pairFinished q⟩
  | executed _ _ decided fresh =>
    cases uncached decided allowed
    refine ⟨oncePointKept theirs ?_ (fun _ _ _ kept => kept) (List.subset_cons_self _ _),
      pairIssued fresh theirs⟩
    rintro other rfl kept x mem
    rcases List.mem_append.mp mem with old | new
    · exact kept x old
    · cases List.mem_singleton.mp new
      exact Apart.symm pair
  | recorded =>
    refine ⟨oncePointKept theirs (fun _ _ kept => kept) ?_ (List.Subset.refl _),pairFinished q⟩
    rintro other e' rfl kept r mem
    rcases List.mem_append.mp mem with old | new
    · exact kept r (Rows.memDelete.mp old).1
    · cases List.mem_singleton.mp new
      exact pair

theorem onceSound :
    onceOutline.Sound (machine redact adapters) attested where
  symm := pairSymm
  start _ pc h := by cases pc <;> first | contradiction | trivial
  startPair _ pc q h _ := by
    cases pc with
    | run caller plan => cases q <;> trivial
    | _ => contradiction
  own _ _ _ _ _ once here allowed ok := onceOwn once here allowed ok
  other _ _ _ _ _ _ _ _ theirs pair allowed apart ok := onceOther theirs pair allowed apart ok

def Accounted (c : Pool Service Pc) (x : Execution) : Prop :=
  (∃ r ∈ c.shared.evidence, r.evidence = x.evidence) ∨ .record x.plan x.evidence ∈ c.calls

def Held (c : Pool Service Pc) : Prop := ∀ x ∈ c.shared.executions, Accounted c x

theorem accountedBeside (found : c.calls[index]? = some point) (early : point.recording = false)
    (stored : shared.evidence = c.shared.evidence) (old : Accounted c x) : Accounted ⟨shared,c.calls.set index target⟩ x := by
  rcases old with ⟨r,mem,same⟩ | waiting
  · exact .inl ⟨r,stored ▸ mem,same⟩
  · rcases othersKept found target waiting with rfl | kept
    · cases early
    · exact .inr kept

theorem heldStep (holds : onceOutline.Holds c)
    (held : Held c) (fired : (machine redact adapters).fire c e = some next) : Held next := by
  obtain ⟨point,rfl,_,rfl⟩ | ⟨index,env,point,shared,target,rfl,found,moved,rfl⟩ := fireCases fired
  · intro x mem
    exact (held x mem).imp_right (List.mem_append_left _)
  have here := holds.point point (List.mem_of_getElem? found)
  cases effect moved with
  | refused early => exact fun x mem => accountedBeside found early rfl (held x mem)
  | synthesized _ _ => exact fun x mem => accountedBeside found rfl rfl (held x mem)
  | lookup _ _ => exact fun x mem => accountedBeside found rfl rfl (held x mem)
  | replayed _ _ => exact fun x mem => accountedBeside found rfl rfl (held x mem)
  | executed _ _ _ _ =>
    intro x mem
    rcases List.mem_append.mp mem with old | new
    · exact accountedBeside found rfl rfl (held x old)
    · cases List.mem_singleton.mp new
      exact .inr (stepMem found)
  | @recorded plan e =>
    intro x mem
    rcases held x mem with ⟨r,inside,same⟩ | waiting
    · exact .inl ⟨r,List.mem_append_left _ (Rows.memDelete.mpr ⟨inside,here.2 r inside⟩),same⟩
    · rcases othersKept found (.done plan (.ok e)) waiting with same | kept
      · cases same
        exact .inl ⟨_,List.mem_append_right _ List.mem_cons_self,rfl⟩
      · exact .inr kept

theorem attestedStep {adapters : List (Adapter η)} {e : Event Pc (Env η)}
    (source : (sourceOutline adapters).Holds c) (held : Held c) (allowed : exclusive.guard c e) : attested.guard c e := by
  cases e with
  | start point => trivial
  | step index env =>
    intro point found
    refine ⟨?_,(allowed point found).2⟩
    cases point with
    | run caller plan =>
      intro real none x mem op mine theirs
      have same : x.plan.operation = plan.operation := theirs.trans (Option.mem_def.mp mine).symm
      obtain ⟨genuine,reports,terminal⟩ := source.shared.executed x mem
      rcases held x mem with ⟨r,inside,stored⟩ | waiting
      · have hit := operationMatches reports terminal same (Option.isSome_iff_exists.mpr ⟨op,mine⟩)
        exact cachedNone none r inside (stored ▸ hit)
      · obtain ⟨j,position⟩ := List.mem_iff_getElem?.mp waiting
        have different : j ≠ index := by
          rintro rfl
          cases Option.some.inj (position.symm.trans found)
        refine besideOther allowed found different position real op mine ?_
        rw [Pc.pending,genuine]
        exact theirs
    | execute plan cached =>
      exact fun c mem => ((source.point _ (List.mem_of_getElem? found)).2.2 c mem).1
    | _ => trivial

theorem runOnce {adapters : List (Adapter η)} (conforms : ∀ a ∈ adapters, a.Conforms)
    (run : Run (machine redact adapters).fire exclusive.guard ⟨Service.empty,[]⟩ es last) :
    (sourceOutline adapters).Holds last ∧ onceOutline.Holds last := by
  have step : ∀ c e next, (sourceOutline adapters).Holds c ∧ onceOutline.Holds c ∧ Held c →
      exclusive.guard c e → (machine redact adapters).fire c e = some next →
      (sourceOutline adapters).Holds next ∧ onceOutline.Holds next ∧ Held next := by
    intro c e next ⟨source,once,held⟩ allowed fired
    exact ⟨Outline.stepHolds (sourceSound conforms) source (exclusiveSource allowed) fired,
      Outline.stepHolds onceSound once (attestedStep source held allowed) fired,heldStep once held fired⟩
  have start : (sourceOutline adapters).Holds ⟨Service.empty,[]⟩ ∧ onceOutline.Holds ⟨Service.empty,[]⟩ ∧
      Held ⟨Service.empty,[]⟩ :=
    ⟨Outline.emptyHolds emptySourced,Outline.emptyHolds ⟨List.Pairwise.nil,fun _ mem => by cases mem⟩,
      fun _ mem => by cases mem⟩
  obtain ⟨source,once,_⟩ := run.keeps step start
  exact ⟨source,once⟩

theorem onceUnique (once : Once s) (left : x ∈ s.executions)
    (right : y ∈ s.executions) (mine : x.plan.operation = some op) (theirs : y.plan.operation = some op) : x = y := by
  by_contra different
  exact once.distinct.forall left right different op mine theirs

theorem executedOnce {redact} {adapters : List (Adapter η)} (conforms : ∀ a ∈ adapters, a.Conforms) {es last}
    (run : Run (machine redact adapters).fire exclusive.guard ⟨Service.empty,[]⟩ es last) :
    (∀ op, (last.shared.executions.filter (fun x => decide (x.plan.operation = some op))).length ≤ 1) ∧
    ∀ plan e plan' e', .done plan (.ok e) ∈ last.calls → .done plan' (.ok e') ∈ last.calls →
      plan.dryRun = false → plan'.dryRun = false → plan.action.isMutating = true →
      plan.operation = plan'.operation → e = e' := by
  obtain ⟨source,once⟩ := runOnce conforms run
  constructor
  · intro op
    refine pairwiseAtMostOne (once.shared.distinct.imp ?_)
    intro x y apart mine theirs
    exact apart op (of_decide_eq_true mine) (of_decide_eq_true theirs)
  · intro plan e plan' e' returned returned' real real' mutating same
    obtain ⟨key,keyed⟩ := mutatingKeyed plan mutating
    obtain ⟨x,mem,from'⟩ := source.point _ returned real
    obtain ⟨y,mem',from''⟩ := source.point _ returned' real'
    have named : plan.operation = some _ := congrArg (Option.map _) keyed
    have equal := onceUnique once.shared mem mem' (from'.operation.trans named)
      (from''.operation.trans (same.symm.trans named))
    rw [← from'.evidence,← from''.evidence,equal]

def doubled : List (Event Pc (Env DockerHost)) :=
  [.start (.run .owner rollout),.start (.run .owner rollout),.step 0 (healthy 1),.step 1 (healthy 2),
    .step 0 (healthy 1),.step 1 (healthy 2),.step 0 (healthy 1),.step 1 (healthy 2)]

theorem executedTwice : ∃ last e e', Run shopMachine.fire free ⟨Service.empty,[]⟩ doubled last ∧
    last.calls = [.done rollout (.ok e),.done rollout (.ok e')] ∧ e ≠ e' ∧
    last.shared.executions = [⟨rollout,e⟩,⟨rollout,e'⟩] := by
  let left := shopReady 1 "docker-deploy-v1" "converged"
  let right := shopReady 2 "docker-deploy-v1" "converged"
  obtain ⟨last,run,calls,executions⟩ := replayShows shopMachine.fire free ⟨Service.empty,[]⟩ doubled (fun c =>
    c.calls = [.done rollout (.ok left),.done rollout (.ok right)] ∧ c.shared.executions = [⟨rollout,left⟩,⟨rollout,right⟩])
    (by decide)
  exact ⟨last,left,right,run,calls,by decide,executions⟩

def upgrade : DeploymentPlan :=
  {rollout with operationKey := some ⟨"forge:shop:production","deploy","v2"⟩, valid := by decide}

def spaced : List (Event Pc (Env DockerHost)) :=
  [.start (.run .owner rollout),.start (.run .owner upgrade),.start (.run .owner rollout),.step 0 (healthy 1),
    .step 1 (healthy 2),.step 0 (healthy 1),.step 0 (healthy 1),.step 2 (healthy 3),.step 1 (healthy 2),
    .step 2 (healthy 3),.step 1 (healthy 2)]

theorem executedOnceSpaced : ∃ last e e', Run shopMachine.fire exclusive.guard ⟨Service.empty,[]⟩ spaced last ∧
    last.calls[0]? = some (.done rollout (.ok e)) ∧ last.calls[2]? = some (.done rollout (.ok e')) ∧ e = e' ∧
    ∀ op, (last.shared.executions.filter (fun x => decide (x.plan.operation = some op))).length ≤ 1 := by
  let made := shopReady 1 "docker-deploy-v1" "converged"
  obtain ⟨last,run,first,second⟩ := replayShows shopMachine.fire exclusive.guard ⟨Service.empty,[]⟩ spaced (fun c =>
    c.calls[0]? = some (.done rollout (.ok made)) ∧ c.calls[2]? = some (.done rollout (.ok made))) (by decide)
  obtain ⟨once,same⟩ := executedOnce dockerHostsConform run
  refine ⟨last,made,made,run,first,second,?_,once⟩
  exact same rollout made rollout made (List.mem_of_getElem? first) (List.mem_of_getElem? second) rfl rfl rfl rfl

end OpenPanel.Deployment
