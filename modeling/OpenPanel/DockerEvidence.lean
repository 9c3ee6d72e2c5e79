import OpenPanel.DeploymentReplay
import OpenPanel.DeliveryContainers

/-! The docker deployment adapter on top of the docker runtime. A call of the runtime returns an
outcome that may itself be a failure, for the target the resolver gave; the evidence is ready
whenever the call returned. -/
namespace OpenPanel.Delivery
open Fallible

def DockerRuntimeAdapter.check (runtime : DockerRuntimeAdapter) (ping : Except DockerError Unit) (host : Host)
    (target : ConvergeTarget) : Except ApplicationDeliveryError ReleaseOutcome :=
  let image := target.imageReference runtime.registryNamespace
  match ping,host.imageExists with
  | .ok (),.ok false => .ok (failed runtime.redact ("release image is not present on the host: " ++ bounded image))
  | .ok (),.ok true => .ok (healthy runtime.redact ("converge check passed for " ++ bounded image))
  | _,_ => .error .runtimeUnavailable

def RuntimeContainerState.up (state : RuntimeContainerState) : Bool :=
  !state.oomKilled && (state.health == some "healthy" || (state.health != some "unhealthy" && state.status == "running"))

def RuntimeContainerState.waiting (state : RuntimeContainerState) : Prop := state.up = true ∧ state.health ≠ some "healthy"

/-- Every poll before the last finds the container up but not yet declared healthy; a container that is up is polled
until it is declared so or the polls are used up. -/
def Host.Decides (host : Host) (polls : Nat) (up : Bool) : Prop :=
  ∃ k < polls, (∀ j < k, ∃ state, host.inspect j = .ok state ∧ state.waiting) ∧
    ∃ state, host.inspect k = .ok state ∧ state.up = up ∧ (up = true → state.health = some "healthy" ∨ k + 1 = polls)

structure Host.Launches (host : Host) (target : ConvergeTarget) (spec : ContainerSpec) : Prop where
  image : host.imageExists = .ok true ∨
    host.imageExists = .ok false ∧ ∃ pulled, host.pull = .ok pulled ∧ endsWith pulled target.digest = true
  sound : spec.validate = .ok ()
  ensured : host.ensure = .ok ()
  created : ∃ id, host.create = .ok id
  started : host.start = .ok ()

section Outcomes

variable {host : Host} {runtime : DockerRuntimeAdapter} {target : ConvergeTarget} {s : Runtime}

theorem projectsUp : (projectState redact state).state = .healthy ↔ state.up = true := by
  unfold projectState RuntimeContainerState.up
  split
  · simp_all [failed]
  · split
    · simp_all [healthy]
    · split
      · simp_all [failed]
      · split <;> simp_all [healthy,failed]

theorem pollDecides (up : Bool) (left attempt outcome) :
    (∃ last, host.poll redact (left + 1) attempt outcome = .ok last ∧ (last.state = .healthy ↔ up = true)) ↔
    ∃ k, attempt ≤ k ∧ k ≤ attempt + left ∧ (∀ j, attempt ≤ j → j < k → ∃ state, host.inspect j = .ok state ∧ state.waiting) ∧
      ∃ state, host.inspect k = .ok state ∧ state.up = up ∧ (up = true → state.health = some "healthy" ∨ k = attempt + left) := by
  induction left using Nat.strong_induction_on generalizing attempt outcome with | _ left ih =>
  -- Nothing past this poll is reached unless it found the container waiting.
  have later : ∀ k, attempt ≤ k → (∀ j, attempt ≤ j → j < k → ∃ state, host.inspect j = .ok state ∧ state.waiting) →
      (∀ state, host.inspect attempt = .ok state → ¬ state.waiting) → k = attempt := by
    intro k from' before never
    by_contra other
    obtain ⟨state,seen,waiting⟩ := before attempt (le_refl attempt) (by omega)
    exact never state seen waiting
  rw [Host.poll]
  cases seen : host.inspect attempt with
  | error e =>
    constructor
    · rintro ⟨_,ended,_⟩
      cases ended
    · rintro ⟨k,from',_,before,state,there,_⟩
      have here := later k from' before (by simp [seen])
      rw [here,seen] at there
      cases there
  | ok state =>
    simp only
    split
    · rename_i stops
      have never : ¬ state.waiting := fun waiting => stops.elim (fun down => down (projectsUp.mpr waiting.1)) waiting.2
      constructor
      · rintro ⟨last,ended,agrees⟩
        cases ended
        refine ⟨attempt,le_refl _,by omega,by omega,state,seen,?_,fun isUp => .inl ?_⟩
        · rw [projectsUp] at agrees
          exact Bool.eq_iff_iff.mpr agrees
        · exact stops.resolve_left (fun down => down (agrees.mpr isUp))
      · rintro ⟨k,from',_,before,state',there,rfl,_⟩
        have here := later k from' before (fun other same => by cases seen.symm.trans same; exact never)
        rw [here,seen] at there
        cases there
        exact ⟨_,rfl,projectsUp⟩
    · rename_i goes
      rw [not_or,Decidable.not_not] at goes
      have waiting : state.waiting := ⟨projectsUp.mp goes.1,goes.2⟩
      cases left with
      | zero =>
        constructor
        · rintro ⟨last,ended,agrees⟩
          cases ended
          exact ⟨attempt,le_refl _,by omega,by omega,state,seen,waiting.1.trans (agrees.mp goes.1).symm,fun _ => .inr rfl⟩
        · rintro ⟨k,from',upTo,_,state',there,rfl,_⟩
          obtain rfl : k = attempt := by omega
          cases seen.symm.trans there
          exact ⟨_,rfl,projectsUp⟩
      | succ left =>
        rw [ih left (Nat.lt_succ_self left) (attempt + 1)]
        constructor
        · rintro ⟨k,from',upTo,before,state',there,same,ends⟩
          refine ⟨k,by omega,by omega,fun j least most => ?_,state',there,same,fun isUp => (ends isUp).imp_right (by omega)⟩
          by_cases first : j = attempt
          · exact first ▸ ⟨state,seen,waiting⟩
          · exact before j (by omega) most
        · rintro ⟨k,from',upTo,before,state',there,same,ends⟩
          have past : k ≠ attempt := by
            rintro rfl
            cases seen.symm.trans there
            rcases ends (same ▸ waiting.1) with declared | last
            · exact waiting.2 declared
            · omega
          exact ⟨k,by omega,by omega,fun j least most => before j (by omega) most,state',there,same,
            fun isUp => (ends isUp).imp_right (by omega)⟩

theorem awaitDecides (redact) (polls) (up : Bool) :
    (∃ last, host.awaitTerminalState redact polls = .ok last ∧ (last.state = .healthy ↔ up = true)) ↔ host.Decides (max polls 1) up := by
  obtain ⟨left,count⟩ : ∃ left, max polls 1 = left + 1 := ⟨max polls 1 - 1,by omega⟩
  rw [Host.awaitTerminalState,count,pollDecides]
  constructor
  · rintro ⟨k,_,upTo,before,state,there,same,ends⟩
    exact ⟨k,by omega,fun j less => before j (by omega) less,state,there,same,fun isUp => (ends isUp).imp_right (by omega)⟩
  · rintro ⟨k,less,before,state,there,same,ends⟩
    exact ⟨k,by omega,by omega,fun j _ most => before j most,state,there,same,fun isUp => (ends isUp).imp_right (by omega)⟩

theorem askEnds : Ends (ask report answer) s (fun a next => answer = .ok a ∧ next = s) (fun _ _ => ∀ a, answer ≠ .ok a) := by
  refine .attempts (fun a next ran => ?_) (fun e ran => ?_)
  · cases answer <;> cases ran
    exact ⟨rfl,rfl⟩
  · cases answer <;> cases ran
    nofun

theorem convergeEnds : Ends (convergeWith runtime host target) s
    (fun result _ => host.Launches target (target.containerSpec (target.imageReference runtime.registryNamespace)) ∧
      host.awaitTerminalState runtime.redact runtime.healthPolls = .ok result.outcome)
    (fun _ _ => ∀ outcome, ¬ (host.Launches target (target.containerSpec (target.imageReference runtime.registryNamespace)) ∧
      host.awaitTerminalState runtime.redact runtime.healthPolls = .ok outcome)) := by
  have image : Ends (host.ensureImage target.digest) s (fun _ _ => host.imageExists = .ok true ∨
      host.imageExists = .ok false ∧ ∃ pulled, host.pull = .ok pulled ∧ endsWith pulled target.digest = true)
      (fun _ _ => ¬ (host.imageExists = .ok true ∨
        host.imageExists = .ok false ∧ ∃ pulled, host.pull = .ok pulled ∧ endsWith pulled target.digest = true)) := by
    refine .after askEnds ?_ (fun _ _ silent => by simp [silent])
    rintro present next ⟨exists',rfl⟩
    refine .branch (fun there => .returns (.inl (there ▸ exists'))) (fun missing => ?_)
    rw [Bool.not_eq_true] at missing
    refine .after askEnds ?_ (fun _ _ silent => by simp [exists',missing,silent])
    rintro pulled next ⟨got,rfl⟩
    refine .branch (fun other => .fails ?_) (fun same => .returns (.inr ⟨missing ▸ exists',pulled,got,by simpa using same⟩))
    simp [exists',missing,got,other]
  refine .after image (fun _ _ present => ?_) (fun _ _ absent _ launched => absent launched.1.image)
  refine .after askEnds (fun _ _ sound => ?_) (fun _ _ refused _ launched => refused _ launched.1.sound)
  refine .after askEnds (fun _ _ ensured => ?_) (fun _ _ refused _ launched => refused _ launched.1.ensured)
  refine .andThen (.attempts (fun created next ran => ?_) (fun e ran outcome launched => ?_))
  · have made : ∃ id, host.create = .ok id := by
      cases made : host.create with
      | error e => simp [made] at ran
      | ok id => exact ⟨id,rfl⟩
    cases started : host.start with
    | error e =>
      refine .andThen (.whatever (fun _ _ => .fails ?_) (fun _ _ _ launched => ?_))
      · exact fun outcome launched => by cases started.symm.trans launched.1.started
      · cases started.symm.trans launched.1.started
    | ok =>
      have launched : host.Launches target (target.containerSpec (target.imageReference runtime.registryNamespace)) :=
        ⟨present,sound.1,ensured.1,made,started⟩
      cases awaited : host.awaitTerminalState runtime.redact runtime.healthPolls with
      | error e => exact .fails (fun outcome both => by cases both.2)
      | ok outcome =>
        refine .branch (fun _ => .andThen (.attempts (fun _ _ _ => .returns ⟨launched,rfl⟩) (fun e ran => ?_)))
          (fun _ => .returns ⟨launched,rfl⟩)
        split at ran <;> cases ran
  · obtain ⟨id,made⟩ := launched.1.created
    simp [made] at ran

end Outcomes

end OpenPanel.Delivery

namespace OpenPanel.Deployment
open Fallible
open Delivery (ConvergeTarget ApplicationDeliveryError DockerError DockerRuntimeAdapter ReleaseOutcome ConvergeResult)

/-- What one execution meets. `worker`: the thread and the runtime of a blocking converge come up. -/
structure Surroundings where
  now : DateTime
  id : Uuid
  resolved : Except ApplicationDeliveryError (Option ConvergeTarget)
  ping : Except DockerError Unit
  worker : Bool
  docker : Delivery.Host

structure DockerDeploymentAdapter where
  redact : String → String
  manifest : AdapterManifest
  unreportable : DeploymentEvidence
  runtime : DockerRuntimeAdapter

namespace DockerDeploymentAdapter

variable (adapter : DockerDeploymentAdapter) (around : Surroundings) (plan : DeploymentPlan)

def resolve : Except String ConvergeTarget :=
  if targetScheme.toList.isPrefixOf plan.target.toList then
    match around.resolved with
    | .ok (some target) => .ok target
    | .ok none => .error ("plan target `" ++ bounded plan.target ++ "` has no converged release in this process")
    | .error e => .error e.message
  else .error ("plan target `" ++ bounded plan.target ++ "` is outside the " ++ targetScheme ++ " namespace")

def convergeBlocking (target : ConvergeTarget) : Delivery.Service ConvergeResult :=
  if around.worker then Delivery.convergeAndRecord adapter.runtime around.docker target else throw .runtimeUnavailable

def delegate (target : ConvergeTarget) (s : Delivery.Runtime) : Except ApplicationDeliveryError ReleaseOutcome × Delivery.Runtime :=
  if plan.dryRun || !plan.action.isMutating then (adapter.runtime.check around.ping around.docker target,s)
  else
    let ran := exec (adapter.convergeBlocking around target) s
    (ran.1.map ConvergeResult.outcome,ran.2)

def answers (s : Delivery.Runtime) : DockerHost where
  now := around.now
  id := around.id
  resolve := (around.resolved.map Option.isSome).mapError ApplicationDeliveryError.message
  check := do
    let target ← resolve around plan
    ((adapter.runtime.check around.ping around.docker target).map ReleaseOutcome.diagnostic).mapError ApplicationDeliveryError.message
  converge := do
    let target ← resolve around plan
    (((exec (adapter.convergeBlocking around target) s).1.map ConvergeResult.outcome).map ReleaseOutcome.diagnostic).mapError
      ApplicationDeliveryError.message

def execute (cached : Option DeploymentEvidence) (s : Delivery.Runtime) : DeploymentEvidence × Delivery.Runtime :=
  let terminal := terminal adapter.redact (adapter.answers around plan s) adapter.unreportable plan
  match validatePlan plan adapter.manifest with
  | .error e => (terminal .preflightRejected e.message,s)
  | .ok _ => match cached,decideReplay plan cached with
    | some cached,.replay => (cached,s)
    | _,_ => match resolve around plan with
      | .error detail => (terminal (refusedState plan) detail,s)
      | .ok target => match adapter.delegate around plan target s with
        | (.ok outcome,next) => (terminal .ready outcome.diagnostic,next)
        | (.error e,next) => (terminal .failed e.message,next)

end DockerDeploymentAdapter

section Evidence

variable {adapter : DockerDeploymentAdapter} {around : Surroundings} {plan : DeploymentPlan}
  {cached : Option DeploymentEvidence} {s : Delivery.Runtime}

theorem answersResolve : (adapter.answers around plan s).resolveTarget plan =
    (DockerDeploymentAdapter.resolve around plan).map (fun _ => ()) := by
  unfold DockerHost.resolveTarget DockerDeploymentAdapter.resolve DockerDeploymentAdapter.answers
  split
  · obtain e | _ | target := around.resolved <;> rfl
  · rfl

theorem reportedResult (redact host unreportable plan) (result : Except ApplicationDeliveryError ReleaseOutcome) :
    reported redact host unreportable plan ((result.map ReleaseOutcome.diagnostic).mapError ApplicationDeliveryError.message) =
      match result with
      | .ok outcome => terminal redact host unreportable plan .ready outcome.diagnostic
      | .error e => terminal redact host unreportable plan .failed e.message := by
  cases result <;> rfl

theorem answersReply (resolved : DockerDeploymentAdapter.resolve around plan = .ok target) :
    (if plan.dryRun || !plan.action.isMutating then
        reported adapter.redact (adapter.answers around plan s) adapter.unreportable plan (adapter.answers around plan s).check
      else reported adapter.redact (adapter.answers around plan s) adapter.unreportable plan (adapter.answers around plan s).converge) =
      match (adapter.delegate around plan target s).1 with
      | .ok outcome => terminal adapter.redact (adapter.answers around plan s) adapter.unreportable plan .ready outcome.diagnostic
      | .error e => terminal adapter.redact (adapter.answers around plan s) adapter.unreportable plan .failed e.message := by
  rw [← reportedResult]
  unfold DockerDeploymentAdapter.delegate
  split
  · simp only [DockerDeploymentAdapter.answers,resolved,okBind]
  · simp only [DockerDeploymentAdapter.answers,resolved,okBind]

theorem executeRefines (cached) : (adapter.execute around plan cached s).1 =
    (dockerAdapter adapter.redact adapter.manifest adapter.unreportable).execute (adapter.answers around plan s) plan cached := by
  cases admitted : validatePlan plan adapter.manifest with
  | error e => simp only [DockerDeploymentAdapter.execute,dockerAdapter,admitted]
  | ok policy =>
    cases resolved : DockerDeploymentAdapter.resolve around plan with
    | error detail =>
      have refused : (adapter.answers around plan s).resolveTarget plan = .error detail := by rw [answersResolve,resolved]; rfl
      rcases cached with _ | cached
      · simp only [DockerDeploymentAdapter.execute,dockerAdapter,admitted,resolved,refused]
      · cases decided : decideReplay plan (some cached) <;>
          simp only [DockerDeploymentAdapter.execute,dockerAdapter,admitted,decided,resolved,refused]
    | ok target =>
      have given : (adapter.answers around plan s).resolveTarget plan = .ok () := by rw [answersResolve,resolved]; rfl
      have reply := @answersReply adapter around plan s target resolved
      rcases cached with _ | cached
      · simp only [DockerDeploymentAdapter.execute,dockerAdapter,admitted,resolved,given,reply]
        rcases adapter.delegate around plan target s with ⟨_ | _,_⟩ <;> rfl
      · cases decided : decideReplay plan (some cached) <;>
          simp only [DockerDeploymentAdapter.execute,dockerAdapter,admitted,decided,resolved,given,reply]
        rcases adapter.delegate around plan target s with ⟨_ | _,_⟩ <;> rfl

structure Delegated (adapter : DockerDeploymentAdapter) (around : Surroundings) (plan : DeploymentPlan) (s : Delivery.Runtime)
    (target : ConvergeTarget) (outcome : ReleaseOutcome) : Prop where
  admitted : ∃ policy, validatePlan plan adapter.manifest = .ok policy
  resolved : DockerDeploymentAdapter.resolve around plan = .ok target
  returned : (adapter.delegate around plan target s).1 = .ok outcome

theorem readyExact (fresh : decideReplay plan cached = .rerun) :
    (adapter.execute around plan cached s).1.state = .ready ↔ ∃ target outcome, Delegated adapter around plan s target outcome := by
  have reports := fun state diagnostic =>
    (terminalReports adapter.redact (adapter.answers around plan s) adapter.unreportable plan state diagnostic).2
  unfold DockerDeploymentAdapter.execute
  cases admitted : validatePlan plan adapter.manifest with
  | error e =>
    simp only [reports]
    exact ⟨nofun,fun ⟨_,_,delegated⟩ => absurd delegated.admitted (by simp [admitted])⟩
  | ok policy =>
    simp only [fresh]
    cases resolved : DockerDeploymentAdapter.resolve around plan with
    | error detail =>
      simp only [reports]
      refine ⟨fun ready => ?_,fun ⟨_,_,delegated⟩ => absurd delegated.resolved (by simp [resolved])⟩
      unfold refusedState at ready
      split at ready <;> cases ready
    | ok target =>
      cases ran : adapter.delegate around plan target s with
      | mk result next =>
        cases result with
        | ok outcome =>
          simp only [ran,reports]
          exact ⟨fun _ => ⟨target,outcome,⟨policy,admitted⟩,resolved,by rw [ran]⟩,fun _ => trivial⟩
        | error e =>
          simp only [ran,reports]
          refine ⟨nofun,fun ⟨other,_,delegated⟩ => ?_⟩
          cases resolved.symm.trans delegated.resolved
          exact absurd delegated.returned (by simp [ran])

/-- What docker answers to the one call that is made for the target: a look at the image, or a container that is launched
and then found up or not. -/
def Answers (adapter : DockerDeploymentAdapter) (around : Surroundings) (plan : DeploymentPlan) (target : ConvergeTarget) (up : Bool) : Prop :=
  if plan.dryRun || !plan.action.isMutating then around.ping = .ok () ∧ around.docker.imageExists = .ok up
  else around.worker = true ∧
    around.docker.Launches target (target.containerSpec (target.imageReference adapter.runtime.registryNamespace)) ∧
    around.docker.Decides (max adapter.runtime.healthPolls 1) up

theorem checkAnswers (up : Bool) : (∃ outcome, adapter.runtime.check around.ping around.docker target = .ok outcome ∧
    (outcome.state = .healthy ↔ up = true)) ↔ around.ping = .ok () ∧ around.docker.imageExists = .ok up := by
  unfold DockerRuntimeAdapter.check
  rcases around.ping with e | ⟨⟩
  · simp
  · rcases around.docker.imageExists with e | present
    · simp
    · cases present <;> cases up <;> simp [Delivery.healthy,Delivery.failed]

theorem recordEnds (worker : around.worker = true) : Ends (adapter.convergeBlocking around target) s
    (fun result _ => around.docker.Launches target (target.containerSpec (target.imageReference adapter.runtime.registryNamespace)) ∧
      around.docker.awaitTerminalState adapter.runtime.redact adapter.runtime.healthPolls = .ok result.outcome)
    (fun _ _ => ∀ outcome, ¬ (around.docker.Launches target (target.containerSpec (target.imageReference adapter.runtime.registryNamespace)) ∧
      around.docker.awaitTerminalState adapter.runtime.redact adapter.runtime.healthPolls = .ok outcome)) := by
  rw [DockerDeploymentAdapter.convergeBlocking,if_pos worker]
  refine .after Delivery.convergeEnds (fun converged _ launched => ?_) (fun _ _ refused => refused)
  split
  · exact .returns launched
  · refine .andThen (.attempts (fun retired _ _ => ?_) (fun e ran => by cases ran))
    split
    · exact .returns launched
    · refine .andThen (.attempts (fun _ _ _ => .returns launched) (fun e ran => ?_))
      split at ran <;> cases ran

theorem delegateAnswers (up : Bool) : (∃ outcome, (adapter.delegate around plan target s).1 = .ok outcome ∧
    (outcome.state = .healthy ↔ up = true)) ↔ Answers adapter around plan target up := by
  unfold DockerDeploymentAdapter.delegate Answers
  split
  · exact checkAnswers up
  · by_cases worker : around.worker = true
    · rw [← Delivery.awaitDecides adapter.runtime.redact]
      have ends := @recordEnds adapter around s target worker
      unfold Ends at ends
      split at ends
      · rename_i result next ran
        rw [ran]
        constructor
        · rintro ⟨outcome,returned,agrees⟩
          cases returned
          exact ⟨worker,ends.1,_,ends.2,agrees⟩
        · rintro ⟨_,_,last,awaited,agrees⟩
          cases ends.2.symm.trans awaited
          exact ⟨_,rfl,agrees⟩
      · rename_i e next ran
        rw [ran]
        refine ⟨nofun,?_⟩
        rintro ⟨_,launched,last,awaited,_⟩
        exact absurd ⟨launched,awaited⟩ (ends last)
    · have refused : exec (adapter.convergeBlocking around target) s = (.error .runtimeUnavailable,s) := by
        rw [DockerDeploymentAdapter.convergeBlocking,if_neg worker]
        rfl
      rw [refused]
      exact ⟨nofun,fun answered => absurd answered.1 worker⟩

theorem resolveIff : DockerDeploymentAdapter.resolve around plan = .ok target ↔
    targetScheme.toList.isPrefixOf plan.target.toList = true ∧ around.resolved = .ok (some target) := by
  unfold DockerDeploymentAdapter.resolve
  split
  · rcases around.resolved with e | _ | found <;> simp_all
  · simp_all

theorem evidenceTruthful (fresh : decideReplay plan cached = .rerun) :
    ((adapter.execute around plan cached s).1.state = .ready → ∃ target outcome, Delegated adapter around plan s target outcome ∧
      outcome.state = .healthy ∧ target.digest = plan.releaseDigest) ↔
    ∀ policy target, validatePlan plan adapter.manifest = .ok policy → targetScheme.toList.isPrefixOf plan.target.toList = true →
      around.resolved = .ok (some target) →
      ¬ Answers adapter around plan target false ∧ (Answers adapter around plan target true → target.digest = plan.releaseDigest) := by
  rw [readyExact fresh]
  constructor
  · intro truthful policy target admitted scheme resolved
    have named : DockerDeploymentAdapter.resolve around plan = .ok target := resolveIff.mpr ⟨scheme,resolved⟩
    -- Whatever docker answers, the call returned, so the outcome it returned is the one that was found healthy.
    have told : ∀ up, Answers adapter around plan target up → up = true ∧ target.digest = plan.releaseDigest := by
      intro up answered
      obtain ⟨outcome,returned,agrees⟩ := (delegateAnswers up).mpr answered
      obtain ⟨target',outcome',delegated,healthy,same⟩ := truthful ⟨target,outcome,⟨policy,admitted⟩,named,returned⟩
      cases named.symm.trans delegated.resolved
      cases returned.symm.trans delegated.returned
      exact ⟨agrees.mp healthy,same⟩
    exact ⟨fun answered => Bool.false_ne_true (told false answered).1,fun answered => (told true answered).2⟩
  · rintro sound ⟨target,outcome,⟨policy,admitted⟩,resolved,returned⟩
    obtain ⟨scheme,given⟩ := resolveIff.mp resolved
    obtain ⟨notDown,pinned⟩ := sound policy target admitted scheme given
    have answered : Answers adapter around plan target (decide (outcome.state = .healthy)) :=
      (delegateAnswers _).mp ⟨outcome,returned,by simp⟩
    by_cases healthy : outcome.state = .healthy
    · rw [decide_eq_true healthy] at answered
      exact ⟨target,outcome,⟨⟨policy,admitted⟩,resolved,returned⟩,healthy,pinned answered⟩
    · rw [decide_eq_false healthy] at answered
      exact absurd answered notDown

end Evidence

def shopAdapter : DockerDeploymentAdapter :=
  ⟨fun text => text,dockerManifest "docker-deploy-v1",unreportable,Delivery.runtimeAdapter⟩

def shopAround (docker : Delivery.Host) : Surroundings := ⟨0,1,.ok (some (Delivery.release 2)),.ok (),true,docker⟩

def pinned : DeploymentPlan :=
  {rollout with releaseDigest := (Delivery.release 2).digest, valid := by decide}

theorem pinnedTruthful : (shopAdapter.execute (shopAround (Delivery.running "c1")) pinned none Delivery.Runtime.empty).1.state = .ready ∧
    ∃ target outcome, Delegated shopAdapter (shopAround (Delivery.running "c1")) pinned Delivery.Runtime.empty target outcome ∧
      outcome.state = .healthy ∧ target.digest = pinned.releaseDigest := by
  have ran : (shopAdapter.delegate (shopAround (Delivery.running "c1")) pinned (Delivery.release 2) Delivery.Runtime.empty).1 =
      .ok ⟨.healthy,"container is running"⟩ := by decide +kernel
  have ready := (@readyExact _ _ _ none _ rfl).mpr ⟨_,_,⟨_,rfl⟩,rfl,ran⟩
  refine ⟨ready,(evidenceTruthful rfl).mpr ?_ ready⟩
  intro policy target _ _ resolved
  have same : Except.ok (some (Delivery.release 2)) = (.ok (some target) : Except ApplicationDeliveryError (Option ConvergeTarget)) := resolved
  cases same
  refine ⟨fun down => ?_,fun _ => rfl⟩
  obtain ⟨_,_,k,_,_,state,there,isDown,_⟩ := down
  cases there
  cases isDown

def exitedHost : Delivery.Host := {Delivery.running "c1" with inspect := fun _ => .ok ⟨"exited",false,none⟩}

theorem exitedReady : (shopAdapter.execute (shopAround exitedHost) rollout none Delivery.Runtime.empty).1.state = .ready ∧
    Delegated shopAdapter (shopAround exitedHost) rollout Delivery.Runtime.empty (Delivery.release 2)
      ⟨.failed,"container status is exited"⟩ ∧ (Delivery.release 2).digest ≠ rollout.releaseDigest := by
  have delegated : Delegated shopAdapter (shopAround exitedHost) rollout Delivery.Runtime.empty (Delivery.release 2)
      ⟨.failed,"container status is exited"⟩ := ⟨⟨_,rfl⟩,rfl,by decide +kernel⟩
  exact ⟨(readyExact rfl).mpr ⟨_,_,delegated⟩,delegated,by decide⟩

end OpenPanel.Deployment
