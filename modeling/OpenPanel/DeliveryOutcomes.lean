import OpenPanel.DeliveryRollbacks

/-! Release records and the host. A promotion or a rollback has the adapter converge
its target and moves the stored release to the reported state. The adapter never reports
that a release was rolled back, so a rollback ends in a refused transition, or healthy. -/
namespace OpenPanel.Delivery
open Fallible GuardedRun

def Built (w : World) : Prop := ∀ r ∈ w.state.releases, r.state ≠ .pending ∧ r.state ≠ .building

theorem legalBuilt {state target : ReleaseState} (legal : state.legal target = true)
    (built : state ≠ .pending ∧ state ≠ .building) : target ≠ .pending ∧ target ≠ .building := by
  cases state <;> cases target <;> simp_all [ReleaseState.legal]

theorem domainOk (ok : domain result = .ok a) : result = .ok a := by
  cases result with
  | error e => cases ok
  | ok b =>
    cases ok
    rfl

theorem storedBuilt {change : ServiceState → Except ApplicationDeliveryServiceError (α × ServiceState)} (built : Built w)
    (keeps : ∀ a next, change w.state = .ok (a,next) → ∀ r ∈ next.releases, r.state ≠ .pending ∧ r.state ≠ .building) :
    Leaves (stored change) w Built := by
  refine .attempts ?_ (fun _ _ => built)
  intro a next ran
  obtain ⟨result,changed,same⟩ := mapOk ran
  cases same
  exact keeps _ _ changed

theorem releaseMem {s : ServiceState} {id release} (found : s.release id = .ok release) : release ∈ s.releases ∧ release.id = id := by
  unfold ServiceState.release at found
  split at found <;> cases found
  rename_i hit
  exact Rows.found hit

inductive Change where | promote | rollback deriving DecidableEq

def Change.perform (adapter : DockerRuntimeAdapter) (c : ChangeRequest) : Change → Panel Release
  | .promote => Delivery.promote adapter c
  | .rollback => rollbackRelease adapter c

section Calls

variable (built : Built w)
include built

theorem registerBuilt {caller name source buildCommand fresh now} :
    Leaves (registerApplication caller name source buildCommand fresh now) w Built := by
  refine storedBuilt built (fun a next ran => ?_)
  obtain ⟨_,_,ran⟩ := bindOk ran
  split at ran <;> try contradiction
  split at ran <;> try contradiction
  obtain ⟨application,_,ran⟩ := bindOk ran
  split at ran <;> cases ran
  exact built

theorem addEnvironmentBuilt {caller applicationId kind name quota secretSet expiresAt fresh now} :
    Leaves (addEnvironment caller applicationId kind name quota secretSet expiresAt fresh now) w Built := by
  refine storedBuilt built (fun a next ran => ?_)
  obtain ⟨_,_,ran⟩ := bindOk ran
  obtain ⟨_,_,ran⟩ := bindOk ran
  obtain ⟨_,_,ran⟩ := bindOk ran
  cases ran
  exact built

theorem buildBuilt {redact caller applicationId environmentName resolved fresh checkedAt now} :
    Leaves (buildRelease redact caller applicationId environmentName resolved fresh checkedAt now) w Built := by
  refine storedBuilt built (fun a next ran => ?_)
  obtain ⟨_,_,ran⟩ := bindOk ran
  obtain ⟨_,_,ran⟩ := bindOk ran
  obtain ⟨digest,_,ran⟩ := bindOk ran
  split at ran <;> try contradiction
  obtain ⟨begun,_,ran⟩ := bindOk ran
  obtain ⟨_,ended,ran⟩ := bindOk ran
  cases ran
  have moved : a.state = .deploying := by
    have deploying := domainOk ended
    unfold finishBuild at deploying
    cases result : begun.transition redact .deploying now "build finished; deploying" with
    | error e => simp [result,Except.mapError] at deploying
    | ok next =>
      simp only [result,Except.mapError,Except.ok.injEq] at deploying
      rw [← deploying,(transitioned result).2]
  intro r mem
  rcases List.mem_append.mp mem with old | new
  · exact built r (Rows.memDelete.mp old).1
  · rw [List.mem_singleton.mp new,moved]
    exact ⟨nofun,nofun⟩

theorem applyBuilt : Leaves (applyOutcome redact releaseId outcome now) w Built := by
  refine storedBuilt built (fun a next ran => ?_)
  obtain ⟨release,found,ran⟩ := bindOk ran
  obtain ⟨updated,moved,ran⟩ := bindOk ran
  cases ran
  obtain ⟨legal,rfl⟩ := transitioned (domainOk moved)
  intro r mem
  rcases Rows.memUpdate mem with ⟨old,_⟩ | ⟨_,_,_,rfl⟩
  · exact built r old
  · exact legalBuilt legal (built release (releaseMem found).1)

theorem askingBuilt : Leaves (asking prog) w Built :=
  Ends.within (.whatever (fun _ _ => built) (fun _ _ => built))

theorem performBuilt {adapter c} (change : Change) : Leaves (change.perform adapter c) w Built := by
  cases change
  all_goals
    refine .asks (fun found _ => ?_) (fun _ _ => built)
    refine .andThen (.gives (askingBuilt built) (fun outcome _ built => ?_))
    refine .andThen (.gives (applyBuilt built) (fun _ _ built => ?_))
    exact .checks (fun _ _ => built) (fun _ _ => built)

theorem afterBuilt {adapter call} : Built (Call.after adapter w call) := by
  cases call with
  | register => exact Ends.always (registerBuilt built)
  | addEnvironment => exact Ends.always (addEnvironmentBuilt built)
  | build => exact Ends.always (buildBuilt built)
  | promote => exact Ends.always (performBuilt built .promote)
  | rollback => exact Ends.always (performBuilt built .rollback)
  | converge => exact Ends.always (askingBuilt built)

end Calls

theorem reachableBuilt (run : Run (serve adapter) free World.empty calls w) : Built w := by
  refine run.keeps (fun _ _ _ built _ fired => ?_) (fun _ mem => absurd mem List.not_mem_nil)
  cases Option.some.inj fired
  exact afterBuilt built

def Change.target (w : World) (c : ChangeRequest) :
    Change → Except ApplicationDeliveryServiceError (Release × ConvergeTarget)
  | .promote => do
    let (release,environment) ← w.state.promotion c
    let target ← domain (targetFor release environment)
    return (release,target)
  | .rollback => do
    let (release,environment) ← w.state.reversal c
    let target ← domain (rollbackTarget w.provider.runtime.registry release environment c.releaseId)
    return (release,target)

def conclude (adapter : DockerRuntimeAdapter) (c : ChangeRequest) (outcome : ReleaseOutcome) : Panel Release := do
  applyOutcome adapter.redact c.releaseId outcome c.appliedAt
  reads (fun w => w.state.release c.releaseId)

def settle (adapter : DockerRuntimeAdapter) (c : ChangeRequest) (target : ConvergeTarget) : Panel Release := do
  let outcome ← asking (converge adapter c.host target)
  conclude adapter c outcome

theorem performSettles (adapter c w change) : exec (Change.perform adapter c change) w =
    match change.target w c with
    | .error e => (.error e,w)
    | .ok (_,target) => exec (settle adapter c target) w := by
  cases change with
  | promote =>
    simp only [Change.perform,Change.target,promote,execBind,execReads]
    cases admitted : w.state.promotion c with
    | error e => rfl
    | ok found =>
      simp only [asking,execZoom,deploy,execBind,execReads,okBind]
      cases targetFor found.1 found.2 with
      | error e => rfl
      | ok target =>
        change _ = exec (settle adapter c target) w
        simp only [settle,conclude,execBind,execReads,asking,execZoom]
  | rollback =>
    simp only [Change.perform,Change.target,rollbackRelease,execBind,execReads]
    cases admitted : w.state.reversal c with
    | error e => rfl
    | ok found =>
      simp only [asking,execZoom,rollback,execBind,execReads,okBind]
      cases rollbackTarget w.provider.runtime.registry found.1 found.2 c.releaseId with
      | error e => rfl
      | ok target =>
        change _ = exec (settle adapter c target) w
        simp only [settle,conclude,execBind,execReads,asking,execZoom]

theorem targetStored {w c change release target} (chosen : Change.target w c change = .ok (release,target)) :
    w.state.release c.releaseId = .ok release ∧
    match change with
    | .promote => release.state = .pending ∨ release.state = .building ∨ release.state = .deploying
    | .rollback => release.state = .failed ∨ release.state = .deploying := by
  cases change with
  | promote =>
    obtain ⟨found,admitted,chosen⟩ := bindOk chosen
    obtain ⟨_,_,chosen⟩ := bindOk chosen
    cases chosen
    obtain ⟨place,_,admitted⟩ := bindOk admitted
    obtain ⟨release,stored,admitted⟩ := bindOk admitted
    split at admitted <;> try contradiction
    obtain ⟨_,_,admitted⟩ := bindOk admitted
    obtain ⟨_,allowed,admitted⟩ := bindOk admitted
    cases admitted
    exact ⟨stored,promotable (domainOk allowed)⟩
  | rollback =>
    obtain ⟨found,admitted,chosen⟩ := bindOk chosen
    obtain ⟨_,_,chosen⟩ := bindOk chosen
    cases chosen
    obtain ⟨place,_,admitted⟩ := bindOk admitted
    obtain ⟨release,stored,admitted⟩ := bindOk admitted
    obtain ⟨_,_,admitted⟩ := bindOk admitted
    obtain ⟨_,allowed,admitted⟩ := bindOk admitted
    cases admitted
    exact ⟨stored,reversible (domainOk allowed)⟩

theorem concludeLegal (adapter c outcome w) {release} (found : w.state.release c.releaseId = .ok release)
    (legal : release.state.legal outcome.state = true) : ∃ moved next,
    exec (conclude adapter c outcome) w = (.ok moved,next) ∧ moved.state = outcome.state ∧
    next.state.release c.releaseId = .ok moved ∧ next.provider = w.provider := by
  let moved : Release := {release with
    state := outcome.state
    lastTransitionAt := c.appliedAt
    diagnostic := adapter.redact (adapter.redact outcome.diagnostic)}
  let next : World := {w with state := {w.state with
    releases := Rows.update Release.id c.releaseId (fun _ => moved) w.state.releases}}
  have applied : exec (applyOutcome adapter.redact c.releaseId outcome c.appliedAt) w = (.ok (),next) := by
    simp only [applyOutcome,stored,execAttempt,found,okBind,transitionLegal legal]
    rfl
  have again : next.state.release c.releaseId = .ok moved := by
    have named : moved.id = c.releaseId := (releaseMem found).2
    unfold ServiceState.release at found ⊢
    rw [Rows.findUpdated (fun _ _ => named)]
    split at found <;> cases found
    rename_i hit
    rw [hit]
    rfl
  refine ⟨moved,next,?_,rfl,again,rfl⟩
  simp only [conclude,execBind,applied,execReads,again]

theorem concludeIllegal (adapter c outcome w) {release} (found : w.state.release c.releaseId = .ok release)
    (illegal : release.state.legal outcome.state = false) : ∃ e, exec (conclude adapter c outcome) w = (.error e,w) := by
  have refused : ∃ e, release.transition adapter.redact outcome.state c.appliedAt
      (adapter.redact outcome.diagnostic) = .error e := by
    cases moved : release.transition adapter.redact outcome.state c.appliedAt (adapter.redact outcome.diagnostic) with
    | error e => exact ⟨e,rfl⟩
    | ok next => exact absurd ((transitioned moved).1.symm.trans illegal) nofun
  obtain ⟨e,refused⟩ := refused
  have stopped : exec (applyOutcome adapter.redact c.releaseId outcome c.appliedAt) w = (.error (.domain e),w) := by
    simp only [applyOutcome,stored,execAttempt,found,okBind,refused]
    rfl
  exact ⟨.domain e,by simp only [conclude,execBind,stopped]⟩

def Settles (adapter : DockerRuntimeAdapter) (w : World) (change : Change) (c : ChangeRequest) : Prop :=
  ∀ release target, change.target w c = .ok (release,target) →
    ∃ outcome, (exec (converge adapter c.host target) w.provider).1 = .ok outcome ∧
      (change = .rollback → release.state = .deploying ∧ outcome.state = .failed)

instance (adapter w change c) : Decidable (Settles adapter w change c) :=
  match chosen : change.target w c with
  | .error _ => isTrue (fun _ _ same => absurd (chosen.symm.trans same) nofun)
  | .ok (release,target) =>
    match reported : (exec (converge adapter c.host target) w.provider).1 with
    | .error _ => isFalse (fun settles => by
        obtain ⟨outcome,same,_⟩ := settles release target chosen
        exact absurd (reported.symm.trans same) nofun)
    | .ok outcome =>
      decidable_of_iff (change = .rollback → release.state = .deploying ∧ outcome.state = .failed)
        ⟨fun fails release' target' same => by
          cases chosen.symm.trans same
          exact ⟨outcome,reported,fails⟩,
        fun settles => by
          obtain ⟨outcome',same,fails⟩ := settles release target chosen
          cases reported.symm.trans same
          exact fails⟩

def FollowsHost (adapter : DockerRuntimeAdapter) (w : World) (change : Change) (c : ChangeRequest) : Prop :=
  (∀ e, (exec (change.perform adapter c) w).1 = .error e →
    (exec (change.perform adapter c) w).2.provider = w.provider) ∧
  (change = .rollback → ∀ target outcome,
    (exec (change.perform adapter c) w).2.provider.attempts = w.provider.attempts ++ [⟨target,.ok outcome⟩] →
    outcome.state = .healthy →
    ∃ release, (exec (change.perform adapter c) w).2.state.release c.releaseId = .ok release ∧
      release.state = .rolledBack)

theorem settleReported (reported : (exec (converge adapter c.host target) w.provider).1 = .ok outcome) :
    exec (settle adapter c target) w =
      exec (conclude adapter c outcome) {w with provider := (exec (converge adapter c.host target) w.provider).2} := by
  have asked : exec (converge adapter c.host target) w.provider = (.ok outcome,_) := Prod.ext reported rfl
  simp only [settle,execBind,asking,execZoom]
  rw [asked]

theorem settleFailed (reported : (exec (converge adapter c.host target) w.provider).1 = .error e) :
    exec (settle adapter c target) w =
      (.error (.domain e),{w with provider := (exec (converge adapter c.host target) w.provider).2}) := by
  have asked : exec (converge adapter c.host target) w.provider = (.error e,_) := Prod.ext reported rfl
  simp only [settle,execBind,asking,execZoom]
  rw [asked]

theorem reportedFinal (reported : (exec (converge adapter host target) p).1 = .ok outcome) : outcome.Final := by
  rcases convergedRegistry (Prod.ext reported rfl) with ⟨well,_⟩ | ⟨unwell,_⟩
  · exact .inl well
  · exact .inr unwell

theorem convergeAsked (adapter) (host target p) : (exec (converge adapter host target) p).2.attempts =
      p.attempts ++ [⟨target,(exec (converge adapter host target) p).1⟩] := rfl

theorem convergeAttempt (reported : (exec (converge adapter host target) p).1 = .ok outcome) :
    (exec (converge adapter host target) p).2.attempts = p.attempts ++ [⟨target,.ok outcome⟩] := by
  rw [convergeAsked,reported]

theorem releaseFollowsHost (adapter : DockerRuntimeAdapter) {calls w}
    (reachable : Run (serve adapter) free World.empty calls w) (change : Change) (c : ChangeRequest)
    (settles : Settles adapter w change c) : FollowsHost adapter w change c := by
  have built := reachableBuilt reachable
  unfold FollowsHost
  rw [performSettles]
  cases chosen : change.target w c with
  | error e => exact ⟨fun _ _ => rfl,fun _ target outcome more => absurd more (by simp)⟩
  | ok found =>
    obtain ⟨release,target⟩ := found
    obtain ⟨stored,state⟩ := targetStored chosen
    obtain ⟨outcome,reported,fails⟩ := settles release target chosen
    have deploying : release.state = .deploying := by
      obtain ⟨notPending,notBuilding⟩ := built release (releaseMem stored).1
      cases change with
      | promote => exact (state.resolve_left notPending).resolve_left notBuilding
      | rollback => exact (fails rfl).1
    have legal : release.state.legal outcome.state = true := by
      rw [deploying]
      rcases reportedFinal reported with well | unwell
      · rw [well]; rfl
      · rw [unwell]; rfl
    obtain ⟨moved,next,done,_,_,asked⟩ := concludeLegal adapter c outcome
      {w with provider := (exec (converge adapter c.host target) w.provider).2} stored legal
    simp only [settleReported reported,done]
    refine ⟨nofun,?_⟩
    intro back other result more well
    simp only [asked] at more
    have last := List.append_cancel_left ((convergeAttempt reported).symm.trans more)
    cases last
    exact absurd (well.symm.trans (fails back).2) nofun

def operator : Identity.User :=
  ⟨9,⟨"operator",by decide⟩,⟨"operator@panel.test",by decide⟩,.owner,none,none,0⟩

def setUp : List Call :=
  [.register operator "shop" source "" 1 0,
    .addEnvironment operator 1 .production "production" 1 prodSecrets none 2 0,
    .build operator 1 "production" (.ok (built 3).digest) 3 0 0]

def changed (host : Host) : ChangeRequest := ⟨operator,1,"production",3,"yes",0,1,host⟩

def exited (id : String) : Host := {running id with inspect := fun _ => .ok ⟨"exited",false,none⟩}

def reported (w : World) : List (Option ReleaseState) × List (Option ReleaseState) :=
  (w.state.releases.map (fun r => some r.state),
    w.provider.attempts.map (fun a => a.result.toOption.map ReleaseOutcome.state))

theorem promotedSetUp : ∃ w, Run (serve runtimeAdapter) free World.empty setUp w ∧
    (reported (exec (promote runtimeAdapter (changed (running "c1"))) w).2 = ([some .healthy],[some .healthy]) ∧
      Settles runtimeAdapter w .promote (changed (running "c1"))) ∧
    (exec (promote runtimeAdapter (changed (silent "c1"))) w).2.provider.runtime.containers.map Container.id = ["c1"] ∧
      ¬ Settles runtimeAdapter w .promote (changed (silent "c1")) := replayShows _ _ _ _ _ (by decide +kernel)

theorem rolledBackSetUp : ∃ w,
    Run (serve runtimeAdapter) free World.empty (setUp ++ [.converge (release 3) (running "c1")]) w ∧
    Settles runtimeAdapter w .rollback (changed (exited "c2")) ∧
    reported (exec (rollbackRelease runtimeAdapter (changed (running "c2"))) w).2 =
      ([some .healthy],[some .healthy,some .healthy]) ∧
    ¬ Settles runtimeAdapter w .rollback (changed (running "c2")) := replayShows _ _ _ _ _ (by decide +kernel)

theorem releaseFollowsHostSetUp :
    (∃ w, Run (serve runtimeAdapter) free World.empty setUp w ∧
      reported (exec (promote runtimeAdapter (changed (running "c1"))) w).2 = ([some .healthy],[some .healthy]) ∧
      FollowsHost runtimeAdapter w .promote (changed (running "c1"))) ∧
    ∃ w, Run (serve runtimeAdapter) free World.empty (setUp ++ [.converge (release 3) (running "c1")]) w ∧
      FollowsHost runtimeAdapter w .rollback (changed (exited "c2")) := by
  obtain ⟨w,run,⟨after,settles⟩,_,_⟩ := promotedSetUp
  obtain ⟨w',run',settles',_,_⟩ := rolledBackSetUp
  exact ⟨⟨w,run,after,releaseFollowsHost runtimeAdapter run .promote _ settles⟩,
    w',run',releaseFollowsHost runtimeAdapter run' .rollback _ settles'⟩

theorem neverRolledBack {adapter w c release target outcome} (chosen : Change.target w c .rollback = .ok (release,target))
    (reported : (exec (converge adapter c.host target) w.provider).1 = .ok outcome) (well : outcome.state = .healthy) : ∃ stored,
    (exec (Change.rollback.perform adapter c) w).2.state.release c.releaseId = .ok stored ∧ stored.state ≠ .rolledBack := by
  obtain ⟨stored,state⟩ := targetStored chosen
  let after : World := {w with provider := (exec (converge adapter c.host target) w.provider).2}
  simp only [performSettles,chosen,settleReported reported]
  rcases state with failed | deploying
  · obtain ⟨e,refused⟩ := concludeIllegal adapter c outcome after stored
      (by rw [failed,well]; rfl)
    exact ⟨release,by rw [refused]; exact stored,by rw [failed]; nofun⟩
  · obtain ⟨moved,next,done,same,again,_⟩ := concludeLegal adapter c outcome after stored
      (by rw [deploying,well]; rfl)
    exact ⟨moved,by rw [done]; exact again,by rw [same,well]; nofun⟩

theorem performAsked (adapter) {w change c release target} (chosen : Change.target w c change = .ok (release,target)) :
    (exec (Change.perform adapter c change) w).2.provider = (exec (converge adapter c.host target) w.provider).2 := by
  obtain ⟨stored,_⟩ := targetStored chosen
  simp only [performSettles,chosen]
  cases reported : (exec (converge adapter c.host target) w.provider).1 with
  | error e =>
    rw [settleFailed reported]
  | ok outcome =>
    rw [settleReported reported]
    cases legal : release.state.legal outcome.state with
    | false =>
      obtain ⟨e,refused⟩ := concludeIllegal adapter c outcome
        {w with provider := (exec (converge adapter c.host target) w.provider).2} stored legal
      rw [refused]
    | true =>
      obtain ⟨moved,next,done,_,_,asked⟩ := concludeLegal adapter c outcome
        {w with provider := (exec (converge adapter c.host target) w.provider).2} stored legal
      rw [done]
      exact asked

theorem followsSettles {adapter w change c} (follows : FollowsHost adapter w change c) : Settles adapter w change c := by
  intro release target chosen
  obtain ⟨stored,state⟩ := targetStored chosen
  have asked := performAsked adapter chosen
  have done : ∀ e, (exec (change.perform adapter c) w).1 ≠ .error e := by
    intro e stopped
    have same := congrArg Provider.attempts (asked.symm.trans (follows.1 e stopped))
    rw [convergeAsked] at same
    exact absurd same (by simp)
  cases reported : (exec (converge adapter c.host target) w.provider).1 with
  | error e =>
    exact absurd (by simp only [performSettles,chosen,settleFailed reported]) (done (.domain e))
  | ok outcome =>
    refine ⟨outcome,rfl,?_⟩
    rintro rfl
    have failed : outcome.state = .failed := by
      refine (reportedFinal reported).resolve_left (fun well => ?_)
      obtain ⟨back,again,rolledBack⟩ := follows.2 rfl target outcome
        ((congrArg Provider.attempts asked).trans (convergeAttempt reported)) well
      obtain ⟨back',again',other⟩ := neverRolledBack chosen reported well
      cases again.symm.trans again'
      exact other rolledBack
    refine ⟨state.resolve_left (fun already => ?_),failed⟩
    obtain ⟨e,refused⟩ := concludeIllegal adapter c outcome
      {w with provider := (exec (converge adapter c.host target) w.provider).2} stored
      (by rw [already,failed]; rfl)
    exact done e (by simp only [performSettles,chosen,settleReported reported,refused])

theorem hostChangedUnrecorded :
    (∃ w, Run (serve runtimeAdapter) free World.empty setUp w ∧
      (exec (promote runtimeAdapter (changed (silent "c1"))) w).2.provider.runtime.containers.map Container.id = ["c1"] ∧
      ¬ FollowsHost runtimeAdapter w .promote (changed (silent "c1"))) ∧
    ∃ w, Run (serve runtimeAdapter) free World.empty (setUp ++ [.converge (release 3) (running "c1")]) w ∧
      reported (exec (rollbackRelease runtimeAdapter (changed (running "c2"))) w).2 =
        ([some .healthy],[some .healthy,some .healthy]) ∧
      ¬ FollowsHost runtimeAdapter w .rollback (changed (running "c2")) := by
  obtain ⟨w,run,_,left,unsettled⟩ := promotedSetUp
  obtain ⟨w',run',_,after,unsettled'⟩ := rolledBackSetUp
  exact ⟨⟨w,run,left,fun follows => unsettled (followsSettles follows)⟩,
    w',run',after,fun follows => unsettled' (followsSettles follows)⟩

end OpenPanel.Delivery
