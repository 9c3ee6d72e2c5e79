import OpenPanel.DeliveryContainers
import OpenPanel.DeliveryService

/-! Which releases can be rolled back to. The registry has one entry for each
environment, that of its newest healthy converge, and a rollback searches these
entries for the release: of all releases deployed into an environment the
newest one is found, and the others are not. -/
namespace OpenPanel.Delivery
open Fallible GuardedRun

def ReleaseOutcome.Final (outcome : ReleaseOutcome) : Prop := outcome.state = .healthy ∨ outcome.state = .failed

theorem projectFinal (redact state) : (projectState redact state).Final := by
  unfold projectState
  split
  · exact .inr rfl
  · split
    · exact .inl rfl
    · split
      · exact .inr rfl
      · split
        · exact .inl rfl
        · exact .inr rfl

theorem pollFinal {host : Host} {redact left attempt outcome last} (start : ReleaseOutcome.Final outcome)
    (polled : host.poll redact left attempt outcome = .ok last) : last.Final := by
  induction left generalizing attempt outcome with
  | zero =>
    cases polled
    exact start
  | succ left ih =>
    simp only [Host.poll] at polled
    split at polled <;> try contradiction
    split at polled
    · cases polled
      exact projectFinal ..
    · exact ih (projectFinal ..) polled

theorem discardKeeps {post : β → Runtime → Prop}
    {failed : ApplicationDeliveryError → Runtime → Prop} {host : Host} {id} {next : Unit → Service β}
    (rest : ∀ mid : Runtime, mid.registry = s.registry → Ends (next ()) mid post failed) :
    Ends (host.discard id >>= next) s post failed := by
  refine .andThen (.attempts ?_ ?_)
  · intro a mid ran
    split at ran <;> cases ran <;> exact rest _ rfl
  · intro e ran
    split at ran <;> cases ran

theorem convergeWithReports {target s} : Ends (convergeWith adapter host target) s (fun result mid => mid.registry = s.registry ∧
        (result.outcome.state = .healthy ∧ result.containerId.isSome ∨
          result.outcome.state = .failed ∧ result.containerId = none)) (fun _ mid => mid.registry = s.registry) := by
  have stopped : ∀ e : ApplicationDeliveryError, (fun _ mid => Runtime.registry mid = s.registry) e s := fun _ => rfl
  refine imageThen stopped (askThen stopped (fun _ => askThen stopped (fun _ => ?_)))
  refine createThen stopped (fun id made => ?_)
  split
  · exact discardKeeps (fun mid same => .fails same)
  · split
    · exact .fails rfl
    · rename_i outcome polled
      have final : outcome.Final := pollFinal (.inr rfl) polled
      refine .branch (fun other => discardKeeps (fun mid same => .returns ⟨same,.inr ⟨?_,rfl⟩⟩))
        (fun well => .returns ⟨rfl,.inl ⟨not_not.mp well,rfl⟩⟩)
      exact final.resolve_left other

theorem convergeRecords (adapter) (host) (target) {s} : Ends (convergeAndRecord adapter host target) s (fun result mid =>
        (result.outcome.state = .healthy ∧ ∃ id, mid.registry = s.registry.insert ⟨target,id⟩) ∨
        (result.outcome.state = .failed ∧ mid.registry = s.registry)) (fun _ mid => mid.registry = s.registry) := by
  refine .andThen (.gives convergeWithReports ?_)
  rintro result mid ⟨same,reported⟩
  cases returned : result.containerId with
  | none =>
    simp only [returned,Option.isSome_none,Bool.false_eq_true,and_false,false_or,and_true] at reported
    exact .returns (.inr ⟨reported,same⟩)
  | some id =>
    simp only [returned,reduceCtorEq,and_false,or_false,Option.isSome_some,and_true] at reported
    refine .andThen (.attempts ?_ nofun)
    rintro retired next replaced
    cases replaced
    have inserted : (mid.registry.replace target id).2 = s.registry.insert ⟨target,id⟩ := by rw [same]; rfl
    split
    · exact .returns (.inl ⟨reported,id,inserted⟩)
    · exact discardKeeps (fun last kept => .returns (.inl ⟨reported,id,kept.trans inserted⟩))

theorem convergedRegistry {adapter host target p outcome next}
    (ran : exec (converge adapter host target) p = (.ok outcome,next)) :
    (outcome.state = .healthy ∧ ∃ id, next.runtime.registry = p.runtime.registry.insert ⟨target,id⟩) ∨
    (outcome.state = .failed ∧ next.runtime.registry = p.runtime.registry) := by
  have recorded := @convergeRecords adapter host target p.runtime
  unfold Ends at recorded
  obtain ⟨returned,state⟩ := Prod.mk.inj ran
  subst state
  split at recorded
  · rename_i result mid same
    rw [same] at returned ⊢
    cases returned
    exact recorded
  · rename_i e mid same
    rw [same] at returned
    cases returned

theorem targetForFields {release environment target} (bound : targetFor release environment = .ok target) :
    target.environmentId = environment.id ∧ target.releaseId = release.id ∧ target.digest = release.digest.value := by
  unfold targetFor at bound
  split at bound
  · cases bound
  · unfold ConvergeTarget.new at bound
    split at bound <;> cases bound
    exact ⟨rfl,rfl,rfl⟩

def deployed (adapter : DockerRuntimeAdapter) (environment : Environment) (p : Provider) (d : Release × Host) :
    Option Provider :=
  match exec (deploy adapter d.2 d.1 environment) p with
  | (.ok outcome,next) => if outcome.state = .healthy then some next else none
  | (.error _,_) => none

theorem deployedInserts (ran : deployed adapter environment p d = some next) :
    ∃ target id, targetFor d.1 environment = .ok target ∧ next.runtime.registry = p.runtime.registry.insert ⟨target,id⟩ := by
  unfold deployed deploy at ran
  rw [execBind,execReads] at ran
  cases bound : targetFor d.1 environment with
  | error e => simp [bound] at ran
  | ok target =>
    simp only [bound] at ran
    split at ran <;> try contradiction
    rename_i outcome after done
    split at ran <;> cases ran
    rename_i well
    rcases convergedRegistry done with ⟨_,id,inserted⟩ | ⟨unwell,_⟩
    · exact ⟨target,id,rfl,inserted⟩
    · exact absurd (well.symm.trans unwell) nofun

def Elsewhere (environment : Environment) (start p : Provider) : Prop :=
  ∀ e : Converged, e.environmentId ≠ environment.id →
    (e ∈ p.runtime.registry.converged ↔ e ∈ start.runtime.registry.converged)

theorem deployedElsewhere (kept : Elsewhere environment start p) (ran : deployed adapter environment p d = some next) :
    Elsewhere environment start next := by
  obtain ⟨target,id,bound,inserted⟩ := deployedInserts ran
  have into := (targetForFields bound).1
  intro e other
  rw [inserted,memInsert,← kept e other,and_iff_left (fun same => other (same.trans into))]
  exact or_iff_left (fun same => other (by rw [same]; exact into))

theorem deploysRegistry (run : Run (deployed adapter environment) free p deploys last) (final : deploys.getLast? = some newest) :
    ∃ target id, targetFor newest.1 environment = .ok target ∧ ∀ e, e ∈ last.runtime.registry.converged ↔
      (e ∈ p.runtime.registry.converged ∧ e.environmentId ≠ environment.id) ∨ e = ⟨target,id⟩ := by
  obtain ⟨before,first,_,ran⟩ := run.lastStep final
  have kept : Elsewhere environment p before :=
    first.keeps (fun _ _ _ held _ step => deployedElsewhere held step) (fun _ _ => .rfl)
  obtain ⟨target,id,bound,inserted⟩ := deployedInserts ran
  refine ⟨target,id,bound,fun e => ?_⟩
  rw [inserted,memInsert,show (⟨target,id⟩ : Converged).environmentId = environment.id from (targetForFields bound).1]
  exact or_congr_left (and_congr_left (kept e))

theorem deployedBound (run : Run (deployed adapter environment) free p deploys last) (mem : d ∈ deploys) :
    ∃ target, targetFor d.1 environment = .ok target := by
  induction run with
  | nil => cases mem
  | cons _ ran _ ih =>
    rcases List.mem_cons.mp mem with rfl | later
    · obtain ⟨target,_,bound,_⟩ := deployedInserts ran
      exact ⟨target,bound⟩
    · exact ih later

-- Of the entries with the release the search meets the one of the lowest environment id first.
theorem byReleaseLowest {registry : ConvergeRegistry} : registry.byRelease releaseId = some target ↔
    ∃ e ∈ registry.converged, e.target = target ∧ e.target.releaseId = releaseId ∧
      ∀ f ∈ registry.converged, f.target.releaseId = releaseId → e.environmentId ≤ f.environmentId := by
  have total : Std.Total (fun a b : Converged => a.environmentId ≤ b.environmentId) := ⟨fun _ _ => BitVec.le_total _ _⟩
  have trans : IsTrans Converged (fun a b => a.environmentId ≤ b.environmentId) := ⟨fun _ _ _ => BitVec.le_trans⟩
  have lowest : ∀ e, (registry.converged.insertionSort (fun a b => a.environmentId ≤ b.environmentId)).find?
      (fun c => c.target.releaseId == releaseId) = some e → e ∈ registry.converged ∧ e.target.releaseId = releaseId ∧
        ∀ f ∈ registry.converged, f.target.releaseId = releaseId → e.environmentId ≤ f.environmentId := by
    intro e found
    obtain ⟨hit,front,back,split,missed⟩ := List.find?_eq_some_iff_append.mp found
    refine ⟨(List.mem_insertionSort _).mp (List.mem_of_find?_eq_some found),by simpa using hit,fun f mem same => ?_⟩
    have sorted := split ▸ List.pairwise_insertionSort (fun a b : Converged => a.environmentId ≤ b.environmentId) registry.converged
    rw [← List.mem_insertionSort (fun a b : Converged => a.environmentId ≤ b.environmentId),split,List.mem_append,List.mem_cons] at mem
    rcases mem with earlier | rfl | later
    · simpa [same] using missed f earlier
    · exact BitVec.le_refl _
    · exact List.rel_of_pairwise_cons (List.pairwise_append.mp sorted).2.1 later
  unfold ConvergeRegistry.byRelease
  rw [Option.map_eq_some_iff]
  constructor
  · rintro ⟨e,found,same⟩
    obtain ⟨mem,rest⟩ := lowest e found
    exact ⟨e,mem,same,rest⟩
  · rintro ⟨e,mem,same,hit,least⟩
    refine ⟨e,?_,same⟩
    cases found : (registry.converged.insertionSort (fun a b => a.environmentId ≤ b.environmentId)).find?
        (fun c => c.target.releaseId == releaseId) with
    | none => exact absurd (List.find?_eq_none.mp found e ((List.mem_insertionSort _).mpr mem)) (by simpa using hit)
    | some f =>
      obtain ⟨among,named,below⟩ := lowest f found
      rw [Rows.equalOfKey registry.unique among mem (BitVec.le_antisymm (below e mem hit) (least f among named))]

theorem byReleaseNone {registry : ConvergeRegistry}
    (absent : ∀ e ∈ registry.converged, e.target.releaseId ≠ releaseId) : registry.byRelease releaseId = none := by
  refine Option.eq_none_iff_forall_ne_some.mpr (fun target found => ?_)
  obtain ⟨e,mem,_,hit,_⟩ := byReleaseLowest.mp found
  exact absent e mem hit

theorem rollbackRetained (adapter : DockerRuntimeAdapter) (environment : Environment) {p deploys last newest}
    (run : Run (deployed adapter environment) free p deploys last) (final : deploys.getLast? = some newest) (release : Release) :
    (∃ target, last.runtime.registry.byRelease release.id = some target ∧ target.environmentId = environment.id ∧
      target.digest = release.digest.value ∧ ∀ current ∈ deploys, ∀ host,
        exec (rollback adapter host current.1 environment release.id) last = exec (converge adapter host target) last) ↔
    newest.1.id = release.id ∧ newest.1.digest.value = release.digest.value ∧
      ∀ e ∈ p.runtime.registry.converged, e.target.releaseId = release.id → environment.id ≤ e.environmentId := by
  obtain ⟨target,id,bound,entries⟩ := deploysRegistry run final
  obtain ⟨into,named,digest⟩ := targetForFields bound
  constructor
  · rintro ⟨found,search,here,same,_⟩
    obtain ⟨e,inside,rfl,hit,least⟩ := byReleaseLowest.mp search
    rcases (entries e).mp inside with ⟨_,elsewhere⟩ | rfl
    · exact absurd here elsewhere
    · refine ⟨named.symm.trans hit,digest.symm.trans same,fun f old other => ?_⟩
      by_cases own : f.environmentId = environment.id
      · exact own ▸ BitVec.le_refl _
      · exact here ▸ least f ((entries f).mpr (.inl ⟨old,own⟩)) other
  · rintro ⟨again,same,lowest⟩
    have found : last.runtime.registry.byRelease release.id = some target := by
      refine byReleaseLowest.mpr ⟨⟨target,id⟩,(entries _).mpr (.inr rfl),rfl,named.trans again,fun f among hit => ?_⟩
      rcases (entries f).mp among with ⟨old,_⟩ | rfl
      · have below := lowest f old hit
        rwa [← into] at below
      · exact BitVec.le_refl _
    refine ⟨target,found,into,digest.trans same,fun current among host => ?_⟩
    obtain ⟨own,accepted⟩ := deployedBound run among
    have stays : target.environmentId = own.environmentId := into.trans (targetForFields accepted).1.symm
    have chosen : rollbackTarget last.runtime.registry current.1 environment release.id = .ok target := by
      simp [rollbackTarget,accepted,found,stays,bind,Except.bind]
    simp only [rollback,execBind,execReads,chosen]

def production : Environment := ⟨2,1,.production,"production",1,prodSecrets,0,none⟩

def source : ApplicationSource := ⟨.git,"forge:shop","0123456",by decide⟩

def built (id : Uuid) : Release :=
  Release.new id 1 production.id
    ⟨"sha256:0123456789abcdef0123456789abcdef0123456789abcdef0123456789abcdef",0,by decide⟩ source 0 none

def Provider.new : Provider := ⟨Runtime.empty,[]⟩

def redeployed : List (Release × Host) :=
  [(built 3,running "c1"),(built 4,running "c2"),(built 3,running "c3")]

theorem redeploys : ∃ last, Run (deployed runtimeAdapter production) free Provider.new redeployed last := by
  have computed : (replay (deployed runtimeAdapter production) free Provider.new redeployed).isSome = true := by
    decide +kernel
  obtain ⟨last,ran⟩ := Option.isSome_iff_exists.mp computed
  exact ⟨last,replaySound ran⟩

theorem rollbackRetainedRedeployed : ∃ last,
    Run (deployed runtimeAdapter production) free Provider.new redeployed last ∧
    ∃ target, last.runtime.registry.byRelease 3 = some target ∧ target.environmentId = production.id ∧
      target.digest = (built 3).digest.value ∧ ∀ current ∈ redeployed, ∀ host,
        exec (rollback runtimeAdapter host current.1 production 3) last = exec (converge runtimeAdapter host target) last := by
  obtain ⟨last,run⟩ := redeploys
  refine ⟨last,run,?_⟩
  exact (rollbackRetained runtimeAdapter production run rfl (built 3)).mpr ⟨rfl,rfl,fun _ mem => absurd mem List.not_mem_nil⟩

theorem rollbackRefused : ∃ last,
    Run (deployed runtimeAdapter production) free Provider.new [(built 3,running "c1"),(built 4,running "c2")] last ∧
    last.runtime.registry.byRelease 3 = none ∧
    exec (rollback runtimeAdapter (running "c3") (built 4) production 3) last =
      (.error (.illegalTransition "rollback target release was never converged by this provider"),last) := by
  obtain ⟨_,run⟩ := redeploys
  obtain ⟨last,twice,_,_⟩ := run.lastStep rfl
  obtain ⟨target,id,bound,entries⟩ := deploysRegistry twice rfl
  have missing : last.runtime.registry.byRelease 3 = none := by
    refine byReleaseNone (fun e among => ?_)
    rcases (entries e).mp among with ⟨old,_⟩ | rfl
    · exact absurd old List.not_mem_nil
    · rw [(targetForFields bound).2.1]
      decide
  refine ⟨last,twice,missing,?_⟩
  simp only [rollback,execBind,execReads,rollbackTarget,missing]
  rfl

end OpenPanel.Delivery
