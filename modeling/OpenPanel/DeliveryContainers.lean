import OpenPanel.DockerRuntime
import OpenPanel.GuardedRun

/-! The containers delivery leaves on the host. Every exit of a converge records
or discards the container it created, but one: a poll that cannot inspect the
container returns at once, and nothing refers to the container any more. As long
as no poll fails, the containers are those the registry holds. -/
namespace OpenPanel.Delivery
open Fallible GuardedRun

structure Tracked (s : Runtime) : Prop where
  held : ∀ id, (∃ c ∈ s.containers, c.id = id) ↔ id ≠ "" ∧ ∃ e ∈ s.registry.converged, e.containerId = id
  single : ∀ e ∈ s.registry.converged, ∀ f ∈ s.registry.converged, e.containerId ≠ "" →
    e.containerId = f.containerId → e = f

def removes (_ : Runtime) (call : ConvergeTarget × Host) : Prop := call.2.remove = .ok ()

instance (s call) : Decidable (removes s call) := by unfold removes; infer_instance

def inspects (adapter : DockerRuntimeAdapter) (s : Runtime) (call : ConvergeTarget × Host) : Prop :=
  removes s call ∧ ∀ poll < max adapter.healthPolls 1, (call.2.inspect poll).isOk = true

instance (adapter s call) : Decidable (inspects adapter s call) := by unfold inspects; infer_instance

section Ports

variable {failed : ApplicationDeliveryError → Runtime → Prop}

theorem askThen (stopped : ∀ e, failed e s)
    (rest : ∀ a, Ends (next a) s post failed) : Ends (ask report answer >>= next) s post failed := by
  refine .andThen (.attempts ?_ (fun e _ => stopped e))
  intro a mid ran
  split at ran <;> cases ran
  exact rest a

theorem createThen {host : Host} (stopped : ∀ e, failed e s) (rest : ∀ id, host.create = .ok id →
      Ends (next id) {s with containers := s.containers ++ [⟨id,spec,labels⟩]} post failed) :
    Ends (host.createLabeled spec labels >>= next) s post failed := by
  refine .andThen (.attempts ?_ (fun e _ => stopped e))
  intro id mid ran
  split at ran <;> cases ran
  rename_i made
  exact rest id made

theorem discardThen {host : Host} {id} (removed : host.remove = .ok ())
    (rest : Ends (next ()) {s with containers := Rows.delete Container.id id s.containers} post failed) :
    Ends (host.discard id >>= next) s post failed := by
  refine .andThen (.attempts ?_ ?_) <;> simp only [removed]
  · intro a mid ran
    cases ran
    exact rest
  · nofun

theorem imageThen {host : Host} (stopped : ∀ e, failed e s)
    (rest : Ends (next ()) s post failed) : Ends (host.ensureImage digest >>= next) s post failed := by
  refine .andThen (askThen stopped (fun present => ?_))
  refine .branch (fun _ => .returns rest) (fun _ => askThen stopped (fun pulled => ?_))
  exact .branch (fun _ => .fails (stopped _)) (fun _ => .returns rest)

end Ports

theorem pollReturns {host : Host} {redact left attempt outcome}
    (answers : ∀ poll < attempt + left, (host.inspect poll).isOk = true) :
    ∃ last, host.poll redact left attempt outcome = .ok last := by
  induction left generalizing attempt outcome with
  | zero => exact ⟨outcome,rfl⟩
  | succ left ih =>
    have here := answers attempt (by omega)
    simp only [Host.poll]
    cases state : host.inspect attempt with
    | error e => simp [state,Except.isOk,Except.toBool] at here
    | ok state =>
      simp only
      split
      · exact ⟨_,rfl⟩
      · exact ih (fun poll less => answers poll (by omega))

theorem convergeWithEnds {target s} (fresh : host.Fresh s) (allowed : inspects adapter s (target,host)) :
    Ends (convergeWith adapter host target) s
      (fun result mid => match result.containerId with
        | none => mid = s
        | some id => host.create = .ok id ∧
            ∃ c : Container, c.id = id ∧ mid = {s with containers := s.containers ++ [c]})
      (fun _ mid => mid = s) := by
  have stopped : ∀ e : ApplicationDeliveryError, (fun _ mid => mid = s) e s := fun _ => rfl
  obtain ⟨outcome,polled⟩ : ∃ outcome, host.awaitTerminalState adapter.redact adapter.healthPolls = .ok outcome :=
    pollReturns (fun poll less => allowed.2 poll (by omega))
  refine imageThen stopped (askThen stopped (fun _ => askThen stopped (fun _ => ?_)))
  refine createThen stopped (fun id made => ?_)
  let created : Container := ⟨id,target.containerSpec (target.imageReference adapter.registryNamespace),target.labels⟩
  have discarded : Rows.delete Container.id id (s.containers ++ [created]) = s.containers :=
    Rows.deleteInserted (r := created) (fresh id made).2
  split
  · exact discardThen allowed.1 (.fails (by rw [discarded]))
  · simp only [polled]
    refine .branch (fun _ => discardThen allowed.1 (.returns ?_)) (fun _ => .returns ?_)
    · rw [discarded]
    · exact ⟨made,created,rfl,rfl⟩

theorem findNone {registry : ConvergeRegistry} (none : registry.find environmentId = none) :
    ∀ e ∈ registry.converged, e.environmentId ≠ environmentId := by
  intro e mem same
  exact List.find?_eq_none.mp none e mem (by simpa using same)

theorem findSome {registry : ConvergeRegistry} (found : registry.find environmentId = some e) :
    e ∈ registry.converged ∧ e.environmentId = environmentId :=
  Rows.found found

theorem memInsert {registry : ConvergeRegistry} : e ∈ (registry.insert entry).converged ↔
      (e ∈ registry.converged ∧ e.environmentId ≠ entry.environmentId) ∨ e = entry := by
  simp only [ConvergeRegistry.insert,List.mem_append,Rows.memDelete,List.mem_singleton]

section Replace

variable {c : Container}

theorem freshEntry (tracked : Tracked s) (named : c.id ≠ "") (fresh : ∀ d ∈ s.containers, d.id ≠ c.id)
    (mem : e ∈ s.registry.converged) : e.containerId ≠ c.id := by
  intro same
  obtain ⟨d,inside,equal⟩ := (tracked.held e.containerId).mpr ⟨same ▸ named,e,mem,rfl⟩
  exact fresh d inside (equal.trans same)

theorem insertSingle (tracked : Tracked s) (named : c.id ≠ "") (fresh : ∀ d ∈ s.containers, d.id ≠ c.id)
    (left : e ∈ (s.registry.insert ⟨target,c.id⟩).converged)
    (right : f ∈ (s.registry.insert ⟨target,c.id⟩).converged) (backed : e.containerId ≠ "")
    (same : e.containerId = f.containerId) : e = f := by
  rcases memInsert.mp left with ⟨old,_⟩ | rfl <;> rcases memInsert.mp right with ⟨old',_⟩ | rfl
  · exact tracked.single e old f old' backed same
  · exact absurd same (freshEntry tracked named fresh old)
  · exact absurd same.symm (freshEntry tracked named fresh old')
  · rfl

theorem trackedFirst (tracked : Tracked s) (named : c.id ≠ "") (fresh : ∀ d ∈ s.containers, d.id ≠ c.id)
    (none : s.registry.find target.environmentId = none) :
    Tracked ⟨s.containers ++ [c],s.registry.insert ⟨target,c.id⟩⟩ where
  held id := by
    constructor
    · rintro ⟨d,mem,rfl⟩
      rcases List.mem_append.mp mem with old | new
      · obtain ⟨backed,e,inside,same⟩ := (tracked.held d.id).mp ⟨d,old,rfl⟩
        exact ⟨backed,e,memInsert.mpr (.inl ⟨inside,findNone none e inside⟩),same⟩
      · cases List.mem_singleton.mp new
        exact ⟨named,_,memInsert.mpr (.inr rfl),rfl⟩
    · rintro ⟨backed,e,mem,rfl⟩
      rcases memInsert.mp mem with ⟨old,_⟩ | rfl
      · obtain ⟨d,inside,same⟩ := (tracked.held e.containerId).mpr ⟨backed,e,old,rfl⟩
        exact ⟨d,List.mem_append_left _ inside,same⟩
      · exact ⟨c,List.mem_append_right _ List.mem_cons_self,rfl⟩
  single _ left _ right := insertSingle tracked named fresh left right

theorem trackedNext (tracked : Tracked s) (named : c.id ≠ "") (fresh : ∀ d ∈ s.containers, d.id ≠ c.id)
    (found : s.registry.find target.environmentId = some previous) :
    Tracked ⟨Rows.delete Container.id previous.containerId (s.containers ++ [c]),
      s.registry.insert ⟨target,c.id⟩⟩ where
  held id := by
    obtain ⟨inside,environment⟩ := findSome found
    constructor
    · rintro ⟨d,mem,rfl⟩
      obtain ⟨mem,kept⟩ := Rows.memDelete.mp mem
      rcases List.mem_append.mp mem with old | new
      · obtain ⟨backed,e,entry,same⟩ := (tracked.held d.id).mp ⟨d,old,rfl⟩
        refine ⟨backed,e,memInsert.mpr (.inl ⟨entry,fun sameEnvironment => kept ?_⟩),same⟩
        rw [← same,Rows.equalOfKey s.registry.unique entry inside (sameEnvironment.trans environment.symm)]
      · cases List.mem_singleton.mp new
        exact ⟨named,_,memInsert.mpr (.inr rfl),rfl⟩
    · rintro ⟨backed,e,mem,rfl⟩
      rcases memInsert.mp mem with ⟨old,other⟩ | rfl
      · obtain ⟨d,exists',same⟩ := (tracked.held e.containerId).mpr ⟨backed,e,old,rfl⟩
        refine ⟨d,Rows.memDelete.mpr ⟨List.mem_append_left _ exists',fun retired => other ?_⟩,same⟩
        rw [tracked.single e old previous inside backed (same.symm.trans retired)]
        exact environment
      · exact ⟨c,Rows.memDelete.mpr ⟨List.mem_append_right _ List.mem_cons_self,
          (freshEntry tracked named fresh inside).symm⟩,rfl⟩
  single _ left _ right := insertSingle tracked named fresh left right

end Replace

theorem convergeTracked (tracked : Tracked s) (fresh : host.Fresh s) (allowed : inspects adapter s (target,host)) :
    Leaves (convergeAndRecord adapter host target) s Tracked := by
  refine .andThen (.weaken (convergeWithEnds fresh allowed) ?_ (fun _ mid same => same ▸ tracked))
  intro result mid after
  cases returned : result.containerId with
  | none =>
    simp only [returned] at after
    exact .returns (after ▸ tracked)
  | some id =>
    simp only [returned] at after
    obtain ⟨made,c,rfl,rfl⟩ := after
    obtain ⟨named,unused⟩ := fresh c.id made
    refine .andThen (.attempts ?_ nofun)
    rintro retired next replaced
    cases replaced
    cases found : s.registry.find target.environmentId with
    | none =>
      simp only [ConvergeRegistry.replace,found]
      exact .returns (trackedFirst tracked named unused found)
    | some previous =>
      have different : (previous.containerId != c.id) = true :=
        bne_iff_ne.mpr (freshEntry tracked named unused (findSome found).1)
      simp only [ConvergeRegistry.replace,found,Option.filter_some,different,if_true,Option.map_some]
      exact discardThen allowed.1 (.returns (trackedNext tracked named unused found))

theorem fireTracked (tracked : Tracked s)
    (allowed : inspects adapter s call) (fired : fire adapter s call = some next) : Tracked next := by
  unfold fire at fired
  split at fired <;> cases fired
  rename_i fresh
  exact Ends.always (convergeTracked tracked fresh allowed)

theorem containersHeld (adapter : DockerRuntimeAdapter) {start calls last}
    (run : Run (fire adapter) (inspects adapter) start calls last) (bare : start.containers = [])
    (unbacked : ∀ e ∈ start.registry.converged, e.containerId = "") : Tracked last := by
  refine run.keeps (fun _ _ _ tracked allowed fired => fireTracked tracked allowed fired) ⟨fun id => ?_,?_⟩
  · rw [bare]
    constructor
    · rintro ⟨c,mem,_⟩
      cases mem
    · rintro ⟨named,e,mem,same⟩
      exact absurd (same.symm.trans (unbacked e mem)) named
  · intro e mem f _ backed
    exact absurd (unbacked e mem) backed

def release (version : Uuid) : ConvergeTarget :=
  ⟨1,2,"shop","production",version,"sha256:0123456789abcdef0123456789abcdef0123456789abcdef0123456789abcdef",by decide⟩

def running (id : String) : Host :=
  ⟨.ok true,.error (.adapter "not asked"),.ok (),.ok id,.ok (),fun _ => .ok ⟨"running",false,none⟩,.ok ()⟩

def silent (id : String) : Host := {running id with inspect := fun _ => .error (.adapter "timeout")}

def runtimeAdapter : DockerRuntimeAdapter := {redact := fun text => text, registryNamespace := "registry.local/apps"}

def Runtime.empty : Runtime := ⟨[],ConvergeRegistry.new⟩

def Runtime.ids (s : Runtime) : List String × List String :=
  (s.containers.map Container.id,s.registry.converged.map Converged.containerId)

theorem containerLeaked : ∃ last, Run (fire runtimeAdapter) removes Runtime.empty [(release 3,silent "c1")] last ∧
    last.containers.map Container.id = ["c1"] ∧ last.registry.converged = [] := replayShows _ _ _ _ _ (by decide +kernel)

def released : List (ConvergeTarget × Host) :=
  [(release 3,running "c1"),(release 4,{running "c2" with start := .error (.adapter "no space")}),
    (release 4,running "c3")]

def Runtime.announced : Runtime := ⟨[],ConvergeRegistry.new.record (release 2)⟩

theorem containersHeldReleased : ∃ last,
    Run (fire runtimeAdapter) (inspects runtimeAdapter) Runtime.announced released last ∧ Tracked last ∧
    last.ids = (["c3"],["c3"]) := by
  have unbacked : ∀ e ∈ Runtime.announced.registry.converged, e.containerId = "" := by decide
  obtain ⟨last,run,shown⟩ := replayShows (fire runtimeAdapter) (inspects runtimeAdapter) Runtime.announced released
    (fun last => last.ids = (["c3"],["c3"])) (by decide +kernel)
  exact ⟨last,run,containersHeld runtimeAdapter run rfl unbacked,shown⟩

end OpenPanel.Delivery
