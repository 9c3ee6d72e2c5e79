import OpenPanel.GuardedRun
import OpenPanel.ServiceCatalog

/-! What catalog jobs ask of the provisioner, and what a failed upgrade leaves
installed. A job asks for its own release only, at least once, and ends by its retry
rule. A failed upgrade without the rollback policy leaves both plans of the entry alone. -/
namespace OpenPanel.Catalog
open OpenPanel.Identity (Role)

def Request.release? : Request → Option Release
  | .install release => some release
  | _ => none

def installs (w after : World) : List Release := (after.log.drop w.log.length).filterMap Request.release?

def Asked (only : Request → Prop) (w after : World) : Prop :=
  ∃ requests, after.log = w.log ++ requests ∧ ∀ request ∈ requests, only request

theorem Asked.nothing (log : after.log = w.log) : Asked only w after := ⟨[],by simpa using log,by simp⟩

theorem Asked.trans (first : Asked only w middle) (second : Asked only middle after) : Asked only w after := by
  obtain ⟨left,before,leftOnly⟩ := first
  obtain ⟨right,behind,rightOnly⟩ := second
  refine ⟨left ++ right,by rw [behind,before,List.append_assoc],fun request mem => ?_⟩
  exact (List.mem_append.mp mem).elim (leftOnly request) (rightOnly request)

theorem Asked.weaken (asked : Asked only w after) (implied : ∀ request, only request → weaker request) : Asked weaker w after := by
  obtain ⟨requests,log,each⟩ := asked
  exact ⟨requests,log,fun request mem => implied request (each request mem)⟩

theorem installsOf (log : after.log = w.log ++ requests) : installs w after = requests.filterMap Request.release? := by
  simp [installs,log]

theorem Asked.installs {good : Release → Prop} (asked : Asked (fun request => ∀ release ∈ request.release?, good release) w after) :
    ∀ release ∈ installs w after, good release := by
  obtain ⟨requests,log,each⟩ := asked
  intro release mem
  rw [installsOf log] at mem
  obtain ⟨request,inside,same⟩ := List.mem_filterMap.mp mem
  exact each request inside release same

structure Kept (only : Request → Prop) (w after : World) : Prop where
  entries : after.state.entries = w.state.entries
  revocations : after.state.revocations = w.state.revocations
  log : Asked only w after

theorem Kept.refl (w) : Kept only w w := ⟨rfl,rfl,.nothing rfl⟩

theorem Kept.trans (first : Kept only w middle) (second : Kept only middle after) : Kept only w after :=
  ⟨second.entries.trans first.entries,second.revocations.trans first.revocations,first.log.trans second.log⟩

theorem Kept.ask (allowed : only request) : Kept only w (w.ask request) :=
  ⟨rfl,rfl,[request],rfl,by simpa using allowed⟩

theorem Kept.insertJob (kept : Kept only w after) (job) : Kept only w {after with state := after.state.insertJob job} :=
  ⟨kept.entries,kept.revocations,kept.log⟩

theorem installsSelf (w) : installs w w = [] := by simp [installs]

section Jobs

variable (env : Env) (provisioner : Provisioner) (attempt : World → World × Except VerifiedServiceCatalogError Bool)
theorem probeKept (allowed : only (.healthCheck entryId)) (probes) (w) : Kept only w (probeHealth provisioner entryId probes w).1 := by
  induction probes generalizing w with
  | zero => exact .refl w
  | succ probes ih =>
    rw [probeHealth]
    split
    · exact .ask allowed
    · exact (Kept.ask allowed).trans (ih _)

theorem provisionKept (release) (manifest) (probes : only (.healthCheck entryId)) (w) :
    Kept only (w.ask (.install release)) (provision provisioner release manifest entryId w).1 := by
  unfold provision
  split
  · exact .refl _
  · exact probeKept provisioner probes _ _

def ServiceJob.unfinished (job : ServiceJob) : Prop := job.outcome = .pending ∨ job.outcome = .failed

theorem startUnfinished {job : ServiceJob} (unfinished : job.unfinished) :
    job.start = .ok {job with outcome := .running,attempts := job.attempts + 1} := by
  rcases unfinished with pending | failed
  · simp [ServiceJob.start,ServiceJob.transitionTo,pending,serviceJobTransitionAllowed,Except.map]
  · simp [ServiceJob.start,ServiceJob.transitionTo,failed,serviceJobTransitionAllowed,Except.map]

inductive Turn (job : ServiceJob) (tried : World) (rest : ServiceJob → World × Outcome ServiceJob) :
    World × Outcome ServiceJob → Prop where
  | settled (done) (ended : done.outcome = .succeeded ∨ done.outcome = .failed) (spent : done.canRetry = false) :
      Turn job tried rest (tried,.ok done)
  | again (failed) (open_ : failed.unfinished) (retry : failed.canRetry = true)
      (counted : failed.attempts = job.attempts + 1) (same : failed.maxAttempts = job.maxAttempts) :
      Turn job tried rest (rest failed)

theorem triesTurn (left) (w) (unfinished : job.unfinished) :
    Turn job (attempt w).1 (fun failed => tries env attempt left failed (attempt w).1) (tries env attempt (left + 1) job w) := by
  have failing : ∀ failed : ServiceJob, failed.outcome = .failed → failed.attempts = job.attempts + 1 →
      failed.maxAttempts = job.maxAttempts → Turn job (attempt w).1 (fun failed => tries env attempt left failed (attempt w).1)
        (if failed.canRetry then tries env attempt left failed (attempt w).1 else ((attempt w).1,.ok failed)) := by
    intro failed ended counted same
    split
    · rename_i retry
      exact .again _ (.inr ended) retry counted same
    · rename_i spent
      exact .settled _ (.inr ended) (by simpa using spent)
  rw [tries,startUnfinished unfinished]
  dsimp only
  split
  · exact .settled _ (.inl rfl) rfl
  · exact failing _ rfl rfl rfl
  · exact failing _ rfl rfl rfl

theorem triesEnd (left) (w) (unfinished : job.unfinished) (budget : job.attempts + left = job.maxAttempts) (positive : 0 < left) :
    ∃ done, (tries env attempt left job w).2 = .ok done ∧ (done.outcome = .succeeded ∨ done.outcome = .failed) ∧
      done.canRetry = false := by
  induction left generalizing job w with
  | zero => omega
  | succ left ih =>
    have turn := triesTurn env attempt left w unfinished
    generalize tries env attempt (left + 1) job w = result at turn
    cases turn with
    | settled done ended spent => exact ⟨done,rfl,ended,spent⟩
    | again failed open_ retry counted same =>
      have more : failed.attempts < failed.maxAttempts := by
        simp only [ServiceJob.canRetry,Bool.and_eq_true,decide_eq_true_eq] at retry
        exact retry.2
      exact ih _ open_ (by omega) (by omega)

theorem triesRelated {R : World → World → Prop} (refl : ∀ w, R w w) (trans : ∀ a b c, R a b → R b c → R a c)
    (each : ∀ w, R w (attempt w).1) (unfinished : job.unfinished) : R w (tries env attempt left job w).1 := by
  induction left generalizing job w with
  | zero => exact refl w
  | succ left ih =>
    have turn := triesTurn env attempt left w unfinished
    generalize tries env attempt (left + 1) job w = result at turn
    cases turn with
    | settled => exact each w
    | again failed open_ => exact trans _ _ _ (each w) (ih open_)

theorem runJobRelated (each : ∀ w, Kept only w (attempt w).1) (manifest) (phase) (jobId) (w) :
    Kept only (attempt w).1 (runJob env manifest phase jobId attempt w).1 ∧
      ∃ job, (runJob env manifest phase jobId attempt w).2 = .ok job ∧ (job.outcome = .succeeded ∨ job.outcome = .failed) := by
  obtain ⟨left,more⟩ : ∃ left, manifest.upgrade.count = left + 1 := ⟨_,(Nat.sub_add_cancel manifest.upgrade.least).symm⟩
  have fresh : (ServiceJob.begin jobId manifest.id phase manifest.upgrade.count).unfinished := .inl rfl
  obtain ⟨done,ok,ended,_⟩ := triesEnd env attempt (left + 1) w fresh
    (by simp [ServiceJob.begin,more]) (by omega)
  have behind : Kept only (attempt w).1
      (tries env attempt (left + 1) (.begin jobId manifest.id phase manifest.upgrade.count) w).1 := by
    have turn := triesTurn env attempt left w fresh
    generalize tries env attempt (left + 1) (.begin jobId manifest.id phase manifest.upgrade.count) w = result at turn
    cases turn with
    | settled => exact .refl _
    | again failed open_ => exact triesRelated env attempt Kept.refl (fun _ _ _ => Kept.trans) each open_
  unfold runJob
  rw [← more] at ok behind
  generalize tries env attempt manifest.upgrade.count (.begin jobId manifest.id phase manifest.upgrade.count) w = result at ok behind
  obtain ⟨last,answer⟩ := result
  cases ok
  exact ⟨behind.insertJob done,done,rfl,ended⟩

structure Provisioned (release : Release) (w after : World) : Prop where
  entries : after.state.entries = w.state.entries
  first : ∃ requests, after.log = w.log ++ .install release::requests
  only : ∀ other ∈ installs w after, other = release

theorem provisioned (kept : Kept (fun request => ∀ other ∈ request.release?, other = release) (w.ask (.install release)) after) :
    Provisioned release w after := by
  have whole : Kept (fun request => ∀ other ∈ request.release?, other = release) w after :=
    (Kept.ask (by simp [Request.release?])).trans kept
  obtain ⟨requests,log,_⟩ := kept.log
  exact ⟨kept.entries,⟨requests,by simpa [World.ask] using log⟩,whole.log.installs⟩

theorem Provisioned.asked (done : Provisioned release w after) : release ∈ installs w after := by
  obtain ⟨requests,log⟩ := done.first
  rw [installsOf log]
  simp [Request.release?]

theorem runJobProvisions (release) (manifest other) (entryId) (phase) (jobId) (w) :
    Provisioned release w (runJob env manifest phase jobId (provision provisioner release other entryId) w).1 ∧
      ∃ job, (runJob env manifest phase jobId (provision provisioner release other entryId) w).2 = .ok job ∧
        (job.outcome = .succeeded ∨ job.outcome = .failed) := by
  have probes : ∀ o ∈ (Request.healthCheck entryId).release?, o = release := by simp [Request.release?]
  have first : ∀ w, Kept (fun request => ∀ o ∈ request.release?, o = release) (w.ask (.install release))
      (provision provisioner release other entryId w).1 := fun w => provisionKept provisioner release other probes w
  have each : ∀ w, Kept (fun request => ∀ o ∈ request.release?, o = release) w
      (provision provisioner release other entryId w).1 := fun w =>
    (Kept.ask (by simp [Request.release?])).trans (first w)
  have ran := runJobRelated env _ each manifest phase jobId w
  exact ⟨provisioned ((first w).trans ran.1),ran.2⟩

end Jobs

section Upgrades

variable (env : Env) (provisioner : Provisioner)

theorem decidingOk {decision} {w after reply}
    (ran : deciding decision accept w = (after,.ok reply)) : ∃ value, decision = .ok value ∧ accept value = (after,.ok reply) := by
  cases decision with
  | error e => cases ran
  | ok value => exact ⟨value,rfl,ran⟩

theorem finishingOk (ok : ran.2 = .ok job) (finish) :
    finishing ran finish = ((finish job ran.1).1,.ok (.job (finish job ran.1).2)) := by
  obtain ⟨after,answer⟩ := ran
  cases ok
  rfl

theorem plannedRelease (ok : planned manifest policy = .ok release) : release = ⟨.fromManifest manifest,manifest.publisher.id⟩ := by
  obtain ⟨_,_,ok⟩ := Fallible.bindOk ok
  obtain ⟨plan,fits,ok⟩ := Fallible.bindOk ok
  cases Except.ok.inj ok
  have whole := Fallible.mapErrorOk fits
  unfold planServiceInstall at whole
  split at whole <;> try contradiction
  split at whole <;> try contradiction
  split at whole <;> try contradiction
  split at whole <;> try contradiction
  rw [Except.ok.inj whole]

theorem entryRefOk {s : ServiceState} :
    s.entryRef entryId = .ok entry ↔ s.entries.find? (fun entry => entry.id == entryId) = some entry := by
  unfold ServiceState.entryRef
  split
  · rename_i missing
    simp [missing]
  · rename_i stored
    simp [stored]

structure UpgradeSource (s : ServiceState) (manifest : ServiceManifest) (entry : ManagedEntry) (plan : Upgrade) : Prop where
  stored : s.entries.find? (fun entry => entry.id == manifest.id) = some entry
  installable : ensureInstallable plan.trust manifest s.revocations = .ok ()
  previous : entry.installedPlan = some plan.previous
  release : plan.release = ⟨.fromManifest manifest,manifest.publisher.id⟩

theorem upgradeSource (ok : upgradePlan env s role manifest policy = .ok plan) : ∃ entry, UpgradeSource s manifest entry plan := by
  obtain ⟨_,_,ok⟩ := Fallible.bindOk ok
  obtain ⟨entry,stored,ok⟩ := Fallible.bindOk ok
  obtain ⟨trust,_,ok⟩ := Fallible.bindOk ok
  obtain ⟨_,installable,ok⟩ := Fallible.bindOk ok
  obtain ⟨previous,installed,ok⟩ := Fallible.bindOk ok
  split at ok <;> try contradiction
  obtain ⟨release,fits,rfl⟩ := Fallible.mapOk ok
  refine ⟨entry,entryRefOk.mp stored,Fallible.mapErrorOk installable,?_,plannedRelease fits⟩
  split at installed <;> try contradiction
  rename_i held
  exact held.trans (congrArg some (Except.ok.inj installed))

inductive FailedUpgrade (manifest : ServiceManifest) (plan : Upgrade) (w after : World) : Prop where
  | left (policy : manifest.rollbackOnFailure = false) (ran : Provisioned plan.release w after)
  | restored (policy : manifest.rollbackOnFailure = true) (asked : plan.previous ∈ installs w after)
      (entries : after.state.entries = Rows.update ManagedEntry.id manifest.id
        (fun entry => {entry with installedPlan := some plan.previous,previousPlan := none}) w.state.entries)

theorem restoredInstalls {plan : Upgrade} (job) (ran : Provisioned plan.release w middle) :
    plan.previous ∈ installs w (restored provisioner manifest plan.previous job middle).1 ∧
      (restored provisioner manifest plan.previous job middle).1.state.entries = Rows.update ManagedEntry.id manifest.id
        (fun entry => {entry with installedPlan := some plan.previous,previousPlan := none}) w.state.entries := by
  have again : Kept (fun _ => True) (middle.ask (.install plan.previous))
      (provision provisioner plan.previous manifest manifest.id middle).1 :=
    provisionKept provisioner plan.previous manifest trivial middle
  obtain ⟨before,log⟩ := ran.first
  obtain ⟨probes,more,_⟩ := again.log
  constructor
  · have whole : (restored provisioner manifest plan.previous job middle).1.log =
        w.log ++ (.install plan.release::before ++ .install plan.previous::probes) := by
      simp [restored,more,World.ask,log]
    rw [installsOf whole]
    simp [Request.release?]
  · simp only [restored,ServiceState.insertJob,ServiceState.modify]
    rw [again.entries,← ran.entries]
    rfl

theorem upgradeFailed
    (ran : upgradeEntry env provisioner role manifest policy jobId w = (after,.ok (.job job))) (failed : job.outcome ≠ .succeeded) :
    ∃ entry plan, UpgradeSource w.state manifest entry plan ∧ FailedUpgrade manifest plan w after := by
  obtain ⟨plan,decided,ran⟩ := decidingOk ran
  obtain ⟨entry,source⟩ := upgradeSource env decided
  refine ⟨entry,plan,source,?_⟩
  obtain ⟨asked,tried,ok,_⟩ := runJobProvisions env provisioner plan.release manifest manifest manifest.id .upgrade jobId w
  rw [finishingOk ok] at ran
  obtain ⟨rfl,rfl⟩ := ran
  unfold upgradeFinish at failed ⊢
  split at failed
  · rename_i success
    exact absurd success failed
  · rename_i unsuccessful
    rw [if_neg unsuccessful]
    cases policy : manifest.rollbackOnFailure with
    | false =>
      exact .left policy asked
    | true =>
      obtain ⟨again,entries⟩ := restoredInstalls provisioner tried asked
      exact .restored policy again entries

theorem rollbackInstalls (operator : requireOperator who = .ok ()) (jobId)
    (stored : w.state.entries.find? (fun entry => entry.id == entryId) = some entry) :
    ∀ release, release ∈ installs w (rollback env provisioner who entryId jobId w).1 ↔ entry.previousPlan = some release := by
  have looked := entryRefOk.mpr stored
  intro release
  cases held : entry.previousPlan with
  | none => simp [rollback,rollbackPlan,operator,looked,held,deciding,bind,Except.bind,installsSelf]
  | some previous =>
    obtain ⟨asked,job,ok,_⟩ := runJobProvisions env provisioner previous entry.manifest entry.manifest entryId .rollback jobId w
    have world : (rollback env provisioner who entryId jobId w).1.log =
        (runJob env entry.manifest .rollback jobId (provision provisioner previous entry.manifest entryId) w).1.log := by
      simp only [rollback,rollbackPlan,operator,looked,held,deciding,bind,Except.bind,finishingOk ok,concluded]
      split <;> rfl
    have same : installs w (rollback env provisioner who entryId jobId w).1 =
        installs w (runJob env entry.manifest .rollback jobId (provision provisioner previous entry.manifest entryId) w).1 := by
      simp only [installs,world]
    rw [same]
    constructor
    · intro mem
      rw [asked.only release mem]
    · intro eq
      rw [← Option.some.inj eq]
      exact asked.asked

def recovers (plan : ServicePlan) (who : Role) (entryId : String) (jobId : Uuid) (w after : World) : Prop :=
  let back := (perform env provisioner (.rollback who entryId jobId) after).1
  ((∃ release ∈ installs w after, release.plan = plan) ∨ ∃ release ∈ installs after back, release.plan = plan) ∧
    ∀ release ∈ installs after back, release.plan = plan

instance (plan who entryId jobId w after) :
    Decidable (recovers env provisioner plan who entryId jobId w after) := by
  unfold recovers
  infer_instance

end Upgrades

def noWorld : World := ⟨⟨[],[],⟨[],[]⟩,[]⟩,[]⟩

def demoSignature : List Char := List.replicate 64 'a'

def demoEnv : Env := ⟨fun _ _ => demoSignature,id⟩

def demoHost : Provisioner := ⟨fun _ _ => .ok (),fun _ _ => .ok (),fun log _ => .ok (decide (log.length < 3)),fun _ _ => .ok ()⟩

def demoManifest (digest : String) (rollbackOnFailure : Bool) : ServiceManifest :=
  ⟨"shop",⟨"acme","key-1"⟩,digest,demoSignature,["*:*"],500,1024,2048,false,[8080],[],[],⟨1,by decide,by decide⟩,false,
    ⟨1,by decide,by decide⟩,rollbackOnFailure⟩

def firstDigest : String := "sha256:1111111111111111111111111111111111111111111111111111111111111111"
def secondDigest : String := "sha256:2222222222222222222222222222222222222222222222222222222222222222"

def demoPolicy : HostPolicy := ⟨"debian","amd64",[8080],4000,4096,4096⟩

def firstRelease : Release := ⟨.fromManifest (demoManifest firstDigest false),"acme"⟩

def demoSetup : List Call :=
  [.submitEntry .admin (demoManifest firstDigest false),.installEntry .admin "shop" demoPolicy 1]

def served : World :=
  (perform demoEnv demoHost (.installEntry .admin "shop" demoPolicy 1)
    (perform demoEnv demoHost (.submitEntry .admin (demoManifest firstDigest false)) noWorld).1).1

def servedEntry : ManagedEntry := ⟨demoManifest firstDigest false,.community,some firstRelease,none,false⟩

def failedJob (outcome : JobOutcome) (guidance : Option String) : ServiceJob :=
  ⟨2,"shop",.upgrade,outcome,1,1,some "health probe failed",guidance⟩

end OpenPanel.Catalog
