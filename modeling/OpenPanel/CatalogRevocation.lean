import OpenPanel.CatalogUpgrades

/-! Revocations of the service catalog over whole histories. Installs and upgrades
are gated on the manifest they plan; `rollback` and the restore of a failed upgrade are
not gated on the release they go back to. -/
namespace OpenPanel.Catalog
open OpenPanel.Identity (Role)
open GuardedRun

def Release.revokedBy (release : Release) (revocations : RevocationList) : Prop :=
  release.publisher ∈ revocations.publishers ∨ release.plan.digest ∈ revocations.digests

instance (release : Release) (revocations : RevocationList) : Decidable (release.revokedBy revocations) := by
  unfold Release.revokedBy
  infer_instance

theorem installableUnrevoked (ok : ensureInstallable trust manifest revocations = .ok ()) :
    ¬Release.revokedBy ⟨.fromManifest manifest,manifest.publisher.id⟩ revocations := by
  have gate : manifest.publisher.id ∉ revocations.publishers ∧ manifest.digest ∉ revocations.digests := by
    cases trust <;> simp only [ensureInstallable,reduceCtorEq] at ok
    all_goals
      split at ok <;> try contradiction
      rename_i publisher
      split at ok <;> try contradiction
      rename_i digest
      exact ⟨publisher,digest⟩
  exact fun revoked => revoked.elim gate.1 gate.2

theorem gatedSource (ok : gated s role entryId = .ok manifest) : ∃ trust, ensureInstallable trust manifest s.revocations = .ok () := by
  obtain ⟨_,_,ok⟩ := Fallible.bindOk ok
  obtain ⟨entry,_,ok⟩ := Fallible.bindOk ok
  obtain ⟨_,installable,ok⟩ := Fallible.bindOk ok
  cases Except.ok.inj ok
  exact ⟨entry.trust,Fallible.mapErrorOk installable⟩

def unrevoked (w : World) : Call → Prop
  | .rollback _ entryId _ => ∀ entry ∈ w.state.entries.find? (fun entry => entry.id == entryId),
      ∀ release ∈ entry.previousPlan, ¬release.revokedBy w.state.revocations
  | .upgradeEntry _ manifest _ _ => manifest.rollbackOnFailure = true →
      ∀ entry ∈ w.state.entries.find? (fun entry => entry.id == manifest.id),
        ∀ release ∈ entry.installedPlan, ¬release.revokedBy w.state.revocations
  | _ => True

instance (w : World) (call : Call) : Decidable (unrevoked w call) := by
  cases call <;> unfold unrevoked <;> infer_instance

section Steps

def spares (revocations : RevocationList) (request : Request) : Prop :=
  ∀ release ∈ request.release?, ¬release.revokedBy revocations

structure Spared (revocations : RevocationList) (w after : World) : Prop where
  same : after.state.revocations = w.state.revocations
  log : Asked (spares revocations) w after

variable {revocations : RevocationList}

theorem Kept.spared (kept : Kept (spares revocations) w after) : Spared revocations w after := ⟨kept.revocations,kept.log⟩

theorem Spared.trans (first : Spared revocations w middle) (second : Spared revocations middle after) : Spared revocations w after :=
  ⟨second.same.trans first.same,first.log.trans second.log⟩

theorem Spared.quiet (same : after.state.revocations = w.state.revocations) (log : after.log = w.log) : Spared revocations w after :=
  ⟨same,.nothing log⟩

theorem concludedSpared (entryId) (f) (job) : Spared revocations w (concluded entryId f job w).1 := by
  unfold concluded
  split
  · exact .quiet rfl rfl
  · exact .quiet rfl rfl

variable (env : Env) (provisioner : Provisioner)

theorem provisionSpared (clean : ¬release.revokedBy revocations) (manifest) (entryId)
    (w) : Kept (spares revocations) w (provision provisioner release manifest entryId w).1 := by
  have asked : spares revocations (.install release) := fun other same => Option.some.inj same ▸ clean
  exact (Kept.ask asked).trans (provisionKept provisioner release manifest (by simp [spares,Request.release?]) w)

theorem runJobSpared (each : ∀ w, Kept (spares revocations) w (attempt w).1) (manifest) (phase)
    (jobId) (w) : Spared revocations w (runJob env manifest phase jobId attempt w).1 :=
  ((each w).trans (runJobRelated env attempt each manifest phase jobId w).1).spared

theorem finishingSpared (before : Spared revocations w ran.1) (behind : ∀ job v, Spared revocations v (finish job v).1) :
    Spared revocations w (finishing ran finish).1 := by
  obtain ⟨after,answer⟩ := ran
  cases answer with
  | error e => exact before
  | ok job => exact before.trans (behind job after)

theorem decidingSpared {decision} {accept : α → World × Outcome Reply}
    (accepted : ∀ value, decision = .ok value → Spared revocations w (accept value).1) :
    Spared revocations w (deciding decision accept w).1 := by
  cases decision with
  | error e => exact .quiet rfl rfl
  | ok value => exact accepted value rfl

theorem lifecycleSpared {role entryId phase jobId} (each : ∀ manifest w, Kept (spares revocations) w (work manifest w).1) :
    Spared revocations w (lifecycleJob env role entryId phase jobId f work w).1 :=
  decidingSpared (fun manifest _ => finishingSpared (runJobSpared env (fun w => each manifest w) _ _ _ _)
    (fun job _ => concludedSpared entryId f job))

theorem installSpared {role entryId policy jobId} :
    Spared w.state.revocations w (installEntry env provisioner role entryId policy jobId w).1 := by
  refine decidingSpared (fun (manifest,release) decided => ?_)
  obtain ⟨source,gate,decided⟩ := Fallible.bindOk decided
  obtain ⟨built,fits,decided⟩ := Fallible.bindOk decided
  cases Except.ok.inj decided
  obtain ⟨trust,installable⟩ := gatedSource gate
  have clean : ¬release.revokedBy w.state.revocations := plannedRelease fits ▸ installableUnrevoked installable
  exact finishingSpared (runJobSpared env (provisionSpared provisioner clean manifest entryId) _ _ _ _)
    (fun job _ => concludedSpared entryId _ job)

theorem upgradeSpared {role manifest policy jobId} (allowed : unrevoked w (.upgradeEntry role manifest policy jobId)) :
    Spared w.state.revocations w (upgradeEntry env provisioner role manifest policy jobId w).1 := by
  refine decidingSpared (fun plan decided => ?_)
  obtain ⟨entry,source⟩ := upgradeSource env decided
  have clean : ¬plan.release.revokedBy w.state.revocations := source.release ▸ installableUnrevoked source.installable
  refine finishingSpared (runJobSpared env (provisionSpared provisioner clean manifest manifest.id) _ _ _ _) (fun job v => ?_)
  unfold upgradeFinish
  split
  · exact .quiet rfl rfl
  · split
    · -- The restore goes back to the installed release, which the history keeps unrevoked.
      rename_i policy
      have old := allowed policy entry source.stored plan.previous source.previous
      have again := provisionSpared provisioner old manifest manifest.id v
      exact ⟨again.revocations,again.log⟩
    · exact .quiet rfl rfl

theorem rollbackSpared {role entryId jobId} (allowed : unrevoked w (.rollback role entryId jobId)) :
    Spared w.state.revocations w (rollback env provisioner role entryId jobId w).1 := by
  refine decidingSpared (fun (previous,manifest) decided => ?_)
  obtain ⟨_,_,decided⟩ := Fallible.bindOk decided
  obtain ⟨entry,stored,decided⟩ := Fallible.bindOk decided
  split at decided <;> try contradiction
  rename_i held
  cases Except.ok.inj decided
  have clean := allowed entry (entryRefOk.mp stored) previous held
  exact finishingSpared (runJobSpared env (provisionSpared provisioner clean _ entryId) _ _ _ _)
    (fun job _ => concludedSpared entryId _ job)

structure Step (w after : World) : Prop where
  publishers : w.state.revocations.publishers ⊆ after.state.revocations.publishers
  digests : w.state.revocations.digests ⊆ after.state.revocations.digests
  log : Asked (spares w.state.revocations) w after

theorem Spared.step (spared : Spared w.state.revocations w after) : Step w after :=
  ⟨by rw [spared.same]; exact List.Subset.refl _,by rw [spared.same]; exact List.Subset.refl _,spared.log⟩

theorem revokePublisherStep (role) (publisherId) (w) : Step w (revokePublisher role publisherId w).1 := by
  simp only [revokePublisher,deciding]
  split
  · exact (Spared.quiet rfl rfl).step
  · exact ⟨List.subset_cons_self _ _,List.Subset.refl _,.nothing rfl⟩

theorem revokeDigestStep (role) (digest) (w) : Step w (revokeDigest role digest w).1 := by
  simp only [revokeDigest,deciding]
  split
  · exact (Spared.quiet rfl rfl).step
  · exact ⟨List.Subset.refl _,List.subset_cons_self _ _,.nothing rfl⟩

theorem performStep (call) (allowed : unrevoked w call) : Step w (perform env provisioner call w).1 := by
  cases call with
  | trustPublisher role publisher =>
    have spared : Spared w.state.revocations w (trustPublisher role publisher w).1 := decidingSpared (fun _ _ => .quiet rfl rfl)
    exact spared.step
  | revokePublisher role publisherId => exact revokePublisherStep role publisherId w
  | revokeDigest role digest => exact revokeDigestStep role digest w
  | submitEntry role manifest =>
    have spared : Spared w.state.revocations w (submitEntry env role manifest w).1 := decidingSpared (fun _ _ => .quiet rfl rfl)
    exact spared.step
  | installEntry role entryId policy jobId => exact (installSpared env provisioner).step
  | upgradeEntry role manifest policy jobId => exact (upgradeSpared env provisioner allowed).step
  | rollback role entryId jobId => exact (rollbackSpared env provisioner allowed).step
  | runBackup role entryId jobId => exact (lifecycleSpared env (fun _ w => .ask (by simp [spares,Request.release?]))).step
  | removeEntry role entryId jobId => exact (lifecycleSpared env (fun _ w => .ask (by simp [spares,Request.release?]))).step
  | verifyHealth role entryId jobId =>
    exact (lifecycleSpared env (fun _ w => probeKept provisioner (by simp [spares,Request.release?]) _ w)).step

end Steps

section Histories

variable {env : Env} {provisioner : Provisioner} {w last : World} {calls : List Call}

theorem historyStep (run : Run (fire env provisioner) unrevoked w calls last) : Step w last := by
  induction run with
  | nil w => exact (Spared.quiet rfl rfl).step
  | @cons w call next calls last allowed fired _ ih =>
    cases Option.some.inj fired
    have first := performStep env provisioner call allowed
    have rest : Asked (spares w.state.revocations) _ last := ih.log.weaken (fun request spared release asked revoked =>
      spared release asked (revoked.imp (fun h => first.publishers h) (fun h => first.digests h)))
    exact ⟨List.Subset.trans first.publishers ih.publishers,List.Subset.trans first.digests ih.digests,first.log.trans rest⟩

theorem historyInstalls (run : Run (fire env provisioner) unrevoked w calls last) :
    ∀ release ∈ installs w last, ¬release.revokedBy w.state.revocations :=
  (historyStep run).log.installs

theorem revokedDigestListed (ok : revokeDigest role digest w = (after,.ok reply)) : digest ∈ after.state.revocations.digests := by
  obtain ⟨_,_,ok⟩ := decidingOk ok
  cases ok
  exact List.mem_cons_self

theorem revokedPublisherListed
    (ok : revokePublisher role publisherId w = (after,.ok reply)) : publisherId ∈ after.state.revocations.publishers := by
  obtain ⟨_,_,ok⟩ := decidingOk ok
  cases ok
  exact List.mem_cons_self

theorem revokedNeverInstalled {before revoked : World} (later : Run (fire env provisioner) unrevoked revoked calls last) :
    (∀ role digest reply, perform env provisioner (.revokeDigest role digest) before = (revoked,.ok reply) →
      ∀ release ∈ installs revoked last, release.plan.digest ≠ digest) ∧
    (∀ role publisherId reply, perform env provisioner (.revokePublisher role publisherId) before = (revoked,.ok reply) →
      ∀ release ∈ installs revoked last, release.publisher ≠ publisherId) := by
  have spared := historyInstalls later
  constructor
  · rintro role digest reply ok release mem rfl
    exact spared release mem (.inr (revokedDigestListed ok))
  · rintro role publisherId reply ok release mem rfl
    exact spared release mem (.inl (revokedPublisherListed ok))

end Histories

def calmHost : Provisioner := ⟨fun _ _ => .ok (),fun _ _ => .ok (),fun _ _ => .ok true,fun _ _ => .ok ()⟩

def replaced : World :=
  (perform demoEnv calmHost (.upgradeEntry .admin (demoManifest secondDigest false) demoPolicy 2)
    (perform demoEnv calmHost (.installEntry .admin "shop" demoPolicy 1)
      (perform demoEnv calmHost (.submitEntry .admin (demoManifest firstDigest false)) noWorld).1).1).1

def disowned : World := (perform demoEnv calmHost (.revokePublisher .owner "acme") replaced).1

def blogManifest : ServiceManifest := {demoManifest secondDigest false with id := "blog",publisher := ⟨"beta","key-2"⟩}

def blogCalls : List Call := [.submitEntry .admin blogManifest,.installEntry .admin "blog" demoPolicy 3]

def blogged : World :=
  (perform demoEnv calmHost (.installEntry .admin "blog" demoPolicy 3)
    (perform demoEnv calmHost (.submitEntry .admin blogManifest) disowned).1).1

theorem disownedNeverInstalled :
    installs disowned blogged ≠ [] ∧ ∀ release ∈ installs disowned blogged, release.publisher ≠ "acme" := by
  have later : Run (fire demoEnv calmHost) unrevoked disowned blogCalls blogged :=
    .cons trivial rfl (.cons trivial rfl (.nil _))
  have ok : perform demoEnv calmHost (.revokePublisher .owner "acme") replaced = (disowned,.ok .done) := by decide +kernel
  exact ⟨by decide +kernel,(revokedNeverInstalled later).2 .owner "acme" .done ok⟩

theorem revokedInstalledByRollback :
    Run (fire demoEnv calmHost) free noWorld
      (demoSetup ++ [.upgradeEntry .admin (demoManifest secondDigest false) demoPolicy 2]) replaced ∧
    perform demoEnv calmHost (.revokePublisher .owner "acme") replaced = (disowned,.ok .done) ∧
    firstRelease ∈ installs disowned (perform demoEnv calmHost (.rollback .admin "shop" 3) disowned).1 := by
  refine ⟨.cons trivial rfl (.cons trivial rfl (.cons trivial rfl (.nil _))),?_,?_⟩ <;> decide +kernel
end OpenPanel.Catalog
