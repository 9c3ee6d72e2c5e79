import OpenPanel.DnsCalls

/-! DNS-01 leases. The record of a lease is stored under the name the provider
echoes, and is read back by the constructor of host names: with an underscore in
it, as in `_acme-challenge`, the zone cannot be read any more, and the lease
cannot be cleaned up. -/
namespace OpenPanel.Dns
open Fallible
open Identity (Role)

structure Faithful {σ : Type} (provider : Provider σ) where
  holds : σ → String → RemoteRecord → Prop
  trusted : ProviderCredential → Prop
  good : σ → Prop
  created : ∀ {credential zone draft s record next}, good s →
    exec (provider.createRecord credential zone draft draft.remoteVersion) s = (.ok record,next) →
    trusted credential ∧ good next ∧ record.name = draft.name ∧ record.data = draft.data ∧ record.ttl = draft.ttl ∧
      (∀ old, holds s zone old → old.remoteId ≠ record.remoteId) ∧
      ∀ z r, holds next z r ↔ holds s z r ∨ z = zone ∧ r = record
  deleted : ∀ {credential zone s record}, good s → trusted credential → holds s zone record →
    ∃ version next, exec (provider.deleteRecord credential zone record.remoteId record.remoteVersion) s = (.ok version,next) ∧
      good next ∧ ∀ z r, holds next z r ↔ holds s z r ∧ ¬ (z = zone ∧ r.remoteId = record.remoteId)

namespace DnsService

structure Creation (service : DnsService σ) (w : DnsWorld σ) (zoneId : Uuid) (kind : RecordKind) (name : String)
    (row : ZoneRow) (zone : ProviderZone) (account : StoredProviderAccount) (credential : ProviderCredential)
    (draft created : RemoteRecord) (remote : σ) : Prop where
  access : Access service w zoneId row zone account credential
  named : recordName kind name = .ok draft.name
  readable : Readable w zoneId
  made : exec (service.provider.createRecord credential zone.remoteId draft draft.remoteVersion) w.remote = (.ok created,remote)

theorem Access.stored {account credential} (access : Access service w zoneId row zone account credential) (records remote) :
    Access service {w with records := records, remote := remote} zoneId row zone account credential :=
  ⟨access.found,access.valid,access.held,access.enabled,access.opened⟩

theorem createRecordEnds : Ends (service.createRecord env role zoneId name kind value ttl expected) w
      (fun created next => role = .owner ∧ ∃ row zone account credential draft remote,
        Creation service w zoneId kind name row zone account credential draft created remote ∧
        next = {w with records := upsert (.ofRecord zoneId created) w.records, remote := remote}) (fun _ _ => True) := by
  refine .asks (fun _ permitted => ?_) (fun _ _ => trivial)
  have owns : role = .owner := by
    unfold owner at permitted
    split at permitted
    · assumption
    · cases permitted
  refine .andThen (.weaken zoneAccountEnds ?_ (fun _ _ _ => trivial))
  rintro ⟨zone,account⟩ _ ⟨rfl,row,found,valid,held⟩
  refine .asks (fun draft drafted => ?_) (fun _ _ => trivial)
  obtain ⟨enabled,version,named⟩ := draftOk drafted
  refine .andThen (.weaken localRecordsEnds ?_ (fun _ _ _ => trivial))
  rintro existing _ ⟨rfl,readable,_⟩
  refine .asks (fun credential opened => ?_) (fun _ _ => trivial)
  split at opened
  · cases opened
  refine .andThen (.within ?_)
  rw [← version]
  refine .observed (fun created remote made => ?_) (fun _ _ _ => trivial)
  refine .andThen (.andThen (executeEnds ?_ (fun _ => trivial) (fun _ _ => trivial)))
  intro next imported
  split at imported <;> cases imported
  refine .returns (.andThen (queryEnds (fun _ _ => ?_) (fun _ => trivial) (fun _ _ => trivial)))
  exact .returns ⟨owns,row,zone,account,credential,draft,remote,⟨⟨found,valid,held,enabled,opened⟩,named,readable,made⟩,rfl⟩

theorem zoneAccountOk {row zone account credential}
    (calm : ∀ step, env.fault step = false) (access : Access service w zoneId row zone account credential) :
    Ends (zoneAccount env zoneId) w (fun found next => found = (zone,account) ∧ next = w) (fun _ _ => False) := by
  refine .andThen (queryOk (calm _) (by rw [access.found]) ?_)
  refine .andThen (.knows access.valid ?_)
  refine .andThen (queryOk (calm _) (by rw [access.held]) ?_)
  exact .returns ⟨rfl,rfl⟩

theorem deleteRecordOk {row zone account credential record version remote} (calm : ∀ step, env.fault step = false)
    (access : Access service w zoneId row zone account credential) (unique : Rows.Unique RecordRow.key w.records)
    (readable : Readable w zoneId) (stored : RecordRow.ofRecord zoneId record ∈ w.records)
    (back : (RecordRow.ofRecord zoneId record).remoteRecord = .ok record)
    (gone : exec (service.provider.deleteRecord credential zone.remoteId record.remoteId record.remoteVersion) w.remote =
      (.ok version,remote)) : Ends (service.deleteRecord env .owner zoneId record.remoteId record.remoteVersion.text) w
      (fun _ next => next = {w with records := Rows.delete RecordRow.key (zoneId,record.remoteId) w.records, remote := remote})
      (fun _ _ => False) := by
  have never : ∀ step, env.fault step = true → False := fun step fault => by simp [calm] at fault
  refine .andThen (.knows rfl ?_)
  refine .andThen (.gives (zoneAccountOk calm access) ?_)
  rintro _ _ ⟨rfl,rfl⟩
  refine .andThen (.knows (by rw [enabled,if_neg (by simp [access.enabled])]) ?_)
  refine .andThen (.weaken localRecordsEnds ?_ ?_)
  swap
  · rintro _ _ ⟨_,_,fault | unread⟩
    · exact never _ fault
    · exact unread readable
  rintro existing _ ⟨rfl,_,listed⟩
  have hit : existing.find? (fun r => r.remoteId == record.remoteId) = some record := by
    refine Rows.findOnly ((listed record).mpr ⟨_,stored,rfl,back⟩) (by simp) (fun other mem same => ?_)
    obtain ⟨otherRow,inside,own,read⟩ := (listed other).mp mem
    have key : otherRow.key = (RecordRow.ofRecord zoneId record).key := by
      rw [RecordRow.key,own,← remoteIdBack read,beq_iff_eq.mp same]
      rfl
    cases Rows.equalOfKey unique inside stored key
    exact Except.ok.inj (read.symm.trans back)
  have aimed : target record.remoteId record.remoteVersion.text existing = .ok record := by
    simp only [target,hit,ne_eq,not_true_eq_false,if_false]
  refine .andThen (.knows aimed ?_)
  refine .andThen (.knows access.opened ?_)
  refine .andThen (.within (.observed ?_ (fun _ _ kept => by rw [gone] at kept; cases kept)))
  intro _ _ made
  cases gone.symm.trans made
  refine .andThen (executeEnds ?_ (never _) nofun)
  intro next deleted
  cases deleted
  exact queryEnds (fun _ _ => rfl) (never _) nofun

theorem deleteRecordUnread {row zone account credential remoteId expected} (calm : ∀ step, env.fault step = false)
    (access : Access service w zoneId row zone account credential) (unread : ¬ Readable w zoneId) :
    Ends (service.deleteRecord env .owner zoneId remoteId expected) w (fun _ _ => False)
      (fun e next => e = .repository ∧ next = w) := by
  refine .andThen (.knows rfl ?_)
  refine .andThen (.weaken (zoneAccountOk calm access) ?_ (fun _ _ no => no.elim))
  rintro _ _ ⟨rfl,rfl⟩
  refine .andThen (.knows (by rw [enabled,if_neg (by simp [access.enabled])]) ?_)
  exact .andThen (.gives (recordsUnread unread) (fun _ _ no => no.elim))

theorem createTxtLeaseEnds : Ends (service.createTxtLease env role zoneId name value) w
    (fun lease next => role = .owner ∧ ∃ row zone account credential draft created remote,
      lease = ⟨zoneId,created.remoteId,created.remoteVersion⟩ ∧
      Creation service w zoneId .txt name row zone account credential draft created remote ∧
      next = {w with records := upsert (.ofRecord zoneId created) w.records, remote := remote}) (fun _ _ => True) := by
  refine .andThen (queryEnds (fun _ _ => ?_) (fun _ => trivial) (fun _ _ => trivial))
  refine .asks (fun zone _ => ?_) (fun _ _ => trivial)
  refine .andThen (.weaken createRecordEnds ?_ (fun _ _ _ => trivial))
  rintro created next ⟨owns,row,zone,account,credential,draft,remote,creation,same⟩
  exact .returns ⟨owns,row,zone,account,credential,draft,created,remote,rfl,creation,same⟩

theorem txtUnderscore {name parsed} (named : recordName .txt name = .ok parsed) : '_' ∈ parsed.text.toList ↔ '_' ∈ name.toList := by
  simp only [recordName,if_true,DnsName.newWithUnderscore,DnsName.parse] at named
  split at named
  · rw [← Except.ok.inj named,String.toList_ofList,canonicalUnderscore]
  · cases named

end DnsService

section Leases

variable {σ : Type}

theorem leaseCleansUp (service : DnsService σ) (faithful : Faithful service.provider) (env later : DnsEnv)
    (w next : DnsWorld σ) (role : Role) (zoneId : Uuid) (name value : String) (lease : TxtLease)
    (unique : Rows.Unique RecordRow.key w.records) (good : faithful.good w.remote) (calm : ∀ step, later.fault step = false)
    (plain : '_' ∉ name.toList) (ran : exec (service.createTxtLease env role zoneId name value) w = (.ok lease,next)) :
    (∃ records, exec (DnsService.records later zoneId) next = (.ok records,next)) ∧
    ∃ row ∈ w.zones, row.id = zoneId ∧ ∃ record, record.remoteId = lease.remoteId ∧
      faithful.holds next.remote row.remoteId record ∧ RecordRow.ofRecord zoneId record ∈ next.records ∧
      ∃ last, exec (service.cleanupTxtLease later role lease) next = (.ok (),last) ∧
        (∀ z r, faithful.holds last.remote z r ↔ faithful.holds next.remote z r ∧ ¬ (z = row.remoteId ∧ r = record)) ∧
        (∀ r, r ∈ last.records ↔ r ∈ next.records ∧ r ≠ RecordRow.ofRecord zoneId record) ∧
        last.zones = next.zones ∧ last.accounts = next.accounts := by
  obtain ⟨rfl,row,zone,account,credential,draft,created,remote,rfl,creation,rfl⟩ :=
    DnsService.createTxtLeaseEnds.reached ran
  obtain ⟨trusted,stays,named,_,_,fresh,held⟩ := faithful.created good creation.made
  have back : (RecordRow.ofRecord zoneId created).remoteRecord = .ok created :=
    readBack (by rw [named]; exact mt (DnsService.txtUnderscore creation.named).mp plain)
  have stored : RecordRow.ofRecord zoneId created ∈ upsert (.ofRecord zoneId created) w.records := memUpsert.mpr (.inl rfl)
  have readable : Readable {w with records := upsert (.ofRecord zoneId created) w.records, remote := remote} zoneId := by
    intro r mem own
    rcases memUpsert.mp mem with rfl | ⟨old,_⟩
    · exact ⟨created,back⟩
    · exact creation.readable r old own
  have there : faithful.holds remote zone.remoteId created := (held _ _).mpr (.inr ⟨rfl,rfl⟩)
  obtain ⟨version,last,gone,_,left⟩ := faithful.deleted stays trusted there
  have cleaned := DnsService.deleteRecordOk calm (creation.access.stored _ remote) (upsertUnique unique) readable stored back gone
  obtain ⟨_,_,cleanup,rfl⟩ := cleaned.succeeds
  have same : zone.remoteId = row.remoteId := DnsService.zoneBack creation.access.valid
  refine ⟨recordsRead calm readable,row,List.mem_of_find?_eq_some creation.access.found,
    by simpa using List.find?_some creation.access.found,created,rfl,same ▸ there,stored,_,cleanup,?_,?_,rfl,rfl⟩
  · intro z r
    rw [left,same]
    refine and_congr_right (fun holds => not_congr (and_congr_right (fun here => ⟨fun id => ?_,fun eq => eq ▸ rfl⟩)))
    rcases (held z r).mp holds with before | ⟨_,eq⟩
    · rw [here,← same] at before
      exact absurd id (fresh r before)
    · exact eq
  · intro r
    rw [Rows.memDelete]
    refine and_congr_right (fun mem => not_congr ⟨fun key => ?_,fun eq => eq ▸ rfl⟩)
    exact Rows.equalOfKey (upsertUnique unique) mem stored key

theorem leaseStranded (service : DnsService σ) (faithful : Faithful service.provider) (env later)
    (w next) (role) (zoneId) (name value) (lease) (good : faithful.good w.remote) (calm : ∀ step, later.fault step = false)
    (marked : '_' ∈ name.toList) (ran : exec (service.createTxtLease env role zoneId name value) w = (.ok lease,next)) :
    exec (DnsService.records later zoneId) next = (.error .repository,next) ∧
      exec (service.cleanupTxtLease later role lease) next = (.error .repository,next) := by
  obtain ⟨rfl,row,zone,account,credential,draft,created,remote,rfl,creation,rfl⟩ :=
    DnsService.createTxtLeaseEnds.reached ran
  obtain ⟨_,_,named,_⟩ := faithful.created good creation.made
  have unread : ¬ Readable {w with records := upsert (.ofRecord zoneId created) w.records, remote := remote} zoneId := by
    intro readable
    obtain ⟨record,read⟩ := readable _ (memUpsert.mpr (.inl rfl)) rfl
    rw [notReadBack (by rw [named]; exact (DnsService.txtUnderscore creation.named).mpr marked)] at read
    cases read
  exact ⟨(recordsUnread unread).refuses,(DnsService.deleteRecordUnread calm (creation.access.stored _ remote) unread).refuses⟩

end Leases

def fakeFaithful (draw : Draw) : Faithful (fakeProvider draw) where
  holds state zoneId record := zoneId = state.zone.remoteId ∧ record ∈ state.records
  trusted _ := True
  good state := ∀ record ∈ state.records, record.remoteVersion = state.zone.remoteVersion
  created := by
    intro credential zoneId draft state record next good made
    obtain ⟨rfl,version,same,rfl⟩ := fakeCreated made
    refine ⟨trivial,?_,by rw [same],by rw [same],by rw [same],?_,?_⟩
    · intro r mem
      rcases List.mem_append.mp mem with old | new
      · exact good r old
      · rw [List.mem_singleton.mp new,same]
        exact version
    · rintro old ⟨_,mem⟩ taken
      rw [same] at taken
      exact draw.unused _ (List.mem_map.mpr ⟨old,mem,taken⟩)
    · intro z r
      rw [List.mem_append,List.mem_singleton,and_or_left]
  deleted := by
    rintro credential zoneId state record good _ ⟨rfl,mem⟩
    rw [good record mem]
    refine ⟨_,_,fakeDeleted,fun r inside => good r (Rows.memDelete.mp inside).1,fun z r => ?_⟩
    rw [Rows.memDelete,and_assoc]
    refine and_congr_right (fun here => and_congr_right (fun _ => ?_))
    rw [here]
    exact ⟨fun other both => other both.2,fun none same => none ⟨rfl,same⟩⟩

theorem leaseCleansUpPlain : ∃ lease next last,
    exec (fakeService.createTxtLease calmDns .owner 3 "challenge.example.test" "token") emptyZone = (.ok lease,next) ∧
    (∃ records, exec (DnsService.records calmDns 3) next = (.ok records,next)) ∧
    exec (fakeService.cleanupTxtLease calmDns .owner lease) next = (.ok (),last) := by
  have granted : (exec (fakeService.createTxtLease calmDns .owner 3 "challenge.example.test" "token")
      emptyZone).1.toOption.isSome = true := by decide +kernel
  cases ran : exec (fakeService.createTxtLease calmDns .owner 3 "challenge.example.test" "token") emptyZone with
  | mk result next =>
    rw [ran] at granted
    cases result with
    | error e => cases granted
    | ok lease =>
      obtain ⟨readable,_,_,_,_,_,_,_,last,cleanup,_⟩ := leaseCleansUp fakeService (fakeFaithful longer) calmDns calmDns emptyZone
        next .owner 3 "challenge.example.test" "token" lease (by decide) (fun _ none => absurd none List.not_mem_nil)
        (fun _ => rfl) (by decide +kernel) ran
      exact ⟨lease,next,last,rfl,readable,cleanup⟩

theorem leaseNotCleanedUp : ∃ lease next,
    exec (fakeService.createTxtLease calmDns .owner 3 "_acme-challenge.example.test" "token") emptyZone = (.ok lease,next) ∧
    exec (DnsService.records calmDns 3) next = (.error .repository,next) ∧
    exec (fakeService.cleanupTxtLease calmDns .owner lease) next = (.error .repository,next) ∧
    next.remote.records.map (fun r => r.name.text) = ["_acme-challenge.example.test"] := by
  have granted : (exec (fakeService.createTxtLease calmDns .owner 3 "_acme-challenge.example.test" "token")
      emptyZone).1.toOption.isSome = true := by decide +kernel
  have kept : (exec (fakeService.createTxtLease calmDns .owner 3 "_acme-challenge.example.test" "token")
      emptyZone).2.remote.records.map (fun r => r.name.text) = ["_acme-challenge.example.test"] := by decide +kernel
  cases ran : exec (fakeService.createTxtLease calmDns .owner 3 "_acme-challenge.example.test" "token") emptyZone with
  | mk result next =>
    rw [ran] at granted kept
    cases result with
    | error e => cases granted
    | ok lease =>
      obtain ⟨unread,stranded⟩ := leaseStranded fakeService (fakeFaithful longer) calmDns calmDns emptyZone next .owner 3
        "_acme-challenge.example.test" "token" lease (fun _ none => absurd none List.not_mem_nil) (fun _ => rfl)
        (by decide +kernel) ran
      exact ⟨lease,next,rfl,unread,stranded,kept⟩

end OpenPanel.Dns
