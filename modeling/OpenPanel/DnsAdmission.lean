import OpenPanel.DnsCalls
import OpenPanel.GuardedRun
import Mathlib.Data.List.Pairwise
import Mathlib.Data.Set.List

/-! What the record calls hand to the provider and leave in the table. A creation
is refused for an unsupported kind; an update does not check the kind. The two guards
against `CNAME` conflicts, written differently, both keep the stored set valid. -/
namespace OpenPanel.Dns
open Fallible GuardedRun
open Identity (Role)

def RemoteRecord.dnsRecord (record : RemoteRecord) : DnsRecord := ⟨record.name,record.data⟩

def SetValid {σ : Type} (w : DnsWorld σ) (zoneId : Uuid) : Prop :=
  ∃ records : List RemoteRecord, w.records.filter (fun r => r.zoneId == zoneId) = records.map (.ofRecord zoneId) ∧
    validateRecordSet (records.map RemoteRecord.dnsRecord) = .ok ()

def capabilitiesOf {σ : Type} (w : DnsWorld σ) (zoneId : Uuid) : Option ProviderCapabilities := do
  let row ← w.zones.find? (fun z => z.id == zoneId)
  let account ← w.accounts.find? (fun a => a.id == row.accountId)
  return account.capabilities

def ProviderCapabilities.admits (capabilities : ProviderCapabilities) (record : RemoteRecord) : Bool :=
  capabilities.supports record.data.kind && capabilities.minimumTtl ≤ record.ttl && record.ttl ≤ capabilities.maximumTtl

def handing {α : Type} (record : RemoteRecord) (prog : Prog σ DnsServiceError α) :
    Prog (σ × List RemoteRecord) DnsServiceError α := do
  attempt (fun s => .ok ((),(s.1,s.2 ++ [record])))
  zoom Prod.fst (fun remote s => (remote,s.2)) (fun e => e) prog

def Provider.observed (provider : Provider σ) : Provider (σ × List RemoteRecord) where
  createRecord credential zone record expected := handing record (provider.createRecord credential zone record expected)
  updateRecord credential zone record expected := handing record (provider.updateRecord credential zone record expected)
  deleteRecord credential zone remoteId expected :=
    zoom Prod.fst (fun remote s => (remote,s.2)) (fun e => e) (provider.deleteRecord credential zone remoteId expected)

def DnsService.observed (service : DnsService σ) : DnsService (σ × List RemoteRecord) :=
  ⟨service.provider.observed,service.decrypt,service.addresses⟩

structure Echoes (provider : Provider σ) : Prop where
  created : ∀ {credential zone draft expected s record next},
    exec (provider.createRecord credential zone draft expected) s = (.ok record,next) →
    record.name = draft.name ∧ record.data = draft.data
  updated : ∀ {credential zone draft expected s record next},
    exec (provider.updateRecord credential zone draft expected) s = (.ok record,next) →
    record.remoteId = draft.remoteId ∧ record.name = draft.name ∧ record.data = draft.data

inductive RecordCall where
  | create (role : Role) (name : String) (kind : RecordKind) (value : String) (ttl : UInt32) (expected : String)
  | update (role : Role) (remoteId name : String) (kind : RecordKind) (value : String) (ttl : UInt32) (expected : String)
  | delete (role : Role) (remoteId expected : String)

def RecordCall.perform (service : DnsService σ) (env : DnsEnv) (zoneId : Uuid) : RecordCall → Calls σ Unit
  | .create role name kind value ttl expected => do
    let _ ← service.createRecord env role zoneId name kind value ttl expected
  | .update role remoteId name kind value ttl expected => do
    let _ ← service.updateRecord env role zoneId remoteId name kind value ttl expected
  | .delete role remoteId expected => service.deleteRecord env role zoneId remoteId expected

def serve (service : DnsService σ) (zoneId : Uuid) (w : DnsWorld (σ × List RemoteRecord)) (call : DnsEnv × RecordCall) :
    Option (DnsWorld (σ × List RemoteRecord)) :=
  some (exec (call.2.perform service.observed call.1 zoneId) w).2

def supportedUpdates (zoneId : Uuid) (w : DnsWorld (σ × List RemoteRecord)) (call : DnsEnv × RecordCall) : Prop :=
  match call.2 with
  | .update _ _ _ kind .. => ∀ capabilities ∈ capabilitiesOf w zoneId, capabilities.supports kind = true
  | _ => True

instance (zoneId : Uuid) (w : DnsWorld (σ × List RemoteRecord)) (call) : Decidable (supportedUpdates zoneId w call) := by
  unfold supportedUpdates
  split <;> infer_instance

def RecordRow.Apart (a b : RecordRow) : Prop := a.name = b.name → a.data.kind ≠ .cname ∧ b.data.kind ≠ .cname

structure RowsValid {σ : Type} (w : DnsWorld σ) (zoneId : Uuid) : Prop where
  written : ∀ row ∈ w.records, row.zoneId = zoneId → ∃ record, row = .ofRecord zoneId record
  apart : ∀ a ∈ w.records, ∀ b ∈ w.records, a.zoneId = zoneId → b.zoneId = zoneId → a.key ≠ b.key → a.Apart b

instance : Std.Symm RecordRow.Apart := ⟨fun _ _ apart same => (apart same.symm).symm⟩

theorem nameText {a b : DnsName} : a.text = b.text ↔ a = b := by
  refine ⟨fun same => ?_,congrArg _⟩
  cases b
  cases same
  rfl

theorem pairwiseRows (zoneId) {records : List RemoteRecord} : (records.map (RecordRow.ofRecord zoneId)).Pairwise RecordRow.Apart ↔
      validateRecordSet (records.map RemoteRecord.dnsRecord) = .ok () := by
  rw [validateOk,List.pairwise_map,List.pairwise_map]
  have same : ∀ a b : RemoteRecord,
      (RecordRow.ofRecord zoneId a).Apart (.ofRecord zoneId b) ↔ a.dnsRecord.Apart b.dnsRecord :=
    fun a b => imp_congr nameText Iff.rfl
  simp only [same]

theorem rowsValid (unique : Rows.Unique RecordRow.key w.records) : SetValid w zoneId ↔ RowsValid w zoneId := by
  have inZone : ∀ {r : RecordRow}, r ∈ w.records.filter (fun r => r.zoneId == zoneId) ↔ r ∈ w.records ∧ r.zoneId = zoneId := by
    simp
  constructor
  · rintro ⟨records,stored,valid⟩
    have apart := (pairwiseRows zoneId).mpr valid
    rw [← stored] at apart
    refine ⟨fun row mem own => ?_,fun a left b right here there other => ?_⟩
    · have inside := inZone.mpr ⟨mem,own⟩
      rw [stored] at inside
      obtain ⟨record,_,same⟩ := List.mem_map.mp inside
      exact ⟨record,same.symm⟩
    · exact apart.forall (inZone.mpr ⟨left,here⟩) (inZone.mpr ⟨right,there⟩) (fun same => other (congrArg _ same))
  · intro valid
    have written : w.records.filter (fun r => r.zoneId == zoneId) ∈ Set.range (List.map (RecordRow.ofRecord zoneId)) := by
      rw [Set.range_list_map]
      intro row mem
      obtain ⟨record,same⟩ := valid.written row (inZone.mp mem).1 (inZone.mp mem).2
      exact ⟨record,same.symm⟩
    obtain ⟨records,stored⟩ := written
    refine ⟨records,stored.symm,(pairwiseRows zoneId).mp ?_⟩
    rw [stored]
    have keys := (List.pairwise_map.mp unique).filter (fun r => r.zoneId == zoneId)
    refine keys.imp_of_mem (fun left right other => ?_)
    exact valid.apart _ (inZone.mp left).1 _ (inZone.mp right).1 (inZone.mp left).2 (inZone.mp right).2 other

theorem readOwn {record read} (ok : (RecordRow.ofRecord zoneId record).remoteRecord = .ok read) : read = record := by
  by_cases marked : '_' ∈ record.name.text.toList
  · rw [notReadBack marked] at ok
    cases ok
  · rw [readBack marked] at ok
    exact (Except.ok.inj ok).symm

theorem upsertValid (valid : RowsValid w zoneId)
    (apart : ∀ row ∈ w.records, row.zoneId = zoneId → row.key ≠ (zoneId,record.remoteId) →
      (RecordRow.ofRecord zoneId record).Apart row) :
    RowsValid {w with records := upsert (.ofRecord zoneId record) w.records, remote := remote} zoneId := by
  refine ⟨fun row mem own => ?_,fun a left b right here there other => ?_⟩
  · rcases memUpsert.mp mem with rfl | ⟨old,_⟩
    · exact ⟨record,rfl⟩
    · exact valid.written row old own
  · rcases memUpsert.mp left with rfl | ⟨olda,awaya⟩
    · rcases memUpsert.mp right with rfl | ⟨oldb,awayb⟩
      · exact absurd rfl other
      · exact apart b oldb there awayb
    · rcases memUpsert.mp right with rfl | ⟨oldb,awayb⟩
      · exact symm (apart a olda here awaya)
      · exact valid.apart a olda b oldb here there other

theorem deleteValid (valid : RowsValid w zoneId) :
    RowsValid {w with records := Rows.delete RecordRow.key (zoneId,remoteId) w.records} zoneId := by
  have kept : ∀ {row}, row ∈ Rows.delete RecordRow.key (zoneId,remoteId) w.records → row ∈ w.records :=
    fun mem => (Rows.memDelete.mp mem).1
  exact ⟨fun row mem own => valid.written row (kept mem) own,
    fun a left b right here there other => valid.apart a (kept left) b (kept right) here there other⟩

section Calls

variable {σ : Type} {service : DnsService σ} {zoneId : Uuid}

structure Kept (start : DnsWorld (σ × List RemoteRecord)) (zoneId : Uuid) (w : DnsWorld (σ × List RemoteRecord)) : Prop where
  zones : w.zones = start.zones
  accounts : w.accounts = start.accounts
  unique : Rows.Unique RecordRow.key w.records
  valid : RowsValid w zoneId
  admitted : ∀ record ∈ w.remote.2, ∃ capabilities ∈ capabilitiesOf start zoneId, capabilities.admits record = true

variable {start w : DnsWorld (σ × List RemoteRecord)}

theorem keptRemote (kept : Kept start zoneId w)
    (admitted : ∀ record ∈ remote.2, ∃ capabilities ∈ capabilitiesOf start zoneId, capabilities.admits record = true) :
    Kept start zoneId {w with remote := remote} :=
  ⟨kept.zones,kept.accounts,kept.unique,⟨kept.valid.written,kept.valid.apart⟩,admitted⟩

theorem handingEnds {record prog s} {post : α → σ × List RemoteRecord → Prop}
    (done : ∀ a remote, exec prog s.1 = (.ok a,remote) → post a (remote,s.2 ++ [record]))
    (stopped : ∀ e remote, failed e (remote,s.2 ++ [record])) : Ends (handing record prog) s post failed := by
  refine .andThen (.attempts ?_ (fun _ no => by cases no))
  intro _ _ noted
  cases noted
  exact .within (.observed (fun a remote ran => done a remote ran) (fun e remote _ => stopped e remote))

theorem importKept (kept : Kept start zoneId w)
    (apart : ∀ row ∈ w.records, row.zoneId = zoneId → row.key ≠ (zoneId,record.remoteId) →
      (RecordRow.ofRecord zoneId record).Apart row) : Leaves (importRecords env zoneId 0 [record]) w (Kept start zoneId) := by
  refine .andThen (executeEnds ?_ (fun _ => kept) (fun _ _ => kept))
  intro next stored
  split at stored <;> cases stored
  exact .returns ⟨kept.zones,kept.accounts,upsertUnique kept.unique,upsertValid kept.valid apart,kept.admitted⟩

theorem guardedApart {existing : List RemoteRecord} (valid : RowsValid w zoneId) (readable : Readable w zoneId)
    (listed : ∀ record, record ∈ existing ↔ ∃ row ∈ w.records, row.zoneId = zoneId ∧ row.remoteRecord = .ok record)
    (mem : row ∈ w.records) (own : row.zoneId = zoneId)
    (guarded : ∀ r ∈ existing, row = .ofRecord zoneId r → DnsService.shares record.name record.data.kind r = false) :
    (RecordRow.ofRecord zoneId record).Apart row := by
  obtain ⟨r,rfl⟩ := valid.written row mem own
  obtain ⟨read,ok⟩ := readable _ mem own
  cases readOwn ok
  have free := guarded r ((listed r).mpr ⟨_,mem,own,ok⟩) rfl
  intro same
  have equal : r.name = record.name := nameText.mp same.symm
  simp only [DnsService.shares,equal,beq_self_eq_true,Bool.true_and,Bool.or_eq_false_iff,beq_eq_false_iff_ne] at free
  exact ⟨free.2,free.1⟩

theorem admittedMore (kept : Kept start zoneId w)
    (found : capabilitiesOf start zoneId = some capabilities) (admits : capabilities.admits record = true) :
    ∀ r ∈ w.remote.2 ++ [record], ∃ capabilities ∈ capabilitiesOf start zoneId, capabilities.admits r = true := by
  intro r mem
  rcases List.mem_append.mp mem with old | new
  · exact kept.admitted r old
  · rw [List.mem_singleton.mp new]
    exact ⟨capabilities,found,admits⟩

theorem ttlBounds (ok : Ttl.new ttl minimum maximum = .ok ()) : minimum ≤ ttl ∧ ttl ≤ maximum := by
  unfold Ttl.new at ok
  split at ok
  · cases ok
  · rename_i inside
    simp only [not_or,UInt32.not_lt] at inside
    exact ⟨inside.2.2.1,inside.2.2.2⟩

theorem capabilitiesFound {row account} (kept : Kept start zoneId w) (found : w.zones.find? (fun z => z.id == zoneId) = some row)
    (held : w.accounts.find? (fun a => a.id == row.accountId) = some account) :
    capabilitiesOf start zoneId = some account.capabilities := by
  rw [kept.zones] at found
  rw [kept.accounts] at held
  simp [capabilitiesOf,found,held]

theorem draftAdmitted {env zone account name value expected kind ttl record}
    (ok : service.draft env zone account name kind value ttl expected = .ok record) :
    record.data.kind = kind ∧ account.capabilities.admits record = true := by
  unfold DnsService.draft at ok
  split at ok <;> try contradiction
  split at ok <;> try contradiction
  split at ok <;> try contradiction
  rename_i supported
  obtain ⟨parsed,_,ok⟩ := bindOk ok
  obtain ⟨data,read,ok⟩ := bindOk ok
  obtain ⟨_,bounded,ok⟩ := bindOk ok
  cases ok
  have kinds := parseKind (mapErrorOk read)
  obtain ⟨low,high⟩ := ttlBounds (mapErrorOk bounded)
  simpa [ProviderCapabilities.admits,kinds,low,high] using supported

theorem createKept (echoes : Echoes service.provider) (kept : Kept start zoneId w) :
    Leaves (service.observed.createRecord env role zoneId name kind value ttl expected) w (Kept start zoneId) := by
  refine .asks (fun _ _ => ?_) (fun _ _ => kept)
  refine .andThen (.weaken DnsService.zoneAccountEnds ?_ (fun _ _ same => same ▸ kept))
  rintro ⟨zone,account⟩ _ ⟨rfl,row,found,_,held⟩
  refine .asks (fun draft drafted => ?_) (fun _ _ => kept)
  obtain ⟨kinds,admits⟩ := draftAdmitted drafted
  refine .andThen (.weaken localRecordsEnds ?_ (fun _ _ stopped => stopped.2.1 ▸ kept))
  rintro existing _ ⟨rfl,readable,listed⟩
  refine .asks (fun credential opened => ?_) (fun _ _ => kept)
  split at opened
  · cases opened
  rename_i free
  have more := admittedMore kept (capabilitiesFound kept found held) admits
  refine .andThen (.within (handingEnds ?_ (fun _ _ => keptRemote kept more)))
  intro created remote made
  obtain ⟨named,same⟩ := echoes.created made
  refine .andThen (.gives (importKept (keptRemote kept more) ?_) ?_)
  · intro row mem own _
    refine guardedApart kept.valid readable listed mem own (fun r inside _ => ?_)
    rw [named,same,kinds]
    exact Bool.eq_false_iff.mpr (fun hit => free (List.any_eq_true.mpr ⟨r,inside,hit⟩))
  · intro _ _ stored
    exact .andThen (queryEnds (fun _ _ => .returns stored) (fun _ => stored) (fun _ _ => stored))

theorem revisionOk {account name value kind ttl revised} (ok : service.revision account name kind value ttl = .ok revised) :
    revised.2.kind = kind ∧ account.capabilities.minimumTtl ≤ ttl ∧ ttl ≤ account.capabilities.maximumTtl := by
  obtain ⟨_,_,ok⟩ := bindOk ok
  obtain ⟨_,_,ok⟩ := bindOk ok
  obtain ⟨data,read,ok⟩ := bindOk ok
  obtain ⟨_,bounded,ok⟩ := bindOk ok
  cases ok
  exact ⟨parseKind (mapErrorOk read),ttlBounds (mapErrorOk bounded)⟩

theorem updateKept (echoes : Echoes service.provider) (kept : Kept start zoneId w)
    (supported : ∀ capabilities ∈ capabilitiesOf w zoneId, capabilities.supports kind = true) :
    Leaves (service.observed.updateRecord env role zoneId remoteId name kind value ttl expected) w (Kept start zoneId) := by
  refine .asks (fun _ _ => ?_) (fun _ _ => kept)
  refine .andThen (.weaken DnsService.zoneAccountEnds ?_ (fun _ _ same => same ▸ kept))
  rintro ⟨zone,account⟩ _ ⟨rfl,row,found,_,held⟩
  refine .asks ?_ (fun _ _ => kept)
  rintro ⟨parsed,data⟩ revised
  obtain ⟨kinds,low,high⟩ := revisionOk revised
  refine .andThen (.weaken localRecordsEnds ?_ (fun _ _ stopped => stopped.2.1 ▸ kept))
  rintro existing next ⟨rfl,readable,listed⟩
  refine .asks (fun target _ => ?_) (fun _ _ => kept)
  refine .asks (fun credential opened => ?_) (fun _ _ => kept)
  split at opened
  · cases opened
  rename_i free
  have admits : account.capabilities.admits ⟨remoteId,parsed,data,ttl,target.remoteVersion⟩ = true := by
    have own : capabilitiesOf next zoneId = some account.capabilities := by simp [capabilitiesOf,found,held]
    have kindly := supported _ own
    simpa [ProviderCapabilities.admits,kinds,low,high] using kindly
  have more := admittedMore kept (capabilitiesFound kept found held) admits
  refine .andThen (.within (handingEnds ?_ (fun _ _ => keptRemote kept more)))
  intro updated remote made
  obtain ⟨identified,named,same⟩ := echoes.updated made
  refine .andThen (.gives (importKept (keptRemote kept more) ?_) ?_)
  · intro row mem own other
    refine guardedApart kept.valid readable listed mem own (fun r inside this => ?_)
    have away : r.remoteId ≠ remoteId := by
      rintro rfl
      exact other (by rw [this,identified]; rfl)
    rw [named,same,kinds]
    refine Bool.eq_false_iff.mpr (fun hit => free (List.any_eq_true.mpr ⟨r,inside,?_⟩))
    rw [Bool.and_eq_true,bne_iff_ne]
    exact ⟨away,hit⟩
  · intro _ _ stored
    exact .andThen (queryEnds (fun _ _ => .returns stored) (fun _ => stored) (fun _ _ => stored))

theorem deleteKept (kept : Kept start zoneId w) :
    Leaves (service.observed.deleteRecord env role zoneId remoteId expected) w (Kept start zoneId) := by
  refine .asks (fun _ _ => ?_) (fun _ _ => kept)
  refine .andThen (.weaken DnsService.zoneAccountEnds ?_ (fun _ _ same => same ▸ kept))
  rintro ⟨zone,account⟩ _ ⟨rfl,_⟩
  refine .asks (fun _ _ => ?_) (fun _ _ => kept)
  refine .andThen (.weaken localRecordsEnds ?_ (fun _ _ stopped => stopped.2.1 ▸ kept))
  rintro existing here ⟨rfl,_⟩
  refine .asks (fun target _ => ?_) (fun _ _ => kept)
  refine .asks (fun credential _ => ?_) (fun _ _ => kept)
  have remains : ∀ remote, Kept start zoneId {here with remote := (remote,here.remote.2)} :=
    fun remote => keptRemote kept kept.admitted
  refine .andThen (.within (.within (.whatever (fun _ remote => ?_) (fun _ remote => remains remote))))
  refine .andThen (executeEnds ?_ (fun _ => remains remote) (fun _ _ => remains remote))
  intro next deleted
  cases deleted
  have gone : Kept start zoneId {here with
      records := Rows.delete RecordRow.key (zoneId,remoteId) here.records, remote := (remote,here.remote.2)} :=
    ⟨kept.zones,kept.accounts,Rows.deleteUnique kept.unique,deleteValid (remains remote).valid,kept.admitted⟩
  exact queryEnds (fun _ _ => gone) (fun _ => gone) (fun _ _ => gone)

theorem serveKept (echoes : Echoes service.provider) (kept : Kept start zoneId w)
    (allowed : supportedUpdates zoneId w call) (served : serve service zoneId w call = some next) : Kept start zoneId next := by
  obtain ⟨env,call⟩ := call
  cases Option.some.inj served
  cases call with
  | create role name kind value ttl expected =>
    exact Ends.always (Ends.after (createKept echoes kept) (fun _ _ left => Ends.returns left) (fun _ _ left => left))
  | update role remoteId name kind value ttl expected =>
    exact Ends.always (Ends.after (updateKept echoes kept allowed) (fun _ _ left => Ends.returns left)
      (fun _ _ left => left))
  | delete role remoteId expected => exact Ends.always (deleteKept kept)

theorem handedAdmissible (service : DnsService σ) (echoes : Echoes service.provider) (zoneId : Uuid) {start calls last}
    (run : Run (serve service zoneId) (supportedUpdates zoneId) start calls last)
    (unique : Rows.Unique RecordRow.key start.records) (valid : SetValid start zoneId) (unasked : start.remote.2 = []) :
    (∀ record ∈ last.remote.2, ∃ capabilities ∈ capabilitiesOf start zoneId, capabilities.admits record = true) ∧
      SetValid last zoneId := by
  have first : Kept start zoneId start :=
    ⟨rfl,rfl,unique,(rowsValid unique).mp valid,by simp [unasked]⟩
  have kept := run.keeps (fun _ _ _ kept allowed served => serveKept echoes kept allowed served) first
  exact ⟨kept.admitted,(rowsValid kept.unique).mpr kept.valid⟩

end Calls

theorem fakeEchoes (draw) : Echoes (fakeProvider draw) where
  created made := by
    obtain ⟨_,_,rfl,_⟩ := fakeCreated made
    exact ⟨rfl,rfl⟩
  updated made := by
    simp only [fakeProvider,execAttempt] at made
    split at made
    · cases made
    · rename_i step
      split at step <;> cases step
      cases made
      exact ⟨rfl,rfl,rfl⟩

def unasked : DnsWorld (FakeDnsProvider × List RemoteRecord) := {emptyZone with remote := (emptyZone.remote,[])}

def challenge : DnsEnv × RecordCall := (calmDns,.create .owner "challenge.example.test" .txt "token" 300 "v1")

def renamed (kind : RecordKind) (value : String) : DnsEnv × RecordCall :=
  (calmDns,.update .owner "r" "www.example.test" kind value 600 "v1")

theorem handedAdmissibleRenamed : ∃ last,
    Run (serve fakeService 3) (supportedUpdates 3) unasked [challenge,renamed .txt "other"] last ∧
    last.remote.2.map RemoteRecord.ttl = [300,600] ∧
    (∀ record ∈ last.remote.2, ∃ capabilities ∈ capabilitiesOf unasked 3, capabilities.admits record = true) ∧
    SetValid last 3 := by
  obtain ⟨last,run,shown⟩ := replayShows (serve fakeService 3) (supportedUpdates 3) unasked [challenge,renamed .txt "other"]
    (fun w => w.remote.2.map RemoteRecord.ttl = [300,600]) (by decide +kernel)
  exact ⟨last,run,shown,handedAdmissible fakeService (fakeEchoes longer) 3 run (by decide) ⟨[],rfl,rfl⟩ rfl⟩

theorem unsupportedHanded : ∃ last,
    Run (serve fakeService 3) free unasked [challenge,renamed .cname "example.test"] last ∧
    ∃ record ∈ last.remote.2, ∀ capabilities ∈ capabilitiesOf unasked 3, capabilities.supports record.data.kind = false :=
  replayShows _ _ _ _ _ (by decide +kernel)

end OpenPanel.Dns
