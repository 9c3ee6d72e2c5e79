import OpenPanel.DnsService

/-! What the calls of the DNS service come to, statement by statement: which
rows a zone's records are read from, when they cannot be read, and which way
leads from a zone to the account that serves it. -/
namespace OpenPanel.Dns
open Fallible
open Identity (Role)

theorem queryEnds {rows : DnsWorld σ → Except DnsServiceError α} {post : α → DnsWorld σ → Prop}
    (done : ∀ a, rows w = .ok a → post a w)
    (faulted : env.fault step = true → failed .repository w) (stopped : ∀ e, rows w = .error e → failed e w) :
    Ends (query env step rows) w post failed := by
  refine .checks ?_ ?_
  · intro a read
    split at read
    · cases read
    · exact done a read
  · intro e read
    split at read
    · cases read
      exact faulted (by assumption)
    · exact stopped e read

theorem queryOk {a} (calm : env.fault step = false) (read : rows w = .ok a)
    (done : post a w) : Ends (query env step rows) w post failed :=
  Ends.knows (by rw [calm]; exact read) done

theorem executeEnds {post : Unit → DnsWorld σ → Prop} (done : ∀ next, change w = .ok next → post () next)
    (faulted : env.fault step = true → failed .repository w) (stopped : ∀ e, change w = .error e → failed e w) :
    Ends (execute env step change) w post failed := by
  refine .attempts ?_ ?_
  · intro _ next ran
    split at ran
    · cases ran
    · obtain ⟨made,changed,same⟩ := mapOk ran
      cases same
      exact done _ changed
  · intro e ran
    split at ran
    · cases ran
      exact faulted (by assumption)
    · exact stopped e (mapFails ran)

section Rows

variable {read : α → Except ε β}

theorem collectMem (ok : collect read as = .ok bs) (b) : b ∈ bs ↔ ∃ a ∈ as, read a = .ok b := by
  induction as generalizing bs with
  | nil =>
    cases ok
    simp
  | cons a rest ih =>
    obtain ⟨first,here,ok⟩ := bindOk ok
    obtain ⟨others,later,ok⟩ := bindOk ok
    cases ok
    rw [List.mem_cons,ih later,List.exists_mem_cons_iff,here,Except.ok.injEq,@eq_comm _ b]

theorem collectReads (ok : collect read as = .ok bs) : ∀ a ∈ as, ∃ b, read a = .ok b := by
  induction as generalizing bs with
  | nil => simp
  | cons a rest ih =>
    obtain ⟨first,here,ok⟩ := bindOk ok
    obtain ⟨others,later,_⟩ := bindOk ok
    exact List.forall_mem_cons.mpr ⟨⟨first,here⟩,ih later⟩

theorem collectOk (all : ∀ a ∈ as, ∃ b, read a = .ok b) : ∃ bs, collect read as = .ok bs := by
  induction as with
  | nil => exact ⟨[],rfl⟩
  | cons a rest ih =>
    obtain ⟨⟨b,here⟩,later⟩ := List.forall_mem_cons.mp all
    obtain ⟨bs,ok⟩ := ih later
    exact ⟨b::bs,by simp only [collect,here,ok,okBind]; rfl⟩

theorem collectError (stopped : collect read as = .error e) : ∃ a ∈ as, read a = .error e := by
  induction as with
  | nil => cases stopped
  | cons a rest ih =>
    unfold collect at stopped
    cases here : read a with
    | error reason =>
      rw [here] at stopped
      cases stopped
      exact ⟨a,List.mem_cons_self,here⟩
    | ok b =>
      rw [here,okBind] at stopped
      cases later : collect read rest with
      | error reason =>
        rw [later] at stopped
        cases stopped
        obtain ⟨a,mem,failed⟩ := ih later
        exact ⟨a,List.mem_cons_of_mem _ mem,failed⟩
      | ok bs =>
        rw [later] at stopped
        cases stopped

theorem memUpsert : r ∈ upsert row rows ↔ r = row ∨ r ∈ rows ∧ r.key ≠ row.key := by
  unfold upsert
  split
  · rename_i taken
    obtain ⟨old,mem,hit⟩ := List.any_eq_true.mp taken
    constructor
    · intro inside
      rcases Rows.memUpdate inside with kept | ⟨_,_,_,rfl⟩
      · exact .inr kept
      · exact .inl rfl
    · rintro (rfl | ⟨mem,other⟩)
      · exact Rows.updateHit mem (beq_iff_eq.mp hit)
      · exact Rows.updateOther mem other
  · rename_i fresh
    have other : ∀ r ∈ rows, r.key ≠ row.key := by
      intro r mem same
      exact fresh (List.any_eq_true.mpr ⟨r,mem,beq_iff_eq.mpr same⟩)
    rw [List.mem_append,List.mem_singleton,or_comm]
    exact or_congr_right ⟨fun mem => ⟨mem,other r mem⟩,And.left⟩

theorem upsertUnique (unique : Rows.Unique RecordRow.key rows) : Rows.Unique RecordRow.key (upsert row rows) := by
  unfold upsert
  split
  · exact Rows.updateUnique unique (fun _ hit => hit.symm)
  · rename_i fresh
    refine Rows.insertUnique unique (fun old mem same => fresh ?_)
    exact List.any_eq_true.mpr ⟨old,mem,beq_iff_eq.mpr same⟩

theorem ttlBack (ttl) : ttlOf ttl.toNat = .ok ttl := by
  have small := ttl.toNat_lt
  rw [ttlOf,if_pos (by omega)]
  simp

theorem readBack (plain : '_' ∉ record.name.text.toList) : (RecordRow.ofRecord zoneId record).remoteRecord = .ok record := by
  simp only [RecordRow.remoteRecord,RecordRow.ofRecord,newAgain plain,versionAgain,ttlBack,Except.mapError,okBind]
  rfl

theorem notReadBack (marked : '_' ∈ record.name.text.toList) :
    (RecordRow.ofRecord zoneId record).remoteRecord = .error .repository := by
  simp only [RecordRow.remoteRecord,RecordRow.ofRecord,underscoreRefused marked]
  rfl

theorem unreadableRow {row : RecordRow} (failed : row.remoteRecord = .error e) : e = .repository := by
  unfold RecordRow.remoteRecord ttlOf at failed
  cases named : DnsName.new row.name with
  | error reason =>
    rw [named] at failed
    cases failed
    rfl
  | ok name =>
    rw [named,Except.mapError,okBind] at failed
    split at failed
    · cases versioned : RemoteVersion.new row.remoteVersion with
      | error reason =>
        rw [versioned] at failed
        cases failed
        rfl
      | ok version =>
        rw [versioned] at failed
        cases failed
    · cases failed
      rfl

theorem remoteIdBack {row : RecordRow} (read : row.remoteRecord = .ok record) : record.remoteId = row.remoteId := by
  obtain ⟨_,_,read⟩ := bindOk read
  obtain ⟨_,_,read⟩ := bindOk read
  obtain ⟨_,_,read⟩ := bindOk read
  cases read
  rfl

def Readable {σ : Type} (w : DnsWorld σ) (zoneId : Uuid) : Prop :=
  ∀ row ∈ w.records, row.zoneId = zoneId → ∃ record, row.remoteRecord = .ok record

variable {w : DnsWorld σ}

theorem memZone : row ∈ (w.records.filter (fun r => r.zoneId == zoneId)).insertionSort (fun a b => a.before b) ↔
      row ∈ w.records ∧ row.zoneId = zoneId := by
  rw [(List.perm_insertionSort _ _).mem_iff,List.mem_filter,beq_iff_eq]

theorem localRecordsEnds : Ends (localRecords env zoneId) w (fun records next => next = w ∧ Readable w zoneId ∧
      ∀ record, record ∈ records ↔ ∃ row ∈ w.records, row.zoneId = zoneId ∧ row.remoteRecord = .ok record)
    (fun e next => e = .repository ∧ next = w ∧ (env.fault .records = true ∨ ¬ Readable w zoneId)) := by
  refine queryEnds ?_ (fun fault => ⟨rfl,rfl,.inl fault⟩) ?_
  · intro records ok
    refine ⟨rfl,fun row mem own => collectReads ok row (memZone.mpr ⟨mem,own⟩),fun record => ?_⟩
    rw [collectMem ok]
    simp only [memZone,and_assoc]
  · intro e stopped
    obtain ⟨row,_,failed⟩ := collectError stopped
    refine ⟨unreadableRow failed,rfl,.inr (fun readable => ?_)⟩
    obtain ⟨_,ok⟩ := collectOk (fun row mem => readable row (memZone.mp mem).1 (memZone.mp mem).2)
    cases ok.symm.trans stopped

theorem recordsRead (calm : ∀ step, env.fault step = false) (readable : Readable w zoneId) :
    ∃ records, exec (localRecords env zoneId) w = (.ok records,w) := by
  have ends : Ends (localRecords env zoneId) w (fun _ next => next = w) (fun _ _ => False) := by
    refine .weaken localRecordsEnds (fun _ _ done => done.1) ?_
    rintro _ _ ⟨_,_,fault | unread⟩
    · simp [calm] at fault
    · exact unread readable
  obtain ⟨records,_,ran,rfl⟩ := ends.succeeds
  exact ⟨records,ran⟩

theorem recordsUnread (unread : ¬ Readable w zoneId) :
    Ends (localRecords env zoneId) w (fun _ _ => False) (fun e next => e = .repository ∧ next = w) :=
  Ends.weaken localRecordsEnds (fun _ _ done => unread done.2.1) (fun _ _ stopped => ⟨stopped.1,stopped.2.1⟩)

end Rows

namespace DnsService

variable {service : DnsService σ}

theorem zoneBack {row : ZoneRow} (valid : row.providerZone = .ok zone) : zone.remoteId = row.remoteId := by
  obtain ⟨_,_,valid⟩ := bindOk valid
  obtain ⟨_,_,valid⟩ := bindOk valid
  cases valid
  rfl

structure Access (service : DnsService σ) (w : DnsWorld σ) (zoneId : Uuid) (row : ZoneRow) (zone : ProviderZone)
    (account : StoredProviderAccount) (credential : ProviderCredential) : Prop where
  found : w.zones.find? (fun z => z.id == zoneId) = some row
  valid : row.providerZone = .ok zone
  held : w.accounts.find? (fun a => a.id == row.accountId) = some account
  enabled : account.enabled = true
  opened : service.credential account = .ok credential

theorem zoneAccountEnds : Ends (zoneAccount env zoneId) w
    (fun found next => next = w ∧ ∃ row, w.zones.find? (fun z => z.id == zoneId) = some row ∧
      row.providerZone = .ok found.1 ∧ w.accounts.find? (fun a => a.id == row.accountId) = some found.2) (fun _ next => next = w) := by
  refine .andThen (queryEnds ?_ (fun _ => rfl) (fun _ _ => rfl))
  intro row read
  split at read <;> cases read
  rename_i found
  refine .asks ?_ (fun _ _ => rfl)
  intro zone valid
  refine .andThen (queryEnds ?_ (fun _ => rfl) (fun _ _ => rfl))
  intro account read
  split at read <;> cases read
  rename_i held
  exact .returns ⟨rfl,row,found,valid,held⟩

theorem draftOk {zone account name value expected kind ttl record}
    (ok : service.draft env zone account name kind value ttl expected = .ok record) :
    account.enabled = true ∧ record.remoteVersion = zone.remoteVersion ∧ recordName kind name = .ok record.name := by
  unfold draft at ok
  split at ok <;> try contradiction
  rename_i enabled
  split at ok <;> try contradiction
  split at ok <;> try contradiction
  obtain ⟨parsed,named,ok⟩ := bindOk ok
  obtain ⟨data,_,ok⟩ := bindOk ok
  obtain ⟨_,_,ok⟩ := bindOk ok
  cases ok
  exact ⟨by simpa using enabled,rfl,mapErrorOk named⟩

end DnsService

theorem fakeCreated (made : exec ((fakeProvider draw).createRecord credential zoneId draft expected) state = (.ok record,next)) :
    zoneId = state.zone.remoteId ∧ expected = state.zone.remoteVersion ∧
      record = {draft with remoteId := draw.next (state.records.map RemoteRecord.remoteId)} ∧
      next = {state with records := state.records ++ [record]} := by
  simp only [fakeProvider,execAttempt] at made
  split at made
  · cases made
  · rename_i step
    split at step <;> cases step
    rename_i expects
    cases made
    simp only [FakeDnsProvider.expects,Bool.and_eq_true,beq_iff_eq] at expects
    exact ⟨expects.1,expects.2,rfl,rfl⟩

theorem fakeDeleted :
    exec ((fakeProvider draw).deleteRecord credential state.zone.remoteId recordId state.zone.remoteVersion) state =
      (.ok state.zone.remoteVersion,{state with records := Rows.delete RemoteRecord.remoteId recordId state.records}) := by
  simp [fakeProvider,execAttempt,FakeDnsProvider.expects]

end OpenPanel.Dns
