import OpenPanel.DnsRecords
import OpenPanel.Users

/-! The DNS service over the tables of its SQLite repository and over a provider
with a state of its own. Rows are read through the constructors; capabilities and record
data are stored as the values they serialize. Any statement and the audit may fail. -/
namespace OpenPanel.Dns
open Fallible
open Identity (Role)

inductive DnsServiceError where
  | invalid
  | forbidden
  | notFound
  | conflict
  | provider (message : String)
  | repository
  | crypto
  deriving DecidableEq

structure ProviderCredential where
  value : String
  valid : (trim value.toList ≠ [] ∧ value.utf8ByteSize ≤ 4096) ∧ value.toList.all (fun c => !isControl c) = true

def ProviderCredential.new (value : String) : Except DnsServiceError ProviderCredential :=
  if valid : (trim value.toList ≠ [] ∧ value.utf8ByteSize ≤ 4096) ∧ value.toList.all (fun c => !isControl c) = true then
    .ok ⟨value,valid⟩
  else .error .invalid

structure StoredProviderAccount where
  id : Uuid
  kind : String
  name : String
  capabilities : ProviderCapabilities
  enabled : Bool
  encryptedCredential : String

structure ProviderZone where
  id : Uuid
  remoteId : String
  name : DnsName
  remoteVersion : RemoteVersion
  lastSuccess : Option String
  lastError : Option String
  driftStatus : String

structure RemoteRecord where
  remoteId : String
  name : DnsName
  data : RecordData
  ttl : UInt32
  remoteVersion : RemoteVersion

section Repository

structure ZoneRow where
  id : Uuid
  accountId : Uuid
  remoteId : String
  name : String
  remoteVersion : String
  lastSuccess : Option String
  lastError : Option String
  driftStatus : String

structure RecordRow where
  zoneId : Uuid
  remoteId : String
  name : String
  data : RecordData
  ttl : Int
  remoteVersion : String

def unreadable (_ : DnsError) : DnsServiceError := .repository

def ZoneRow.providerZone (row : ZoneRow) : Except DnsServiceError ProviderZone := do
  let name ← (DnsName.new row.name).mapError unreadable
  let version ← (RemoteVersion.new row.remoteVersion).mapError unreadable
  return ⟨row.id,row.remoteId,name,version,row.lastSuccess,row.lastError,row.driftStatus⟩

def RecordRow.ofRecord (zoneId : Uuid) (record : RemoteRecord) : RecordRow :=
  ⟨zoneId,record.remoteId,record.name.text,record.data,record.ttl.toNat,record.remoteVersion.text⟩

def ttlOf (ttl : Int) : Except DnsServiceError UInt32 :=
  if 0 ≤ ttl ∧ ttl < 4294967296 then .ok (UInt32.ofNat ttl.toNat) else .error .repository

def RecordRow.remoteRecord (row : RecordRow) : Except DnsServiceError RemoteRecord := do
  let name ← (DnsName.new row.name).mapError unreadable
  let ttl ← ttlOf row.ttl
  let version ← (RemoteVersion.new row.remoteVersion).mapError unreadable
  return ⟨row.remoteId,name,row.data,ttl,version⟩

def RecordRow.key (row : RecordRow) : Uuid × String := (row.zoneId,row.remoteId)

-- `rows.iter().map(read).collect()`.
def collect {α β ε : Type} (read : α → Except ε β) : List α → Except ε (List β)
  | [] => .ok []
  | a::rest => do
    let b ← read a
    let bs ← collect read rest
    return b::bs

def textLe : List Char → List Char → Bool
  | [],_ => true
  | _::_,[] => false
  | a::as,b::bs => a.toNat < b.toNat || a == b && textLe as bs

def RecordRow.before (a b : RecordRow) : Bool :=
  if a.name = b.name then textLe a.remoteId.toList b.remoteId.toList else textLe a.name.toList b.name.toList

structure DnsWorld (σ : Type) where
  accounts : List StoredProviderAccount
  zones : List ZoneRow
  records : List RecordRow
  remote : σ

inductive DnsStep where
  | zones
  | zone
  | account
  | records
  | importRecord (index : Nat)
  | deleteRecord
  | audit

structure DnsEnv where
  draftId : Uuid
  fault : DnsStep → Bool

variable (env : DnsEnv)

abbrev Calls (σ : Type) := Prog (DnsWorld σ) DnsServiceError

def query {α : Type} (step : DnsStep) (rows : DnsWorld σ → Except DnsServiceError α) : Calls σ α :=
  reads (fun w => if env.fault step then .error .repository else rows w)

def execute (step : DnsStep) (change : DnsWorld σ → Except DnsServiceError (DnsWorld σ)) : Calls σ Unit :=
  attempt (fun w => if env.fault step then .error .repository else (change w).map (fun next => ((),next)))

def zones : Calls σ (List ProviderZone) :=
  query env .zones (fun w =>
    collect ZoneRow.providerZone (w.zones.insertionSort (fun a b => textLe a.name.toList b.name.toList)))

def account (id : Uuid) : Calls σ StoredProviderAccount :=
  query env .account (fun w => match w.accounts.find? (fun a => a.id == id) with
    | none => .error .notFound
    | some account => .ok account)

def zoneAccount (zoneId : Uuid) : Calls σ (ProviderZone × StoredProviderAccount) := do
  let row ← query env .zone (fun w => match w.zones.find? (fun z => z.id == zoneId) with
    | none => .error .notFound
    | some row => .ok row)
  let zone ← reads (fun _ => row.providerZone)
  let account ← account env row.accountId
  return (zone,account)

def localRecords (zoneId : Uuid) : Calls σ (List RemoteRecord) :=
  query env .records (fun w =>
    collect RecordRow.remoteRecord ((w.records.filter (fun r => r.zoneId == zoneId)).insertionSort (fun a b => a.before b)))

def upsert (row : RecordRow) (rows : List RecordRow) : List RecordRow :=
  if rows.any (fun r => r.key == row.key) then Rows.update RecordRow.key row.key (fun _ => row) rows else rows ++ [row]

def importRecords (zoneId : Uuid) : Nat → List RemoteRecord → Calls σ Unit
  | _,[] => pure ()
  | index,record::rest => do
    execute env (.importRecord index) (fun w =>
      if w.zones.any (fun z => z.id == zoneId) then .ok {w with records := upsert (.ofRecord zoneId record) w.records}
      else .error .repository)
    importRecords zoneId (index + 1) rest

def deleteLocalRecord (zoneId : Uuid) (remoteId : String) : Calls σ Unit :=
  execute env .deleteRecord (fun w => .ok {w with records := Rows.delete RecordRow.key (zoneId,remoteId) w.records})

def audited : Calls σ Unit := query env .audit (fun _ => .ok ())

end Repository

structure Provider (σ : Type) where
  createRecord : ProviderCredential → String → RemoteRecord → RemoteVersion → Prog σ DnsServiceError RemoteRecord
  updateRecord : ProviderCredential → String → RemoteRecord → RemoteVersion → Prog σ DnsServiceError RemoteRecord
  deleteRecord : ProviderCredential → String → String → RemoteVersion → Prog σ DnsServiceError RemoteVersion

structure DnsService (σ : Type) where
  provider : Provider σ
  decrypt : String → Except DnsServiceError String
  addresses : Addresses

structure TxtLease where
  zoneId : Uuid
  remoteId : String
  remoteVersion : RemoteVersion

namespace DnsService

variable (service : DnsService σ) (env : DnsEnv)

def owner (role : Role) : Except DnsServiceError Unit := if role = .owner then .ok () else .error .forbidden

def credential (account : StoredProviderAccount) : Except DnsServiceError ProviderCredential := do
  let plain ← service.decrypt account.encryptedCredential
  ProviderCredential.new plain

def onProvider {α : Type} (prog : Prog σ DnsServiceError α) : Calls σ α :=
  zoom DnsWorld.remote (fun remote w => {w with remote := remote}) (fun e => e) prog

def refused (_ : DnsError) : DnsServiceError := .invalid

def recordName (kind : RecordKind) (name : String) : Except DnsError DnsName :=
  if kind = .txt then DnsName.newWithUnderscore name else DnsName.new name

def draft (zone : ProviderZone) (account : StoredProviderAccount) (name : String) (kind : RecordKind) (value : String)
    (ttl : UInt32) (expected : String) : Except DnsServiceError RemoteRecord :=
  if account.enabled = false then .error .forbidden
  else if zone.remoteVersion.text ≠ expected then .error .conflict
  else if account.capabilities.supports kind = false then .error .invalid
  else do
    let name ← (recordName kind name).mapError refused
    let data ← (RecordData.parse service.addresses kind value).mapError refused
    (Ttl.new ttl account.capabilities.minimumTtl account.capabilities.maximumTtl).mapError refused
    return ⟨env.draftId.hyphenated,name,data,ttl,zone.remoteVersion⟩

-- `CNAME` shares its name with no other record.
def shares (name : DnsName) (kind : RecordKind) (record : RemoteRecord) : Bool :=
  record.name == name && (record.data.kind == .cname || kind == .cname)

def createRecord (role : Role) (zoneId : Uuid) (name : String) (kind : RecordKind) (value : String) (ttl : UInt32)
    (expected : String) : Calls σ RemoteRecord := do
  reads (fun _ => owner role)
  let (zone,account) ← zoneAccount env zoneId
  let draft ← reads (fun _ => service.draft env zone account name kind value ttl expected)
  let existing ← localRecords env zoneId
  let credential ← reads (fun _ => if existing.any (shares draft.name kind) then .error .invalid else service.credential account)
  let created ← onProvider (service.provider.createRecord credential zone.remoteId draft zone.remoteVersion)
  importRecords env zoneId 0 [created]
  audited env
  return created

def target (remoteId expected : String) (existing : List RemoteRecord) : Except DnsServiceError RemoteRecord :=
  match existing.find? (fun r => r.remoteId == remoteId) with
  | none => .error .notFound
  | some record => if record.remoteVersion.text ≠ expected then .error .conflict else .ok record

def enabled (account : StoredProviderAccount) : Except DnsServiceError Unit :=
  if account.enabled = false then .error .forbidden else .ok ()

def deleteRecord (role : Role) (zoneId : Uuid) (remoteId expected : String) : Calls σ Unit := do
  reads (fun _ => owner role)
  let (zone,account) ← zoneAccount env zoneId
  reads (fun _ => enabled account)
  let existing ← localRecords env zoneId
  let target ← reads (fun _ => target remoteId expected existing)
  let credential ← reads (fun _ => service.credential account)
  let _ ← onProvider (service.provider.deleteRecord credential zone.remoteId remoteId target.remoteVersion)
  deleteLocalRecord env zoneId remoteId
  audited env

def revision (account : StoredProviderAccount) (name : String) (kind : RecordKind) (value : String) (ttl : UInt32) :
    Except DnsServiceError (DnsName × RecordData) := do
  enabled account
  let name ← (DnsName.new name).mapError refused
  let data ← (RecordData.parse service.addresses kind value).mapError refused
  (Ttl.new ttl account.capabilities.minimumTtl account.capabilities.maximumTtl).mapError refused
  return (name,data)

def updateRecord (role : Role) (zoneId : Uuid) (remoteId name : String) (kind : RecordKind) (value : String) (ttl : UInt32)
    (expected : String) : Calls σ RemoteRecord := do
  reads (fun _ => owner role)
  let (zone,account) ← zoneAccount env zoneId
  let (name,data) ← reads (fun _ => service.revision account name kind value ttl)
  let existing ← localRecords env zoneId
  let target ← reads (fun _ => target remoteId expected existing)
  let credential ← reads (fun _ =>
    if existing.any (fun r => r.remoteId != remoteId && shares name kind r) then .error .invalid
    else service.credential account)
  let updated ← onProvider (service.provider.updateRecord credential zone.remoteId
    ⟨remoteId,name,data,ttl,target.remoteVersion⟩ target.remoteVersion)
  importRecords env zoneId 0 [updated]
  audited env
  return updated

def records (zoneId : Uuid) : Calls σ (List RemoteRecord) := localRecords env zoneId

def createTxtLease (role : Role) (zoneId : Uuid) (name value : String) : Calls σ TxtLease := do
  let all ← zones env
  let zone ← reads (fun _ => match all.find? (fun z => z.id == zoneId) with
    | none => .error .notFound
    | some zone => .ok zone)
  let created ← service.createRecord env role zoneId name .txt value 300 zone.remoteVersion.text
  return ⟨zoneId,created.remoteId,created.remoteVersion⟩

def cleanupTxtLease (role : Role) (lease : TxtLease) : Calls σ Unit :=
  service.deleteRecord env role lease.zoneId lease.remoteId lease.remoteVersion.text

end DnsService

structure FakeDnsProvider where
  zone : ProviderZone
  records : List RemoteRecord

structure Draw where
  next : List String → String
  unused : ∀ ids, next ids ∉ ids

def FakeDnsProvider.expects (state : FakeDnsProvider) (zoneId : String) (expected : RemoteVersion) : Bool :=
  zoneId == state.zone.remoteId && expected == state.zone.remoteVersion

def fakeProvider (draw : Draw) : Provider FakeDnsProvider where
  createRecord _ zoneId record expected := attempt (fun state =>
    if state.expects zoneId expected then
      let created := {record with remoteId := draw.next (state.records.map RemoteRecord.remoteId)}
      .ok (created,{state with records := state.records ++ [created]})
    else .error .conflict)
  updateRecord _ zoneId record expected := attempt (fun state =>
    if state.expects zoneId expected then
      .ok (record,{state with records := Rows.delete RemoteRecord.remoteId record.remoteId state.records ++ [record]})
    else .error .conflict)
  deleteRecord _ zoneId recordId expected := attempt (fun state =>
    if state.expects zoneId expected then
      .ok (state.zone.remoteVersion,{state with records := Rows.delete RemoteRecord.remoteId recordId state.records})
    else .error .conflict)

def longer : Draw where
  next ids := String.ofList ('r'::(ids.map String.toList).flatten)
  unused ids mem := by
    have short := (List.sublist_flatten_of_mem (List.mem_map_of_mem (f := String.toList) mem)).length_le
    rw [String.toList_ofList,List.length_cons] at short
    omega

def exampleTest : ProviderZone :=
  ⟨3,"example-test",⟨"example.test",by decide +kernel⟩,⟨"v1",by decide +kernel⟩,none,none,"synchronized"⟩

def fakeService : DnsService FakeDnsProvider := ⟨fakeProvider longer,fun stored => .ok stored,⟨fun _ => none,fun _ => none⟩⟩

def emptyZone : DnsWorld FakeDnsProvider where
  accounts := [⟨7,"fake","Test",⟨[.a,.txt],60,86400,false⟩,true,"secret"⟩]
  zones := [⟨3,7,"example-test","example.test","v1",none,none,"synchronized"⟩]
  records := []
  remote := ⟨exampleTest,[]⟩

def calmDns : DnsEnv := ⟨12,fun _ => false⟩

end OpenPanel.Dns
