import OpenPanel.Fallible
import OpenPanel.Values

/-! The importer for the panel's own bundles. A manifest declares resources, each with a
key and the path of its payload; a dry run makes a plan of them, and a run hands each planned
resource to a translator, which may answer by what it was asked before. -/
namespace OpenPanel.MigrationImporters
open Fallible (bindOk)

inductive ImportedResourceKind where | user | site | database | mailDomain | mailbox | dnsZone | cronJob | sslCertificate
  deriving DecidableEq

def ImportedResourceKind.name : ImportedResourceKind → String
  | .user => "user"
  | .site => "site"
  | .database => "database"
  | .mailDomain => "mail domain"
  | .mailbox => "mailbox"
  | .dnsZone => "DNS zone"
  | .cronJob => "cron job"
  | .sslCertificate => "SSL certificate"

inductive MigrationError where
  | invalidSourceKey (detail : String)
  | malformedSource (detail : String)
  | targetConflict (detail : String)

abbrev Bytes := List UInt8

structure ManifestResource where
  kind : ImportedResourceKind
  sourceKey : String
  payloadPath : String
  bytes : Nat
  dependsOn : Option String
  description : Option String

def ManifestResource.validate (r : ManifestResource) : Except MigrationError Unit :=
  let path := r.payloadPath.toList
  if path = [] ∨ 1024 < byteLength path then .error (.malformedSource ("invalid payload_path for " ++ r.sourceKey))
  else if path.head? = some '/' ∨ ['.','.'] ∈ path.splitOn '/' then
    .error (.malformedSource ("unsafe payload_path for " ++ r.sourceKey))
  else .ok ()

structure JsonManifest where
  format : String
  version : String
  resources : List ManifestResource

def JsonManifest.validate (manifest : JsonManifest) : Except MigrationError Unit :=
  if manifest.format ≠ "openpanel-backup" then
    .error (.malformedSource ("expected format openpanel-backup, got " ++ manifest.format))
  else if manifest.version = "" then .error (.malformedSource "manifest version must not be empty")
  else manifest.resources.forM ManifestResource.validate

structure JsonManifestBundle where
  manifest : JsonManifest
  payloads : String → Option Bytes
  valid : manifest.validate = .ok ()
  present : ∀ r ∈ manifest.resources, (payloads r.payloadPath).isSome

def missing (r : ManifestResource) : MigrationError :=
  .malformedSource ("missing payload " ++ r.payloadPath ++ " for " ++ r.sourceKey)

def JsonManifestBundle.new (manifest : JsonManifest) (payloads : String → Option Bytes) :
    Except MigrationError JsonManifestBundle :=
  match valid : manifest.validate with
  | .error e => .error e
  | .ok () => match lost : manifest.resources.find? (fun r => (payloads r.payloadPath).isNone) with
    | some r => .error (missing r)
    | none => .ok ⟨manifest,payloads,valid,by simpa [Option.isSome_iff_ne_none] using lost⟩

structure PlannedResource where
  kind : ImportedResourceKind
  sourceKey : String
  description : String
  bytes : Nat

def PlannedResource.new (kind : ImportedResourceKind) (sourceKey description : String) (bytes : Nat) :
    Except MigrationError PlannedResource :=
  if sourceKey = "" ∨ 255 < byteLength sourceKey.toList then
    .error (.invalidSourceKey ("source key must be 1..=255 chars, got " ++ toString (byteLength sourceKey.toList)))
  else .ok ⟨kind,sourceKey,description,bytes⟩

structure MigrationPlan where
  resources : List PlannedResource
  warnings : List String

structure ImportedResource where
  runId : Uuid
  kind : ImportedResourceKind
  sourceKey : String
  refId : Uuid

structure Call where
  kind : ImportedResourceKind
  sourceKey : String
  payload : Bytes
  deriving DecidableEq

namespace JsonManifestBundle

variable (b : JsonManifestBundle)

def planned (declared : ManifestResource) : Except MigrationError PlannedResource := do
  declared.validate
  let payload ← (b.payloads declared.payloadPath).elim (.error (missing declared)) .ok
  let description := declared.description.getD (declared.kind.name ++ " import")
  let planned ← PlannedResource.new declared.kind declared.sourceKey description payload.length
  if declared.bytes = payload.length then PlannedResource.new declared.kind declared.sourceKey description declared.bytes
  else pure planned

def warning (declared : ManifestResource) : Option String := do
  let key ← declared.dependsOn
  if b.manifest.resources.any (fun r => r.sourceKey == key) then none
  else some (declared.sourceKey ++ " depends on missing " ++ key)

def dryRun : Except MigrationError MigrationPlan := do
  let resources ← b.manifest.resources.mapM b.planned
  pure ⟨resources,b.manifest.resources.filterMap b.warning⟩

variable (translate : List Call → Call → Except String (Option Uuid)) (runId : Uuid)

def importEach : List Call → List PlannedResource → List Call × Except MigrationError (List ImportedResource)
  | log,[] => (log,.ok [])
  | log,planned::rest => match b.manifest.resources.find? (fun r => r.sourceKey == planned.sourceKey) with
    | none => (log,.error (.malformedSource ("manifest lost " ++ planned.sourceKey)))
    | some declared => match b.payloads declared.payloadPath with
      | none => (log,.error (.malformedSource ("missing payload for " ++ planned.sourceKey)))
      | some payload =>
        let call := ⟨planned.kind,planned.sourceKey,payload⟩
        match translate log call with
        | .error message => (log ++ [call],.error (.targetConflict (planned.sourceKey ++ ": " ++ message)))
        | .ok found =>
          let later := importEach (log ++ [call]) rest
          (later.1,later.2.map (found.toList.map (⟨runId,planned.kind,planned.sourceKey,·⟩) ++ ·))

def run (plan : MigrationPlan) : List Call × Except MigrationError (List ImportedResource) :=
  b.importEach translate runId [] plan.resources

def ownCall (r : ManifestResource) : Call := ⟨r.kind,r.sourceKey,(b.payloads r.payloadPath).getD []⟩

-- The payload of the first declaration of a key.
def lookedUp (key : String) : Option Bytes :=
  (b.manifest.resources.find? (fun r => r.sourceKey == key)).bind (fun r => b.payloads r.payloadPath)

end JsonManifestBundle

section Calls

variable {b : JsonManifestBundle}

/-- The calls up to and with the first that fails. -/
def upToError (translate : List Call → Call → Except String (Option Uuid)) : List Call → List Call → List Call
  | log,[] => log
  | log,call::rest => match translate log call with
    | .error _ => log ++ [call]
    | .ok _ => upToError translate (log ++ [call]) rest

theorem plannedNames (ok : b.planned declared = .ok planned) :
    planned.kind = declared.kind ∧ planned.sourceKey = declared.sourceKey := by
  have fields : ∀ {kind key text n p}, PlannedResource.new kind key text n = .ok p → p.kind = kind ∧ p.sourceKey = key := by
    intro kind key text n p ok
    unfold PlannedResource.new at ok
    split at ok <;> cases ok
    exact ⟨rfl,rfl⟩
  obtain ⟨_,_,ok⟩ := bindOk ok
  obtain ⟨_,_,ok⟩ := bindOk ok
  obtain ⟨_,first,ok⟩ := bindOk ok
  split at ok
  · exact fields ok
  · cases ok
    exact fields first

theorem foundPayload (mem : r ∈ b.manifest.resources) : ∃ declared payload,
    b.manifest.resources.find? (fun d => d.sourceKey == r.sourceKey) = some declared ∧ b.payloads declared.payloadPath = some payload := by
  obtain ⟨declared,found⟩ := Option.isSome_iff_exists.mp (List.find?_isSome (p := fun d => d.sourceKey == r.sourceKey).mpr ⟨r,mem,by simp⟩)
  obtain ⟨payload,stored⟩ := Option.isSome_iff_exists.mp (b.present declared (List.mem_of_find?_eq_some found))
  exact ⟨declared,payload,found,stored⟩

theorem importCalls {rs : List ManifestResource} (within : ∀ r ∈ rs, r ∈ b.manifest.resources)
    (plans : rs.mapM b.planned = .ok ps) (translate runId log) :
    (b.importEach translate runId log ps).1 =
      upToError translate log (rs.map (fun r => ⟨r.kind,r.sourceKey,(b.lookedUp r.sourceKey).getD []⟩)) := by
  induction rs generalizing ps log with
  | nil =>
    cases plans
    rfl
  | cons r rs ih =>
    rw [List.mapM_cons] at plans
    obtain ⟨p,first,plans⟩ := bindOk plans
    obtain ⟨later,others,plans⟩ := bindOk plans
    cases plans
    obtain ⟨declared,payload,found,stored⟩ := foundPayload (within r List.mem_cons_self)
    have names := plannedNames first
    simp only [JsonManifestBundle.importEach,JsonManifestBundle.lookedUp,List.map_cons,upToError,names,found,stored,Option.bind_some,
      Option.getD_some]
    cases translate log ⟨r.kind,r.sourceKey,payload⟩ with
    | error => rfl
    | ok => exact ih (fun x mem => within x (List.mem_cons_of_mem _ mem)) others _

theorem upToNone (log calls) : upToError (fun _ _ => .ok none) log calls = log ++ calls := by
  induction calls generalizing log with
  | nil => simp [upToError]
  | cons call rest ih => simp [upToError,ih]

theorem importsOwnPayloads {plan : MigrationPlan} (planned : b.dryRun = .ok plan) (runId : Uuid) :
    (∀ translate, (b.run translate runId plan).1 = upToError translate [] (b.manifest.resources.map b.ownCall)) ↔
      ∀ r ∈ b.manifest.resources, b.lookedUp r.sourceKey = b.payloads r.payloadPath := by
  obtain ⟨ps,plans,same⟩ := bindOk planned
  cases same
  have calls := fun translate => importCalls (fun _ mem => mem) plans translate runId []
  constructor
  · intro own r mem
    have listed := (calls _).symm.trans (own (fun _ _ => .ok none))
    rw [upToNone,upToNone] at listed
    have same := congrArg Call.payload (List.map_inj_left.mp (List.append_cancel_left listed) r mem)
    obtain ⟨declared,payload,found,stored⟩ := foundPayload mem
    obtain ⟨kept,there⟩ := Option.isSome_iff_exists.mp (b.present r mem)
    simpa [JsonManifestBundle.ownCall,JsonManifestBundle.lookedUp,found,stored,there] using same
  · intro own translate
    refine (calls translate).trans (congrArg _ (List.map_congr_left (fun r mem => ?_)))
    rw [own r mem]
    rfl

end Calls

def zone : ManifestResource := ⟨.dnsZone,"example.com","zones/example.com",2,none,none⟩

def vhost (key : String) : ManifestResource := ⟨.site,key,"sites/example.com",1,none,some "vhost"⟩

def stored (path : String) : Option Bytes :=
  if path = "sites/example.com" then some [1] else if path = "zones/example.com" then some [2,2] else none

def manifest (key : String) : JsonManifest := ⟨"openpanel-backup","1.0",[vhost key,zone]⟩

theorem apartImported : ∃ b plan, JsonManifestBundle.new (manifest "www.example.com") stored = .ok b ∧ b.dryRun = .ok plan ∧
    ∀ translate, (b.run translate 0x7 plan).1 =
      upToError translate [] [⟨.site,"www.example.com",[1]⟩,⟨.dnsZone,"example.com",[2,2]⟩] :=
  ⟨_,_,rfl,rfl,(importsOwnPayloads rfl 0x7).mpr (by decide +kernel)⟩

theorem zoneTakesSite : ∃ b plan, JsonManifestBundle.new (manifest "example.com") stored = .ok b ∧ b.dryRun = .ok plan ∧
    (b.run (fun _ _ => .ok none) 0x7 plan).1 = [⟨.site,"example.com",[1]⟩,⟨.dnsZone,"example.com",[1]⟩] ∧
    b.payloads zone.payloadPath = some [2,2] :=
  ⟨_,_,rfl,rfl,by decide +kernel,by decide +kernel⟩

end OpenPanel.MigrationImporters
