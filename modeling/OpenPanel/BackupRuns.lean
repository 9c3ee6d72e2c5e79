import OpenPanel.SiteArchive

/-! Runs of backup plans, their artifacts and the retention policy. SHA-256 is a
parameter, and so are the rows and the dump a capture reads; what it writes for one
resource is here. -/
namespace OpenPanel.Backups

inductive BackupError where
  | invalid (detail : String)
  | invalidTransition

def BackupError.message : BackupError → String
  | .invalid detail => "invalid backup value: " ++ detail
  | .invalidTransition => "invalid backup transition"

inductive BackupResource where
  | site (id : Uuid)
  | database (id : Uuid)
  | panelMetadata
  deriving DecidableEq

structure BackupArtifact where
  resource : BackupResource
  path : String
  size : Nat
  sha256 : String
  deriving DecidableEq

def BackupArtifact.verify (sha256 : Bytes → String) (artifact : BackupArtifact) (content : Bytes) : Bool :=
  artifact.size == content.length && artifact.sha256 == sha256 content

def hexEncode (bytes : Bytes) : String :=
  String.ofList (bytes.flatMap (fun b => [hexDigit (b.toNat / 16),hexDigit (b.toNat % 16)]))

def toLowercase (text : String) : String := String.ofList (text.toList.map Char.toLower)

namespace BackupArtifact

variable (sha256 : Bytes → Bytes)

def new (resource : BackupResource) (path : String) (content : Bytes) : Except BackupServiceError BackupArtifact := do
  (RestorePath.check path.toUTF8.toList).mapError .validation
  return ⟨resource,path,content.length,hexEncode (sha256 content)⟩

def fromDigest (resource : BackupResource) (path : String) (size : Nat) (sha256 : String) :
    Except BackupServiceError BackupArtifact := do
  (RestorePath.check path.toUTF8.toList).mapError .validation
  if sha256.utf8ByteSize ≠ 64 ∨ sha256.toList.all isAsciiHexdigit = false then
    .error (.validation (BackupError.invalid "invalid SHA-256").message)
  else .ok ⟨resource,path,size,toLowercase sha256⟩

end BackupArtifact

inductive Source where
  | panelMetadata
  | site (id : Uuid) (tree : Tree) (documentRoot : Path)
  | database (id : Uuid) (dump : Bytes)

-- The object of the two fields `format_version` 1 and `secrets` "redacted".
def panelManifest : Bytes :=
  "\x7b\"format_version\":1,\"secrets\":\"redacted\"\x7d".toUTF8.toList

def Source.capture (sha256 : Bytes → Bytes) : Source → Except BackupServiceError (BackupArtifact × Bytes)
  | .panelMetadata => do
    let artifact ← BackupArtifact.new sha256 .panelMetadata "panel.json" panelManifest
    return (artifact,panelManifest)
  | .site id tree documentRoot => do
    let archive ← streamSiteArchive tree documentRoot
    let artifact ← BackupArtifact.fromDigest (.site id) ("site-" ++ id.hyphenated ++ ".opfs") archive.length
      (hexEncode (sha256 archive))
    return (artifact,archive)
  | .database id dump => do
    let artifact ← BackupArtifact.new sha256 (.database id) ("database-" ++ id.hyphenated ++ ".sql") dump
    return (artifact,dump)

inductive BackupRunState where
  | pending | running | completed | failed | cancelled | corrupt
  deriving DecidableEq

structure BackupRun where
  id : Uuid
  planId : Uuid
  ownerId : Uuid
  state : BackupRunState
  artifacts : List BackupArtifact
  finalized : Bool
  pinned : Bool
  createdAt : DateTime
  startedAt : Option DateTime
  finishedAt : Option DateTime
  error : Option String
  deriving DecidableEq

def BackupRun.markCorrupt (run : BackupRun) (now : DateTime) : Except BackupError BackupRun :=
  if run.state ≠ .completed then .error .invalidTransition
  else .ok {run with state := .corrupt, finishedAt := some now}

structure RetentionPolicy where
  copies : Nat
  positive : copies ≠ 0

def RetentionPolicy.ofCopies (copies : Nat) : Except BackupError RetentionPolicy :=
  if none : copies = 0 then .error (.invalid "retention copies must be positive") else .ok ⟨copies,none⟩

structure RetentionCandidate where
  id : Uuid
  sequence : Int
  completed : Bool
  pinned : Bool

def RetentionCandidate.terminal (id : Uuid) (sequence : Int) (pinned : Bool) : RetentionCandidate :=
  ⟨id,sequence,true,pinned⟩

def RetentionCandidate.active (id : Uuid) (sequence : Int) : RetentionCandidate := ⟨id,sequence,false,false⟩

-- `sort_by_key` keeps the order of equal keys, as the insertion sort does.
def RetentionPolicy.deletions (policy : RetentionPolicy) (candidates : List RetentionCandidate) : List Uuid :=
  (((candidates.filter (fun c => c.completed && !c.pinned)).insertionSort
    (fun a b => b.sequence ≤ a.sequence)).drop policy.copies).map RetentionCandidate.id

structure BackupPlan where
  id : Uuid
  ownerId : Uuid
  name : String
  resources : List BackupResource
  schedule : String
  timezone : String
  retention : RetentionPolicy
  enabled : Bool
  createdAt : DateTime
  updatedAt : DateTime
  cronJobId : Option Uuid

end OpenPanel.Backups
