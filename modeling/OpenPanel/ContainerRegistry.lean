import OpenPanel.Calendar
import OpenPanel.CallPool
import OpenPanel.Rows
import OpenPanel.Values

/-! The container registry: namespaces with a quota and a counter of used bytes,
their images, and the calls that push and prune. Every repository call is a step and
may fail. Blobs and manifests are files nothing here reads back; scan results are only
written. A stored number must not be negative. -/
namespace OpenPanel.Registry
open CallPool

def NamespaceId.accepts (text : List Char) : Bool :=
  text ≠ [] && byteLength text ≤ 64 && text.all (fun c => ('a' ≤ c && c ≤ 'z') || ('0' ≤ c && c ≤ '9') || c == '-' || c == '_' || c == '.')

structure NamespaceId where
  text : List Char
  valid : NamespaceId.accepts text = true
  deriving DecidableEq

inductive RegistryError where
  | notAuthorised
  | namespaceNotFound (name : List Char)
  | imageNotFound (digest : List Char)
  | quotaExceeded (used delta limit : Nat)

def ImageDigest.accepts (text : List Char) : Bool :=
  text.take 7 = "sha256:".toList && byteLength text = 71 && (text.drop 7).all isAsciiHexdigit

structure ImageDigest where
  text : List Char
  valid : ImageDigest.accepts text = true
  lower : text.map Char.toLower = text
  deriving DecidableEq

theorem lowered (c : Char) : c.toLower = c ∨ c.toNat < 128 := by
  unfold Char.toLower
  split
  · rename_i upper
    right
    have bound : c.val.toNat ≤ 90 := UInt32.le_iff_toNat_le.mp upper.2
    exact Nat.lt_of_le_of_lt bound (by decide)
  · exact .inl rfl

theorem loweredAscii : ∀ n < 128, (Char.ofNat n).toLower.toLower = (Char.ofNat n).toLower ∧
    (Char.ofNat n).toLower.utf8Size = (Char.ofNat n).utf8Size ∧
    (isAsciiHexdigit (Char.ofNat n) = true → isAsciiHexdigit (Char.ofNat n).toLower = true) := by
  decide

theorem loweredKeeps (c) : c.toLower.toLower = c.toLower ∧ c.toLower.utf8Size = c.utf8Size ∧
    (isAsciiHexdigit c = true → isAsciiHexdigit c.toLower = true) := by
  rcases lowered c with same | ascii
  · rw [same,same]
    exact ⟨rfl,rfl,id⟩
  · have kept := loweredAscii c.toNat ascii
    rwa [Char.ofNat_toNat] at kept

theorem byteLengthLowered (text) : byteLength (text.map Char.toLower) = byteLength text := by
  have sizes : (fun (n : Nat) (c : Char) => n + c.toLower.utf8Size) = fun n c => n + c.utf8Size := by
    funext n c
    rw [(loweredKeeps c).2.1]
  rw [byteLength,List.foldl_map,sizes]
  rfl

theorem acceptsLowered (ok : ImageDigest.accepts text = true) : ImageDigest.accepts (text.map Char.toLower) = true := by
  simp only [ImageDigest.accepts,Bool.and_eq_true,decide_eq_true_eq,List.all_eq_true] at ok ⊢
  obtain ⟨⟨front,length⟩,hex⟩ := ok
  refine ⟨⟨?_,(byteLengthLowered text).trans length⟩,?_⟩
  · rw [← List.map_take,front]
    decide
  · rw [← List.map_drop]
    intro c mem
    obtain ⟨d,inside,rfl⟩ := List.mem_map.mp mem
    exact (loweredKeeps d).2.2 (hex d inside)

theorem loweredTwice (text : List Char) : (text.map Char.toLower).map Char.toLower = text.map Char.toLower := by
  rw [List.map_map]
  exact List.map_congr_left (fun c _ => (loweredKeeps c).1)

def ImageDigest.new (value : List Char) : Except RegistryError ImageDigest :=
  if ok : ImageDigest.accepts value = true then .ok ⟨value.map Char.toLower,acceptsLowered ok,loweredTwice value⟩
  else .error (.imageNotFound value)

inductive ScanStatus where | pending | clean | withFindings | failed

structure ScanResult where
  digest : ImageDigest
  scannedAt : DateTime
  findings : List String

structure StoredImage where
  digest : ImageDigest
  namespaceId : NamespaceId
  sizeBytes : Nat
  pushedAt : DateTime
  reference : Option String
  scanStatus : ScanStatus

def StoredImage.key (image : StoredImage) : NamespaceId × ImageDigest := (image.namespaceId,image.digest)

-- The largest values of `i64` and `u64`.
def maxStored : Nat := 9223372036854775807
def maxCounter : Nat := 18446744073709551615

structure ImageNamespace where
  namespaceId : NamespaceId
  owner : Uuid
  quotaBytes : Nat
  usedBytes : Nat
  quotaFits : quotaBytes ≤ maxStored

namespace ImageNamespace

def wouldExceed (ns : ImageNamespace) (delta : Nat) : Bool := ns.quotaBytes < min (ns.usedBytes + delta) maxCounter

def accountPush (ns : ImageNamespace) (delta : Nat) : ImageNamespace :=
  {ns with usedBytes := min (ns.usedBytes + delta) maxCounter}

def accountDelete (ns : ImageNamespace) (bytes : Nat) : ImageNamespace := {ns with usedBytes := ns.usedBytes - bytes}

end ImageNamespace

structure RetentionPolicy where
  maxImagesPerNs : Option Nat
  maxAgeDays : Option Nat

def overAge (policy : RetentionPolicy) (now : DateTime) (entries : List (List Char × DateTime)) : List (List Char) :=
  match policy.maxAgeDays with
  | none => []
  | some age => (entries.filter (fun entry => days age < now - entry.2)).map Prod.fst

def overCount (policy : RetentionPolicy) (entries : List (List Char × DateTime)) (chosen : List (List Char)) : List (List Char) :=
  match policy.maxImagesPerNs with
  | none => chosen
  | some count => ((entries.reverse.take (entries.length - count)).map Prod.fst).foldl
      (fun chosen digest => if digest ∈ chosen then chosen else chosen ++ [digest]) chosen

def RetentionPolicy.apply (policy : RetentionPolicy) (images : List (List Char × DateTime)) (now : DateTime) : List (List Char) :=
  let entries := images.insertionSort (fun a b => b.2 ≤ a.2)
  overCount policy entries (overAge policy now entries)

structure RegistryConfig where
  retention : RetentionPolicy
  scanOnPush : Bool

structure Store where
  namespaces : List ImageNamespace
  images : List StoredImage
  ids : Rows.Unique ImageNamespace.namespaceId namespaces
  keys : Rows.Unique StoredImage.key images

namespace Store

def findNamespace (s : Store) (id : NamespaceId) : Option ImageNamespace := s.namespaces.find? (fun row => row.namespaceId == id)

def writeUsed (id : NamespaceId) (used : Nat) (row : ImageNamespace) : ImageNamespace :=
  if row.namespaceId = id then {row with usedBytes := used} else row

theorem writtenUsed (id) (used) (row) :
    (writeUsed id used row).namespaceId = row.namespaceId ∧ (writeUsed id used row).quotaBytes = row.quotaBytes := by
  unfold writeUsed
  split <;> exact ⟨rfl,rfl⟩

def updateUsed (s : Store) (id : NamespaceId) (used : Nat) : Except String Store :=
  if maxStored < used then .error "CHECK constraint failed: used_bytes >= 0"
  else if ∃ row ∈ s.namespaces, row.namespaceId = id then
    .ok {s with namespaces := s.namespaces.map (writeUsed id used), ids := Rows.mapUnique s.ids (fun row => (writtenUsed id used row).1)}
  else .error ("namespace " ++ String.ofList id.text ++ " not found")

def findImage (s : Store) (id : NamespaceId) (digest : ImageDigest) : Option StoredImage :=
  s.images.find? (fun row => row.key == (id,digest))

def deleteImage (s : Store) (id : NamespaceId) (digest : ImageDigest) : Store :=
  {s with images := Rows.delete StoredImage.key (id,digest) s.images, keys := Rows.deleteUnique s.keys}

theorem replacedKeys {images} (keys : Rows.Unique StoredImage.key images) (image) :
    Rows.Unique StoredImage.key (Rows.delete StoredImage.key image.key images ++ [image]) :=
  Rows.insertUnique (Rows.deleteUnique keys) (fun _ mem => (Rows.memDelete.mp mem).2)

-- `INSERT OR REPLACE`.
def insertImage (s : Store) (image : StoredImage) : Except String Store :=
  if maxStored < image.sizeBytes then .error "CHECK constraint failed: size_bytes >= 0"
  else .ok {s with images := Rows.delete StoredImage.key image.key s.images ++ [image], keys := replacedKeys s.keys image}

-- `ORDER BY pushed_at`, which is the text of the instant.
def listForNamespace (s : Store) (id : NamespaceId) : List StoredImage :=
  (s.images.filter (fun row => row.namespaceId = id)).insertionSort (fun a b => ¬ Calendar.text b.pushedAt < Calendar.text a.pushedAt)

def writeStatus (key : NamespaceId × ImageDigest) (status : ScanStatus) (row : StoredImage) : StoredImage :=
  if row.key = key then {row with scanStatus := status} else row

theorem writtenStatus (key) (status) (row) :
    (writeStatus key status row).key = row.key ∧ (writeStatus key status row).sizeBytes = row.sizeBytes := by
  unfold writeStatus
  split <;> exact ⟨rfl,rfl⟩

def updateStatus (s : Store) (id : NamespaceId) (digest : ImageDigest) (status : ScanStatus) : Except String Store :=
  if ∃ row ∈ s.images, row.key = (id,digest) then
    .ok {s with
      images := s.images.map (writeStatus (id,digest) status)
      keys := Rows.mapUnique s.keys (fun row => (writtenStatus (id,digest) status row).1)}
  else .error ("image " ++ String.ofList digest.text ++ " not found in namespace " ++ String.ofList id.text)

end Store
inductive PushError where
  | domain (error : RegistryError)
  | persistence (message : String)
  | scanFailed (message : String)
  | storage (message : String)

structure PushRequest where
  namespaceId : NamespaceId
  manifestDigest : ImageDigest
  reference : Option String
  manifestLength : Nat
  blobLengths : List Nat

def PushRequest.totalBytes (request : PushRequest) : Nat := request.blobLengths.sum + request.manifestLength

inductive Purpose where
  | prune
  | push (image : StoredImage) (scan : Option ScanResult)

inductive Answer where
  | pruned (count : Nat)
  | pushed (image : StoredImage) (scan : Option ScanResult)

def Purpose.answer (purpose : Purpose) (pruned : Nat) : Answer :=
  match purpose with
  | .prune => .pruned pruned
  | .push image scan => .pushed image scan

inductive Point where
  | push (caller : Uuid) (request : PushRequest)
  | write (ns : ImageNamespace) (request : PushRequest)
  | insert (ns : ImageNamespace) (request : PushRequest)
  | count (ns : ImageNamespace) (image : StoredImage)
  | scan (image : StoredImage) (retention : RetentionPolicy)
  | status (image : StoredImage) (scan : Option ScanResult) (retention : RetentionPolicy)
  | scanRow (image : StoredImage) (scan : ScanResult) (retention : RetentionPolicy)
  | applyRetention (purpose : Purpose) (namespaceId : NamespaceId) (policy : RetentionPolicy)
  | list (purpose : Purpose) (ns : ImageNamespace) (policy : RetentionPolicy)
  | find (purpose : Purpose) (ns : ImageNamespace) (digest : ImageDigest) (rest : List (List Char)) (pruned : Nat)
  | delete (purpose : Purpose) (ns : ImageNamespace) (image : StoredImage) (rest : List (List Char)) (pruned : Nat)
  | uncount (purpose : Purpose) (ns : ImageNamespace) (image : StoredImage) (rest : List (List Char)) (pruned : Nat)
  | done (result : Except PushError Answer)

structure Input where
  fault : Option String
  now : DateTime
  config : RegistryConfig
  scan : Option ScanResult

def attempt {α : Type} (input : Input) (result : Except String α) : Except String α :=
  match input.fault with
  | some message => .error message
  | none => result

def failed (s : Store) (e : PushError) : Option (Store × Point) := some (s,.done (.error e))

def next (purpose : Purpose) (ns : ImageNamespace) (pruned : Nat) : List (List Char) → Point
  | [] => .done (.ok (purpose.answer pruned))
  | text::rest => match ImageDigest.new text with
    | .error e => .done (.error (.domain e))
    | .ok digest => .find purpose ns digest rest pruned

def statusOf (scan : Option ScanResult) : ScanStatus :=
  match scan with
  | none => .failed
  | some result => if result.findings ≠ [] then .withFindings else .clean

def step (s : Store) (p : Point) (input : Input) : Option (Store × Point) :=
  match p with
  | .push caller request => match attempt input (.ok (s.findNamespace request.namespaceId)) with
    | .error message => failed s (.persistence message)
    | .ok none => failed s (.domain (.namespaceNotFound request.namespaceId.text))
    | .ok (some ns) =>
      if ns.owner ≠ caller then failed s (.domain .notAuthorised)
      else if ns.wouldExceed request.totalBytes then
        failed s (.domain (.quotaExceeded ns.usedBytes request.totalBytes ns.quotaBytes))
      else some (s,.write ns request)
  | .write ns request => match input.fault with
    | some message => failed s (.storage message)
    | none => some (s,.insert ns request)
  | .insert ns request =>
    let image := ⟨request.manifestDigest,ns.namespaceId,request.totalBytes,input.now,request.reference,.pending⟩
    match attempt input (s.insertImage image) with
    | .error message => failed s (.persistence message)
    | .ok s' => some (s',.count ns image)
  | .count ns image => match attempt input (s.updateUsed ns.namespaceId (ns.accountPush image.sizeBytes).usedBytes) with
    | .error message => failed s (.persistence message)
    | .ok s' => some (s',if input.config.scanOnPush then .scan image input.config.retention
        else .applyRetention (.push image none) image.namespaceId input.config.retention)
  | .scan image retention => some (s,.status {image with scanStatus := statusOf input.scan} input.scan retention)
  | .status image scan retention => match attempt input (s.updateStatus image.namespaceId image.digest image.scanStatus) with
    | .error message => failed s (.persistence message)
    | .ok s' => match scan with
      | none => failed s' (.scanFailed "scanner unavailable")
      | some result => some (s',.scanRow image result retention)
  | .scanRow image scan retention => match input.fault with
    | some message => failed s (.persistence message)
    | none => some (s,.applyRetention (.push image (some scan)) image.namespaceId retention)
  | .applyRetention purpose namespaceId policy => match attempt input (.ok (s.findNamespace namespaceId)) with
    | .error message => failed s (.persistence message)
    | .ok none => failed s (.domain (.namespaceNotFound namespaceId.text))
    | .ok (some ns) => some (s,.list purpose ns policy)
  | .list purpose ns policy => match attempt input (.ok (s.listForNamespace ns.namespaceId)) with
    | .error message => failed s (.persistence message)
    | .ok images =>
      some (s,next purpose ns 0 (policy.apply (images.map (fun image => (image.digest.text,image.pushedAt))) input.now))
  | .find purpose ns digest rest pruned => match attempt input (.ok (s.findImage ns.namespaceId digest)) with
    | .error message => failed s (.persistence message)
    | .ok none => some (s,next purpose ns pruned rest)
    | .ok (some image) => some (s,.delete purpose ns image rest pruned)
  | .delete purpose ns image rest pruned => match attempt input (.ok (s.deleteImage ns.namespaceId image.digest)) with
    | .error message => failed s (.persistence message)
    | .ok s' => some (s',.uncount purpose ns image rest pruned)
  | .uncount purpose ns image rest pruned =>
    match attempt input (s.updateUsed ns.namespaceId (ns.accountDelete image.sizeBytes).usedBytes) with
    | .error message => failed s (.persistence message)
    | .ok s' => some (s',next purpose ns (pruned + 1) rest)
  | .done _ => none

def entry : Point → Bool
  | .push .. => true
  | .applyRetention .prune .. => true
  | _ => false

def registry : Machine Store Point Input := ⟨entry,step⟩

end OpenPanel.Registry
