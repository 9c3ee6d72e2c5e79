import OpenPanel.FileTree
import OpenPanel.Framing
import OpenPanel.Values
import Mathlib.Data.List.Dedup
import Mathlib.Data.List.Sort

/-! Archives of site files. The writer frames each regular file of a document root as
the length of its path, its size, its path and its content; the reader lays the files
below a staging directory. A name is any byte string; a path in an archive is text. -/
namespace OpenPanel.Backups
open Fallible FileTree Framing

abbrev Bytes := List UInt8

def legalName (bytes : Bytes) : Bool :=
  bytes ≠ [] && !bytes.contains 0 && !bytes.contains 47 && bytes ≠ [46] && bytes ≠ [46,46]

structure Name where
  bytes : Bytes
  legal : legalName bytes = true
  deriving DecidableEq

def Name.ofBytes (bytes : Bytes) : Option Name := if legal : legalName bytes then some ⟨bytes,legal⟩ else none

abbrev Path := List Name
abbrev Tree := Fs Name Bytes
def bare : Tree := ⟨fun _ => none,[],fun _ there => absurd rfl there⟩

def pathText (p : Path) : Bytes := [47].intercalate (p.map Name.bytes)

inductive BackupServiceError where
  | validation (detail : String)
  | notFound
  | corrupt
  | internal (detail : String)
  deriving DecidableEq

def BackupServiceError.message : BackupServiceError → String
  | .validation detail => "backup validation failed: " ++ detail
  | .notFound => "backup record not found"
  | .corrupt => "backup artifact is corrupt"
  | .internal detail => "backup operation failed: " ++ detail

def BackupServiceError.refusal : BackupServiceError → Bool
  | .validation _ => true
  | _ => false

def continuation (b : UInt8) : Bool := 0x80 ≤ b && b ≤ 0xBF

-- `str::from_utf8`: no surrogates, nothing overlong, nothing above U+10FFFF.
def isUtf8 : Bytes → Bool
  | [] => true
  | a::rest =>
    if a ≤ 0x7F then isUtf8 rest
    else match rest with
      | [] => false
      | b::rest =>
        if 0xC2 ≤ a && a ≤ 0xDF && continuation b then isUtf8 rest
        else match rest with
          | [] => false
          | c::rest =>
            if continuation c && (a == 0xE0 && 0xA0 ≤ b && b ≤ 0xBF || 0xE1 ≤ a && a ≤ 0xEC && continuation b ||
                a == 0xED && 0x80 ≤ b && b ≤ 0x9F || 0xEE ≤ a && a ≤ 0xEF && continuation b) then isUtf8 rest
            else match rest with
              | [] => false
              | d::rest =>
                if continuation c && continuation d && (a == 0xF0 && 0x90 ≤ b && b ≤ 0xBF ||
                    0xF1 ≤ a && a ≤ 0xF3 && continuation b || a == 0xF4 && 0x80 ≤ b && b ≤ 0x8F) then isUtf8 rest
                else false

def RestorePath.check (text : Bytes) : Except String Unit :=
  if text = [] ∨ text.head? = some 47 ∨ [46,46] ∈ text.splitOn 47 then
    .error "invalid backup value: unsafe restore path"
  else .ok ()

-- `as_str` of a path that is not UTF-8 is the empty text.
def asStr (text : Bytes) : Bytes := if isUtf8 text then text else []

def magic : Bytes := [79,80,70,83,49,10]

def frame (path content : Bytes) : Bytes := encode 4 path.length ++ encode 8 content.length ++ path ++ content

def fileBelow (tree : Tree) (source p : Path) : Option (Path × Bytes) :=
  if source <+: p then match tree.get p with
    | some (.file content) => some (p.drop source.length,content)
    | _ => none
  else none

-- Siblings by name and directories where they stand: the order of whole paths.
def walk (tree : Tree) (source : Path) : List (Path × Bytes) :=
  (tree.paths.dedup.filterMap (fileBelow tree source)).insertionSort
    (fun a b => a.1.map Name.bytes ≤ b.1.map Name.bytes)

def streamFiles : List (Path × Bytes) → Except BackupServiceError Bytes
  | [] => .ok []
  | (path,content)::rest => do
    (RestorePath.check (pathText path)).mapError .validation
    let written ← streamFiles rest
    return frame (asStr (pathText path)) content ++ written

def streamSiteArchive (tree : Tree) (source : Path) : Except BackupServiceError Bytes := do
  match tree.get source with
  | some .dir =>
    let written ← streamFiles (walk tree source)
    return magic ++ written
  | _ => .error (.validation "site document root is unavailable")

def unfilled : String := "failed to fill whole buffer"
def nulByte : String := "file name contained an unexpected NUL byte"
def maxPathLen : Nat := 16 * 1024
def maxFileSize : Nat := 1099511627776

def nextEntry (stream : Bytes) : Except BackupServiceError (Option (Bytes × Nat × Bytes)) :=
  match readExact 4 stream with
  | none => .ok none
  | some (length,stream) =>
    if decode length = 0 ∨ decode length > maxPathLen then .error .corrupt
    else match readExact 8 stream with
      | none => .error (.internal unfilled)
      | some (size,stream) =>
        if decode size > maxFileSize then .error .corrupt
        else match readExact (decode length) stream with
          | none => .error (.internal unfilled)
          | some (text,stream) =>
            if isUtf8 text = false then .error .corrupt
            else match RestorePath.check text with
              | .error _ => .error .corrupt
              | .ok () => .ok (some (text,decode size,stream))

def io {α : Type} (prog : Disk Name Bytes α) : Prog Tree BackupServiceError α :=
  zoom id (fun next _ => next) .internal prog

def namesOf (parts : List Bytes) : Prog Tree BackupServiceError Path :=
  reads (fun _ => match parts.mapM Name.ofBytes with
    | none => .error (.internal nulByte)
    | some names => .ok names)

section Extract

variable (fault : Call Name → Option String) (staging : Path)

-- A path that ends in `/` cannot be created; one that ends in `/.` leads into its directory first.
def openDirectory (dotted : Bool) (p : Path) : Disk Name Bytes Unit :=
  perform fault (.create p) (fun fs => match dotted,fs.get p with
    | true,none => .error noSuch
    | true,some (.file _) => .error notDirectory
    | _,_ => .error isDirectory)

-- `staging.join(path)`: empty parts and `.` lead nowhere, but not at the end.
def openEntry (text : Bytes) : Prog Tree BackupServiceError Path := do
  let parts := text.splitOn 47
  let kept := parts.filter (fun part => part ≠ [] && part ≠ [46])
  let above ← namesOf kept.dropLast
  io (createDirAll fault [] (if kept = [] then staging.dropLast else staging ++ above))
  let last ← namesOf (kept.drop kept.dropLast.length)
  let target := staging ++ above ++ last
  if parts.getLast? = kept.getLast? then do
    io (createFile fault target [])
    return target
  else do
    io (openDirectory fault ((parts.filter (· ≠ [])).getLast? = some [46]) target)
    return target

def extractEntries : Nat → Bytes → Prog Tree BackupServiceError Unit
  | 0,_ => throw .corrupt
  | fuel + 1,stream => match nextEntry stream with
    | .error e => throw e
    | .ok none => pure ()
    | .ok (some (text,size,stream)) => do
      let target ← openEntry fault staging text
      io (write fault target (stream.take size))
      if stream.length < size then throw .corrupt
      else do
        io (sync fault target)
        extractEntries fuel (stream.drop size)

def extractSiteArchive (archive : Bytes) : Prog Tree BackupServiceError Unit :=
  match readExact 6 archive with
  | none => throw (.internal unfilled)
  | some (start,stream) =>
    if start ≠ magic then throw .corrupt
    else do
      io (createDirAll fault [] staging)
      extractEntries fault staging (stream.length + 1) stream

end Extract

end OpenPanel.Backups
