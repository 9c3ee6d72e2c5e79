import OpenPanel.Fallible
import OpenPanel.FirewallRules

/-! Public keys for host login and the managed block of `authorized_keys`. Base64
and the digest are parameters. The key line is checked to be a single line; the
label, which ends up in the same line of the file, is only bounded. -/
namespace OpenPanel.Security
open Fallible

inductive KeyAlgo where | ed25519 | ecdsaP256 | rsa3072Up deriving DecidableEq

namespace KeyAlgo

def asStr : KeyAlgo → List Char
  | .ed25519 => "ssh-ed25519".toList
  | .ecdsaP256 => "ecdsa-sha2-nistp256".toList
  | .rsa3072Up => "rsa-sha2-512".toList

def minimumBodyLen : KeyAlgo → Nat
  | .ed25519 => 60
  | .ecdsaP256 => 60
  | .rsa3072Up => 300

def parse (name : List Char) : Option KeyAlgo :=
  if name = "ssh-ed25519".toList then some .ed25519
  else if name = "ecdsa-sha2-nistp256".toList then some .ecdsaP256
  else if name = "rsa-sha2-512".toList ∨ name = "ssh-rsa".toList then some .rsa3072Up
  else none

end KeyAlgo

structure KeyCodec where
  decode : List Char → Option (List UInt8)
  encode : List UInt8 → List Char
  sha256 : List UInt8 → List UInt8

structure HostSshKey where
  id : Uuid
  label : List Char
  fingerprint : List Char
  publicKeyB64 : List Char
  algo : KeyAlgo
  addedBy : Uuid
  addedAt : DateTime
  lastUsedAt : Option DateTime
  deriving DecidableEq

namespace HostSshKey

def unknownAlgo (line name : List Char) : String :=
  if line.contains '=' || line.contains ',' && !"ssh-".toList.isPrefixOf line then "options embedded in key"
  else "unsupported algorithm `" ++ String.ofList name ++ "`"

def tooSmall (algo : KeyAlgo) (size : Nat) : String :=
  String.ofList (algo.asStr ++ " body too small (".toList ++ decimal size ++
    " bytes); key below the approved strength".toList)

def parseKnown (codec : KeyCodec) (id : Uuid) (label : List Char) (algo : KeyAlgo) (b64 : List Char) (addedBy : Uuid)
    (now : DateTime) : Except SecurityError HostSshKey :=
  match codec.decode b64 with
  | none => .error (.invalidSshKey "key body is not base64")
  | some body =>
    if body.length < algo.minimumBodyLen then .error (.invalidSshKey (tooSmall algo body.length))
    else if label = [] ∨ 64 < byteLength label then .error (.invalidSshKey "label must be 1..=64 chars")
    else .ok ⟨id,label,"SHA256:".toList ++ codec.encode (codec.sha256 body),b64,algo,addedBy,now,none⟩

def parse (codec : KeyCodec) (id : Uuid) (label line : List Char) (addedBy : Uuid) (now : DateTime) :
    Except SecurityError HostSshKey :=
  if line.contains '\n' || line.contains '\r' then .error (.invalidSshKey "key must be a single line")
  else match splitWhitespace (trim line) with
    | [] => .error (.invalidSshKey "empty key line")
    | name::rest => match KeyAlgo.parse name,rest with
      | none,_ => .error (.invalidSshKey (unknownAlgo (trim line) name))
      | some _,[] => .error (.invalidSshKey "missing key body")
      | some algo,b64::_ => parseKnown codec id label algo b64 addedBy now

def restricted (key : HostSshKey) : List Char :=
  "no-agent-forwarding,no-port-forwarding ".toList ++ key.algo.asStr ++ ' '::key.publicKeyB64

def content (key : HostSshKey) : List Char := key.restricted ++ " openpanel:".toList ++ key.label

def renderLine (key : HostSshKey) : List Char := key.content ++ ['\n']

end HostSshKey

def managedBegin : List Char := "# BEGIN openpanel-managed (do not edit)\n".toList
def managedEnd : List Char := "# END openpanel-managed\n".toList

-- `split_once`: what follows the first occurrence.
def afterFirst (part : List Char) : List Char → Option (List Char)
  | [] => if part = [] then some [] else none
  | c::rest => if part.isPrefixOf (c::rest) then some ((c::rest).drop part.length) else afterFirst part rest

def keptTail (existing : List Char) : List Char :=
  let tail := (afterFirst managedEnd existing).getD existing
  if tail = [] then [] else if tail.head? = some '\n' then tail else '\n'::tail

def managedLines (keys : List HostSshKey) : List Char := keys.flatMap HostSshKey.renderLine

def renderAuthorizedKeys (existing : List Char) (keys : List HostSshKey) : List Char :=
  managedBegin ++ managedLines keys ++ managedEnd ++ keptTail existing

example : keptTail "# BEGIN\nx\n# END openpanel-managed\n\nssh-rsa A ops\n".toList = "\nssh-rsa A ops\n".toList := by decide

def textLines (text : List Char) : List (List Char) := (text.splitOn '\n').dropLast

def Confined (block : List Char) (keys : List HostSshKey) : Prop :=
  List.Forall₂ (fun line key => key.restricted <+: line) (textLines block) keys

section Confinement

theorem wordPlain (mem : word ∈ splitWhitespace text) : '\n' ∉ word := by
  intro inside
  have plain := splitPlain (List.mem_filter.mp mem).1 '\n' inside
  exact absurd plain (by decide)

theorem splitLength (p) (text : List Char) : (text.splitOnP p).length = text.countP p + 1 := by
  induction text with
  | nil => rfl
  | cons c rest ih =>
    rw [List.splitOnP_cons_eq_if_modifyHead]
    split
    · rename_i hit
      rw [List.length_cons,ih,List.countP_cons_of_pos hit]
    · rename_i miss
      rw [List.length_modifyHead,ih,List.countP_cons_of_neg miss]

theorem linesLength (text) : (textLines text).length = text.count '\n' := by
  rw [textLines,List.length_dropLast,List.splitOn,splitLength,Nat.add_sub_cancel]
  rfl

variable {codec : KeyCodec} {id addedBy : Uuid} {key : HostSshKey}

theorem parsedBody (parsed : HostSshKey.parse codec id label line addedBy now = .ok key) : '\n' ∉ key.publicKeyB64 := by
  unfold HostSshKey.parse at parsed
  split at parsed <;> try contradiction
  split at parsed <;> try contradiction
  rename_i name rest words
  split at parsed <;> try contradiction
  rename_i algo b64 others known
  unfold HostSshKey.parseKnown at parsed
  split at parsed <;> try contradiction
  split at parsed <;> try contradiction
  split at parsed <;> try contradiction
  cases parsed
  have word : b64 ∈ splitWhitespace (trim line) := by simp [words]
  exact wordPlain word

theorem algoPlain (algo : KeyAlgo) : '\n' ∉ algo.asStr := by cases algo <;> decide

theorem restrictedPlain (body : '\n' ∉ key.publicKeyB64) : '\n' ∉ key.restricted := by
  have options : '\n' ∉ "no-agent-forwarding,no-port-forwarding ".toList := by decide
  intro inside
  rcases List.mem_append.mp inside with front | rest
  · rcases List.mem_append.mp front with fixed | algo
    · exact options fixed
    · exact algoPlain key.algo algo
  · rcases List.mem_cons.mp rest with blank | rest
    · exact absurd blank (by decide)
    · exact body rest

theorem managedCount (bodies : ∀ key ∈ keys, '\n' ∉ key.publicKeyB64) :
    (managedLines keys).count '\n' = keys.length + (keys.flatMap HostSshKey.label).count '\n' := by
  induction keys with
  | nil => rfl
  | cons key rest ih =>
    have here : key.renderLine.count '\n' = 1 + key.label.count '\n' := by
      have plain := List.count_eq_zero_of_not_mem (restrictedPlain (bodies key (by simp)))
      have fixed : " openpanel:".toList.count '\n' = 0 := by decide
      simp only [HostSshKey.renderLine,HostSshKey.content,List.count_append,plain,fixed,List.count_singleton_self]
      omega
    have others := ih (fun key mem => bodies key (List.mem_cons_of_mem _ mem))
    simp only [managedLines,List.flatMap_cons,List.count_append,List.length_cons] at others ⊢
    omega

theorem managedSplit (plain : ∀ key ∈ keys, '\n' ∉ key.content) :
    (managedLines keys).splitOn '\n' = keys.map HostSshKey.content ++ [[]] := by
  induction keys with
  | nil => rfl
  | cons key rest ih =>
    have others := ih (fun key mem => plain key (List.mem_cons_of_mem _ mem))
    have whole : ∀ c ∈ key.content, (c == '\n') = false := fun c inside =>
      beq_eq_false_iff_ne.mpr (fun same => plain key (by simp) (same ▸ inside))
    have first := List.splitOnP_append_cons_of_forall_mem whole '\n' (by decide) (managedLines rest)
    have joined : managedLines (key::rest) = key.content ++ '\n'::managedLines rest := by
      simp [managedLines,HostSshKey.renderLine]
    rw [joined,List.splitOn,first]
    exact congrArg (key.content :: ·) others

theorem confinedIff (bodies : ∀ key ∈ keys, '\n' ∉ key.publicKeyB64) :
    Confined (managedLines keys) keys ↔ ∀ key ∈ keys, '\n' ∉ key.label := by
  constructor
  · -- Each line break in a label is one line more than there are keys.
    intro confined
    have lines := List.Forall₂.length_eq confined
    rw [linesLength,managedCount bodies] at lines
    have none : '\n' ∉ keys.flatMap HostSshKey.label := List.count_eq_zero.mp (by omega)
    intro key mem inside
    exact none (List.mem_flatMap.mpr ⟨key,mem,inside⟩)
  · intro labels
    have plain : ∀ key ∈ keys, '\n' ∉ key.content := by
      intro key mem inside
      have comment : '\n' ∉ " openpanel:".toList := by decide
      rcases List.mem_append.mp inside with front | label
      · rcases List.mem_append.mp front with restricted | fixed
        · exact restrictedPlain (bodies key mem) restricted
        · exact comment fixed
      · exact labels key mem label
    rw [Confined,textLines,managedSplit plain,List.dropLast_concat,List.forall₂_map_left_iff]
    exact List.forall₂_same.mpr (fun key _ => ⟨" openpanel:".toList ++ key.label,by simp [HostSshKey.content]⟩)

def Parsed (codec : KeyCodec) (key : HostSshKey) : Prop :=
  ∃ id label line addedBy now, HostSshKey.parse codec id label line addedBy now = .ok key

def base64Value (c : Char) : Option Nat :=
  let n := c.toNat
  if 65 ≤ n ∧ n ≤ 90 then some (n - 65)
  else if 97 ≤ n ∧ n ≤ 122 then some (n - 71)
  else if 48 ≤ n ∧ n ≤ 57 then some (n + 4)
  else if c = '+' then some 62
  else if c = '/' then some 63
  else none

-- Base64 without padding, which is enough for the bodies below.
def decodeGroups : List Char → Option (List UInt8)
  | [] => some []
  | a::b::c::d::rest => do
    let n := (((← base64Value a) * 64 + (← base64Value b)) * 64 + (← base64Value c)) * 64 + (← base64Value d)
    let tail ← decodeGroups rest
    return .ofNat (n / 65536)::.ofNat (n / 256 % 256)::.ofNat (n % 256)::tail
  | _ => none

def sampleCodec : KeyCodec := ⟨decodeGroups,fun _ => [],fun _ => []⟩

def sampleLine : List Char := "ssh-ed25519 ".toList ++ List.replicate 80 'A'

def sampleKey (label : List Char) : HostSshKey :=
  ⟨1,label,"SHA256:".toList,List.replicate 80 'A',.ed25519,2,0,none⟩

theorem linesConfined (codec : KeyCodec) (existing : List Char) (keys : List HostSshKey)
    (parsed : ∀ key ∈ keys, Parsed codec key) :
    ∃ block, renderAuthorizedKeys existing keys = managedBegin ++ block ++ managedEnd ++ keptTail existing ∧
      (Confined block keys ↔ ∀ key ∈ keys, '\n' ∉ key.label) := by
  refine ⟨managedLines keys,rfl,confinedIff (fun key mem => ?_)⟩
  obtain ⟨_,_,_,_,_,made⟩ := parsed key mem
  exact parsedBody made

theorem laptopConfined : ∃ block, renderAuthorizedKeys [] [sampleKey "laptop".toList] =
      managedBegin ++ block ++ managedEnd ++ keptTail [] ∧
    (Confined block [sampleKey "laptop".toList] ↔ ∀ key ∈ [sampleKey "laptop".toList], '\n' ∉ key.label) :=
  linesConfined sampleCodec [] [sampleKey "laptop".toList] (fun key mem =>
    ⟨1,"laptop".toList,sampleLine,2,0,by rw [List.mem_singleton.mp mem]; decide +kernel⟩)

def injectedLabel : List Char := "a\nssh-ed25519 AAAAC3 b".toList

theorem labelAddsLine : HostSshKey.parse sampleCodec 1 injectedLabel sampleLine 2 0 = .ok (sampleKey injectedLabel) ∧
    renderAuthorizedKeys [] [sampleKey injectedLabel] =
      managedBegin ++ managedLines [sampleKey injectedLabel] ++ managedEnd ∧
    ¬Confined (managedLines [sampleKey injectedLabel]) [sampleKey injectedLabel] := by
  refine ⟨by decide +kernel,by decide +kernel,fun confined => ?_⟩
  exact absurd (List.Forall₂.length_eq confined) (by decide +kernel)

end Confinement

end OpenPanel.Security
