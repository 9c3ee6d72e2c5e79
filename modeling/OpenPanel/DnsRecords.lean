import OpenPanel.Fallible
import OpenPanel.Values

/-! DNS names, versions and typed record values. Addresses are read by the
standard library: its readers are parameters. Derived deserialization could
build names and versions that no constructor accepts; what is stored comes from
accepted ones, so both carry that they are. -/
namespace OpenPanel.Dns
open Fallible (bindOk)

inductive DnsError where | invalid | cnameConflict | unsupported

-- `splitn(3, ' ')` with all three parts.
def splitThree (text : List Char) : Option (List Char × List Char × List Char) :=
  match text.span (fun c => c ≠ ' ') with
  | (first,_::rest) => match rest.span (fun c => c ≠ ' ') with
    | (second,_::third) => some (first,second,third)
    | _ => none
  | _ => none

def labelChar (allowUnderscore : Bool) (c : Char) : Bool :=
  isAsciiLowercase c || isAsciiDigit c || c == '-' || allowUnderscore && c == '_'

def validLabel (allowUnderscore : Bool) (label : List Char) : Bool :=
  !label.isEmpty && byteLength label ≤ 63 && label.head? != some '-' && label.getLast? != some '-' &&
    label.all (labelChar allowUnderscore)

def validName (allowUnderscore : Bool) (name : List Char) : Bool :=
  !name.isEmpty && byteLength name ≤ 253 && !name.contains '*' && (name.splitOn '.').all (validLabel allowUnderscore)

theorem labelCharAllowed (plain : labelChar allow c = true) : labelChar true c = true := by
  cases allow with
  | true => exact plain
  | false =>
    simp only [labelChar,Bool.false_and,Bool.or_false] at plain
    simp [labelChar,plain]

theorem validNameAllowed (valid : validName allow name = true) : validName true name = true := by
  simp only [validName,validLabel,Bool.and_eq_true,List.all_eq_true] at valid ⊢
  exact ⟨valid.1,fun label mem => ⟨(valid.2 label mem).1,fun c inside => labelCharAllowed ((valid.2 label mem).2 c inside)⟩⟩

structure DnsName where
  text : String
  valid : validName true text.toList = true
  deriving DecidableEq

def canonical (value : String) : List Char := ((trim value.toList).rdropWhile (fun c => c == '.')).map Char.toLower

def DnsName.parse (value : String) (allowUnderscore : Bool) : Except DnsError DnsName :=
  if valid : validName allowUnderscore (canonical value) = true then
    .ok ⟨String.ofList (canonical value),by rw [String.toList_ofList]; exact validNameAllowed valid⟩
  else .error .invalid

def DnsName.new (value : String) : Except DnsError DnsName := DnsName.parse value false
def DnsName.newWithUnderscore (value : String) : Except DnsError DnsName := DnsName.parse value true

example : (DnsName.new " Mail.Example.TEST. ").toOption.map DnsName.text = some "mail.example.test" := by decide +kernel

theorem nameChars (valid : validName allow name = true) (mem : c ∈ name) : c = '.' ∨ labelChar allow c = true := by
  by_cases dot : c = '.'
  · exact .inl dot
  · obtain ⟨label,inside,found⟩ := (memSplit dot).mpr mem
    simp only [validName,validLabel,Bool.and_eq_true,List.all_eq_true] at valid
    exact .inr ((valid.2 label inside).2 c found)

theorem nameCharPlain (allowed : c = '.' ∨ labelChar true c = true) : isWhitespace c = false ∧ c.toLower = c := by
  have code : c.toNat = 46 ∨ c.toNat = 45 ∨ c.toNat = 95 ∨ 48 ≤ c.toNat ∧ c.toNat ≤ 57 ∨ 97 ≤ c.toNat ∧ c.toNat ≤ 122 := by
    rcases allowed with rfl | char
    · exact .inl rfl
    · simp only [labelChar,isAsciiLowercase,isAsciiDigit,Bool.true_and,Bool.or_eq_true,Bool.and_eq_true,decide_eq_true_eq,
        beq_iff_eq] at char
      rcases char with ((lower | digit) | rfl) | rfl
      · exact .inr (.inr (.inr (.inr lower)))
      · exact .inr (.inr (.inr (.inl digit)))
      · exact .inr (.inl rfl)
      · exact .inr (.inr (.inl rfl))
  constructor
  · simp only [isWhitespace,Bool.or_eq_false_iff,Bool.and_eq_false_iff,decide_eq_false_iff_not,beq_eq_false_iff_ne]
    omega
  · unfold Char.toLower
    rw [dif_neg]
    rintro ⟨low,high⟩
    have low : 65 ≤ c.toNat := low
    have high : c.toNat ≤ 90 := high
    omega

theorem lastLabel (valid : validName true name = true) (there : name ≠ []) : name.getLast there ≠ '.' := by
  intro dot
  have ends : name = name.dropLast ++ '.'::[] := by
    conv_lhs => rw [← List.dropLast_append_getLast there,dot]
  have empty : [] ∈ name.splitOn '.' := by
    rw [ends,List.splitOn,List.splitOnP_append_cons _ _ (by rfl)]
    exact List.mem_append_right _ (by simp)
  simp only [validName,Bool.and_eq_true,List.all_eq_true] at valid
  cases valid.2 [] empty

theorem canonicalName (valid : validName true name = true) : canonical (String.ofList name) = name := by
  have plain : ∀ c ∈ name, isWhitespace c = false ∧ c.toLower = c := fun c mem => nameCharPlain (nameChars valid mem)
  have front : name.dropWhile isWhitespace = name :=
    List.dropWhile_eq_self_iff.mpr (fun long => by simp [(plain _ (List.getElem_mem long)).1])
  have back : name.rdropWhile isWhitespace = name :=
    List.rdropWhile_eq_self_iff.mpr (fun there => by simp [(plain _ (List.getLast_mem there)).1])
  have dots : name.rdropWhile (fun c => c == '.') = name :=
    List.rdropWhile_eq_self_iff.mpr (fun there => by simpa using lastLabel valid there)
  unfold canonical trim
  rw [String.toList_ofList,front,back,dots]
  exact (List.map_congr_left (fun c mem => (plain c mem).2)).trans (List.map_id name)

theorem newText (name) : DnsName.new name.text = if validName false name.text.toList = true then .ok name else .error .invalid := by
  have same : canonical name.text = name.text.toList := by
    have read := canonicalName name.valid
    rwa [String.ofList_toList] at read
  unfold DnsName.new DnsName.parse
  simp only [same,String.ofList_toList]
  split <;> rfl

theorem newAgain (plain : '_' ∉ name.text.toList) : DnsName.new name.text = .ok name := by
  have valid := name.valid
  rw [newText,if_pos]
  simp only [validName,validLabel,Bool.and_eq_true,List.all_eq_true] at valid ⊢
  refine ⟨valid.1,fun label mem => ⟨(valid.2 label mem).1,fun c inside => ?_⟩⟩
  have other : c ≠ '_' := fun same => plain ((memSplit (by decide)).mp ⟨label,mem,same ▸ inside⟩)
  simpa [labelChar,other] using (valid.2 label mem).2 c inside

theorem underscoreRefused {name : DnsName} (marked : '_' ∈ name.text.toList) : DnsName.new name.text = .error .invalid := by
  rw [newText,if_neg]
  intro valid
  rcases nameChars valid marked with dot | char
  · exact absurd dot (by decide)
  · exact absurd char (by decide)

theorem memDropWhile {p : α → Bool} {a : α} {as : List α} (stays : p a = false) : a ∈ as.dropWhile p ↔ a ∈ as := by
  refine ⟨fun mem => (List.dropWhile_sublist p).subset mem,fun mem => ?_⟩
  rw [← List.takeWhile_append_dropWhile (p := p) (l := as),List.mem_append] at mem
  refine mem.resolve_left (fun early => ?_)
  rw [List.mem_takeWhile_imp early] at stays
  cases stays

theorem memRdropWhile {α : Type} {p : α → Bool} {a : α} {as : List α} (stays : p a = false) : a ∈ as.rdropWhile p ↔ a ∈ as := by
  rw [List.rdropWhile,List.mem_reverse,memDropWhile stays,List.mem_reverse]

theorem lowerUnderscore : c.toLower = '_' ↔ c = '_' := by
  constructor
  · intro lowered
    unfold Char.toLower at lowered
    split at lowered
    · rename_i upper
      have low : 65 ≤ c.toNat := upper.1
      have high : c.toNat ≤ 90 := upper.2
      have code : (c.val + 32).toNat = 95 := congrArg Char.toNat lowered
      rw [UInt32.toNat_add] at code
      have value : c.val.toNat = c.toNat := rfl
      have step : (32 : UInt32).toNat = 32 := rfl
      omega
    · exact lowered
  · rintro rfl
    rfl

theorem canonicalUnderscore : '_' ∈ canonical value ↔ '_' ∈ value.toList := by
  unfold canonical
  rw [List.mem_map]
  constructor
  · rintro ⟨c,mem,lowered⟩
    rw [lowerUnderscore.mp lowered,memRdropWhile (by rfl),trim,memRdropWhile (by rfl),memDropWhile (by rfl)] at mem
    exact mem
  · intro mem
    refine ⟨'_',?_,rfl⟩
    rwa [memRdropWhile (by rfl),trim,memRdropWhile (by rfl),memDropWhile (by rfl)]

structure RemoteVersion where
  text : String
  valid : (text ≠ "" ∧ text.utf8ByteSize ≤ 256) ∧ text.toList.all (fun c => !isControl c) = true
  deriving DecidableEq

def RemoteVersion.new (value : String) : Except DnsError RemoteVersion :=
  if valid : (value ≠ "" ∧ value.utf8ByteSize ≤ 256) ∧ value.toList.all (fun c => !isControl c) = true then .ok ⟨value,valid⟩
  else .error .invalid

theorem versionAgain (version) : RemoteVersion.new version.text = .ok version := dif_pos version.valid

def Ttl.new (value minimum maximum : UInt32) : Except DnsError Unit :=
  if minimum = 0 ∨ minimum > maximum ∨ value < minimum ∨ value > maximum then .error .invalid else .ok ()

inductive RecordKind where | a | aaaa | cname | txt | mx | caa | ns | srv deriving DecidableEq

inductive RecordData where
  | a (address : BitVec 32)
  | aaaa (address : BitVec 128)
  | cname (target : DnsName)
  | txt (value : String)
  | mx (priority : UInt16) (exchange : DnsName)
  | caa (flags : UInt8) (tag value : String)
  | ns (host : DnsName)
  | srv (priority weight port : UInt16) (target : DnsName)

def RecordData.kind : RecordData → RecordKind
  | .a _ => .a
  | .aaaa _ => .aaaa
  | .cname _ => .cname
  | .txt _ => .txt
  | .mx .. => .mx
  | .caa .. => .caa
  | .ns _ => .ns
  | .srv .. => .srv

structure Addresses where
  v4 : String → Option (BitVec 32)
  v6 : String → Option (BitVec 128)

def parsed {α : Type} : Option α → Except DnsError α
  | none => .error .invalid
  | some a => .ok a

def parseU16 (text : List Char) : Except DnsError UInt16 := (parsed (parseUnsigned 65536 text)).map UInt16.ofNat

def nameOf (text : List Char) : Except DnsError DnsName := DnsName.new (String.ofList text)

def parseTxt (value : List Char) : Except DnsError RecordData :=
  if value.isEmpty = false ∧ byteLength value ≤ 2048 ∧ value.any isControl = false then .ok (.txt (String.ofList value))
  else .error .invalid

def parseMx (value : List Char) : Except DnsError RecordData :=
  match splitWhitespace value with
  | [priority,exchange] => do
    let priority ← parseU16 priority
    let exchange ← nameOf exchange
    return .mx priority exchange
  | _ => .error .invalid

def parseCaa (value : List Char) : Except DnsError RecordData := do
  let (flags,tag,value) ← parsed (splitThree value)
  let flags ← parsed (parseUnsigned 256 flags)
  let tag := String.ofList (tag.map Char.toLower)
  let value := trim value
  if ¬ tag ∈ ["issue","issuewild","iodef"] ∨ value.isEmpty ∨ value.any isControl then .error .invalid
  else .ok (.caa (UInt8.ofNat flags) tag (String.ofList value))

def parseSrv (value : List Char) : Except DnsError RecordData :=
  match splitWhitespace value with
  | [priority,weight,port,target] => do
    let priority ← parseU16 priority
    let weight ← parseU16 weight
    let port ← parseU16 port
    let target ← nameOf target
    return .srv priority weight port target
  | _ => .error .invalid

def RecordData.parse (addresses : Addresses) (kind : RecordKind) (value : String) : Except DnsError RecordData :=
  let value := trim value.toList
  match kind with
  | .a => (parsed (addresses.v4 (String.ofList value))).map .a
  | .aaaa => (parsed (addresses.v6 (String.ofList value))).map .aaaa
  | .cname => (nameOf value).map .cname
  | .txt => parseTxt value
  | .mx => parseMx value
  | .caa => parseCaa value
  | .ns => (nameOf value).map .ns
  | .srv => parseSrv value

theorem mapKind {make : α → RecordData} {read : Except DnsError α}
    (ok : read.map make = .ok data) (same : ∀ a, (make a).kind = kind) : data.kind = kind := by
  cases read with
  | error e => cases ok
  | ok a =>
    cases ok
    exact same a

theorem parseKind (ok : RecordData.parse addresses kind value = .ok data) : data.kind = kind := by
  cases kind with
  | a =>
    exact mapKind ok (fun _ => rfl)
  | aaaa =>
    exact mapKind ok (fun _ => rfl)
  | cname =>
    simp only [RecordData.parse] at ok
    exact mapKind ok (fun _ => rfl)
  | ns =>
    simp only [RecordData.parse] at ok
    exact mapKind ok (fun _ => rfl)
  | txt =>
    simp only [RecordData.parse,parseTxt] at ok
    split at ok <;> cases ok
    rfl
  | mx =>
    simp only [RecordData.parse,parseMx] at ok
    split at ok <;> try contradiction
    obtain ⟨_,_,ok⟩ := bindOk ok
    obtain ⟨_,_,ok⟩ := bindOk ok
    cases ok
    rfl
  | caa =>
    simp only [RecordData.parse,parseCaa] at ok
    obtain ⟨_,_,ok⟩ := bindOk ok
    obtain ⟨_,_,ok⟩ := bindOk ok
    split at ok <;> cases ok
    rfl
  | srv =>
    simp only [RecordData.parse,parseSrv] at ok
    split at ok <;> try contradiction
    obtain ⟨_,_,ok⟩ := bindOk ok
    obtain ⟨_,_,ok⟩ := bindOk ok
    obtain ⟨_,_,ok⟩ := bindOk ok
    obtain ⟨_,_,ok⟩ := bindOk ok
    cases ok
    rfl

structure DnsRecord where
  name : DnsName
  data : RecordData

def validateRecordSet (records : List DnsRecord) : Except DnsError Unit :=
  if records.any (fun record =>
    let sameName := (records.filter (fun other => other.name == record.name)).length
    1 < sameName && (record.data.kind == .cname ||
      records.any (fun other => other.name == record.name && other.data.kind == .cname))) then
    .error .cnameConflict
  else .ok ()

def DnsRecord.Apart (a b : DnsRecord) : Prop := a.name = b.name → a.data.kind ≠ .cname ∧ b.data.kind ≠ .cname

theorem validateOk : validateRecordSet records = .ok () ↔ records.Pairwise DnsRecord.Apart := by
  unfold validateRecordSet
  constructor
  · intro ok
    split at ok
    · cases ok
    · rename_i valid
      rw [List.pairwise_iff_forall_sublist]
      intro a b sub same
      have two : 2 ≤ (records.filter (fun other => other.name == a.name)).length := by
        have kept := (sub.filter (fun other => other.name == a.name)).length_le
        simpa [same] using kept
      have inside : a ∈ records ∧ b ∈ records := ⟨sub.subset (by simp),sub.subset (by simp)⟩
      have free : ∀ c ∈ records, c.name = a.name → c.data.kind ≠ .cname := by
        intro c mem here canonical
        refine valid (List.any_eq_true.mpr ⟨a,inside.1,?_⟩)
        simp only [Bool.and_eq_true,decide_eq_true_eq,Bool.or_eq_true]
        exact ⟨two,.inr (List.any_eq_true.mpr ⟨c,mem,by simp [here,canonical]⟩)⟩
      exact ⟨free a inside.1 rfl,free b inside.2 same.symm⟩
  · intro apart
    rw [if_neg]
    intro risky
    obtain ⟨r,mem,crowded⟩ := List.any_eq_true.mp risky
    simp only [Bool.and_eq_true,decide_eq_true_eq,Bool.or_eq_true,beq_iff_eq] at crowded
    obtain ⟨crowd,canonical⟩ := crowded
    have canon : ∃ c ∈ records, c.name = r.name ∧ c.data.kind = .cname := by
      rcases canonical with own | other
      · exact ⟨r,mem,rfl,own⟩
      · obtain ⟨c,inside,both⟩ := List.any_eq_true.mp other
        simp only [Bool.and_eq_true,beq_iff_eq] at both
        exact ⟨c,inside,both⟩
    obtain ⟨c,inside,here,kind⟩ := canon
    have kept := apart.filter (fun other => other.name == r.name)
    have among : c ∈ records.filter (fun other => other.name == r.name) := List.mem_filter.mpr ⟨inside,by simp [here]⟩
    have names : ∀ d ∈ records.filter (fun other => other.name == r.name), d.name = r.name := fun d found => by
      simpa using (List.mem_filter.mp found).2
    generalize records.filter (fun other => other.name == r.name) = same at crowd kept among names
    match same with
    | [] => cases among
    | [_] => simp at crowd
    | x::y::rest =>
      have first := List.pairwise_cons.mp kept
      have equal : ∀ d ∈ y::rest, x.name = d.name := fun d found =>
        (names x (by simp)).trans (names d (List.mem_cons_of_mem _ found)).symm
      rcases List.mem_cons.mp among with rfl | later
      · exact (first.1 y (by simp) (equal y (by simp))).1 kind
      · exact (first.1 c later (equal c later)).2 kind

structure ProviderCapabilities where
  recordKinds : List RecordKind
  minimumTtl : UInt32
  maximumTtl : UInt32
  proxy : Bool

def ProviderCapabilities.supports (capabilities : ProviderCapabilities) (kind : RecordKind) : Bool :=
  capabilities.recordKinds.contains kind

end OpenPanel.Dns
