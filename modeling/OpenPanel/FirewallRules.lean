import Mathlib.Data.List.Destutter
import Mathlib.Data.List.Sort
import OpenPanel.Values

/-! Networks, port ranges, firewall rules and the lockout policy of the security
domain. Addresses are read by the standard library: its reader is a parameter.
A network carries that its host bits are clear, a port range that it is ordered,
a rule that its comment cannot leave its statement. -/
namespace OpenPanel.Security

inductive SecurityError where
  | invalidSshKey (reason : String)
  | duplicateSshKey
  | forbidden
  | notFound (object : String)
  | persistence (message : String)
  | invalidCidr
  | invalidPort
  | invalidRule
  | lockoutRisk
  | invalidLoginKey
  | invalidThrottlePolicy
  | invalidBlock
  deriving DecidableEq

def SecurityError.message : SecurityError → String
  | .invalidSshKey reason => "invalid ssh key: " ++ reason
  | .duplicateSshKey => "duplicate ssh key fingerprint"
  | .forbidden => "forbidden"
  | .notFound object => "not found: " ++ object
  | .persistence message => "persistence failure: " ++ message
  | .invalidCidr => "invalid network CIDR"
  | .invalidPort => "invalid port range"
  | .invalidRule => "invalid firewall rule"
  | .lockoutRisk => "firewall candidate risks host lockout"
  | .invalidLoginKey => "invalid login throttle key"
  | .invalidThrottlePolicy => "invalid login throttle policy"
  | .invalidBlock => "invalid temporary block"

inductive IpAddr where
  | v4 (address : BitVec 32)
  | v6 (address : BitVec 128)
  deriving DecidableEq

def decimal (n : Nat) : List Char := Nat.toDigits 10 n
def hexadecimal (n : Nat) : List Char := Nat.toDigits 16 n

def Ipv4.text (address : BitVec 32) : List Char :=
  ['.'].intercalate ([24,16,8,0].map (fun shift => decimal ((address.toNat >>> shift) % 256)))

def Ipv6.segments (address : BitVec 128) : List Nat :=
  [112,96,80,64,48,32,16,0].map (fun shift => (address.toNat >>> shift) % 65536)

def longestZeros : Nat → Nat × Nat → Nat × Nat → List Nat → Nat × Nat
  | _,longest,_,[] => longest
  | i,longest,current,0::rest =>
    let current := if current.2 = 0 then (i,1) else (current.1,current.2 + 1)
    longestZeros (i + 1) (if longest.2 < current.2 then current else longest) current rest
  | i,longest,_,_::rest => longestZeros (i + 1) longest (0,0) rest

def groups (segments : List Nat) : List Char := [':'].intercalate (segments.map hexadecimal)

def Ipv6.text (address : BitVec 128) : List Char :=
  let segments := Ipv6.segments address
  if segments.take 6 = [0,0,0,0,0,65535] then "::ffff:".toList ++ Ipv4.text (address.setWidth 32)
  else
    let longest := longestZeros 0 (0,0) (0,0) segments
    if 1 < longest.2 then
      groups (segments.take longest.1) ++ "::".toList ++ groups (segments.drop (longest.1 + longest.2))
    else groups segments

def IpAddr.text : IpAddr → List Char
  | .v4 address => Ipv4.text address
  | .v6 address => Ipv6.text address

example : String.ofList (IpAddr.v6 0x20010db8000000000000000000000001).text = "2001:db8::1" := by decide
example : String.ofList (IpAddr.v4 0xc0a80001).text = "192.168.0.1" := by decide

def maskBits (width length : Nat) : BitVec width := if length = 0 then 0 else BitVec.allOnes width <<< (width - length)

def IpAddr.Canonical (length : Nat) : IpAddr → Prop
  | .v4 address => length ≤ 32 ∧ address &&& maskBits 32 length = address
  | .v6 address => length ≤ 128 ∧ address &&& maskBits 128 length = address

instance (length : Nat) (address : IpAddr) : Decidable (address.Canonical length) := by
  cases address <;> unfold IpAddr.Canonical <;> infer_instance

structure NetworkCidr where
  network : IpAddr
  prefixLength : Nat
  valid : network.Canonical prefixLength
  deriving DecidableEq

namespace NetworkCidr

def masked (address : IpAddr) (length : Nat) : Except SecurityError NetworkCidr :=
  match address with
  | .v4 address =>
    if inside : length ≤ 32 then
      .ok ⟨.v4 (address &&& maskBits 32 length),length,inside,by rw [BitVec.and_assoc,BitVec.and_self]⟩
    else .error .invalidCidr
  | .v6 address =>
    if inside : length ≤ 128 then
      .ok ⟨.v6 (address &&& maskBits 128 length),length,inside,by rw [BitVec.and_assoc,BitVec.and_self]⟩
    else .error .invalidCidr

def parse (readAddress : String → Option IpAddr) (value : String) : Except SecurityError NetworkCidr :=
  match value.toList.span (fun c => c ≠ '/') with
  | (address,_::length) => match readAddress (String.ofList address),parseUnsigned 256 length with
    | some address,some length => masked address length
    | _,_ => .error .invalidCidr
  | _ => .error .invalidCidr

def contains (cidr : NetworkCidr) (address : IpAddr) : Bool :=
  match cidr.network,address with
  | .v4 network,.v4 address => network == address &&& maskBits 32 cidr.prefixLength
  | .v6 network,.v6 address => network == address &&& maskBits 128 cidr.prefixLength
  | _,_ => false

def isAll (cidr : NetworkCidr) : Bool := cidr.prefixLength == 0

def text (cidr : NetworkCidr) : List Char := cidr.network.text ++ '/'::decimal cidr.prefixLength

end NetworkCidr

structure PortRange where
  start : UInt16
  last : UInt16
  valid : start ≠ 0 ∧ last ≠ 0 ∧ start ≤ last
  deriving DecidableEq

namespace PortRange

def new (start last : UInt16) : Except SecurityError PortRange :=
  if invalid : start = 0 ∨ last = 0 ∨ last < start then .error .invalidPort
  else .ok ⟨start,last,by
    simp only [not_or,UInt16.not_lt] at invalid
    exact invalid⟩

def contains (range : PortRange) (port : UInt16) : Bool := range.start ≤ port && port ≤ range.last

def text (range : PortRange) : List Char :=
  if range.start = range.last then decimal range.start.toNat
  else decimal range.start.toNat ++ '-'::decimal range.last.toNat

end PortRange

inductive Protocol where | tcp | udp | any deriving DecidableEq
inductive RuleAction where | allow | deny deriving DecidableEq

def hasText (part text : List Char) : Bool := text.tails.any (fun rest => part.isPrefixOf rest)

def unsafeChar (c : Char) : Bool := isControl c || ['"','\\',';',Char.ofNat 123,Char.ofNat 125].contains c

def safeComment (comment : List Char) : Bool :=
  let lower := comment.map Char.toLower
  byteLength comment ≤ 128 && comment.all (fun c => !unsafeChar c) && !hasText "flush ruleset".toList lower &&
    !hasText "table inet".toList lower

structure FirewallRule where
  id : Uuid
  protocol : Protocol
  ports : PortRange
  source : NetworkCidr
  action : RuleAction
  comment : List Char
  enabled : Bool
  valid : protocol ≠ .any ∧ safeComment comment = true
  deriving DecidableEq

def FirewallRule.new (id : Uuid) (protocol : Protocol) (ports : PortRange) (source : NetworkCidr) (action : RuleAction)
    (comment : List Char) (enabled : Bool) : Except SecurityError FirewallRule :=
  if valid : protocol ≠ .any ∧ safeComment comment = true then
    .ok ⟨id,protocol,ports,source,action,comment,enabled,valid⟩
  else .error .invalidRule

def Protocol.nft : Protocol → List Char
  | .tcp => "tcp".toList
  | .udp => "udp".toList
  | .any => []

def RuleAction.nft : RuleAction → List Char
  | .allow => "accept".toList
  | .deny => "drop".toList

def IpAddr.nft : IpAddr → List Char
  | .v4 _ => "ip".toList
  | .v6 _ => "ip6".toList

def FirewallRule.renderNft (rule : FirewallRule) : List Char :=
  rule.source.network.nft ++ " saddr ".toList ++ rule.source.text ++ ' '::rule.protocol.nft ++ " dport ".toList ++
    rule.ports.text ++ ' '::rule.action.nft ++ " comment \"".toList ++ rule.comment ++ ['"']

section Statements

def Plain (text : List Char) : Prop := ∀ c ∈ text, unsafeChar c = false

instance (text) : Decidable (Plain text) := List.decidableBAll _ text

-- What nft reads as one statement: nothing before or in the quoted comment ends it.
def OneStatement (text : List Char) : Prop :=
  ∃ clause comment, text = clause ++ '"'::comment ++ ['"'] ∧ Plain clause ∧ Plain comment

theorem plainAppend : Plain (a ++ b) ↔ Plain a ∧ Plain b := by simp [Plain,or_imp,forall_and]

theorem plainCons : Plain (c::text) ↔ unsafeChar c = false ∧ Plain text := by simp [Plain]

section Characters
variable {good : Char → Prop}

theorem ipv4All (digit : ∀ d < 16, good (Nat.digitChar d)) (dot : good '.') (address) : ∀ c ∈ Ipv4.text address, good c := by
  refine intercalateAll (by simpa using dot) (fun part mem => ?_)
  obtain ⟨shift,_,rfl⟩ := List.mem_map.mp mem
  exact digitsAll digit (by decide) (by decide) _

theorem groupsAll (digit : ∀ d < 16, good (Nat.digitChar d)) (colon : good ':') (segments) : ∀ c ∈ groups segments, good c := by
  refine intercalateAll (by simpa using colon) (fun part mem => ?_)
  obtain ⟨n,_,rfl⟩ := List.mem_map.mp mem
  exact digitsAll digit (by decide) (by decide) n

theorem ipAddrAll (digit : ∀ d < 16, good (Nat.digitChar d)) (dot : good '.') (colon : good ':') (address : IpAddr) :
    ∀ c ∈ address.text, good c := by
  have f : good 'f' := digit 15 (by decide)
  have mapped : ∀ c ∈ "::ffff:".toList, good c := by simp [colon,f]
  have gap : ∀ c ∈ "::".toList, good c := by simp [colon]
  cases address with
  | v4 address => exact ipv4All digit dot address
  | v6 address =>
    simp only [IpAddr.text,Ipv6.text]
    split
    · intro c mem
      exact (List.mem_append.mp mem).elim (mapped c) (ipv4All digit dot _ c)
    · split
      · intro c mem
        rcases List.mem_append.mp mem with front | later
        · exact (List.mem_append.mp front).elim (groupsAll digit colon _ c) (gap c)
        · exact groupsAll digit colon _ c later
      · exact groupsAll digit colon _

end Characters

theorem plainDecimal (n) : Plain (decimal n) := digitsAll (by decide) (by decide) (by decide) n

theorem plainIpAddr (address : IpAddr) : Plain address.text := ipAddrAll (by decide) (by decide) (by decide) address

theorem plainPorts (range : PortRange) : Plain range.text := by
  unfold PortRange.text
  split
  · exact plainDecimal _
  · exact plainAppend.mpr ⟨plainDecimal _,plainCons.mpr ⟨by decide,plainDecimal _⟩⟩

theorem plainComment (safe : safeComment comment = true) : Plain comment := by
  intro c mem
  simp only [safeComment,Bool.and_eq_true,List.all_eq_true] at safe
  have each := safe.1.1.2 c mem
  simpa using each

theorem renderOne (rule : FirewallRule) : OneStatement rule.renderNft := by
  refine ⟨rule.source.network.nft ++ " saddr ".toList ++ rule.source.text ++ ' '::rule.protocol.nft ++
    " dport ".toList ++ rule.ports.text ++ ' '::rule.action.nft ++ " comment ".toList,rule.comment,?_,?_,
    plainComment rule.valid.2⟩
  · have opens : " comment \"".toList = " comment ".toList ++ ['"'] := by decide
    simp only [FirewallRule.renderNft,opens,List.append_assoc,List.cons_append,List.nil_append]
  · have family : Plain rule.source.network.nft := by
      cases rule.source.network with
      | v4 _ => exact (by decide : Plain "ip".toList)
      | v6 _ => exact (by decide : Plain "ip6".toList)
    have source : Plain rule.source.text := plainAppend.mpr ⟨plainIpAddr _,plainCons.mpr ⟨by decide,plainDecimal _⟩⟩
    have protocol : Plain (' '::rule.protocol.nft) := by cases rule.protocol <;> decide
    have action : Plain (' '::rule.action.nft) := by cases rule.action <;> decide
    simp only [plainAppend]
    exact ⟨⟨⟨⟨⟨⟨⟨family,by decide⟩,source⟩,protocol⟩,by decide⟩,plainPorts _⟩,action⟩,by decide⟩

end Statements

structure FirewallPolicy where
  protectedPorts : List UInt16
  valid : protectedPorts ≠ [] ∧ 0 ∉ protectedPorts

-- `sort_unstable`, then `dedup` of equal neighbours.
def sortedPorts (ports : List UInt16) : List UInt16 := (ports.insertionSort (fun a b => a ≤ b)).destutter (fun a b => a ≠ b)

theorem sortedPortsValid (valid : ports ≠ [] ∧ 0 ∉ ports) : sortedPorts ports ≠ [] ∧ 0 ∉ sortedPorts ports := by
  have perm := List.perm_insertionSort (fun a b : UInt16 => a ≤ b) ports
  constructor
  · intro none
    rw [sortedPorts,List.destutter_eq_nil] at none
    rw [none] at perm
    exact valid.1 perm.nil_eq.symm
  · intro mem
    exact valid.2 (perm.subset ((List.destutter_sublist _ _).subset mem))

def FirewallPolicy.new (ports : List UInt16) : Except SecurityError FirewallPolicy :=
  if invalid : ports = [] ∨ 0 ∈ ports then .error .invalidPort
  else .ok ⟨sortedPorts ports,sortedPortsValid (not_or.mp invalid)⟩

example : (FirewallPolicy.new [8443,22,22]).map FirewallPolicy.protectedPorts = .ok [22,8443] := by decide

structure BreakGlassConfirmation where
  expiresAt : DateTime

def BreakGlassConfirmation.issue (now : DateTime) (lifetime : Nat) : BreakGlassConfirmation :=
  ⟨now + seconds (min lifetime 300)⟩

def BreakGlassConfirmation.isValid (confirmation : BreakGlassConfirmation) (now : DateTime) : Bool :=
  now < confirmation.expiresAt

def FirewallPolicy.risky (policy : FirewallPolicy) (rule : FirewallRule) : Bool :=
  rule.enabled && rule.action == .deny && rule.source.isAll && policy.protectedPorts.any (fun port => rule.ports.contains port)

def FirewallPolicy.validateCandidate (policy : FirewallPolicy) (rules : List FirewallRule)
    (breakGlass : Option BreakGlassConfirmation) (now : DateTime) : Except SecurityError Unit :=
  if rules.any policy.risky && breakGlass.all (fun confirmation => !confirmation.isValid now) then .error .lockoutRisk
  else .ok ()

end OpenPanel.Security
