import Mathlib.Data.List.TakeDrop
import OpenPanel.FirewallRules

/-! Four matchers of an address against a network: of the firewall, of API
tokens, of webhook destinations and of the admin allow-list. The standard
library's reader of addresses is a parameter; an API token's network is kept as
text and read again each time. -/
namespace OpenPanel
open Security

-- `value.split_once('/')`, the address and the prefix length read from the two sides.
def networkParts (readAddress : String → Option IpAddr) (value : String) : Option (IpAddr × Nat) :=
  match value.toList.span (fun c => c ≠ '/') with
  | (address,_::length) => match readAddress (String.ofList address),parseUnsigned 256 length with
    | some address,some length => some (address,length)
    | _,_ => none
  | _ => none

theorem parseParts (named : networkParts readAddress value = some (network,length)) :
    NetworkCidr.parse readAddress value = NetworkCidr.masked network length := by
  unfold networkParts at named
  split at named <;> try contradiction
  rename_i halves
  split at named <;> try contradiction
  rename_i address read
  cases named
  simp only [NetworkCidr.parse,halves,address,read]

theorem parseDecimal (small : n < 256) : parseUnsigned 256 (decimal n) = some n :=
  (by decide +kernel : ∀ k < 256, parseUnsigned 256 (decimal k) = some k) n small

theorem writtenParts (small : length < 256) (reads : readAddress (String.ofList network.text) = some network) :
    networkParts readAddress (String.ofList (network.text ++ '/'::decimal length)) = some (network,length) := by
  have whole : ∀ c ∈ network.text, decide (c ≠ '/') = true := ipAddrAll (by decide) (by decide) (by decide) network
  have split : (network.text ++ '/'::decimal length).span (fun c => c ≠ '/') = (network.text,'/'::decimal length) := by
    rw [List.span_eq_takeWhile_dropWhile,List.takeWhile_append_of_pos whole,List.dropWhile_append_of_pos whole]
    simp
  rw [networkParts,String.toList_ofList,split]
  simp only [reads,parseDecimal small]

namespace ApiTokens

inductive ApiTokenError where
  | invalidCredential
  | invalidScope
  | invalidCidr
  | invalidLabel
  | emptyScopes
  | invalidExpiration
  | alreadyRevoked
  | notFound
  | forbidden
  | persistence (message : String)
  deriving DecidableEq

structure Cidr where
  text : String
  deriving DecidableEq

def Cidr.parse (readAddress : String → Option IpAddr) (value : String) : Except ApiTokenError Cidr :=
  match networkParts readAddress value with
  | none => .error .invalidCidr
  | some (address,length) =>
    let most := match address with
      | .v4 _ => 32
      | .v6 _ => 128
    if most < length then .error .invalidCidr
    else .ok ⟨String.ofList (address.text ++ '/'::decimal length)⟩

def prefixMatchV4 (network candidate : BitVec 32) (length : Nat) : Bool :=
  network &&& maskBits 32 length == candidate &&& maskBits 32 length

def prefixMatchV6 (network candidate : BitVec 128) (length : Nat) : Bool :=
  network &&& maskBits 128 length == candidate &&& maskBits 128 length

def Cidr.contains (readAddress : String → Option IpAddr) (cidr : Cidr) (candidate : IpAddr) : Bool :=
  match networkParts readAddress cidr.text with
  | none => false
  | some (network,length) => match network,candidate with
    | .v4 network,.v4 candidate => prefixMatchV4 network candidate length
    | .v6 network,.v6 candidate => prefixMatchV6 network candidate length
    | _,_ => false

end ApiTokens

namespace Notifications

def cidrContains (readAddress : String → Option IpAddr) (cidr : String) (address : IpAddr) : Bool :=
  match networkParts readAddress cidr with
  | none => false
  | some (network,length) => match network,address with
    | .v4 network,.v4 address =>
      if length ≤ 32 then network &&& maskBits 32 length == address &&& maskBits 32 length else false
    | .v6 network,.v6 address =>
      if length ≤ 128 then network &&& maskBits 128 length == address &&& maskBits 128 length else false
    | _,_ => false

end Notifications

namespace AdminAllowlist

structure IpCidr where
  address : IpAddr
  prefixLength : Nat
  label : Option String

inductive AdminIpAllowlistError where
  | invalidPrefixLength (address : IpAddr) (prefixLength most : Nat)
  deriving DecidableEq

def IpCidr.new (address : IpAddr) (prefixLength : Nat) (label : Option String) : Except AdminIpAllowlistError IpCidr :=
  let most := match address with
    | .v4 _ => 32
    | .v6 _ => 128
  if most < prefixLength then .error (.invalidPrefixLength address prefixLength most)
  else .ok ⟨address,prefixLength,label⟩

def prefixV4 (length : Nat) : BitVec 32 :=
  if length = 0 then 0#32
  else if 32 ≤ length then BitVec.allOnes 32
  else BitVec.allOnes 32 <<< (32 - length)

-- Each half is masked as 128 bits, of which it fills the lower 64.
def prefixV6 (length : Nat) : BitVec 128 × BitVec 128 :=
  if length = 0 then (0#128,0#128)
  else if 128 ≤ length then (BitVec.allOnes 128,BitVec.allOnes 128)
  else if 64 < length then (BitVec.allOnes 128 <<< (128 - length),BitVec.allOnes 128)
  else (BitVec.allOnes 128 <<< (64 - length),0#128)

def octet {width : Nat} (address : BitVec width) (k : Nat) : BitVec 8 := address.extractLsb' (8 * k) 8

def ipv4ToU32 (address : BitVec 32) : BitVec 32 :=
  (octet address 3).setWidth 32 <<< 24 ||| (octet address 2).setWidth 32 <<< 16 ||| (octet address 1).setWidth 32 <<< 8 |||
    (octet address 0).setWidth 32

def gather (octets : List (BitVec 8)) : BitVec 128 :=
  octets.zipIdx.foldl
    (fun (sum : BitVec 128) (entry : BitVec 8 × Nat) => sum ||| entry.1.setWidth 128 <<< (8 * (7 - entry.2))) 0#128

def ipv6ToU128 (address : BitVec 128) : BitVec 128 × BitVec 128 :=
  let octets := (List.range 16).map (fun i => octet address (15 - i))
  (gather (octets.take 8),gather (octets.drop 8))

def IpCidr.matches (cidr : IpCidr) (ip : IpAddr) : Bool :=
  match cidr.address,ip with
  | .v4 network,.v4 address =>
    let mask := prefixV4 cidr.prefixLength
    ipv4ToU32 network &&& mask == ipv4ToU32 address &&& mask
  | .v6 network,.v6 address =>
    let mask := prefixV6 cidr.prefixLength
    let network := ipv6ToU128 network
    let address := ipv6ToU128 address
    (network.1 &&& mask.1,network.2 &&& mask.2) == (address.1 &&& mask.1,address.2 &&& mask.2)
  | _,_ => false

end AdminAllowlist

def SameBits (length : Nat) (a b : BitVec width) : Prop := ∀ i < length, a.getMsbD i = b.getMsbD i

instance (length : Nat) (a b : BitVec width) : Decidable (SameBits length a b) :=
  inferInstanceAs (Decidable (∀ i < length, a.getMsbD i = b.getMsbD i))

def highHalf (address : BitVec 128) : BitVec 64 := address.extractLsb' 64 64
def lowHalf (address : BitVec 128) : BitVec 64 := address.extractLsb' 0 64

theorem sameAll {a b : BitVec width} : SameBits width a b ↔ a = b :=
  ⟨fun same => BitVec.eq_of_getMsbD_eq same,fun same => same ▸ fun _ _ => rfl⟩

theorem maskBit (fits : length ≤ width) : (maskBits width length).getMsbD i = decide (i < length) := by
  unfold maskBits
  split
  · rename_i none
    simp [none]
  · rw [BitVec.getMsbD_shiftLeft,BitVec.getMsbD_allOnes,decide_eq_decide]
    omega

theorem maskedSame (fits : length ≤ width) : a &&& maskBits width length = b &&& maskBits width length ↔ SameBits length a b := by
  constructor
  · intro same i inside
    have bits := congrArg (fun x => x.getMsbD i) same
    simpa [maskBit fits,inside] using bits
  · intro same
    apply BitVec.eq_of_getMsbD_eq
    intro i _
    rw [BitVec.getMsbD_and,BitVec.getMsbD_and,maskBit fits]
    by_cases inside : i < length
    · rw [same i inside]
    · simp [inside]

theorem highBit (inside : i < 64) : (highHalf address).getMsbD i = address.getMsbD i := by
  simp only [highHalf,BitVec.getMsbD_eq_getLsbD,BitVec.getLsbD_extractLsb',show i < 128 by omega,inside,decide_true,
    Bool.true_and,show 64 - 1 - i < 64 by omega]
  congr 1
  omega

theorem lowBit (inside : i < 64) : (lowHalf address).getMsbD i = address.getMsbD (64 + i) := by
  simp only [lowHalf,BitVec.getMsbD_eq_getLsbD,BitVec.getLsbD_extractLsb',show 64 + i < 128 by omega,inside,decide_true,
    Bool.true_and,show 64 - 1 - i < 64 by omega]
  congr 1
  omega

theorem sameHigh (short : length ≤ 64) : SameBits length a b ↔ SameBits length (highHalf a) (highHalf b) := by
  refine forall_congr' (fun i => forall_congr' (fun inside => ?_))
  rw [highBit (by omega),highBit (by omega)]

theorem sameHalves (short : rest ≤ 64) :
    SameBits (64 + rest) a b ↔ highHalf a = highHalf b ∧ SameBits rest (lowHalf a) (lowHalf b) := by
  rw [← sameAll,← sameHigh (Nat.le_refl 64)]
  constructor
  · intro same
    refine ⟨fun i inside => same i (by omega),fun i inside => ?_⟩
    rw [lowBit (by omega),lowBit (by omega)]
    exact same (64 + i) (by omega)
  · rintro ⟨high,low⟩ i inside
    by_cases first : i < 64
    · exact high i first
    · have later := low (i - 64) (by omega)
      rwa [lowBit (by omega),lowBit (by omega),show 64 + (i - 64) = i by omega] at later

theorem halfSame (short : shift ≤ 64) {a b : BitVec 64} :
    a.setWidth 128 &&& BitVec.allOnes 128 <<< shift = b.setWidth 128 &&& BitVec.allOnes 128 <<< shift ↔ SameBits (64 - shift) a b := by
  have bit : ∀ (x : BitVec 64) j, j < 64 →
      (x.setWidth 128 &&& BitVec.allOnes 128 <<< shift).getLsbD j = (decide (shift ≤ j) && x.getLsbD j) := by
    intro x j inside
    have outer : j < 128 := by omega
    by_cases kept : shift ≤ j
    · simp only [BitVec.getLsbD_and,BitVec.getLsbD_setWidth,BitVec.getLsbD_shiftLeft,BitVec.getLsbD_allOnes,outer,kept,
        show ¬ j < shift by omega,show j - shift < 128 by omega,decide_true,decide_false,Bool.not_false,Bool.true_and,
        Bool.and_true]
    · simp only [BitVec.getLsbD_and,BitVec.getLsbD_shiftLeft,kept,show j < shift by omega,decide_true,decide_false,
        Bool.not_true,Bool.and_false,Bool.false_and]
  constructor
  · intro same i inside
    have bits := congrArg (fun x => x.getLsbD (63 - i)) same
    simp only [bit _ (63 - i) (by omega),show shift ≤ 63 - i by omega,decide_true,Bool.true_and] at bits
    exact congrArg (decide (i < 64) && ·) bits
  · intro same
    apply BitVec.eq_of_getLsbD_eq
    intro j _
    by_cases inside : j < 64
    · rw [bit a j inside,bit b j inside]
      by_cases kept : shift ≤ j
      · have bits := same (63 - j) (by omega)
        simp only [BitVec.getMsbD_eq_getLsbD,show 63 - j < 64 by omega,decide_true,Bool.true_and,
          show 64 - 1 - (63 - j) = j by omega] at bits
        rw [bits]
      · simp [kept]
    · have none : ∀ x : BitVec 64, x.getLsbD j = false := fun x => BitVec.getLsbD_of_ge x j (by omega)
      simp only [BitVec.getLsbD_and,BitVec.getLsbD_setWidth,none,Bool.and_false,Bool.false_and]

namespace AdminAllowlist

theorem octetBit (address : BitVec width) (base) (inside : 8 * k + 8 ≤ target) :
    ((address.extractLsb' (base + 8 * k) 8).setWidth target <<< (8 * k)).getLsbD j =
      (decide (8 * k ≤ j ∧ j < 8 * k + 8) && address.getLsbD (base + j)) := by
  simp only [BitVec.getLsbD_shiftLeft,BitVec.getLsbD_setWidth,BitVec.getLsbD_extractLsb']
  by_cases here : 8 * k ≤ j ∧ j < 8 * k + 8
  · have place : base + 8 * k + (j - 8 * k) = base + j := by omega
    simp only [here,place,and_self,decide_true,Bool.true_and]
    simp only [show j < target by omega,show ¬ j < 8 * k by omega,show j - 8 * k < target by omega,
      show j - 8 * k < 8 by omega,decide_true,decide_false,Bool.not_false,Bool.true_and]
  · by_cases below : j < 8 * k
    · simp [here,below]
    · simp only [here,decide_false,Bool.false_and,show ¬ j - 8 * k < 8 by omega,Bool.and_false]

theorem ipv4ToU32Same (address) : ipv4ToU32 address = address := by
  have first := fun j => octetBit address 0 (show 8 * 3 + 8 ≤ 32 by decide) (j := j)
  have second := fun j => octetBit address 0 (show 8 * 2 + 8 ≤ 32 by decide) (j := j)
  have third := fun j => octetBit address 0 (show 8 * 1 + 8 ≤ 32 by decide) (j := j)
  have fourth := fun j => octetBit address 0 (show 8 * 0 + 8 ≤ 32 by decide) (j := j)
  simp only [Nat.zero_add,Nat.mul_zero,BitVec.shiftLeft_zero,Nat.reduceMul,Nat.reduceAdd] at first second third fourth
  apply BitVec.eq_of_getLsbD_eq
  intro j inside
  simp only [ipv4ToU32,octet,BitVec.getLsbD_or,Nat.reduceMul,Nat.mul_zero,first,second,third,fourth]
  cases address.getLsbD j with
  | false => simp
  | true =>
    simp only [Bool.and_true,Bool.or_eq_true,decide_eq_true_eq]
    omega

theorem gatherHalf (address : BitVec 128) (base) :
    gather ((List.range 8).map (fun i => address.extractLsb' (base + 8 * (7 - i)) 8)) = (address.extractLsb' base 64).setWidth 128 := by
  apply BitVec.eq_of_getLsbD_eq
  intro j inside
  simp only [gather,List.range,List.range.loop,List.zipIdx,List.map_cons,List.map_nil,List.foldl_cons,List.foldl_nil,
    BitVec.getLsbD_or,Nat.zero_add]
  rw [octetBit,octetBit,octetBit,octetBit,octetBit,octetBit,octetBit,octetBit] <;> try decide
  simp only [BitVec.getLsbD_setWidth,BitVec.getLsbD_extractLsb',inside,decide_true,Bool.true_and]
  cases address.getLsbD (base + j) with
  | false => simp
  | true =>
    rw [Bool.eq_iff_iff]
    simp only [Bool.and_true,Bool.or_eq_true,decide_eq_true_eq,BitVec.getLsbD_zero,Bool.false_eq_true,false_or]
    omega

theorem ipv6ToU128Halves (address) : ipv6ToU128 address = ((highHalf address).setWidth 128,(lowHalf address).setWidth 128) := by
  have high := gatherHalf address 64
  have low := gatherHalf address 0
  rw [highHalf,lowHalf,← high,← low]
  rfl

end AdminAllowlist

section Agreement

def Inside (length : Nat) : IpAddr → IpAddr → Prop
  | .v4 network,.v4 address => SameBits length address network
  | .v6 network,.v6 address => SameBits length address network
  | _,_ => False

def Fits (length : Nat) : IpAddr → Prop
  | .v4 _ => length ≤ 32
  | .v6 _ => length ≤ 128

def HalfOff (length : Nat) : IpAddr → IpAddr → Prop
  | .v6 network,.v6 address => 64 < length ∧ length < 128 ∧
    (highHalf address = highHalf network ∧ lowHalf address ≠ lowHalf network ∧
        SameBits (length - 64) (lowHalf address) (lowHalf network) ∨
      lowHalf address = lowHalf network ∧ highHalf address ≠ highHalf network ∧
        SameBits (length - 64) (highHalf address) (highHalf network))
  | _,_ => False

variable {readAddress : String → Option IpAddr} {value : String} {network : IpAddr} {length : Nat}

theorem firewallInside (named : networkParts readAddress value = some (network,length)) (fits : Fits length network)
    (address) : ∃ cidr, NetworkCidr.parse readAddress value = .ok cidr ∧
      (cidr.contains address = true ↔ Inside length network address) := by
  rw [parseParts named]
  cases network with
  | v4 network =>
    refine ⟨_,dif_pos fits,?_⟩
    cases address with
    | v4 address =>
      simp only [NetworkCidr.contains,beq_iff_eq,Inside]
      rw [eq_comm,maskedSame fits]
    | v6 address => simp [NetworkCidr.contains,Inside]
  | v6 network =>
    refine ⟨_,dif_pos fits,?_⟩
    cases address with
    | v4 address => simp [NetworkCidr.contains,Inside]
    | v6 address =>
      simp only [NetworkCidr.contains,beq_iff_eq,Inside]
      rw [eq_comm,maskedSame fits]

theorem tokenInside (named : networkParts readAddress value = some (network,length)) (fits : Fits length network)
    (reads : readAddress (String.ofList network.text) = some network) (address) :
    ∃ cidr, ApiTokens.Cidr.parse readAddress value = .ok cidr ∧
      (cidr.contains readAddress address = true ↔ Inside length network address) := by
  have small : length < 256 := by
    cases network with
    | v4 _ => exact Nat.lt_of_le_of_lt fits (by decide)
    | v6 _ => exact Nat.lt_of_le_of_lt fits (by decide)
  have again := writtenParts small reads
  refine ⟨⟨String.ofList (network.text ++ '/'::decimal length)⟩,?_,?_⟩
  · simp only [ApiTokens.Cidr.parse,named]
    cases network with
    | v4 _ => exact if_neg (Nat.not_lt.mpr fits)
    | v6 _ => exact if_neg (Nat.not_lt.mpr fits)
  · simp only [ApiTokens.Cidr.contains,again]
    cases network with
    | v4 network =>
      cases address with
      | v4 address =>
        simp only [ApiTokens.prefixMatchV4,beq_iff_eq,Inside]
        rw [eq_comm,maskedSame fits]
      | v6 address => simp [Inside]
    | v6 network =>
      cases address with
      | v4 address => simp [Inside]
      | v6 address =>
        simp only [ApiTokens.prefixMatchV6,beq_iff_eq,Inside]
        rw [eq_comm,maskedSame fits]

theorem webhookInside (named : networkParts readAddress value = some (network,length)) (fits : Fits length network)
    (address) : Notifications.cidrContains readAddress value address = true ↔ Inside length network address := by
  simp only [Notifications.cidrContains,named]
  cases network with
  | v4 network =>
    cases address with
    | v4 address =>
      have short : length ≤ 32 := fits
      simp only [short,if_true,beq_iff_eq,Inside]
      rw [eq_comm,maskedSame fits]
    | v6 address => simp [Inside]
  | v6 network =>
    cases address with
    | v4 address => simp [Inside]
    | v6 address =>
      have short : length ≤ 128 := fits
      simp only [short,if_true,beq_iff_eq,Inside]
      rw [eq_comm,maskedSame fits]

theorem prefixV4Mask (fits : length ≤ 32) : AdminAllowlist.prefixV4 length = maskBits 32 length := by
  unfold AdminAllowlist.prefixV4 maskBits
  split
  · rfl
  · split
    · rw [show 32 - length = 0 by omega,BitVec.shiftLeft_zero]
    · rfl

theorem halvesMasked {network address : BitVec 128} :
    ((AdminAllowlist.ipv6ToU128 network).1 &&& (AdminAllowlist.prefixV6 length).1 =
        (AdminAllowlist.ipv6ToU128 address).1 &&& (AdminAllowlist.prefixV6 length).1 ∧
      (AdminAllowlist.ipv6ToU128 network).2 &&& (AdminAllowlist.prefixV6 length).2 =
        (AdminAllowlist.ipv6ToU128 address).2 &&& (AdminAllowlist.prefixV6 length).2) ↔
      if length ≤ 64 then SameBits length (highHalf address) (highHalf network) else if length < 128 then
        SameBits (length - 64) (highHalf address) (highHalf network) ∧ lowHalf address = lowHalf network else address = network := by
  have whole : ∀ a b : BitVec 64, a.setWidth 128 &&& BitVec.allOnes 128 = b.setWidth 128 &&& BitVec.allOnes 128 ↔ b = a := by
    intro a b
    have same := halfSame (Nat.zero_le 64) (a := a) (b := b)
    rwa [BitVec.shiftLeft_zero,Nat.sub_zero,sameAll,eq_comm (a := a)] at same
  have flip : ∀ n (a b : BitVec 64), SameBits n a b ↔ SameBits n b a :=
    fun n a b => forall_congr' (fun i => forall_congr' (fun _ => eq_comm))
  simp only [AdminAllowlist.ipv6ToU128Halves]
  unfold AdminAllowlist.prefixV6
  by_cases none : length = 0
  · simp [none,SameBits]
  by_cases all : 128 ≤ length
  · have both : address = network ↔ highHalf address = highHalf network ∧ lowHalf address = lowHalf network := by
      rw [← sameAll,← sameAll (a := lowHalf address)]
      exact sameHalves (Nat.le_refl 64)
    simp only [none,all,if_true,if_false,show ¬ length ≤ 64 by omega,show ¬ length < 128 by omega,whole,both]
  by_cases long : 64 < length
  · simp only [none,all,long,if_true,if_false,show ¬ length ≤ 64 by omega,show length < 128 by omega,whole,
      halfSame (show 128 - length ≤ 64 by omega),show 64 - (128 - length) = length - 64 by omega]
    rw [flip]
  · simp only [none,all,long,if_true,if_false,show length ≤ 64 by omega,
      halfSame (show 64 - length ≤ 64 by omega),show 64 - (64 - length) = length by omega,BitVec.and_zero,and_true]
    rw [flip]

theorem adminInside (fits : Fits length network) (label) (address) :
    ∃ cidr, AdminAllowlist.IpCidr.new network length label = .ok cidr ∧
      ((cidr.matches address = true ↔ Inside length network address) ↔ ¬ HalfOff length network address) := by
  cases network with
  | v4 network =>
    refine ⟨_,if_neg (Nat.not_lt.mpr fits),?_⟩
    cases address with
    | v4 address =>
      simp only [AdminAllowlist.IpCidr.matches,AdminAllowlist.ipv4ToU32Same,beq_iff_eq,Inside,HalfOff,not_false_iff,iff_true]
      rw [eq_comm,prefixV4Mask fits,maskedSame fits]
    | v6 address => simp [AdminAllowlist.IpCidr.matches,Inside,HalfOff]
  | v6 network =>
    refine ⟨_,if_neg (Nat.not_lt.mpr fits),?_⟩
    cases address with
    | v4 address => simp [AdminAllowlist.IpCidr.matches,Inside,HalfOff]
    | v6 address =>
      simp only [AdminAllowlist.IpCidr.matches,beq_iff_eq,Prod.mk.injEq,halvesMasked,Inside,HalfOff]
      by_cases short : length ≤ 64
      · simp only [short,if_true,sameHigh short,show ¬ 64 < length by omega,false_and,not_false_iff]
      by_cases all : 128 ≤ length
      · have full : length = 128 := Nat.le_antisymm fits all
        subst full
        simp only [show ¬ (128 ≤ 64) by decide,show ¬ (128 < 128) by decide,if_false,sameAll,false_and,and_false,
          not_false_iff]
      -- Between 64 and 128 the two halves are masked the wrong way round.
      obtain ⟨rest,rfl⟩ : ∃ rest, length = 64 + rest := ⟨length - 64,by omega⟩
      have high : highHalf address = highHalf network → SameBits rest (highHalf address) (highHalf network) :=
        fun same => same ▸ fun _ _ => rfl
      have low : lowHalf address = lowHalf network → SameBits rest (lowHalf address) (lowHalf network) :=
        fun same => same ▸ fun _ _ => rfl
      rw [sameHalves (show rest ≤ 64 by omega)]
      simp only [short,if_false,show 64 + rest < 128 by omega,if_true,show 64 < 64 + rest by omega,true_and,
        show 64 + rest - 64 = rest by omega]
      tauto

def AllAgree (readAddress : String → Option IpAddr) (value : String) (network : IpAddr) (length : Nat)
    (label : Option String) (address : IpAddr) : Prop :=
  (∃ cidr, NetworkCidr.parse readAddress value = .ok cidr ∧
      (cidr.contains address = true ↔ Inside length network address)) ∧
    (∃ cidr, ApiTokens.Cidr.parse readAddress value = .ok cidr ∧
      (cidr.contains readAddress address = true ↔ Inside length network address)) ∧
    (Notifications.cidrContains readAddress value address = true ↔ Inside length network address) ∧
    ∃ cidr, AdminAllowlist.IpCidr.new network length label = .ok cidr ∧
      (cidr.matches address = true ↔ Inside length network address)

theorem matchersAgree (label : Option String) (address : IpAddr)
    (named : networkParts readAddress value = some (network,length)) (fits : Fits length network)
    (reads : readAddress (String.ofList network.text) = some network) :
    AllAgree readAddress value network length label address ↔ ¬ HalfOff length network address := by
  obtain ⟨cidr,made,agrees⟩ := adminInside fits label address
  constructor
  · rintro ⟨_,_,_,other,again,same⟩
    cases made.symm.trans again
    exact agrees.mp same
  · intro even
    exact ⟨firewallInside named fits address,tokenInside named fits reads address,webhookInside named fits address,
      cidr,made,agrees.mpr even⟩

def documentation : IpAddr := .v6 0x20010db8000000000000000000000000
def documentationHost : IpAddr := .v6 0x20010db8000000000000000000000001

def readDocumentation (text : String) : Option IpAddr := if text = "2001:db8::" then some documentation else none

theorem shortPrefixAgrees : networkParts readDocumentation "2001:db8::/48" = some (documentation,48) ∧
    AllAgree readDocumentation "2001:db8::/48" documentation 48 none documentationHost :=
  ⟨by decide +kernel,(matchersAgree none documentationHost (by decide +kernel)
    (show Fits 48 documentation from (by decide : 48 ≤ 128)) (by decide +kernel)).mpr (fun off => absurd off.1 (by decide))⟩

theorem longPrefixMissed :
    (NetworkCidr.parse readDocumentation "2001:db8::/96").map (fun cidr => cidr.contains documentationHost) = .ok true ∧
      (ApiTokens.Cidr.parse readDocumentation "2001:db8::/96").map
        (fun cidr => cidr.contains readDocumentation documentationHost) = .ok true ∧
      Notifications.cidrContains readDocumentation "2001:db8::/96" documentationHost = true ∧
      (AdminAllowlist.IpCidr.new documentation 96 none).map (fun cidr => cidr.matches documentationHost) = .ok false := by
  decide +kernel

end Agreement

end OpenPanel
