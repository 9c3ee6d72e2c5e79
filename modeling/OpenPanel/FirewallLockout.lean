import OpenPanel.FirewallRules
import OpenPanel.Laminar

/-! Who still reaches a protected port once a candidate is loaded. The policy looks
at each deny alone; access is lost to several narrower denies as well. Networks
are nested or apart, so the sizes of the widest denies tell whether they use up
a network together. -/
namespace OpenPanel.Security
open Laminar

def FirewallRule.selects (rule : FirewallRule) (port : UInt16) : Bool :=
  rule.enabled && rule.protocol == .tcp && rule.ports.contains port

def admitted (port : UInt16) (address : IpAddr) : List FirewallRule → Bool
  | [] => true
  | rule::rest =>
    if rule.selects port && rule.source.contains address then rule.action == .allow
    else admitted port address rest

inductive Family where | ipv4 | ipv6

def Family.whole : Family → NetworkCidr
  | .ipv4 => ⟨.v4 0,0,by decide⟩
  | .ipv6 => ⟨.v6 0,0,by decide⟩

def Accessible (policy : FirewallPolicy) (rules : List FirewallRule) : Prop :=
  ∀ port ∈ policy.protectedPorts, ∀ family : Family,
    ∃ address, family.whole.contains address = true ∧ admitted port address rules = true

section Networks

def IpAddr.width : IpAddr → Nat
  | .v4 _ => 32
  | .v6 _ => 128

def IpAddr.number : IpAddr → Nat
  | .v4 address => address.toNat
  | .v6 address => address.toNat

def IpAddr.place (address : IpAddr) : Nat × Nat := (address.width,address.number)

def NetworkCidr.hostBits (cidr : NetworkCidr) : Nat := cidr.network.width - cidr.prefixLength

def NetworkCidr.size (cidr : NetworkCidr) : Nat := 2 ^ cidr.hostBits

def NetworkCidr.covers (wide narrow : NetworkCidr) : Bool :=
  wide.prefixLength ≤ narrow.prefixLength && wide.contains narrow.network

def NetworkCidr.cells (cidr : NetworkCidr) : Finset (Nat × Nat) :=
  {cidr.network.width} ×ˢ Finset.Ico cidr.network.number (cidr.network.number + cidr.size)

theorem placeInj {a b : IpAddr} (same : a.place = b.place) : a = b := by
  cases a <;> cases b <;> simp_all [IpAddr.place,IpAddr.width,IpAddr.number,BitVec.toNat_inj]

theorem maskedNat (address) (length) : (address &&& maskBits width length).toNat = floorTo (width - length) address.toNat := by
  have shifted : maskBits width length = BitVec.allOnes width <<< (width - length) := by
    unfold maskBits
    split
    · rename_i none
      rw [none,Nat.sub_zero,BitVec.shiftLeft_eq_zero (Nat.le_refl _)]
      rfl
    · rfl
  rw [shifted,andShifted]

theorem maskedIff {width length network address} :
    network = address &&& maskBits width length ↔ floorTo (width - length) address.toNat = network.toNat := by
  rw [← BitVec.toNat_inj,maskedNat,eq_comm]

variable {cidr : NetworkCidr}

theorem lengthFits (cidr : NetworkCidr) : cidr.prefixLength ≤ cidr.network.width := by
  obtain ⟨network,length,valid⟩ := cidr
  cases network <;> exact valid.1

theorem alignedNetwork (cidr : NetworkCidr) : floorTo cidr.hostBits cidr.network.number = cidr.network.number := by
  obtain ⟨network,length,valid⟩ := cidr
  cases network with
  | v4 network => exact (maskedNat network length).symm.trans (congrArg BitVec.toNat valid.2)
  | v6 network => exact (maskedNat network length).symm.trans (congrArg BitVec.toNat valid.2)

theorem memCells : p ∈ cidr.cells ↔ p.1 = cidr.network.width ∧ floorTo cidr.hostBits p.2 = cidr.network.number := by
  rw [NetworkCidr.cells,Finset.mem_product,Finset.mem_singleton,floorIff (alignedNetwork cidr)]
  rfl

theorem containsIff {address} : cidr.contains address = true ↔ address.place ∈ cidr.cells := by
  rw [memCells]
  obtain ⟨network,length,valid⟩ := cidr
  cases network <;> cases address
  · simpa [NetworkCidr.contains,IpAddr.place,IpAddr.width,IpAddr.number,NetworkCidr.hostBits] using maskedIff
  · simp [NetworkCidr.contains,IpAddr.place,IpAddr.width]
  · simp [NetworkCidr.contains,IpAddr.place,IpAddr.width]
  · simpa [NetworkCidr.contains,IpAddr.place,IpAddr.width,IpAddr.number,NetworkCidr.hostBits] using maskedIff

theorem cellsCard (cidr : NetworkCidr) : cidr.cells.card = cidr.size := by
  rw [NetworkCidr.cells,Finset.card_product,Finset.card_singleton,Nat.card_Ico]
  omega

theorem networkInside (cidr : NetworkCidr) : cidr.network.place ∈ cidr.cells :=
  memCells.mpr ⟨rfl,alignedNetwork cidr⟩

theorem cellAddress (mem : p ∈ cidr.cells) : ∃ address : IpAddr, p = address.place := by
  obtain ⟨family,start⟩ := memCells.mp mem
  have bounded : p.2 < 2 ^ cidr.network.width := by
    have below : cidr.network.number < 2 ^ cidr.network.width := by
      cases cidr.network with
      | v4 network => exact network.isLt
      | v6 network => exact network.isLt
    have fits : cidr.hostBits ≤ cidr.network.width := Nat.sub_le _ _
    obtain ⟨d,wide⟩ := Nat.exists_eq_add_of_le fits
    rw [wide,Nat.pow_add] at below ⊢
    rw [← start,floorTo,Nat.mul_comm (2 ^ cidr.hostBits)] at below
    rw [Nat.mul_comm]
    exact (Nat.div_lt_iff_lt_mul (Nat.two_pow_pos _)).mp (Nat.lt_of_mul_lt_mul_right below)
  obtain ⟨family',number⟩ := p
  cases network : cidr.network with
  | v4 _ =>
    rw [network] at family bounded
    refine ⟨.v4 (BitVec.ofNat 32 number),Prod.ext family ?_⟩
    exact (Nat.mod_eq_of_lt bounded).symm
  | v6 _ =>
    rw [network] at family bounded
    refine ⟨.v6 (BitVec.ofNat 128 number),Prod.ext family ?_⟩
    exact (Nat.mod_eq_of_lt bounded).symm

theorem coversInside {wide narrow : NetworkCidr} (covers : wide.covers narrow = true) : narrow.cells ⊆ wide.cells := by
  simp only [NetworkCidr.covers,Bool.and_eq_true,decide_eq_true_eq,containsIff] at covers
  obtain ⟨shorter,inside⟩ := covers
  obtain ⟨family,start⟩ := memCells.mp inside
  intro p mem
  obtain ⟨same,rounded⟩ := memCells.mp mem
  have family : narrow.network.width = wide.network.width := family
  have bits : narrow.hostBits ≤ wide.hostBits := by
    simp only [NetworkCidr.hostBits,family]
    omega
  refine memCells.mpr ⟨same.trans family,?_⟩
  rw [← floorFloor bits,rounded]
  exact start

theorem insideCovers {wide narrow : NetworkCidr} (inside : narrow.cells ⊆ wide.cells) : wide.covers narrow = true := by
  have member := inside (networkInside narrow)
  have family : narrow.network.width = wide.network.width := (memCells.mp member).1
  have sizes := Finset.card_le_card inside
  rw [cellsCard,cellsCard] at sizes
  have bits := (Nat.pow_le_pow_iff_right (by decide : 1 < 2)).mp sizes
  have wideFits := lengthFits wide
  have narrowFits := lengthFits narrow
  simp only [NetworkCidr.hostBits,family] at bits narrowFits
  simp only [NetworkCidr.covers,Bool.and_eq_true,decide_eq_true_eq]
  exact ⟨by omega,containsIff.mpr member⟩

theorem coversOrApart {a b : NetworkCidr} (shorter : a.prefixLength ≤ b.prefixLength) :
    a.covers b = true ∨ Disjoint a.cells b.cells := by
  by_cases inside : a.contains b.network = true
  · exact .inl (by simp [NetworkCidr.covers,shorter,inside])
  · refine .inr (Finset.disjoint_left.mpr (fun p left right => inside (containsIff.mpr (memCells.mpr ?_))))
    obtain ⟨familyA,startA⟩ := memCells.mp left
    obtain ⟨familyB,startB⟩ := memCells.mp right
    have family : b.network.width = a.network.width := familyB.symm.trans familyA
    have bits : b.hostBits ≤ a.hostBits := by
      simp only [NetworkCidr.hostBits,family]
      omega
    refine ⟨family,?_⟩
    have start := floorFloor bits p.2
    rw [startA,startB] at start
    exact start

theorem networksNested : Nested NetworkCidr.cells NetworkCidr.covers where
  exact a b := ⟨coversInside,insideCovers⟩
  apart a b := by
    rcases Nat.le_total a.prefixLength b.prefixLength with shorter | longer
    · exact (coversOrApart shorter).imp_right .inr
    · exact .inr ((coversOrApart longer).imp_right (fun apart => apart.symm))
  named a b same := by
    have above := insideCovers same.subset
    have under := insideCovers same.symm.subset
    simp only [NetworkCidr.covers,Bool.and_eq_true,decide_eq_true_eq] at above under
    have lengths : a.prefixLength = b.prefixLength := Nat.le_antisymm under.1 above.1
    have member := networkInside a
    rw [same] at member
    obtain ⟨family,start⟩ := memCells.mp member
    have family : a.network.width = b.network.width := family
    have bits : a.hostBits = b.hostBits := by simp only [NetworkCidr.hostBits,family,lengths]
    have number : a.network.number = b.network.number := by
      rw [← alignedNetwork a,bits]
      exact start
    have network : a.network = b.network := placeInj (Prod.ext family number)
    cases b
    cases network
    cases lengths
    rfl

end Networks

def spares (denies : List NetworkCidr) (network : NetworkCidr) : Bool :=
  denies.all (fun deny => !deny.covers network) &&
    decide (weight NetworkCidr.size (widest NetworkCidr.covers (denies.filter (fun deny => network.covers deny))) <
      network.size)

def leavesOpen (port : UInt16) (whole : NetworkCidr) : List NetworkCidr → List FirewallRule → Bool
  | denies,[] => spares denies whole
  | denies,rule::rest =>
    if rule.selects port then match rule.action with
      | .allow => whole.covers rule.source && spares denies rule.source || leavesOpen port whole denies rest
      | .deny => leavesOpen port whole (rule.source::denies) rest
    else leavesOpen port whole denies rest

theorem sparesAddress : spares denies network = true ↔
      ∃ address, network.contains address = true ∧ ∀ deny ∈ denies, deny.contains address = false := by
  have sizes : (fun cidr : NetworkCidr => cidr.cells.card) = NetworkCidr.size := funext cellsCard
  have spared := sparesIff networksNested denies network
  rw [sizes,cellsCard] at spared
  rw [spares,Bool.and_eq_true,List.all_eq_true,decide_eq_true_eq]
  simp only [Bool.not_eq_true',← spared]
  constructor
  · rintro ⟨p,mem,outside⟩
    obtain ⟨address,rfl⟩ := cellAddress mem
    exact ⟨address,containsIff.mpr mem,fun deny listed => Bool.eq_false_iff.mpr (fun inside =>
      outside deny listed (containsIff.mp inside))⟩
  · rintro ⟨address,mem,outside⟩
    exact ⟨address.place,containsIff.mp mem,fun deny listed inside =>
      Bool.eq_false_iff.mp (outside deny listed) (containsIff.mpr inside)⟩

theorem opensAddress (all : whole.prefixLength = 0) : leavesOpen port whole denies rules = true ↔
      ∃ address, whole.contains address = true ∧ (∀ deny ∈ denies, deny.contains address = false) ∧
        admitted port address rules = true := by
  induction rules generalizing denies with
  | nil => simp [leavesOpen,admitted,sparesAddress]
  | cons rule rest ih =>
    simp only [leavesOpen,admitted]
    cases selected : rule.selects port with
    | false => simpa using ih
    | true =>
      simp only [if_true,Bool.true_and]
      cases action : rule.action with
      | deny =>
        simp only [ih,List.mem_cons,forall_eq_or_imp]
        refine exists_congr (fun address => ?_)
        cases rule.source.contains address <;> simp
      | allow =>
        simp only [Bool.or_eq_true,Bool.and_eq_true,sparesAddress,ih]
        constructor
        · rintro (⟨inside,address,member,outside⟩ | ⟨address,family,outside,rest⟩)
          · have family := containsIff.mpr (coversInside inside (containsIff.mp member))
            exact ⟨address,family,outside,by simp [member]⟩
          · refine ⟨address,family,outside,?_⟩
            split
            · rfl
            · exact rest
        · rintro ⟨address,family,outside,allowed⟩
          by_cases member : rule.source.contains address = true
          · -- A network that meets the family lies in it.
            rcases coversOrApart (a := whole) (b := rule.source) (by omega) with covers | apart
            · exact .inl ⟨covers,address,member,outside⟩
            · exact absurd (containsIff.mp member) (Finset.disjoint_left.mp apart (containsIff.mp family))
          · rw [if_neg member] at allowed
            exact .inr ⟨address,family,outside,allowed⟩

def staysOpen (policy : FirewallPolicy) (rules : List FirewallRule) : Bool :=
  policy.protectedPorts.all (fun port => [Family.ipv4,.ipv6].all (fun family => leavesOpen port family.whole [] rules))

theorem accessibleIff : Accessible policy rules ↔ staysOpen policy rules = true := by
  have each : ∀ port (family : Family), leavesOpen port family.whole [] rules = true ↔
      ∃ address, family.whole.contains address = true ∧ admitted port address rules = true := by
    intro port family
    have zero : family.whole.prefixLength = 0 := by cases family <;> rfl
    have opened : leavesOpen port family.whole [] rules = true ↔ _ := opensAddress zero
    simpa using opened
  simp only [staysOpen,List.all_eq_true,each]
  refine forall₂_congr (fun port _ => ⟨fun open' family _ => open' family,fun both family => both family ?_⟩)
  cases family <;> simp

theorem unconfirmedAccepted {policy : FirewallPolicy}
    (unconfirmed : confirmation.all (fun confirmed => !confirmed.isValid now) = true) :
    policy.validateCandidate rules confirmation now = .ok () ↔ rules.any policy.risky = false := by
  unfold FirewallPolicy.validateCandidate
  rw [unconfirmed,Bool.and_true]
  cases rules.any policy.risky <;> simp

theorem lockoutFree (policy : FirewallPolicy) (rules : List FirewallRule) (confirmation : Option BreakGlassConfirmation)
    (now : DateTime) (unconfirmed : confirmation.all (fun confirmed => !confirmed.isValid now) = true) :
    (policy.validateCandidate rules confirmation now = .ok () → Accessible policy rules) ↔
      rules.any policy.risky = true ∨ staysOpen policy rules = true := by
  rw [unconfirmedAccepted unconfirmed,accessibleIff]
  cases rules.any policy.risky <;> simp

def sshDenied (id : Uuid) (network : BitVec 32) (valid : (IpAddr.v4 network).Canonical 1) : FirewallRule :=
  ⟨id,.tcp,⟨22,22,by decide⟩,⟨.v4 network,1,valid⟩,.deny,[],true,by decide⟩

def sshPolicy : FirewallPolicy := ⟨[22],by decide⟩

theorem halfDenied : sshPolicy.validateCandidate [sshDenied 1 0 (by decide)] none 0 = .ok () ∧
    Accessible sshPolicy [sshDenied 1 0 (by decide)] := by
  have accepted : sshPolicy.validateCandidate [sshDenied 1 0 (by decide)] none 0 = .ok () := by decide
  exact ⟨accepted,(lockoutFree sshPolicy _ none 0 rfl).mpr (.inr (by decide +kernel)) accepted⟩

theorem halvesDenied : sshPolicy.validateCandidate [sshDenied 1 0 (by decide),sshDenied 2 0x80000000 (by decide)] none 0 =
      .ok () ∧ ¬Accessible sshPolicy [sshDenied 1 0 (by decide),sshDenied 2 0x80000000 (by decide)] := by
  refine ⟨by decide,fun accessible => ?_⟩
  exact absurd (accessibleIff.mp accessible) (by decide +kernel)

end OpenPanel.Security
