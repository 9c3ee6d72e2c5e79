import Mathlib.Algebra.BigOperators.Group.Finset.Basic
import Mathlib.Algebra.Order.Ring.Nat
import Mathlib.Data.Finset.Max
import Mathlib.Order.Interval.Finset.Nat

/-! Finite sets any two of which are nested or apart, under names. Whether a family
of them uses up one of them is a matter of sizes: those inside it that no other contains
use it up just if their sizes sum to its own. -/
namespace Laminar

section Families
variable [DecidableEq ι]

structure Nested (cells : ι → Finset α) (covers : ι → ι → Bool) : Prop where
  exact : ∀ a b, covers a b = true ↔ cells b ⊆ cells a
  apart : ∀ a b, covers a b = true ∨ covers b a = true ∨ Disjoint (cells a) (cells b)
  named : ∀ a b, cells a = cells b → a = b

def widest (covers : ι → ι → Bool) (family : List ι) : List ι :=
  family.dedup.filter (fun a => family.all (fun b => b == a || !covers b a))

def weight (size : ι → Nat) (family : List ι) : Nat := family.foldr (fun a n => size a + n) 0

variable {cells : ι → Finset α} {covers : ι → ι → Bool}

theorem memWidest : a ∈ widest covers family ↔ a ∈ family ∧ ∀ b ∈ family, covers b a = true → b = a := by
  simp only [widest,List.mem_filter,List.mem_dedup,List.all_eq_true,Bool.or_eq_true,beq_iff_eq,Bool.not_eq_true']
  refine and_congr_right (fun _ => forall₂_congr (fun b _ => ?_))
  cases covers b a <;> simp

theorem widestApart (nested : Nested cells covers) (family) :
    (widest covers family).Pairwise (fun a b => Disjoint (cells a) (cells b)) := by
  have distinct : (widest covers family).Nodup := (List.nodup_dedup family).filter _
  refine distinct.pairwise_of_forall_ne (fun a left b right different => ?_)
  obtain ⟨ma,topA⟩ := memWidest.mp left
  obtain ⟨mb,topB⟩ := memWidest.mp right
  rcases nested.apart a b with wider | under | disjoint
  · exact absurd (topB a ma wider) different
  · exact absurd (topA b mb under).symm different
  · exact disjoint

variable [DecidableEq α]

theorem widestAbove (nested : Nested cells covers) (mem : a ∈ family) : ∃ b ∈ widest covers family, cells a ⊆ cells b := by
  -- Among those that contain `a`, one of the largest is contained in no other.
  have start : a ∈ family.toFinset.filter (fun b => cells a ⊆ cells b) := by simp [mem]
  obtain ⟨b,inside,largest⟩ := Finset.exists_max_image _ (fun b => (cells b).card) ⟨a,start⟩
  obtain ⟨member,above⟩ := Finset.mem_filter.mp inside
  refine ⟨b,memWidest.mpr ⟨List.mem_toFinset.mp member,fun c other covering => ?_⟩,above⟩
  have larger := (nested.exact c b).mp covering
  have bounded := largest c (Finset.mem_filter.mpr ⟨List.mem_toFinset.mpr other,above.trans larger⟩)
  exact nested.named c b (Finset.eq_of_subset_of_card_le larger bounded).symm

theorem weightApart (apart : family.Pairwise (fun a b => Disjoint (cells a) (cells b))) :
    weight (fun a => (cells a).card) family = (family.toFinset.biUnion cells).card := by
  induction family with
  | nil => rfl
  | cons a rest ih =>
    obtain ⟨first,others⟩ := List.pairwise_cons.mp apart
    have disjoint : Disjoint (cells a) (rest.toFinset.biUnion cells) :=
      (Finset.disjoint_biUnion_right _ _ _).mpr (fun b mem => first b (List.mem_toFinset.mp mem))
    rw [List.toFinset_cons,Finset.biUnion_insert,Finset.card_union_of_disjoint disjoint,← ih others]
    rfl

theorem sparesIff (nested : Nested cells covers) (family : List ι) (a) : (∃ x ∈ cells a, ∀ d ∈ family, x ∉ cells d) ↔
      (∀ d ∈ family, covers d a = false) ∧
        weight (fun d => (cells d).card) (widest covers (family.filter (fun d => covers a d))) < (cells a).card := by
  rw [weightApart (widestApart nested _)]
  have within : (widest covers (family.filter (fun d => covers a d))).toFinset.biUnion cells ⊆ cells a := by
    intro x mem
    obtain ⟨d,member,inside⟩ := Finset.mem_biUnion.mp mem
    have kept := (memWidest.mp (List.mem_toFinset.mp member)).1
    exact (nested.exact a d).mp (List.mem_filter.mp kept).2 inside
  constructor
  · rintro ⟨x,here,spared⟩
    refine ⟨fun d mem => Bool.eq_false_iff.mpr (fun wider => spared d mem ((nested.exact d a).mp wider here)),?_⟩
    refine Finset.card_lt_card (Finset.ssubset_iff_of_subset within |>.mpr ⟨x,here,fun mem => ?_⟩)
    obtain ⟨d,member,inside⟩ := Finset.mem_biUnion.mp mem
    have kept := (memWidest.mp (List.mem_toFinset.mp member)).1
    exact spared d (List.mem_filter.mp kept).1 inside
  · rintro ⟨uncovered,smaller⟩
    obtain ⟨x,here,outside⟩ := Finset.exists_mem_notMem_of_card_lt_card smaller
    refine ⟨x,here,fun d mem inside => ?_⟩
    rcases nested.apart a d with wider | under | disjoint
    · obtain ⟨b,top,above⟩ := widestAbove nested (List.mem_filter.mpr ⟨mem,wider⟩)
      exact outside (Finset.mem_biUnion.mpr ⟨b,List.mem_toFinset.mpr top,above inside⟩)
    · rw [uncovered d mem] at under
      cases under
    · exact Finset.disjoint_left.mp disjoint here inside

end Families

def floorTo (k x : Nat) : Nat := x / 2 ^ k * 2 ^ k

theorem floorFloor (less : k ≤ l) (x) : floorTo l (floorTo k x) = floorTo l x := by
  obtain ⟨d,rfl⟩ := Nat.exists_eq_add_of_le less
  simp only [floorTo]
  rw [Nat.pow_add,← Nat.div_div_eq_div_mul,← Nat.div_div_eq_div_mul,Nat.mul_div_cancel _ (Nat.two_pow_pos k)]

theorem floorIff (aligned : floorTo k n = n) : floorTo k x = n ↔ x ∈ Finset.Ico n (n + 2 ^ k) := by
  have positive := Nat.two_pow_pos k
  rw [Finset.mem_Ico,← aligned]
  simp only [floorTo]
  have whole := Nat.div_add_mod x (2 ^ k)
  rw [Nat.mul_comm] at whole
  constructor
  · omega
  · rintro ⟨low,high⟩
    have quotient : x / 2 ^ k = n / 2 ^ k := by
      apply Nat.div_eq_of_lt_le
      · exact low
      · rw [Nat.succ_mul]
        exact high
    rw [quotient]

theorem andShifted (a) (k) : (a &&& BitVec.allOnes w <<< k).toNat = floorTo k a.toNat := by
  have shifted : a &&& BitVec.allOnes w <<< k = a >>> k <<< k := by
    ext i inside
    by_cases low : i < k
    · simp [low]
    · have back : k + (i - k) = i := by omega
      simp [low,back,BitVec.getLsbD_eq_getElem inside]
  have small : a.toNat / 2 ^ k * 2 ^ k < 2 ^ w := Nat.lt_of_le_of_lt (Nat.div_mul_le_self _ _) a.isLt
  rw [shifted,BitVec.toNat_shiftLeft,BitVec.toNat_ushiftRight,Nat.shiftLeft_eq,Nat.shiftRight_eq_div_pow,
    Nat.mod_eq_of_lt small,floorTo]

end Laminar
