import Mathlib.Data.Fintype.Card

/-! A directed graph as the relation of its edges, and what one more edge does
to its cycles. -/
namespace Edges
open Relation

variable {α : Type} {r s : α → α → Prop}

def Acyclic (r : α → α → Prop) : Prop := ∀ a, ¬ TransGen r a a

theorem acyclicEmpty (none : ∀ a b, ¬ r a b) : Acyclic r := by
  intro a cycle
  obtain ⟨b,edge,_⟩ := TransGen.head'_iff.mp cycle
  exact none a b edge

theorem acyclicMono (inside : ∀ a b, r a b → s a b) (acyclic : Acyclic s) : Acyclic r :=
  fun a cycle => acyclic a (TransGen.mono inside a a cycle)

theorem acyclicRanked (rank : α → Nat) (up : ∀ a b, r a b → rank a < rank b) : Acyclic r := by
  intro a cycle
  have climbs : ∀ b, TransGen r a b → rank a < rank b := by
    intro b path
    induction path with
    | single edge => exact up _ _ edge
    | tail _ edge ih => exact Nat.lt_trans ih (up _ _ edge)
  exact Nat.lt_irrefl _ (climbs a cycle)

theorem leafEnds (leaf : ∀ b, ¬ r a b) : ¬ TransGen r a b := by
  intro path
  obtain ⟨next,edge,_⟩ := TransGen.head'_iff.mp path
  exact leaf next edge

def Added (r : α → α → Prop) (p c a b : α) : Prop := r a b ∨ (a = p ∧ b = c)

theorem addedPath (path : TransGen (Added r p c) a b) : TransGen r a b ∨ (ReflTransGen r a p ∧ ReflTransGen r c b) := by
  induction path with
  | single edge =>
    obtain old | ⟨rfl,rfl⟩ := edge
    · exact .inl (.single old)
    · exact .inr ⟨.refl,.refl⟩
  | tail _ edge ih =>
    obtain old | ⟨rfl,rfl⟩ := edge
    · obtain inside | ⟨leave,enter⟩ := ih
      · exact .inl (inside.tail old)
      · exact .inr ⟨leave,enter.tail old⟩
    · obtain inside | ⟨leave,_⟩ := ih
      · exact .inr ⟨inside.to_reflTransGen,.refl⟩
      · exact .inr ⟨leave,.refl⟩

theorem addedAcyclic (acyclic : Acyclic r) (different : p ≠ c) (apart : ¬ TransGen r c p) : Acyclic (Added r p c) := by
  intro a cycle
  obtain inside | ⟨leave,enter⟩ := addedPath cycle
  · exact acyclic a inside
  · obtain same | path := reflTransGen_iff_eq_or_transGen.mp (enter.trans leave)
    · exact different same
    · exact apart path

theorem addedCycle (acyclic : Acyclic r) : ¬Acyclic (Added r p c) ↔ p = c ∨ TransGen r c p := by
  refine ⟨fun cycles => by_contra fun apart => ?_,fun closes added => ?_⟩
  · obtain ⟨different,apart⟩ := not_or.mp apart
    exact cycles (addedAcyclic acyclic different apart)
  · have edge : Added r p c p c := .inr ⟨rfl,rfl⟩
    obtain rfl | path := closes
    · exact added p (.single edge)
    · exact added p (.head edge (TransGen.mono (fun _ _ old => .inl old) c p path))

theorem acyclicDownward [Finite α] (acyclic : Acyclic r) : WellFounded (fun b a => r a b) := by
  have irrefl : Std.Irrefl (fun b a : α => TransGen r a b) := ⟨acyclic⟩
  exact Subrelation.wf (fun edge => .single edge) (Finite.wellFounded_of_trans_of_irrefl (fun b a => TransGen r a b))

end Edges
