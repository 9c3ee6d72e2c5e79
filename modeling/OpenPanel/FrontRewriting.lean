import Mathlib.Data.Set.Finite.List
import Mathlib.Order.OrderIsoNat

/-! Words that are rewritten at their front. A step looks no further than a window of
the word, takes some of it away and puts something in its place. Over a finite alphabet
a rewriting that goes on for ever comes back to a word, or to a front it had before with
more behind it, whatever the rest of the word is. -/
namespace FrontRewriting
open Relation

structure System (α : Type) where
  move : List α → Option (Nat × List α)
  window : Nat
  within : move word = some (taken,put) → taken ≤ word.length
  near : window ≤ front.length → ∀ rest, move (front ++ rest) = move front
  puts : Set.Finite {put | ∃ word taken, move word = some (taken,put)}

variable {α : Type} {system : System α} {word next front : List α}

def System.Step (system : System α) (word next : List α) : Prop :=
  ∃ taken put, system.move word = some (taken,put) ∧ next = put ++ word.drop taken

/-- A step of the front, whatever stands behind it. -/
def System.FrontStep (system : System α) (front next : List α) : Prop := ∀ rest, system.Step (front ++ rest) (next ++ rest)

/-- The word comes back, by itself or as the front of any word that it opens. -/
def System.Repeats (system : System α) (word : List α) : Prop :=
  TransGen system.Step word word ∨ ∃ more, TransGen system.FrontStep word (word ++ more)

def System.Ends (system : System α) (word : List α) : Prop := Acc (fun next word => system.Step word next) word

section Endless

variable {run : Nat → List α} {taken : Nat → Nat} {put : Nat → List α}

def behind (run : Nat → List α) (taken : Nat → Nat) (n : Nat) : List α := (run n).drop (taken n)

/-- No later step reaches into what this one leaves behind. -/
def Settled (run : Nat → List α) (taken : Nat → Nat) (n : Nat) : Prop :=
  ∀ m, n ≤ m → (behind run taken n).length ≤ (behind run taken m).length

theorem settledOften (run : Nat → List α) (taken) : {n | Settled run taken n}.Infinite := by
  refine Set.infinite_of_forall_exists_gt (fun low => ?_)
  obtain ⟨n,late,least⟩ := (measure (fun n => (behind run taken n).length)).wf.has_min {n | low < n} ⟨low + 1,Nat.lt_succ_self low⟩
  exact ⟨n,fun m later => Nat.not_lt.mp (least m (Nat.lt_of_lt_of_le late later)),late⟩

variable (moves : ∀ n, system.move (run n) = some (taken n,put n)) (steps : ∀ n, run (n + 1) = put n ++ behind run taken n)

include moves steps in
theorem frontStep (settled : Settled run taken n) (wide : system.window ≤ (behind run taken n).length) (later : n ≤ m)
    (enough : system.window ≤ front.length) (now : run (m + 1) = front ++ (behind run taken n).drop system.window) :
    ∃ next, system.FrontStep front next ∧ system.window ≤ next.length ∧ run (m + 2) = next ++ (behind run taken n).drop system.window := by
  have move := moves (m + 1)
  rw [now,system.near enough] at move
  have next : run (m + 2) = (put (m + 1) ++ front.drop (taken (m + 1))) ++ (behind run taken n).drop system.window := by
    rw [steps,behind,now,List.drop_append_of_le_length (system.within move),List.append_assoc]
  refine ⟨_,fun rest => ⟨_,_,(system.near enough rest).trans move,?_⟩,?_,next⟩
  · rw [List.drop_append_of_le_length (system.within move),List.append_assoc]
  · have longer := settled (m + 1) (by omega)
    have length := congrArg List.length ((steps (m + 1)).symm.trans next)
    rw [List.length_append,List.length_append,List.length_drop] at length
    omega

include moves steps in
theorem frontRun (settled : Settled run taken n) (wide : system.window ≤ (behind run taken n).length) (before : n < m) :
    ∃ front, TransGen system.FrontStep (put n ++ (behind run taken n).take system.window) front ∧
      system.window ≤ front.length ∧ run (m + 1) = front ++ (behind run taken n).drop system.window := by
  induction m, before using Nat.le_induction with
  | base =>
    have start : run (n + 1) = (put n ++ (behind run taken n).take system.window) ++ (behind run taken n).drop system.window := by
      rw [List.append_assoc,List.take_append_drop,steps]
    obtain ⟨front,step,rest⟩ := frontStep moves steps settled wide (Nat.le_refl n) (by rw [List.length_append,List.length_take]; omega) start
    exact ⟨front,.single step,rest⟩
  | succ m before ih =>
    obtain ⟨front,reached,enough,now⟩ := ih
    obtain ⟨next,step,rest⟩ := frontStep moves steps settled wide (Nat.le_of_lt before) enough now
    exact ⟨next,reached.tail step,rest⟩

include moves steps in
/-- Two settled steps leave the same behind, as far as the window reaches, and put the
same before it. Between them the front has come back. -/
theorem endlessRepeats [Finite α] : ∃ n rest, rest.length ≤ system.window ∧ system.Repeats (put n ++ rest) := by
  have signed : Set.MapsTo (fun n => (put n,(behind run taken n).take system.window)) {n | Settled run taken n}
      ({put | ∃ word taken, system.move word = some (taken,put)} ×ˢ {front | front.length ≤ system.window}) :=
    fun n _ => ⟨⟨_,_,moves n⟩,List.length_take_le ..⟩
  obtain ⟨n,settled,m,settled',other,same⟩ := (settledOften run taken).exists_ne_map_eq_of_mapsTo signed
    (system.puts.prod (List.finite_length_le α system.window))
  wlog before : n < m generalizing n m
  · exact this m settled' n settled other.symm same.symm (by omega)
  obtain ⟨samePut,sameFront⟩ := Prod.mk.inj same
  refine ⟨n,(behind run taken n).take system.window,List.length_take_le ..,?_⟩
  have longer := settled m (Nat.le_of_lt before)
  by_cases wide : system.window ≤ (behind run taken n).length
  · obtain ⟨front,reached,_,now⟩ := frontRun moves steps settled wide before
    have starts : put n ++ (behind run taken n).take system.window <+: front := by
      rw [steps,← samePut] at now
      have opens : front <+: put n ++ behind run taken m := ⟨_,now.symm⟩
      refine List.prefix_of_prefix_length_le ?_ opens ?_
      · rw [sameFront]
        exact (List.prefix_append_right_inj _).mpr (List.take_prefix ..)
      · have length := congrArg List.length now
        rw [List.length_append,List.length_append,List.length_drop] at length
        rw [List.length_append,List.length_take]
        omega
    obtain ⟨more,rfl⟩ := starts
    exact .inr ⟨more,reached⟩
  · rw [List.take_of_length_le (by omega)] at sameFront ⊢
    have short := congrArg List.length sameFront
    rw [List.length_take] at short
    rw [List.take_of_length_le (by omega)] at sameFront
    have around : TransGen system.Step (run (n + 1)) (run (m + 1)) :=
      Nat.rel_of_forall_rel_succ_of_lt (TransGen system.Step) (fun k => .single ⟨_,_,moves k,steps k⟩) (Nat.succ_lt_succ before)
    rw [steps,steps,← sameFront,← samePut] at around
    exact .inl around

end Endless

theorem endsUnlessRepeats [Finite α] (never : ∀ put, (∃ word taken, system.move word = some (taken,put)) →
    ∀ rest, rest.length ≤ system.window → ¬ system.Repeats (put ++ rest)) (word : List α) : system.Ends word := by
  refine not_not.mp (fun endless => ?_)
  obtain ⟨run,_,chain⟩ := not_acc_iff_exists_descending_chain.mp endless
  choose taken put moves steps using chain
  obtain ⟨n,rest,fits,repeats⟩ := endlessRepeats moves steps
  exact never (put n) ⟨_,_,moves n⟩ rest fits repeats

theorem leavesAll (ends : ∀ word, system.Ends word) (words : Set (List α))
    (stays : ∀ word ∈ words, ∃ next ∈ words, TransGen system.Step word next) : word ∉ words := by
  intro inside
  obtain ⟨least,here,last⟩ := (WellFounded.intro ends).transGen.has_min words ⟨word,inside⟩
  obtain ⟨next,there,steps⟩ := stays least here
  exact last next there (transGen_swap.mpr steps)

theorem neverRepeats (ends : ∀ word, system.Ends word) (word : List α) : ¬ system.Repeats word := by
  rintro (around | ⟨more,grows⟩)
  · exact leavesAll ends {word} (by rintro _ rfl; exact ⟨_,rfl,around⟩) rfl
  · refine leavesAll ends (Set.range (word ++ ·)) ?_ ⟨[],rfl⟩
    rintro _ ⟨rest,rfl⟩
    have further := grows.lift (· ++ rest) (fun _ _ step => step rest)
    exact ⟨_,⟨more ++ rest,(List.append_assoc ..).symm⟩,further⟩

end FrontRewriting
