import Mathlib.Data.List.Basic

/-! Finite runs of a partial step function. A guard is a condition on a state and
the event about to fire; `free` admits every run. `replay` computes a run, so that a
concrete one is checked by evaluation. -/
namespace GuardedRun

def free (_ : γ) (_ : ε) : Prop := True
instance (c : γ) (e : ε) : Decidable (free c e) := by unfold free; infer_instance

inductive Run (fire : γ → ε → Option γ) (guard : γ → ε → Prop) : γ → List ε → γ → Prop where
  | nil (c) : Run fire guard c [] c
  | cons {c e next es last} (allowed : guard c e) (fired : fire c e = some next)
      (rest : Run fire guard next es last) : Run fire guard c (e::es) last

def replay (fire : γ → ε → Option γ) (guard : γ → ε → Prop) [∀ c e, Decidable (guard c e)] :
    γ → List ε → Option γ
  | c,[] => some c
  | c,e::es =>
    if guard c e then do
      let next ← fire c e
      replay fire guard next es
    else none

variable {guard : γ → ε → Prop}

theorem replaySound [∀ c e, Decidable (guard c e)] (ok : replay fire guard c es = some last) : Run fire guard c es last := by
  induction es generalizing c with
  | nil =>
    cases Option.some.inj ok
    exact .nil _
  | cons e es ih =>
    simp only [replay] at ok
    split at ok <;> try contradiction
    rename_i allowed
    obtain ⟨next,fired,rest⟩ := Option.bind_eq_some_iff.mp ok
    exact .cons allowed fired (ih rest)

section Computed

variable (fire : γ → ε → Option γ) (guard : γ → ε → Prop) [∀ c e, Decidable (guard c e)] (c : γ) (es later : List ε)
  (P Q : γ → Prop) [DecidablePred P] [DecidablePred Q]

theorem replayShows (shown : (replay fire guard c es).any (fun last => decide (P last)) = true) :
    ∃ last, Run fire guard c es last ∧ P last := by
  obtain ⟨last,ran,holds⟩ := (Option.any_eq_true _ _).mp shown
  exact ⟨last,replaySound ran,of_decide_eq_true holds⟩

theorem replayTwice (shown : (replay fire guard c es).any (fun mid => decide (P mid) &&
    (replay fire guard mid later).any (fun last => decide (Q last))) = true) :
    ∃ mid last, Run fire guard c es mid ∧ P mid ∧ Run fire guard mid later last ∧ Q last := by
  obtain ⟨mid,ran,shown⟩ := (Option.any_eq_true _ _).mp shown
  obtain ⟨holds,shown⟩ := Bool.and_eq_true_iff.mp shown
  obtain ⟨last,followed,ends⟩ := (Option.any_eq_true _ _).mp shown
  exact ⟨mid,last,replaySound ran,of_decide_eq_true holds,replaySound followed,of_decide_eq_true ends⟩

end Computed

theorem Run.weaken {weaker : γ → ε → Prop} (implied : ∀ c e, guard c e → weaker c e)
    (run : Run fire guard c es last) : Run fire weaker c es last := by
  induction run with
  | nil c => exact .nil c
  | cons allowed fired _ ih => exact .cons (implied _ _ allowed) fired ih

theorem Run.keeps {Inv : γ → Prop} (step : ∀ c e next, Inv c → guard c e → fire c e = some next → Inv next)
    {c es last} (run : Run fire guard c es last) (start : Inv c) : Inv last := by
  induction run with
  | nil => exact start
  | cons allowed fired _ ih => exact ih (step _ _ _ start allowed fired)

theorem Run.lastStep (run : Run fire guard c es last) (final : es.getLast? = some e) :
    ∃ before, Run fire guard c es.dropLast before ∧ guard before e ∧ fire before e = some last := by
  induction run with
  | nil => cases final
  | @cons c first next es last allowed fired rest ih =>
    cases es with
    | nil =>
      cases rest
      cases Option.some.inj final
      exact ⟨c,.nil c,allowed,fired⟩
    | cons second es =>
      obtain ⟨before,earlier,reached⟩ := ih final
      exact ⟨before,.cons allowed fired earlier,reached⟩

end GuardedRun
