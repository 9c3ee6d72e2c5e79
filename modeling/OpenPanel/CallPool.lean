import OpenPanel.GuardedRun

/-! Calls that interleave over one shared state. A call is at a program point; a
step reads and writes the shared state atomically and moves on, with an input from the
environment. Calls start at any time, and stay in the pool once finished. A discipline
constrains single steps by the state and by each other call in flight. -/
namespace CallPool
open GuardedRun

variable {σ π ι : Type}

structure Machine (σ π ι : Type) where
  entry : π → Bool
  step : σ → π → ι → Option (σ × π)

structure Pool (σ π : Type) where
  shared : σ
  calls : List π

inductive Event (π ι : Type) where
  | start (point : π)
  | step (index : Nat) (input : ι)

def Machine.fire (m : Machine σ π ι) (c : Pool σ π) : Event π ι → Option (Pool σ π)
  | .start point => if m.entry point then some {c with calls := c.calls ++ [point]} else none
  | .step index input => do
    let point ← c.calls[index]?
    let moved ← m.step c.shared point input
    some ⟨moved.1,c.calls.set index moved.2⟩

theorem fireCases {m : Machine σ π ι} (fired : m.fire c e = some next) :
    (∃ point, e = .start point ∧ m.entry point = true ∧ next = ⟨c.shared,c.calls ++ [point]⟩) ∨
    (∃ index input point shared target, e = .step index input ∧ c.calls[index]? = some point ∧
      m.step c.shared point input = some (shared,target) ∧ next = ⟨shared,c.calls.set index target⟩) := by
  cases e with
  | start point =>
    simp only [Machine.fire] at fired
    split at fired <;> try contradiction
    rename_i entry
    exact .inl ⟨point,rfl,entry,(Option.some.inj fired).symm⟩
  | step index input =>
    simp only [Machine.fire,bind,Option.bind_eq_some_iff] at fired
    obtain ⟨point,found,⟨shared,target⟩,moved,last⟩ := fired
    exact .inr ⟨index,input,point,shared,target,rfl,found,moved,(Option.some.inj last).symm⟩

theorem othersKept {calls : List π} (found : calls[index]? = some point)
    (target) (mem : p ∈ calls) : p = point ∨ p ∈ calls.set index target := by
  obtain ⟨j,position⟩ := List.mem_iff_getElem?.mp mem
  by_cases same : index = j
  · subst same
    exact .inl (Option.some.inj (position.symm.trans found))
  · refine .inr (List.mem_iff_getElem?.mpr ⟨j,?_⟩)
    rwa [List.getElem?_set_ne same]

theorem setCases {calls : List π} (position : (calls.set index target)[j]? = some p) :
    (j = index ∧ p = target) ∨ (j ≠ index ∧ calls[j]? = some p) := by
  rw [List.getElem?_set] at position
  split at position
  · rename_i same
    split at position <;> cases position
    exact .inl ⟨same.symm,rfl⟩
  · rename_i away
    exact .inr ⟨Ne.symm away,position⟩

theorem appendCases (position : (calls ++ [point])[j]? = some p) : calls[j]? = some p ∨ (j = calls.length ∧ p = point) := by
  rw [List.getElem?_append] at position
  split at position
  · exact .inl position
  · rw [List.getElem?_singleton] at position
    split at position <;> cases position
    exact .inr ⟨by omega,rfl⟩

theorem stepMem {calls : List π} (found : calls[index]? = some point) : target ∈ calls.set index target :=
  List.mem_set (List.getElem?_eq_some_iff.mp found).1 target

structure Discipline (σ π ι : Type) where
  alone : σ → π → ι → Prop
  beside : σ → π → ι → π → Prop

def Discipline.guard (d : Discipline σ π ι) (c : Pool σ π) : Event π ι → Prop
  | .start _ => True
  | .step index input => ∀ point ∈ c.calls[index]?, d.alone c.shared point input ∧
      ∀ other ∈ c.calls.eraseIdx index, d.beside c.shared point input other

instance (d : Discipline σ π ι) [∀ s p i, Decidable (d.alone s p i)]
    [∀ s p i q, Decidable (d.beside s p i q)] (c e) : Decidable (d.guard c e) :=
  match e with
  | .start _ => isTrue trivial
  | .step index input =>
    match found : c.calls[index]? with
    | none => isTrue (by simp [Discipline.guard,found])
    | some point =>
      decidable_of_iff (d.alone c.shared point input ∧
        ∀ other ∈ c.calls.eraseIdx index, d.beside c.shared point input other)
        (by simp [Discipline.guard,found])

/-- A proof outline: an assertion on the shared state, one at every program
point, and one on each pair of calls. -/
structure Outline (σ π : Type) where
  shared : σ → Prop
  point : σ → π → Prop
  pair : π → π → Prop

structure Outline.Holds (o : Outline σ π) (c : Pool σ π) : Prop where
  shared : o.shared c.shared
  point : ∀ p ∈ c.calls, o.point c.shared p
  pair : ∀ (i j : Nat) p q, i ≠ j → c.calls[i]? = some p → c.calls[j]? = some q → o.pair p q

/-- The obligations of an outline. `own` is the step seen by the call that
makes it, `other` the same step seen by any other call. -/
structure Outline.Sound (o : Outline σ π) (m : Machine σ π ι) (d : Discipline σ π ι) : Prop where
  symm : ∀ p q, o.pair p q → o.pair q p
  start : ∀ s p, m.entry p = true → o.point s p
  startPair : ∀ s p q, m.entry p = true → o.point s q → o.pair p q
  own : ∀ s p i s' p', o.shared s → o.point s p → d.alone s p i →
    m.step s p i = some (s',p') → o.shared s' ∧ o.point s' p'
  other : ∀ s p i s' p' q, o.shared s → o.point s p → o.point s q → o.pair p q →
    d.alone s p i → d.beside s p i q → m.step s p i = some (s',p') →
    o.point s' q ∧ o.pair p' q

theorem besideOther {d : Discipline σ π ι}
    (allowed : d.guard c (.step index input)) (found : c.calls[index]? = some point) (different : j ≠ index)
    (position : c.calls[j]? = some other) : d.beside c.shared point input other :=
  (allowed point found).2 other (List.mem_eraseIdx_iff_getElem?.mpr ⟨j,different,position⟩)

theorem Outline.stepHolds {o : Outline σ π} (sound : o.Sound m d) (holds : o.Holds c) (allowed : d.guard c e)
    (fired : m.fire c e = some next) : o.Holds next := by
  obtain ⟨point,rfl,entry,rfl⟩ | ⟨index,input,point,shared,target,rfl,found,moved,rfl⟩ :=
    fireCases fired
  · -- The new call is last in the pool: its assertions come from the entry point.
    refine ⟨holds.shared,?_,?_⟩
    · intro p member
      rcases List.mem_append.mp member with old | new
      · exact holds.point p old
      · rw [List.mem_singleton.mp new]
        exact sound.start _ _ entry
    · intro i j p q different left right
      rcases appendCases left with oldP | ⟨last,rfl⟩ <;> rcases appendCases right with oldQ | ⟨last',rfl⟩
      · exact holds.pair i j p q different oldP oldQ
      · exact sound.symm _ _ (sound.startPair _ _ _ entry (holds.point p (List.mem_of_getElem? oldP)))
      · exact sound.startPair _ _ _ entry (holds.point q (List.mem_of_getElem? oldQ))
      · exact absurd (last.trans last'.symm) different
  · have here := holds.point point (List.mem_of_getElem? found)
    have alone := (allowed point found).1
    have own := sound.own _ _ _ _ _ holds.shared here alone moved
    have others : ∀ (j : Nat) q, j ≠ index → c.calls[j]? = some q →
        o.point shared q ∧ o.pair target q := fun j q different right =>
      sound.other _ _ _ _ _ _ holds.shared here (holds.point q (List.mem_of_getElem? right))
        (holds.pair index j point q (Ne.symm different) found right) alone
        (besideOther allowed found different right) moved
    refine ⟨own.1,?_,?_⟩
    · intro p member
      obtain ⟨j,position⟩ := List.mem_iff_getElem?.mp member
      rcases setCases position with ⟨_,rfl⟩ | ⟨different,old⟩
      · exact own.2
      · exact (others j p different old).1
    · intro i j p q different left right
      rcases setCases left with ⟨rfl,rfl⟩ | ⟨away,oldP⟩ <;> rcases setCases right with ⟨rfl,rfl⟩ | ⟨away',oldQ⟩
      · exact absurd rfl different
      · exact (others j q away' oldQ).2
      · exact sound.symm _ _ (others i p away oldP).2
      · exact holds.pair i j p q different oldP oldQ

theorem Outline.runHolds {o : Outline σ π} (sound : o.Sound m d) (run : Run m.fire d.guard c es last)
    (holds : o.Holds c) : o.Holds last :=
  run.keeps (fun _ _ _ inv allowed fired => stepHolds sound inv allowed fired) holds

theorem Outline.runKeeps (Extra : Pool σ π → Prop) {o : Outline σ π} (sound : o.Sound m d)
    (step : ∀ c e next, o.Holds c → Extra c → d.guard c e → m.fire c e = some next → Extra next)
    (run : Run m.fire d.guard c es last) (holds : o.Holds c) (start : Extra c) : Extra last := by
  have both : ∀ c e next, o.Holds c ∧ Extra c → d.guard c e → m.fire c e = some next →
      o.Holds next ∧ Extra next := fun c e next inv allowed fired =>
    ⟨stepHolds sound inv.1 allowed fired,step c e next inv.1 inv.2 allowed fired⟩
  exact (run.keeps both ⟨holds,start⟩).2

/-- What a state keeps, and with it every call that starts later. -/
theorem Outline.laterKeeps {S : σ → Prop} {P : π → Prop} {o : Outline σ π}
    (sound : o.Sound m d) (start : ∀ p, m.entry p = true → P p)
    (step : ∀ s p i s' p', o.shared s → o.point s p → S s → d.alone s p i → m.step s p i = some (s',p') → S s' ∧ (P p → P p'))
    (run : Run m.fire d.guard c es last) (holds : o.Holds c) (now : S c.shared) :
    S last.shared ∧ ∀ index p, c.calls.length ≤ index → last.calls[index]? = some p → P p := by
  refine Outline.runKeeps (fun next => S next.shared ∧ ∀ index p, c.calls.length ≤ index → next.calls[index]? = some p → P p)
    sound ?_ run holds ⟨now,fun index p after position => ?_⟩
  · rintro c' e next holds ⟨kept,later⟩ allowed fired
    obtain ⟨point,rfl,entry,rfl⟩ | ⟨index,input,point,shared,target,rfl,found,moved,rfl⟩ := fireCases fired
    · refine ⟨kept,fun j p after position => ?_⟩
      rcases appendCases position with old | ⟨_,rfl⟩
      · exact later j p after old
      · exact start p entry
    · have here := holds.point point (List.mem_of_getElem? found)
      have moves := step _ _ _ _ _ holds.shared here kept (allowed point found).1 moved
      refine ⟨moves.1,fun j p after position => ?_⟩
      rcases setCases position with ⟨rfl,rfl⟩ | ⟨_,old⟩
      · exact moves.2 (later _ _ after found)
      · exact later j p after old
  · rw [List.getElem?_eq_none after] at position
    cases position

theorem Outline.emptyHolds {o : Outline σ π} (shared : o.shared s) : o.Holds ⟨s,[]⟩ :=
  ⟨shared,by simp,by simp⟩

theorem pairwiseAtMostOne {hit : α → Bool} {l : List α}
    (exclusive : l.Pairwise (fun a b => hit a = true → hit b = true → False)) : (l.filter hit).length ≤ 1 := by
  have kept := exclusive.filter hit
  have on : ∀ a ∈ l.filter hit, hit a = true := fun a mem => (List.mem_filter.mp mem).2
  generalize l.filter hit = rest at kept on
  match rest with
  | [] => simp
  | [_] => simp
  | a::b::_ =>
    exact absurd (on b (by simp)) (fun h =>
      (List.pairwise_cons.mp kept).1 b (by simp) (on a (by simp)) h)

theorem atMostOne {calls : List π} (exclusive : ∀ (i j : Nat) p q, i ≠ j → calls[i]? = some p → calls[j]? = some q →
      busy p = true → busy q = true → False) : (calls.filter busy).length ≤ 1 := by
  apply pairwiseAtMostOne
  rw [List.pairwise_iff_getElem]
  intro i j hi hj less
  exact exclusive i j _ _ (by omega) (List.getElem?_eq_getElem hi) (List.getElem?_eq_getElem hj)

end CallPool
