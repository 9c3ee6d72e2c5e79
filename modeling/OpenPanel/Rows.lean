import Mathlib.Data.List.Sort

/-! A stored table as the list of its rows, with a key read off each row: the
statements that touch all rows of one key, and what they leave alone. -/
namespace Rows

def Unique (key : α → κ) (rows : List α) : Prop := (rows.map key).Nodup

theorem insertUnique {key : α → κ} (unique : Unique key rows) (fresh : ∀ old ∈ rows, key old ≠ key r) : Unique key (rows ++ [r]) := by
  simp only [Unique,List.map_append,List.map_cons,List.map_nil]
  refine List.Nodup.append unique (List.nodup_singleton _) ?_
  intro x left right
  obtain ⟨old,mem,same⟩ := List.mem_map.mp left
  exact fresh old mem (same.trans (List.mem_singleton.mp right))

theorem mapUnique {key : α → κ} {f : α → α} (unique : Unique key rows) (same : ∀ r, key (f r) = key r) : Unique key (rows.map f) := by
  have kept : (rows.map f).map key = rows.map key := by
    rw [List.map_map]
    exact List.map_congr_left (fun r _ => same r)
  unfold Unique
  rwa [kept]

theorem equalOfKey {key : α → κ} (unique : Unique key rows) (left : a ∈ rows) (right : b ∈ rows) (same : key a = key b) : a = b :=
  List.inj_on_of_nodup_map unique left right same

theorem noneSorted {r : α → α → Prop} [DecidableRel r] (none : (rows.insertionSort r).head? = none) : rows = [] := by
  have perm := List.perm_insertionSort r rows
  rw [List.head?_eq_none_iff.mp none] at perm
  exact perm.nil_eq.symm

theorem found [DecidableEq κ] {key : α → κ} {rows : List α} {k : κ} {r : α} (hit : rows.find? (fun row => key row == k) = some r) :
    r ∈ rows ∧ key r = k :=
  ⟨List.mem_of_find?_eq_some hit,by simpa using List.find?_some hit⟩

theorem findOnly {p : α → Bool} {rows : List α} {a : α} (mem : a ∈ rows) (hit : p a)
    (only : ∀ b ∈ rows, p b → b = a) : rows.find? p = some a := by
  cases found : rows.find? p with
  | none => exact absurd hit (List.find?_eq_none.mp found a mem)
  | some b => rw [only b (List.mem_of_find?_eq_some found) (List.find?_some found)]

theorem sortFilter {r : α → α → Prop} [DecidableRel r] [Std.Total r] [IsTrans α r] {rows : List α} (p)
    (apart : ∀ a ∈ rows, ∀ b ∈ rows, r a b → r b a → a = b) : (rows.filter p).insertionSort r = (rows.insertionSort r).filter p := by
  have same : ((rows.filter p).insertionSort r).Perm ((rows.insertionSort r).filter p) :=
    (List.perm_insertionSort r _).trans ((List.perm_insertionSort r rows).filter p).symm
  refine same.eq_of_pairwise (fun a b left right => apart a ?_ b ?_) (List.pairwise_insertionSort r _)
    ((List.pairwise_insertionSort r rows).filter p)
  · exact List.mem_of_mem_filter ((List.mem_insertionSort r).mp left)
  · exact (List.mem_insertionSort r).mp (List.mem_of_mem_filter right)

theorem memTake {r : α → α → Prop} (high) {rows : List α} {a : α} (sorted : rows.Pairwise r)
    (mem : a ∈ rows) (itself : high a = true) (above : ∀ b, r b a → high b = true)
    (few : (rows.filter high).length ≤ n) : a ∈ rows.take n := by
  obtain ⟨front,back,rfl⟩ := List.append_of_mem mem
  have first : ∀ b ∈ front, high b = true := fun b inside =>
    above b ((List.pairwise_append.mp sorted).2.2 b inside a List.mem_cons_self)
  rw [List.filter_append,List.filter_eq_self.mpr first,List.filter_cons_of_pos itself,List.length_append,List.length_cons] at few
  rw [List.take_append,List.mem_append]
  right
  obtain ⟨m,further⟩ : ∃ m, n - front.length = m + 1 := ⟨n - front.length - 1,by omega⟩
  rw [further,List.take_succ_cons]
  exact List.mem_cons_self

theorem memDropFilter [DecidableEq α] {p : α → Bool} {rows : List α} {r : α} (unique : rows.Nodup) : r ∈ (rows.filter p).drop n ↔
      r ∈ rows ∧ p r = true ∧ n ≤ ((rows.takeWhile (fun a => a ≠ r)).filter p).length := by
  induction rows generalizing n with
  | nil => simp
  | cons a rest ih =>
    obtain ⟨fresh,unique⟩ := List.nodup_cons.mp unique
    by_cases here : a = r
    · subst here
      have absent : ∀ m, a ∉ (rest.filter p).drop m := fun m mem =>
        fresh (List.mem_of_mem_filter (List.mem_of_mem_drop mem))
      cases hit : p a <;> cases n <;> simp [hit,absent]
    · have stop : (a::rest).takeWhile (fun b => b ≠ r) = a::rest.takeWhile (fun b => b ≠ r) := by simp [here]
      have inside : r ∈ a::rest ↔ r ∈ rest := by simp [Ne.symm here]
      rw [stop,inside]
      cases hit : p a with
      | false => simpa [hit] using ih unique
      | true =>
        simp only [List.filter_cons,hit,if_true,List.length_cons]
        cases n with
        | zero =>
          have start := @ih 0 unique
          rw [List.drop_zero] at start ⊢
          rw [List.mem_cons,or_iff_right (Ne.symm here),start]
          simp
        | succ n =>
          rw [List.drop_succ_cons,ih unique,Nat.add_le_add_iff_right]

variable [DecidableEq κ]

instance (key : α → κ) (rows) : Decidable (Unique key rows) := by unfold Unique; infer_instance

def update (key : α → κ) (k : κ) (f : α → α) (rows : List α) : List α :=
  rows.map (fun r => if key r = k then f r else r)

def delete (key : α → κ) (k : κ) (rows : List α) : List α :=
  rows.filter (fun r => decide (key r ≠ k))

variable {key : α → κ}

theorem memUpdate (member : r' ∈ update key k f rows) : (r' ∈ rows ∧ key r' ≠ k) ∨ ∃ r ∈ rows, key r = k ∧ r' = f r := by
  obtain ⟨r,mem,same⟩ := List.mem_map.mp member
  split at same
  · rename_i hit
    exact .inr ⟨r,mem,hit,same.symm⟩
  · rename_i miss
    subst same
    exact .inl ⟨mem,miss⟩

theorem updateOther (mem : r ∈ rows) (miss : key r ≠ k) : r ∈ update key k f rows :=
  List.mem_map.mpr ⟨r,mem,if_neg miss⟩

theorem updateHit (mem : r ∈ rows) (hit : key r = k) : f r ∈ update key k f rows :=
  List.mem_map.mpr ⟨r,mem,if_pos hit⟩

theorem updateKeys (same : ∀ r, key r = k → key (f r) = key r) : (update key k f rows).map key = rows.map key := by
  simp only [update,List.map_map]
  apply List.map_congr_left
  intro r _
  simp only [Function.comp_def]
  split
  · rename_i hit
    exact same r hit
  · rfl

theorem updateSame (same : ∀ r ∈ rows, key r = k → f r = r) : update key k f rows = rows := by
  refine (List.map_congr_left (fun r mem => ?_)).trans (List.map_id rows)
  by_cases hit : key r = k
  · simp [hit,same r mem hit]
  · simp [hit]

theorem updateUnique (unique : Unique key rows) (same : ∀ r, key r = k → key (f r) = key r) : Unique key (update key k f rows) := by
  unfold Unique
  rwa [updateKeys same]

theorem findUpdate {p : α → Bool} (miss : ∀ r, key r = k → p r = false ∧ p (f r) = false) :
    (update key k f rows).find? p = rows.find? p := by
  simp only [update]
  induction rows with
  | nil => rfl
  | cons r rest ih =>
    simp only [List.map_cons,List.find?_cons,ih]
    by_cases hit : key r = k
    · simp [hit,miss r hit]
    · simp [hit]

theorem findUpdated (same : ∀ r, key r = k → key (f r) = k) :
    (update key k f rows).find? (fun r => key r == k) = (rows.find? (fun r => key r == k)).map f := by
  simp only [update]
  induction rows with
  | nil => rfl
  | cons r rest ih =>
    simp only [List.map_cons,List.find?_cons,ih]
    by_cases hit : key r = k
    · simp [hit,same r hit]
    · simp [hit,beq_eq_false_iff_ne.mpr hit]

theorem findDelete {p : α → Bool} (miss : ∀ r, key r = k → p r = false) : (delete key k rows).find? p = rows.find? p := by
  simp only [delete,List.find?_filter]
  congr 1
  funext r
  by_cases hit : key r = k
  · simp [hit,miss r hit]
  · simp [hit]

theorem memDelete : r ∈ delete key k rows ↔ r ∈ rows ∧ key r ≠ k := by
  simp [delete]

theorem deleteUnique (unique : Unique key rows) : Unique key (delete key k rows) :=
  List.Nodup.sublist (List.filter_sublist.map key) unique

theorem deleteAbsent (absent : ∀ old ∈ rows, key old ≠ k) : delete key k rows = rows :=
  List.filter_eq_self.mpr (fun old mem => decide_eq_true (absent old mem))

theorem deletePerm (unique : Unique key rows) (mem : r ∈ rows) : (r::delete key (key r) rows).Perm rows := by
  obtain ⟨front,back,rfl⟩ := List.append_of_mem mem
  have shape : (front.map key ++ key r::back.map key).Nodup := by simpa [Unique] using unique
  obtain ⟨_,tail,apart⟩ := List.nodup_append'.mp shape
  have before : delete key (key r) front = front := deleteAbsent (fun old inside same =>
    apart (same ▸ List.mem_map_of_mem inside) List.mem_cons_self)
  have after : delete key (key r) back = back := deleteAbsent (fun old inside same =>
    (List.nodup_cons.mp tail).1 (same ▸ List.mem_map_of_mem inside))
  have split : delete key (key r) (front ++ r::back) = front ++ back := by
    calc delete key (key r) (front ++ r::back)
        = delete key (key r) front ++ delete key (key r) (r::back) := List.filter_append front (r::back)
      _ = front ++ delete key (key r) back := by rw [before]; simp [delete]
      _ = front ++ back := by rw [after]
  rw [split]
  exact List.perm_middle.symm

theorem deleteInserted (fresh : ∀ old ∈ rows, key old ≠ key r) : delete key (key r) (rows ++ [r]) = rows := by
  have kept : delete key (key r) rows = rows := deleteAbsent fresh
  unfold delete at kept ⊢
  rw [List.filter_append,kept]
  simp

end Rows
