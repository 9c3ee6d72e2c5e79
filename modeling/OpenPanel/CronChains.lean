import OpenPanel.CronJob
import Mathlib.Data.Finset.Insert

/-! Chain links and the ledger of their firings. A link has the fields `from` and `to`;
the ledger's key is the upstream job and the run, so what it tells apart are runs of a
job and not the links that hang on it. -/
namespace OpenPanel.Cron

structure ChainLink where
  upstream : Uuid
  downstream : Uuid
  deriving DecidableEq

inductive PresetError where
  | invalidCycle (detail : String)
  | cron (error : CronError)
  deriving DecidableEq

def ChainLink.new (upstream downstream : Uuid) : Except PresetError ChainLink :=
  if upstream = downstream then .error (.invalidCycle "chain link must target another job") else .ok ⟨upstream,downstream⟩

structure ChainLedger where
  fired : Finset (Uuid × Uuid)

def ChainLedger.empty : ChainLedger := ⟨∅⟩

def ChainLedger.fire (ledger : ChainLedger) (link : ChainLink) (runId : Uuid) : ChainLedger × Option Uuid :=
  if (link.upstream,runId) ∈ ledger.fired then (ledger,none)
  else (⟨insert (link.upstream,runId) ledger.fired⟩,some link.downstream)

abbrev Firing := ChainLink × Uuid

def Firing.key (call : Firing) : Uuid × Uuid := (call.1.upstream,call.2)

def ChainLedger.fireAll (ledger : ChainLedger) : List Firing → List (Option Uuid)
  | [] => []
  | call::rest => (ledger.fire call.1 call.2).2::(ledger.fire call.1 call.2).1.fireAll rest

section Firings

variable {ledger : ChainLedger} {calls : List Firing} {call : Firing} {i : Nat}

theorem fireOk : (ledger.fire call.1 call.2).2 = some call.1.downstream ↔ call.key ∉ ledger.fired := by
  unfold ChainLedger.fire
  split
  · rename_i known
    simp [Firing.key,known]
  · rename_i fresh
    simp [Firing.key,fresh]

theorem fireKnows (k) : k ∈ (ledger.fire call.1 call.2).1.fired ↔ k = call.key ∨ k ∈ ledger.fired := by
  unfold ChainLedger.fire
  split
  · rename_i known
    exact ⟨.inr,fun either => either.elim (fun same => same ▸ known) id⟩
  · exact Finset.mem_insert

theorem firesAt (place : calls[i]? = some call) : (ledger.fireAll calls)[i]? = some (some call.1.downstream) ↔
    call.key ∉ ledger.fired ∧ ∀ j < i, ∀ other, calls[j]? = some other → other.key ≠ call.key := by
  induction calls generalizing ledger i with
  | nil => cases place
  | cons first rest ih =>
    cases i with
    | zero =>
      cases Option.some.inj place
      simp only [ChainLedger.fireAll,List.getElem?_cons_zero,Option.some.injEq,fireOk]
      exact ⟨fun fresh => ⟨fresh,fun j below => absurd below (Nat.not_lt_zero j)⟩,And.left⟩
    | succ i =>
      have later : rest[i]? = some call := place
      simp only [ChainLedger.fireAll,List.getElem?_cons_succ,ih later,fireKnows,not_or]
      constructor
      · rintro ⟨⟨apart,fresh⟩,before⟩
        refine ⟨fresh,fun j below other there => ?_⟩
        cases j with
        | zero =>
          cases Option.some.inj there
          exact Ne.symm apart
        | succ j => exact before j (by omega) other there
      · rintro ⟨fresh,before⟩
        exact ⟨⟨Ne.symm (before 0 (by omega) first rfl),fresh⟩,
          fun j below other there => before (j + 1) (by omega) other there⟩

def FiresOnce (calls : List Firing) : Prop := ∀ (i : Nat) call, calls[i]? = some call →
  ((ChainLedger.empty.fireAll calls)[i]? = some (some call.1.downstream) ↔ ∀ j < i, calls[j]? ≠ some call)

theorem emptyFires (place : calls[i]? = some call) : (ChainLedger.empty.fireAll calls)[i]? = some (some call.1.downstream) ↔
    ∀ j < i, ∀ other, calls[j]? = some other → other.key ≠ call.key := by
  rw [firesAt place]
  exact and_iff_right (Finset.notMem_empty _)

theorem oneLink (once : FiresOnce calls) {m : Nat} (place : calls[m]? = some first)
    (least : ∀ j < m, ∀ other, calls[j]? = some other → other.key ≠ first.key) (n : Nat) :
    ∀ call, calls[n]? = some call → call.key = first.key → call.1 = first.1 := by
  induction n using Nat.strong_induction_on with
  | h n ih =>
    intro call there same
    by_contra different
    have fresh : ∀ j < n, calls[j]? ≠ some call := fun j below again => different (ih j below call again same)
    have fires := (emptyFires there).mp ((once n call there).mpr fresh)
    rcases Nat.lt_trichotomy m n with earlier | equal | later
    · exact fires m earlier first place same.symm
    · subst equal
      cases Option.some.inj (place.symm.trans there)
      exact different rfl
    · exact least n later call there same

theorem leastPlace (place : calls[i]? = some call) : ∃ (m : Nat) (first : Firing), calls[m]? = some first ∧ first.key = call.key ∧
    ∀ j < m, ∀ other, calls[j]? = some other → other.key ≠ first.key := by
  induction i using Nat.strong_induction_on generalizing call with
  | h i ih =>
    by_cases earlier : ∃ j < i, ∃ other : Firing, calls[j]? = some other ∧ other.key = call.key
    · obtain ⟨j,below,other,there,same⟩ := earlier
      obtain ⟨m,first,found,key,least⟩ := ih j below there
      exact ⟨m,first,found,key.trans same,least⟩
    · exact ⟨i,call,place,rfl,fun j below other there same => earlier ⟨j,below,other,there,same⟩⟩

theorem chainsFireOnce (calls : List Firing) : FiresOnce calls ↔
    ∀ a ∈ calls, ∀ b ∈ calls, a.1.upstream = b.1.upstream → a.2 = b.2 → a.1 = b.1 := by
  constructor
  · intro once a left b right job run
    obtain ⟨i,there⟩ := List.mem_iff_getElem?.mp left
    obtain ⟨j,here⟩ := List.mem_iff_getElem?.mp right
    obtain ⟨m,first,place,key,least⟩ := leastPlace there
    have same : b.key = first.key := (Prod.ext job.symm run.symm : b.key = a.key).trans key.symm
    rw [oneLink once place least i a there key.symm,oneLink once place least j b here same]
  · intro single i call there
    rw [emptyFires there]
    constructor
    · exact fun apart j below again => apart j below call again rfl
    · intro fresh j below other again same
      obtain ⟨job,run⟩ := Prod.mk.inj same
      have link := single other (List.mem_of_getElem? again) call (List.mem_of_getElem? there) job run
      exact fresh j below (again.trans (congrArg some (Prod.ext link run)))

end Firings

theorem fanOutLost : (ChainLink.new 1 2).toOption = some ⟨1,2⟩ ∧ (ChainLink.new 1 3).toOption = some ⟨1,3⟩ ∧
    ChainLedger.empty.fireAll [(⟨1,2⟩,9),(⟨1,3⟩,9)] = [some 2,none] ∧ ¬ FiresOnce [(⟨1,2⟩,9),(⟨1,3⟩,9)] := by
  refine ⟨by decide,by decide,by decide,fun once => ?_⟩
  have links := (chainsFireOnce _).mp once (⟨1,2⟩,9) (by decide) (⟨1,3⟩,9) (by decide) rfl rfl
  exact absurd links (by decide)

end OpenPanel.Cron
