import OpenPanel.GuardedRun

/-! Background tasks under the job supervisor. A task loops over a `select!` of its
tick and the shutdown signal, each time with a new waiter. `notify_waiters` marks the
waiters there are and keeps nothing; a task that takes its tick drops its waiter. -/
namespace OpenPanel.Jobs
open GuardedRun

inductive Phase where
  | entering
  | waiting (notified : Bool)
  | working
  | exited
  deriving DecidableEq

inductive Move where | enter | tick | stop | finish | panic

-- When both branches are ready `select!` takes either.
def Phase.step : Phase → Move → Option Phase
  | .entering,.enter => some (.waiting false)
  | .entering,.tick => some .working
  | .waiting _,.tick => some .working
  | .waiting true,.stop => some .exited
  | .working,.finish => some .entering
  | .working,.panic => some .exited
  | _,_ => none

structure Supervisor where
  tasks : List Phase
  signalled : Bool
  joined : Nat
  deriving DecidableEq

def spawn (count : Nat) : Supervisor := ⟨List.replicate count .entering,false,0⟩

def notifyWaiters : Phase → Phase
  | .waiting _ => .waiting true
  | phase => phase

inductive Event where
  | task (index : Nat) (move : Move)
  | signal
  | await

-- `join` takes the handle, signals once and then awaits the tasks in their order.
def fire (c : Supervisor) : Event → Option Supervisor
  | .task index move => do
    let phase ← c.tasks[index]?
    let next ← phase.step move
    some {c with tasks := c.tasks.set index next}
  | .signal => if c.signalled then none else some {c with tasks := c.tasks.map notifyWaiters,signalled := true}
  | .await => if c.signalled && c.tasks[c.joined]? == some .exited then some {c with joined := c.joined + 1} else none

def Stranded (c : Supervisor) (index : Nat) : Prop :=
  c.tasks[index]? = some (.waiting false) ∧ ∀ es last, Run fire free c es last → .signal ∉ es

theorem taskMove (fired : fire c (.task index move) = some next) :
    ∃ phase target, c.tasks[index]? = some phase ∧ phase.step move = some target ∧
      next = {c with tasks := c.tasks.set index target} := by
  simp only [fire,bind,Option.bind_eq_some_iff,Option.some.injEq] at fired
  obtain ⟨phase,found,target,moved,rfl⟩ := fired
  exact ⟨phase,target,found,moved,rfl⟩

theorem signalMove (fired : fire c .signal = some next) :
    c.signalled = false ∧ next = {c with tasks := c.tasks.map notifyWaiters,signalled := true} := by
  simp only [fire] at fired
  split at fired <;> cases fired
  exact ⟨by simpa using ‹¬ c.signalled = true›,rfl⟩

theorem awaitMove (fired : fire c .await = some next) : c.tasks[c.joined]? = some .exited ∧ next = {c with joined := c.joined + 1} := by
  simp only [fire] at fired
  split at fired <;> cases fired
  rename_i ready
  simp only [Bool.and_eq_true,beq_iff_eq] at ready
  exact ⟨ready.2,rfl⟩

theorem signalledStep (signalled : c.signalled = true) (fired : fire c e = some next) : e ≠ .signal ∧ next.signalled = true := by
  cases e with
  | task index move =>
    obtain ⟨_,_,_,_,rfl⟩ := taskMove fired
    exact ⟨by simp,signalled⟩
  | signal => exact absurd signalled (by simp [(signalMove fired).1])
  | await =>
    obtain ⟨_,rfl⟩ := awaitMove fired
    exact ⟨by simp,signalled⟩

theorem signalledOnce {guard : Supervisor → Event → Prop} (run : Run fire guard c es next)
    (signalled : c.signalled = true) : .signal ∉ es := by
  induction run with
  | nil => simp
  | cons _ fired _ ih =>
    obtain ⟨other,still⟩ := signalledStep signalled fired
    simp [Ne.symm other,ih still]

theorem strandedIff (signalled : c.signalled = true) : Stranded c index ↔ c.tasks[index]? = some (.waiting false) :=
  ⟨fun stranded => stranded.1,fun parked => ⟨parked,fun _ _ run => signalledOnce run signalled⟩⟩

def heeded (c : Supervisor) : Event → Prop
  | .signal => ∀ phase ∈ c.tasks, phase = .waiting false ∨ phase = .exited
  | .task index .tick => c.tasks[index]? ≠ some (.waiting true)
  | _ => True

instance (c e) : Decidable (heeded c e) := by
  unfold heeded
  split <;> infer_instance

def Leaving (c : Supervisor) : Prop :=
  c.signalled = true → ∀ phase ∈ c.tasks, phase = .waiting true ∨ phase = .exited

theorem leavingStep (c) (e) (next) (leaving : Leaving c) (allowed : heeded c e) (fired : fire c e = some next) : Leaving next := by
  cases e with
  | task index move =>
    obtain ⟨phase,target,found,moved,rfl⟩ := taskMove fired
    intro signalled other mem
    have before := leaving signalled
    rcases List.mem_or_eq_of_mem_set mem with old | rfl
    · exact before other old
    · -- Only a notified task is left to move, and it may only stop.
      rcases before phase (List.mem_of_getElem? found) with rfl | rfl
      · cases move <;> cases moved
        · exact absurd found allowed
        · exact .inr rfl
      · cases move <;> cases moved
  | signal =>
    obtain ⟨_,rfl⟩ := signalMove fired
    intro _ other mem
    obtain ⟨phase,old,rfl⟩ := List.mem_map.mp mem
    rcases allowed phase old with rfl | rfl
    · exact .inl rfl
    · exact .inr rfl
  | await =>
    obtain ⟨_,rfl⟩ := awaitMove fired
    exact leaving

theorem shutdownHeard (count : Nat) {es : List Event} {last : Supervisor} (run : Run fire heeded (spawn count) es last)
    (signalled : last.signalled = true) (index : Nat) : ¬ Stranded last index := by
  intro stranded
  have leaving : Leaving last := run.keeps leavingStep (fun early => by cases early)
  rcases leaving signalled _ (List.mem_of_getElem? stranded.1) with notified | gone
  · cases notified
  · cases gone

def idleRun : List Event :=
  [.task 0 .tick,.task 0 .finish,.task 1 .enter,.task 0 .enter,.signal,.task 1 .stop,.task 0 .stop,.await,.await]

theorem idleHeard : Run fire heeded (spawn 2) idleRun ⟨[.exited,.exited],true,2⟩ ∧
    ∀ index, ¬ Stranded ⟨[.exited,.exited],true,2⟩ index := by
  have run : Run fire heeded (spawn 2) idleRun ⟨[.exited,.exited],true,2⟩ := replaySound (by decide)
  exact ⟨run,shutdownHeard 2 run rfl⟩

def busyRun : List Event := [.task 0 .tick,.signal,.task 0 .finish,.task 0 .enter]

theorem busyStranded : Run fire free (spawn 1) busyRun ⟨[.waiting false],true,0⟩ ∧ Stranded ⟨[.waiting false],true,0⟩ 0 :=
  ⟨replaySound (by decide),(strandedIff rfl).mpr rfl⟩

end OpenPanel.Jobs
