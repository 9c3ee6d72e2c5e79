import Mathlib.Logic.Basic

/-! Sequential programs that change a state and may fail. A failure keeps what
was written before it, so a program run from a state has one condition for a
return and one for a failure; the rules follow the program from its start. -/
namespace Fallible

variable {σ ε α β : Type}

abbrev Prog (σ ε α : Type) := ExceptT ε (StateM σ) α

theorem bindOk {f : α → Except ε β} (ok : (x >>= f) = .ok b) : ∃ a, x = .ok a ∧ f a = .ok b := by
  cases x with
  | error e => contradiction
  | ok a => exact ⟨a,rfl,ok⟩

theorem okBind {f : α → Except ε β} : ((Except.ok a : Except ε α) >>= f) = f a := rfl

theorem mapOk {f : α → β} {x : Except ε α} {b : β} (ok : x.map f = .ok b) : ∃ a, x = .ok a ∧ f a = b := by
  cases x with
  | error e => cases ok
  | ok a => exact ⟨a,rfl,Except.ok.inj ok⟩

theorem mapFails {f : α → β} {x : Except ε α} {e : ε} (error : x.map f = .error e) : x = .error e := by
  cases x with
  | error e' => exact congrArg Except.error (Except.error.inj error)
  | ok a => cases error

theorem mapErrorOk {ε' : Type} {f : ε → ε'} {x : Except ε α} {a : α} (ok : x.mapError f = .ok a) : x = .ok a := by
  cases x with
  | error e => cases ok
  | ok b =>
    cases ok
    rfl

theorem mapErrorFails {ε' : Type} {f : ε → ε'} {x : Except ε α} {e : ε'} (failed : x.mapError f = .error e) : ∃ cause, x = .error cause := by
  cases x with
  | error cause => exact ⟨cause,rfl⟩
  | ok a => cases failed

def exec (prog : Prog σ ε α) (s : σ) : Except ε α × σ := prog.run.run s

/-- One step that either changes the state and returns, or fails and changes
nothing. -/
def attempt (step : σ → Except ε (α × σ)) : Prog σ ε α := fun s =>
  match step s with
  | .error e => (.error e,s)
  | .ok (a,next) => (.ok a,next)

def reads (check : σ → Except ε α) : Prog σ ε α := fun s => (check s,s)

/-- A program over a part of the state, its errors reported in other words. -/
def zoom {τ ε' : Type} (part : τ → σ) (store : σ → τ → τ) (report : ε → ε') (prog : Prog σ ε α) : Prog τ ε' α :=
  fun t => match exec prog (part t) with
    | (.ok a,s) => (.ok a,store s t)
    | (.error e,s) => (.error (report e),store s t)

def onError {ε' : Type} (prog : Prog σ ε α) (cleanup : Prog σ ε' Unit) : Prog σ ε α := fun s =>
  match exec prog s with
  | (.ok a,next) => (.ok a,next)
  | (.error e,next) => (.error e,(exec cleanup next).2)

def quietly {ε' : Type} (prog : Prog σ ε' α) : Prog σ ε Unit := fun s => (.ok (),(exec prog s).2)

/-- A failure is handed to another program, which goes on from where it was left. -/
def rescue {ε' : Type} (prog : Prog σ ε α) (handler : ε → Prog σ ε' α) : Prog σ ε' α := fun s =>
  match exec prog s with
  | (.ok a,next) => (.ok a,next)
  | (.error e,next) => exec (handler e) next

theorem execReads (check : σ → Except ε α) (s) : exec (reads check) s = (check s,s) := rfl

theorem execRescue {ε' : Type} {handler : ε → Prog σ ε' α} :
    exec (rescue prog handler) s = match exec prog s with
      | (.ok a,next) => (.ok a,next)
      | (.error e,next) => exec (handler e) next := rfl

theorem execZoom {τ ε' : Type} {part : τ → σ} {store : σ → τ → τ} {report : ε → ε'} {prog : Prog σ ε α} {t : τ} :
    exec (zoom part store report prog) t = match exec prog (part t) with
      | (.ok a,s) => (.ok a,store s t)
      | (.error e,s) => (.error (report e),store s t) := rfl

theorem execAttempt (step : σ → Except ε (α × σ)) (s) : exec (attempt step) s =
    match step s with | .error e => (.error e,s) | .ok (a,next) => (.ok a,next) := rfl

theorem execBind (prog) (next : α → Prog σ ε β) (s) : exec (prog >>= next) s = match exec prog s with
    | (.ok a,mid) => exec (next a) mid
    | (.error e,mid) => (.error e,mid) := by
  change (match prog s with | (result,mid) => ExceptT.bindCont next result mid) = _
  change _ = (match prog s with | (.ok a,mid) => next a mid | (.error e,mid) => (.error e,mid))
  rcases prog s with ⟨_ | _,_⟩ <;> rfl

/-- Run from `s`, the program returns with `post` or fails with `failed`. -/
def Ends (prog : Prog σ ε α) (s : σ) (post : α → σ → Prop) (failed : ε → σ → Prop) : Prop :=
  match exec prog s with
  | (.ok a,next) => post a next
  | (.error e,next) => failed e next

abbrev Leaves (prog : Prog σ ε α) (s : σ) (left : σ → Prop) : Prop := Ends prog s (fun _ => left) (fun _ => left)

namespace Ends

theorem always {prog : Prog σ ε α} {left : σ → Prop} (ends : Leaves prog s left) : left (exec prog s).2 := by
  unfold Leaves Ends at ends
  split at ends <;> simp_all

theorem seen {prog : Prog σ ε α} {left : σ → Prop} (now : left (exec prog s).2) : Leaves prog s left := by
  unfold Leaves Ends
  split <;> simp_all

theorem weaken {post' : α → σ → Prop} {failed' : ε → σ → Prop}
    (ends : Ends prog s post failed) (done : ∀ a next, post a next → post' a next)
    (stopped : ∀ e next, failed e next → failed' e next) : Ends prog s post' failed' := by
  unfold Ends at ends ⊢
  split at ends
  · exact done _ _ ends
  · exact stopped _ _ ends

theorem gives {post' : α → σ → Prop} (ends : Ends prog s post failed) (done : ∀ a next, post a next → post' a next) :
    Ends prog s post' failed :=
  ends.weaken done (fun _ _ stopped => stopped)

theorem both {post' : α → σ → Prop} {failed' : ε → σ → Prop} (first : Ends prog s post failed)
    (second : Ends prog s post' failed') :
    Ends prog s (fun a next => post a next ∧ post' a next) (fun e next => failed e next ∧ failed' e next) := by
  unfold Ends at first second ⊢
  split at first
  · rename_i ran
    rw [ran] at second
    exact ⟨first,second⟩
  · rename_i ran
    rw [ran] at second
    exact ⟨first,second⟩

theorem succeeds {prog : Prog σ ε α} (ends : Ends prog s post (fun _ _ => False)) :
    ∃ a next, exec prog s = (.ok a,next) ∧ post a next := by
  unfold Ends at ends
  split at ends
  · exact ⟨_,_,by assumption,ends⟩
  · exact ends.elim

theorem yields {prog : Prog σ ε α} {a : α} {t : σ}
    (ends : Ends prog s (fun b next => b = a ∧ next = t) (fun _ _ => False)) : exec prog s = (.ok a,t) := by
  obtain ⟨_,_,ran,rfl,rfl⟩ := ends.succeeds
  exact ran

theorem refuses {prog : Prog σ ε α} {e : ε} {t : σ}
    (ends : Ends prog s (fun _ _ => False) (fun reason next => reason = e ∧ next = t)) : exec prog s = (.error e,t) := by
  unfold Ends at ends
  split at ends
  · exact ends.elim
  · rename_i ran
    rw [ran,ends.1,ends.2]

theorem reached (ends : Ends prog s post failed) (ran : exec prog s = (.ok a,next)) : post a next := by
  unfold Ends at ends
  rwa [ran] at ends

theorem stopped (ends : Ends prog s post failed) (ran : exec prog s = (.error e,next)) : failed e next := by
  unfold Ends at ends
  rwa [ran] at ends

theorem observed (done : ∀ a next, exec prog s = (.ok a,next) → post a next)
    (gaveUp : ∀ e next, exec prog s = (.error e,next) → failed e next) : Ends prog s post failed := by
  unfold Ends
  split
  · exact done _ _ (by assumption)
  · exact gaveUp _ _ (by assumption)

theorem returns (now : post a s) : Ends (pure a) s post failed := now

theorem fails (now : failed e s) : Ends (throw e : Prog σ ε α) s post failed := now

theorem whatever (done : ∀ a next, post a next) (stopped : ∀ e next, failed e next) : Ends prog s post failed :=
  observed (fun a next _ => done a next) (fun e next _ => stopped e next)

theorem checks {check : σ → Except ε α} (done : ∀ a, check s = .ok a → post a s)
    (stopped : ∀ e, check s = .error e → failed e s) : Ends (reads check) s post failed := by
  unfold Ends
  rw [execReads]
  cases checked : check s with
  | error e => exact stopped e checked
  | ok a => exact done a checked

theorem knows {check : σ → Except ε α} (known : check s = .ok a) (done : post a s) : Ends (reads check) s post failed := by
  unfold Ends
  rwa [execReads,known]

theorem within {τ ε' : Type} {part : τ → σ} {store : σ → τ → τ} {report : ε → ε'} {prog : Prog σ ε α} {t : τ}
    {post : α → τ → Prop} {failed : ε' → τ → Prop}
    (ends : Ends prog (part t) (fun a next => post a (store next t)) (fun e next => failed (report e) (store next t))) :
    Ends (zoom part store report prog) t post failed := by
  unfold Ends at ends ⊢
  rw [execZoom]
  revert ends
  rcases exec prog (part t) with ⟨e | a,mid⟩
  · exact fun stopped => stopped
  · exact fun reached => reached

theorem cleansUp {ε' : Type} {prog : Prog σ ε α} {cleanup : Prog σ ε' Unit}
    (ends : Ends prog s post (fun e mid => Ends cleanup mid (fun _ => failed e) (fun _ => failed e))) :
    Ends (onError prog cleanup) s post failed := by
  unfold Ends at ends
  change (match onError prog cleanup s with
    | (.ok a,next) => post a next
    | (.error e,next) => failed e next)
  unfold onError
  split at ends
  · rename_i a next ran
    simpa only [ran] using ends
  · rename_i e mid ran
    simpa only [ran] using Ends.always ends

theorem quietly {ε' : Type} {prog : Prog σ ε' α} {post : Unit → σ → Prop}
    (ends : Ends prog s (fun _ => post ()) (fun _ => post ())) : Ends (Fallible.quietly prog) s post failed := by
  exact Ends.always ends

theorem rescues {ε' : Type} {handler : ε → Prog σ ε' α} {failed : ε' → σ → Prop}
    (ends : Ends prog s post (fun e mid => Ends (handler e) mid post failed)) : Ends (rescue prog handler) s post failed := by
  unfold Ends at ends ⊢
  rw [execRescue]
  revert ends
  rcases exec prog s with ⟨e | a,mid⟩
  · exact fun stopped => stopped
  · exact fun reached => reached

theorem attempts {step : σ → Except ε (α × σ)} (done : ∀ a next, step s = .ok (a,next) → post a next)
    (stopped : ∀ e, step s = .error e → failed e s) : Ends (attempt step) s post failed := by
  unfold Ends
  rw [execAttempt]
  cases ran : step s with
  | error e => exact stopped e ran
  | ok result => exact done result.1 result.2 ran

theorem attempted {step : σ → Except ε (α × σ)} {next : σ} (ran : step s = .ok (a,next)) (done : post a next) :
    Ends (attempt step) s post failed := by
  refine attempts (fun b last ok => ?_) (fun e error => absurd (ran.symm.trans error) nofun)
  cases ran.symm.trans ok
  exact done

theorem andThen {next : α → Prog σ ε β} {last : β → σ → Prop}
    (first : Ends prog s (fun a mid => Ends (next a) mid last failed) failed) : Ends (prog >>= next) s last failed := by
  unfold Ends at first ⊢
  rw [execBind]
  revert first
  rcases exec prog s with ⟨e | a,mid⟩
  · exact fun stopped => stopped
  · exact fun reached => reached

theorem after {next : α → Prog σ ε β} {last : β → σ → Prop} (first : Ends prog s post left)
    (done : ∀ a mid, post a mid → Ends (next a) mid last failed) (gaveUp : ∀ e mid, left e mid → failed e mid) :
    Ends (prog >>= next) s last failed :=
  andThen (first.weaken done gaveUp)

theorem asks {check : σ → Except ε α} {next : α → Prog σ ε β} {last : β → σ → Prop}
    (done : ∀ a, check s = .ok a → Ends (next a) s last failed) (stopped : ∀ e, check s = .error e → failed e s) :
    Ends (reads check >>= next) s last failed :=
  andThen (checks done stopped)

theorem branch [Decidable c] (taken : c → Ends yes s post failed) (passed : ¬c → Ends no s post failed) :
    Ends (if c then yes else no) s post failed := by
  split
  · exact taken (by assumption)
  · exact passed (by assumption)

end Ends

attribute [irreducible] Ends

end Fallible
