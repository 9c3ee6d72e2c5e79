import OpenPanel.Fallible
import Mathlib.Data.List.Infix
import Mathlib.Data.List.Pairwise

/-! A tree of directories and files under paths of names, and the system calls
that change it. A list of paths bounds what a tree holds. Each call may fail without
effect; which ones do is a parameter. -/
namespace FileTree
open Fallible

variable {ν β : Type}

inductive Entry (β : Type) where
  | dir
  | file (content : β)
  deriving DecidableEq

structure Fs (ν β : Type) where
  get : List ν → Option (Entry β)
  paths : List (List ν)
  held : ∀ p, get p ≠ none → p ∈ paths

def Apart (p q : List ν) : Prop := ¬ p <+: q ∧ ¬ q <+: p

def Standing (fs : Fs ν β) (p : List ν) : Prop := ∀ q, q <+: p → fs.get q = some .dir

def Grown (p : List ν) (fs next : Fs ν β) : Prop :=
  ∀ q, next.get q = fs.get q ∨ q <+: p ∧ fs.get q = none ∧ next.get q = some .dir

def Confined (p : List ν) (fs next : Fs ν β) : Prop := ∀ q, Apart p q → next.get q = fs.get q

theorem Apart.symm (apart : Apart p q) : Apart q p := ⟨apart.2,apart.1⟩

theorem Grown.refl (p) (fs : Fs ν β) : Grown p fs fs := fun _ => .inl rfl

theorem Grown.trans (first : Grown p fs mid) (second : Grown p mid next) : Grown p fs next := by
  intro q
  rcases first q with same | ⟨on,none,made⟩
  · rw [← same]
    exact second q
  · rcases second q with kept | ⟨_,absent,_⟩
    · exact .inr ⟨on,none,kept.trans made⟩
    · exact absurd (made.symm.trans absent) nofun

theorem Grown.mono (grown : Grown p fs next) (inside : p <+: longer) : Grown longer fs next := by
  intro q
  rcases grown q with same | ⟨on,made⟩
  · exact .inl same
  · exact .inr ⟨on.trans inside,made⟩

theorem Grown.confined (grown : Grown p fs next) (inside : base <+: p) : Confined base fs next := by
  intro q apart
  rcases grown q with same | ⟨on,_⟩
  · exact same
  · rcases List.prefix_or_prefix_of_prefix inside on with below | above
    · exact absurd below apart.1
    · exact absurd above apart.2

theorem Grown.standing (grown : Grown path fs next) (standing : Standing fs p) : Standing next p := by
  intro q on
  rcases grown q with same | ⟨_,none,_⟩
  · exact same.trans (standing q on)
  · exact absurd ((standing q on).symm.trans none) nofun

theorem Confined.refl (p) (fs : Fs ν β) : Confined p fs fs := fun _ _ => rfl

theorem Confined.trans (first : Confined p fs mid) (second : Confined p mid next) : Confined p fs next :=
  fun q apart => (second q apart).trans (first q apart)

inductive Call (ν : Type) where
  | makeDir (p : List ν)
  | create (p : List ν)
  | write (p : List ν)
  | sync (p : List ν)

def Blocked (fault : Call ν → Option String) (p : List ν) (fs : Fs ν β) : Prop :=
  ∃ q, q <+: p ∧ (fault (.makeDir q) ≠ none ∨ ∃ content, fs.get q = some (.file content))

def noSuch : String := "No such file or directory (os error 2)"
def notDirectory : String := "Not a directory (os error 20)"
def isDirectory : String := "Is a directory (os error 21)"

theorem parentAbove (p : List ν) : p.dropLast <+: p := List.dropLast_prefix p

variable [DecidableEq ν]

instance (p q : List ν) : Decidable (Apart p q) := inferInstanceAs (Decidable (¬ p <+: q ∧ ¬ q <+: p))

namespace Fs

def set (fs : Fs ν β) (p : List ν) (e : Entry β) : Fs ν β where
  get q := if q = p then some e else fs.get q
  paths := p::fs.paths
  held q there := by
    split at there
    · rename_i same
      exact same ▸ List.mem_cons_self
    · exact List.mem_cons_of_mem _ (fs.held q there)

end Fs

abbrev Disk (ν β α : Type) := Prog (Fs ν β) String α

section Calls

variable (fault : Call ν → Option String)

def perform (call : Call ν) (run : Fs ν β → Except String (Fs ν β)) : Disk ν β Unit :=
  attempt (fun fs => match fault call with
    | some message => .error message
    | none => (run fs).map (fun next => ((),next)))

def ensureDir (p : List ν) : Disk ν β Unit :=
  attempt (fun fs => match fs.get p with
    | some .dir => .ok ((),fs)
    | some (.file _) => .error notDirectory
    | none => match fault (.makeDir p) with
      | some message => .error message
      | none => .ok ((),fs.set p .dir))

def createDirAll (done : List ν) : List ν → Disk ν β Unit
  | [] => ensureDir fault done
  | n::rest => do
    ensureDir fault done
    createDirAll (done ++ [n]) rest

def createFile (p : List ν) (empty : β) : Disk ν β Unit :=
  perform fault (.create p) (fun fs => match fs.get p,fs.get p.dropLast with
    | some .dir,_ => .error isDirectory
    | _,some .dir => .ok (fs.set p (.file empty))
    | _,some (.file _) => .error notDirectory
    | _,none => .error noSuch)

def write (p : List ν) (content : β) : Disk ν β Unit :=
  perform fault (.write p) (fun fs => .ok (fs.set p (.file content)))

def sync (p : List ν) : Disk ν β Unit := perform fault (.sync p) .ok

end Calls

section Rules

variable {fault : Call ν → Option String} {fs : Fs ν β}

omit [DecidableEq ν] in
theorem performs (done : ∀ next, run fs = .ok next → post () next)
    (faulted : ∀ message, fault call = some message → failed message fs)
    (stopped : ∀ message, run fs = .error message → failed message fs) : Ends (perform fault call run) fs post failed := by
  refine .attempts ?_ ?_
  · intro _ next ran
    split at ran <;> try contradiction
    cases result : run fs with
    | error message => simp [result,Except.map] at ran
    | ok made =>
      simp only [result,Except.map,Except.ok.injEq,Prod.mk.injEq] at ran
      obtain ⟨_,rfl⟩ := ran
      exact done made result
  · intro message ran
    split at ran
    · cases ran
      exact faulted _ (by assumption)
    · cases result : run fs with
      | error message =>
        simp only [result,Except.map,Except.error.injEq] at ran
        exact ran ▸ stopped message result
      | ok made => simp [result,Except.map] at ran

theorem setGrown (absent : fs.get p = none) : Grown p fs (fs.set p .dir) := by
  intro q
  by_cases same : q = p
  · subst same
    exact .inr ⟨List.prefix_rfl,absent,by simp [Fs.set]⟩
  · exact .inl (by simp [Fs.set,same])

theorem ensureDirEnds : Ends (ensureDir fault p) fs (fun _ next => Grown p fs next ∧ next.get p = some .dir)
    (fun _ next => Grown p fs next ∧ Blocked fault p fs) := by
  refine .attempts ?_ ?_
  · intro _ next ran
    split at ran <;> try contradiction
    · rename_i there
      cases ran
      exact ⟨.refl p fs,there⟩
    · rename_i absent
      split at ran <;> cases ran
      exact ⟨setGrown absent,by simp [Fs.set]⟩
  · intro message ran
    refine ⟨.refl p fs,p,List.prefix_rfl,?_⟩
    split at ran <;> try contradiction
    · rename_i content there
      exact .inr ⟨content,there⟩
    · split at ran <;> cases ran
      rename_i faulted
      exact .inl (by simp [faulted])

theorem createDirAllEnds (above : ∀ q, q <+: done → q ≠ done → fs.get q = some .dir) : Ends (createDirAll fault done rest) fs
      (fun _ next => Grown (done ++ rest) fs next ∧ Standing next (done ++ rest))
      (fun _ next => Grown (done ++ rest) fs next ∧ Blocked fault (done ++ rest) fs) := by
  induction rest generalizing done fs with
  | nil =>
    rw [List.append_nil]
    refine .gives ensureDirEnds ?_
    rintro _ next ⟨grown,made⟩
    refine ⟨grown,fun q on => ?_⟩
    by_cases same : q = done
    · exact same ▸ made
    · rcases grown q with kept | ⟨_,none,_⟩
      · exact kept.trans (above q on same)
      · exact absurd ((above q on same).symm.trans none) nofun
  | cons n rest ih =>
    have inside : done <+: done ++ n::rest := List.prefix_append ..
    refine .andThen (.weaken ensureDirEnds ?_ ?_)
    · rintro _ mid ⟨grown,made⟩
      have next := @ih mid (done ++ [n]) ?_
      · simp only [List.append_assoc,List.cons_append,List.nil_append] at next
        refine .weaken next ?_ ?_
        · rintro _ last ⟨more,standing⟩
          exact ⟨(grown.mono inside).trans more,standing⟩
        · rintro _ last ⟨more,q,on,stopped⟩
          refine ⟨(grown.mono inside).trans more,q,on,stopped.imp_right ?_⟩
          rintro ⟨content,there⟩
          rcases grown q with same | ⟨_,_,dir⟩
          · exact ⟨content,same.symm.trans there⟩
          · exact absurd (dir.symm.trans there) nofun
      · intro q on other
        have shorter : q <+: done := by
          rcases List.prefix_concat_iff.mp on with same | shorter
          · exact absurd same other
          · exact shorter
        by_cases same : q = done
        · exact same ▸ made
        · rcases grown q with kept | ⟨_,none,_⟩
          · exact kept.trans (above q shorter same)
          · exact absurd ((above q shorter same).symm.trans none) nofun
    · rintro _ next ⟨grown,q,on,stopped⟩
      exact ⟨grown.mono inside,q,on.trans inside,stopped⟩

theorem createFileEnds : Ends (createFile fault p empty) fs (fun _ next => next = fs.set p (.file empty))
    (fun _ next => next = fs ∧ (fault (.create p) ≠ none ∨ fs.get p = some .dir ∨ fs.get p.dropLast ≠ some .dir)) := by
  refine performs ?_ (fun message faulted => ⟨rfl,.inl (by simp [faulted])⟩) ?_
  · intro next ran
    split at ran <;> cases ran
    rfl
  · intro message ran
    refine ⟨rfl,.inr ?_⟩
    split at ran <;> try contradiction
    · rename_i there
      exact .inl there
    · rename_i above _
      exact .inr (by simp [above])
    · rename_i above _
      exact .inr (by simp [above])

theorem writeEnds : Ends (write fault p content) fs
    (fun _ next => next = fs.set p (.file content)) (fun _ next => next = fs ∧ fault (.write p) ≠ none) := by
  refine performs ?_ (fun message faulted => ⟨rfl,by simp [faulted]⟩) nofun
  intro next ran
  cases ran
  rfl

omit [DecidableEq ν] in
theorem syncEnds : Ends (sync fault p) fs (fun _ next => next = fs) (fun _ next => next = fs ∧ fault (.sync p) ≠ none) := by
  refine performs ?_ (fun message faulted => ⟨rfl,by simp [faulted]⟩) nofun
  intro next ran
  cases ran
  rfl

theorem setAgain : ((fs.set p e).set p e').get = (fs.set p e').get := by
  funext q
  by_cases same : q = p <;> simp [Fs.set,same]

theorem setConfined (inside : base <+: p) : Confined base fs (fs.set p e) := by
  intro q apart
  have other : q ≠ p := fun same => apart.1 (same ▸ inside)
  simp [Fs.set,other]

theorem setStanding (below : base.length < p.length) (standing : Standing fs base) : Standing (fs.set p e) base := by
  intro q on
  have other : q ≠ p := fun same => absurd on.length_le (by rw [same]; omega)
  simpa [Fs.set,other] using standing q on

end Rules

def laid (files : List (List ν × β)) (rel : List ν) : Option (Entry β) :=
  match files.find? (fun f => f.1 = rel) with
  | some f => some (.file f.2)
  | none => if rel = [] ∨ ∃ f ∈ files, rel <+: f.1 then some .dir else none

def Laid (base : List ν) (files : List (List ν × β)) (fs : Fs ν β) : Prop :=
  ∀ rel, fs.get (base ++ rel) = laid files rel

section Lay

variable {files : List (List ν × β)}

theorem laidFile (apart : files.Pairwise (fun f g => Apart f.1 g.1)) :
    laid files rel = some (.file content) ↔ (rel,content) ∈ files := by
  unfold laid
  constructor
  · intro found
    split at found
    · rename_i f hit
      cases found
      have same : f.1 = rel := by simpa using List.find?_some hit
      exact same ▸ List.mem_of_find?_eq_some hit
    · split at found <;> cases found
  · intro mem
    have only : files.find? (fun f => f.1 = rel) = some (rel,content) := by
      cases found : files.find? (fun f => f.1 = rel) with
      | none => exact absurd (List.find?_eq_none.mp found _ mem) (by simp)
      | some f =>
        have same : f.1 = rel := by simpa using List.find?_some found
        by_cases equal : f = (rel,content)
        · rw [equal]
        · have : Std.Symm (fun f g : List ν × β => Apart f.1 g.1) := ⟨fun _ _ h => h.symm⟩
          have different := apart.forall (List.mem_of_find?_eq_some found) mem equal
          exact absurd (same ▸ List.prefix_rfl) different.1
    rw [only]

theorem laidMissing (free : ∀ f ∈ files, Apart f.1 rel) : files.find? (fun f => f.1 = rel) = none := by
  refine List.find?_eq_none.mpr (fun f mem => ?_)
  simpa using fun same : f.1 = rel => (free f mem).1 (same ▸ List.prefix_rfl)

theorem laidFree (named : rel ≠ []) (free : ∀ f ∈ files, Apart f.1 rel) : laid files rel = none := by
  have above : ¬ (rel = [] ∨ ∃ f ∈ files, rel <+: f.1) := by
    rintro (empty | ⟨f,mem,on⟩)
    · exact named empty
    · exact (free f mem).2 on
  simp only [laid,laidMissing free,if_neg above]

theorem laidOpen (laidOut : Laid base files fs) (standing : Standing fs base)
    (free : ∀ f ∈ files, Apart f.1 p) (on : q <+: base ++ p) : fs.get q ≠ some (.file content) := by
  intro there
  rcases List.prefix_or_prefix_of_prefix on (List.prefix_append base p) with above | ⟨rel,rfl⟩
  · exact absurd ((standing q above).symm.trans there) nofun
  · rw [laidOut] at there
    unfold laid at there
    split at there
    · rename_i f hit
      have same : f.1 = rel := by simpa using List.find?_some hit
      exact (free f (List.mem_of_find?_eq_some hit)).1 (same ▸ (List.prefix_append_right_inj base).mp on)
    · split at there <;> cases there

theorem laidStep (laidOut : Laid base files fs) (free : ∀ f ∈ files, Apart f.1 p)
    (grown : Grown (base ++ p.dropLast) fs mid) (standing : Standing mid (base ++ p.dropLast)) :
    Laid base (files ++ [(p,content)]) (mid.set (base ++ p) (.file content)) := by
  intro rel
  by_cases here : rel = p
  · subst here
    simp [Fs.set,laid,List.find?_append,laidMissing free]
  have kept : (mid.set (base ++ p) (.file content)).get (base ++ rel) = mid.get (base ++ rel) := by
    simp [Fs.set,here]
  have other : (files ++ [(p,content)]).find? (fun f => f.1 = rel) = files.find? (fun f => f.1 = rel) := by
    simp [List.find?_append,Ne.symm here]
  rw [kept]
  by_cases on : rel <+: p
  · -- A directory on the way to the new file.
    have shorter : rel <+: p.dropLast := by
      rcases p.eq_nil_or_concat with empty | ⟨front,last,concat⟩
      · rw [empty,List.prefix_nil] at on
        exact absurd (on.trans empty.symm) here
      · rw [concat,List.concat_eq_append] at on here ⊢
        rcases List.prefix_concat_iff.mp on with same | shorter
        · exact absurd same here
        · simpa using shorter
    have missing : files.find? (fun f => f.1 = rel) = none := by
      refine List.find?_eq_none.mpr (fun f mem => ?_)
      simpa using fun same : f.1 = rel => (free f mem).1 (same ▸ on)
    rw [standing _ ((List.prefix_append_right_inj base).mpr shorter)]
    simp [laid,other,missing,on]
  · have same : laid (files ++ [(p,content)]) rel = laid files rel := by
      simp only [laid,other,List.mem_append,List.mem_singleton,or_and_right,exists_or,exists_eq_left,on,or_false]
    rw [same,← laidOut rel]
    rcases grown (base ++ rel) with unchanged | ⟨above,_⟩
    · exact unchanged
    · exact absurd (((List.prefix_append_right_inj base).mp above).trans (parentAbove p)) on

end Lay

end FileTree
