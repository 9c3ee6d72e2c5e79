import Mathlib.Data.List.Infix
import OpenPanel.Fallible

/-! A file tree with symbolic links, and system calls that take a path of names from
the top. A path is walked component by component, a link being replaced by its target a
bounded number of times. A call on an entry itself walks to the entry's directory. A
call may fail without effect, and removing a directory may stop half way. The tree keeps
a log of the entries that were made, changed, moved or removed. There are no hard links
and no permission checks. -/
namespace LinkTree
open Fallible

inductive Step (ν : Type) where
  | here
  | up
  | down (name : ν)
  deriving DecidableEq

structure Route (ν : Type) where
  absolute : Bool
  steps : List (Step ν)
  deriving DecidableEq

inductive Node (ν β : Type) where
  | dir (mode : Nat)
  | file (content : β) (mode : Nat)
  | link (target : Route ν)
  deriving DecidableEq

def Node.isLink : Node ν β → Bool
  | .link _ => true
  | _ => false

/-- The top is a directory; every other path has an entry or none. -/
structure Tree (ν β : Type) where
  top : Nat
  inner : List ν → Option (Node ν β)
  paths : List (List ν)
  held : ∀ p, inner p ≠ none → p ∈ paths
  touched : List (List ν)

inductive Errno where
  | noSuch
  | notDirectory
  | isDirectory
  | alreadyThere
  | tooManyLinks
  | invalid
  | notEmpty
  | busy
  | other (text : String)
  deriving DecidableEq

def Errno.text : Errno → String
  | .noSuch => "No such file or directory (os error 2)"
  | .notDirectory => "Not a directory (os error 20)"
  | .isDirectory => "Is a directory (os error 21)"
  | .alreadyThere => "File exists (os error 17)"
  | .tooManyLinks => "Too many levels of symbolic links (os error 40)"
  | .invalid => "Invalid argument (os error 22)"
  | .notEmpty => "Directory not empty (os error 39)"
  | .busy => "Device or resource busy (os error 16)"
  | .other text => text

namespace Tree

def get (t : Tree ν β) : List ν → Option (Node ν β)
  | [] => some (.dir t.top)
  | n::rest => t.inner (n::rest)

def without (t : Tree ν β) (gone : List ν → Bool) : Tree ν β where
  top := t.top
  inner q := if gone q then none else t.inner q
  paths := t.paths
  held q there := by
    split at there
    · exact absurd rfl there
    · exact t.held q there
  touched := t.touched ++ t.paths.filter (fun q => gone q && (t.inner q).isSome)

section Walking

variable (t : Tree ν β) (create : Bool)

def inDir (cur : List ν) (next : Except Errno (List ν)) : Except Errno (List ν) := match t.get cur with
  | some (.dir _) => next
  | _ => .error .notDirectory

/-- The walk up to the next link. Only the last component may be missing, and only when it is to be made. -/
def walkSteps (onLink : List ν → List (Step ν) → Except Errno (List ν)) : List ν → List (Step ν) → Except Errno (List ν)
  | cur,[] => .ok cur
  | cur,.here::rest => t.inDir cur (walkSteps onLink cur rest)
  | cur,.up::rest => t.inDir cur (walkSteps onLink cur.dropLast rest)
  | cur,.down name::rest => t.inDir cur (match t.get (cur ++ [name]) with
    | none => if create && rest.isEmpty then .ok (cur ++ [name]) else .error .noSuch
    | some (.link target) => onLink (if target.absolute then [] else cur) (target.steps ++ rest)
    | some _ => walkSteps onLink (cur ++ [name]) rest)

def walk : Nat → List ν → List (Step ν) → Except Errno (List ν)
  | 0 => walkSteps t create (fun _ _ => .error .tooManyLinks)
  | links + 1 => walkSteps t create (walk links)

end Walking

def maxLinks : Nat := 40

def canonicalize (t : Tree ν β) (steps : List (Step ν)) : Except Errno (List ν) := t.walk false maxLinks [] steps

def locate (t : Tree ν β) (create : Bool) (p : List ν) : Except Errno (List ν) := t.walk create maxLinks [] (p.map .down)

def place (t : Tree ν β) (p : List ν) : Except Errno (List ν) := match p.getLast? with
  | none => .error .busy
  | some name => do
    let parent ← t.locate false p.dropLast
    t.inDir parent (.ok (parent ++ [name]))

def metadata (t : Tree ν β) (p : List ν) : Except Errno (Node ν β) := do
  let q ← t.locate false p
  match t.get q with
  | some node => .ok node
  | none => .error .noSuch

def isDir (t : Tree ν β) (p : List ν) : Bool := match t.metadata p with
  | .ok (.dir _) => true
  | _ => false

def present (t : Tree ν β) (p : List ν) : Bool := match t.metadata p with
  | .ok _ => true
  | .error _ => false

variable [DecidableEq ν]

def set (t : Tree ν β) (p : List ν) (node : Node ν β) : Tree ν β where
  top := match p,node with
    | [],.dir mode => mode
    | _,_ => t.top
  inner q := if q = p then some node else t.inner q
  paths := p::t.paths
  held q there := by
    split at there
    · rename_i same
      exact same ▸ List.mem_cons_self
    · exact List.mem_cons_of_mem _ (t.held q there)
  touched := t.touched ++ [p]

def clear (t : Tree ν β) (p : List ν) : Tree ν β := t.without (fun q => decide (p <+: q))

/-- Entries below the path are gone, each with what it holds. -/
def prune (t : Tree ν β) (p : List ν) (torn : List ν → Bool) : Tree ν β :=
  t.without (fun q => q.inits.any (fun a => decide (p <+: a ∧ p ≠ a) && torn a))

def move (t : Tree ν β) (source target : List ν) : Tree ν β where
  top := t.top
  inner q :=
    if target <+: q then t.inner (source ++ q.drop target.length)
    else if source <+: q then none else t.inner q
  paths := t.paths ++ t.paths.map (fun p => target ++ p.drop source.length)
  held q there := by
    split at there
    · rename_i under
      obtain ⟨rest,rfl⟩ := under
      simp only [List.drop_left] at there
      exact List.mem_append_right _ (List.mem_map.mpr ⟨_,t.held _ there,by simp⟩)
    · split at there
      · exact absurd rfl there
      · exact List.mem_append_left _ (t.held q there)
  touched := t.touched ++ [source,target]

def hasEntries (t : Tree ν β) (p : List ν) : Bool :=
  t.paths.any (fun q => decide (p <+: q ∧ p ≠ q) && (t.get q).isSome)

end Tree

inductive Call (ν : Type) where
  | mkdir (p : List ν)
  | openNew (p : List ν)
  | fill (p : List ν)
  | setPermissions (p : List ν)
  | rename (source target : List ν)
  | unlink (p : List ν)
  | removeDirAll (p : List ν)

/-- What fails, and what is gone where a removal stops half way. -/
structure Faults (ν : Type) where
  fault : Call ν → Option Errno
  torn : List ν → Bool

abbrev Disk (ν β α : Type) := Prog (Tree ν β) Errno α

section Calls

variable [DecidableEq ν] (env : Faults ν)

def perform (call : Call ν) (run : Tree ν β → Except Errno (Tree ν β)) : Disk ν β Unit :=
  attempt (fun t => match env.fault call with
    | some e => .error e
    | none => (run t).map (fun next => ((),next)))

-- Modes are those a umask of 022 leaves.
def mkdir (p : List ν) : Disk ν β Unit :=
  perform env (.mkdir p) (fun t => match t.place p with
    | .error .busy => .error .alreadyThere
    | .error e => .error e
    | .ok q => match t.get q with
      | some _ => .error .alreadyThere
      | none => .ok (t.set q (.dir 0o755)))

def makeDirs : List ν → Disk ν β Unit
  | [] => existing [] .alreadyThere
  | name::up => rescue (mkdir env (name::up).reverse) (fun e =>
      if e = .noSuch then do
        makeDirs up
        rescue (mkdir env (name::up).reverse) (existing (name::up).reverse)
      else existing (name::up).reverse e)
where
  existing (p : List ν) (e : Errno) : Disk ν β Unit := reads (fun t => if t.isDir p then .ok () else .error e)

def createDirAll (p : List ν) : Disk ν β Unit := makeDirs env p.reverse

def openNew (p : List ν) (empty : β) : Disk ν β (List ν) := do
  let q ← reads (fun t => t.locate true p)
  perform env (.openNew p) (fun t => match t.get q with
    | some (.file _ mode) => .ok (t.set q (.file empty mode))
    | none => .ok (t.set q (.file empty 0o644))
    | some (.dir _) => .error .isDirectory
    | some (.link _) => .error .tooManyLinks)
  pure q

def fill (q : List ν) (content : β) : Disk ν β Unit :=
  perform env (.fill q) (fun t => match t.get q with
    | some (.file _ mode) => .ok (t.set q (.file content mode))
    | _ => .error .invalid)

def write (p : List ν) (empty content : β) : Disk ν β Unit := do
  let q ← openNew env p empty
  fill env q content

def setPermissions (p : List ν) (mode : Nat) : Disk ν β Unit :=
  perform env (.setPermissions p) (fun t => do
    let q ← t.locate false p
    match t.get q with
    | some (.dir _) => .ok (t.set q (.dir mode))
    | some (.file content _) => .ok (t.set q (.file content mode))
    | _ => .error .noSuch)

def unlink (p : List ν) : Disk ν β Unit :=
  perform env (.unlink p) (fun t => do
    let q ← t.place p
    match t.get q with
    | none => .error .noSuch
    | some (.dir _) => .error .isDirectory
    | some _ => .ok (t.clear q))

/-- Of a link only the link is removed. A directory is emptied through its handle and then removed by its path, which
may have led through a link below it. The top cannot be removed, but what it holds can. -/
def removeDirAll (p : List ν) : Disk ν β Unit := fun t =>
  match if p = [] then .ok [] else t.place p with
  | .error e => (.error e,t)
  | .ok q => match t.get q with
    | none => (.error .noSuch,t)
    | some (.file _ _) => (.error .notDirectory,t)
    | some (.link _) => exec (unlink env p) t
    | some (.dir _) => match env.fault (.removeDirAll p) with
      | some e => (.error e,t.prune q env.torn)
      | none =>
        let emptied := t.prune q (fun _ => true)
        match if p = [] then .error .busy else emptied.place p with
        | .error e => (.error e,emptied)
        | .ok q => (.ok (),emptied.clear q)

def rename (source target : List ν) : Disk ν β Unit :=
  perform env (.rename source target) (fun t => do
    let old ← t.place source
    let new ← t.place target
    match t.get old with
    | none => .error .noSuch
    | some moved =>
      if old = new then .ok t
      else if old <+: new then .error .invalid
      else if new <+: old then .error .notEmpty
      else match t.get new,moved with
        | none,_ => .ok (t.move old new)
        | some (.dir _),.dir _ => if t.hasEntries new then .error .notEmpty else .ok (t.move old new)
        | some (.dir _),_ => .error .isDirectory
        | some _,.dir _ => .error .notDirectory
        | some _,_ => .ok (t.move old new))

end Calls

section Standing

variable {t : Tree ν β}

def Solid (t : Tree ν β) (p : List ν) : Prop := ∀ q, q <+: p → q ≠ p → ∃ mode, t.get q = some (.dir mode)

def Settled (t : Tree ν β) (p : List ν) : Prop := Solid t p ∧ ∃ node, t.get p = some node ∧ node.isLink = false

def Anchored (t : Tree ν β) (p : List ν) : Prop := Settled t p.dropLast

theorem getWithout (kept : gone q = false) : (t.without gone).get q = t.get q := by
  cases q with
  | nil => rfl
  | cons => simp [Tree.get,Tree.without,kept]

theorem settledTop : Settled t [] :=
  ⟨fun _ above other => absurd (List.prefix_nil.mp above) other,_,rfl,rfl⟩

theorem Solid.above (solid : Solid t p) (above : q <+: p) (other : q ≠ p) : Settled t q := by
  obtain ⟨mode,dir⟩ := solid q above other
  refine ⟨fun r higher different => solid r (higher.trans above) ?_,_,dir,rfl⟩
  intro same
  subst same
  exact different (higher.eq_of_length_le above.length_le)

theorem Settled.anchored (settled : Settled t p) : Anchored t p := by
  by_cases top : p = []
  · subst top
    exact settledTop
  · exact settled.1.above (List.dropLast_prefix p) (fun same => by
      have := congrArg List.length same
      have := List.length_pos_iff.mpr top
      simp only [List.length_dropLast] at *
      omega)

variable [DecidableEq ν]

theorem getSet (other : q ≠ p) : (t.set p node).get q = t.get q := by
  cases q with
  | nil =>
    cases p with
    | nil => exact absurd rfl other
    | cons => rfl
  | cons => simp only [Tree.get,Tree.set,if_neg other]

theorem getSetSame (below : p ≠ []) : (t.set p node).get p = some node := by
  cases p with
  | nil => exact absurd rfl below
  | cons => simp only [Tree.get,Tree.set,if_true]

theorem getMove (old : ¬ source <+: q) (new : ¬ target <+: q) : (t.move source target).get q = t.get q := by
  cases q with
  | nil => rfl
  | cons => simp only [Tree.get,Tree.move,if_neg old,if_neg new]

/-- Only entries of the area were touched, and nothing else reads differently. -/
def Within (area : List ν → Prop) (t next : Tree ν β) : Prop :=
  (∃ new, next.touched = t.touched ++ new ∧ ∀ q ∈ new, area q) ∧ ∀ q, ¬ area q → next.get q = t.get q

omit [DecidableEq ν] in
theorem Within.refl (area) (t : Tree ν β) : Within area t t := ⟨⟨[],by simp,by simp⟩,fun _ _ => rfl⟩

omit [DecidableEq ν] in
theorem Within.same (same : next = t) : Within area t next := same ▸ Within.refl area t

omit [DecidableEq ν] in
theorem Within.trans (first : Within area t mid) (second : Within area mid next) : Within area t next := by
  obtain ⟨⟨new,log,inside⟩,same⟩ := first
  obtain ⟨⟨new',log',inside'⟩,same'⟩ := second
  refine ⟨⟨new ++ new',by rw [log',log,List.append_assoc],fun q mem => ?_⟩,fun q out => (same' q out).trans (same q out)⟩
  exact (List.mem_append.mp mem).elim (inside q) (inside' q)

omit [DecidableEq ν] in
theorem Within.mono (within : Within area t next) (more : ∀ q, area q → area' q) : Within area' t next := by
  obtain ⟨⟨new,log,inside⟩,same⟩ := within
  exact ⟨⟨new,log,fun q mem => more q (inside q mem)⟩,fun q out => same q (fun here => out (more q here))⟩

omit [DecidableEq ν] in
theorem Within.logged (within : Within area t next) (grown : t.touched ++ [q] <+: next.touched) : area q := by
  obtain ⟨⟨new,log,inside⟩,_⟩ := within
  rw [log,List.prefix_append_right_inj] at grown
  exact inside q (grown.subset List.mem_cons_self)

theorem getClear (below : p ≠ []) : (t.clear p).get p = none := by
  cases p with
  | nil => exact absurd rfl below
  | cons => simp [Tree.get,Tree.clear,Tree.without]

theorem setWithin (here : area p) : Within area t (t.set p node) :=
  ⟨⟨[p],rfl,by simpa using here⟩,fun _ out => getSet (fun same => out (same ▸ here))⟩

omit [DecidableEq ν] in
theorem withoutWithin (fits : ∀ q, gone q = true → area q) : Within area t (t.without gone) := by
  refine ⟨⟨_,rfl,fun q mem => fits q ?_⟩,fun q out => getWithout (Bool.eq_false_iff.mpr (fun hit => out (fits q hit)))⟩
  exact (Bool.and_eq_true_iff.mp (List.mem_filter.mp mem).2).1

theorem clearWithin (fits : ∀ q, p <+: q → area q) : Within area t (t.clear p) :=
  withoutWithin (fun q hit => fits q (by simpa using hit))

theorem pruneWithin (fits : ∀ q, p <+: q → q ≠ p → area q) : Within area t (t.prune p torn) := by
  refine withoutWithin (fun q hit => ?_)
  obtain ⟨a,above,torn⟩ := List.any_eq_true.mp hit
  obtain ⟨below,other⟩ := of_decide_eq_true (Bool.and_eq_true_iff.mp torn).1
  have under := (List.mem_inits _ _).mp above
  refine fits q (below.trans under) (fun same => other ?_)
  subst same
  exact below.eq_of_length_le under.length_le

theorem moveWithin (old : ∀ q, source <+: q → area q) (new : ∀ q, target <+: q → area q) : Within area t (t.move source target) := by
  refine ⟨⟨_,rfl,?_⟩,fun q out => getMove (fun below => out (old q below)) (fun below => out (new q below))⟩
  simpa using ⟨old _ List.prefix_rfl,new _ List.prefix_rfl⟩

end Standing

section Walks

variable {t : Tree ν β}

theorem inDirOk (ok : t.inDir cur next = .ok p) : (∃ mode, t.get cur = some (.dir mode)) ∧ next = .ok p := by
  rw [Tree.inDir] at ok
  split at ok <;> try contradiction
  exact ⟨⟨_,by assumption⟩,ok⟩

theorem inDirHere (dir : t.get cur = some (.dir mode)) : t.inDir cur next = next := by
  rw [Tree.inDir,dir]

/-- Where a walk may end: at an entry, or at the place of one that is to be made. -/
def Reached (t : Tree ν β) (create : Bool) (p : List ν) : Prop := Settled t p ∨ create = true ∧ t.get p = none ∧ Solid t p

theorem Settled.solidChild (settled : Settled t p) (dir : t.get p = some (.dir mode)) (name) : Solid t (p ++ [name]) := by
  intro q above other
  rcases List.prefix_concat_iff.mp above with same | above
  · exact absurd same other
  · by_cases same : q = p
    · exact ⟨mode,same ▸ dir⟩
    · exact settled.1 q above same

theorem walkStepsReached (links : ∀ {cur steps p}, Settled t cur → onLink cur steps = .ok p → Reached t create p)
    (start : Settled t cur) (reached : t.walkSteps create onLink cur steps = .ok p) : Reached t create p := by
  induction steps generalizing cur with
  | nil =>
    cases reached
    exact .inl start
  | cons step rest ih =>
    cases step with
    | here => exact ih start (inDirOk reached).2
    | up => exact ih start.anchored (inDirOk reached).2
    | down name =>
      obtain ⟨⟨mode,dir⟩,reached⟩ := inDirOk reached
      split at reached
      · rename_i absent
        split at reached <;> cases reached
        rename_i last
        exact .inr ⟨(Bool.and_eq_true_iff.mp last).1,absent,start.solidChild dir name⟩
      · refine links ?_ reached
        split
        · exact settledTop
        · exact start
      · rename_i node notLink there
        refine ih ⟨start.solidChild dir name,node,there,?_⟩ reached
        cases node with
        | link target => exact absurd rfl (notLink target)
        | _ => rfl

theorem walkReached (start : Settled t cur) (reached : t.walk create links cur steps = .ok p) : Reached t create p := by
  induction links generalizing cur steps p with
  | zero => exact walkStepsReached (fun _ impossible => by cases impossible) start reached
  | succ links ih => exact walkStepsReached (fun begun ok => ih begun ok) start reached

theorem walkSettled (start : Settled t cur) (reached : t.walk false links cur steps = .ok p) : Settled t p :=
  (walkReached start reached).resolve_right (fun made => Bool.false_ne_true made.1)

theorem walkStepsDown (settled : Settled t (cur ++ names)) :
    t.walkSteps create onLink cur (names.map .down ++ rest) = t.walkSteps create onLink (cur ++ names) rest := by
  induction names generalizing cur with
  | nil => simp
  | cons name names ih =>
    have shape : cur ++ name::names = cur ++ [name] ++ names := by simp
    have first : Settled t (cur ++ [name]) := by
      by_cases last : names = []
      · exact last ▸ settled
      · exact settled.1.above (by simp) (by simpa using last)
    obtain ⟨mode,dir⟩ := settled.1 cur (List.prefix_append ..) (by simp)
    obtain ⟨node,there,notLink⟩ := first.2
    have rest := ih (shape ▸ settled)
    rw [shape,← rest]
    simp only [List.map_cons,List.cons_append,Tree.walkSteps,inDirHere dir,there]
    cases node with
    | link target => cases notLink
    | _ => rfl

theorem walkDown (settled : Settled t (cur ++ names)) :
    t.walk create links cur (names.map .down ++ rest) = t.walk create links (cur ++ names) rest := by
  cases links <;> exact walkStepsDown settled

theorem locateSettled (settled : Settled t p) : t.locate create p = .ok p := by
  have whole : t.walk create Tree.maxLinks [] (p.map .down ++ []) = t.walk create Tree.maxLinks ([] ++ p) [] := walkDown settled
  rw [List.append_nil,List.nil_append] at whole
  exact whole

theorem walkHere : t.walk create links cur (.here::rest) = t.inDir cur (t.walk create links cur rest) := by
  cases links <;> rfl

theorem walkUp : t.walk create links cur (.up::rest) = t.inDir cur (t.walk create links cur.dropLast rest) := by
  cases links <;> rfl

def jump (t : Tree ν β) (create : Bool) (links : Nat) (cur : List ν) (steps : List (Step ν)) : Except Errno (List ν) :=
  match links with
  | 0 => .error .tooManyLinks
  | links + 1 => t.walk create links cur steps

theorem walkName :
    t.walk create links cur (.down name::rest) = t.inDir cur (match t.get (cur ++ [name]) with
      | none => if create && rest.isEmpty then .ok (cur ++ [name]) else .error .noSuch
      | some (.link target) => jump t create links (if target.absolute then [] else cur) (target.steps ++ rest)
      | some _ => t.walk create links (cur ++ [name]) rest) := by
  cases links <;> rfl

theorem inDirBind : (t.inDir cur next >>= f) = t.inDir cur (next >>= f) := by
  unfold Tree.inDir
  split <;> rfl

theorem jumpAppend (more : (create && b.isEmpty) = false)
    (jumps : ∀ cur a, ∃ left, jump t create links cur (a ++ b) = (jump t false links cur a >>= fun mid => t.walk create left mid b))
    (cur) (a) : ∃ left, t.walk create links cur (a ++ b) = (t.walk false links cur a >>= fun mid => t.walk create left mid b) := by
  induction a generalizing cur with
  | nil => exact ⟨links,by cases links <;> rfl⟩
  | cons step rest ih =>
    cases step with
    | here =>
      obtain ⟨left,same⟩ := ih cur
      exact ⟨left,by rw [List.cons_append,walkHere,walkHere,inDirBind,same]⟩
    | up =>
      obtain ⟨left,same⟩ := ih cur.dropLast
      exact ⟨left,by rw [List.cons_append,walkUp,walkUp,inDirBind,same]⟩
    | down name =>
      simp only [List.cons_append,walkName,inDirBind]
      cases there : t.get (cur ++ [name]) with
      | none =>
        have between : (create && (rest ++ b).isEmpty) = false := by
          cases create with
          | false => rfl
          | true => cases rest <;> simp_all
        simp only [between,Bool.false_and]
        exact ⟨0,rfl⟩
      | some node =>
        cases node with
        | link target =>
          obtain ⟨left,same⟩ := jumps (if target.absolute then [] else cur) (target.steps ++ rest)
          exact ⟨left,by simp only [← List.append_assoc,same]⟩
        | _ =>
          obtain ⟨left,same⟩ := ih (cur ++ [name])
          exact ⟨left,by simp only [same]⟩

theorem walkAppend (more : (create && b.isEmpty) = false) (links) (cur) (a) : ∃ left, t.walk create links cur (a ++ b) =
      (t.walk false links cur a >>= fun mid => t.walk create left mid b) := by
  induction links generalizing cur a with
  | zero => exact jumpAppend more (fun _ _ => ⟨0,rfl⟩) cur a
  | succ links ih =>
    have jumps : ∀ cur a, ∃ left, jump t create (links + 1) cur (a ++ b) =
        (jump t false (links + 1) cur a >>= fun mid => t.walk create left mid b) := ih
    exact jumpAppend more jumps cur a

def Extends (t t' : Tree ν β) : Prop := ∀ q node, t.get q = some node →
  t'.get q = some node ∨ ∃ content mode content' mode', node = .file content mode ∧ t'.get q = some (.file content' mode')

theorem Extends.trans (first : Extends t mid) (second : Extends mid next) : Extends t next := by
  intro q node there
  rcases first q node there with same | ⟨content,mode,content',mode',rfl,file⟩
  · exact second q node same
  · rcases second q _ file with same | ⟨_,_,content'',mode'',_,file⟩
    · exact .inr ⟨content,mode,content',mode',rfl,same⟩
    · exact .inr ⟨content,mode,content'',mode'',rfl,file⟩

theorem withoutExtends : Extends (t.without gone) t := by
  intro q node there
  cases q with
  | nil => exact .inl there
  | cons name rest =>
    simp only [Tree.get,Tree.without] at there ⊢
    split at there
    · cases there
    · exact .inl there

theorem inDirExtends (extends' : Extends t t')
    (ok : t.inDir cur next = .ok p) (onward : next = .ok p → next' = .ok p) : t'.inDir cur next' = .ok p := by
  obtain ⟨⟨mode,dir⟩,ok⟩ := inDirOk ok
  rcases extends' cur _ dir with same | ⟨_,_,_,_,file,_⟩
  · rw [inDirHere same]
    exact onward ok
  · cases file

theorem jumpExtends (extends' : Extends t t') (ends : t'.get p = some last) (notLink : last.isLink = false)
    (jumps : ∀ cur steps, jump t create links cur steps = .ok p → jump t' create' links cur steps = .ok p)
    (cur) (steps) (ok : t.walk create links cur steps = .ok p) : t'.walk create' links cur steps = .ok p := by
  induction steps generalizing cur with
  | nil => cases links <;> exact ok
  | cons step rest ih =>
    cases step with
    | here =>
      rw [walkHere] at ok ⊢
      exact inDirExtends extends' ok (ih cur)
    | up =>
      rw [walkUp] at ok ⊢
      exact inDirExtends extends' ok (ih _)
    | down name =>
      rw [walkName] at ok ⊢
      refine inDirExtends extends' ok (fun ok => ?_)
      split at ok
      · split at ok <;> cases ok
        rename_i final
        rw [ends,List.isEmpty_iff.mp (Bool.and_eq_true_iff.mp final).2]
        cases last with
        | link => cases notLink
        | _ => cases links <;> rfl
      · rename_i target there
        rcases extends' _ _ there with same | ⟨_,_,_,_,file,_⟩
        · rw [same]
          exact jumps _ _ ok
        · cases file
      · rename_i node notLink there
        rcases extends' _ _ there with same | ⟨_,_,_,_,rfl,file⟩
        · rw [same]
          cases node with
          | link target => exact absurd rfl (notLink target)
          | _ => exact ih _ ok
        · rw [file]
          exact ih _ ok

theorem setExtends [DecidableEq ν] (below : q ≠ [])
    (fits : ∀ old, t.get q = some old → ∃ content mode content' mode', old = .file content mode ∧ node = .file content' mode') :
    Extends t (t.set q node) := by
  intro r old there
  by_cases same : r = q
  · subst same
    obtain ⟨content,mode,content',mode',rfl,rfl⟩ := fits old there
    exact .inr ⟨content,mode,content',mode',rfl,getSetSame below⟩
  · exact .inl ((getSet same).trans there)

theorem walkExtends (extends' : Extends t t') (ends : t'.get p = some last) (notLink : last.isLink = false)
    (ok : t.walk create links cur steps = .ok p) : t'.walk create' links cur steps = .ok p := by
  induction links generalizing cur steps with
  | zero => exact jumpExtends extends' ends notLink (fun _ _ impossible => by cases impossible) cur steps ok
  | succ links ih =>
    have jumps : ∀ cur steps, jump t create (links + 1) cur steps = .ok p → jump t' create' (links + 1) cur steps = .ok p :=
      fun _ _ ok => ih ok
    exact jumpExtends extends' ends notLink jumps cur steps ok

theorem placeExtends (extends' : Extends t t') (ok : t.place p = .ok q) : t'.place p = .ok q := by
  rw [Tree.place] at ok ⊢
  split at ok
  · cases ok
  · obtain ⟨parent,reached,ok⟩ := bindOk ok
    obtain ⟨⟨mode,dir⟩,_⟩ := inDirOk ok
    have again : t'.locate false p.dropLast = .ok parent := by
      rcases extends' parent _ dir with same | ⟨_,_,_,_,file,_⟩
      · exact walkExtends extends' same rfl reached
      · cases file
    rw [again,okBind]
    exact inDirExtends extends' ok id

theorem placeCases (ok : t.place p = .ok q) : ∃ up name parent mode, p = up ++ [name] ∧ q = parent ++ [name] ∧
    t.locate false up = .ok parent ∧ t.get parent = some (.dir mode) := by
  rw [Tree.place] at ok
  split at ok
  · cases ok
  · rename_i name last
    obtain ⟨parent,reached,ok⟩ := bindOk ok
    obtain ⟨⟨mode,dir⟩,ok⟩ := inDirOk ok
    cases ok
    obtain ⟨up,rfl⟩ := List.getLast?_eq_some_iff.mp last
    rw [List.dropLast_concat] at reached
    exact ⟨up,name,parent,mode,rfl,rfl,reached,dir⟩

theorem placeHere (reached : t.locate false up = .ok parent)
    (dir : t.get parent = some (.dir mode)) : t.place (up ++ [name]) = .ok (parent ++ [name]) := by
  rw [Tree.place,List.getLast?_concat,List.dropLast_concat,reached]
  exact inDirHere dir

theorem locateName (t : Tree ν β) (create) (up) (name) : ∃ left, t.locate create (up ++ [name]) =
    (t.locate false up >>= fun parent => t.walk create left parent [.down name]) := by
  rw [Tree.locate,List.map_append]
  exact walkAppend (by cases create <;> rfl) _ _ _

theorem locatePlace (ok : t.place p = .ok q) (there : t.get q = some node)
    (notLink : node.isLink = false) : t.locate create p = .ok q := by
  obtain ⟨up,name,parent,mode,rfl,rfl,reached,dir⟩ := placeCases ok
  obtain ⟨left,whole⟩ := locateName t create up name
  rw [whole,reached,okBind,walkName,inDirHere dir,there]
  cases node with
  | link target => cases notLink
  | _ => cases left <;> rfl

theorem locateMissing (ok : t.place p = .ok q) (absent : t.get q = none) :
    t.locate true p = .ok q ∧ t.locate false p = .error .noSuch := by
  obtain ⟨up,name,parent,mode,rfl,rfl,reached,dir⟩ := placeCases ok
  obtain ⟨left,making⟩ := locateName t true up name
  obtain ⟨left',finding⟩ := locateName t false up name
  rw [making,finding,reached,okBind,okBind,walkName,walkName,inDirHere dir,inDirHere dir,absent]
  exact ⟨rfl,rfl⟩

theorem isDirIff : t.isDir p = true ↔ ∃ q mode, t.locate false p = .ok q ∧ t.get q = some (.dir mode) := by
  unfold Tree.isDir Tree.metadata
  cases located : t.locate false p with
  | error e => simp [bind,Except.bind]
  | ok q =>
    rw [okBind]
    rcases there : t.get q with _ | ⟨_ | _ | _⟩ <;> simp [there]

theorem locateEntry (below : p ≠ []) (ok : t.locate create p = .ok q) :
    (∃ parent, t.locate false p.dropLast = .ok parent) ∧ ∃ entry, t.place p = .ok entry := by
  obtain ⟨up,name,rfl⟩ : ∃ up name, p = up ++ [name] := ⟨_,_,(List.dropLast_append_getLast below).symm⟩
  obtain ⟨left,whole⟩ := locateName t create up name
  rw [whole] at ok
  obtain ⟨parent,reached,ok⟩ := bindOk ok
  rw [walkName] at ok
  obtain ⟨⟨mode,dir⟩,_⟩ := inDirOk ok
  exact ⟨⟨parent,by rw [List.dropLast_concat]; exact reached⟩,_,placeHere reached dir⟩

theorem placeAnchored (anchored : Anchored t p) (ok : t.place p = .ok q) : q = p ∧ p ≠ [] := by
  rw [Tree.place] at ok
  split at ok
  · cases ok
  · rename_i name last
    rw [locateSettled anchored] at ok
    cases (inDirOk ok).2
    obtain ⟨parent,rfl⟩ := List.getLast?_eq_some_iff.mp last
    exact ⟨by simp,by simp⟩

theorem settledPlace (settled : Settled t p) (below : p ≠ []) : t.place p = .ok p := by
  obtain ⟨up,name,rfl⟩ : ∃ up name, p = up ++ [name] := ⟨_,_,(List.dropLast_append_getLast below).symm⟩
  obtain ⟨mode,dir⟩ := settled.1 up (List.prefix_append ..) (by simp)
  exact placeHere (locateSettled (settled.1.above (List.prefix_append ..) (by simp))) dir

end Walks

section Rules

variable [DecidableEq ν] {env : Faults ν} {t : Tree ν β}

omit [DecidableEq ν] in
theorem performs (done : ∀ next, env.fault call = none → run t = .ok next → post () next)
    (stopped : ∀ e, (env.fault call = none → run t = .error e) → failed e t) : Ends (perform env call run) t post failed := by
  refine .attempts (fun _ next ran => ?_) (fun e ran => stopped e (fun sound => ?_))
  · split at ran
    · contradiction
    · obtain ⟨made,result,same⟩ := mapOk ran
      cases same
      exact done _ (by assumption) result
  · simp only [sound] at ran
    exact mapFails ran

theorem mkdirAt : Ends (mkdir env p) t
    (fun _ next => ∃ q, t.place p = .ok q ∧ t.get q = none ∧ next = t.set q (.dir 0o755)) (fun _ next => next = t) := by
  refine performs ?_ (fun _ _ => rfl)
  intro next _ ran
  split at ran
  · cases ran
  · cases ran
  · rename_i q placed
    split at ran <;> cases ran
    exact ⟨q,placed,by assumption,rfl⟩

omit [DecidableEq ν] in
theorem existingEnds : Ends (makeDirs.existing p e) t (fun _ next => next = t ∧ t.isDir p = true)
    (fun _ next => next = t ∧ t.isDir p = false) := by
  refine .checks (fun _ found => ?_) (fun _ missed => ?_)
  · split at found
    · exact ⟨rfl,by assumption⟩
    · cases found
  · split at missed
    · cases missed
    · exact ⟨rfl,Bool.eq_false_iff.mpr (by assumption)⟩

omit [DecidableEq ν] in
theorem isDirParent (dir : t.isDir (up ++ [name]) = true) : t.isDir up = true := by
  obtain ⟨q,_,located,_⟩ := isDirIff.mp dir
  obtain ⟨left,whole⟩ := locateName t false up name
  rw [whole] at located
  obtain ⟨parent,reached,onward⟩ := bindOk located
  rw [walkName] at onward
  obtain ⟨⟨mode,there⟩,_⟩ := inDirOk onward
  exact isDirIff.mpr ⟨parent,mode,reached,there⟩

theorem makeDirsEnds (there : t.locate false up.reverse = .ok q) :
    Ends (makeDirs env up) t (fun _ next => next = t) (fun _ next => next = t ∧ t.isDir up.reverse = false) := by
  induction up generalizing q with
  | nil => exact existingEnds.gives (fun _ _ same => same.1)
  | cons name up ih =>
    have again : Ends (mkdir env (name::up).reverse) t (fun _ _ => False) (fun _ next => next = t) := by
      refine mkdirAt.gives ?_
      rintro _ next ⟨entry,placed,absent,_⟩
      rw [(locateMissing placed absent).2] at there
      cases there
    have checked : ∀ e, Ends (makeDirs.existing (name::up).reverse e) t (fun _ next => next = t)
        (fun _ next => next = t ∧ t.isDir (name::up).reverse = false) :=
      fun e => existingEnds.gives (fun _ _ same => same.1)
    have parent : ∃ parent, t.locate false up.reverse = .ok parent := by
      simpa using (locateEntry (by simp) there).1
    obtain ⟨parent,reached⟩ := parent
    refine .rescues (again.weaken (fun _ _ no => no.elim) ?_)
    rintro e mid rfl
    refine .branch (fun _ => ?_) (fun _ => checked e)
    refine .after (ih reached) ?_ ?_
    · rintro _ mid rfl
      refine .rescues (again.weaken (fun _ _ no => no.elim) ?_)
      rintro e mid rfl
      exact checked e
    · rintro _ mid ⟨rfl,none⟩
      refine ⟨rfl,Bool.eq_false_iff.mpr (fun dir => ?_)⟩
      rw [List.reverse_cons] at dir
      exact absurd (isDirParent dir) (by simp [none])

theorem createDirAllThere (there : t.locate false p = .ok q) :
    Ends (createDirAll env p) t (fun _ next => next = t) (fun _ next => next = t ∧ t.isDir p = false) := by
  have standing : t.locate false p.reverse.reverse = .ok q := by simpa using there
  simpa [createDirAll] using makeDirsEnds standing

theorem createDirAllEnds (anchored : Anchored t p) : Ends (createDirAll env p) t
    (fun _ next => next = t ∧ t.isDir p = true ∨ t.place p = .ok p ∧ t.get p = none ∧ next = t.set p (.dir 0o755))
    (fun _ next => next = t) := by
  by_cases top : p = []
  · subst top
    exact existingEnds.weaken (fun _ _ same => .inl same) (fun _ _ same => same.1)
  · have checked : ∀ e, Ends (makeDirs.existing p e) t (fun _ next => next = t ∧ t.isDir p = true ∨ t.place p = .ok p ∧
        t.get p = none ∧ next = t.set p (.dir 0o755)) (fun _ next => next = t) :=
      fun e => existingEnds.weaken (fun _ _ same => .inl same) (fun _ _ same => same.1)
    have made : Ends (mkdir env p) t (fun _ next => next = t ∧ t.isDir p = true ∨ t.place p = .ok p ∧
        t.get p = none ∧ next = t.set p (.dir 0o755)) (fun _ next => next = t) := by
      refine mkdirAt.gives ?_
      rintro _ next ⟨q,placed,absent,rfl⟩
      obtain ⟨rfl,_⟩ := placeAnchored anchored placed
      exact .inr ⟨placed,absent,rfl⟩
    obtain ⟨parent,name,rfl⟩ : ∃ parent name, p = parent ++ [name] := ⟨_,_,(List.dropLast_append_getLast top).symm⟩
    have reversed : (parent ++ [name]).reverse = name::parent.reverse := by simp
    have straight : (name::parent.reverse).reverse = parent ++ [name] := by simp
    rw [Anchored,List.dropLast_concat] at anchored
    have standing : t.locate false parent.reverse.reverse = .ok parent := by simpa using locateSettled anchored
    rw [createDirAll,reversed,makeDirs,straight]
    refine .rescues (made.weaken (fun _ _ done => done) ?_)
    rintro e mid rfl
    refine .branch (fun _ => ?_) (fun _ => checked e)
    refine .after (makeDirsEnds standing) ?_ (fun _ _ same => same.1)
    rintro _ mid rfl
    refine .rescues (made.weaken (fun _ _ done => done) ?_)
    rintro e mid rfl
    exact checked e

def Opens (t : Tree ν β) (q : List ν) : Prop := ∀ node, t.get q = some node → ∃ content mode, node = .file content mode

theorem openNewEnds : Ends (openNew env p empty) t
    (fun q next => t.locate true p = .ok q ∧ env.fault (.openNew p) = none ∧ Opens t q ∧ ∃ mode, next = t.set q (.file empty mode))
    (fun _ next => next = t ∧ ∀ q, t.locate true p = .ok q → env.fault (.openNew p) = none → ¬ Opens t q) := by
  refine .asks (fun q found => ?_) (fun e missed => ⟨rfl,fun q found => by rw [found] at missed; cases missed⟩)
  refine .andThen (performs (fun next sound ran => ?_) (fun e ran => ⟨rfl,fun q' again sound opens => ?_⟩))
  · split at ran <;> cases ran
    · rename_i there
      exact .returns ⟨found,sound,fun node same => ⟨_,_,Option.some.inj (same.symm.trans there)⟩,_,rfl⟩
    · rename_i absent
      exact .returns ⟨found,sound,fun node same => absurd (absent.symm.trans same) nofun,_,rfl⟩
  · cases found.symm.trans again
    have stopped := ran sound
    split at stopped <;> cases stopped
    all_goals
      obtain ⟨_,_,other⟩ := opens _ (by assumption)
      cases other

theorem fillEnds : Ends (fill env p content) t
    (fun _ next => ∃ mode, next = t.set p (.file content mode)) (fun _ next => next = t) := by
  refine performs ?_ (fun _ _ => rfl)
  intro next _ ran
  split at ran <;> cases ran
  exact ⟨_,rfl⟩

theorem setPermissionsEnds : Ends (setPermissions env p mode) t
    (fun _ next => ∃ q node, t.locate false p = .ok q ∧ env.fault (.setPermissions p) = none ∧ next = t.set q node ∧
      ∀ content mode, t.get q = some (.file content mode) → ∃ mode, node = .file content mode)
    (fun _ next => next = t ∧ ∀ q, t.locate false p = .ok q → env.fault (.setPermissions p) ≠ none) := by
  refine performs (fun next sound ran => ?_) (fun e ran => ⟨rfl,fun q found sound => ?_⟩)
  · obtain ⟨q,found,result⟩ := bindOk ran
    split at result <;> cases result
    all_goals
      rename_i there
      refine ⟨q,_,found,sound,rfl,fun content mode same => ?_⟩
      cases there.symm.trans same
    exact ⟨_,rfl⟩
  · obtain ⟨node,there,notLink⟩ := (walkSettled settledTop found).2
    have stopped := ran sound
    rw [found,okBind,there] at stopped
    cases node with
    | link target => cases notLink
    | _ => cases stopped

theorem unlinkEnds (anchored : Anchored t p) : Ends (unlink env p) t (fun _ next => next = t.clear p)
    (fun _ next => next = t ∧ (env.fault (.unlink p) = none → t.place p = .ok p → t.get p = none ∨ ∃ mode, t.get p = some (.dir mode))) := by
  refine performs (fun next _ ran => ?_) (fun e ran => ⟨rfl,fun sound placed => ?_⟩)
  · obtain ⟨q,found,result⟩ := bindOk ran
    obtain ⟨rfl,_⟩ := placeAnchored anchored found
    split at result <;> cases result
    rfl
  · have stopped := ran sound
    rw [placed,okBind] at stopped
    split at stopped <;> cases stopped
    · exact .inl (by assumption)
    · exact .inr ⟨_,by assumption⟩

theorem removeDirAllWithin (env) (anchored : Anchored t p) : Within (p <+: ·) t (exec (removeDirAll env p) t).2 := by
  have pruned : ∀ torn, Within (p <+: ·) t (t.prune p torn) := fun torn => pruneWithin (fun _ below _ => below)
  change Within _ t (removeDirAll env p t).2
  by_cases top : p = []
  · subst top
    simp only [removeDirAll,if_true,Tree.get]
    split
    · exact pruned _
    · exact pruned _
  · rw [removeDirAll,if_neg top]
    split
    · exact Within.refl _ t
    · rename_i q placed
      obtain ⟨rfl,_⟩ := placeAnchored anchored placed
      split
      · exact Within.refl _ t
      · exact Within.refl _ t
      · refine Ends.always ((unlinkEnds anchored).weaken ?_ ?_)
        · rintro _ _ rfl
          exact clearWithin (fun _ below => below)
        · rintro _ _ ⟨rfl,_⟩
          exact Within.refl _ _
      · split
        · exact pruned _
        · simp only [if_neg top]
          split
          · exact pruned _
          · rename_i placed'
            cases placed.symm.trans (placeExtends withoutExtends placed')
            exact (pruned _).trans (clearWithin (fun _ below => below))

theorem removeDirAllSettled (settled : Settled t p) (below : p ≠ []) (dir : t.get p = some (.dir mode)) : exec (removeDirAll env p) t =
    match env.fault (.removeDirAll p) with
    | some e => (.error e,t.prune p env.torn)
    | none => (.ok (),(t.prune p (fun _ => true)).clear p) := by
  have kept : ∀ q, q <+: p → (t.prune p (fun _ => true)).get q = t.get q := by
    have strict : Within (fun q => p <+: q ∧ q ≠ p) t (t.prune p (fun _ => true)) := pruneWithin (fun _ under other => ⟨under,other⟩)
    exact fun q above => strict.2 q (fun under => under.2 (above.eq_of_length_le under.1.length_le))
  have still : Settled (t.prune p (fun _ => true)) p := by
    refine ⟨fun q above other => ?_,?_⟩
    · rw [kept q above]
      exact settled.1 q above other
    · rw [kept p List.prefix_rfl]
      exact settled.2
  change removeDirAll env p t = _
  simp only [removeDirAll,if_neg below,settledPlace settled below,settledPlace still below,dir]
  rfl

theorem removeDirAllBelow (settled : Settled t p) (dir : t.get p = some (.dir mode))
    (stays : p = [] ∨ env.fault (.removeDirAll p) ≠ none) : Within (fun q => p <+: q ∧ q ≠ p) t (exec (removeDirAll env p) t).2 := by
  have pruned : ∀ torn, Within (fun q => p <+: q ∧ q ≠ p) t (t.prune p torn) := fun torn => pruneWithin (fun _ under other => ⟨under,other⟩)
  by_cases top : p = []
  · subst top
    change Within _ t (removeDirAll env [] t).2
    simp only [removeDirAll,if_true,Tree.get]
    split <;> exact pruned _
  · rw [removeDirAllSettled settled top dir]
    split
    · exact pruned _
    · rename_i sound
      exact absurd sound (stays.resolve_left top)

theorem fillGrows (grown : base <+: t.touched) : Leaves (fill env p content) t (fun next => base <+: next.touched) := by
  refine fillEnds.weaken ?_ (fun _ _ same => same ▸ grown)
  rintro _ next ⟨mode,rfl⟩
  exact grown.trans (List.prefix_append ..)

theorem setPermissionsGrows (grown : base <+: t.touched) : Leaves (setPermissions env p mode) t (fun next => base <+: next.touched) := by
  refine setPermissionsEnds.weaken ?_ (fun _ _ same => same.1 ▸ grown)
  rintro _ next ⟨q,node,_,_,rfl,_⟩
  exact grown.trans (List.prefix_append ..)

theorem renameEnds : Ends (rename env source target) t
    (fun _ next => next = t ∨ ∃ old new, t.place source = .ok old ∧ t.place target = .ok new ∧ ¬ old <+: new ∧ ¬ new <+: old ∧
      next = t.move old new ∧ ∀ mode, t.get new = some (.dir mode) → ∃ mode, t.get old = some (.dir mode)) (fun _ next => next = t) := by
  refine performs ?_ (fun _ _ => rfl)
  intro next _ ran
  obtain ⟨p,placed,rest⟩ := bindOk ran
  obtain ⟨q,found,result⟩ := bindOk rest
  split at result
  · cases result
  · rename_i moved there
    split at result
    · cases result
      exact .inl rfl
    split at result
    · cases result
    split at result
    · cases result
    rename_i under above
    refine .inr ⟨p,q,placed,found,under,above,?_⟩
    split at result
    · cases result
      rename_i absent
      exact ⟨rfl,fun mode dir => by rw [absent] at dir; cases dir⟩
    · split at result <;> cases result
      exact ⟨rfl,fun _ _ => ⟨_,there⟩⟩
    · cases result
    · cases result
    · cases result
      rename_i plain held _ _
      exact ⟨rfl,fun mode dir => absurd (Option.some.inj (held.symm.trans dir)) (plain mode)⟩

theorem renameGrows (grown : base <+: t.touched) : Leaves (rename env source target) t (fun next => base <+: next.touched) := by
  refine renameEnds.weaken ?_ (fun _ _ same => same ▸ grown)
  rintro _ next (rfl | ⟨old,new,_,_,_,_,rfl,_⟩)
  · exact grown
  · exact grown.trans (List.prefix_append ..)

end Rules
end LinkTree
