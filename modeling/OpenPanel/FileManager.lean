import OpenPanel.LinkTree

/-! The file manager's repository over a tree with links: a path is resolved
against the canonical document root, checked to lie in it, and handed to the system
calls. Sizes, times, listings, the checks of the caller and the audit are left out. -/
namespace OpenPanel.Files
open Fallible LinkTree

abbrev Name := List Char
abbrev Bytes := List UInt8
abbrev SiteTree := Tree Name Bytes

inductive FileError where
  | pathOutsideChroot (path : List Char)
  | invalidPath (reason : String)
  | notFound (path : List Char)
  | alreadyExists (path : List Char)
  | directoryNotEmpty (path : List Char)
  | io (reason : String)
  deriving DecidableEq

def splitSlash : List Char → List Name
  | [] => [[]]
  | c::rest => match splitSlash rest with
    | [] => [[c]]
    | first::more => if c = '/' then []::first::more else (c::first)::more

def stepOf (part : Name) : Step Name :=
  if part = [] ∨ part = ['.'] then .here else if part = ['.','.'] then .up else .down part

def steps (text : List Char) : List (Step Name) := (splitSlash text).map stepOf

def Accepted (text : List Char) : Prop :=
  text = [] ∨ Char.ofNat 0 ∉ text ∧ text.head? ≠ some '/' ∧ ['.','.'] ∉ splitSlash text

instance (text) : Decidable (Accepted text) := inferInstanceAs (Decidable (_ ∨ _))

structure Path where
  text : List Char
  accepted : Accepted text

namespace Path

def new (text : List Char) : Except FileError Path :=
  if accepted : Accepted text then .ok ⟨text,accepted⟩
  else if Char.ofNat 0 ∈ text then .error (.invalidPath "contains null byte")
  else if text.head? = some '/' then .error (.invalidPath "absolute path not allowed")
  else .error (.invalidPath "`..` not allowed")

def isRoot (path : Path) : Bool := path.text.isEmpty

def names (path : Path) : List Name := (splitSlash path.text).filter (fun part => part ≠ [] ∧ part ≠ ['.'])

end Path

def canonicalizeChroot (t : SiteTree) (chroot : List Char) : Except FileError (List Name) :=
  (t.canonicalize (steps chroot)).mapError (fun e => .io ("canonicalize chroot: " ++ e.text))

def canonicalCandidate (t : SiteTree) (root : List Name) (rel : Path) : Except FileError (List Name) :=
  match t.canonicalize (root.map .down ++ (if rel.isRoot then [] else steps rel.text)) with
  | .ok p => .ok p
  | .error _ => match (root ++ rel.names).getLast? with
    | none => .error (.invalidPath "no parent")
    | some basename => do
      let parent ← (t.canonicalize ((root ++ rel.names).dropLast.map .down)).mapError
        (fun e => .io ("canonicalize parent: " ++ e.text))
      .ok (parent ++ [basename])

def resolvePath (t : SiteTree) (root : List Name) (rel : Path) : Except FileError (List Name) := do
  let canonical ← canonicalCandidate t root rel
  if root <+: canonical then .ok canonical else .error (.pathOutsideChroot rel.text)

def splitExtension (name : Name) : Name × Option Name :=
  let after := (name.reverse.takeWhile (fun c => c ≠ '.')).reverse
  let before := name.take (name.length - after.length - 1)
  if after.length = name.length ∨ before = [] then (name,none) else (before,some after)

def newName (name : Name) : Name :=
  (splitExtension name).1 ++ '.'::((splitExtension name).2.getD [] ++ ['.','n','e','w'])

def temporary (abs : List Name) : List Name := match abs.getLast? with
  | none => []
  | some name => abs.dropLast ++ [newName name]

section Repository

abbrev Repo (α : Type) := Prog SiteTree FileError α

variable (env : Faults Name) (root : List Name)

def io {α : Type} (prog : Disk Name Bytes α) : Repo α := rescue prog (fun e => throw (.io e.text))

def writeFile (path : Path) (bytes : Bytes) : Repo Unit := do
  let abs ← reads (fun t => resolvePath t root path)
  (if abs ≠ [] then io (createDirAll env abs.dropLast) else pure ())
  let tmp := temporary abs
  io (write env tmp [] bytes)
  io (setPermissions env tmp 0o644)
  io (LinkTree.rename env tmp abs)

def mkdir (path : Path) : Repo Unit := do
  let abs ← reads (fun t => resolvePath t root path)
  reads (fun t => if t.present abs then .error (.alreadyExists path.text) else .ok ())
  io (createDirAll env abs)
  io (setPermissions env abs 0o755)

def remove (path : Path) (recursive : Bool) : Repo Unit := do
  let abs ← reads (fun t => resolvePath t root path)
  let info ← reads (fun t => match t.metadata abs with
    | .ok node => .ok node
    | .error .noSuch => .error (.notFound path.text)
    | .error e => .error (.io e.text))
  match info with
  | .dir _ =>
    let hasChildren ← reads (fun t => match t.locate false abs with
      | .ok q => .ok (t.hasEntries q)
      | .error e => .error (.io e.text))
    if hasChildren && !recursive then throw (.directoryNotEmpty path.text) else io (removeDirAll env abs)
  | _ => io (unlink env abs)

def rename (source target : Path) : Repo Unit := do
  let old ← reads (fun t => resolvePath t root source)
  let new ← reads (fun t => resolvePath t root target)
  io (LinkTree.rename env old new)

def chmod (path : Path) (mode : Nat) : Repo Unit := do
  let abs ← reads (fun t => resolvePath t root path)
  io (setPermissions env abs mode)

inductive Request where
  | writeFile (path : Path) (bytes : Bytes)
  | mkdir (path : Path)
  | remove (path : Path) (recursive : Bool)
  | rename (source target : Path)
  | chmod (path : Path) (mode : Nat)

def serve : Request → Repo Unit
  | .writeFile path bytes => writeFile env root path bytes
  | .mkdir path => mkdir env root path
  | .remove path recursive => remove env root path recursive
  | .rename source target => rename env root source target
  | .chmod path mode => chmod env root path mode

end Repository

def handle (env : Faults Name) (documentRoot : List Char) (request : Request) : Repo Unit := do
  let chroot ← reads (fun t => canonicalizeChroot t documentRoot)
  serve env chroot request

section Confinement

variable {env : Faults Name} {t : SiteTree} {root : List Name}

def Inside (root q : List Name) : Prop := root <+: q ∧ q ≠ root

theorem Inside.below (inside : Inside root p) (below : p <+: q) : Inside root q := by
  refine ⟨inside.1.trans below,fun same => inside.2 ?_⟩
  subst same
  exact below.eq_of_length_le inside.1.length_le

theorem insideBelow {abs} (inside : Inside root abs) : abs ≠ [] := by
  rintro rfl
  exact inside.2 (List.prefix_nil.mp inside.1).symm

theorem insideParent {abs} (inside : Inside root abs) : root <+: abs.dropLast := by
  obtain ⟨rest,rfl⟩ := inside.1
  have more : rest ≠ [] := fun none => inside.2 (by simp [none])
  rw [List.dropLast_append_of_ne_nil more]
  exact List.prefix_append ..

theorem insideChild (within : root <+: p) (name) : Inside root (p ++ [name]) := by
  refine ⟨within.trans (List.prefix_append ..),fun same => ?_⟩
  have longer := within.length_le
  rw [← same,List.length_append,List.length_singleton] at longer
  omega

abbrev Keeps (root : List Name) (t next : SiteTree) : Prop := Within (Inside root) t next

theorem clearKeeps (inside : Inside root p) : Keeps root t (t.clear p) := clearWithin (fun _ below => inside.below below)

theorem moveKeeps (old : Inside root source) (new : Inside root target) : Keeps root t (t.move source target) :=
  moveWithin (fun _ below => old.below below) (fun _ below => new.below below)

theorem ioEnds {prog} {post : α → SiteTree → Prop} {left : SiteTree → Prop}
    (ends : Ends prog t post (fun _ next => left next)) : Ends (io prog) t post (fun _ next => left next) :=
  Ends.rescues (ends.weaken (fun _ _ done => done) (fun _ _ stopped => .fails stopped))

theorem resolved {abs} (ok : resolvePath t root rel = .ok abs) : root <+: abs ∧ Anchored t abs := by
  obtain ⟨canonical,found,checked⟩ := bindOk ok
  have same : root <+: canonical ∧ canonical = abs := by
    split at checked <;> cases checked
    exact ⟨by assumption,rfl⟩
  obtain ⟨within,rfl⟩ := same
  refine ⟨within,?_⟩
  rw [canonicalCandidate] at found
  split at found
  · rename_i p walked
    cases found
    exact (walkSettled settledTop walked).anchored
  · split at found
    · cases found
    · obtain ⟨parent,walked,joined⟩ := bindOk found
      cases joined
      have settled : Settled t parent := walkSettled settledTop (mapErrorOk walked)
      simpa [Anchored] using settled

theorem metadataSettled (settled : Settled t p) (there : t.get p = some node) : t.metadata p = .ok node := by
  simp only [Tree.metadata,locateSettled settled,okBind,there]

/-- The temporary file is opened below the root, and a mode is set below it. The root itself is removed only by a call
that does not come to its end. -/
def Spared (env : Faults Name) (t : SiteTree) (root : List Name) : Request → Prop
  | .writeFile path _ => ∀ abs q, resolvePath t root path = .ok abs → t.locate true (temporary abs) = .ok q →
      env.fault (.openNew (temporary abs)) = none → Opens t q → Inside root q
  | .remove path recursive => resolvePath t root path = .ok root → match t.get root with
      | some (.dir _) => root = [] ∨ t.hasEntries root = true ∧ recursive = false ∨ env.fault (.removeDirAll root) ≠ none
      | _ => env.fault (.unlink root) ≠ none
  | .chmod path _ => ∀ abs q, resolvePath t root path = .ok abs → t.locate false abs = .ok q →
      env.fault (.setPermissions abs) = none → Inside root q
  | .mkdir _ => True
  | .rename _ _ => True

theorem mkdirKeeps {path} (standing : Settled t root) : Leaves (mkdir env root path) t (Keeps root t) := by
  refine .asks (fun abs ok => ?_) (fun _ _ => Within.refl _ t)
  obtain ⟨within,anchored⟩ := resolved ok
  refine .asks (fun _ absent => ?_) (fun _ _ => Within.refl _ t)
  have missing : t.present abs = false := by
    cases there : t.present abs
    · rfl
    · simp [there] at absent
  have other : abs ≠ root := by
    rintro rfl
    obtain ⟨node,found,_⟩ := standing.2
    simp [Tree.present,metadataSettled standing found] at missing
  have inside : Inside root abs := ⟨within,other⟩
  refine .andThen (ioEnds ((createDirAllEnds anchored).weaken ?_ (fun _ _ same => .same same)))
  rintro _ mid (⟨rfl,dir⟩ | ⟨placed,free,rfl⟩)
  · simp only [Tree.isDir,Tree.present] at dir missing
    split at dir <;> simp_all
  · have grown : Extends t (t.set abs (.dir 0o755)) := setExtends (insideBelow inside) (fun old there => by rw [free] at there; cases there)
    have here : (t.set abs (.dir 0o755)).locate false abs = .ok abs :=
      locatePlace (placeExtends grown placed) (getSetSame (insideBelow inside)) rfl
    refine ioEnds (setPermissionsEnds.weaken ?_ (fun _ _ same => same.1 ▸ setWithin inside))
    rintro _ next ⟨q,node,found,_,rfl,_⟩
    cases here.symm.trans found
    exact (setWithin inside).trans (setWithin inside)

theorem rootRemoval {path recursive} (standing : Settled t root) (ok : resolvePath t root path = .ok root)
    (there : t.get root = some node) (refused : ∀ mode, node = .dir mode → t.hasEntries root = true ∧ recursive = false → left t)
    (emptied : ∀ mode, node = .dir mode → ¬ (t.hasEntries root = true ∧ recursive = false) → Leaves (removeDirAll env root) t left)
    (plain : (∀ mode, node ≠ .dir mode) → Leaves (unlink env root) t left) : Leaves (remove env root path recursive) t left := by
  refine .andThen (.knows ok (.andThen (.knows (by rw [metadataSettled standing there]) ?_)))
  cases node with
  | dir mode =>
    refine .andThen (.knows (by rw [locateSettled standing]) (.branch (fun full => ?_) (fun free => ?_)))
    · exact .fails (refused mode rfl (by simpa using full))
    · exact ioEnds (emptied mode rfl (by simpa using free))
  | file content mode => exact ioEnds (plain (fun _ other => by cases other))
  | link target => exact ioEnds (plain (fun _ other => by cases other))

theorem removeKeeps {path recursive} (standing : Settled t root) (spared : Spared env t root (.remove path recursive)) :
    Leaves (remove env root path recursive) t (Keeps root t) := by
  by_cases whole : resolvePath t root path = .ok root
  · obtain ⟨node,there,_⟩ := standing.2
    have stays := spared whole
    rw [there] at stays
    refine rootRemoval standing whole there (fun _ _ _ => Within.refl _ t) ?_ ?_
    · rintro mode rfl free
      have torn : root = [] ∨ env.fault (.removeDirAll root) ≠ none := stays.imp_right (fun more => more.resolve_left free)
      exact .seen (removeDirAllBelow standing there torn)
    · intro plain
      have fault : env.fault (.unlink root) ≠ none := by
        cases node with
        | dir mode => exact absurd rfl (plain mode)
        | _ => exact stays
      exact performs (fun next sound => absurd sound fault) (fun _ _ => Within.refl _ t)
  · refine .asks (fun abs ok => ?_) (fun _ _ => Within.refl _ t)
    obtain ⟨within,anchored⟩ := resolved ok
    have inside : Inside root abs := ⟨within,fun same => whole (same ▸ ok)⟩
    refine .asks (fun info _ => ?_) (fun _ _ => Within.refl _ t)
    split
    · refine .asks (fun hasChildren _ => ?_) (fun _ _ => Within.refl _ t)
      refine .branch (fun _ => .fails (Within.refl _ t)) (fun _ => ioEnds (.seen ?_))
      exact (removeDirAllWithin env anchored).mono (fun _ below => inside.below below)
    · exact ioEnds ((unlinkEnds anchored).weaken (fun _ _ done => done ▸ clearKeeps inside) (fun _ _ same => .same same.1))

theorem removeSpared {path recursive} (standing : Settled t root)
    (stands : (exec (remove env root path recursive) t).2.get root ≠ none) : Spared env t root (.remove path recursive) := by
  intro whole
  obtain ⟨node,there,notLink⟩ := standing.2
  rw [there]
  by_contra unspared
  have gone : Leaves (remove env root path recursive) t (fun next => next.get root = none) := by
    refine rootRemoval standing whole there ?_ ?_ (fun plain => ?_)
    · rintro mode rfl full
      exact absurd (.inr (.inl full)) unspared
    · rintro mode rfl _
      have below : root ≠ [] := fun top => unspared (.inl top)
      have sound : env.fault (.removeDirAll root) = none := by
        by_contra fault
        exact unspared (.inr (.inr fault))
      refine .seen ?_
      rw [removeDirAllSettled standing below there,sound]
      exact getClear below
    · have sound : env.fault (.unlink root) = none := by
        cases node with
        | dir mode => exact absurd rfl (plain mode)
        | _ => exact Classical.not_not.mp unspared
      have below : root ≠ [] := by
        rintro rfl
        exact plain _ (Option.some.inj there.symm)
      refine (unlinkEnds standing.anchored).weaken (fun _ _ done => done ▸ getClear below) ?_
      rintro _ next ⟨_,stuck⟩
      rcases stuck sound (settledPlace standing below) with absent | ⟨mode,dir⟩
      · rw [there] at absent
        cases absent
      · exact absurd (Option.some.inj (there.symm.trans dir)) (plain mode)
  exact stands gone.always

theorem renameKeeps {source target} : Leaves (rename env root source target) t (Keeps root t) := by
  refine .asks (fun old found => ?_) (fun _ _ => Within.refl _ t)
  refine .asks (fun new reached => ?_) (fun _ _ => Within.refl _ t)
  obtain ⟨withinOld,anchoredOld⟩ := resolved found
  obtain ⟨withinNew,anchoredNew⟩ := resolved reached
  refine ioEnds (renameEnds.weaken ?_ (fun _ _ same => .same same))
  rintro _ next (rfl | ⟨_,_,placedOld,placedNew,notUnder,notAbove,rfl,_⟩)
  · exact Within.refl _ _
  · obtain ⟨rfl,_⟩ := placeAnchored anchoredOld placedOld
    obtain ⟨rfl,_⟩ := placeAnchored anchoredNew placedNew
    -- Neither end is the root: the other end lies in it.
    exact moveKeeps ⟨withinOld,fun same => notUnder (same ▸ withinNew)⟩ ⟨withinNew,fun same => notAbove (same ▸ withinOld)⟩

theorem chmodKeeps {path mode} (spared : Spared env t root (.chmod path mode)) : Leaves (chmod env root path mode) t (Keeps root t) := by
  refine .asks (fun abs ok => ?_) (fun _ _ => Within.refl _ t)
  refine ioEnds (setPermissionsEnds.weaken ?_ (fun _ _ same => .same same.1))
  rintro _ next ⟨q,node,found,sound,rfl,_⟩
  exact setWithin (spared abs q ok found sound)

theorem chmodSpared {path mode} (keeps : Keeps root t (exec (chmod env root path mode) t).2) : Spared env t root (.chmod path mode) := by
  intro abs q ok found sound
  have logged : Leaves (chmod env root path mode) t (fun next => t.touched ++ [q] <+: next.touched) := by
    refine .andThen (.knows ok (ioEnds (setPermissionsEnds.weaken ?_ (fun _ _ stuck => absurd sound (stuck.2 q found)))))
    rintro _ next ⟨r,node,again,_,rfl,_⟩
    cases found.symm.trans again
    exact List.prefix_rfl
  exact keeps.logged logged.always

theorem temporaryBeside {abs} (below : abs ≠ []) : ∃ name, temporary abs = abs.dropLast ++ [name] := by
  obtain ⟨last,found⟩ := Option.ne_none_iff_exists'.mp (fun none => below (List.getLast?_eq_none_iff.mp none))
  exact ⟨newName last,by rw [temporary,found]⟩

/-- The temporary file stands where its path led to, and nothing else was made to stand or to fall. -/
structure Draft (root q : List Name) (t next : SiteTree) : Prop where
  keeps : Keeps root t next
  grown : Extends t next
  there : ∃ content mode, next.get q = some (.file content mode)

theorem Draft.set (draft : Draft root q t next) (inside : Inside root q) (content) (mode) :
    Draft root q t (next.set q (.file content mode)) := by
  have below := insideBelow inside
  obtain ⟨content',mode',there⟩ := draft.there
  refine ⟨draft.keeps.trans (setWithin inside),draft.grown.trans (setExtends below (fun old same => ?_)),_,_,getSetSame below⟩
  cases there.symm.trans same
  exact ⟨_,_,_,_,rfl,rfl⟩

theorem draftOpened (inside : Inside root q) (opens : Opens t q) (mode) : Draft root q t (t.set q (.file [] mode)) := by
  have below := insideBelow inside
  refine ⟨setWithin inside,setExtends below (fun old there => ?_),_,_,getSetSame below⟩
  obtain ⟨content,mode,rfl⟩ := opens old there
  exact ⟨_,_,_,_,rfl,rfl⟩

theorem parentMade {abs} (below : abs ≠ []) (anchored : Anchored t abs) (found : t.locate true (temporary abs) = .ok q) :
    t.place abs = .ok abs ∧ t.place (temporary abs) = .ok (temporary abs) ∧ t.isDir abs.dropLast = true := by
  obtain ⟨name,tmp⟩ := temporaryBeside below
  obtain ⟨entry,placed⟩ := (locateEntry (by simp [tmp]) found).2
  rw [tmp] at placed
  obtain ⟨up,name',parent,mode,same,rfl,reached,dir⟩ := placeCases placed
  obtain ⟨rfl,_⟩ := List.append_inj' same rfl
  cases (locateSettled anchored).symm.trans reached
  refine ⟨?_,?_,isDirIff.mpr ⟨_,mode,reached,dir⟩⟩
  · have here : t.place (abs.dropLast ++ [abs.getLast below]) = .ok (abs.dropLast ++ [abs.getLast below]) := placeHere reached dir
    rwa [List.dropLast_append_getLast below] at here
  · rw [tmp]
    exact placeHere reached dir

/-- A file takes the name only of what is no directory, so a draft below the root does not take the root's. -/
theorem draftRenamed {abs} (draft : Draft root q t next) (inside : Inside root q) (below : abs ≠ []) (within : root <+: abs)
    (anchored : Anchored t abs) (found : t.locate true (temporary abs) = .ok q) :
    Leaves (LinkTree.rename env (temporary abs) abs) next (Keeps root t) := by
  obtain ⟨placed,beside,_⟩ := parentMade below anchored found
  refine renameEnds.weaken ?_ (fun _ _ same => same ▸ draft.keeps)
  rintro _ last (rfl | ⟨old,new,placedOld,placedNew,_,_,rfl,kinds⟩)
  · exact draft.keeps
  · cases (placeExtends draft.grown beside).symm.trans placedOld
    cases (placeExtends draft.grown placed).symm.trans placedNew
    obtain ⟨name,tmp⟩ := temporaryBeside below
    have target : Inside root abs := by
      refine ⟨within,?_⟩
      rintro rfl
      have solid : Solid t q := (walkReached settledTop found).elim (fun settled => settled.1) (fun made => made.2.2)
      obtain ⟨mode,dir⟩ := solid abs inside.1 inside.2.symm
      obtain ⟨mode,moved⟩ : ∃ mode, next.get (temporary abs) = some (.dir mode) := by
        rcases draft.grown _ _ dir with same | ⟨_,_,_,_,file,_⟩
        · exact kinds mode same
        · cases file
      obtain ⟨content,mode,file⟩ := draft.there
      have here : t.locate true (temporary abs) = .ok (temporary abs) := by
        cases old : t.get (temporary abs) with
        | none => exact (locateMissing beside old).1
        | some node =>
          refine locatePlace beside old ?_
          rcases draft.grown _ _ old with same | ⟨_,_,_,_,rfl,_⟩
          · cases same.symm.trans moved
            rfl
          · rfl
      cases here.symm.trans found
      rw [moved] at file
      cases file
    exact draft.keeps.trans (moveKeeps (tmp ▸ insideChild (insideParent target) name) target)

theorem directoryMade {abs} (anchored : Anchored t abs) : Ends (if abs ≠ [] then io (createDirAll env abs.dropLast) else pure ()) t
    (fun _ next => next = t) (fun _ next => next = t ∧ abs ≠ [] ∧ t.isDir abs.dropLast = false) := by
  refine .branch (fun below => ?_) (fun _ => .returns rfl)
  exact ioEnds ((createDirAllThere (locateSettled anchored)).weaken (fun _ _ same => same) (fun _ _ stuck => ⟨stuck.1,below,stuck.2⟩))

theorem writeFileKeeps {path bytes} (spared : Spared env t root (.writeFile path bytes)) :
    Leaves (writeFile env root path bytes) t (Keeps root t) := by
  refine .asks (fun abs ok => ?_) (fun _ _ => Within.refl _ t)
  obtain ⟨within,anchored⟩ := resolved ok
  refine .after (directoryMade anchored) ?_ (fun _ _ same => .same same.1)
  rintro _ mid rfl
  have written : Ends (write env (temporary abs) [] bytes) mid
      (fun _ next => ∃ q, mid.locate true (temporary abs) = .ok q ∧ Inside root q ∧ Draft root q mid next) (fun _ => Keeps root mid) := by
    refine .after openNewEnds ?_ (fun _ _ same => .same same.1)
    rintro q _ ⟨found,sound,opens,mode,rfl⟩
    have inside := spared abs q ok found sound opens
    have opened := draftOpened inside opens mode
    refine fillEnds.weaken ?_ (fun _ _ same => same ▸ opened.keeps)
    rintro _ next ⟨mode,rfl⟩
    exact ⟨q,found,inside,opened.set inside bytes mode⟩
  refine .andThen (ioEnds (written.gives ?_))
  rintro _ drafted ⟨q,found,inside,draft⟩
  have below : abs ≠ [] := by
    rintro rfl
    cases found
    exact insideBelow inside rfl
  refine .andThen (ioEnds (setPermissionsEnds.weaken ?_ (fun _ _ same => same.1 ▸ draft.keeps)))
  rintro _ last ⟨r,node,again,_,rfl,file⟩
  obtain ⟨content,mode,there⟩ := draft.there
  cases (walkExtends draft.grown there rfl found : drafted.locate false (temporary abs) = .ok q).symm.trans again
  obtain ⟨mode,rfl⟩ := file content mode there
  exact ioEnds (draftRenamed (draft.set inside content mode) inside below within anchored found)

theorem writeFileSpared {path bytes} (keeps : Keeps root t (exec (writeFile env root path bytes) t).2) :
    Spared env t root (.writeFile path bytes) := by
  intro abs q ok found sound opens
  obtain ⟨_,anchored⟩ := resolved ok
  have opened : Leaves (write env (temporary abs) [] bytes) t (fun next => t.touched ++ [q] <+: next.touched) := by
    refine .after openNewEnds ?_ (fun _ _ stuck => absurd opens (stuck.2 q found sound))
    rintro _ _ ⟨again,_,_,mode,rfl⟩
    cases found.symm.trans again
    exact fillGrows List.prefix_rfl
  have logged : Leaves (writeFile env root path bytes) t (fun next => t.touched ++ [q] <+: next.touched) := by
    refine .andThen (.knows ok (.after (directoryMade anchored) ?_ ?_))
    · rintro _ mid rfl
      refine .andThen (ioEnds (opened.gives (fun _ _ grown => ?_)))
      refine .andThen (ioEnds ((setPermissionsGrows grown).gives (fun _ _ grown => ?_)))
      exact ioEnds (renameGrows grown)
    · rintro _ next ⟨_,below,stuck⟩
      rw [(parentMade below anchored found).2.2] at stuck
      cases stuck
  exact keeps.logged logged.always

theorem serveKeeps (standing : Settled t root) (spared : Spared env t root request) : Leaves (serve env root request) t (Keeps root t) := by
  cases request with
  | writeFile => exact writeFileKeeps spared
  | mkdir => exact mkdirKeeps standing
  | remove => exact removeKeeps standing spared
  | rename => exact renameKeeps
  | chmod => exact chmodKeeps spared

theorem requestsStayInside (env : Faults Name) (t : SiteTree) (documentRoot : List Char) (request : Request) :
    match canonicalizeChroot t documentRoot with
    | .error _ => (exec (handle env documentRoot request) t).2 = t
    | .ok root => (Within (Inside root) t (exec (handle env documentRoot request) t).2 ∧
        (exec (handle env documentRoot request) t).2.get root ≠ none) ↔ Spared env t root request := by
  cases found : canonicalizeChroot t documentRoot with
  | error e =>
    have same : Leaves (handle env documentRoot request) t (· = t) := by
      refine .asks (fun root ok => ?_) (fun _ _ => rfl)
      rw [found] at ok
      cases ok
    exact Ends.always same
  | ok root =>
    have standing : Settled t root := walkSettled settledTop (mapErrorOk found)
    have served : exec (handle env documentRoot request) t = exec (serve env root request) t := by
      rw [handle,execBind,execReads,found]
    simp only [served]
    constructor
    · rintro ⟨keeps,stands⟩
      cases request with
      | writeFile => exact writeFileSpared keeps
      | remove => exact removeSpared standing stands
      | chmod => exact chmodSpared keeps
      | _ => trivial
    · intro spared
      have keeps := Ends.always (serveKeeps standing spared)
      obtain ⟨node,there,_⟩ := standing.2
      refine ⟨keeps,?_⟩
      rw [keeps.2 root (fun inside => inside.2 rfl),there]
      exact Option.some_ne_none node

end Confinement

def planted (entries : List (List Name × Node Name Bytes)) : SiteTree where
  top := 0o755
  inner q := (entries.find? (fun e => decide (e.1 = q))).map Prod.snd
  paths := entries.map Prod.fst
  held p there := by
    cases found : entries.find? (fun e => decide (e.1 = p)) with
    | none => simp [found] at there
    | some e =>
      have same : e.1 = p := by simpa using List.find?_some found
      exact same ▸ List.mem_map_of_mem (List.mem_of_find?_eq_some found)
  touched := []

def calm : Faults Name := ⟨fun _ => none,fun _ => false⟩

def srv : Name := ['s','r','v']
def www : Name := ['w','w','w']
def etc : Name := ['e','t','c']
def motd : Name := ['m','o','t','d']

def site : SiteTree := planted
  [([srv],.dir 0o755),([srv,www],.dir 0o750),([srv,www,['p','a','g','e']],.file [1,2] 0o644),
    ([etc],.dir 0o755),([etc,motd],.file [3] 0o600),
    ([srv,www,['n','e','w','s']],.link ⟨true,[.down etc,.down motd]⟩),
    ([srv,www,['d','r','a','f','t','.','.','n','e','w']],.link ⟨false,[.up,.up,.down etc,.down motd]⟩)]

def webRoot : List Char := ['/','s','r','v','/','w','w','w']

def pathOf (text : List Char) (accepted : Accepted text) : Path := ⟨text,accepted⟩

theorem outsideReached :
    (exec (handle calm webRoot (.remove (pathOf [] (by decide)) true)) site).2.get [srv,www] = none ∧
      (exec (handle calm webRoot (.writeFile (pathOf ['.'] (by decide)) [7])) site).2.get [srv,['w','w','w','.','.','n','e','w']] =
        some (.file [7] 0o644) ∧
      (exec (handle calm webRoot (.writeFile (pathOf ['d','r','a','f','t'] (by decide)) [7])) site).2.get [etc,motd] =
        some (.file [7] 0o644) ∧
      (exec (handle calm webRoot (.chmod (pathOf ['n','e','w','s','/','.'] (by decide)) 0o666)) site).2.get [etc,motd] =
        some (.file [3] 0o666) := by
  decide +kernel
end OpenPanel.Files
