import OpenPanel.ContainerRegistry
import Mathlib.Algebra.BigOperators.Group.List.Basic

/-! When the counter of a namespace is the sum of its images. A push stores the image
and a pruning deletes one a step before the counter is written, from a copy of the
namespace read earlier; in between the call owes the namespace its new counter. -/
namespace OpenPanel.Registry
open CallPool GuardedRun

section Totals

def Store.total (s : Store) (id : NamespaceId) : Nat := ((s.images.filter (fun row => row.namespaceId = id)).map StoredImage.sizeBytes).sum

variable {s s' : Store} {id : NamespaceId}

theorem totalPerm {rows rows' : List StoredImage} (perm : rows.Perm rows') (id) :
    ((rows.filter (fun row => row.namespaceId = id)).map StoredImage.sizeBytes).sum =
      ((rows'.filter (fun row => row.namespaceId = id)).map StoredImage.sizeBytes).sum :=
  ((perm.filter _).map _).sum_eq

theorem totalCons (rows) (image) (id) : (((image::rows).filter (fun row => row.namespaceId = id)).map StoredImage.sizeBytes).sum =
      (if image.namespaceId = id then image.sizeBytes else 0) +
        ((rows.filter (fun row => row.namespaceId = id)).map StoredImage.sizeBytes).sum := by
  by_cases here : image.namespaceId = id <;> simp [here]

theorem insertTotal (ok : s.insertImage image = .ok s') (fresh : s.findImage image.namespaceId image.digest = none) :
    s'.namespaces = s.namespaces ∧ ∀ id, s'.total id = (if image.namespaceId = id then image.sizeBytes else 0) + s.total id := by
  unfold Store.insertImage at ok
  split at ok <;> cases ok
  have absent : ∀ old ∈ s.images, old.key ≠ image.key := by simpa [Store.findImage,StoredImage.key] using fresh
  have kept : Rows.delete StoredImage.key image.key s.images = s.images := Rows.deleteAbsent absent
  refine ⟨rfl,fun id => ?_⟩
  simp only [Store.total,kept]
  rw [totalPerm (List.perm_append_singleton image s.images),totalCons]

theorem findImageOk (found : s.findImage id digest = some row) : row ∈ s.images ∧ row.key = (id,digest) :=
  ⟨List.mem_of_find?_eq_some found,by simpa using List.find?_some found⟩

theorem findNamespaceOk (found : s.findNamespace id = some row) : row ∈ s.namespaces ∧ row.namespaceId = id :=
  Rows.found found

theorem deleteTotal (found : s.findImage id digest = some row) :
    ∀ other, s.total other = (if id = other then row.sizeBytes else 0) + (s.deleteImage id digest).total other := by
  obtain ⟨mem,same⟩ := findImageOk found
  intro other
  have perm := Rows.deletePerm s.keys mem
  have place : row.namespaceId = id := congrArg Prod.fst same
  simp only [Store.total,Store.deleteImage]
  rw [← totalPerm perm,totalCons,same,place]

theorem statusTotal (ok : s.updateStatus id digest status = .ok s') :
    s'.namespaces = s.namespaces ∧ ∀ other, s'.total other = s.total other := by
  unfold Store.updateStatus at ok
  split at ok <;> cases ok
  refine ⟨rfl,fun other => ?_⟩
  have kept : ∀ row, (Store.writeStatus (id,digest) status row).namespaceId = row.namespaceId := fun row =>
    congrArg Prod.fst (Store.writtenStatus (id,digest) status row).1
  simp only [Store.total,List.filter_map,List.map_map,Function.comp_def,kept,(Store.writtenStatus (id,digest) status _).2]

theorem usedRows (ok : s.updateUsed id used = .ok s') :
    s'.namespaces = s.namespaces.map (Store.writeUsed id used) ∧ s'.images = s.images := by
  unfold Store.updateUsed at ok
  split at ok <;> try contradiction
  split at ok <;> cases ok
  exact ⟨rfl,rfl⟩

theorem usedFits (mem : row ∈ s.namespaces) (here : row.namespaceId = id) (fits : used ≤ maxStored)
    (message) : s.updateUsed id used ≠ .error message := by
  rw [Store.updateUsed,if_neg (Nat.not_lt.mpr fits),if_pos ⟨row,mem,here⟩]
  nofun

end Totals

def owes : Point → Option (NamespaceId × Nat)
  | .count ns image => some (ns.namespaceId,(ns.accountPush image.sizeBytes).usedBytes)
  | .uncount _ ns image _ _ => some (ns.namespaceId,(ns.accountDelete image.sizeBytes).usedBytes)
  | _ => none

def Admitted (s : Store) (ns : ImageNamespace) (request : PushRequest) : Prop :=
  (∃ row ∈ s.namespaces, row.namespaceId = ns.namespaceId ∧ row.quotaBytes = ns.quotaBytes) ∧
    ns.wouldExceed request.totalBytes = false

def Known (s : Store) : Point → Prop
  | .write ns request => Admitted s ns request
  | .insert ns request => Admitted s ns request
  | _ => True

inductive Moves (s : Store) (input : Input) : Point → Store → Point → Prop where
  | quiet {p s' p'} (rows : s'.namespaces = s.namespaces) (totals : ∀ id, s'.total id = s.total id) (before : owes p = none)
      (after : owes p' = none) (learnt : Known s p → Known s p') : Moves s input p s' p'
  | stored {ns request image s'} (works : input.fault = none) (digest : image.digest = request.manifestDigest)
      (place : image.namespaceId = ns.namespaceId) (size : image.sizeBytes = request.totalBytes)
      (ok : s.insertImage image = .ok s') : Moves s input (.insert ns request) s' (.count ns image)
  | deleted {purpose ns image rest pruned} (works : input.fault = none) : Moves s input (.delete purpose ns image rest pruned)
      (s.deleteImage ns.namespaceId image.digest) (.uncount purpose ns image rest pruned)
  | counted {p debt s' p'} (owed : owes p = some debt) (ok : s.updateUsed debt.1 debt.2 = .ok s') (after : owes p' = none)
      (learnt : Known s' p') : Moves s input p s' p'
  | uncounted {p debt p'} (owed : owes p = some debt)
      (fails : input.fault ≠ none ∨ ∃ message, s.updateUsed debt.1 debt.2 = .error message) (after : owes p' = none)
      (learnt : Known s p') : Moves s input p s p'

theorem attemptOk (ok : attempt input result = .ok a) : input.fault = none ∧ result = .ok a := by
  unfold attempt at ok
  split at ok
  · cases ok
  · rename_i works
    exact ⟨works,ok⟩

theorem attemptError (fails : attempt input result = .error message) : input.fault ≠ none ∨ result = .error message := by
  unfold attempt at fails
  split at fails
  · rename_i broken
    exact .inl (by simp [broken])
  · exact .inr fails

theorem nextOwes (purpose) (ns) (pruned) (rest) :
    owes (next purpose ns pruned rest) = none ∧ Known s (next purpose ns pruned rest) := by
  unfold next
  split
  · exact ⟨rfl,trivial⟩
  · split <;> exact ⟨rfl,trivial⟩

theorem Moves.same (before : owes p = none) (after : owes p' = none) (learnt : Known s p → Known s p') : Moves s input p s p' :=
  .quiet rfl (fun _ => rfl) before after learnt

theorem stepMoves (moved : step s p input = some (s',p')) : Moves s input p s' p' := by
  cases p <;> simp only [step,failed] at moved
  case push caller request =>
    split at moved
    · cases moved
      exact .same rfl rfl (fun _ => trivial)
    · cases moved
      exact .same rfl rfl (fun _ => trivial)
    · rename_i ns found
      split at moved
      · cases moved
        exact .same rfl rfl (fun _ => trivial)
      · split at moved
        · cases moved
          exact .same rfl rfl (fun _ => trivial)
        · rename_i room
          cases moved
          obtain ⟨_,found⟩ := attemptOk found
          have hit := findNamespaceOk (Except.ok.inj found)
          exact .same rfl rfl (fun _ => ⟨⟨ns,hit.1,rfl,rfl⟩,by simpa using room⟩)
  case write ns request =>
    split at moved <;> cases moved
    · exact .same rfl rfl (fun _ => trivial)
    · exact .same rfl rfl id
  case insert ns request =>
    split at moved <;> cases moved
    · exact .same rfl rfl (fun _ => trivial)
    · rename_i ok
      exact .stored (attemptOk ok).1 rfl rfl rfl (attemptOk ok).2
  case count ns image =>
    split at moved <;> cases moved
    · rename_i fails
      exact .uncounted rfl ((attemptError fails).imp_right (fun e => ⟨_,e⟩)) rfl trivial
    · rename_i ok
      refine .counted rfl (attemptOk ok).2 ?_ ?_ <;> split <;> trivial
  case scan =>
    cases moved
    exact .same rfl rfl (fun _ => trivial)
  case status =>
    split at moved
    · cases moved
      exact .same rfl rfl (fun _ => trivial)
    · rename_i ok
      obtain ⟨rows,totals⟩ := statusTotal (attemptOk ok).2
      split at moved <;> cases moved <;> exact .quiet rows totals rfl rfl (fun _ => trivial)
  case scanRow =>
    split at moved <;> cases moved <;> exact .same rfl rfl (fun _ => trivial)
  case applyRetention =>
    split at moved <;> cases moved <;> exact .same rfl rfl (fun _ => trivial)
  case list =>
    split at moved <;> cases moved
    · exact .same rfl rfl (fun _ => trivial)
    · exact .same rfl (nextOwes (s := s) _ _ _ _).1 (fun _ => (nextOwes _ _ _ _).2)
  case find =>
    split at moved <;> cases moved
    · exact .same rfl rfl (fun _ => trivial)
    · exact .same rfl (nextOwes (s := s) _ _ _ _).1 (fun _ => (nextOwes _ _ _ _).2)
    · exact .same rfl rfl (fun _ => trivial)
  case delete =>
    split at moved <;> cases moved
    · exact .same rfl rfl (fun _ => trivial)
    · rename_i ok
      obtain ⟨works,same⟩ := attemptOk ok
      cases same
      exact .deleted works
  case uncount =>
    split at moved <;> cases moved
    · rename_i fails
      exact .uncounted rfl ((attemptError fails).imp_right (fun e => ⟨_,e⟩)) rfl trivial
    · rename_i ok
      exact .counted rfl (attemptOk ok).2 (nextOwes (s := s) _ _ _ _).1 (nextOwes _ _ _ _).2
  case done => cases moved

section Books

/-- A step that changes the images of a namespace finds the counter its call read still
stored, and no other call owing the namespace a counter; a push brings a new digest and
a pruning finds the image as it read it. The counter is then written without a fault. -/
def accounted : Discipline Store Point Input where
  alone s point input := match point with
    | .insert ns request => input.fault = none → s.findImage ns.namespaceId request.manifestDigest = none ∧
        ∃ row ∈ s.namespaces, row.namespaceId = ns.namespaceId ∧ row.usedBytes = ns.usedBytes
    | .delete _ ns image _ _ => input.fault = none →
        (∃ row ∈ s.findImage ns.namespaceId image.digest, row.sizeBytes = image.sizeBytes) ∧
        ∃ row ∈ s.namespaces, row.namespaceId = ns.namespaceId ∧ row.usedBytes = ns.usedBytes
    | .count _ _ => input.fault = none
    | .uncount _ _ _ _ _ => input.fault = none
    | _ => True
  beside _ point input other := match point with
    | .insert ns _ => input.fault = none → ∀ debt ∈ owes other, debt.1 ≠ ns.namespaceId
    | .delete _ ns _ _ _ => input.fault = none → ∀ debt ∈ owes other, debt.1 ≠ ns.namespaceId
    | _ => True

instance (s point input) : Decidable (accounted.alone s point input) := by
  unfold accounted
  cases point <;> exact inferInstance

instance (s point input other) : Decidable (accounted.beside s point input other) := by
  unfold accounted
  cases point <;> exact inferInstance

structure Balanced (c : Pool Store Point) : Prop where
  bounded : ∀ row ∈ c.shared.namespaces, c.shared.total row.namespaceId ≤ row.quotaBytes
  known : ∀ p ∈ c.calls, Known c.shared p
  owed : ∀ p ∈ c.calls, ∀ debt ∈ owes p, c.shared.total debt.1 = debt.2 ∧ ∃ row ∈ c.shared.namespaces, row.namespaceId = debt.1
  single : ∀ (i j : Nat) p q debt other, i ≠ j → c.calls[i]? = some p → c.calls[j]? = some q → owes p = some debt →
    owes q = some other → debt.1 ≠ other.1
  settled : ∀ row ∈ c.shared.namespaces, (∀ p ∈ c.calls, ∀ debt ∈ owes p, debt.1 ≠ row.namespaceId) →
    row.usedBytes = c.shared.total row.namespaceId

variable {c : Pool Store Point} {id : NamespaceId}

theorem knownStable (kept : ∀ row ∈ s.namespaces, ∃ row' ∈ s'.namespaces,
    row'.namespaceId = row.namespaceId ∧ row'.quotaBytes = row.quotaBytes) (known : Known s q) : Known s' q := by
  have admitted : ∀ ns request, Admitted s ns request → Admitted s' ns request := by
    rintro ns request ⟨⟨row,mem,place,quota⟩,room⟩
    obtain ⟨row',mem',place',quota'⟩ := kept row mem
    exact ⟨⟨row',mem',place'.trans place,quota'.trans quota⟩,room⟩
  cases q with
  | write ns request => exact admitted ns request known
  | insert ns request => exact admitted ns request known
  | _ => trivial

theorem knownAfter (balanced : Balanced c) (kept : ∀ row ∈ c.shared.namespaces, ∃ row' ∈ s'.namespaces,
    row'.namespaceId = row.namespaceId ∧ row'.quotaBytes = row.quotaBytes) (target : Known s' p') :
    ∀ q ∈ c.calls.set index p', Known s' q := by
  intro q mem
  rcases List.mem_or_eq_of_mem_set mem with old | rfl
  · exact knownStable kept (balanced.known q old)
  · exact target

theorem singleAfter (balanced : Balanced c) (after : owes p' = none) : ∀ (i j : Nat) q r debt other, i ≠ j →
    (c.calls.set index p')[i]? = some q → (c.calls.set index p')[j]? = some r → owes q = some debt → owes r = some other →
    debt.1 ≠ other.1 := by
  intro i j q r debt other different left right owesLeft owesRight
  rcases setCases left with ⟨_,rfl⟩ | ⟨_,left⟩
  · rw [after] at owesLeft
    cases owesLeft
  · rcases setCases right with ⟨_,rfl⟩ | ⟨_,right⟩
    · rw [after] at owesRight
      cases owesRight
    · exact balanced.single i j q r debt other different left right owesLeft owesRight

theorem freeBefore (found : c.calls[index]? = some p) (mover : ∀ debt ∈ owes p, debt.1 ≠ id)
    (free : ∀ q ∈ c.calls.set index p', ∀ debt ∈ owes q, debt.1 ≠ id) : ∀ q ∈ c.calls, ∀ debt ∈ owes q, debt.1 ≠ id := by
  intro q mem
  rcases othersKept found p' mem with rfl | still
  · exact mover
  · exact free q still

theorem quietBalanced (balanced : Balanced c) (found : c.calls[index]? = some p) (rows : s'.namespaces = c.shared.namespaces)
    (totals : ∀ id, s'.total id = c.shared.total id) (before : owes p = none) (after : owes p' = none)
    (target : Known s' p') : Balanced ⟨s',c.calls.set index p'⟩ where
  bounded row mem := by
    rw [totals]
    exact balanced.bounded row (rows ▸ mem)
  known := knownAfter balanced (fun row mem => ⟨row,rows.symm ▸ mem,rfl,rfl⟩) target
  owed q mem debt owed := by
    rcases List.mem_or_eq_of_mem_set mem with old | rfl
    · simp only [totals,rows]
      exact balanced.owed q old debt owed
    · rw [after] at owed
      cases owed
  single := singleAfter balanced after
  settled row mem free := by
    have nobody := freeBefore found (by simp [before]) free
    simp only [totals]
    exact balanced.settled row (rows ▸ mem) nobody

theorem openedBalanced (balanced : Balanced c) (found : c.calls[index]? = some p) (rows : s'.namespaces = c.shared.namespaces)
    (here : s'.total id = value) (away : ∀ other, id ≠ other → s'.total other = c.shared.total other)
    (room : ∀ row ∈ c.shared.namespaces, row.namespaceId = id → value ≤ row.quotaBytes)
    (exists' : ∃ row ∈ c.shared.namespaces, row.namespaceId = id)
    (free : ∀ q ∈ c.calls, ∀ debt ∈ owes q, debt.1 ≠ id) (before : owes p = none)
    (after : owes p' = some (id,value)) (target : Known s' p') : Balanced ⟨s',c.calls.set index p'⟩ where
  bounded row mem := by
    have old : row ∈ c.shared.namespaces := rows ▸ mem
    by_cases same : id = row.namespaceId
    · rw [← same,here]
      exact room row old same.symm
    · rw [away _ same]
      exact balanced.bounded row old
  known := knownAfter balanced (fun row mem => ⟨row,rows.symm ▸ mem,rfl,rfl⟩) target
  owed q mem debt owed := by
    rcases List.mem_or_eq_of_mem_set mem with old | rfl
    · simp only [rows,away _ (Ne.symm (free q old debt owed))]
      exact balanced.owed q old debt owed
    · cases Option.some.inj (after.symm.trans owed)
      exact ⟨here,rows.symm ▸ exists'⟩
  single i j q r debt other different left right owesLeft owesRight := by
    rcases setCases left with ⟨first,rfl⟩ | ⟨_,stood⟩
    · rcases setCases right with ⟨second,_⟩ | ⟨_,right⟩
      · exact absurd (first.trans second.symm) different
      · cases Option.some.inj (after.symm.trans owesLeft)
        exact Ne.symm (free r (List.mem_of_getElem? right) other owesRight)
    · rcases setCases right with ⟨_,rfl⟩ | ⟨_,right⟩
      · cases Option.some.inj (after.symm.trans owesRight)
        exact free q (List.mem_of_getElem? stood) debt owesLeft
      · exact balanced.single i j q r debt other different stood right owesLeft owesRight
  settled row mem free' := by
    have other : id ≠ row.namespaceId := free' p' (stepMem found) (id,value) after
    have nobody := freeBefore found (by simp [before]) free'
    simp only [away _ other]
    exact balanced.settled row (rows ▸ mem) nobody

theorem writtenBalanced (balanced : Balanced c) (found : c.calls[index]? = some p) (owed : owes p = some (id,value))
    (ok : c.shared.updateUsed id value = .ok s') (after : owes p' = none) (target : Known s' p') :
    Balanced ⟨s',c.calls.set index p'⟩ := by
  obtain ⟨rows,images⟩ := usedRows ok
  have totals : ∀ id, s'.total id = c.shared.total id := fun id => by rw [Store.total,images,Store.total]
  have kept : ∀ row ∈ c.shared.namespaces, Store.writeUsed id value row ∈ s'.namespaces := fun row mem =>
    rows.symm ▸ List.mem_map_of_mem mem
  have stems : ∀ row' ∈ s'.namespaces, ∃ row ∈ c.shared.namespaces, Store.writeUsed id value row = row' := fun row' mem =>
    List.mem_map.mp (rows ▸ mem)
  have same := Store.writtenUsed id value
  refine ⟨?_,knownAfter balanced (fun row mem => ⟨_,kept row mem,same row⟩) target,?_,singleAfter balanced after,?_⟩
  · intro row' mem
    obtain ⟨row,old,rfl⟩ := stems row' mem
    rw [totals,(same row).1,(same row).2]
    exact balanced.bounded row old
  · intro q mem debt owesIt
    rcases List.mem_or_eq_of_mem_set mem with old | rfl
    · obtain ⟨sum,row,mem,place⟩ := balanced.owed q old debt owesIt
      exact ⟨(totals _).trans sum,_,kept row mem,(same row).1.trans place⟩
    · rw [after] at owesIt
      cases owesIt
  · intro row' mem free
    obtain ⟨row,old,rfl⟩ := stems row' mem
    rw [(same row).1] at free
    simp only [totals,(same row).1]
    by_cases hit : row.namespaceId = id
    · have sum := (balanced.owed p (List.mem_of_getElem? found) _ owed).1
      rw [Store.writeUsed,if_pos hit,hit]
      exact sum.symm
    · have mover : ∀ debt ∈ owes p, debt.1 ≠ row.namespaceId := by
        intro debt owesIt
        cases Option.some.inj (owed.symm.trans owesIt)
        exact Ne.symm hit
      rw [Store.writeUsed,if_neg hit]
      exact balanced.settled row old (freeBefore found mover free)

theorem writeGoesThrough (balanced : Balanced c) (mem : p ∈ c.calls) (owed : owes p = some debt)
    (message) : c.shared.updateUsed debt.1 debt.2 ≠ .error message := by
  obtain ⟨sum,row,stored,place⟩ := balanced.owed p mem debt owed
  have bounded := balanced.bounded row stored
  rw [place,sum] at bounded
  exact usedFits stored place (Nat.le_trans bounded row.quotaFits) message

theorem admittedFits (admitted : Admitted s ns request) :
    (ns.accountPush request.totalBytes).usedBytes = ns.usedBytes + request.totalBytes ∧
      ∀ row ∈ s.namespaces, row.namespaceId = ns.namespaceId → ns.usedBytes + request.totalBytes ≤ row.quotaBytes := by
  obtain ⟨⟨row,mem,place,quota⟩,room⟩ := admitted
  have fits := ns.quotaFits
  simp only [ImageNamespace.wouldExceed,decide_eq_false_iff_not,Nat.not_lt] at room
  simp only [ImageNamespace.accountPush]
  unfold maxStored at fits
  unfold maxCounter at room ⊢
  refine ⟨by omega,fun row' mem' place' => ?_⟩
  have only : row' = row := Rows.equalOfKey s.ids mem' mem (place'.trans place.symm)
  rw [only,quota]
  omega

theorem startBalanced (balanced : Balanced c) (quiet : owes p = none) (known : Known c.shared p) :
    Balanced ⟨c.shared,c.calls ++ [p]⟩ where
  bounded := balanced.bounded
  known q mem := by
    rcases List.mem_append.mp mem with old | new
    · exact balanced.known q old
    · cases List.mem_singleton.mp new
      exact known
  owed q mem debt owed := by
    rcases List.mem_append.mp mem with old | new
    · exact balanced.owed q old debt owed
    · cases List.mem_singleton.mp new
      rw [quiet] at owed
      cases owed
  single i j q r debt other different left right owesLeft owesRight := by
    have old : ∀ {k : Nat} {q debt}, (c.calls ++ [p])[k]? = some q → owes q = some debt → c.calls[k]? = some q := by
      intro k q debt position owed
      refine (appendCases position).resolve_right (fun last => ?_)
      rw [last.2,quiet] at owed
      cases owed
    exact balanced.single i j q r debt other different (old left owesLeft) (old right owesRight) owesLeft owesRight
  settled row mem free := balanced.settled row mem (fun q old => free q (List.mem_append_left _ old))

theorem nobodyOwes (allowed : accounted.guard c (.step index input)) (found : c.calls[index]? = some p)
    (before : owes p = none) (others : ∀ other, accounted.beside c.shared p input other → ∀ debt ∈ owes other, debt.1 ≠ id) :
    ∀ q ∈ c.calls, ∀ debt ∈ owes q, debt.1 ≠ id := by
  intro q mem
  obtain ⟨j,position⟩ := List.mem_iff_getElem?.mp mem
  by_cases same : j = index
  · subst same
    cases Option.some.inj (position.symm.trans found)
    simp [before]
  · exact others q (besideOther allowed found same position)

theorem accountedBalanced (c) (e next) (balanced : Balanced c) (allowed : accounted.guard c e)
    (fired : registry.fire c e = some next) : Balanced next := by
  obtain ⟨point,rfl,entry,rfl⟩ | ⟨index,input,point,shared,target,rfl,found,moved,rfl⟩ := fireCases fired
  · cases point <;> first | exact startBalanced balanced rfl trivial | cases entry
  · have member := List.mem_of_getElem? found
    have alone := (allowed point found).1
    cases stepMoves moved with
    | quiet rows totals before after learnt =>
      have target := knownStable (fun row mem => ⟨row,rows.symm ▸ mem,rfl,rfl⟩) (learnt (balanced.known point member))
      exact quietBalanced balanced found rows totals before after target
    | @stored ns request image _ works digest place size ok =>
      obtain ⟨fresh,row,mem,stored,current⟩ := alone works
      have free := nobodyOwes allowed found rfl (fun _ beside => beside works)
      have sum := balanced.settled row mem (stored ▸ free)
      obtain ⟨value,room⟩ := admittedFits (balanced.known _ member)
      obtain ⟨rows,totals⟩ := insertTotal ok (by rw [place,digest]; exact fresh)
      refine openedBalanced balanced found rows ?_ ?_ room ⟨row,mem,stored⟩ free rfl ?_ trivial
      · rw [totals,if_pos place,← stored,← sum,current,size,Nat.add_comm]
      · intro other away
        rw [totals,if_neg (fun same => away (place.symm.trans same)),Nat.zero_add]
      · simp only [owes,size,value]
    | @deleted purpose ns image rest pruned works =>
      obtain ⟨⟨stale,looked,size⟩,row,mem,stored,current⟩ := alone works
      have free := nobodyOwes allowed found rfl (fun _ beside => beside works)
      have sum := balanced.settled row mem (stored ▸ free)
      have totals := deleteTotal looked
      have left : c.shared.total ns.namespaceId =
          image.sizeBytes + (c.shared.deleteImage ns.namespaceId image.digest).total ns.namespaceId := by
        rw [totals,if_pos rfl,size]
      rw [current,stored,left] at sum
      refine openedBalanced balanced found rfl rfl ?_ ?_ ⟨row,mem,stored⟩ free rfl ?_ trivial
      · intro other away
        rw [totals other,if_neg away,Nat.zero_add]
      · intro row' mem' place
        have bounded := balanced.bounded row' mem'
        rw [place,left] at bounded
        omega
      · simp only [owes,ImageNamespace.accountDelete,sum,Nat.add_sub_cancel_left]
    | counted owed ok after learnt => exact writtenBalanced balanced found owed ok after learnt
    | uncounted owed fails after learnt =>
      have works : input.fault = none := by
        cases point <;> first | exact alone | cases owed
      obtain broken | ⟨message,fails⟩ := fails
      · exact absurd works broken
      · exact absurd fails (writeGoesThrough balanced member owed message)

def Exact (s : Store) : Prop := ∀ row ∈ s.namespaces, row.usedBytes = s.total row.namespaceId ∧ s.total row.namespaceId ≤ row.quotaBytes

instance (s) : Decidable (Exact s) :=
  inferInstanceAs (Decidable (∀ row ∈ s.namespaces, row.usedBytes = s.total row.namespaceId ∧ s.total row.namespaceId ≤ row.quotaBytes))

def finished : Point → Bool
  | .done _ => true
  | _ => false

theorem storageAccounted {s : Store} {es} {c : Pool Store Point} (start : Exact s)
    (run : Run registry.fire accounted.guard ⟨s,[]⟩ es c) :
    (∀ row ∈ c.shared.namespaces, c.shared.total row.namespaceId ≤ row.quotaBytes) ∧
      (c.calls.all finished = true → Exact c.shared) := by
  have empty : Balanced ⟨s,[]⟩ :=
    ⟨fun row mem => (start row mem).2,by simp,by simp,by simp,fun row mem _ => (start row mem).1⟩
  have balanced : Balanced c := run.keeps accountedBalanced empty
  refine ⟨balanced.bounded,fun idle row mem => ⟨balanced.settled row mem ?_,balanced.bounded row mem⟩⟩
  intro p call debt owed
  have ended := List.all_eq_true.mp idle p call
  cases p with
  | done => cases owed
  | _ => cases ended

end Books

def holder : Uuid := 0x51

def shop : NamespaceId := ⟨"shop".toList,by decide⟩

def nginxText : List Char := "sha256:".toList ++ List.replicate 64 'a'
def redisText : List Char := "sha256:".toList ++ List.replicate 64 'b'

theorem nginxAccepted : ImageDigest.accepts nginxText = true ∧ nginxText.map Char.toLower = nginxText := by decide +kernel
theorem redisAccepted : ImageDigest.accepts redisText = true ∧ redisText.map Char.toLower = redisText := by decide +kernel

def nginxImage : ImageDigest := ⟨nginxText,nginxAccepted.1,nginxAccepted.2⟩
def redisImage : ImageDigest := ⟨redisText,redisAccepted.1,redisAccepted.2⟩

theorem shopQuota : 100 ≤ maxStored := by decide

def emptyShop : Store := ⟨[⟨shop,holder,100,0,shopQuota⟩],[],by decide,by decide⟩

def pushing (digest : ImageDigest) : Event Point Input := .start (.push holder ⟨shop,digest,some "latest",10,[20]⟩)

def plainly (now : Int) : Input := ⟨none,seconds now,⟨⟨some 1,none⟩,true⟩,some ⟨nginxImage,seconds now,[]⟩⟩

def goes (index now : Nat) : Event Point Input := .step index (plainly now)

def twoPushes : List (Event Point Input) :=
  [pushing nginxImage,pushing redisImage] ++ (List.range 9).map (goes 0) ++ (List.range 12).map (fun n => goes 1 (n + 20))

theorem twoPushesCounted : ∃ c, Run registry.fire accounted.guard ⟨emptyShop,[]⟩ twoPushes c ∧ Exact emptyShop ∧
    c.calls.length = 2 ∧ Exact c.shared ∧ c.shared.images.length = 1 := by
  obtain ⟨c,run,idle,calls,images⟩ := replayShows registry.fire accounted.guard ⟨emptyShop,[]⟩ twoPushes
    (fun c => c.calls.all finished = true ∧ c.calls.length = 2 ∧ c.shared.images.length = 1) (by decide +kernel)
  have start : Exact emptyShop := by decide
  exact ⟨c,run,start,calls,(storageAccounted start run).2 idle,images⟩

theorem pushedAgain : ∃ c, Run registry.fire free ⟨emptyShop,[]⟩
    ([pushing nginxImage] ++ (List.range 9).map (goes 0) ++ [pushing nginxImage] ++ (List.range 9).map (fun n => goes 1 (n + 20))) c ∧
    Exact emptyShop ∧ c.calls.all finished = true ∧ c.shared.total shop = 30 ∧
    c.shared.namespaces.map ImageNamespace.usedBytes = [60] := replayShows _ _ _ _ _ (by decide +kernel)

end OpenPanel.Registry
