import OpenPanel.AccountForest
import Mathlib.Data.Fintype.EquivFin

/-! The two walks down from an account: the cycle test of the domain and the tree projection.
Both follow children without marking what they have seen, so a walk is given a number of
steps and answers `none` when they run out. -/
namespace OpenPanel.Hierarchy
open Relation Identity GuardedRun

instance : Finite Uuid := Finite.of_injective BitVec.toFin (fun _ _ same => BitVec.toFin_inj.mp same)

section WouldCycle

-- An absent key of the map and an empty list are read alike.
variable (childrenOf : Uuid → List Uuid)

def searchDown (child : Uuid) : Nat → List Uuid → Option Bool
  | 0,_ => none
  | _ + 1,[] => some false
  | fuel + 1,current::stack =>
    if current = child then some true
    else searchDown child fuel ((childrenOf current).reverse ++ stack)

def wouldCycle (fuel : Nat) (proposedParent childId : Uuid) : Option Bool :=
  if proposedParent = childId then some true else searchDown childrenOf childId fuel [proposedParent]

def ChildOf (parent child : Uuid) : Prop := child ∈ childrenOf parent

def Searched (child : Uuid) (nodes : List Uuid) (steps : Nat) : Prop :=
  ∀ stack fuel, ((∃ n ∈ nodes, ReflTransGen (ChildOf childrenOf) n child) →
      searchDown childrenOf child (steps + fuel) (nodes ++ stack) = some true) ∧
    ((¬∃ n ∈ nodes, ReflTransGen (ChildOf childrenOf) n child) →
      searchDown childrenOf child (steps + fuel) (nodes ++ stack) = searchDown childrenOf child fuel stack)

variable {childrenOf}

theorem searchedAll (each : ∀ n ∈ nodes, ∃ steps, Searched childrenOf child [n] steps) :
    ∃ steps, Searched childrenOf child nodes steps := by
  induction nodes with
  | nil => exact ⟨0,fun stack fuel => ⟨by simp,fun _ => by simp⟩⟩
  | cons node rest ih =>
    obtain ⟨here,first⟩ := each node List.mem_cons_self
    obtain ⟨later,others⟩ := ih (fun n mem => each n (List.mem_cons_of_mem _ mem))
    refine ⟨here + later,fun stack fuel => ?_⟩
    have head := first (rest ++ stack) (later + fuel)
    have tail := others stack fuel
    rw [← Nat.add_assoc] at head
    simp only [List.mem_singleton,exists_eq_left,List.singleton_append] at head
    simp only [List.mem_cons,exists_eq_or_imp,List.cons_append]
    by_cases reaches : ReflTransGen (ChildOf childrenOf) node child
    · exact ⟨fun _ => head.1 reaches,fun none => absurd (.inl reaches) none⟩
    · rw [head.2 reaches]
      simpa [reaches] using tail

theorem searchedNode (acyclic : Edges.Acyclic (ChildOf childrenOf)) (child node) : ∃ steps, Searched childrenOf child [node] steps := by
  induction node using (Edges.acyclicDownward acyclic).induction with
  | _ node ih =>
    have each : ∀ n ∈ (childrenOf node).reverse, ∃ steps, Searched childrenOf child [n] steps :=
      fun n mem => ih n (List.mem_reverse.mp mem)
    obtain ⟨steps,kids⟩ := searchedAll each
    refine ⟨steps + 1,fun stack fuel => ?_⟩
    have below := kids stack fuel
    rw [Nat.add_right_comm,List.singleton_append,searchDown]
    simp only [List.mem_singleton,exists_eq_left,List.mem_reverse] at below ⊢
    by_cases same : node = child
    · subst same
      exact ⟨fun _ => if_pos rfl,fun apart => absurd .refl apart⟩
    · rw [if_neg same]
      have onward : ReflTransGen (ChildOf childrenOf) node child ↔
          ∃ n ∈ childrenOf node, ReflTransGen (ChildOf childrenOf) n child := by
        rw [ReflTransGen.cases_head_iff]
        simp [same,ChildOf]
      rw [onward]
      exact below

theorem wouldCycleReaches (acyclic : Edges.Acyclic (ChildOf childrenOf)) (proposedParent childId) :
    ∃ answer, (∃ enough, ∀ fuel ≥ enough, wouldCycle childrenOf fuel proposedParent childId = some answer) ∧
      (answer = true ↔ ReflTransGen (ChildOf childrenOf) proposedParent childId) := by
  by_cases same : proposedParent = childId
  · exact ⟨true,⟨0,fun _ _ => if_pos same⟩,by simp [same,ReflTransGen.refl]⟩
  · obtain ⟨steps,searched⟩ := searchedNode acyclic childId proposedParent
    by_cases reaches : ReflTransGen (ChildOf childrenOf) proposedParent childId
    · refine ⟨true,⟨steps,fun fuel more => ?_⟩,by simp [reaches]⟩
      obtain ⟨rest,rfl⟩ := Nat.exists_eq_add_of_le more
      exact (if_neg same).trans ((searched [] rest).1 ⟨_,List.mem_cons_self,reaches⟩)
    · refine ⟨false,⟨steps + 1,fun fuel more => ?_⟩,by simp [reaches]⟩
      obtain ⟨rest,rfl⟩ := Nat.exists_eq_add_of_le more
      rw [Nat.add_assoc,Nat.add_comm 1]
      exact (if_neg same).trans ((searched [] (rest + 1)).2 (by simpa using reaches))

theorem wouldCycleExact (acyclic : Edges.Acyclic (ChildOf childrenOf)) (proposedParent childId : Uuid) :
    ∃ answer, (∃ enough, ∀ fuel ≥ enough, wouldCycle childrenOf fuel proposedParent childId = some answer) ∧
      ((answer = true ↔ ¬Edges.Acyclic (Edges.Added (ChildOf childrenOf) proposedParent childId)) ↔
        proposedParent = childId ∨ (¬TransGen (ChildOf childrenOf) proposedParent childId ∧
          ¬TransGen (ChildOf childrenOf) childId proposedParent)) := by
  obtain ⟨answer,returns,reaches⟩ := wouldCycleReaches acyclic proposedParent childId
  refine ⟨answer,returns,?_⟩
  have notBoth : ¬(TransGen (ChildOf childrenOf) proposedParent childId ∧ TransGen (ChildOf childrenOf) childId proposedParent) :=
    fun paths => acyclic _ (paths.1.trans paths.2)
  rw [reaches,Edges.addedCycle acyclic,reflTransGen_iff_eq_or_transGen,eq_comm (a := childId)]
  tauto

end WouldCycle

def chainOf (id : Uuid) : List Uuid := if id = 1 then [2] else if id = 2 then [3] else []

theorem chainEdges (parent child) (edge : ChildOf chainOf parent child) : (parent = 1 ∧ child = 2) ∨ (parent = 2 ∧ child = 3) := by
  unfold ChildOf chainOf at edge
  split at edge
  · exact .inl ⟨by assumption,List.mem_singleton.mp edge⟩
  · split at edge
    · exact .inr ⟨by assumption,List.mem_singleton.mp edge⟩
    · cases edge

theorem chainAcyclic : Edges.Acyclic (ChildOf chainOf) := by
  refine Edges.acyclicRanked BitVec.toNat (fun parent child edge => ?_)
  obtain ⟨rfl,rfl⟩ | ⟨rfl,rfl⟩ := chainEdges parent child edge <;> decide

theorem apartExact : ∃ answer, (∃ enough, ∀ fuel ≥ enough, wouldCycle chainOf fuel 4 5 = some answer) ∧
    (answer = true ↔ ¬Edges.Acyclic (Edges.Added (ChildOf chainOf) 4 5)) := by
  obtain ⟨answer,returns,exactly⟩ := wouldCycleExact chainAcyclic 4 5
  refine ⟨answer,returns,exactly.mpr (.inr ⟨?_,?_⟩)⟩
  · exact Edges.leafEnds (fun child edge => by simpa using chainEdges 4 child edge)
  · exact Edges.leafEnds (fun child edge => by simpa using chainEdges 5 child edge)

theorem wouldCycleInverted : Edges.Acyclic (ChildOf chainOf) ∧
    wouldCycle chainOf 4 1 3 = some true ∧ Edges.Acyclic (Edges.Added (ChildOf chainOf) 1 3) ∧
    wouldCycle chainOf 4 3 1 = some false ∧ ¬Edges.Acyclic (Edges.Added (ChildOf chainOf) 3 1) := by
  have down : TransGen (ChildOf chainOf) 1 3 := .tail (.single (List.mem_singleton.mpr rfl)) (List.mem_singleton.mpr rfl)
  have leaf : ¬TransGen (ChildOf chainOf) 3 1 := Edges.leafEnds (fun child edge => by simpa using chainEdges 3 child edge)
  exact ⟨chainAcyclic,by decide,Edges.addedAcyclic chainAcyclic (by decide) leaf,by decide,
    (Edges.addedCycle chainAcyclic).mpr (.inr down)⟩

inductive HierarchyNode where
  | node (userId : Uuid) (parentId : Option Uuid) (depth : Nat) (children : List HierarchyNode)

-- `ORDER BY created_at`; rows of one instant in their stored order.
def Users.list (users : Users) : Users := users.insertionSort (fun a b => a.createdAt ≤ b.createdAt)

def byParent (users : Users) (parent : Uuid) : List Uuid :=
  ((Users.list users).filter (fun u => u.parentAccountId == some parent)).map User.id

def appendChildren (users : Users) : Nat → Uuid → Nat → Option (List HierarchyNode)
  | 0,_,_ => none
  | fuel + 1,userId,depth => (byParent users userId).mapM (fun kid => do
    let parentId := (byParent users kid).head?.getD userId
    let children ← appendChildren users fuel kid (depth + 1)
    some (.node kid (some parentId) (depth + 1) children))

def tree (users : Users) (fuel : Nat) (rootId : Uuid) : Option (Except AccountHierarchyError HierarchyNode) :=
  match Users.findById users rootId with
  | none => some (.error .userNotFound)
  | some root => (appendChildren users fuel root.id 0).map (fun children => .ok (.node root.id root.parentAccountId 0 children))

mutual
def HierarchyNode.descendants (distance : Nat) : HierarchyNode → List (Uuid × Nat × HierarchyNode)
  | .node userId _ _ children => hanging userId (distance + 1) children
def hanging (above : Uuid) (distance : Nat) : List HierarchyNode → List (Uuid × Nat × HierarchyNode)
  | [] => []
  | kid::rest => (above,distance,kid)::(kid.descendants distance ++ hanging above distance rest)
end

def HierarchyNode.userId : HierarchyNode → Uuid
  | .node userId _ _ _ => userId

structure Projects (users : Users) (rootId : Uuid) (top : HierarchyNode) : Prop where
  root : top.userId = rootId
  once : ((top.descendants 0).map (fun hung => hung.2.2.userId)).Nodup
  every : ∀ id, id ∈ (top.descendants 0).map (fun hung => hung.2.2.userId) ↔ TransGen (ChildOf (byParent users)) rootId id
  placed : ∀ above distance userId parentId depth children,
    (above,distance,HierarchyNode.node userId parentId depth children) ∈ top.descendants 0 → parentId = some above ∧ depth = distance

section Mapped

variable {l : List α}

theorem mappedReached (ok : l.mapM f = some out) (mem : a ∈ l) : ∃ b ∈ out, f a = some b := by
  induction l generalizing out with
  | nil => cases mem
  | cons first rest ih =>
    simp only [List.mapM_cons,Option.pure_def,Option.bind_eq_bind,Option.bind_eq_some_iff,Option.some.injEq] at ok
    obtain ⟨b,here,others,there,rfl⟩ := ok
    obtain rfl | later := List.mem_cons.mp mem
    · exact ⟨b,List.mem_cons_self,here⟩
    · obtain ⟨b',inside,made⟩ := ih there later
      exact ⟨b',List.mem_cons_of_mem _ inside,made⟩

theorem mappedEach (each : ∀ a ∈ l, f a = some (g a)) : l.mapM f = some (l.map g) := by
  induction l with
  | nil => rfl
  | cons first rest ih =>
    rw [List.mapM_cons,each first List.mem_cons_self,ih (fun a mem => each a (List.mem_cons_of_mem _ mem))]
    rfl

end Mapped

variable {users : Users} {rootId kid : Uuid} {fuel depth : Nat}

theorem childAppended (ok : appendChildren users fuel rootId depth = some children) (mem : kid ∈ byParent users rootId) :
    ∃ left grandchildren, fuel = left + 1 ∧ appendChildren users left kid (depth + 1) = some grandchildren ∧
      .node kid (some ((byParent users kid).head?.getD rootId)) (depth + 1) grandchildren ∈ children := by
  cases fuel with
  | zero => cases ok
  | succ left =>
    obtain ⟨child,inside,made⟩ := mappedReached ok mem
    simp only [Option.bind_eq_bind,Option.bind_eq_some_iff,Option.some.injEq] at made
    obtain ⟨grandchildren,appended,rfl⟩ := made
    exact ⟨left,grandchildren,rfl,appended,inside⟩

theorem leafAppended (leaf : byParent users kid = []) : appendChildren users 1 kid depth = some [] := by
  rw [appendChildren,leaf]
  rfl

theorem leavesHanging (above) (distance) (parent) (kids : List Uuid) :
    hanging above distance (kids.map (fun kid => .node kid parent distance [])) =
      kids.map (fun kid => (above,distance,.node kid parent distance [])) := by
  induction kids with
  | nil => rfl
  | cons kid rest ih => simp [hanging,HierarchyNode.descendants,ih]

theorem hangsUnder (mem : child ∈ children) : (above,distance,child) ∈ hanging above distance children := by
  induction children with
  | nil => cases mem
  | cons first rest ih =>
    obtain rfl | later := List.mem_cons.mp mem
    · simp [hanging]
    · simp [hanging,ih later]

theorem treeEndless (down : kid ∈ byParent users rootId) (up : rootId ∈ byParent users kid) (fuel depth) :
    appendChildren users fuel rootId depth = none := by
  induction fuel using Nat.strongRecOn generalizing depth with
  | ind fuel ih =>
    refine Option.eq_none_iff_forall_ne_some.mpr (fun children ok => ?_)
    obtain ⟨left,_,rfl,middle,_⟩ := childAppended ok down
    obtain ⟨rest,_,rfl,again,_⟩ := childAppended middle up
    rw [ih rest (by omega)] at again
    cases again

theorem byParentUnique (unique : (Users.ids users).Nodup) (parent) : (byParent users parent).Nodup := by
  have sorted : ((Users.list users).map User.id).Nodup := (List.Perm.map User.id (List.perm_insertionSort _ users)).nodup_iff.mpr unique
  exact sorted.sublist (List.filter_sublist.map User.id)

theorem flatProjects (unique : (Users.ids users).Nodup) (flat : ∀ kid ∈ byParent users rootId, byParent users kid = []) (parent) :
    Projects users rootId (.node rootId parent 0 ((byParent users rootId).map (fun kid => .node kid (some rootId) 1 []))) where
  root := rfl
  once := by
    rw [HierarchyNode.descendants,leavesHanging]
    simpa [Function.comp_def,HierarchyNode.userId] using byParentUnique unique rootId
  every id := by
    rw [HierarchyNode.descendants,leavesHanging]
    refine Iff.trans (by simp [HierarchyNode.userId]) (⟨fun kid => .single kid,fun path => ?_⟩ : id ∈ byParent users rootId ↔ _)
    obtain ⟨kid,edge,onward⟩ := TransGen.head'_iff.mp path
    obtain rfl | later := reflTransGen_iff_eq_or_transGen.mp onward
    · exact edge
    · exact absurd later (Edges.leafEnds (fun next => by simp [ChildOf,flat kid edge]))
  placed := by
    intro above distance userId parentId depth children mem
    rw [HierarchyNode.descendants,leavesHanging] at mem
    obtain ⟨kid,_,same⟩ := List.mem_map.mp mem
    cases same
    exact ⟨rfl,rfl⟩

theorem treeProjects (unique : (Users.ids users).Nodup) (known : rootId ∈ Users.ids users) :
    (∃ fuel top, tree users fuel rootId = some (.ok top) ∧ Projects users rootId top) ↔
      ∀ kid ∈ byParent users rootId, byParent users kid = [] := by
  obtain ⟨root,found,same⟩ := knownFound known
  subst same
  simp only [tree,found]
  constructor
  · rintro ⟨fuel,top,built,projects⟩ kid mem
    obtain ⟨children,ok,same⟩ := Option.map_eq_some_iff.mp built
    cases same
    cases below : byParent users kid with
    | nil => rfl
    | cons first rest =>
      -- The recorded parent is the first child of the kid: the root only where the two form a cycle.
      obtain ⟨_,_,_,_,inside⟩ := childAppended ok mem
      have recorded := (projects.placed _ _ _ _ _ _ (hangsUnder inside)).1
      simp only [below,List.head?_cons,Option.getD_some,Option.some.injEq] at recorded
      rw [treeEndless mem (by rw [below,recorded]; exact List.mem_cons_self)] at ok
      cases ok
  · intro flat
    refine ⟨2,_,Option.map_eq_some_iff.mpr ⟨_,?_,rfl⟩,flatProjects unique flat root.parentAccountId⟩
    refine mappedEach (fun kid mem => ?_)
    rw [leafAppended (flat kid mem),flat kid mem]
    rfl

def grandchild : User := account 3 "grandchild" "grandchild@panel.test" .user (by decide) (by decide)
def threeAccounts : Accounts := ⟨[reseller,customer,grandchild],[]⟩

def attachedOnce : List (Call × Env) := [(.attachChild 1 2 1,{})]

theorem onceProjects : ∃ last, Run fire free threeAccounts attachedOnce last ∧ ∃ fuel top,
    tree last.users fuel 1 = some (.ok top) ∧ Projects last.users 1 top := by
  obtain ⟨last,run,ids,kids,leaf⟩ := replayShows fire free threeAccounts attachedOnce (fun db =>
    Users.ids db.users = [1,2,3] ∧ byParent db.users 1 = [2] ∧ byParent db.users 2 = []) (by decide)
  refine ⟨last,run,(treeProjects (by rw [ids]; decide) (by rw [ids]; decide)).mpr ?_⟩
  rw [kids]
  simpa using leaf

def attachedTwice : List (Call × Env) := [(.attachChild 1 2 1,{}),(.attachChild 2 3 2,{})]

theorem treeMisplaced : ∃ last, Run fire free threeAccounts attachedTwice last ∧
    tree last.users 3 1 = some (.ok (.node 1 none 0 [.node 2 (some 3) 1 [.node 3 (some 2) 2 []]])) := by
  obtain ⟨last,run,users⟩ := replayShows fire free threeAccounts attachedTwice (fun db => db.users =
    [reseller,{customer with parentAccountId := some 1},{grandchild with parentAccountId := some 2}]) (by decide)
  refine ⟨last,run,?_⟩
  rw [users]
  rfl

end OpenPanel.Hierarchy
