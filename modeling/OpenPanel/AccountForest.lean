import OpenPanel.AccountHierarchy
import OpenPanel.Edges
import OpenPanel.GuardedRun

/-! The active relationships as a graph. A child never has two parents. The cycle
check climbs from the child, which has no parent yet, and not from the proposed
parent; runs in which no parent is below its own child keep a forest. -/
namespace OpenPanel.Hierarchy
open Fallible GuardedRun Identity Relation

def Accounts.Edge (db : Accounts) (parent child : Uuid) : Prop :=
  ∃ r ∈ db.relationships, r.isActive = true ∧ r.parentId = parent ∧ r.childId = child

structure Forest (db : Accounts) : Prop where
  acyclic : Edges.Acyclic db.Edge
  single : ∀ child, (db.activeParents child).length ≤ 1

def Closes (db : Accounts) (parentId childId : Uuid) : Prop :=
  db.activeParents childId = [] ∧ TransGen db.Edge childId parentId

def attachesUpward (db : Accounts) : Call × Env → Prop
  | (.attachChild parentId childId _,_) => ¬ Closes db parentId childId
  | _ => True

structure Linked (db : Accounts) : Prop extends Forest db where
  known : ∀ r ∈ db.relationships, r.parentId ∈ db.users.ids ∧ r.childId ∈ db.users.ids

inductive Effect (db : Accounts) : Accounts → Prop where
  | unlinked {db'} (rels : db'.relationships = db.relationships) (users : db.users.ids ⊆ db'.users.ids) :
      Effect db db'
  | linked {db' rel} (rels : db'.relationships = db.relationships ++ [rel])
      (users : db.users.ids ⊆ db'.users.ids)
      (known : rel.parentId ∈ db'.users.ids ∧ rel.childId ∈ db'.users.ids)
      (different : rel.parentId ≠ rel.childId) (orphan : db.activeParents rel.childId = [])
      (apart : ¬ TransGen db.Edge rel.childId rel.parentId) : Effect db db'
  | cut {db' parentId childId} (rels : db'.relationships = (db.detach parentId childId).relationships)
      (users : db.users.ids ⊆ db'.users.ids) : Effect db db'

theorem Effect.refl (db) : Effect db db := .unlinked rfl (List.Subset.refl _)

theorem Effect.thenUsers (effect : Effect db mid)
    (rels : last.relationships = mid.relationships) (users : mid.users.ids ⊆ last.users.ids) : Effect db last := by
  cases effect with
  | unlinked same ids => exact .unlinked (rels.trans same) (List.Subset.trans ids users)
  | linked same ids known different orphan apart =>
    exact .linked (rels.trans same) (List.Subset.trans ids users) ⟨users known.1,users known.2⟩
      different orphan apart
  | cut same ids => exact .cut (rels.trans same) (List.Subset.trans ids users)

section Statements

variable {env : Env}

theorem selectThen {read : Accounts → α} (stopped : ∀ e, failed e db) (rest : Ends (next (read db)) db post failed) :
    Ends (env.select s read >>= next) db post failed := by
  refine .andThen (.attempts ?_ (fun e _ => stopped e))
  intro a mid ran
  split at ran <;> cases ran
  exact rest

theorem writeThen (stopped : ∀ e, failed e db) (rest : ∀ mid, change db = .ok mid → Ends (next ()) mid post failed) :
    Ends (env.write s change >>= next) db post failed := by
  refine .andThen (.attempts ?_ (fun e _ => stopped e))
  intro a mid ran
  split at ran <;> try contradiction
  cases changed : change db with
  | error e => simp [changed,Except.map] at ran
  | ok last =>
    simp only [changed,Except.map,Except.ok.injEq,Prod.mk.injEq,true_and] at ran
    subst ran
    exact rest last changed

theorem okOrThen (stopped : failed error db) (rest : ∀ a, value = some a → Ends (next a) db post failed) :
    Ends (okOr error value >>= next) db post failed := by
  refine .andThen ?_
  cases value with
  | none => exact .fails stopped
  | some a => exact .returns (rest a rfl)

end Statements

theorem insertedRelationship {db db' : Accounts} (ok : db.insertRelationship rel = .ok db') :
    rel.parentId ∈ db.users.ids ∧ rel.childId ∈ db.users.ids ∧ db' = {db with relationships := db.relationships ++ [rel]} := by
  unfold Accounts.insertRelationship at ok
  split at ok <;> try contradiction
  split at ok <;> try contradiction
  rename_i known
  cases ok
  obtain ⟨parent,child⟩ := not_or.mp known
  exact ⟨not_not.mp parent,not_not.mp child,rfl⟩

theorem attachEffect (allowed : ¬ Closes db parentId childId) : Leaves (attachChild env parentId childId actorId) db (Effect db) := by
  have stopped : ∀ e : AccountHierarchyError, (fun _ => Effect db) e db := fun _ => .refl db
  refine .branch (fun _ => .fails (.refl db)) (fun different => ?_)
  refine selectThen stopped (okOrThen (.refl db) (fun _ _ => ?_))
  refine selectThen stopped (okOrThen (.refl db) (fun _ _ => ?_))
  refine selectThen stopped (.branch (fun _ => .fails (.refl db)) (fun free => ?_))
  refine selectThen stopped (.branch (fun _ => .fails (.refl db)) (fun _ => ?_))
  refine writeThen stopped (fun mid inserted => ?_)
  obtain ⟨parent,child,rfl⟩ := insertedRelationship inserted
  have orphan : db.activeParents childId = [] := Rows.noneSorted (Option.not_isSome_iff_eq_none.mp free)
  have effect : Effect db {db with relationships := db.relationships ++
      [AccountRelationship.new parentId childId actorId env.now]} :=
    .linked rfl (List.Subset.refl _) ⟨parent,child⟩ different orphan (fun path => allowed ⟨orphan,path⟩)
  refine writeThen (fun _ => effect) (fun last updated => ?_)
  cases updated
  refine .returns (effect.thenUsers rfl ?_)
  simp [updateParentIds]

theorem detachEffect (db) (env parentId childId) : Leaves (detachChild env parentId childId) db (Effect db) := by
  have stopped : ∀ e : AccountHierarchyError, (fun _ => Effect db) e db := fun _ => .refl db
  refine selectThen stopped (okOrThen (.refl db) (fun _ _ => ?_))
  refine .branch (fun _ => .fails (.refl db)) (fun _ => ?_)
  refine writeThen stopped (fun mid marked => ?_)
  cases marked
  have effect : Effect db (db.detach parentId childId) := .cut rfl (List.Subset.refl _)
  refine .attempts ?_ (fun _ _ => effect)
  intro _ last ran
  split at ran <;> cases ran
  refine effect.thenUsers rfl ?_
  simp [updateParentIds]

theorem childUserId (ok : childUser env parentId role request = .ok user) : user.id ≠ parentId := by
  unfold childUser at ok
  split at ok <;> try contradiction
  split at ok <;> try contradiction
  split at ok <;> try contradiction
  split at ok <;> try contradiction
  split at ok <;> cases ok
  rename_i made
  unfold User.newWithParents at made
  split at made <;> cases made
  rename_i different
  exact fun same => different (congrArg some same.symm)

theorem unknownOrphan {db} (linked : Linked db) {id} (fresh : id ∉ db.users.ids) : db.activeParents id = [] := by
  refine List.filter_eq_nil_iff.mpr ?_
  intro r mem hit
  simp only [Bool.and_eq_true,beq_iff_eq] at hit
  exact fresh (hit.1 ▸ (linked.known r mem).2)

theorem unknownLeaf {db} (linked : Linked db) {id} (fresh : id ∉ db.users.ids) (other) : ¬ TransGen db.Edge id other := by
  refine Edges.leafEnds ?_
  rintro child ⟨r,mem,_,rfl,_⟩
  exact fresh (linked.known r mem).1

theorem insertedUser {db mid : Accounts}
    (ok : (do .ok {db with users := ← db.users.insert user}) = (.ok mid : Except DbError Accounts)) :
    ∃ users, db.users.insert user = .ok users ∧ mid = {db with users := users} := by
  obtain ⟨users,added,same⟩ := bindOk ok
  exact ⟨users,added,(Except.ok.inj same).symm⟩

theorem createEffect (linked : Linked db) (env parentId request actorId) :
    Leaves (createChild env parentId request actorId) db (Effect db) := by
  have stopped : ∀ e : AccountHierarchyError, (fun _ => Effect db) e db := fun _ => .refl db
  refine selectThen stopped (okOrThen (.refl db) (fun parent _ => ?_))
  split
  · exact .fails (.refl db)
  · rename_i user made
    refine writeThen stopped (fun mid inserted => ?_)
    obtain ⟨users,added,rfl⟩ := insertedUser inserted
    obtain ⟨fresh,ids⟩ := insertIds added
    have grown : db.users.ids ⊆ users.ids := by
      rw [ids]
      exact List.subset_append_left _ _
    have created : Effect db {db with users := users} := .unlinked rfl grown
    refine writeThen (fun _ => created) (fun mid related => ?_)
    obtain ⟨known,child,rfl⟩ := insertedRelationship related
    have effect : Effect db {db with users := users, relationships := db.relationships ++
        [AccountRelationship.new parentId user.id actorId env.now]} :=
      .linked rfl grown ⟨known,child⟩ (childUserId made).symm (unknownOrphan linked fresh)
        (unknownLeaf linked fresh parentId)
    split
    · refine writeThen (fun _ => effect) (fun last updated => ?_)
      cases updated
      refine .returns (effect.thenUsers rfl ?_)
      simp [updatePlanIds]
    · exact .returns effect

theorem callEffect (linked : Linked db) (allowed : attachesUpward db call) (fired : fire db call = some db') : Effect db db' := by
  obtain ⟨call,env⟩ := call
  cases Option.some.inj fired
  cases call with
  | attachChild parentId childId actorId =>
    refine Ends.always (Ends.after (attachEffect allowed) ?_ (fun _ _ effect => effect))
    exact fun _ _ effect => Ends.returns effect
  | detachChild parentId childId => exact Ends.always (detachEffect db env parentId childId)
  | createChild parentId request actorId =>
    refine Ends.always (Ends.after (createEffect linked env parentId request actorId) ?_
      (fun _ _ effect => effect))
    exact fun _ _ effect => Ends.returns effect

theorem detachedRow {db : Accounts} (mem : r ∈ (db.detach parentId childId).relationships) (active : r.isActive = true) :
    r ∈ db.relationships := by
  obtain ⟨old,_⟩ | ⟨old,_,_,rfl⟩ := Rows.memUpdate mem
  · exact old
  · cases active

theorem detachedParents (db : Accounts) (parentId childId child) :
    ((db.detach parentId childId).activeParents child).length ≤ (db.activeParents child).length := by
  simp only [Accounts.activeParents,Accounts.detach,Rows.update,← List.countP_eq_length_filter,
    List.countP_map]
  refine List.countP_mono_left ?_
  intro r _ hit
  simp only [Function.comp_apply,Bool.and_eq_true] at hit
  split at hit
  · cases hit.2
  · simpa using hit

theorem linkedEdge {db db' : Accounts} (rels : db'.relationships = db.relationships ++ [rel]) (a b) (edge : db'.Edge a b) :
    Edges.Added db.Edge rel.parentId rel.childId a b := by
  obtain ⟨r,mem,active,parent,child⟩ := edge
  rw [rels] at mem
  rcases List.mem_append.mp mem with old | new
  · exact .inl ⟨r,old,active,parent,child⟩
  · cases List.mem_singleton.mp new
    exact .inr ⟨parent.symm,child.symm⟩

theorem linkedParents {db db' : Accounts}
    (rels : db'.relationships = db.relationships ++ [rel]) (orphan : db.activeParents rel.childId = [])
    (single : ∀ child, (db.activeParents child).length ≤ 1) (child) : (db'.activeParents child).length ≤ 1 := by
  simp only [Accounts.activeParents,rels,List.filter_append,List.length_append] at *
  have bound := single child
  by_cases same : rel.childId = child
  · subst same
    rw [orphan]
    exact Nat.le_trans (Nat.le_of_eq (Nat.zero_add _)) (List.length_filter_le _ _)
  · simpa [same] using bound

theorem linkedStep (linked : Linked db) (allowed : attachesUpward db call) (fired : fire db call = some db') : Linked db' := by
  cases callEffect linked allowed fired with
  | unlinked rels users =>
    refine ⟨⟨?_,?_⟩,?_⟩
    · exact Edges.acyclicMono (fun a b edge => by rwa [Accounts.Edge,rels] at edge) linked.acyclic
    · intro child
      rw [Accounts.activeParents,rels]
      exact linked.single child
    · intro r mem
      obtain ⟨parent,child⟩ := linked.known r (rels ▸ mem)
      exact ⟨users parent,users child⟩
  | linked rels users known different orphan apart =>
    refine ⟨⟨?_,?_⟩,?_⟩
    · exact Edges.acyclicMono (linkedEdge rels) (Edges.addedAcyclic linked.acyclic different apart)
    · exact linkedParents rels orphan linked.single
    · intro r mem
      rw [rels] at mem
      rcases List.mem_append.mp mem with old | new
      · obtain ⟨parent,child⟩ := linked.known r old
        exact ⟨users parent,users child⟩
      · cases List.mem_singleton.mp new
        exact known
  | @cut parentId childId rels users =>
    refine ⟨⟨?_,?_⟩,?_⟩
    · refine Edges.acyclicMono ?_ linked.acyclic
      rintro a b ⟨r,mem,active,ends⟩
      exact ⟨r,detachedRow (rels ▸ mem) active,active,ends⟩
    · intro child
      rw [Accounts.activeParents,rels]
      exact Nat.le_trans (detachedParents db parentId childId child) (linked.single child)
    · intro r mem
      rw [rels] at mem
      obtain ⟨old,_⟩ | ⟨before,old,_,rfl⟩ := Rows.memUpdate mem
      · obtain ⟨parent,child⟩ := linked.known r old
        exact ⟨users parent,users child⟩
      · obtain ⟨parent,child⟩ := linked.known before old
        exact ⟨users parent,users child⟩

theorem linkedEmpty (empty : db.relationships = []) : Linked db where
  acyclic := Edges.acyclicEmpty (by simp [Accounts.Edge,empty])
  single := by simp [Accounts.activeParents,empty]
  known := by simp [empty]

theorem hierarchyForest {db es last} (empty : db.relationships = [])
    (run : Run fire attachesUpward db es last) : Forest last :=
  (run.keeps (fun _ _ _ linked allowed fired => linkedStep linked allowed fired) (linkedEmpty empty)).toForest

def account (id : Uuid) (username : String) (email : String) (role : Role)
    (name : Username.validate username = .ok ()) (mail : Email.validate email = .ok ()) : User :=
  ⟨id,⟨username,name⟩,⟨email,mail⟩,role,none,none,0⟩

def reseller : User := account 1 "reseller" "reseller@panel.test" .admin (by decide) (by decide)
def customer : User := account 2 "customer" "customer@panel.test" .user (by decide) (by decide)
def twoAccounts : Accounts := ⟨[reseller,customer],[]⟩

def crossed : List (Call × Env) := [(.attachChild 1 2 1,{}),(.attachChild 2 1 1,{})]

theorem crossedCycle : twoAccounts.relationships = [] ∧ ∃ last,
    Run fire free twoAccounts crossed last ∧ last.Edge 1 2 ∧ last.Edge 2 1 ∧ ¬ Forest last := by
  obtain ⟨last,run,rels⟩ := replayShows fire free twoAccounts crossed
    (fun db => db.relationships = [AccountRelationship.new 1 2 1 0,AccountRelationship.new 2 1 1 0]) (by decide)
  have down : last.Edge 1 2 := ⟨_,by rw [rels]; exact List.mem_cons_self,rfl,rfl,rfl⟩
  have up : last.Edge 2 1 := ⟨_,by rw [rels]; exact List.mem_cons_of_mem _ List.mem_cons_self,rfl,rfl,rfl⟩
  exact ⟨rfl,last,run,down,up,fun forest => forest.acyclic 1 (.tail (.single down) up)⟩

def attachesLeaves (db : Accounts) : Call × Env → Prop
  | (.attachChild _ childId _,_) => ∀ r ∈ db.relationships, r.isActive = true → r.parentId ≠ childId
  | _ => True

instance (db call) : Decidable (attachesLeaves db call) := by
  unfold attachesLeaves
  split <;> infer_instance

theorem leavesUpward (db) (call) (leaves : attachesLeaves db call) : attachesUpward db call := by
  obtain ⟨call,env⟩ := call
  cases call with
  | attachChild parentId childId actorId =>
    rintro ⟨_,path⟩
    refine Edges.leafEnds ?_ path
    rintro child ⟨r,mem,active,parent,_⟩
    exact leaves r mem active parent
  | detachChild parentId childId => trivial
  | createChild parentId request actorId => trivial

def reversed : List (Call × Env) :=
  [(.attachChild 1 2 1,{}),(.detachChild 1 2,{}),(.attachChild 2 1 1,{}),
    (.createChild 1 ⟨"client","client@panel.test","correct horse battery",.user,none⟩ 1,{newId := 3})]

theorem reversedForest : ∃ last, Run fire attachesUpward twoAccounts reversed last ∧
    last.relationships.length = 3 ∧ Forest last := by
  obtain ⟨last,run,rows⟩ := replayShows fire attachesLeaves twoAccounts reversed (fun db => db.relationships.length = 3) (by decide)
  have run := run.weaken leavesUpward
  exact ⟨last,run,rows,hierarchyForest rfl run⟩

theorem knownFound (known : rootId ∈ Users.ids users) : ∃ root, Users.findById users rootId = some root ∧ root.id = rootId := by
  obtain ⟨user,mem,same⟩ := List.mem_map.mp known
  have found : (Users.findById users rootId).isSome := List.find?_isSome.mpr ⟨user,mem,by simp [same]⟩
  obtain ⟨root,found⟩ := Option.isSome_iff_exists.mp found
  exact ⟨root,found,by simpa using List.find?_some found⟩

section Quiet

variable {env : Env}

theorem execSelect {read : Accounts → α} (quiet : ∀ s, env.fault s = none) :
    exec (env.select s read >>= next) db = exec (next (read db)) db := by
  simp only [Env.select,Env.execute,execBind,execAttempt,quiet]

theorem execWrite (quiet : ∀ s, env.fault s = none)
    (changed : change db = .ok mid) : exec (env.write s change >>= next) db = exec (next ()) mid := by
  simp only [Env.write,Env.execute,execBind,execAttempt,quiet,changed,Except.map]

theorem execRefused (quiet : ∀ s, env.fault s = none) (refused : change db = .error e) :
    exec (env.write s change >>= next) db = (.error (.persistence e.message),db) := by
  simp only [Env.write,Env.execute,execBind,execAttempt,quiet,refused,Except.map]

theorem execFound (found : value = some a) : exec (okOr error value >>= next) db = exec (next a) db := by
  subst found
  rfl

end Quiet

def Accounts.Recorded (db : Accounts) (parentId childId : Uuid) : Prop := ∃ r ∈ db.relationships, r.key = (parentId,childId)

theorem attachSucceeds {db : Accounts} {env : Env} {parentId childId : Uuid} (actorId : Uuid) (quiet : ∀ s, env.fault s = none)
    (different : parentId ≠ childId) (parent : parentId ∈ db.users.ids) (child : childId ∈ db.users.ids)
    (orphan : db.activeParents childId = []) :
    (∃ rel, (exec (attachChild env parentId childId actorId) db).1 = .ok rel) ↔ ¬db.Recorded parentId childId := by
  obtain ⟨_,foundParent,_⟩ := knownFound parent
  obtain ⟨_,foundChild,_⟩ := knownFound child
  have unattached : (db.parentOf childId).isSome = false := by simp [Accounts.parentOf,orphan]
  have climbs : db.pathExists parentId childId = false := by
    simp [Accounts.pathExists,Accounts.climb,orphan,Ne.symm different]
  rw [attachChild,if_neg different,execSelect quiet,execFound foundParent,execSelect quiet,execFound foundChild,
    execSelect quiet,if_neg (by simp [unattached]),execSelect quiet,if_neg (by simp [climbs])]
  by_cases recorded : db.Recorded parentId childId
  · have taken : db.relationships.any (fun r => r.key == (parentId,childId)) = true := by
      simpa [Accounts.Recorded] using recorded
    rw [execRefused quiet (if_pos taken)]
    simpa using recorded
  · have free : ¬db.relationships.any (fun r => r.key == (parentId,childId)) = true := by
      simpa [Accounts.Recorded] using recorded
    rw [execWrite quiet ((if_neg free).trans (if_neg (by simp [AccountRelationship.new,parent,child])))]
    refine ⟨fun _ => recorded,fun _ => ⟨AccountRelationship.new parentId childId actorId env.now,?_⟩⟩
    simp only [Env.write,Env.execute,execBind,execAttempt,quiet,Except.map]
    rfl

theorem attachFresh : ∃ rel, (exec (attachChild {} 1 2 1) twoAccounts).1 = .ok rel :=
  (attachSucceeds 1 (fun _ => rfl) (by decide) (by decide) (by decide) rfl).mpr (by simp [Accounts.Recorded,twoAccounts])

def attachedDetached : List (Call × Env) := [(.attachChild 1 2 1,{}),(.detachChild 1 2,{})]

theorem attachAgainFails : ∃ last, Run fire free twoAccounts attachedDetached last ∧ last.activeParents 2 = [] ∧
    ¬TransGen last.Edge 2 1 ∧ (exec (attachChild {} 1 2 1) last).1 =
      .error (.persistence "UNIQUE constraint failed: account_relationships.parent_id, account_relationships.child_id") := by
  obtain ⟨last,run,rows,orphan,refused⟩ := replayShows fire free twoAccounts attachedDetached (fun db =>
    (∀ r ∈ db.relationships, r.isActive = false) ∧ db.activeParents 2 = [] ∧ (exec (attachChild {} 1 2 1) db).1 =
      .error (.persistence "UNIQUE constraint failed: account_relationships.parent_id, account_relationships.child_id")) (by decide)
  refine ⟨last,run,orphan,Edges.leafEnds ?_,refused⟩
  rintro child ⟨r,mem,active,_⟩
  exact absurd (active.symm.trans (rows r mem)) nofun

end OpenPanel.Hierarchy
