import OpenPanel.Fallible
import OpenPanel.Users

/-! Parent and child accounts: the relationship table and the calls that write it.
Rows are written by these calls alone, so reading one back does not fail and is
left out, as are the audit writes. Every statement may fail. -/
namespace OpenPanel.Hierarchy
open Fallible Identity

inductive HierarchyStatus where | active | detached deriving DecidableEq

structure AccountRelationship where
  parentId : Uuid
  childId : Uuid
  createdAt : DateTime
  createdBy : Uuid
  status : HierarchyStatus
  deriving DecidableEq

def AccountRelationship.new (parentId childId createdBy : Uuid) (now : DateTime) : AccountRelationship :=
  ⟨parentId,childId,now,createdBy,.active⟩

def AccountRelationship.isActive (r : AccountRelationship) : Bool := r.status == .active

def AccountRelationship.key (r : AccountRelationship) : Uuid × Uuid := (r.parentId,r.childId)

inductive AccountHierarchyError where
  | cycle
  | alreadyAttached
  | userNotFound
  | invalidPoolTotal
  | invalidClaim
  | poolExhausted
  | poolNotFound
  | forbidden
  | persistence (detail : String)
  deriving DecidableEq

def AccountHierarchyError.message : AccountHierarchyError → String
  | .cycle => "account hierarchy cycle detected"
  | .alreadyAttached => "user already has a parent"
  | .userNotFound => "user not found"
  | .invalidPoolTotal => "pool total must be > 0"
  | .invalidClaim => "claim share must be > 0"
  | .poolExhausted => "pool exhausted"
  | .poolNotFound => "pool not found"
  | .forbidden => "permission denied"
  | .persistence detail => "account hierarchy persistence error: " ++ detail

structure Accounts where
  users : Users
  relationships : List AccountRelationship

def Accounts.activeParents (db : Accounts) (child : Uuid) : List AccountRelationship :=
  db.relationships.filter (fun r => r.childId == child && r.isActive)

-- `ORDER BY created_at DESC LIMIT 1`.
def Accounts.parentOf (db : Accounts) (child : Uuid) : Option AccountRelationship :=
  ((db.activeParents child).insertionSort (fun a b => b.createdAt ≤ a.createdAt)).head?

/-- `path_exists` from `current` on, with the iterations left before the depth
guard ends the walk. Its query has no order; it takes the first row here. -/
def Accounts.climb (db : Accounts) (ancestor : Uuid) : Nat → Uuid → Bool
  | 0,current => current == ancestor
  | left + 1,current =>
    if current = ancestor then true
    else match (db.activeParents current).head? with
      | some row => db.climb ancestor left row.parentId
      | none => false

def Accounts.pathExists (db : Accounts) (ancestor descendant : Uuid) : Bool :=
  db.climb ancestor 1025 descendant

def Accounts.insertRelationship (db : Accounts) (rel : AccountRelationship) : Except DbError Accounts :=
  if db.relationships.any (fun r => r.key == rel.key) then
    .error (.unique "account_relationships.parent_id, account_relationships.child_id")
  else if rel.parentId ∉ db.users.ids ∨ rel.childId ∉ db.users.ids then .error .foreignKey
  else .ok {db with relationships := db.relationships ++ [rel]}

def Accounts.detach (db : Accounts) (parentId childId : Uuid) : Accounts :=
  let mark (r : AccountRelationship) : AccountRelationship := {r with status := .detached}
  {db with relationships := Rows.update AccountRelationship.key (parentId,childId) mark db.relationships}

inductive Statement where
  | findParent | findChild | parentOf | pathExists | insertRelationship | updateParentAccountId
  | detach | insertUser | updateHostingPlanId

/-- What a call meets: the clock, the identifier `Uuid::new_v4` returns, and the
statements that fail, with the text they fail with. -/
structure Env where
  now : DateTime := 0
  newId : Uuid := 0
  fault : Statement → Option String := fun _ => none

abbrev Service := Prog Accounts AccountHierarchyError

def Env.execute (env : Env) (s : Statement) {α : Type} (run : Accounts → Except DbError (α × Accounts)) :
    Service α :=
  attempt (fun db => match env.fault s with
    | some message => .error (.persistence message)
    | none => match run db with
      | .error e => .error (.persistence e.message)
      | .ok done => .ok done)

def Env.select (env : Env) (s : Statement) {α : Type} (read : Accounts → α) : Service α :=
  env.execute s (fun db => .ok (read db,db))

def Env.write (env : Env) (s : Statement) (change : Accounts → Except DbError Accounts) : Service Unit :=
  env.execute s (fun db => (change db).map (fun next => ((),next)))

def okOr {α : Type} (error : AccountHierarchyError) : Option α → Service α
  | some a => pure a
  | none => throw error

def attachChild (env : Env) (parentId childId actorId : Uuid) : Service AccountRelationship :=
  if parentId = childId then throw .cycle else do
    let parent ← env.select .findParent (fun db => db.users.findById parentId)
    let _ ← okOr .userNotFound parent
    let child ← env.select .findChild (fun db => db.users.findById childId)
    let _ ← okOr .userNotFound child
    let existing ← env.select .parentOf (fun db => db.parentOf childId)
    if existing.isSome then throw .alreadyAttached else do
      let cyclic ← env.select .pathExists (fun db => db.pathExists parentId childId)
      if cyclic then throw .cycle else do
        let rel := AccountRelationship.new parentId childId actorId env.now
        env.write .insertRelationship (fun db => db.insertRelationship rel)
        env.write .updateParentAccountId
          (fun db => .ok {db with users := db.users.updateParentAccountId childId (some parentId)})
        pure rel

def detachChild (env : Env) (parentId childId : Uuid) : Service Unit := do
  let existing ← env.select .parentOf (fun db => db.parentOf childId)
  let rel ← okOr .userNotFound existing
  if rel.parentId ≠ parentId then throw .userNotFound else do
    env.write .detach (fun db => .ok (db.detach parentId childId))
    env.write .updateParentAccountId
      (fun db => .ok {db with users := db.users.updateParentAccountId childId none})

structure CreateChildRequest where
  username : String
  email : String
  password : String
  role : Role
  initialPlanId : Option Uuid

def canCreateChild : Role → Role → Bool
  | .owner,.admin | .owner,.user | .admin,.user => true
  | _,_ => false

def mapIdentityErr : IdentityError → AccountHierarchyError
  | .parentAccountCycle => .cycle

def childUser (env : Env) (parentId : Uuid) (parentRole : Role) (request : CreateChildRequest) :
    Except AccountHierarchyError User :=
  if canCreateChild parentRole request.role = false then .error .forbidden
  else match Password.hash request.password with
  | .error _ => .error (.persistence "password too short")
  | .ok () => match Username.new request.username with
    | .error e => .error (.persistence e.message)
    | .ok username => match Email.new request.email with
      | .error detail => .error (.persistence detail)
      | .ok email => match User.newWithParents env.newId username email request.role
          (some parentId) request.initialPlanId env.now with
        | .error e => .error (mapIdentityErr e)
        | .ok user => .ok user

def createChild (env : Env) (parentId : Uuid) (request : CreateChildRequest) (actorId : Uuid) :
    Service User := do
  let found ← env.select .findParent (fun db => db.users.findById parentId)
  let parent ← okOr .userNotFound found
  match childUser env parentId parent.role request with
  | .error e => throw e
  | .ok user => do
    env.write .insertUser (fun db => do .ok {db with users := ← db.users.insert user})
    let rel := AccountRelationship.new parentId user.id actorId env.now
    env.write .insertRelationship (fun db => db.insertRelationship rel)
    match request.initialPlanId with
    | some planId =>
      env.write .updateHostingPlanId
        (fun db => .ok {db with users := db.users.updateHostingPlanId user.id (some planId)})
    | none => pure ()
    pure user

inductive Call where
  | attachChild (parentId childId actorId : Uuid)
  | detachChild (parentId childId : Uuid)
  | createChild (parentId : Uuid) (request : CreateChildRequest) (actorId : Uuid)

def Call.perform (env : Env) : Call → Service Unit
  | .attachChild parentId childId actorId => do let _ ← Hierarchy.attachChild env parentId childId actorId
  | .detachChild parentId childId => Hierarchy.detachChild env parentId childId
  | .createChild parentId request actorId => do let _ ← Hierarchy.createChild env parentId request actorId

def fire (db : Accounts) (call : Call × Env) : Option Accounts := some (exec (call.1.perform call.2) db).2

end OpenPanel.Hierarchy
