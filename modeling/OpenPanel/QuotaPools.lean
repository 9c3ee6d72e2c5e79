import OpenPanel.AccountHierarchy
import OpenPanel.CallPool
import Mathlib.Algebra.Order.BigOperators.Group.List
import Mathlib.Algebra.Ring.Int.Defs

/-! Quota pools a parent declares and the shares its children claim, one step for
each statement. Totals and shares are `u64`, written with `as i64` and read with `as u64`.
`claim_pool` reads, sums and inserts; `set_pool` does not look at the claims. -/
namespace OpenPanel.QuotaPools
open CallPool GuardedRun Hierarchy

abbrev U64 := BitVec 64

inductive PoolAxis where
  | diskBytes | bandwidthBytesPerMonth | maxChildAccounts
  deriving DecidableEq

structure QuotaPool where
  parentId : Uuid
  axis : PoolAxis
  totalBytes : U64
  updatedAt : DateTime

def QuotaPool.new (parentId : Uuid) (axis : PoolAxis) (totalBytes : U64) (now : DateTime) :
    Except AccountHierarchyError QuotaPool :=
  if totalBytes = 0 then .error .invalidPoolTotal else .ok ⟨parentId,axis,totalBytes,now⟩

structure PoolClaim where
  parentId : Uuid
  childId : Uuid
  axis : PoolAxis
  shareBytes : U64
  claimedAt : DateTime

def PoolClaim.new (parentId childId : Uuid) (axis : PoolAxis) (shareBytes : U64) (now : DateTime) :
    Except AccountHierarchyError PoolClaim :=
  if shareBytes = 0 then .error .invalidClaim else .ok ⟨parentId,childId,axis,shareBytes,now⟩

def saturatingAdd (a b : U64) : Nat := min (a.toNat + b.toNat) (2 ^ 64 - 1)

def checkPoolClaim (poolTotal currentClaimed requested : U64) : Except AccountHierarchyError Unit :=
  if saturatingAdd currentClaimed requested > poolTotal.toNat then .error .poolExhausted else .ok ()

structure PoolRow where
  parentId : Uuid
  axis : PoolAxis
  totalBytes : Int
  updatedAt : DateTime

structure ClaimRow where
  parentId : Uuid
  childId : Uuid
  axis : PoolAxis
  shareBytes : Int
  claimedAt : DateTime

abbrev PoolKey := Uuid × PoolAxis
def PoolRow.key (r : PoolRow) : PoolKey := (r.parentId,r.axis)
def ClaimRow.pool (r : ClaimRow) : PoolKey := (r.parentId,r.axis)
def ClaimRow.key (r : ClaimRow) : Uuid × Uuid × PoolAxis := (r.parentId,r.childId,r.axis)

structure Db where
  users : List Uuid
  pools : List PoolRow
  claims : List ClaimRow

def PoolRow.intoPool (r : PoolRow) : Except AccountHierarchyError QuotaPool :=
  QuotaPool.new r.parentId r.axis (BitVec.ofInt 64 r.totalBytes) r.updatedAt

def Db.upsertPool (db : Db) (pool : QuotaPool) : Except DbError Db :=
  let total := pool.totalBytes.toInt
  if db.pools.any (fun r => r.key == (pool.parentId,pool.axis)) then
    let write (r : PoolRow) : PoolRow := {r with totalBytes := total, updatedAt := pool.updatedAt}
    .ok {db with pools := Rows.update PoolRow.key (pool.parentId,pool.axis) write db.pools}
  else if pool.parentId ∉ db.users then .error .foreignKey
  else .ok {db with pools := db.pools ++ [⟨pool.parentId,pool.axis,total,pool.updatedAt⟩]}

-- `ORDER BY axis`, over the text the column holds.
def PoolAxis.rank : PoolAxis → Nat
  | .bandwidthBytesPerMonth => 0
  | .diskBytes => 1
  | .maxChildAccounts => 2

def Db.poolsOf (db : Db) (parentId : Uuid) : Except AccountHierarchyError (List QuotaPool) :=
  ((db.pools.filter (fun r => r.parentId == parentId)).insertionSort
    (fun a b => a.axis.rank ≤ b.axis.rank)).mapM PoolRow.intoPool

def Db.sharesOf (db : Db) (key : PoolKey) : List Int :=
  (db.claims.filter (fun r => r.pool == key)).map ClaimRow.shareBytes

-- `SUM` stops with an error when the running sum leaves the integer range.
def sumI64 (acc : Int) : List Int → Option Int
  | [] => some acc
  | x::xs => if -2 ^ 63 ≤ acc + x ∧ acc + x < 2 ^ 63 then sumI64 (acc + x) xs else none

def Db.poolUsage (db : Db) (key : PoolKey) : Except DbError U64 :=
  match sumI64 0 (db.sharesOf key) with
  | none => .error (.fault "integer overflow")
  | some sum => .ok (BitVec.ofInt 64 sum)

def Db.insertClaim (db : Db) (claim : PoolClaim) : Except DbError Db :=
  let row : ClaimRow :=
    ⟨claim.parentId,claim.childId,claim.axis,claim.shareBytes.toInt,claim.claimedAt⟩
  if db.claims.any (fun r => r.key == row.key) then
    .error (.unique "pool_claims.parent_id, pool_claims.child_id, pool_claims.axis")
  else if claim.parentId ∉ db.users ∨ claim.childId ∉ db.users then .error .foreignKey
  else .ok {db with claims := db.claims ++ [row]}

def Db.removeClaim (db : Db) (parentId childId : Uuid) (axis : PoolAxis) : Db :=
  {db with claims := Rows.delete ClaimRow.key (parentId,childId,axis) db.claims}

inductive Result where
  | pool (pool : QuotaPool)
  | claim (claim : PoolClaim)
  | released
  | failed (error : AccountHierarchyError)

inductive Pc where
  | setPool (parentId : Uuid) (axis : PoolAxis) (totalBytes : U64)
  | claimPool (parentId childId : Uuid) (axis : PoolAxis) (shareBytes : U64)
  | poolUsage (parentId childId : Uuid) (axis : PoolAxis) (shareBytes totalBytes : U64)
  | insertClaim (claim : PoolClaim)
  | releaseClaim (parentId childId : Uuid) (axis : PoolAxis)
  | done (result : Result)

structure Env where
  now : DateTime := 0
  fault : Option String := none

def entry : Pc → Bool
  | .setPool .. | .claimPool .. | .releaseClaim .. => true
  | _ => false

def fail (error : AccountHierarchyError) : Pc := .done (.failed error)

-- `find(|p| p.axis() == axis)` over the pools of the parent.
def findPool (axis : PoolAxis) (pools : List QuotaPool) : Except AccountHierarchyError QuotaPool :=
  match pools.find? (fun p => p.axis == axis) with
  | some pool => .ok pool
  | none => .error .poolNotFound

def statement (db : Db) (now : DateTime) : Pc → Option (Db × Pc)
  | .setPool parentId axis totalBytes =>
    match QuotaPool.new parentId axis totalBytes now with
    | .error e => some (db,fail e)
    | .ok pool => match db.upsertPool pool with
      | .error e => some (db,fail (.persistence e.message))
      | .ok db => some (db,.done (.pool pool))
  | .claimPool parentId childId axis shareBytes =>
    match (do findPool axis (← db.poolsOf parentId)) with
    | .error e => some (db,fail e)
    | .ok pool => some (db,.poolUsage parentId childId axis shareBytes pool.totalBytes)
  | .poolUsage parentId childId axis shareBytes totalBytes =>
    match db.poolUsage (parentId,axis) with
    | .error e => some (db,fail (.persistence e.message))
    | .ok used => match checkPoolClaim totalBytes used shareBytes with
      | .error e => some (db,fail e)
      | .ok () => match PoolClaim.new parentId childId axis shareBytes now with
        | .error e => some (db,fail e)
        | .ok claim => some (db,.insertClaim claim)
  | .insertClaim claim =>
    match db.insertClaim claim with
    | .error e => some (db,fail (.persistence e.message))
    | .ok db => some (db,.done (.claim claim))
  | .releaseClaim parentId childId axis => some (db.removeClaim parentId childId axis,.done .released)
  | .done _ => none

def step (db : Db) (pc : Pc) (env : Env) : Option (Db × Pc) :=
  match pc,env.fault with
  | .done _,_ => none
  | .setPool _ _ 0,_ => some (db,fail .invalidPoolTotal)
  | _,some message => some (db,fail (.persistence message))
  | pc,none => statement db env.now pc

def machine : Machine Db Pc Env := ⟨entry,step⟩

end OpenPanel.QuotaPools
