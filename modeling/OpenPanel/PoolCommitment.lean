import OpenPanel.QuotaPools

/-! What the children hold against what their parent grants. Two claims that both
sum before either inserts can exceed the pool, and a total can be stored below what is
claimed, or beyond its column's range. Without these, shares never exceed the total. -/
namespace OpenPanel.QuotaPools
open CallPool GuardedRun Hierarchy

def Db.claimed (db : Db) (key : PoolKey) : Int := (db.sharesOf key).sum

def Pc.inspects : Pc → Option PoolKey
  | .poolUsage parentId _ axis _ _ => some (parentId,axis)
  | .insertClaim claim => some (claim.parentId,claim.axis)
  | _ => none

def Pc.summed : Pc → Option PoolKey
  | .insertClaim claim => some (claim.parentId,claim.axis)
  | _ => none

def ordered : Discipline Db Pc Env where
  alone db pc _ := match pc with
    | .setPool parentId axis total =>
      total.toNat < 2 ^ 63 ∧ db.claimed (parentId,axis) ≤ total.toNat
    | _ => True
  beside db pc _ other := match pc with
    | .setPool parentId axis total => other.inspects = some (parentId,axis) →
      ∀ p ∈ db.pools, p.key = (parentId,axis) → p.totalBytes ≤ total.toNat
    | .insertClaim claim => other.summed ≠ some (claim.parentId,claim.axis)
    | _ => True

instance (db pc env) : Decidable (ordered.alone db pc env) := by
  unfold ordered
  cases pc <;> exact inferInstance

instance (db pc env other) : Decidable (ordered.beside db pc env other) := by
  unfold ordered
  cases pc <;> exact inferInstance

structure Sound (db : Db) : Prop where
  unique : Rows.Unique PoolRow.key db.pools
  totals : ∀ p ∈ db.pools, 0 ≤ p.totalBytes ∧ p.totalBytes < 2 ^ 63
  shares : ∀ c ∈ db.claims, 0 ≤ c.shareBytes
  committed : ∀ p ∈ db.pools, db.claimed p.key ≤ p.totalBytes

def Room (db : Db) (key : PoolKey) (bytes : Int) : Prop := ∃ p ∈ db.pools, p.key = key ∧ bytes ≤ p.totalBytes

def poolsOutline : Outline Db Pc where
  shared := Sound
  point db pc := match pc with
    | .poolUsage parentId _ axis _ total => Room db (parentId,axis) total.toNat
    | .insertClaim claim => 0 ≤ claim.shareBytes.toInt ∧
        Room db (claim.parentId,claim.axis) (db.claimed (claim.parentId,claim.axis) + claim.shareBytes.toInt)
    | _ => True
  pair _ _ := True

inductive Effect (db : Db) : Pc → Db → Pc → Prop where
  | stopped {pc result} : Effect db pc db (.done result)
  | readPool {parentId childId axis share row} (mem : row ∈ db.pools) (key : row.key = (parentId,axis)) :
      Effect db (.claimPool parentId childId axis share) db
        (.poolUsage parentId childId axis share (BitVec.ofInt 64 row.totalBytes))
  | sum {parentId childId axis share total claim used}
      (summed : sumI64 0 (db.sharesOf (parentId,axis)) = some used)
      (fits : saturatingAdd (BitVec.ofInt 64 used) share ≤ total.toNat)
      (made : claim.parentId = parentId ∧ claim.axis = axis ∧ claim.shareBytes = share) :
      Effect db (.poolUsage parentId childId axis share total) db (.insertClaim claim)
  | set {parentId axis total now db' result} (stored : db.upsertPool ⟨parentId,axis,total,now⟩ = .ok db') :
      Effect db (.setPool parentId axis total) db' (.done result)
  | insert {claim db' result} (stored : db.insertClaim claim = .ok db') :
      Effect db (.insertClaim claim) db' (.done result)
  | release {parentId childId axis result} :
      Effect db (.releaseClaim parentId childId axis) (db.removeClaim parentId childId axis) (.done result)

theorem mapMMem {f : PoolRow → Except AccountHierarchyError QuotaPool} {rows : List PoolRow}
    (ok : rows.mapM f = .ok pools) (mem : p ∈ pools) : ∃ r ∈ rows, f r = .ok p := by
  induction rows generalizing pools with
  | nil =>
    cases ok
    cases mem
  | cons r rest ih =>
    rw [List.mapM_cons] at ok
    obtain ⟨first,head,ok⟩ := Fallible.bindOk ok
    obtain ⟨others,tail,ok⟩ := Fallible.bindOk ok
    cases ok
    rcases List.mem_cons.mp mem with rfl | later
    · exact ⟨r,List.mem_cons_self,head⟩
    · obtain ⟨row,inside,made⟩ := ih tail later
      exact ⟨row,List.mem_cons_of_mem _ inside,made⟩

theorem intoPoolFields {r : PoolRow} (ok : r.intoPool = .ok pool) :
    pool = ⟨r.parentId,r.axis,BitVec.ofInt 64 r.totalBytes,r.updatedAt⟩ := by
  unfold PoolRow.intoPool QuotaPool.new at ok
  split at ok <;> cases ok
  rfl

theorem foundPool {db : Db} (ok : (do findPool axis (← db.poolsOf parentId)) = .ok pool) :
    ∃ row ∈ db.pools, row.key = (parentId,axis) ∧ pool.totalBytes = BitVec.ofInt 64 row.totalBytes := by
  obtain ⟨pools,listed,ok⟩ := Fallible.bindOk ok
  simp only [findPool] at ok
  split at ok <;> cases ok
  rename_i found
  obtain ⟨row,mem,made⟩ := mapMMem listed (List.mem_of_find?_eq_some found)
  rw [List.mem_insertionSort,List.mem_filter] at mem
  have same := intoPoolFields made
  have axisOf := List.find?_some found
  subst same
  simp only [beq_iff_eq] at mem axisOf
  exact ⟨row,mem.1,by rw [PoolRow.key,mem.2,axisOf],rfl⟩

theorem statementEffect (ok : statement db now pc = some (db',pc')) : Effect db pc db' pc' := by
  cases pc with
  | setPool parentId axis total =>
    simp only [statement] at ok
    split at ok
    · cases ok
      exact .stopped
    · rename_i made
      unfold QuotaPool.new at made
      split at made <;> cases made
      split at ok <;> cases ok
      · exact .stopped
      · rename_i stored
        exact .set stored
  | claimPool parentId childId axis share =>
    simp only [statement] at ok
    split at ok <;> cases ok
    · exact .stopped
    · rename_i found
      obtain ⟨row,mem,key,total⟩ := foundPool found
      rw [total]
      exact .readPool mem key
  | poolUsage parentId childId axis share total =>
    simp only [statement] at ok
    split at ok
    · cases ok
      exact .stopped
    · rename_i used read
      unfold Db.poolUsage at read
      split at read <;> cases read
      rename_i summed
      split at ok
      · cases ok
        exact .stopped
      · rename_i fits
        unfold checkPoolClaim at fits
        split at fits <;> cases fits
        rename_i fits
        split at ok <;> cases ok
        · exact .stopped
        · rename_i made
          unfold PoolClaim.new at made
          split at made <;> cases made
          exact .sum summed (Nat.not_lt.mp fits) ⟨rfl,rfl,rfl⟩
  | insertClaim claim =>
    simp only [statement] at ok
    split at ok <;> cases ok
    · exact .stopped
    · rename_i stored
      exact .insert stored
  | releaseClaim parentId childId axis =>
    cases ok
    exact .release
  | done result => cases ok

theorem effect (ok : step db pc env = some (db',pc')) : Effect db pc db' pc' := by
  unfold step at ok
  split at ok
  · contradiction
  · cases ok
    exact .stopped
  · cases ok
    exact .stopped
  · exact statementEffect ok

theorem summedValue (summed : sumI64 acc xs = some used) : used = acc + xs.sum := by
  induction xs generalizing acc with
  | nil => simpa [sumI64] using summed.symm
  | cons x rest ih =>
    simp only [sumI64] at summed
    split at summed <;> try contradiction
    rw [ih summed,List.sum_cons]
    omega

theorem ofIntValue (low : 0 ≤ v) (high : v < 2 ^ 63) : ((BitVec.ofInt 64 v).toNat : Int) = v := by
  rw [BitVec.toNat_ofInt]
  omega

theorem toIntValue {share : U64} (small : share.toNat < 2 ^ 63) : share.toInt = share.toNat := by
  rw [BitVec.toInt_eq_toNat_cond]
  split <;> omega

theorem claimedNonneg (sound : Sound db) (key) : 0 ≤ db.claimed key := by
  refine List.sum_nonneg ?_
  intro x mem
  obtain ⟨row,inside,rfl⟩ := List.mem_map.mp mem
  exact sound.shares row (List.mem_filter.mp inside).1

theorem checkedFits (sound : Sound db) {share total : U64} (summed : sumI64 0 (db.sharesOf key) = some used)
    (fits : saturatingAdd (BitVec.ofInt 64 used) share ≤ total.toNat) (room : Room db key total.toNat) :
    0 ≤ share.toInt ∧ Room db key (db.claimed key + share.toInt) := by
  obtain ⟨p,mem,same,enough⟩ := room
  have value : used = db.claimed key := by simpa [Db.claimed] using summedValue summed
  have limit := sound.totals p mem
  have bound := sound.committed p mem
  rw [same] at bound
  have exact64 := ofIntValue (claimedNonneg sound key) (by omega)
  rw [value] at fits
  unfold saturatingAdd at fits
  have stored : share.toInt = share.toNat := toIntValue (by omega)
  exact ⟨by omega,p,mem,same,by omega⟩

theorem upserted {db db' : Db} (ok : db.upsertPool pool = .ok db') : db'.claims = db.claims ∧
    ((∃ write : PoolRow → PoolRow, (∀ r, (write r).key = r.key ∧ (write r).totalBytes = pool.totalBytes.toInt) ∧
      db'.pools = Rows.update PoolRow.key (pool.parentId,pool.axis) write db.pools) ∨
    (∃ row : PoolRow, row.key = (pool.parentId,pool.axis) ∧ row.totalBytes = pool.totalBytes.toInt ∧
      (∀ old ∈ db.pools, old.key ≠ row.key) ∧ db'.pools = db.pools ++ [row])) := by
  unfold Db.upsertPool at ok
  split at ok
  · cases ok
    refine ⟨rfl,.inl ⟨_,?_,rfl⟩⟩
    exact fun _ => ⟨rfl,rfl⟩
  · rename_i absent
    split at ok <;> cases ok
    refine ⟨rfl,.inr ⟨_,rfl,rfl,?_,rfl⟩⟩
    intro old mem same
    exact absent (List.any_eq_true.mpr ⟨old,mem,by simpa [PoolRow.key] using same⟩)

theorem memUpserted {db db' : Db} (ok : db.upsertPool pool = .ok db')
    (mem : p ∈ db'.pools) : (p ∈ db.pools ∧ p.key ≠ (pool.parentId,pool.axis)) ∨
      (p.key = (pool.parentId,pool.axis) ∧ p.totalBytes = pool.totalBytes.toInt) := by
  obtain ⟨_,⟨write,fields,pools⟩ | ⟨row,key,total,fresh,pools⟩⟩ := upserted ok
  · rw [pools] at mem
    obtain old | ⟨r,_,hit,rfl⟩ := Rows.memUpdate mem
    · exact .inl old
    · exact .inr ⟨(fields r).1.trans hit,(fields r).2⟩
  · rw [pools] at mem
    rcases List.mem_append.mp mem with old | new
    · exact .inl ⟨old,key ▸ fresh p old⟩
    · cases List.mem_singleton.mp new
      exact .inr ⟨key,total⟩

theorem claimedSame {db db' : Db} (claims : db'.claims = db.claims) (key) : db'.claimed key = db.claimed key := by
  simp only [Db.claimed,Db.sharesOf,claims]

theorem soundSet (sound : Sound db) (ok : db.upsertPool ⟨parentId,axis,total,now⟩ = .ok db') (small : total.toNat < 2 ^ 63)
    (covers : db.claimed (parentId,axis) ≤ total.toNat) : Sound db' := by
  have claims := (upserted ok).1
  have stored := toIntValue small
  refine ⟨?_,?_,claims ▸ sound.shares,?_⟩
  · obtain ⟨_,⟨write,fields,pools⟩ | ⟨row,_,_,fresh,pools⟩⟩ := upserted ok
    · rw [pools]
      exact Rows.updateUnique sound.unique (fun r _ => (fields r).1)
    · rw [pools]
      exact Rows.insertUnique sound.unique fresh
  · intro p mem
    obtain ⟨old,_⟩ | ⟨_,value⟩ := memUpserted ok mem
    · exact sound.totals p old
    · rw [value]
      dsimp only
      omega
  · intro p mem
    rw [claimedSame claims]
    obtain ⟨old,_⟩ | ⟨key,value⟩ := memUpserted ok mem
    · exact sound.committed p old
    · rw [key,value]
      dsimp only
      omega

theorem roomSet (ok : db.upsertPool ⟨parentId,axis,total,now⟩ = .ok db') (small : total.toNat < 2 ^ 63)
    (raised : key = (parentId,axis) → ∀ p ∈ db.pools, p.key = (parentId,axis) → p.totalBytes ≤ total.toNat)
    (room : Room db key bytes) : Room db' key bytes := by
  obtain ⟨p,mem,same,enough⟩ := room
  have stored := toIntValue small
  obtain ⟨_,⟨write,fields,pools⟩ | ⟨row,_,_,_,pools⟩⟩ := upserted ok
  · by_cases hit : p.key = (parentId,axis)
    · refine ⟨write p,pools ▸ Rows.updateHit mem hit,(fields p).1.trans same,?_⟩
      have low := raised (same.symm.trans hit) p mem hit
      rw [(fields p).2]
      dsimp only
      omega
    · exact ⟨p,pools ▸ Rows.updateOther mem hit,same,enough⟩
  · exact ⟨p,pools ▸ List.mem_append_left _ mem,same,enough⟩

theorem insertedClaim {db db' : Db} (ok : db.insertClaim claim = .ok db') : db'.pools = db.pools ∧ db'.claims = db.claims ++
      [⟨claim.parentId,claim.childId,claim.axis,claim.shareBytes.toInt,claim.claimedAt⟩] := by
  unfold Db.insertClaim at ok
  dsimp only at ok
  split at ok <;> try contradiction
  split at ok <;> cases ok
  exact ⟨rfl,rfl⟩

theorem claimedInsert {db db' : Db} (ok : db.insertClaim claim = .ok db') (key) : db'.claimed key = db.claimed key +
      (if (claim.parentId,claim.axis) = key then claim.shareBytes.toInt else 0) := by
  obtain ⟨_,claims⟩ := insertedClaim ok
  simp only [Db.claimed,Db.sharesOf,claims,List.filter_append,List.map_append,List.sum_append]
  split
  · rename_i hit
    simp [ClaimRow.pool,hit]
  · rename_i miss
    simp [ClaimRow.pool,miss]

theorem soundInsert (sound : Sound db) (ok : db.insertClaim claim = .ok db') (positive : 0 ≤ claim.shareBytes.toInt)
    (room : Room db (claim.parentId,claim.axis) (db.claimed (claim.parentId,claim.axis) + claim.shareBytes.toInt)) : Sound db' := by
  obtain ⟨pools,claims⟩ := insertedClaim ok
  refine ⟨pools ▸ sound.unique,pools ▸ sound.totals,?_,?_⟩
  · intro c mem
    rw [claims] at mem
    rcases List.mem_append.mp mem with old | new
    · exact sound.shares c old
    · cases List.mem_singleton.mp new
      exact positive
  · intro p mem
    rw [pools] at mem
    rw [claimedInsert ok]
    have before := sound.committed p mem
    split
    · rename_i hit
      obtain ⟨q,inside,same,enough⟩ := room
      cases Rows.equalOfKey sound.unique inside mem (same.trans hit)
      rwa [hit] at enough
    · omega

theorem claimedRemove (sound : Sound db) (parentId childId axis key) :
    (db.removeClaim parentId childId axis).claimed key ≤ db.claimed key := by
  refine List.Sublist.sum_le_sum ((List.filter_sublist.filter _).map _) ?_
  intro x mem
  obtain ⟨row,inside,rfl⟩ := List.mem_map.mp mem
  exact sound.shares row (List.mem_filter.mp inside).1

theorem soundRemove (sound : Sound db) (parentId childId axis) : Sound (db.removeClaim parentId childId axis) := by
  refine ⟨sound.unique,sound.totals,?_,?_⟩
  · intro c mem
    exact sound.shares c (Rows.memDelete.mp mem).1
  · intro p mem
    exact Int.le_trans (claimedRemove sound parentId childId axis p.key) (sound.committed p mem)

theorem roomLess (room : Room db key more) (smaller : less ≤ more) : Room db key less := by
  obtain ⟨p,mem,same,enough⟩ := room
  exact ⟨p,mem,same,Int.le_trans smaller enough⟩

theorem roomSame (pools : db'.pools = db.pools) (room : Room db key bytes) : Room db' key bytes := by
  unfold Room
  rw [pools]
  exact room

theorem poolsSound : poolsOutline.Sound machine ordered where
  symm _ _ _ := trivial
  start _ pc h := by cases pc <;> first | contradiction | trivial
  startPair _ _ _ _ _ := trivial
  own db pc env db' pc' sound here allowed ok := by
    cases effect ok with
    | stopped => exact ⟨sound,trivial⟩
    | @readPool parentId childId axis share row mem key =>
      have limit := sound.totals row mem
      exact ⟨sound,row,mem,key,Int.le_of_eq (ofIntValue limit.1 limit.2)⟩
    | @sum parentId childId axis share total claim used summed fits made =>
      obtain ⟨rfl,rfl,rfl⟩ := made
      exact ⟨sound,checkedFits sound summed fits here⟩
    | set stored => exact ⟨soundSet sound stored allowed.1 allowed.2,trivial⟩
    | insert stored => exact ⟨soundInsert sound stored here.1 here.2,trivial⟩
    | release => exact ⟨soundRemove sound _ _ _,trivial⟩
  other db pc env db' pc' q sound here theirs _ allowed beside ok := by
    refine ⟨?_,trivial⟩
    cases effect ok with
    | stopped => exact theirs
    | readPool _ _ => exact theirs
    | sum _ _ _ => exact theirs
    | set stored =>
      cases q with
      | poolUsage parentId childId axis share total =>
        exact roomSet stored allowed.1 (fun same => beside (congrArg some same)) theirs
      | insertClaim claim =>
        refine ⟨theirs.1,?_⟩
        rw [claimedSame (upserted stored).1]
        exact roomSet stored allowed.1 (fun same => beside (congrArg some same)) theirs.2
      | _ => trivial
    | @insert mine _ _ stored =>
      cases q with
      | poolUsage parentId childId axis share total => exact roomSame (insertedClaim stored).1 theirs
      | insertClaim claim =>
        have different : (mine.parentId,mine.axis) ≠ (claim.parentId,claim.axis) :=
          fun same => beside (congrArg some same.symm)
        refine ⟨theirs.1,roomSame (insertedClaim stored).1 ?_⟩
        rw [claimedInsert stored,if_neg different,Int.add_zero]
        exact theirs.2
      | _ => trivial
    | release =>
      cases q with
      | poolUsage parentId childId axis share total => exact theirs
      | insertClaim claim =>
        refine ⟨theirs.1,roomLess theirs.2 ?_⟩
        have less := claimedRemove sound
        exact Int.add_le_add_right (less _ _ _ _) _
      | _ => trivial

theorem poolsCommitted {db es last} (sound : Sound db)
    (run : Run machine.fire ordered.guard ⟨db,[]⟩ es last) :
    ∀ p ∈ last.shared.pools, last.shared.claimed p.key ≤ p.totalBytes :=
  (poolsOutline.runHolds poolsSound run (Outline.emptyHolds sound)).shared.committed

def family : Db := ⟨[1,2,3],[],[]⟩

theorem familySound : Sound family := ⟨by decide,by decide,by decide,by decide⟩

def bothSum : List (Event Pc Env) :=
  [.start (.setPool 1 .diskBytes 100),.step 0 {},.start (.claimPool 1 2 .diskBytes 80),
    .start (.claimPool 1 3 .diskBytes 80),.step 1 {},.step 2 {},.step 1 {},.step 2 {},.step 1 {},.step 2 {}]

def lowered : List (Event Pc Env) :=
  [.start (.setPool 1 .diskBytes 100),.step 0 {},.start (.claimPool 1 2 .diskBytes 80),.step 1 {},
    .step 1 {},.step 1 {},.start (.setPool 1 .diskBytes 50),.step 2 {}]

def balance (c : Pool Db Pc) : List (Int × Int) :=
  c.shared.pools.map (fun p => (c.shared.claimed p.key,p.totalBytes))

theorem exceeds (shown : balance c = [(claimed,total)])
    (more : total < claimed) : ¬ ∀ p ∈ c.shared.pools, c.shared.claimed p.key ≤ p.totalBytes := by
  intro within
  obtain ⟨p,mem,pair⟩ := List.mem_map.mp (shown ▸ List.mem_singleton_self (claimed,total))
  cases pair
  exact absurd (within p mem) (Int.not_le.mpr more)

theorem poolsOverCommitted : Sound family ∧
    (∃ last, Run machine.fire free ⟨family,[]⟩ bothSum last ∧
      ¬ ∀ p ∈ last.shared.pools, last.shared.claimed p.key ≤ p.totalBytes) ∧
    (∃ last, Run machine.fire free ⟨family,[]⟩ lowered last ∧
      ¬ ∀ p ∈ last.shared.pools, last.shared.claimed p.key ≤ p.totalBytes) := by
  obtain ⟨first,run,shown⟩ := replayShows machine.fire free ⟨family,[]⟩ bothSum (fun c => balance c = [(160,100)]) (by decide)
  obtain ⟨second,run',shown'⟩ := replayShows machine.fire free ⟨family,[]⟩ lowered (fun c => balance c = [(80,50)]) (by decide)
  exact ⟨familySound,⟨first,run,exceeds shown (by decide)⟩,second,run',exceeds shown' (by decide)⟩

def inTurn : List (Event Pc Env) :=
  [.start (.setPool 1 .diskBytes 100),.step 0 {},.start (.claimPool 1 2 .diskBytes 80),.step 1 {},
    .step 1 {},.step 1 {},.start (.claimPool 1 3 .diskBytes 80),.step 2 {},.step 2 {},
    .start (.setPool 1 .diskBytes 80),.step 3 {}]

theorem poolsCommittedInTurn : ∃ last, Run machine.fire ordered.guard ⟨family,[]⟩ inTurn last ∧
    balance last = [(80,80)] ∧ ∀ p ∈ last.shared.pools, last.shared.claimed p.key ≤ p.totalBytes := by
  obtain ⟨last,run,shown⟩ := replayShows machine.fire ordered.guard ⟨family,[]⟩ inTurn (fun c => balance c = [(80,80)]) (by decide)
  exact ⟨last,run,shown,poolsCommitted familySound run⟩

end OpenPanel.QuotaPools
