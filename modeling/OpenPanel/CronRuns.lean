import OpenPanel.CronEffects

/-! The invariant of stored runs. A call that has started an execution is
backed by its own active row as long as no lease recovery reads that row as
expired. `late` chooses how long a call counts as holding its run: up to the end
of the execution, or up to the write that records it. -/
namespace OpenPanel.Cron
open CallPool

structure Stored (db : Db) : Prop where
  unique : Rows.Unique RunRow.id db.runs
  payload : ∀ r ∈ db.runs, r.payload.id = r.id
  active : ∀ r ∈ db.runs, r.active = !r.payload.isTerminal
  index : ∀ a ∈ db.runs, ∀ b ∈ db.runs, a.active = true → b.active = true → a.jobId = b.jobId → a = b
  issued : ∀ r ∈ db.runs, r.id ∈ db.issued

namespace Pc

def owned (pc : Pc) : Option JobRun := pc.minted <|> pc.busy <|> pc.finishing

def held (late : Bool) (pc : Pc) : Option JobRun :=
  pc.busy <|> (if late then pc.finishing else none)

def exposed (late : Bool) (pc : Pc) : Option JobRun := pc.minted <|> pc.held late

def targets (pc : Pc) : List Uuid := pc.snapshots.map JobRun.id ++ pc.doomed

def Shape : Pc → Prop
  | .insertSkipped _ run _ _ => run.isTerminal = true
  | .insertLeased _ run _ _ => run.isTerminal = false
  | .finish run _ => run.isTerminal = true
  | _ => True

end Pc

def Backed (db : Db) (run : JobRun) : Prop :=
  ∃ r ∈ db.runs, r.id = run.id ∧ r.jobId = run.jobId ∧ r.payload.isTerminal = false ∧
    r.payload.leaseUntil = run.leaseUntil

def Follows (stored snapshot : JobRun) : Prop :=
  stored.exitCode = snapshot.exitCode ∧ stored.stdout = snapshot.stdout ∧
  stored.stderr = snapshot.stderr ∧ (stored.isTerminal = true → stored.state = .interrupted)

structure At (late : Bool) (db : Db) (pc : Pc) : Prop where
  issued : ∀ run, pc.owned = some run → run.id ∈ db.issued
  aimed : ∀ x ∈ pc.targets, x ∈ db.issued
  unstored : ∀ run, pc.minted = some run → ∀ r ∈ db.runs, r.id ≠ run.id
  shape : pc.Shape
  backed : ∀ run, pc.held late = some run → Backed db run
  follows : late = true → ∀ run ∈ pc.snapshots, ∀ r ∈ db.runs, r.id = run.id → Follows r.payload run

structure Apart (late : Bool) (p q : Pc) : Prop where
  owned : ∀ a b, p.owned = some a → q.owned = some b → a.id ≠ b.id
  left : ∀ x ∈ p.targets, ∀ run, q.exposed late = some run → run.id ≠ x
  right : ∀ x ∈ q.targets, ∀ run, p.exposed late = some run → run.id ≠ x

theorem Apart.symm (h : Apart late p q) : Apart late q p :=
  ⟨fun a b ha hb same => h.owned b a hb ha same.symm,h.right,h.left⟩

def outline (late : Bool) : Outline Db Pc := ⟨Stored,At late,Apart late⟩

def Pc.readsLeases (env : Env) : Pc → Option DateTime
  | .recoverScan now _ => if env.fault = none then some now else none
  | _ => none

/-- No lease recovery reads the runs at a time past the lease of a run that
another call still holds. -/
def leasesRespected (late : Bool) : Discipline Db Pc Env where
  alone _ _ _ := True
  beside _ pc env other := ∀ now ∈ pc.readsLeases env, ∀ run ∈ other.held late, now ≤ run.leaseUntil

instance (late s p i) : Decidable ((leasesRespected late).alone s p i) := by
  unfold leasesRespected; infer_instance
instance (late s p i q) : Decidable ((leasesRespected late).beside s p i q) := by
  unfold leasesRespected; infer_instance

theorem unownedOwned {pc : Pc} (free : pc.Unowned) : pc.owned = none := by
  simp [Pc.owned,free.minted,free.busy,free.finishing]

theorem unownedHeld {pc : Pc} (free : pc.Unowned) : pc.held late = none := by
  simp [Pc.held,free.busy,free.finishing]

theorem unownedExposed {pc : Pc} (free : pc.Unowned) : pc.exposed late = none := by
  simp [Pc.exposed,unownedHeld free,free.minted]

theorem idleTargets {pc : Pc} (idle : pc.Idle) : pc.targets = [] := by
  simp [Pc.targets,idle.snapshots,idle.doomed]

theorem unownedShape {pc : Pc} (free : pc.Unowned) : pc.Shape := by
  have minted := free.minted
  have finishing := free.finishing
  cases pc <;> simp_all [Pc.Shape,Pc.minted,Pc.finishing]

theorem unownedAt (free : pc.Unowned) (aimed : ∀ x ∈ pc.targets, x ∈ db.issued)
    (follows : late = true → ∀ run ∈ pc.snapshots, ∀ r ∈ db.runs, r.id = run.id → Follows r.payload run) : At late db pc := by
  refine ⟨?_,aimed,?_,unownedShape free,?_,follows⟩
  · simp [unownedOwned free]
  · simp [free.minted]
  · simp [unownedHeld free]

theorem idleAt (idle : pc.Idle) : At late db pc :=
  unownedAt idle.toUnowned (by simp [idleTargets idle]) (by simp [idle.snapshots])

theorem unownedApart (free : p.Unowned) (left : ∀ x ∈ p.targets, ∀ run, q.exposed late = some run → run.id ≠ x) : Apart late p q := by
  refine ⟨?_,left,?_⟩
  · simp [unownedOwned free]
  · simp [unownedExposed free]

theorem idleApart (idle : p.Idle) : Apart late p q :=
  unownedApart idle.toUnowned (by simp [idleTargets idle])

theorem entryIdle (h : entry pc = true) : pc.Idle := by
  cases pc <;> first | contradiction | exact ⟨⟨rfl,rfl,rfl⟩,rfl,rfl⟩

theorem insertedRun {db db' : Db} (ok : db.insertRun ownerId run now = .ok db') : (∀ r ∈ db.runs, r.id ≠ run.id) ∧
    (run.isTerminal = false → ∀ r ∈ db.runs, r.active = true → r.jobId ≠ run.jobId) ∧
    db' = {db with runs := db.runs ++ [⟨run.id,run.jobId,ownerId,run,!run.isTerminal,now⟩]} := by
  unfold Db.insertRun at ok
  split at ok <;> try contradiction
  rename_i key
  split at ok <;> try contradiction
  rename_i index
  split at ok <;> try contradiction
  cases ok
  simp only [List.any_eq_true,beq_iff_eq,not_exists,not_and,Bool.and_eq_true] at key index
  refine ⟨key,?_,rfl⟩
  intro active r mem on same
  exact index (by simp [active]) r mem same on

theorem storedInsert (stored : Stored db) (issued : run.id ∈ db.issued) (ok : db.insertRun ownerId run now = .ok db') : Stored db' := by
  obtain ⟨key,index,rfl⟩ := insertedRun ok
  refine ⟨Rows.insertUnique stored.unique key,?_,?_,?_,?_⟩
  · intro r mem
    rcases List.mem_append.mp mem with old | new
    · exact stored.payload r old
    · rw [List.mem_singleton.mp new]
  · intro r mem
    rcases List.mem_append.mp mem with old | new
    · exact stored.active r old
    · rw [List.mem_singleton.mp new]
  · -- A new active row found no other active row of its job.
    intro a left b right onA onB same
    rcases List.mem_append.mp left with oldA | newA <;> rcases List.mem_append.mp right with oldB | newB
    · exact stored.index a oldA b oldB onA onB same
    · rw [List.mem_singleton.mp newB] at onB same
      exact absurd same (index (by simpa using onB) a oldA onA)
    · rw [List.mem_singleton.mp newA] at onA same
      exact absurd same.symm (index (by simpa using onA) b oldB onB)
    · rw [List.mem_singleton.mp newA,List.mem_singleton.mp newB]
  · intro r mem
    rcases List.mem_append.mp mem with old | new
    · exact stored.issued r old
    · rw [List.mem_singleton.mp new]
      exact issued

theorem memUpdateRun {db : Db} (mem : r ∈ (db.updateRun run).runs) : (r ∈ db.runs ∧ r.id ≠ run.id) ∨
    ∃ old ∈ db.runs, old.id = run.id ∧ r = {old with payload := run, active := !run.isTerminal} :=
  Rows.memUpdate mem

theorem storedUpdate (stored : Stored db) (terminal : run.isTerminal = true) : Stored (db.updateRun run) := by
  refine ⟨Rows.updateUnique stored.unique (fun _ _ => rfl),?_,?_,?_,?_⟩
  · intro r mem
    obtain ⟨old,_⟩ | ⟨old,_,hit,rfl⟩ := memUpdateRun mem
    · exact stored.payload r old
    · exact hit.symm
  · intro r mem
    obtain ⟨old,_⟩ | ⟨old,_,_,rfl⟩ := memUpdateRun mem
    · exact stored.active r old
    · rfl
  · -- The written row is inactive, so two active rows are old ones.
    have old : ∀ r ∈ (db.updateRun run).runs, r.active = true → r ∈ db.runs := by
      intro r mem on
      obtain ⟨old,_⟩ | ⟨old,_,_,rfl⟩ := memUpdateRun mem
      · exact old
      · simp [terminal] at on
    intro a left b right onA onB same
    exact stored.index a (old a left onA) b (old b right onB) onA onB same
  · intro r mem
    obtain ⟨old,_⟩ | ⟨old,inside,_,rfl⟩ := memUpdateRun mem
    · exact stored.issued r old
    · exact stored.issued old inside

theorem storedDelete (stored : Stored db) (id) : Stored (db.deleteRun id) := by
  have old : ∀ r ∈ (db.deleteRun id).runs, r ∈ db.runs := fun r mem => (Rows.memDelete.mp mem).1
  exact ⟨Rows.deleteUnique stored.unique,fun r mem => stored.payload r (old r mem),
    fun r mem => stored.active r (old r mem),
    fun a left b right => stored.index a (old a left) b (old b right),
    fun r mem => stored.issued r (old r mem)⟩

theorem storedSame (stored : Stored db) (runs : db'.runs = db.runs) (issued : ∀ x ∈ db.issued, x ∈ db'.issued) : Stored db' := by
  refine ⟨?_,?_,?_,?_,?_⟩ <;> rw [runs]
  · exact stored.unique
  · exact stored.payload
  · exact stored.active
  · exact stored.index
  · exact fun r mem => issued _ (stored.issued r mem)

theorem expiredApart (stored : Stored db) (at_ : At late db q)
    (respected : ∀ run ∈ q.held late, now ≤ run.leaseUntil) (mem : x ∈ db.expired now)
    (exposed : q.exposed late = some run) : run.id ≠ x.id := by
  simp only [Db.expired,List.mem_filter,List.mem_map,Bool.and_eq_true,decide_eq_true_eq] at mem
  obtain ⟨⟨r,inside,rfl⟩,_,past⟩ := mem
  rw [stored.payload r inside]
  intro same
  rcases hm : q.minted with _ | m
  · have held : q.held late = some run := by simpa [Pc.exposed,hm] using exposed
    obtain ⟨b,mem,id,_,_,lease⟩ := at_.backed run held
    have equal := Rows.equalOfKey stored.unique mem inside (id.trans same)
    have bound := respected run held
    rw [← lease,equal] at bound
    exact Int.not_lt.mpr bound past
  · have : m = run := by simpa [Pc.exposed,hm] using exposed
    subst this
    exact at_.unstored m hm r inside same.symm

theorem prunableApart (stored : Stored db) (at_ : At late db q) (mem : x ∈ db.prunable cutoff)
    (exposed : q.exposed late = some run) : run.id ≠ x := by
  simp only [Db.prunable,List.mem_map,List.mem_filter] at mem
  obtain ⟨r,⟨⟨inside,_⟩,terminal⟩,rfl⟩ := mem
  intro same
  rcases hm : q.minted with _ | m
  · obtain ⟨b,mem,id,_,open_,_⟩ := at_.backed run (by simpa [Pc.exposed,hm] using exposed)
    rw [Rows.equalOfKey stored.unique mem inside (id.trans same),terminal] at open_
    contradiction
  · have : m = run := by simpa [Pc.exposed,hm] using exposed
    subst this
    exact at_.unstored m hm r inside same.symm

theorem At.same (h : At late db pc) (runs : db'.runs = db.runs) (issued : ∀ x ∈ db.issued, x ∈ db'.issued) : At late db' pc := by
  refine ⟨fun run own => issued _ (h.issued run own),fun x aim => issued x (h.aimed x aim),?_,h.shape,
    ?_,?_⟩
  · rw [runs]; exact h.unstored
  · unfold Backed; rw [runs]; exact h.backed
  · rw [runs]; exact h.follows

theorem At.afterInsert (h : At late db q) (apart : Apart late p q) (minted : p.minted = some run)
    (ok : db.insertRun ownerId run now = .ok db') : At late db' q := by
  obtain ⟨_,_,rfl⟩ := insertedRun ok
  have own : p.owned = some run := by simp [Pc.owned,minted]
  have exposed : p.exposed late = some run := by simp [Pc.exposed,minted]
  refine ⟨h.issued,h.aimed,?_,h.shape,?_,?_⟩
  · intro other pending r mem
    rcases List.mem_append.mp mem with old | new
    · exact h.unstored other pending r old
    · rw [List.mem_singleton.mp new]
      exact apart.owned run other own (by simp [Pc.owned,pending])
  · intro other held
    obtain ⟨r,mem,rest⟩ := h.backed other held
    exact ⟨r,List.mem_append_left _ mem,rest⟩
  · intro on snap member r mem same
    rcases List.mem_append.mp mem with old | new
    · exact h.follows on snap member r old same
    · rw [List.mem_singleton.mp new] at same
      have aimed : snap.id ∈ q.targets :=
        List.mem_append_left _ (List.mem_map.mpr ⟨snap,member,rfl⟩)
      exact absurd same (apart.right snap.id aimed run exposed)

theorem At.afterUpdate (h : At late db q) (free : ∀ other, q.held late = some other → other.id ≠ run.id)
    (agrees : late = true → ∀ snap ∈ q.snapshots, ∀ r ∈ db.runs, r.id = run.id → snap.id = run.id →
      Follows run snap) : At late (db.updateRun run) q := by
  refine ⟨h.issued,h.aimed,?_,h.shape,?_,?_⟩
  · intro other pending r mem
    obtain ⟨old,_⟩ | ⟨old,inside,_,rfl⟩ := memUpdateRun mem
    · exact h.unstored other pending r old
    · exact h.unstored other pending old inside
  · intro other held
    obtain ⟨r,mem,id,rest⟩ := h.backed other held
    exact ⟨r,Rows.updateOther mem (id ▸ free other held),id,rest⟩
  · intro on snap member r mem same
    obtain ⟨old,_⟩ | ⟨old,inside,hit,rfl⟩ := memUpdateRun mem
    · exact h.follows on snap member r old same
    · exact agrees on snap member old inside hit (same.symm.trans hit)

theorem At.afterDelete {late db q id} (h : At late db q)
    (free : ∀ other, q.held late = some other → other.id ≠ id) : At late (db.deleteRun id) q := by
  have old : ∀ r ∈ (db.deleteRun id).runs, r ∈ db.runs := fun r mem => (Rows.memDelete.mp mem).1
  refine ⟨h.issued,h.aimed,fun run pending r mem => h.unstored run pending r (old r mem),h.shape,?_,
    fun on snap member r mem => h.follows on snap member r (old r mem)⟩
  intro other held
  obtain ⟨r,mem,same,rest⟩ := h.backed other held
  exact ⟨r,Rows.memDelete.mpr ⟨mem,same ▸ free other held⟩,same,rest⟩

theorem heldExposed {q : Pc} (h : q.held late = some run) : q.exposed late = some run := by
  cases q <;> simp_all [Pc.held,Pc.exposed,Pc.minted,Pc.busy,Pc.finishing]

theorem heldOwned {q : Pc} (h : q.held late = some run) : q.owned = some run := by
  cases late <;> cases q <;> simp_all [Pc.held,Pc.owned,Pc.minted,Pc.busy,Pc.finishing]

theorem recoveringTargets (now retention runs) : (recovering now retention runs).targets = runs.map JobRun.id := by
  simp [Pc.targets,recoveringHolds]

theorem pruningTargets (count ids) : (pruning count ids).targets = ids := by
  simp [Pc.targets,pruningHolds]

theorem interruptFollows (ok : run.interrupt now = .ok out)
    (mine : Follows stored run) (theirs : Follows stored snap) : Follows out snap := by
  obtain ⟨_,rfl⟩ := finished ok
  exact ⟨mine.1.symm.trans theirs.1,mine.2.1.symm.trans theirs.2.1,mine.2.2.1.symm.trans theirs.2.2.1,
    fun _ => rfl⟩

theorem mintedOnly {pc : Pc} (minted : pc.minted = some run) :
    pc.busy = none ∧ pc.finishing = none ∧ pc.snapshots = [] ∧ pc.doomed = [] := by
  cases pc <;> first | contradiction | exact ⟨rfl,rfl,rfl,rfl⟩

theorem mintedAt (stored : Stored db) (new : fresh ∉ db.issued)
    (minted : pc.minted = some run) (id : run.id = fresh) (shape : pc.Shape) : At late (db.issue fresh) pc := by
  obtain ⟨busy,finishing,snapshots,doomed⟩ := mintedOnly minted
  refine ⟨?_,by simp [Pc.targets,snapshots,doomed],?_,shape,by simp [Pc.held,busy,finishing],
    by simp [snapshots]⟩
  · intro other own
    have same : run = other := by simpa [Pc.owned,minted] using own
    simp [Db.issue,← same,id]
  · intro other pending r mem same
    cases Option.some.inj (minted.symm.trans pending)
    exact new (id ▸ same ▸ stored.issued r mem)

theorem ownStep (stored : Stored db) (here : At late db pc)
    (ok : step cal db pc env = some (db',pc')) : Stored db' ∧ At late db' pc' := by
  cases effect ok with
  | quiet runs issued idle =>
    exact ⟨storedSame stored runs (by simp [issued]),idleAt idle⟩
  | mintSkipped fresh id terminal =>
    exact ⟨storedSame stored rfl (by simp_all [Db.issue]),mintedAt stored fresh rfl id terminal⟩
  | mintLeased fresh id active =>
    exact ⟨storedSame stored rfl (by simp_all [Db.issue]),mintedAt stored fresh rfl id active⟩
  | store inserted idle =>
    exact ⟨storedInsert stored (here.issued _ rfl) inserted,idleAt idle⟩
  | @lease job run now caller _ inserted =>
    have issued := here.issued run rfl
    have active : run.isTerminal = false := here.shape
    refine ⟨storedInsert stored issued inserted,?_⟩
    obtain ⟨_,_,rfl⟩ := insertedRun inserted
    refine ⟨?_,by simp [Pc.targets,Pc.snapshots,Pc.doomed],by simp [Pc.minted],trivial,?_,
      by simp [Pc.snapshots]⟩
    · intro other own
      cases Option.some.inj own
      exact issued
    · intro other held
      cases Option.some.inj held
      exact ⟨_,List.mem_append_right _ (List.mem_singleton.mpr rfl),rfl,rfl,active,rfl⟩
  | begin job run caller =>
    exact ⟨stored,here.issued,here.aimed,here.unstored,trivial,here.backed,here.follows⟩
  | @settle job run caller out terminal id jobId lease =>
    refine ⟨stored,?_,by simp [Pc.targets,Pc.snapshots,Pc.doomed],by simp [Pc.minted],terminal,?_,
      by simp [Pc.snapshots]⟩
    · intro other own
      cases Option.some.inj own
      exact id ▸ here.issued run rfl
    · intro other held
      have same : other = out := by
        cases late <;> simp_all [Pc.held,Pc.busy,Pc.finishing]
      subst same
      obtain ⟨r,mem,rid,rjob,open_,until_⟩ := here.backed run rfl
      exact ⟨r,mem,rid.trans id.symm,rjob.trans jobId.symm,open_,until_.trans lease.symm⟩
  | write idle => exact ⟨storedUpdate stored here.shape,idleAt idle⟩
  | snapshot now retention clean =>
    have read : ∀ x ∈ db.expired now, ∃ r ∈ db.runs, r.payload = x ∧ x.isTerminal = false := by
      intro x mem
      simp only [Db.expired,List.mem_filter,List.mem_map,Bool.and_eq_true,Bool.not_eq_true'] at mem
      obtain ⟨⟨r,inside,same⟩,open_,_⟩ := mem
      exact ⟨r,inside,same,open_⟩
    refine ⟨stored,unownedAt (recoveringHolds _ _ _).1 ?_ ?_⟩
    · rw [recoveringTargets]
      intro id mem
      obtain ⟨x,inside,rfl⟩ := List.mem_map.mp mem
      obtain ⟨r,row,rfl,_⟩ := read x inside
      exact stored.payload r row ▸ stored.issued r row
    · rw [(recoveringHolds _ _ _).2.1]
      intro _ x inside r row same
      obtain ⟨origin,member,rfl,open_⟩ := read x inside
      have equal := Rows.equalOfKey stored.unique row member (same.trans (stored.payload origin member))
      subst equal
      exact ⟨rfl,rfl,rfl,by simp [open_]⟩
  | @interrupt now retention run rest out interrupted =>
    obtain ⟨_,shape⟩ := finished interrupted
    have id : out.id = run.id := by rw [shape]
    have terminal : out.isTerminal = true := by rw [shape]; rfl
    have kept : At late (db.updateRun out) (.recover now retention run rest) := by
      refine here.afterUpdate (by simp [Pc.held,Pc.busy,Pc.finishing]) ?_
      intro on snap member r row hit same
      exact interruptFollows interrupted (here.follows on run List.mem_cons_self r row (hit.trans id))
        (here.follows on snap member r row (hit.trans same.symm))
    refine ⟨storedUpdate stored terminal,unownedAt (recoveringHolds _ _ _).1 ?_ ?_⟩
    · rw [recoveringTargets]
      intro x mem
      exact kept.aimed x (List.mem_append_left _ (List.mem_cons_of_mem _ mem))
    · rw [(recoveringHolds _ _ _).2.1]
      intro on snap member
      exact kept.follows on snap (List.mem_cons_of_mem _ member)
  | select =>
    refine ⟨stored,unownedAt (pruningHolds _ _).1 ?_ (by simp [pruningHolds])⟩
    rw [pruningTargets]
    intro x mem
    simp only [Db.prunable,List.mem_map,List.mem_filter] at mem
    obtain ⟨r,⟨⟨inside,_⟩,_⟩,rfl⟩ := mem
    exact stored.issued r inside
  | remove count id rest =>
    refine ⟨storedDelete stored id,unownedAt (pruningHolds _ _).1 ?_ (by simp [pruningHolds])⟩
    rw [pruningTargets]
    intro x mem
    exact here.aimed x (List.mem_append_right _ (List.mem_cons_of_mem _ mem))

theorem mintedApart (theirs : At late db q) (new : fresh ∉ db.issued)
    (minted : p.minted = some run) (id : run.id = fresh) : Apart late p q := by
  obtain ⟨_,_,snapshots,doomed⟩ := mintedOnly minted
  refine ⟨?_,by simp [Pc.targets,snapshots,doomed],?_⟩
  · intro a b own other same
    have : run = a := by simpa [Pc.owned,minted] using own
    subst this
    exact new (id ▸ same ▸ theirs.issued b other)
  · intro x aim a exposed same
    have : run = a := by simpa [Pc.exposed,minted] using exposed
    subst this
    exact new (id ▸ same ▸ theirs.aimed x aim)

theorem Apart.moves (apart : Apart late p q) (owned : ∀ a, p'.owned = some a → ∃ b, p.owned = some b ∧ b.id = a.id)
    (targets : ∀ x ∈ p'.targets, x ∈ p.targets)
    (exposed : ∀ a, p'.exposed late = some a → ∃ b, p.exposed late = some b ∧ b.id = a.id) : Apart late p' q := by
  refine ⟨?_,fun x mem => apart.left x (targets x mem),?_⟩
  · intro a b own other same
    obtain ⟨mine,before,id⟩ := owned a own
    exact apart.owned mine b before other (id.trans same)
  · intro x mem a exp same
    obtain ⟨mine,before,id⟩ := exposed a exp
    exact apart.right x mem mine before (id.trans same)

theorem otherStep {late cal db env p db' p' q} (stored : Stored db) (mine : At late db p)
    (theirs : At late db q) (apart : Apart late p q) (allowed : (leasesRespected late).beside db p env q)
    (ok : step cal db p env = some (db',p')) : At late db' q ∧ Apart late p' q := by
  cases effect ok with
  | quiet runs issued idle => exact ⟨theirs.same runs (by simp [issued]),idleApart idle⟩
  | mintSkipped fresh id terminal =>
    exact ⟨theirs.same rfl (by simp_all [Db.issue]),mintedApart theirs fresh rfl id⟩
  | mintLeased fresh id active =>
    exact ⟨theirs.same rfl (by simp_all [Db.issue]),mintedApart theirs fresh rfl id⟩
  | store inserted idle => exact ⟨theirs.afterInsert apart rfl inserted,idleApart idle⟩
  | lease inserted =>
    refine ⟨theirs.afterInsert apart rfl inserted,apart.moves ?_ (by simp [Pc.targets,Pc.snapshots,Pc.doomed]) ?_⟩
    · intro a own
      exact ⟨a,own,rfl⟩
    · intro a exposed
      exact ⟨a,exposed,rfl⟩
  | begin job run caller =>
    exact ⟨theirs,apart.moves (fun a own => ⟨a,own,rfl⟩) (fun _ mem => mem) (fun a exp => ⟨a,exp,rfl⟩)⟩
  | @settle job run caller out terminal id jobId lease =>
    refine ⟨theirs,apart.moves ?_ (by simp [Pc.targets,Pc.snapshots,Pc.doomed]) ?_⟩
    · intro a own
      cases Option.some.inj own
      exact ⟨run,rfl,id.symm⟩
    · intro a exposed
      have same : a = out := by
        cases late <;> simp_all [Pc.exposed,Pc.held,Pc.minted,Pc.busy,Pc.finishing]
      exact ⟨run,rfl,same ▸ id.symm⟩
  | @write run caller _ idle =>
    refine ⟨theirs.afterUpdate ?_ ?_,idleApart idle⟩
    · intro other held
      exact Ne.symm (apart.owned run other rfl (heldOwned held))
    · -- A finishing call that counts as holding its run is in no snapshot.
      intro on snap member r row hit same
      have aimed : snap.id ∈ q.targets := List.mem_append_left _ (List.mem_map.mpr ⟨snap,member,rfl⟩)
      have exposed : (Pc.finish run caller).exposed late = some run := by
        simp [Pc.exposed,Pc.held,Pc.minted,Pc.busy,Pc.finishing,on]
      exact absurd same.symm (apart.right snap.id aimed run exposed)
  | snapshot now retention clean =>
    refine ⟨theirs,unownedApart (recoveringHolds _ _ _).1 ?_⟩
    rw [recoveringTargets]
    intro id mem run exposed
    obtain ⟨x,inside,rfl⟩ := List.mem_map.mp mem
    exact expiredApart stored theirs (allowed now (by simp [Pc.readsLeases,clean])) inside exposed
  | @interrupt now retention run rest out interrupted =>
    obtain ⟨_,shape⟩ := finished interrupted
    have id : out.id = run.id := by rw [shape]
    have aimed : run.id ∈ (Pc.recover now retention run rest).targets := List.mem_cons_self
    refine ⟨theirs.afterUpdate ?_ ?_,unownedApart (recoveringHolds _ _ _).1 ?_⟩
    · intro other held
      rw [id]
      exact apart.left run.id aimed other (heldExposed held)
    · intro on snap member r row hit same
      exact interruptFollows interrupted (mine.follows on run List.mem_cons_self r row (hit.trans id))
        (theirs.follows on snap member r row (hit.trans same.symm))
    · rw [recoveringTargets]
      intro x mem
      exact apart.left x (List.mem_append_left _ (List.mem_cons_of_mem _ mem))
  | select =>
    refine ⟨theirs,unownedApart (pruningHolds _ _).1 ?_⟩
    rw [pruningTargets]
    intro x mem run exposed
    exact prunableApart stored theirs mem exposed
  | remove count id rest =>
    have aimed : id ∈ (Pc.prune count id rest).targets := List.mem_cons_self
    refine ⟨theirs.afterDelete ?_,unownedApart (pruningHolds _ _).1 ?_⟩
    · intro other held
      exact apart.left id aimed other (heldExposed held)
    · rw [pruningTargets]
      intro x mem
      exact apart.left x (List.mem_append_right _ (List.mem_cons_of_mem _ mem))

theorem runsSound (late cal) : (outline late).Sound (machine cal) (leasesRespected late) where
  symm _ _ h := h.symm
  start _ _ h := idleAt (entryIdle h)
  startPair _ _ _ h _ := idleApart (entryIdle h)
  own _ _ _ _ _ stored here _ ok := ownStep stored here ok
  other _ _ _ _ _ _ stored mine theirs apart _ allowed ok := otherStep stored mine theirs apart allowed ok

end OpenPanel.Cron
