import OpenPanel.AgentService
import OpenPanel.Fallible

/-! When the revocation of an agent is final. A heartbeat writes back the status of a
copy it read, a token is inserted on the word of such a copy, and resolving a token asks
nothing about its agent. -/
namespace OpenPanel.Agents
open CallPool GuardedRun

section Closed

def Stored (s : Store) (id : Uuid) : Prop := ∃ row ∈ s.agents, row.id = id

def Revoked (s : Store) (id : Uuid) : Prop := ∃ row ∈ s.agents, row.id = id ∧ row.status = .revoked

instance (s id) : Decidable (Revoked s id) :=
  inferInstanceAs (Decidable (∃ row ∈ s.agents, row.id = id ∧ row.status = .revoked))

def Spent (s : Store) (id : Uuid) (now : DateTime) : Prop :=
  ∀ token ∈ s.tokens, token.agentId = id → token.revoked = true ∨ token.expiresAt ≤ now

instance (s id now) : Decidable (Spent s id now) :=
  inferInstanceAs (Decidable (∀ token ∈ s.tokens, token.agentId = id → token.revoked = true ∨ token.expiresAt ≤ now))

structure Closed (s : Store) (id : Uuid) : Prop where
  revoked : Revoked s id
  spent : Spent s id s.clock

variable {s s' : Store} {id : Uuid}

theorem storedUpdate (stored : Stored s id) : Stored (s.updateAgent copy) id := by
  obtain ⟨row,mem,hit⟩ := stored
  by_cases struck : row.id = copy.id
  · exact ⟨Store.writeAgent copy row,Rows.updateHit mem struck,hit⟩
  · exact ⟨row,Rows.updateOther mem struck,hit⟩

theorem revokedUpdate (harmless : copy.status = .revoked ∨ ¬ Revoked s copy.id) (revoked : Revoked s id) :
    Revoked (s.updateAgent copy) id := by
  obtain ⟨row,mem,hit,stands⟩ := revoked
  by_cases struck : row.id = copy.id
  · have marked : copy.status = .revoked := harmless.resolve_right (fun free => free ⟨row,mem,struck,stands⟩)
    exact ⟨Store.writeAgent copy row,Rows.updateHit mem struck,hit,marked⟩
  · exact ⟨row,Rows.updateOther mem struck,hit,stands⟩

theorem updateRevokes (stored : Stored s copy.id) (marked : copy.status = .revoked) : Revoked (s.updateAgent copy) copy.id := by
  obtain ⟨row,mem,hit⟩ := stored
  exact ⟨Store.writeAgent copy row,Rows.updateHit mem hit,hit,marked⟩

theorem tokenInserted (ok : s.insertToken token = .ok s') : s'.agents = s.agents ∧ s'.tokens = s.tokens ++ [token] := by
  unfold Store.insertToken at ok
  split at ok <;> try contradiction
  split at ok <;> try contradiction
  split at ok <;> try contradiction
  cases ok
  exact ⟨rfl,rfl⟩

theorem spentInsert (ok : s.insertToken token = .ok s') (other : token.agentId ≠ id) (spent : Spent s id now) : Spent s' id now := by
  intro row mem hit
  rw [(tokenInserted ok).2,List.mem_append,List.mem_singleton] at mem
  rcases mem with old | rfl
  · exact spent row old hit
  · exact absurd hit other

theorem spentUpdate (marked : token.revoked = true) (spent : Spent s id now) : Spent (s.updateToken token) id now := by
  intro row mem hit
  obtain ⟨old,_⟩ | ⟨old,inside,_,rfl⟩ := Rows.memUpdate mem
  · exact spent row old hit
  · exact .inl marked

theorem foundRow (read : agent ∈ s.agents) (hit : agent.id = id) (revoked : Revoked s id) : agent.status = .revoked := by
  obtain ⟨row,mem,same,stands⟩ := revoked
  rw [Rows.equalOfKey s.ids read mem (hit.trans same.symm)]
  exact stands

end Closed

section Steps

variable {input : Input} {id : Uuid}

theorem attemptOk (ok : input.attempt result = .ok a) : input.fault = none ∧ result = .ok a := by
  unfold Input.attempt at ok
  split at ok
  · cases ok
  · exact ⟨by assumption,ok⟩

theorem foundAgentOk (ok : foundAgent s input id = .ok agent) : agent ∈ s.agents ∧ agent.id = id := by
  obtain ⟨_,ok⟩ := attemptOk ok
  split at ok <;> cases ok
  exact Rows.found (by assumption)

theorem revokingOk (ok : revoking s input id = .ok agent) : Stored s agent.id ∧ agent.status = .revoked := by
  obtain ⟨found,looked,ok⟩ := Fallible.bindOk ok
  cases ok
  exact ⟨⟨found,(foundAgentOk looked).1,rfl⟩,rfl⟩

theorem issuingOk (ok : issuing s input id scope tokenHash ttlSeconds = .ok token) : ¬ Revoked s id ∧ token.agentId = id := by
  obtain ⟨found,looked,ok⟩ := Fallible.bindOk ok
  obtain ⟨read,hit⟩ := foundAgentOk looked
  split at ok <;> cases ok
  rename_i fit
  exact ⟨fun revoked => fit (by simp [AgentRegistration.isUsable,foundRow read hit revoked]),rfl⟩

theorem usableOk (ok : usable s input id = .ok ()) : ¬ Revoked s id := by
  obtain ⟨found,looked,ok⟩ := Fallible.bindOk ok
  obtain ⟨read,hit⟩ := foundAgentOk looked
  split at ok <;> cases ok
  rename_i fit
  exact fun revoked => fit (by simp [AgentRegistration.isUsable,foundRow read hit revoked])

theorem revokingTokenOk (ok : revokingToken s input id = .ok token) : token.revoked = true := by
  obtain ⟨_,ok⟩ := attemptOk ok
  split at ok <;> cases ok
  rfl

theorem resolvingOk (ok : resolving s input tokenHash = .ok (some token)) : token ∈ s.tokens ∧ token.isUsableAt input.now = true := by
  obtain ⟨_,ok⟩ := attemptOk ok
  obtain ⟨found,good⟩ := Option.filter_eq_some_iff.mp (Except.ok.inj ok)
  exact ⟨List.mem_of_find?_eq_some found,good⟩

def carries (id : Uuid) : Point → Bool
  | .insertToken token => token.agentId == id
  | .issued (.ok token) => token.agentId == id
  | .dispatchManifest agentId _ _ => agentId == id
  | .dispatched agentId (.ok _) => agentId == id
  | .resolved (.ok (some token)) => token.agentId == id
  | _ => false

def idle : Point → Bool
  | .heartbeatUpdate _ | .revokeUpdate _ | .insertToken _ | .updateToken _ => false
  | .revoked (.ok _) => false
  | _ => true

inductive Moves (s : Store) (input : Input) : Point → Store → Point → Prop where
  | stops {from_ into} (done : idle into = true) (nothing : ∀ id, carries id into = false) : Moves s input from_ s into
  | beats {agentId agent} : Moves s input (.heartbeat agentId) s (.heartbeatUpdate agent)
  | beaten {agent} (works : input.fault = none) : Moves s input (.heartbeatUpdate agent) (s.updateAgent agent) (.beaten (.ok ()))
  | revokes {agentId agent} (stored : Stored s agent.id) (marked : agent.status = .revoked) :
      Moves s input (.revoke agentId) s (.revokeUpdate agent)
  | revoked {agent} (works : input.fault = none) :
      Moves s input (.revokeUpdate agent) (s.updateAgent agent) (.revoked (.ok agent))
  | issues {agentId scope tokenHash ttlSeconds token} (free : ¬ Revoked s agentId) (owner : token.agentId = agentId) :
      Moves s input (.issueToken agentId scope tokenHash ttlSeconds) s (.insertToken token)
  | inserted {token s'} (works : input.fault = none) (ok : s.insertToken token = .ok s') :
      Moves s input (.insertToken token) s' (.issued (.ok token))
  | revokesToken {tokenId token} (marked : token.revoked = true) :
      Moves s input (.revokeToken tokenId) s (.updateToken token)
  | tokenUpdated {token} : Moves s input (.updateToken token) (s.updateToken token) (.tokenRevoked (.ok ()))
  | resolves {tokenHash token} (read : token ∈ s.tokens) (good : token.isUsableAt input.now = true) :
      Moves s input (.resolveToken tokenHash) s (.resolved (.ok (some token)))
  | admits {agentId manifestId runner} (free : ¬ Revoked s agentId) :
      Moves s input (.validateDispatch agentId manifestId runner) s (.dispatchManifest agentId manifestId runner)
  | dispatches {agentId manifestId runner manifest} :
      Moves s input (.dispatchManifest agentId manifestId runner) s (.dispatched agentId (.ok manifest))

theorem actMoves (moved : act s input p = some (s',p')) : Moves s input p s' p' := by
  cases p <;> simp only [act] at moved
  case heartbeat =>
    split at moved <;> cases moved
    · exact .stops rfl (fun _ => rfl)
    · exact .beats
  case heartbeatUpdate =>
    split at moved <;> cases moved
    · exact .stops rfl (fun _ => rfl)
    · rename_i ok
      obtain ⟨works,same⟩ := attemptOk ok
      cases same
      exact .beaten works
  case beaten => cases moved
  case revoke =>
    split at moved <;> cases moved
    · exact .stops rfl (fun _ => rfl)
    · rename_i ok
      exact .revokes (revokingOk ok).1 (revokingOk ok).2
  case revokeUpdate =>
    split at moved <;> cases moved
    · exact .stops rfl (fun _ => rfl)
    · rename_i ok
      obtain ⟨works,same⟩ := attemptOk ok
      cases same
      exact .revoked works
  case revoked => cases moved
  case issueToken =>
    split at moved <;> cases moved
    · exact .stops rfl (fun _ => rfl)
    · rename_i ok
      exact .issues (issuingOk ok).1 (issuingOk ok).2
  case insertToken =>
    split at moved <;> cases moved
    · exact .stops rfl (fun _ => rfl)
    · rename_i ok
      obtain ⟨works,ok⟩ := attemptOk ok
      exact .inserted works (Fallible.mapErrorOk ok)
  case issued => cases moved
  case revokeToken =>
    split at moved <;> cases moved
    · exact .stops rfl (fun _ => rfl)
    · rename_i ok
      exact .revokesToken (revokingTokenOk ok)
  case updateToken =>
    split at moved <;> cases moved
    · exact .stops rfl (fun _ => rfl)
    · rename_i ok
      cases (attemptOk ok).2
      exact .tokenUpdated
  case tokenRevoked => cases moved
  case resolveToken tokenHash =>
    cases moved
    cases resolved : resolving s input tokenHash with
    | error => exact .stops rfl (fun _ => rfl)
    | ok found =>
      cases found with
      | none => exact .stops rfl (fun _ => rfl)
      | some token => exact .resolves (resolvingOk resolved).1 (resolvingOk resolved).2
  case resolved => cases moved
  case validateDispatch =>
    split at moved <;> cases moved
    · exact .stops rfl (fun _ => rfl)
    · rename_i ok
      exact .admits (usableOk ok)
  case dispatchManifest manifestId runner =>
    cases moved
    cases dispatching s input manifestId runner with
    | error => exact .stops rfl (fun _ => rfl)
    | ok => exact .dispatches
  case dispatched => cases moved

theorem stepMoves (moved : step s p input = some (s',p')) : ∃ next, Moves s input p next p' ∧ s' = {next with clock := input.now} := by
  obtain ⟨⟨next,target⟩,ran,same⟩ := Option.map_eq_some_iff.mp moved
  cases same
  exact ⟨next,actMoves ran,rfl⟩

end Steps

section Finality

/-- The clock does not go back. A heartbeat or a new token is stored for an agent that is
not revoked, and an agent is revoked when none of its tokens is good any more. -/
def spentFirst : Discipline Store Point Input where
  alone s point input := s.clock ≤ input.now ∧ match point with
    | .heartbeatUpdate agent => input.fault = none → ¬ Revoked s agent.id
    | .insertToken token => input.fault = none → ¬ Revoked s token.agentId
    | .revokeUpdate agent => input.fault = none → Spent s agent.id input.now
    | _ => True
  beside _ _ _ _ := True

instance (s point input) : Decidable (spentFirst.alone s point input) := by
  unfold spentFirst
  cases point <;> exact inferInstance

instance (s point input other) : Decidable (spentFirst.beside s point input other) :=
  isTrue trivial

def known (s : Store) : Point → Prop
  | .revokeUpdate agent => Stored s agent.id ∧ agent.status = .revoked
  | .updateToken token => token.revoked = true
  | .revoked (.ok agent) => Closed s agent.id
  | _ => True

def outline : Outline Store Point where
  shared _ := True
  point := known
  pair _ _ := True

variable {s s' : Store} {id : Uuid}

theorem idleKnown (done : idle p = true) : known s p := by
  unfold known
  split
  · cases done
  · cases done
  · cases done
  · trivial

theorem entryIdle (opened : entry p = true) : idle p = true := by
  cases p <;> first | rfl | cases opened

theorem entryCarries (opened : entry p = true) : carries id p = false := by
  cases p <;> first | rfl | cases opened

theorem movesStored (moves : Moves s input p s' p') (stored : Stored s id) : Stored s' id := by
  cases moves with
  | beaten => exact storedUpdate stored
  | revoked => exact storedUpdate stored
  | inserted _ ok =>
    unfold Stored
    rw [(tokenInserted ok).1]
    exact stored
  | tokenUpdated => exact stored
  | _ => exact stored

theorem movesRevoked (moves : Moves s input p s' p') (here : known s p) (allowed : spentFirst.alone s p input)
    (revoked : Revoked s id) : Revoked s' id := by
  cases moves with
  | beaten works => exact revokedUpdate (.inr (allowed.2 works)) revoked
  | revoked => exact revokedUpdate (.inl here.2) revoked
  | inserted _ ok =>
    unfold Revoked
    rw [(tokenInserted ok).1]
    exact revoked
  | _ => exact revoked

theorem movesSpent (moves : Moves s input p s' p') (here : known s p) (allowed : spentFirst.alone s p input)
    (revoked : Revoked s id) (spent : Spent s id now) : Spent s' id now := by
  cases moves with
  | inserted works ok => exact spentInsert ok (fun same => allowed.2 works (same ▸ revoked)) spent
  | tokenUpdated => exact spentUpdate here spent
  | _ => exact spent

theorem spentLater (less : now ≤ later) (spent : Spent s id now) : Spent s id later :=
  fun token mem hit => (spent token mem hit).imp_right (fun expired => Int.le_trans expired less)

theorem stepClosed (moved : step s p input = some (s',p')) (here : known s p) (allowed : spentFirst.alone s p input)
    (closed : Closed s id) : Closed s' id := by
  obtain ⟨next,moves,rfl⟩ := stepMoves moved
  have revoked : Revoked next id := movesRevoked moves here allowed closed.revoked
  have spent : Spent next id input.now :=
    movesSpent moves here allowed closed.revoked (spentLater allowed.1 closed.spent)
  exact ⟨revoked,spent⟩

theorem stepKnown (moved : step s p input = some (s',p')) (here : known s p) (allowed : spentFirst.alone s p input) : known s' p' := by
  obtain ⟨next,moves,rfl⟩ := stepMoves moved
  cases moves with
  | stops done => exact idleKnown done
  | revokes stored marked => exact ⟨stored,marked⟩
  | revokesToken marked => exact marked
  | revoked works => exact ⟨updateRevokes here.1 here.2,allowed.2 works⟩
  | _ => trivial

theorem knownStable (stored : ∀ id, Stored s id → Stored s' id) (closed : ∀ id, Closed s id → Closed s' id)
    (holds : known s q) : known s' q := by
  unfold known at holds ⊢
  split
  · exact ⟨stored _ holds.1,holds.2⟩
  · exact holds
  · exact closed _ holds
  · trivial

theorem outlineSound : outline.Sound service spentFirst where
  symm _ _ _ := trivial
  start s p entry := idleKnown (entryIdle entry)
  startPair _ _ _ _ _ := trivial
  own s p input s' p' _ here allowed moved := ⟨trivial,stepKnown moved here allowed⟩
  other s p input s' p' q _ here there _ allowed _ moved := by
    refine ⟨knownStable (fun id stored => ?_) (fun id closed => stepClosed moved here allowed closed) there,trivial⟩
    obtain ⟨next,moves,rfl⟩ := stepMoves moved
    have kept : Stored next id := movesStored moves stored
    exact kept

theorem stepCarries (moved : step s p input = some (s',p')) (closed : Closed s id) (clock : s.clock ≤ input.now)
    (before : carries id p = false) : carries id p' = false := by
  obtain ⟨next,moves,rfl⟩ := stepMoves moved
  cases moves with
  | stops _ nothing => exact nothing id
  | issues free owner => exact beq_eq_false_iff_ne.mpr (fun same => free (owner ▸ same ▸ closed.revoked))
  | inserted => exact before
  | resolves read good =>
    refine beq_eq_false_iff_ne.mpr (fun same => ?_)
    simp only [FleetToken.isUsableAt,Bool.and_eq_true,Bool.not_eq_true',decide_eq_true_eq] at good
    rcases closed.spent _ read same with marked | expired
    · rw [good.1] at marked
      cases marked
    · exact absurd good.2 (Int.not_lt.mpr (Int.le_trans expired clock))
  | admits free => exact beq_eq_false_iff_ne.mpr (fun same => free (same ▸ closed.revoked))
  | dispatches => exact before
  | _ => rfl

theorem agentRevocationFinal {s : Store} {es es'} {c c' : Pool Store Point} {agent : AgentRegistration}
    (first : Run service.fire spentFirst.guard ⟨s,[]⟩ es c) (returned : .revoked (.ok agent) ∈ c.calls)
    (second : Run service.fire spentFirst.guard c es' c') :
    (∃ row ∈ c'.shared.agents, row.id = agent.id) ∧
    (∀ row ∈ c'.shared.agents, row.id = agent.id → row.status = .revoked) ∧
    ∀ index, c.calls.length ≤ index →
      (∀ manifest, c'.calls[index]? ≠ some (.dispatched agent.id (.ok manifest))) ∧
      ∀ token, token.agentId = agent.id → c'.calls[index]? ≠ some (.issued (.ok token)) ∧
        c'.calls[index]? ≠ some (.resolved (.ok (some token))) := by
  have holds : outline.Holds c := Outline.runHolds outlineSound first (Outline.emptyHolds trivial)
  obtain ⟨closed,later⟩ := Outline.laterKeeps (S := fun s => Closed s agent.id) (P := fun p => carries agent.id p = false)
    outlineSound (fun _ opened => entryCarries opened) (fun _ _ _ _ _ _ here closed alone moved =>
      ⟨stepClosed moved here alone closed,stepCarries moved closed alone.1⟩) second holds (holds.point _ returned)
  obtain ⟨row,mem,hit,_⟩ := closed.revoked
  refine ⟨⟨row,mem,hit⟩,fun row mem hit => foundRow mem hit closed.revoked,fun index after => ⟨?_,?_⟩⟩
  · intro manifest position
    have free := later index _ after position
    simp [carries] at free
  · intro token owner
    refine ⟨fun position => ?_,fun position => ?_⟩
    · have free := later index _ after position
      simp [carries,owner] at free
    · have free := later index _ after position
      simp [carries,owner] at free

end Finality

def edge : AgentRegistration := ⟨0x31,"mac","edge",.online,"cert",none,0,0x0a⟩
def bearer : FleetToken := .new 0x41 0x31 .execute "digest" 0 (seconds 1000)
def recipe : RecipeManifest := ⟨0x51,"restart",["edge"],"openpanel-v1:x",0,seconds 1000⟩

def fleet : Store := ⟨[edge],[bearer],[recipe],0,by decide,by decide⟩

def goes (index : Nat) (now : Int) : Event Point Input := .step index ⟨none,seconds now,0x42⟩

def closing : List (Event Point Input) :=
  [.start (.revokeToken 0x41),goes 0 1,goes 0 2,.start (.revoke 0x31),goes 1 3,goes 1 4]

def asking : List (Event Point Input) :=
  [.start (.resolveToken "digest"),goes 2 5,.start (.validateDispatch 0x31 0x51 "edge"),goes 3 6]

theorem closedAgentRefused : ∃ between last, Run service.fire spentFirst.guard ⟨fleet,[]⟩ closing between ∧
    Run service.fire spentFirst.guard between asking last ∧ last.calls[2]? = some (.resolved (.ok none)) ∧
    ∀ row ∈ last.shared.agents, row.id = 0x31 → row.status = .revoked := by
  obtain ⟨between,last,ran,returned,later,none⟩ := replayTwice service.fire spentFirst.guard ⟨fleet,[]⟩ closing asking
    (fun c => c.calls[1]? = some (.revoked (.ok edge.revoke))) (fun c => c.calls[2]? = some (.resolved (.ok none)))
    (by decide +kernel)
  have final := agentRevocationFinal ran (List.mem_of_getElem? returned) later
  exact ⟨between,last,ran,later,none,final.2.1⟩

def overtaken : List (Event Point Input) := [.start (.heartbeat 0x31),goes 0 1,.start (.revoke 0x31),goes 1 2,goes 1 3]

theorem closedAgentActs : ∃ between last, Run service.fire free ⟨fleet,[]⟩ overtaken between ∧
    between.calls[1]? = some (.revoked (.ok edge.revoke)) ∧
    Run service.fire free between [.start (.resolveToken "digest"),goes 2 4,goes 0 5,
      .start (.validateDispatch 0x31 0x51 "edge"),goes 3 6,goes 3 7] last ∧
    last.calls[2]? = some (.resolved (.ok (some bearer))) ∧ last.calls[3]? = some (.dispatched 0x31 (.ok recipe)) ∧
    ¬ Revoked last.shared 0x31 := replayTwice _ _ _ _ _ _ _ (by decide +kernel)

end OpenPanel.Agents
