import OpenPanel.ApiTokenService

/-! When a revocation or rotation of an API token is final. An authenticating
call writes back every column of the token it read, so it must not do so after
the stored token was revoked; a rotation must not commit after one either. -/
namespace OpenPanel.ApiTokens
open Security (IpAddr)
open Accounts (User)
open CallPool GuardedRun

section Stored

def Stored (s : Store) (key : Uuid × Uuid) : Prop := ∃ row ∈ s.tokens, row.key = key

def Revoked (s : Store) (id : Uuid) : Prop := ∃ row ∈ s.tokens, row.id = id ∧ row.revokedAt ≠ none

instance (s id) : Decidable (Revoked s id) :=
  inferInstanceAs (Decidable (∃ row ∈ s.tokens, row.id = id ∧ row.revokedAt ≠ none))

variable {s s' : Store} {id : Uuid}

theorem changeStored {same at'} (sameKey : ∀ t, (f t).key = t.key) (stored : Stored s key) : Stored (s.change at' f same) key := by
  obtain ⟨row,mem,hit⟩ := stored
  by_cases struck : row.key = at'
  · exact ⟨f row,Rows.updateHit mem struck,(sameKey row).trans hit⟩
  · exact ⟨row,Rows.updateOther mem struck,hit⟩

theorem changeRevoked {same at'} (kept : ∀ t, t.key = at' → t.id = id → (f t).revokedAt ≠ none) (revoked : Revoked s id) :
    Revoked (s.change at' f same) id := by
  obtain ⟨row,mem,hit,stands⟩ := revoked
  by_cases struck : row.key = at'
  · exact ⟨f row,Rows.updateHit mem struck,(same row).trans hit,kept row struck hit⟩
  · exact ⟨row,Rows.updateOther mem struck,hit,stands⟩

theorem changeRevokes {same} (revokes : ∀ t, (f t).revokedAt ≠ none) (stored : Stored s key) : Revoked (s.change key f same) key.1 := by
  obtain ⟨row,mem,rfl⟩ := stored
  exact ⟨f row,Rows.updateHit mem rfl,same row,revokes row⟩

theorem updateOk (ok : s.update copy = .ok s') : s' = s.change copy.key (Store.overwrite copy) (fun _ => rfl) := by
  unfold Store.update at ok
  split at ok <;> cases ok
  rfl

theorem insertOk (ok : s.insert new = .ok s') : ∀ row ∈ s.tokens, row ∈ s'.tokens := by
  unfold Store.insert at ok
  split at ok <;> try contradiction
  split at ok <;> try contradiction
  split at ok <;> try contradiction
  cases ok
  exact fun row mem => List.mem_append_left _ mem

theorem insertStored (ok : s.insert new = .ok s') (stored : Stored s key) : Stored s' key := by
  obtain ⟨row,mem,hit⟩ := stored
  exact ⟨row,insertOk ok row mem,hit⟩

theorem insertRevoked (ok : s.insert new = .ok s') (revoked : Revoked s id) : Revoked s' id := by
  obtain ⟨row,mem,rest⟩ := revoked
  exact ⟨row,insertOk ok row mem,rest⟩

theorem updateRevoked (ok : s.update copy = .ok s') (harmless : copy.revokedAt ≠ none ∨ ¬ Revoked s copy.id)
    (revoked : Revoked s id) : Revoked s' id := by
  rw [updateOk ok]
  refine changeRevoked (fun t struck hit => ?_) revoked
  rcases harmless with stands | free
  · exact stands
  · have same : copy.id = t.id := congrArg Prod.fst struck.symm
    exact absurd (same ▸ hit ▸ revoked) free

theorem rotateRevoked (ok : s.rotate old new = .ok s') (stands : old.revokedAt ≠ none) (revoked : Revoked s id) : Revoked s' id :=
  insertRevoked ok (changeRevoked (fun _ _ _ => stands) revoked)

end Stored

section Steps

variable {input : Input}

theorem attemptOk (ok : input.attempt result = .ok a) : input.fault = none ∧ result = .ok a := by
  unfold Input.attempt at ok
  split at ok
  · cases ok
  · rename_i works
    exact ⟨works,Fallible.mapErrorOk ok⟩

theorem admitOk (ok : checkToken crypto readAddress s input plaintext peer scope = .ok token) :
    token ∈ s.tokens ∧ token.revokedAt = none := by
  obtain ⟨credential,_,ok⟩ := Fallible.bindOk ok
  obtain ⟨found,looked,ok⟩ := Fallible.bindOk ok
  obtain ⟨_,same⟩ := attemptOk looked
  cases same
  split at ok
  · cases ok
  · rename_i row hit
    split at ok <;> try contradiction
    rename_i free
    split at ok <;> try contradiction
    split at ok <;> try contradiction
    split at ok <;> try contradiction
    split at ok <;> cases ok
    exact ⟨List.mem_of_find?_eq_some hit,by simpa using free⟩

theorem findTokenOk {userId id} {token} (ok : findToken s input userId id = .ok token) : Stored s token.key := by
  obtain ⟨found,looked,ok⟩ := Fallible.bindOk ok
  obtain ⟨_,same⟩ := attemptOk looked
  cases same
  split at ok <;> cases ok
  rename_i hit
  exact ⟨token,List.mem_of_find?_eq_some hit,rfl⟩

theorem revokeOk {token token' : ApiToken} (ok : token.revoke instant = .ok token') :
    token' = {token with revokedAt := some instant} := by
  unfold ApiToken.revoke at ok
  split at ok <;> cases ok
  rfl

theorem prepareRevokeOk {userId id : Uuid} (ok : prepareRevoke s input userId id = .ok token) :
    Stored s token.key ∧ token.revokedAt ≠ none := by
  obtain ⟨found,looked,ok⟩ := Fallible.bindOk ok
  rw [revokeOk (Fallible.mapErrorOk ok)]
  have stored : Stored s found.key := findTokenOk looked
  exact ⟨stored,by simp⟩

theorem prepareRotateOk {userId id : Uuid}
    (ok : prepareRotate crypto s input userId id = .ok (old,new)) : Stored s old.key ∧ old.revokedAt ≠ none := by
  obtain ⟨found,looked,ok⟩ := Fallible.bindOk ok
  split at ok <;> try contradiction
  obtain ⟨revoked,marked,ok⟩ := Fallible.bindOk ok
  obtain ⟨_,_,ok⟩ := Fallible.bindOk ok
  cases ok
  rw [revokeOk (Fallible.mapErrorOk marked)]
  have stored : Stored s found.key := findTokenOk looked
  exact ⟨stored,by simp⟩

inductive Moves (s : Store) (fault : Option String) : Point → Store → Point → Prop where
  | bearerRefused (p e) : Moves s fault p s (.authenticated (.error e))
  | admitted {plaintext peer scope token now} (read : token ∈ s.tokens) (free : token.revokedAt = none) :
      Moves s fault (.authenticate plaintext peer scope) s (.authUser token now)
  | resolved {token now user} : Moves s fault (.authUser token now) s (.authUpdate user (token.markUsed now))
  | used {user token s'} (works : fault = none) (ok : s.update token = .ok s') :
      Moves s fault (.authUpdate user token) s' (.authenticated (.ok ⟨user,token.id⟩))
  | revokeRefused (p e) : Moves s fault p s (.revoked (.error e))
  | mayRevoke {actor userId id} : Moves s fault (.revoke actor userId id) s (.revokeFind userId id)
  | marked {userId id token} (stored : Stored s token.key) (stands : token.revokedAt ≠ none) :
      Moves s fault (.revokeFind userId id) s (.revokeUpdate token)
  | revoked {token s'} (ok : s.update token = .ok s') : Moves s fault (.revokeUpdate token) s' (.revoked (.ok token.id))
  | rotateRefused (p e) : Moves s fault p s (.rotated (.error e))
  | mayRotate {actor userId id} : Moves s fault (.rotate actor userId id) s (.rotateFind userId id)
  | replaced {userId id old new} (stored : Stored s old.key) (stands : old.revokedAt ≠ none) :
      Moves s fault (.rotateFind userId id) s (.rotateCommit old new)
  | rotated {old new s'} (works : fault = none) (ok : s.rotate old new = .ok s') :
      Moves s fault (.rotateCommit old new) s' (.rotated (.ok old.id))

theorem stepMoves (moved : step crypto readAddress s input p = some (s',p')) : Moves s input.fault p s' p' := by
  cases p <;> simp only [step] at moved
  case authenticate =>
    split at moved <;> cases moved
    · exact .bearerRefused _ _
    · rename_i ok
      exact .admitted (admitOk ok).1 (admitOk ok).2
  case authUser =>
    split at moved <;> cases moved
    · exact .bearerRefused _ _
    · exact .resolved
  case authUpdate =>
    split at moved <;> cases moved
    · exact .bearerRefused _ _
    · rename_i ok
      exact .used (attemptOk ok).1 (attemptOk ok).2
  case authenticated => cases moved
  case revoke =>
    split at moved <;> cases moved
    · exact .revokeRefused _ _
    · exact .mayRevoke
  case revokeFind =>
    split at moved <;> cases moved
    · exact .revokeRefused _ _
    · rename_i ok
      exact .marked (prepareRevokeOk ok).1 (prepareRevokeOk ok).2
  case revokeUpdate =>
    split at moved <;> cases moved
    · exact .revokeRefused _ _
    · rename_i ok
      exact .revoked (attemptOk ok).2
  case revoked => cases moved
  case rotate =>
    split at moved <;> cases moved
    · exact .rotateRefused _ _
    · exact .mayRotate
  case rotateFind =>
    split at moved <;> cases moved
    · exact .rotateRefused _ _
    · rename_i ok
      exact .replaced (prepareRotateOk ok).1 (prepareRotateOk ok).2
  case rotateCommit =>
    split at moved <;> cases moved
    · exact .rotateRefused _ _
    · rename_i ok
      exact .rotated (attemptOk ok).1 (attemptOk ok).2
  case rotated => cases moved

end Steps

section Finality

def unrevoked : Discipline Store Point Input where
  alone s point input := match point with
    | .authUpdate _ token => input.fault = none → ¬ Revoked s token.id
    | .rotateCommit old _ => input.fault = none → ¬ Revoked s old.id
    | _ => True
  beside _ _ _ _ := True

instance (s point input) : Decidable (unrevoked.alone s point input) := by
  unfold unrevoked
  cases point <;> exact inferInstance

instance (s point input other) : Decidable (unrevoked.beside s point input other) :=
  isTrue trivial

def known (s : Store) : Point → Prop
  | .revokeUpdate token => Stored s token.key ∧ token.revokedAt ≠ none
  | .rotateCommit old _ => Stored s old.key ∧ old.revokedAt ≠ none
  | .revoked (.ok id) => Revoked s id
  | .rotated (.ok id) => Revoked s id
  | _ => True

def rotatedFrom (id : Uuid) : Point → Bool
  | .rotated (.ok source) => source == id
  | _ => false

def outline : Outline Store Point where
  shared _ := True
  point := known
  pair p q := ∀ id, rotatedFrom id p = true → rotatedFrom id q = false

variable {crypto : TokenCrypto} {readAddress : String → Option IpAddr} {s s' : Store} {p p' : Point}

theorem movesStored {key} (moves : Moves s fault p s' p') (stored : Stored s key) : Stored s' key := by
  cases moves with
  | used _ ok => exact updateOk ok ▸ changeStored (fun _ => rfl) stored
  | revoked ok => exact updateOk ok ▸ changeStored (fun _ => rfl) stored
  | rotated _ ok => exact insertStored ok (changeStored (fun _ => rfl) stored)
  | _ => exact stored

theorem movesRevoked {input id} (moves : Moves s input.fault p s' p') (here : known s p)
    (allowed : unrevoked.alone s p input) (revoked : Revoked s id) : Revoked s' id := by
  cases moves with
  | used works ok => exact updateRevoked ok (.inr (allowed works)) revoked
  | revoked ok => exact updateRevoked ok (.inl here.2) revoked
  | rotated _ ok => exact rotateRevoked ok here.2 revoked
  | _ => exact revoked

theorem knownStable (stored : ∀ key, Stored s key → Stored s' key) (revoked : ∀ id, Revoked s id → Revoked s' id)
    (holds : known s q) : known s' q := by
  unfold known at holds ⊢
  split
  · exact ⟨stored _ holds.1,holds.2⟩
  · exact ⟨stored _ holds.1,holds.2⟩
  · exact revoked _ holds
  · exact revoked _ holds
  · trivial

theorem movesKnown (moves : Moves s fault p s' p') (here : known s p) : known s' p' := by
  cases moves with
  | marked stored stands => exact ⟨stored,stands⟩
  | replaced stored stands => exact ⟨stored,stands⟩
  | revoked ok => exact updateOk ok ▸ changeRevokes (fun _ => here.2) here.1
  | rotated _ ok => exact insertRevoked ok (changeRevokes (fun _ => here.2) here.1)
  | _ => trivial

theorem outlineSound : outline.Sound (service crypto readAddress) unrevoked where
  symm p q apart id right := by
    by_contra left
    rw [apart id (by simpa using left)] at right
    cases right
  start s p entry := by cases p <;> trivial
  startPair s p q entry _ id rotated := by cases p <;> cases entry <;> cases rotated
  own s p input s' p' _ here allowed moved := ⟨trivial,movesKnown (stepMoves moved) here⟩
  other s p input s' p' q _ here there apart allowed _ moved := by
    have moves := stepMoves moved
    refine ⟨knownStable (fun _ => movesStored moves) (fun _ => movesRevoked moves here allowed) there,?_⟩
    intro id rotated
    cases moves with
    | rotated works ok =>
      by_contra again
      cases q with
      | rotated result =>
        cases result with
        | error => exact again rfl
        | ok source =>
          have first : source = id := by simpa [rotatedFrom] using again
          have second := by simpa [rotatedFrom] using rotated
          exact allowed works (second ▸ first ▸ there)
      | _ => exact again rfl
    | _ => first | exact apart id rotated | cases rotated

def carries (id : Uuid) : Point → Bool
  | .authUser token _ => token.id == id
  | .authUpdate _ token => token.id == id
  | .authenticated (.ok principal) => principal.tokenId == id
  | _ => false

theorem movesCarry {id} (moves : Moves s fault p s' p') (revoked : Revoked s id) (before : carries id p = false) :
    carries id p' = false := by
  cases moves with
  | @admitted _ _ _ token _ read free =>
    obtain ⟨row,mem,hit,stands⟩ := revoked
    refine beq_eq_false_iff_ne.mpr (fun same => stands ?_)
    rw [Rows.equalOfKey s.ids mem read (hit.trans same.symm)]
    exact free
  | resolved => exact before
  | used => exact before
  | _ => rfl

def Returned (id : Uuid) (p : Point) : Prop := p = .revoked (.ok id) ∨ p = .rotated (.ok id)

theorem tokenRevocationFinal {crypto : TokenCrypto} {readAddress : String → Option IpAddr} {s : Store} {es es'} {c c' : Pool Store Point}
    (first : Run (service crypto readAddress).fire unrevoked.guard ⟨s,[]⟩ es c)
    (second : Run (service crypto readAddress).fire unrevoked.guard c es' c') :
    (∀ id, (∃ p ∈ c.calls, Returned id p) → Revoked c'.shared id ∧
      ∀ index user, c.calls.length ≤ index → c'.calls[index]? ≠ some (.authenticated (.ok ⟨user,id⟩))) ∧
    ∀ id, (c'.calls.filter (rotatedFrom id)).length ≤ 1 := by
  have holds : outline.Holds c := Outline.runHolds outlineSound first (Outline.emptyHolds trivial)
  have ends : outline.Holds c' := Outline.runHolds outlineSound second holds
  refine ⟨?_,fun id => ?_⟩
  · rintro id ⟨p,mem,returned⟩
    have revoked : Revoked c.shared id := by
      rcases returned with rfl | rfl <;> exact holds.point _ mem
    have final := Outline.laterKeeps (S := fun s => Revoked s id) (P := fun p => carries id p = false) outlineSound
      (fun p entry => by cases p <;> first | rfl | cases entry)
      (fun _ _ _ _ _ _ here revoked alone moved => ⟨movesRevoked (stepMoves moved) here alone revoked,
        movesCarry (stepMoves moved) revoked⟩) second holds revoked
    refine ⟨final.1,fun index user after position => ?_⟩
    have free := final.2 index _ after position
    simp [carries] at free
  · refine atMostOne (fun i j p q different left right firstRotated secondRotated => ?_)
    rw [ends.pair i j p q different left right id firstRotated] at secondRotated
    cases secondRotated

end Finality

def plainCrypto : TokenCrypto where
  checksum _ := "AAAA".toList
  hash body := BitVec.ofNat 256 (body.foldl (fun n c => n * 128 + c.toNat) 0)

def noAddress (_ : String) : Option IpAddr := none

def keyHolder : User :=
  ⟨⟨0x61,⟨"key-holder",by decide⟩,⟨"key-holder@panel.test",by decide⟩,.user,none,none,0⟩,"$argon2id$v=19$key",none,none⟩

def sitesRead : TokenScope := ⟨"sites:read",by decide⟩

def body : List Char := "ABCDEFGHIJKLMNOPQRSTUVWX".toList

def heldToken : ApiToken :=
  ⟨0x71,0x61,"deploy".toList,plainCrypto.hash body,[sitesRead],[],0,seconds 1000,none,none⟩

def heldStore : Store := ⟨[keyHolder],[heldToken],by decide⟩

def presenting : Event Point Input :=
  .start (.authenticate ("openpanel_pat_" ++ String.ofList body ++ ".AAAA") (.v4 1#32) sitesRead)

def stepping (index : Nat) (now : Int) : Event Point Input :=
  .step index ⟨none,seconds now,seconds now,none,0x72,"fresh".toList⟩

abbrev tokens := service plainCrypto noAddress

def revoking : List (Event Point Input) := [.start (.revoke keyHolder 0x61 0x71),stepping 0 5,stepping 0 6,stepping 0 7]

theorem revokedTokenRefused : ∃ between last,
    Run tokens.fire unrevoked.guard ⟨heldStore,[]⟩ revoking between ∧
      Run tokens.fire unrevoked.guard between [presenting,stepping 1 8] last ∧ Revoked last.shared 0x71 := by
  obtain ⟨between,last,ran,revoked,later,_⟩ := replayTwice tokens.fire unrevoked.guard ⟨heldStore,[]⟩ revoking [presenting,stepping 1 8]
    (fun c => .revoked (.ok 0x71) ∈ c.calls) (fun _ => True) (by decide +kernel)
  have final := tokenRevocationFinal ran later
  exact ⟨between,last,ran,later,(final.1 0x71 ⟨_,revoked,.inl rfl⟩).1⟩

theorem revokedTokenAccepted : ∃ between last,
    Run tokens.fire free ⟨heldStore,[]⟩
      ([presenting,stepping 0 3,stepping 0 4,.start (.revoke keyHolder 0x61 0x71),stepping 1 5,stepping 1 6,stepping 1 7])
      between ∧
      .revoked (.ok 0x71) ∈ between.calls ∧
      Run tokens.fire free between [stepping 0 8,presenting,stepping 2 9,stepping 2 10,stepping 2 11] last ∧
      ¬ Revoked last.shared 0x71 ∧ last.calls[2]? = some (.authenticated (.ok ⟨keyHolder,0x71⟩)) := replayTwice _ _ _ _ _ _ _ (by decide +kernel)

end OpenPanel.ApiTokens
