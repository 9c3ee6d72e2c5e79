import OpenPanel.Fallible
import OpenPanel.TotpCodes
import OpenPanel.TwoFactorService

/-! One-time use across interleaved verifications. A call checks a code against its
copy of the factor, writes the copy back and closes the challenge at last; another call
may have done the same in between. -/
namespace OpenPanel.TwoFactor
open CallPool GuardedRun Fallible

def codeCounter (step : Int) : Nat := step.toNat / 30

section OneTime

def verifyMachine (crypto : TwoFactorCrypto) : Machine FactorStore VerifyPoint Fault where
  entry
    | .token _ => true
    | _ => false
  step := VerifyPoint.step crypto

def Accepted.totp (accepted : Accepted) : Option (Uuid × Int) :=
  match accepted.factorId,accepted.step with
  | some factor,some step => some (factor,step)
  | _,_ => none

namespace VerifyPoint

def closes : VerifyPoint → Option Uuid
  | .auditSuccess call _ => some call.challengeId
  | .verified call _ => some call.challengeId
  | _ => none

def used : VerifyPoint → Option (Uuid × Int)
  | .consume _ accepted => accepted.totp
  | .mark _ accepted => accepted.totp
  | .auditSuccess _ accepted => accepted.totp
  | .verified _ accepted => accepted.totp
  | _ => none

def copied : VerifyPoint → Option Uuid
  | .totpSecret _ _ _ factor => some factor.id
  | .storeStep _ _ factor _ => some factor.id
  | _ => none

def Recorded : VerifyPoint → Prop
  | .storeStep _ _ factor step => factor.lastUsedStep = some step
  | _ => True

/-- The step a call stores is of a later counter than the stored one, and a
challenge is usable when it is looked up and when it is marked. -/
def fresh (store : FactorStore) : VerifyPoint → Bool
  | .storeStep _ _ factor step => store.factors.all (fun row => row.id != factor.id ||
      row.lastUsedStep.all (fun previous => decide (codeCounter previous < codeCounter step)))
  | .consume call _ => (store.findChallenge call.challengeId).any (fun row => row.isUsable call.now)
  | .mark call _ => (store.findChallenge call.challengeId).any (fun row => row.isUsable call.now)
  | _ => true

end VerifyPoint

def oneTime : Discipline FactorStore VerifyPoint Fault where
  alone store point fault := fault = none → point.fresh store = true
  beside _ _ _ _ := True

instance (store point fault) : Decidable (oneTime.alone store point fault) := by
  unfold oneTime
  infer_instance

instance (store point fault other) :
    Decidable (oneTime.beside store point fault other) := by
  unfold oneTime
  infer_instance

structure Quiet (store store' : FactorStore) (point point' : VerifyPoint) : Prop where
  factors : store'.factors = store.factors
  challenges : store'.challenges = store.challenges
  closes : ∀ id ∈ point'.closes, id ∈ point.closes
  used : ∀ code ∈ point'.used, code ∈ point.used
  copied : ∀ id ∈ point'.copied, id ∈ point.copied ∨ store.hasFactor id = true
  recorded : point'.Recorded

variable {store store' : FactorStore}

def Unburdened (point : VerifyPoint) : Prop :=
  point.closes = none ∧ point.used = none ∧ point.copied = none ∧ point.Recorded

theorem Quiet.nothing (factors : store'.factors = store.factors) (challenges : store'.challenges = store.challenges)
    (free : Unburdened point') : Quiet store store' point point' := by
  obtain ⟨closes,used,copied,recorded⟩ := free
  exact ⟨factors,challenges,by simp [closes],by simp [used],by simp [copied],recorded⟩

theorem idleNothing (idle : point.idle = true) : Unburdened point := by
  cases point <;> first | contradiction | exact ⟨rfl,rfl,rfl,trivial⟩

theorem recordedStep {factor factor' : Factor} (ok : factor.recordUsedStep step = .ok factor') :
    factor'.id = factor.id ∧ factor'.lastUsedStep = some step := by
  unfold Factor.recordUsedStep at ok
  split at ok <;> try contradiction
  split at ok <;> try contradiction
  cases ok
  exact ⟨rfl,rfl⟩

theorem verifiedTotp (ok : verifyTotp crypto factor encrypted code now = .ok (factor',step)) :
    factor'.id = factor.id ∧ factor'.lastUsedStep = some step := by
  obtain ⟨_,_,ok⟩ := bindOk ok
  obtain ⟨_,_,ok⟩ := bindOk ok
  obtain ⟨_,_,ok⟩ := bindOk ok
  obtain ⟨_,recorded,ok⟩ := bindOk ok
  cases ok
  exact recordedStep (mapErrorOk recorded)

theorem activeStored (found : store.findActiveTotpFactor user = some factor) : store.hasFactor factor.id = true := by
  obtain ⟨row,hit,rfl⟩ := Option.map_eq_some_iff.mp found
  exact List.any_eq_true.mpr ⟨row,List.mem_of_find?_eq_some hit,beq_self_eq_true _⟩

theorem freshMove (fresh : oneTime.alone store point fault) (moved : point.step crypto store fault = some (store',point')) :
    Quiet store store' point point' ∨
      (∃ call user factor step, point = .storeStep call user factor step ∧ point.fresh store = true ∧
        store' = store.updateFactor factor ∧ point' = .consume call ⟨user,some factor.id,some step⟩) ∨
      (∃ call accepted, point = .mark call accepted ∧ point.fresh store = true ∧
        store' = store.markChallenge call.challengeId call.now ∧ point' = .auditSuccess call accepted) := by
  cases verifyMove moved with
  | idle idle factors challenges _ =>
    exact .inl (Quiet.nothing factors challenges (idleNothing idle))
  | copied found =>
    refine .inl ⟨rfl,rfl,by simp [VerifyPoint.closes],by simp [VerifyPoint.used],?_,trivial⟩
    rintro id ⟨⟩
    exact .inr (activeStored found)
  | checked verified =>
    obtain ⟨same,recorded⟩ := verifiedTotp verified
    refine .inl ⟨rfl,rfl,by simp [VerifyPoint.closes],by simp [VerifyPoint.used],?_,recorded⟩
    rintro id ⟨⟩
    exact .inl (congrArg some same.symm)
  | stored => exact .inr (.inl ⟨_,_,_,_,rfl,fresh rfl,rfl,rfl⟩)
  | recovered => exact .inl (Quiet.nothing rfl rfl ⟨rfl,rfl,rfl,trivial⟩)
  | asserted => exact .inl (Quiet.nothing rfl rfl ⟨rfl,rfl,rfl,trivial⟩)
  | mismatched => exact .inl (Quiet.nothing rfl rfl ⟨rfl,rfl,rfl,trivial⟩)
  | touched => exact .inl (Quiet.nothing rfl rfl ⟨rfl,rfl,rfl,trivial⟩)
  | opened => exact .inl ⟨rfl,rfl,by simp [VerifyPoint.closes],fun _ mem => mem,by simp [VerifyPoint.copied],trivial⟩
  | skipped unusable =>
    have usable := fresh rfl
    rw [VerifyPoint.fresh,unusable] at usable
    cases usable
  | marked => exact .inr (.inr ⟨_,_,rfl,fresh rfl,rfl,rfl⟩)
  | finished => exact .inl ⟨rfl,rfl,fun _ mem => mem,fun _ mem => mem,by simp [VerifyPoint.copied],trivial⟩

end OneTime

section Outline

def Closed (store : FactorStore) (id : Uuid) : Prop :=
  (store.findChallenge id).any (fun row => row.consumedAt.isSome) = true

def Spent (store : FactorStore) (code : Uuid × Int) : Prop :=
  ∃ row ∈ store.factors, row.id = code.1 ∧ ∃ previous ∈ row.lastUsedStep, codeCounter code.2 ≤ codeCounter previous

structure Held (store : FactorStore) (point : VerifyPoint) : Prop where
  closes : ∀ id ∈ point.closes, Closed store id
  used : ∀ code ∈ point.used, Spent store code
  copied : ∀ id ∈ point.copied, store.hasFactor id = true
  recorded : point.Recorded

structure Apart (p q : VerifyPoint) : Prop where
  closes : ∀ id ∈ p.closes, id ∉ q.closes
  used : ∀ a ∈ p.used, ∀ b ∈ q.used, a.1 = b.1 → codeCounter a.2 ≠ codeCounter b.2

def verifyOutline : Outline FactorStore VerifyPoint where
  shared _ := True
  point := Held
  pair := Apart

variable {crypto : TwoFactorCrypto} {store store' : FactorStore} {point point' other : VerifyPoint}

theorem Held.unchanged (held : Held store point) (factors : store'.factors = store.factors)
    (challenges : store'.challenges = store.challenges) : Held store' point where
  closes id mem := by
    have closed := held.closes id mem
    rwa [Closed,FactorStore.findChallenge,challenges]
  used code mem := by
    have spent := held.used code mem
    rwa [Spent,factors]
  copied id mem := by
    have stored := held.copied id mem
    rwa [FactorStore.hasFactor,factors]
  recorded := held.recorded

theorem entryFree (entry : (verifyMachine crypto).entry point = true) : Unburdened point := by
  cases point <;> first | contradiction | exact ⟨rfl,rfl,rfl,trivial⟩

theorem hasFactorUpdated {factor id} : (store.updateFactor factor).hasFactor id = store.hasFactor id := by
  have keys : (store.updateFactor factor).factors.map (fun row => row.id) = store.factors.map (fun row => row.id) :=
    Rows.updateKeys (fun _ _ => rfl)
  have mapped := congrArg (fun ids => ids.any (fun known => known == id)) keys
  simpa only [FactorStore.hasFactor,List.any_map,Function.comp_def] using mapped

theorem freshStep (fresh : (VerifyPoint.storeStep call user factor step).fresh store = true) (mem : row ∈ store.factors)
    (same : row.id = factor.id) (stored : previous ∈ row.lastUsedStep) : codeCounter previous < codeCounter step := by
  have checked := List.all_eq_true.mp fresh row mem
  rw [Option.mem_def] at stored
  simpa [same,stored] using checked

theorem spentUpdated
    (fresh : (VerifyPoint.storeStep call user factor step).fresh store = true) (recorded : factor.lastUsedStep = some step)
    (spent : Spent store code) : Spent (store.updateFactor factor) code := by
  obtain ⟨row,mem,same,previous,stored,le⟩ := spent
  by_cases hit : row.id = factor.id
  · have later := freshStep fresh mem hit stored
    exact ⟨_,Rows.updateHit mem hit,same,step,recorded,by omega⟩
  · exact ⟨row,Rows.updateOther mem hit,same,previous,stored,le⟩

theorem spentStored (recorded : factor.lastUsedStep = some step)
    (stored : store.hasFactor factor.id = true) : Spent (store.updateFactor factor) (factor.id,step) := by
  obtain ⟨row,mem,same⟩ := List.any_eq_true.mp stored
  have hit : row.id = factor.id := beq_iff_eq.mp same
  exact ⟨_,Rows.updateHit mem hit,hit,step,recorded,Nat.le_refl _⟩

theorem markedFound {id now} : (store.markChallenge id now).findChallenge id =
    (store.findChallenge id).map (fun row => {row with consumedAt := some now}) :=
  Rows.findUpdated (fun _ hit => hit)

theorem closedMarked {id other now} (closed : Closed store other) : Closed (store.markChallenge id now) other := by
  by_cases same : id = other
  · subst same
    obtain ⟨row,found,_⟩ := (Option.any_eq_true _ _).mp closed
    rw [Closed,markedFound,found]
    rfl
  · have kept : (store.markChallenge id now).findChallenge other = store.findChallenge other :=
      Rows.findUpdate (fun row hit => by simp [hit,same])
    rwa [Closed,kept]

theorem Apart.symm (apart : Apart p q) : Apart q p :=
  ⟨fun id left right => apart.closes id right left,
    fun a left b right same different => apart.used b right a left same.symm different.symm⟩

theorem verifySound : verifyOutline.Sound (verifyMachine crypto) oneTime where
  symm _ _ apart := apart.symm
  start s p entry := by
    obtain ⟨closes,used,copied,recorded⟩ := entryFree entry
    exact ⟨by simp [closes],by simp [used],by simp [copied],recorded⟩
  startPair s p q entry _ := by
    obtain ⟨closes,used,_⟩ := entryFree entry
    exact ⟨by simp [closes],by simp [used]⟩
  own s p i s' p' _ held alone moved := by
    refine ⟨trivial,?_⟩
    rcases freshMove alone moved with quiet | ⟨call,user,factor,step,rfl,fresh,rfl,rfl⟩ | ⟨call,accepted,rfl,fresh,rfl,rfl⟩
    · have same := held.unchanged quiet.factors quiet.challenges
      refine ⟨fun id mem => same.closes id (quiet.closes id mem),fun code mem => same.used code (quiet.used code mem),?_,
        quiet.recorded⟩
      intro id mem
      rcases quiet.copied id mem with before | found
      · exact same.copied id before
      · rwa [FactorStore.hasFactor,quiet.factors]
    · refine ⟨by simp [VerifyPoint.closes],?_,by simp [VerifyPoint.copied],trivial⟩
      rintro code ⟨⟩
      exact spentStored held.recorded (held.copied _ rfl)
    · refine ⟨?_,held.used,by simp [VerifyPoint.copied],trivial⟩
      rintro id ⟨⟩
      obtain ⟨row,found,_⟩ := (Option.any_eq_true _ _).mp fresh
      rw [Closed,markedFound,found]
      rfl
  other s p i s' p' q _ held heldQ apart alone _ moved := by
    rcases freshMove alone moved with quiet | ⟨call,user,factor,step,rfl,fresh,rfl,rfl⟩ | ⟨call,accepted,rfl,fresh,rfl,rfl⟩
    · exact ⟨heldQ.unchanged quiet.factors quiet.challenges,fun id mem => apart.closes id (quiet.closes id mem),
        fun a mem => apart.used a (quiet.used a mem)⟩
    · refine ⟨⟨heldQ.closes,fun code mem => spentUpdated fresh held.recorded (heldQ.used code mem),fun id mem => ?_,
        heldQ.recorded⟩,by simp [VerifyPoint.closes],?_⟩
      · rw [hasFactorUpdated]
        exact heldQ.copied id mem
      · -- What the other call used is at most the stored step, and this one is later.
        rintro code ⟨⟩ b mem same
        obtain ⟨row,stored,id,previous,last,le⟩ := heldQ.used b mem
        have later := freshStep fresh stored (id.trans same.symm) last
        simp only at later ⊢
        omega
    · refine ⟨⟨fun id mem => closedMarked (heldQ.closes id mem),heldQ.used,heldQ.copied,heldQ.recorded⟩,?_,apart.used⟩
      rintro id ⟨⟩ mem
      obtain ⟨row,found,closed⟩ := (Option.any_eq_true _ _).mp (heldQ.closes _ mem)
      rw [VerifyPoint.fresh,found] at fresh
      simp only [Option.any_some,TwoFactorChallenge.isUsable,Bool.and_eq_true,Option.isNone_iff_eq_none] at fresh
      rw [fresh.1] at closed
      cases closed

def VerifyPoint.succeeded (id : Uuid) : VerifyPoint → Bool
  | .verified call _ => call.challengeId == id
  | _ => false

theorem succeededCloses {id} (succeeded : point.succeeded id = true) : id ∈ point.closes := by
  cases point <;> try contradiction
  exact congrArg some (beq_iff_eq.mp succeeded)

theorem codesOneTime (crypto : TwoFactorCrypto) (start : FactorStore) {events : List (Event VerifyPoint Fault)}
    {last : Pool FactorStore VerifyPoint} (run : Run (verifyMachine crypto).fire oneTime.guard ⟨start,[]⟩ events last) :
    (∀ id, (last.calls.filter (VerifyPoint.succeeded id)).length ≤ 1) ∧
      ∀ (i j : Nat) call call' accepted accepted', i ≠ j → last.calls[i]? = some (.verified call accepted) →
        last.calls[j]? = some (.verified call' accepted') → ∀ factor step step', accepted.totp = some (factor,step) →
          accepted'.totp = some (factor,step') → codeCounter step ≠ codeCounter step' := by
  have holds := Outline.runHolds verifySound run (Outline.emptyHolds trivial)
  refine ⟨fun id => atMostOne (fun i j p q different left right hit hit' => ?_),?_⟩
  · exact (holds.pair i j p q different left right).closes id (succeededCloses hit) (succeededCloses hit')
  · intro i j call call' accepted accepted' different left right factor step step' used used'
    exact (holds.pair i j _ _ different left right).used _ used _ used' rfl

def sampleCrypto : TwoFactorCrypto where
  verifyToken hash token := hash == token
  decrypt text := .ok text
  hexDecode _ := .ok [1]
  hotp := counterDigits
  verifyRecovery code hash := code == hash
  finishAssert response _ := .ok (response,1)
  finishRegister response _ := .ok (response,0)

def sampleChallenge (id : Uuid) : TwoFactorChallenge := ⟨id,7,"token",1000000000000,none⟩

def loginStore : FactorStore where
  factors := [⟨⟨1,7,.totp,none,none⟩,some "secret"⟩]
  enrollments := []
  recoveryCodes := []
  recoverySequence := 0
  challenges := [sampleChallenge 10,sampleChallenge 11]
  credentials := []
  ceremonies := []

def login (challenge : Uuid) (last : Char) (now : DateTime) : Event VerifyPoint Fault :=
  .start (.token ⟨challenge,"token",.totp (fixedCode last),now⟩)

def verifySteps (index count : Nat) : List (Event VerifyPoint Fault) := List.replicate count (.step index none)

def loginsApart : List (Event VerifyPoint Fault) :=
  login 10 '0' 60000000000::verifySteps 0 8 ++ login 11 '1' 960000000000::verifySteps 1 8

theorem codesOneTimeApart : ∃ last,
    Run (verifyMachine sampleCrypto).fire oneTime.guard ⟨loginStore,[]⟩ loginsApart last ∧
      last.calls.countP (VerifyPoint.succeeded 11) = 1 ∧
      ∀ id, (last.calls.filter (VerifyPoint.succeeded id)).length ≤ 1 := by
  obtain ⟨last,run,succeeded⟩ := replayShows (verifyMachine sampleCrypto).fire oneTime.guard ⟨loginStore,[]⟩ loginsApart
    (fun last => last.calls.countP (VerifyPoint.succeeded 11) = 1) (by decide +kernel)
  exact ⟨last,run,succeeded,(codesOneTime sampleCrypto loginStore run).1⟩

def loginsTogether : List (Event VerifyPoint Fault) :=
  login 10 '0' 60000000000::login 10 '0' 60000000000::verifySteps 0 4 ++ verifySteps 1 4 ++ verifySteps 0 4 ++ verifySteps 1 3

theorem codeUsedTwice : ∃ last,
    Run (verifyMachine sampleCrypto).fire free ⟨loginStore,[]⟩ loginsTogether last ∧
      (last.calls.filter (VerifyPoint.succeeded 10)).length = 2 ∧ ∃ call accepted,
        last.calls = [.verified call accepted,.verified call accepted] ∧ accepted.totp = some (1,2) := by
  obtain ⟨last,run,calls⟩ := replayShows (verifyMachine sampleCrypto).fire free ⟨loginStore,[]⟩ loginsTogether (fun last =>
    last.calls = List.replicate 2 (.verified ⟨10,"token",.totp (fixedCode '0'),60000000000⟩ ⟨7,some 1,some 2⟩)) (by decide +kernel)
  exact ⟨last,run,by rw [calls]; rfl,_,_,calls,rfl⟩

end Outline

end OpenPanel.TwoFactor
