import Mathlib.Data.Int.ConditionallyCompleteOrder
import Mathlib.Tactic.NormNum
import OpenPanel.GuardedRun
import OpenPanel.LoginThrottle

/-! Whole histories of login attempts, each a check and, if it is admitted with a
wrong password, a recorded failure. The block that stands on an account is the
one its latest failure wrote, and counts at least the failures any later window
shows. -/
namespace OpenPanel.Security
open Fallible GuardedRun

section Durations

theorem secsOfSecs (secs) : (Duration.fromSecs secs).asSecs = secs := Nat.mul_div_cancel _ (by decide)

def LoginThrottlePolicy.WholeSeconds (policy : LoginThrottlePolicy) : Prop :=
  policy.window % 1000000000 = 0 ∧ policy.base % 1000000000 = 0 ∧ policy.maximum % 1000000000 = 0

instance (policy : LoginThrottlePolicy) : Decidable policy.WholeSeconds := by
  unfold LoginThrottlePolicy.WholeSeconds
  infer_instance

variable (policy : LoginThrottlePolicy)

theorem blockBounded (offense) : (policy.blockDuration offense).asSecs ≤ policy.maximum.asSecs := by
  rw [LoginThrottlePolicy.blockDuration,secsOfSecs]
  exact Nat.min_le_right _ _

theorem blockMonotone (less : fewer ≤ more) : (policy.blockDuration fewer).asSecs ≤ (policy.blockDuration more).asSecs := by
  simp only [LoginThrottlePolicy.blockDuration,secsOfSecs,Nat.one_shiftLeft]
  have exponent : min (fewer - 1) 63 ≤ min (more - 1) 63 := by omega
  have factor := Nat.mul_le_mul_left policy.base.asSecs (Nat.pow_le_pow_right (by decide : 0 < 2) exponent)
  omega

variable {policy}

theorem wholePositive (whole : policy.WholeSeconds) : 0 < policy.base.asSecs :=
  Nat.div_pos (Nat.le_of_dvd (Nat.pos_of_ne_zero policy.valid.2.2.1) (Nat.dvd_of_mod_eq_zero whole.2.1)) (by decide)

theorem blockLength (short : policy.maximum.asSecs ≤ 18446744073709551615) (offense) :
    (policy.blockDuration offense).asSecs = min (policy.base.asSecs * 2 ^ min (offense - 1) 63) policy.maximum.asSecs := by
  rw [LoginThrottlePolicy.blockDuration,secsOfSecs,Nat.one_shiftLeft]
  omega

theorem firstLength (short : policy.maximum.asSecs ≤ 18446744073709551615) : (policy.blockDuration 1).asSecs = policy.base.asSecs := by
  rw [blockLength short,Nat.sub_self,Nat.zero_min,pow_zero,mul_one]
  exact min_eq_left (Nat.div_le_div_right policy.valid.2.2.2)

theorem secondLength (short : policy.maximum.asSecs ≤ 18446744073709551615) (double : policy.maximum.asSecs ≤ 2 * policy.base.asSecs) :
    (policy.blockDuration 2).asSecs = policy.maximum.asSecs := by
  rw [blockLength short]
  norm_num
  omega

theorem blockNonzero (positive : 0 < policy.base.asSecs) (offense) : 0 < (policy.blockDuration offense).asSecs := by
  have maximum : policy.base.asSecs ≤ policy.maximum.asSecs := Nat.div_le_div_right policy.valid.2.2.2
  have first := blockMonotone policy (Nat.zero_le offense)
  have start : (policy.blockDuration 0).asSecs = min (min policy.base.asSecs 18446744073709551615) policy.maximum.asSecs := by
    simp [LoginThrottlePolicy.blockDuration,secsOfSecs]
  omega

end Durations

section Histories

structure LoginAttempt where
  request : LoginRequest
  checkedAt : DateTime
  recordedAt : DateTime

/-- The store, the last reading of the clock, and every wrong attempt that was
admitted, under the key of its account. -/
structure LoginHistory where
  store : ThrottleStore
  clock : DateTime
  wrong : List FailureRow
  deriving DecidableEq

namespace LoginThrottleService
variable (service : LoginThrottleService)

def wrongRows (attempt : LoginAttempt) : List FailureRow :=
  match service.accountKey attempt.request with
  | .ok key => [⟨key,attempt.recordedAt⟩]
  | .error _ => []

def tryLogin (history : LoginHistory) (attempt : LoginAttempt) : Option LoginHistory :=
  if history.clock ≤ attempt.checkedAt ∧ attempt.checkedAt ≤ attempt.recordedAt ∧
      service.allowed attempt.request history.store = false then
    match service.check attempt.request attempt.checkedAt history.store with
    | .ok none => some ⟨(exec (service.recordFailure attempt.request attempt.recordedAt) history.store).2,
        attempt.recordedAt,history.wrong ++ service.wrongRows attempt⟩
    | _ => some {history with clock := attempt.checkedAt}
  else none

/-- The clock is in the years 0 to 9999, the window and the longest block stay in
chrono's range around it, and a count of the failures still fits its type. -/
def fits (history : LoginHistory) (attempt : LoginAttempt) : Prop :=
  seconds (-62167219200) ≤ attempt.recordedAt ∧ attempt.recordedAt < seconds 253402300800 ∧
    minUtc ≤ attempt.recordedAt - service.policy.window ∧
    attempt.recordedAt + seconds service.policy.maximum.asSecs ≤ maxUtc ∧ history.store.failures.length < 4294967295

instance (history : LoginHistory) (attempt : LoginAttempt) : Decidable (service.fits history attempt) := by
  unfold fits
  infer_instance

end LoginThrottleService

end Histories

section Records
variable {service : LoginThrottleService}

def LoginThrottleService.block (service : LoginThrottleService) (now : DateTime) (key : LoginKey) (failures : Nat) :
    TemporaryBlock :=
  ⟨key,now,now + seconds (service.policy.blockDuration (failures - service.policy.attempts.toNat + 1)).asSecs,none⟩

def LoginThrottleService.recorded (service : LoginThrottleService) (now : DateTime) (key : LoginKey)
    (store : ThrottleStore) : ThrottleStore :=
  let noted := {store with failures := store.failures ++ [⟨key,now⟩]}
  let failures := noted.failureCount key (now - service.policy.window)
  if service.policy.attempts.toNat ≤ failures then
    {noted with blocks := upsertBlock (service.block now key failures) noted.blocks}
  else noted

theorem newBlock (based : 0 < service.policy.base.asSecs) (clock : seconds (-62167219200) ≤ now)
    (fits : now + seconds service.policy.maximum.asSecs ≤ maxUtc) (failures) :
    TemporaryBlock.new key now (service.policy.blockDuration (failures - service.policy.attempts.toNat + 1)) =
      .ok (service.block now key failures) := by
  have positive := blockNonzero based (failures - service.policy.attempts.toNat + 1)
  have bounded := blockBounded service.policy (failures - service.policy.attempts.toNat + 1)
  generalize duration : service.policy.blockDuration (failures - service.policy.attempts.toNat + 1) = block at *
  have nonzero : block ≠ 0 := by
    rintro rfl
    exact absurd positive (by decide)
  simp only [DateTime,maxUtc,seconds] at fits clock
  have short : Duration.asSecs block ≤ 9223372036854775 := by omega
  have inRange : Duration.fromSecs (Duration.asSecs block) ≤ maxDelta :=
    Nat.le_trans (Nat.mul_le_mul_right 1000000000 short) (by decide)
  have expires : now + seconds (Duration.asSecs block) ≤ maxUtc := by
    simp only [DateTime,maxUtc,seconds]
    omega
  have accepted : ¬(block = 0 ∨ 9223372036854775807 < Duration.asSecs block) := not_or.mpr ⟨nonzero,by omega⟩
  have inTime : ¬(maxDelta < Duration.fromSecs (Duration.asSecs block) ∨ maxUtc < now + seconds (Duration.asSecs block)) :=
    not_or.mpr ⟨Nat.not_lt.mpr inRange,Int.not_lt.mpr expires⟩
  rw [TemporaryBlock.new,if_neg accepted,if_neg inTime,LoginThrottleService.block,duration]

theorem recordKeyEnds (based : 0 < service.policy.base.asSecs) (clock : seconds (-62167219200) ≤ now)
    (fits : now + seconds service.policy.maximum.asSecs ≤ maxUtc) :
    Ends (service.recordKey now (now - service.policy.window) key retry) store
      (fun _ after => after = service.recorded now key store) (fun _ _ => False) := by
  refine .andThen (.attempts (fun _ noted ran => ?_) (fun _ ran => by contradiction))
  cases ran
  refine .andThen (.knows rfl (.branch (fun reached => ?_) (fun below => ?_)))
  · refine .andThen (.knows (newBlock based clock fits _) (.andThen (.attempts (fun _ after ran => ?_)
      (fun _ ran => by contradiction))))
    cases ran
    exact .returns (by simp [LoginThrottleService.recorded,reached])
  · exact .returns (by simp [LoginThrottleService.recorded,below])

theorem recordFailureEnds (based : 0 < service.policy.base.asSecs) (early : seconds (-62167219200) ≤ now)
    (late : now < seconds 253402300800) (window : minUtc ≤ now - service.policy.window)
    (maximum : now + seconds service.policy.maximum.asSecs ≤ maxUtc) (unlisted : service.allowed request store = false)
    (keyed : service.accountKey request = .ok key) :
    Ends (service.recordFailure request now) store
      (fun _ after => after = service.recorded now (.ip (service.client request)) (service.recorded now key store)) (fun _ _ => False) := by
  have since : service.since now = .ok (now - service.policy.window) := by
    have short : service.policy.window ≤ maxDelta := by
      simp only [DateTime,Duration,minUtc,maxDelta,seconds] at late window ⊢
      omega
    rw [LoginThrottleService.since,if_neg (Nat.not_lt.mpr short),if_neg (Int.not_lt.mpr window)]
  refine .andThen (.knows (by rw [unlisted]) (.branch (fun yes => by contradiction) (fun _ => ?_)))
  refine .andThen (.knows keyed (.andThen (.knows since ?_)))
  refine .after (recordKeyEnds based early maximum) (fun _ noted ran => ?_) (fun _ _ stop => stop)
  subst ran
  refine .after (recordKeyEnds based early maximum) (fun _ after ran => ?_) (fun _ _ stop => stop)
  exact .returns ran

theorem findUpserted (block) (blocks) : (upsertBlock block blocks).find? (fun stored => stored.key == block.key) = some block := by
  unfold upsertBlock
  split
  · rename_i present
    rw [Rows.findUpdated (fun _ _ => rfl)]
    obtain ⟨stored,mem,hit⟩ := List.any_eq_true.mp present
    cases found : blocks.find? (fun stored => stored.key == block.key) with
    | none => exact absurd hit (List.find?_eq_none.mp found stored mem)
    | some old => rfl
  · rename_i absent
    have none : blocks.find? (fun stored => stored.key == block.key) = none := by simpa using absent
    rw [List.find?_append,none]
    simp

theorem findUpsertedOther (different : block.key ≠ other) (blocks) :
    (upsertBlock block blocks).find? (fun stored => stored.key == other) = blocks.find? (fun stored => stored.key == other) := by
  unfold upsertBlock
  split
  · exact Rows.findUpdate (fun stored hit => ⟨by simp [hit,different],by simp [different]⟩)
  · simp [different]

def ThrottleStore.rowsOf (store : ThrottleStore) (key : LoginKey) : List FailureRow :=
  store.failures.filter (fun row => row.key == key)

def ThrottleStore.blockOf (store : ThrottleStore) (key : LoginKey) : Option TemporaryBlock :=
  store.blocks.find? (fun block => block.key == key)

theorem recordedOther (service : LoginThrottleService) (now) (store) (different : key ≠ other) :
    (service.recorded now key store).rowsOf other = store.rowsOf other ∧
      (service.recorded now key store).blockOf other = store.blockOf other := by
  simp only [LoginThrottleService.recorded]
  split
  · exact ⟨by simp [ThrottleStore.rowsOf,different],findUpsertedOther different _⟩
  · exact ⟨by simp [ThrottleStore.rowsOf,different],rfl⟩

def recent (since : DateTime) (rows : List FailureRow) : List FailureRow :=
  rows.filter (fun row => decide (since ≤ row.occurredAt))

theorem recordedOwn (service : LoginThrottleService) (now) (key) (store) :
    let failures := min (recent (now - service.policy.window) (store.rowsOf key ++ [⟨key,now⟩])).length 4294967295
    (service.recorded now key store).rowsOf key = store.rowsOf key ++ [⟨key,now⟩] ∧
      (service.policy.attempts.toNat ≤ failures →
        (service.recorded now key store).blockOf key = some (service.block now key failures)) := by
  have rows : (store.failures ++ [FailureRow.mk key now]).filter (fun row => row.key == key) = store.rowsOf key ++ [⟨key,now⟩] := by
    simp [ThrottleStore.rowsOf]
  have count : ThrottleStore.failureCount {store with failures := store.failures ++ [⟨key,now⟩]} key
      (now - service.policy.window) = min (recent (now - service.policy.window) (store.rowsOf key ++ [⟨key,now⟩])).length 4294967295 := by
    rw [← rows,recent,List.filter_filter]
    simp only [ThrottleStore.failureCount,Bool.and_comm]
  simp only [LoginThrottleService.recorded,count]
  split
  · exact ⟨rows,fun _ => findUpserted (service.block now key _) store.blocks⟩
  · rename_i below
    exact ⟨rows,fun reached => absurd reached below⟩

end Records

section Invariant
variable {service : LoginThrottleService} {attempt : LoginAttempt}

structure Throttled (service : LoginThrottleService) (key : LoginKey) (history : LoginHistory) : Prop where
  logged : history.store.rowsOf key = history.wrong.filter (fun row => row.key == key)
  past : ∀ row ∈ history.store.rowsOf key, row.occurredAt ≤ history.clock
  ordered : (history.store.rowsOf key).Pairwise (fun a b => a.occurredAt ≤ b.occurredAt)
  standing : ∀ last ∈ (history.store.rowsOf key).getLast?,
    service.policy.attempts.toNat ≤
        (recent (last.occurredAt - service.policy.window) (history.store.rowsOf key)).length →
      history.store.blockOf key = some (service.block last.occurredAt key
        (recent (last.occurredAt - service.policy.window) (history.store.rowsOf key)).length)

theorem accountNotIp (keyed : service.accountKey request = .ok key) (address) : LoginKey.ip address ≠ key := by
  have made := mapErrorOk keyed
  simp only [LoginKey.account] at made
  split at made <;> try contradiction
  cases made
  intro same
  have first := congrArg (fun key : LoginKey => key.text.head?) same
  exact absurd first (by simp [LoginKey.ip])

theorem checkedNone (unlisted : service.allowed request store = false) (admitted : service.check request now store = .ok none) :
    ∃ key, service.accountKey request = .ok key ∧ LoginThrottleService.denial store now key = none := by
  simp only [LoginThrottleService.check,unlisted] at admitted
  obtain ⟨key,keyed,passed⟩ := bindOk admitted
  refine ⟨key,keyed,?_⟩
  have first := Except.ok.inj passed
  cases denied : LoginThrottleService.denial store now key with
  | none => rfl
  | some decision =>
    rw [denied] at first
    cases first

theorem tryLoginCases (tried : service.tryLogin history attempt = some next) :
    history.clock ≤ attempt.checkedAt ∧ attempt.checkedAt ≤ attempt.recordedAt ∧
      service.allowed attempt.request history.store = false ∧
      (next = {history with clock := attempt.checkedAt} ∨ ∃ key, service.accountKey attempt.request = .ok key ∧
        next = ⟨(exec (service.recordFailure attempt.request attempt.recordedAt) history.store).2,attempt.recordedAt,
          history.wrong ++ [⟨key,attempt.recordedAt⟩]⟩) := by
  unfold LoginThrottleService.tryLogin at tried
  split at tried <;> try contradiction
  rename_i times
  refine ⟨times.1,times.2.1,times.2.2,?_⟩
  split at tried
  · rename_i admitted
    obtain ⟨key,keyed,_⟩ := checkedNone times.2.2 admitted
    refine .inr ⟨key,keyed,(Option.some.inj tried).symm.trans ?_⟩
    rw [LoginThrottleService.wrongRows,keyed]
  · exact .inl (Option.some.inj tried).symm

theorem throttledStep (whole : service.policy.WholeSeconds)
    (keyed : service.accountKey request = .ok key) (inv : Throttled service key history)
    (fits : service.fits history attempt) (tried : service.tryLogin history attempt = some next) : Throttled service key next := by
  obtain ⟨after,later,unlisted,rfl | ⟨own,mine,rfl⟩⟩ := tryLoginCases tried
  · exact ⟨inv.logged,fun row mem => Int.le_trans (inv.past row mem) after,inv.ordered,inv.standing⟩
  · obtain ⟨early,late,window,maximum,small⟩ := fits
    obtain ⟨_,_,ran,rfl⟩ := (recordFailureEnds (wholePositive whole) early late window maximum unlisted mine).succeeds
    rw [ran]
    have rows := fun store =>
      (recordedOther service attempt.recordedAt store (accountNotIp keyed (service.client attempt.request))).1
    have blocks := fun store =>
      (recordedOther service attempt.recordedAt store (accountNotIp keyed (service.client attempt.request))).2
    have clock : ∀ row ∈ history.store.rowsOf key, row.occurredAt ≤ attempt.recordedAt := fun row mem =>
      Int.le_trans (inv.past row mem) (Int.le_trans after later)
    by_cases same : own = key
    · subst same
      have recorded := recordedOwn service attempt.recordedAt own history.store
      have uncapped : (recent (attempt.recordedAt - service.policy.window) (history.store.rowsOf own ++ [⟨own,attempt.recordedAt⟩])).length ≤
          4294967295 := by
        have some := List.length_filter_le (fun row : FailureRow => row.key == own) history.store.failures
        have less := List.length_filter_le (fun row : FailureRow => decide (attempt.recordedAt - (service.policy.window : Int) ≤ row.occurredAt))
          (history.store.rowsOf own ++ [⟨own,attempt.recordedAt⟩])
        rw [List.length_append,List.length_singleton] at less
        unfold recent ThrottleStore.rowsOf at *
        omega
      rw [Nat.min_eq_left uncapped] at recorded
      refine ⟨?_,?_,?_,?_⟩ <;> simp only [rows,blocks,recorded.1]
      · simp [inv.logged]
      · intro row mem
        rcases List.mem_append.mp mem with old | new
        · exact clock row old
        · rw [List.mem_singleton.mp new]
      · refine List.pairwise_append.mpr ⟨inv.ordered,List.pairwise_singleton _ _,fun a left b right => ?_⟩
        rw [List.mem_singleton.mp right]
        exact clock a left
      · intro last final
        rw [List.getLast?_concat] at final
        cases Option.mem_some_iff.mp final
        exact recorded.2
    · have kept := recordedOther service attempt.recordedAt history.store same
      refine ⟨?_,?_,?_,?_⟩ <;> simp only [rows,blocks,kept.1,kept.2]
      · simp [inv.logged,same]
      · exact clock
      · exact inv.ordered
      · exact inv.standing

end Invariant

/-- The failures of the account in the window ending at the check, once they reach
the threshold, are all at least a block's length ago. -/
def LoginThrottleService.Bounded (service : LoginThrottleService) (history : LoginHistory) (attempt : LoginAttempt) : Prop :=
  ∀ key, service.accountKey attempt.request = .ok key →
    let failures := recent (attempt.checkedAt - service.policy.window) (history.wrong.filter (fun row => row.key == key))
    service.policy.attempts.toNat ≤ failures.length →
    ∀ failure ∈ failures, failure.occurredAt +
      seconds (service.policy.blockDuration (failures.length - service.policy.attempts.toNat + 1)).asSecs ≤ attempt.checkedAt

theorem latestFailure {rows : List FailureRow} (ordered : rows.Pairwise (fun a b => a.occurredAt ≤ b.occurredAt))
    (mem : row ∈ rows) : ∃ last ∈ rows.getLast?, row.occurredAt ≤ last.occurredAt := by
  have some : rows ≠ [] := List.ne_nil_of_mem mem
  refine ⟨rows.getLast some,List.getLast?_eq_getLast_of_ne_nil some,?_⟩
  exact ordered.rel_getLast mem

theorem recentLater (less : earlier ≤ later) (rows) : (recent later rows).length ≤ (recent earlier rows).length := by
  refine (List.monotone_filter_right rows (fun row inside => ?_)).length_le
  simp only [decide_eq_true_eq] at inside ⊢
  exact Int.le_trans less inside

theorem clearExpired {service : LoginThrottleService} {key : LoginKey} {began now : DateTime}
    {failures : Nat} (stands : store.blockOf key = some (service.block began key failures)) (started : began ≤ now)
    (clear : LoginThrottleService.denial store now key = none) : (service.block began key failures).expiresAt ≤ now := by
  by_contra early
  have active : (service.block began key failures).isActive now = true := by
    simp only [TemporaryBlock.isActive,LoginThrottleService.block,Option.isNone_none,Bool.true_and,Bool.and_eq_true]
    exact ⟨decide_eq_true started,decide_eq_true (Int.not_le.mp early)⟩
  unfold ThrottleStore.blockOf at stands
  simp [LoginThrottleService.denial,ThrottleStore.activeBlock,stands,active] at clear

theorem throttleBound (service : LoginThrottleService) (whole : service.policy.WholeSeconds) {start last : LoginHistory}
    {attempts : List LoginAttempt} (fresh : start.store.failures = [] ∧ start.wrong = [])
    (run : Run service.tryLogin service.fits start attempts last) (attempt : LoginAttempt)
    (later : last.clock ≤ attempt.checkedAt) (unlisted : service.allowed attempt.request last.store = false)
    (admitted : service.check attempt.request attempt.checkedAt last.store = .ok none) :
    service.Bounded last attempt := by
  intro key keyed failures reached failure member
  have empty : start.store.rowsOf key = [] := by simp [ThrottleStore.rowsOf,fresh.1]
  have initial : Throttled service key start := by
    constructor <;> simp [empty,fresh.2]
  have inv : Throttled service key last := run.keeps (fun _ _ _ inv fits tried => throttledStep whole keyed inv fits tried) initial
  obtain ⟨own,mine,clear⟩ := checkedNone unlisted admitted
  cases Except.ok.inj (mine.symm.trans keyed)
  obtain ⟨row,window⟩ := List.mem_filter.mp member
  rw [← inv.logged] at row
  obtain ⟨latest,final,before⟩ := latestFailure inv.ordered row
  have past := inv.past latest (List.mem_of_getLast? final)
  have counted : failures.length ≤
      (recent (latest.occurredAt - service.policy.window) (last.store.rowsOf key)).length := by
    have shown : failures = recent (attempt.checkedAt - service.policy.window) (last.store.rowsOf key) := by
      rw [inv.logged]
    rw [shown]
    refine recentLater ?_ _
    simp only [DateTime] at past later ⊢
    omega
  have stands := inv.standing latest final (Nat.le_trans reached counted)
  have expired := clearExpired stands (Int.le_trans past later) clear
  have longer := blockMonotone service.policy
    (Nat.add_le_add_right (Nat.sub_le_sub_right counted service.policy.attempts.toNat) 1)
  simp only [LoginThrottleService.block,DateTime,seconds] at expired before ⊢
  omega

def asciiLowercase (text : List Char) : List Char := text.map Char.toLower

def aliceRequest : LoginRequest := ⟨"alice".toList,.v4 0x0a000001,none⟩

def aliceAt (secs : Int) : LoginAttempt := ⟨aliceRequest,seconds secs,seconds secs⟩

def emptyHistory : LoginHistory := ⟨⟨[],[],[]⟩,0,[]⟩

def pairPolicy : LoginThrottlePolicy := ⟨2,.fromSecs 300,.fromSecs 30,.fromSecs 3600,by decide⟩

def aliceKey : LoginKey := ⟨"account:alice".toList⟩
def addressKey : LoginKey := ⟨"ip:10.0.0.1".toList⟩

def twiceFailed : LoginHistory :=
  ⟨⟨[⟨aliceKey,0⟩,⟨addressKey,0⟩,⟨aliceKey,seconds 10⟩,⟨addressKey,seconds 10⟩],
    [⟨aliceKey,seconds 10,seconds 40,none⟩,⟨addressKey,seconds 10,seconds 40,none⟩],[]⟩,seconds 10,
    [⟨aliceKey,0⟩,⟨aliceKey,seconds 10⟩]⟩

theorem secondWaits : LoginThrottleService.Bounded ⟨asciiLowercase,pairPolicy,[]⟩ twiceFailed (aliceAt 40) := by
  let service : LoginThrottleService := ⟨asciiLowercase,pairPolicy,[]⟩
  have run : Run service.tryLogin service.fits emptyHistory [aliceAt 0,aliceAt 10] twiceFailed := replaySound (by decide +kernel)
  exact throttleBound service (by decide) ⟨rfl,rfl⟩ run (aliceAt 40) (by decide) (by decide) (by decide +kernel)

def endlessPolicy : LoginThrottlePolicy :=
  ⟨1,.fromSecs 1,.fromSecs 9223372036854775808,.fromSecs 9223372036854775808,by decide⟩

def onceFailed : LoginHistory := ⟨⟨[⟨aliceKey,0⟩],[],[]⟩,0,[⟨aliceKey,0⟩]⟩

theorem endlessUnblocked :
    LoginThrottlePolicy.new 1 (.fromSecs 1) (.fromSecs 9223372036854775808) (.fromSecs 9223372036854775808) =
        .ok endlessPolicy ∧
      Run (LoginThrottleService.tryLogin ⟨asciiLowercase,endlessPolicy,[]⟩) free emptyHistory [aliceAt 0] onceFailed ∧
      LoginThrottleService.check ⟨asciiLowercase,endlessPolicy,[]⟩ aliceRequest 0 onceFailed.store = .ok none ∧
      ¬LoginThrottleService.Bounded ⟨asciiLowercase,endlessPolicy,[]⟩ onceFailed (aliceAt 0) := by
  refine ⟨by decide,replaySound (by decide +kernel),by decide +kernel,fun bounded => ?_⟩
  exact absurd (bounded aliceKey (by decide +kernel) (by decide +kernel) ⟨aliceKey,0⟩ (by decide +kernel)) (by decide +kernel)

def LoginThrottleService.failed (service : LoginThrottleService) (store : ThrottleStore) (call : LoginRequest × DateTime) :
    ThrottleStore := (exec (service.recordFailure call.1 call.2) store).2

def ThrottleStore.expiry (store : ThrottleStore) (key : LoginKey) : WithBot Int :=
  (store.blockOf key).map TemporaryBlock.expiresAt

/-- All blocks have one length; or the threshold is one failure, a second failure brings the longest block, and the
first failure outside the window comes late enough for the shortest. -/
def LoginThrottlePolicy.Level (policy : LoginThrottlePolicy) : Prop :=
  policy.base.asSecs = 0 ∨ policy.maximum.asSecs ≤ policy.base.asSecs ∨ policy.attempts.toNat = 4294967295 ∨
  (policy.attempts.toNat = 1 ∧ policy.maximum.asSecs ≤ 2 * policy.base.asSecs ∧
    seconds policy.maximum.asSecs ≤ policy.window + 1 + seconds policy.base.asSecs)

section Extended

variable {service : LoginThrottleService} {store : ThrottleStore} {key : LoginKey} {now clock : DateTime}

theorem upsertedExpiry (store : ThrottleStore) (block failures allowlists) :
    ThrottleStore.expiry ⟨failures,upsertBlock block store.blocks,allowlists⟩ = Function.update store.expiry block.key block.expiresAt := by
  funext other
  rw [Function.update_apply]
  split
  · rename_i same
    subst same
    exact congrArg (Option.map TemporaryBlock.expiresAt) (findUpserted block store.blocks)
  · rename_i different
    exact congrArg (Option.map TemporaryBlock.expiresAt) (findUpsertedOther (Ne.symm different) store.blocks)

/-- Every block ends within `longest` of a failure of its key. -/
def Covered (longest : Nat) (clock : DateTime) (store : ThrottleStore) : Prop := ∀ key (expires : Int), store.expiry key = expires →
  ∃ row ∈ store.failures, row.key = key ∧ row.occurredAt ≤ clock ∧ expires ≤ row.occurredAt + seconds longest

/-- No block is longer than `longest`, and a shorter one follows only a lone failure that comes late enough. -/
def Even (policy : LoginThrottlePolicy) (longest : Nat) : Prop := ∀ failures, policy.attempts.toNat ≤ failures → failures ≤ 4294967295 →
  let block := (policy.blockDuration (failures - policy.attempts.toNat + 1)).asSecs
  block = 0 ∨ block ≤ longest ∧ (longest ≤ block ∨ failures = 1 ∧ seconds longest ≤ policy.window + 1 + seconds block)

theorem newExpires (made : TemporaryBlock.new key now duration = .ok block) :
    block.key = key ∧ block.expiresAt = now + seconds duration.asSecs ∧ duration ≠ 0 := by
  unfold TemporaryBlock.new at made
  split at made <;> try contradiction
  split at made <;> try contradiction
  cases made
  exact ⟨rfl,rfl,fun zero => by simp_all⟩

def Grown (longest : Nat) (now : DateTime) (store next : ThrottleStore) : Prop := store.expiry ≤ next.expiry ∧ Covered longest now next

theorem recordKeyGrows (even : Even service.policy longest) (covered : Covered longest clock store) (later : clock ≤ now) (key retry) :
    Leaves (service.recordKey now (now - service.policy.window) key retry) store (Grown longest now store) := by
  refine .andThen (.attempts (fun _ noted ran => ?_) nofun)
  cases ran
  have noted : Grown longest now store {store with failures := store.failures ++ [⟨key,now⟩]} := by
    refine ⟨le_rfl,fun other expires stands => ?_⟩
    obtain ⟨row,mem,own,past,bound⟩ := covered other expires stands
    exact ⟨row,List.mem_append_left _ mem,own,Int.le_trans past later,bound⟩
  refine .andThen (.knows rfl (.branch (fun reached => .asks (fun block made => ?_) (fun _ _ => noted)) (fun _ => .returns noted)))
  obtain ⟨rfl,expires,nonzero⟩ := newExpires made
  have length : (service.policy.blockDuration _).asSecs ≠ 0 := fun zero => nonzero (by
    rw [LoginThrottlePolicy.blockDuration,secsOfSecs] at zero
    rw [LoginThrottlePolicy.blockDuration,zero]
    rfl)
  obtain ⟨bounded,enough⟩ := (even _ reached (Nat.min_le_right _ _)).resolve_left length
  have lasts : store.expiry block.key ≤ (block.expiresAt : WithBot Int) := by
    cases stands : store.expiry block.key with
    | bot => exact bot_le
    | coe old =>
      obtain ⟨row,mem,own,past,bound⟩ := covered block.key old stands
      rw [WithBot.coe_le_coe,expires]
      rcases enough with whole | ⟨lone,late⟩
      · simp only [DateTime,seconds] at bound past later ⊢
        omega
      · -- The one failure counted is the new one, so the old one lies before the window.
        have outside : row.occurredAt < now - service.policy.window := by
          by_contra inside
          simp only [ThrottleStore.failureCount,List.filter_append,List.length_append] at lone
          simp only [DateTime,tsub_le_iff_right,beq_self_eq_true,Bool.true_and,List.filter_cons,List.filter_nil] at lone
          rcases min_le_iff.mp lone.le with one | none
          · have alone : ∀ row ∈ store.failures, row.key = block.key → row.occurredAt + (service.policy.window : Int) < now := by simpa using one
            exact inside (Int.lt_sub_right_of_add_lt (alone row mem own))
          · exact absurd none (by decide)
        simp only [DateTime,seconds] at bound outside late ⊢
        omega
  refine .andThen (.attempts (fun _ next ran => .returns ?_) nofun)
  cases ran
  have updated := upsertedExpiry store block (store.failures ++ [⟨block.key,now⟩]) store.allowlists
  refine ⟨?_,fun other ends stands => ?_⟩
  · rw [updated]
    exact le_update_iff.mpr ⟨lasts,fun _ _ => le_rfl⟩
  · rw [updated,Function.update_apply] at stands
    split at stands
    · rename_i same
      refine ⟨⟨block.key,now⟩,by simp,same.symm,Int.le_refl _,?_⟩
      rw [← WithBot.coe_inj.mp stands,expires]
      simp only [DateTime,seconds]
      omega
    · exact noted.2 other ends stands

theorem failedGrows (even : Even service.policy longest) (covered : Covered longest clock store) (call : LoginRequest × DateTime)
    (later : clock ≤ call.2) : Grown longest call.2 store (service.failed store call) := by
  have still : Grown longest call.2 store store := by
    refine ⟨le_rfl,fun key expires stands => ?_⟩
    obtain ⟨row,mem,own,past,bound⟩ := covered key expires stands
    exact ⟨row,mem,own,Int.le_trans past later,bound⟩
  have ends : Leaves (service.recordFailure call.1 call.2) store (Grown longest call.2 store) := by
    refine .andThen (.knows rfl (.branch (fun _ => .returns still) (fun _ => ?_)))
    refine .asks (fun account _ => .asks (fun since made => ?_) (fun _ _ => still)) (fun _ _ => still)
    have window : since = call.2 - service.policy.window := by
      unfold LoginThrottleService.since at made
      split at made <;> try contradiction
      split at made <;> cases made
      rfl
    subst window
    refine .after (recordKeyGrows even covered later account none) (fun retry mid first => ?_) (fun _ _ first => first)
    refine .after (recordKeyGrows even first.2 (Int.le_refl _) _ retry) (fun _ _ second => .returns ?_) (fun _ _ second => ?_)
    · exact ⟨first.1.trans second.1,second.2⟩
    · exact ⟨first.1.trans second.1,second.2⟩
  exact ends.always

def LoginThrottleService.failedAll (service : LoginThrottleService) (calls : List (LoginRequest × DateTime)) : ThrottleStore :=
  calls.foldl service.failed ⟨[],[],[]⟩

def Clocked (calls : List (LoginRequest × DateTime)) : Prop := calls.Pairwise (fun earlier later => earlier.2 ≤ later.2)

/-- Along a run of failures whose clock does not go back, no block comes to end earlier than it did. -/
def LoginThrottleService.OnlyExtends (service : LoginThrottleService) : Prop :=
  ∀ calls, Clocked calls → ∀ before, before <+: calls → (service.failedAll before).expiry ≤ (service.failedAll calls).expiry

theorem runGrows (even : Even service.policy longest) (calls) (clocked : Clocked calls) :
    (∀ earlier, earlier <+: calls → (service.failedAll earlier).expiry ≤ (service.failedAll calls).expiry) ∧
      ∀ clock, (∀ call ∈ calls, call.2 ≤ clock) → Covered longest clock (service.failedAll calls) := by
  induction calls using List.reverseRecOn with
  | nil => exact ⟨fun earlier none => by rw [List.prefix_nil.mp none],fun _ _ _ _ => nofun⟩
  | append_singleton calls call ih =>
    obtain ⟨before,_,order⟩ := List.pairwise_append.mp clocked
    obtain ⟨grows,covers⟩ := ih before
    have step := failedGrows even (covers call.2 (fun other mem => order other mem call (List.mem_singleton_self _))) call (Int.le_refl _)
    have last : service.failedAll (calls ++ [call]) = service.failed (service.failedAll calls) call := List.foldl_append
    rw [last]
    refine ⟨fun earlier within => ?_,fun clock past key expires stands => ?_⟩
    · rcases List.prefix_concat_iff.mp within with rfl | inside
      · rw [last]
      · exact (grows earlier inside).trans step.1
    · obtain ⟨row,mem,own,late,bound⟩ := step.2 key expires stands
      exact ⟨row,mem,own,Int.le_trans late (past call (by simp)),bound⟩

theorem levelEven (short : service.policy.maximum.asSecs ≤ 18446744073709551615) (level : service.policy.Level) :
    ∃ longest, Even service.policy longest := by
  have first := firstLength short
  rcases level with none | equal | cap | ⟨one,double,late⟩
  · refine ⟨0,fun failures _ _ => .inl ?_⟩
    rw [blockLength short,none]
    simp
  · refine ⟨service.policy.maximum.asSecs,fun failures _ _ => .inr ⟨blockBounded _ _,.inl ?_⟩⟩
    have more := blockMonotone service.policy (Nat.le_add_left 1 (failures - service.policy.attempts.toNat))
    omega
  · refine ⟨(service.policy.blockDuration 1).asSecs,fun failures least most => .inr ?_⟩
    rw [Nat.le_antisymm most (cap ▸ least),cap]
    exact ⟨Nat.le_refl _,.inl (Nat.le_refl _)⟩
  · refine ⟨service.policy.maximum.asSecs,fun failures least _ => .inr ⟨blockBounded _ _,?_⟩⟩
    rw [one] at least ⊢
    by_cases lone : failures = 1
    · rw [lone]
      exact .inr ⟨rfl,by rw [first]; exact late⟩
    · have second := secondLength short double
      have more := blockMonotone service.policy (show 2 ≤ failures - 1 + 1 by omega)
      exact .inl (second ▸ more)

section Drops

variable {request : LoginRequest} (keyed : service.accountKey request = .ok key) (based : 0 < service.policy.base.asSecs)
  (ranged : service.policy.window ≤ Duration.fromSecs 3000000000 ∧ service.policy.maximum ≤ Duration.fromSecs 3000000000)

def failedAt (service : LoginThrottleService) (request : LoginRequest) (times : List DateTime) : ThrottleStore :=
  service.failedAll (times.map (fun time => (request,time)))

theorem failedLast (times time) :
    failedAt service request (times ++ [time]) = service.failed (failedAt service request times) (request,time) := by
  simp [failedAt,LoginThrottleService.failedAll]

-- The failures that one at `last` counts.
def LoginThrottlePolicy.counted (policy : LoginThrottlePolicy) (last : DateTime) (times : List DateTime) : Nat :=
  times.countP (fun time => decide (last - (policy.window : Int) ≤ time))

include keyed based ranged

theorem failedAtEnds (times : List DateTime) (within : ∀ time ∈ times, 0 ≤ time ∧ time ≤ (service.policy.window : Int) + 1) :
    (failedAt service request times).rowsOf key = times.map (FailureRow.mk key) ∧ (failedAt service request times).allowlists = [] ∧
      ∀ front last, times = front ++ [last] →
        let failures := min (service.policy.counted last times) 4294967295
        service.policy.attempts.toNat ≤ failures → (failedAt service request times).blockOf key = some (service.block last key failures) := by
  induction times using List.reverseRecOn with
  | nil => exact ⟨rfl,rfl,fun _ _ none => by simp at none⟩
  | append_singleton times time ih =>
    obtain ⟨rows,unlisted,_⟩ := ih (fun time mem => within time (List.mem_append_left _ mem))
    have range := within time (by simp)
    have open_ : service.allowed request (failedAt service request times) = false := by simp [LoginThrottleService.allowed,unlisted]
    have short : service.policy.maximum.asSecs ≤ 3000000000 := Nat.div_le_of_le_mul (by simpa [Duration.fromSecs,Nat.mul_comm] using ranged.2)
    have far := ranged.1
    have clock : seconds (-62167219200) ≤ time ∧ time < seconds 253402300800 ∧ minUtc ≤ time - service.policy.window ∧
        time + seconds service.policy.maximum.asSecs ≤ maxUtc := by
      simp only [DateTime,Duration,Duration.fromSecs,seconds,minUtc,maxUtc] at *
      omega
    obtain ⟨_,_,ran,rfl⟩ := (recordFailureEnds based clock.1 clock.2.1 clock.2.2.1 clock.2.2.2 open_ keyed).succeeds
    have own := recordedOwn service time key (failedAt service request times)
    have other := recordedOther service time (service.recorded time key (failedAt service request times))
      (accountNotIp keyed (service.client request))
    rw [failedLast,LoginThrottleService.failed,ran]
    have lists : ∀ key store, (service.recorded time key store).allowlists = store.allowlists := fun key store => by
      simp only [LoginThrottleService.recorded]
      split <;> rfl
    refine ⟨by rw [other.1,own.1,rows]; simp,by rw [lists,lists,unlisted],fun front last parts => ?_⟩
    obtain ⟨rfl,same⟩ := List.append_inj' parts rfl
    cases same
    have count : (recent (time - service.policy.window) ((failedAt service request times).rowsOf key ++ [⟨key,time⟩])).length =
        service.policy.counted time (times ++ [time]) := by
      simp [LoginThrottlePolicy.counted,rows,recent,List.countP_eq_length_filter,List.filter_append,List.filter_map,Function.comp_def]
    rw [other.2,← count]
    exact own.2

/-- Two failures of a run of which the second leaves the earlier end. -/
theorem dropsAt (front : List DateTime) (earlier later : DateTime)
    (within : ∀ time ∈ front ++ [earlier] ++ [later], 0 ≤ time ∧ time ≤ (service.policy.window : Int) + 1)
    (clocked : (front ++ [earlier] ++ [later]).Pairwise (· ≤ ·)) (long short : Nat)
    (first : service.policy.counted earlier (front ++ [earlier]) = service.policy.attempts.toNat + long)
    (second : service.policy.counted later (front ++ [earlier] ++ [later]) = service.policy.attempts.toNat + short)
    (small : service.policy.attempts.toNat + long ≤ 4294967295) (fewer : short ≤ long)
    (drop : later + seconds (service.policy.blockDuration (short + 1)).asSecs <
      earlier + seconds (service.policy.blockDuration (long + 1)).asSecs) : ¬ service.OnlyExtends := by
  intro extended
  have lower : (failedAt service request (front ++ [earlier])).expiry key ≤
      (failedAt service request (front ++ [earlier] ++ [later])).expiry key :=
    extended _ (List.pairwise_map.mpr clocked) _ ((List.prefix_append ..).map _) key
  have ends := (failedAtEnds keyed based ranged _ (fun time mem => within time (List.mem_append_left _ mem))).2.2 front earlier rfl
  have again := (failedAtEnds keyed based ranged _ within).2.2 _ later rfl
  rw [first,Nat.min_eq_left small] at ends
  rw [second,Nat.min_eq_left (by omega)] at again
  rw [ThrottleStore.expiry,ThrottleStore.expiry,ends (Nat.le_add_right ..),again (Nat.le_add_right ..)] at lower
  have order := WithBot.coe_le_coe.mp lower
  simp only [LoginThrottleService.block,Nat.add_sub_cancel_left] at order
  exact absurd order (Int.not_le.mpr drop)

-- Two failures, then the threshold's others one window later; a moment after them the two are out of the window.
theorem shrinks (counted : service.policy.attempts.toNat + short = n + 2) (small : service.policy.attempts.toNat + short < 4294967295)
    (less : (service.policy.blockDuration (short + 1)).asSecs < (service.policy.blockDuration (short + 1 + 1)).asSecs) :
    ¬ service.OnlyExtends := by
  have late : (1 : Int) ≤ service.policy.window := by exact_mod_cast Nat.pos_of_ne_zero service.policy.valid.2.1
  refine dropsAt keyed based ranged ([0,0] ++ List.replicate n (service.policy.window : DateTime))
    service.policy.window (service.policy.window + 1) ?_ ?_ (short + 1) short ?_ ?_ small (Nat.le_succ _) ?_
  · intro time mem
    simp only [List.mem_append,List.mem_cons,List.mem_replicate,List.not_mem_nil,or_false] at mem
    simp only [DateTime] at mem ⊢
    omega
  · simp only [List.append_assoc,List.pairwise_append,List.pairwise_replicate,List.pairwise_cons,List.mem_append,List.mem_cons,
      List.mem_replicate,List.not_mem_nil,or_false,DateTime]
    simp
    omega
  · simp [LoginThrottlePolicy.counted,List.countP_append,List.countP_replicate]
    omega
  · have past : (1 : Int) ≤ service.policy.window + 1 := by omega
    simp [LoginThrottlePolicy.counted,List.countP_append,List.countP_replicate,late,past]
    omega
  · simp only [DateTime,seconds]
    omega

end Drops

end Extended

theorem blocksOnlyExtended (service : LoginThrottleService) {request : LoginRequest} {key : LoginKey}
    (keyed : service.accountKey request = .ok key)
    (ranged : service.policy.window ≤ Duration.fromSecs 3000000000 ∧ service.policy.maximum ≤ Duration.fromSecs 3000000000) :
    service.OnlyExtends ↔ service.policy.Level := by
  have short : service.policy.maximum.asSecs ≤ 18446744073709551615 :=
    Nat.le_trans (Nat.div_le_of_le_mul (by simpa [Duration.fromSecs,Nat.mul_comm] using ranged.2))
      (by decide : 3000000000 ≤ 18446744073709551615)
  have lengths := blockLength short
  constructor
  · intro extended
    by_contra uneven
    simp only [LoginThrottlePolicy.Level,not_or,not_and] at uneven
    obtain ⟨positive,longer,uncapped,lone⟩ := uneven
    have based := Nat.pos_of_ne_zero positive
    have few : service.policy.attempts.toNat < 4294967296 := service.policy.attempts.toNat_lt
    have least : 0 < service.policy.attempts.toNat :=
      Nat.pos_of_ne_zero (fun zero => service.policy.valid.1 (UInt32.toNat_inj.mp zero))
    by_cases one : service.policy.attempts.toNat = 1
    · by_cases double : service.policy.maximum.asSecs ≤ 2 * service.policy.base.asSecs
      · -- Two failures at once, and a third when they are out of the window.
        have first := firstLength short
        have second := secondLength short double
        have late := lone one double
        refine dropsAt keyed based ranged [0] 0 (service.policy.window + 1) ?_ ?_ 1 0 ?_ ?_ (by simp [one]) (Nat.zero_le _) ?_ extended
        · simp [DateTime]
          omega
        · simp [DateTime]
          omega
        · simp [LoginThrottlePolicy.counted,one]
        · simp [LoginThrottlePolicy.counted,one]
        · rw [first,second]
          simp only [DateTime] at late ⊢
          omega
      · refine shrinks keyed based ranged (show _ + 1 = 0 + 2 by omega) (by omega) ?_ extended
        rw [lengths,lengths]
        norm_num
        omega
    · refine shrinks keyed based ranged (show _ + 0 = service.policy.attempts.toNat - 2 + 2 by omega) (by omega) ?_ extended
      rw [lengths,lengths]
      norm_num
      omega
  · intro level calls clocked before within
    obtain ⟨longest,even⟩ := levelEven short level
    exact (runGrows even calls clocked).1 before within

def steadyPolicy : LoginThrottlePolicy := ⟨5,.fromSecs 300,.fromSecs 900,.fromSecs 900,by decide⟩

theorem steadyExtended : LoginThrottleService.OnlyExtends ⟨asciiLowercase,steadyPolicy,[]⟩ := by
  have keyed : LoginThrottleService.accountKey ⟨asciiLowercase,steadyPolicy,[]⟩ aliceRequest = .ok aliceKey := by decide +kernel
  exact (blocksOnlyExtended _ keyed (by decide)).mpr (.inr (.inl (by decide)))

def alertPolicy : LoginThrottlePolicy := ⟨1,.fromSecs 10,.fromSecs 30,.fromSecs 3600,by decide⟩

theorem blockShortened :
    let calls := [0,1,2,50].map (fun secs => (aliceRequest,seconds secs))
    let run := fun calls => (calls.foldl (LoginThrottleService.failed ⟨asciiLowercase,alertPolicy,[]⟩) ⟨[],[],[]⟩).blockOf aliceKey
    run (calls.take 3) = some ⟨aliceKey,seconds 2,seconds 122,none⟩ ∧ run calls = some ⟨aliceKey,seconds 50,seconds 80,none⟩ := by
  decide +kernel

end OpenPanel.Security
