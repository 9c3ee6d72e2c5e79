import OpenPanel.Values

/-! The rate limit of a notification channel: a queue of the granted calls, from which what is
a minute old is dropped before the rest is counted. The queues are behind a lock. An instant less
than a minute after the earliest one has no minute before it: chrono panics, the lock stays
poisoned and every later call is refused. -/
namespace OpenPanel.Notifications

abbrev Slots := Uuid → List DateTime

def minute : Int := seconds 60

def callsPerMinute : Nat := 60

def Slots.put (slots : Slots) (channel : Uuid) (queue : List DateTime) : Slots := fun id => if id = channel then queue else slots id

def slide (slots : Slots) (channel : Uuid) (now : DateTime) : Bool × Slots :=
  let queue := (slots channel).dropWhile (fun granted => granted ≤ now - minute)
  if callsPerMinute ≤ queue.length then (false,slots.put channel queue) else (true,slots.put channel (queue ++ [now]))

structure Limiter where
  slots : Slots
  poisoned : Bool

/-- No answer is a panic. An empty queue is not looked at, so nothing is subtracted. -/
def takeRateSlot (limiter : Limiter) (channel : Uuid) (now : DateTime) : Option Bool × Limiter :=
  if limiter.poisoned then (some false,limiter)
  else if limiter.slots channel ≠ [] ∧ now - minute < minUtc then (none,{limiter with poisoned := true})
  else (some (slide limiter.slots channel now).1,⟨(slide limiter.slots channel now).2,false⟩)

structure Ask where
  channel : Uuid
  now : DateTime

-- The queues and the calls granted so far.
def serve (state : Limiter × List Ask) (ask : Ask) : Limiter × List Ask :=
  let slot := takeRateSlot state.1 ask.channel ask.now
  (slot.2,if slot.1 = some true then state.2 ++ [ask] else state.2)

def served (asks : List Ask) : Limiter × List Ask := asks.foldl serve (⟨fun _ => [],false⟩,[])

def times (channel : Uuid) (granted : List Ask) : List DateTime :=
  (granted.filter (fun ask => ask.channel == channel)).map Ask.now

/-- How many calls of a channel were granted at such instants. -/
def grants (granted : List Ask) (channel : Uuid) (inside : DateTime → Bool) : Nat := ((times channel granted).filter inside).length

section Window

variable {slots : Slots} {granted : List Ask} {last now : DateTime} {channel : Uuid}

/-- The queue of a channel is what it was granted less than a minute before it last asked. -/
structure Tracks (state : Slots × List Ask) (last : DateTime) : Prop where
  ordered : ∀ channel, (times channel state.2).Pairwise (· ≤ ·)
  past : ∀ channel, ∀ t ∈ times channel state.2, t ≤ last
  recent : ∀ channel, ∃ since ≤ last, state.1 channel = (times channel state.2).filter (fun t => since - minute < t)
  bounded : ∀ channel inside, (∀ t u, inside t = true → inside u = true → u - t < minute) →
    grants state.2 channel inside ≤ callsPerMinute

theorem dropOld {queue : List DateTime} (ordered : queue.Pairwise (· ≤ ·)) (old) :
    queue.dropWhile (fun t => t ≤ old) = queue.filter (fun t => old < t) := by
  induction queue with
  | nil => rfl
  | cons t rest ih =>
    obtain ⟨first,later⟩ := List.pairwise_cons.mp ordered
    by_cases gone : t ≤ old
    · rw [List.dropWhile_cons_of_pos (by simpa using gone),ih later,List.filter_cons_of_neg (by simpa using gone)]
    · rw [List.dropWhile_cons_of_neg (by simpa using gone),List.filter_eq_self.mpr]
      intro u mem
      rcases List.mem_cons.mp mem with rfl | inside
      · simpa using gone
      · simpa using Int.lt_of_lt_of_le (Int.not_le.mp gone) (first u inside)

theorem timesGranted (granted) (ask) (channel) :
    times channel (granted ++ [ask]) = times channel granted ++ (if ask.channel = channel then [ask.now] else []) := by
  unfold times
  rw [List.filter_append,List.map_append]
  by_cases same : ask.channel = channel
  · simp [same]
  · simp [same]

theorem Tracks.queue (tracks : Tracks (slots,granted) last) (later : last ≤ now) (channel) :
    (slots channel).dropWhile (fun t => t ≤ now - minute) = (times channel granted).filter (fun t => now - minute < t) := by
  obtain ⟨since,before,kept⟩ := tracks.recent channel
  simp only at kept
  rw [kept,dropOld ((tracks.ordered channel).sublist List.filter_sublist),List.filter_filter]
  refine List.filter_congr (fun t _ => ?_)
  have earlier : now - minute < t → since - minute < t :=
    Int.lt_of_le_of_lt (Int.sub_le_sub_right (Int.le_trans before later) minute)
  simpa using earlier

theorem closeGrants (tracks : Tracks (slots,granted) last) (later : last ≤ now)
    (close : ∀ t u, inside t = true → inside u = true → u - t < minute) (here : inside now = true) :
    grants granted channel inside ≤ ((slots channel).dropWhile (fun t => t ≤ now - minute)).length := by
  rw [tracks.queue later]
  refine (List.monotone_filter_right _ (fun t held => ?_)).length_le
  simpa using Int.sub_lt_of_sub_lt (close t now held here)

theorem Tracks.elsewhere (tracks : Tracks (slots,granted) last) (later : last ≤ now) (other : asked ≠ channel)
    (same : times channel more = times channel granted) (queue) :
    ∃ since ≤ now, slots.put asked queue channel = (times channel more).filter (fun t => since - minute < t) := by
  obtain ⟨since,before,kept⟩ := tracks.recent channel
  refine ⟨since,Int.le_trans before later,?_⟩
  rw [Slots.put,if_neg (Ne.symm other),same]
  exact kept

theorem Tracks.refuse (tracks : Tracks (slots,granted) last) (later : last ≤ now) :
    Tracks (slots.put asked ((slots asked).dropWhile (fun t => t ≤ now - minute)),granted) now where
  ordered := tracks.ordered
  past channel t mem := Int.le_trans (tracks.past channel t mem) later
  bounded := tracks.bounded
  recent channel := by
    by_cases same : asked = channel
    · subst same
      exact ⟨now,Int.le_refl _,by simpa [Slots.put] using tracks.queue later asked⟩
    · exact tracks.elsewhere later same rfl _

theorem Tracks.grant (tracks : Tracks (slots,granted) last) (ask : Ask) (later : last ≤ ask.now)
    (free : ((slots ask.channel).dropWhile (fun t => t ≤ ask.now - minute)).length < callsPerMinute) :
    Tracks (slots.put ask.channel ((slots ask.channel).dropWhile (fun t => t ≤ ask.now - minute) ++ [ask.now]),granted ++ [ask]) ask.now where
  ordered channel := by
    rw [timesGranted,List.pairwise_append]
    refine ⟨tracks.ordered channel,by split <;> simp,fun t mem u new => ?_⟩
    split at new <;> simp only [List.mem_singleton,List.not_mem_nil] at new
    exact new ▸ Int.le_trans (tracks.past channel t mem) later
  past channel t mem := by
    rw [timesGranted] at mem
    rcases List.mem_append.mp mem with old | new
    · exact Int.le_trans (tracks.past channel t old) later
    · split at new <;> simp only [List.mem_singleton,List.not_mem_nil] at new
      exact Int.le_of_eq new
  recent channel := by
    by_cases same : ask.channel = channel
    · subst same
      have young : ask.now - minute < ask.now := by unfold minute seconds; exact Int.sub_lt_self _ (by decide)
      exact ⟨ask.now,Int.le_refl _,by simp [Slots.put,timesGranted,tracks.queue later,young]⟩
    · exact tracks.elsewhere later same (by rw [timesGranted,if_neg same,List.append_nil]) _
  bounded channel inside close := by
    unfold grants
    rw [timesGranted,List.filter_append,List.length_append]
    by_cases held : ask.channel = channel ∧ inside ask.now = true
    · -- What the interval already holds is still in the queue, which had room for one more.
      obtain ⟨rfl,here⟩ := held
      have few : grants granted ask.channel inside ≤ _ := closeGrants tracks later close here
      have one : ((if ask.channel = ask.channel then [ask.now] else []).filter inside).length = 1 := by simp [here]
      unfold grants at few
      omega
    · have none : ((if ask.channel = channel then [ask.now] else []).filter inside).length = 0 := by
        by_cases same : ask.channel = channel <;> simp_all
      rw [none]
      exact tracks.bounded channel inside close

theorem slotInRange (clear : limiter.poisoned = false) (inRange : minUtc + minute ≤ now) : takeRateSlot limiter channel now =
    (some (slide limiter.slots channel now).1,⟨(slide limiter.slots channel now).2,false⟩) := by
  have late : ¬ (limiter.slots channel ≠ [] ∧ now - minute < minUtc) := fun early => Int.not_lt.mpr (Int.le_sub_right_of_add_le inRange) early.2
  rw [takeRateSlot,if_neg (by simp [clear]),if_neg late]

theorem serveTracks (clear : limiter.poisoned = false) (tracks : Tracks (limiter.slots,granted) last) (ask) (later : last ≤ ask.now)
    (inRange : minUtc + minute ≤ ask.now) : (serve (limiter,granted) ask).1.poisoned = false ∧
      Tracks ((serve (limiter,granted) ask).1.slots,(serve (limiter,granted) ask).2) ask.now := by
  simp only [serve,slotInRange clear inRange,slide]
  refine ⟨trivial,?_⟩
  split
  · exact tracks.refuse later
  · rename_i room
    exact tracks.grant ask later (Nat.lt_of_not_le room)

theorem Tracks.later (tracks : Tracks state last) (after : last ≤ now) : Tracks state now where
  ordered := tracks.ordered
  past channel t mem := Int.le_trans (tracks.past channel t mem) after
  recent channel := (tracks.recent channel).imp (fun _ kept => ⟨Int.le_trans kept.1 after,kept.2⟩)
  bounded := tracks.bounded

theorem servedTracks (ordered : asks.Pairwise (fun a b => a.now ≤ b.now)) (inRange : ∀ ask ∈ asks, minUtc + minute ≤ ask.now)
    (bound : ∀ ask ∈ asks, ask.now ≤ now) :
    (served asks).1.poisoned = false ∧ Tracks ((served asks).1.slots,(served asks).2) now := by
  induction asks using List.reverseRecOn generalizing now with
  | nil => exact ⟨rfl,by simp [served,times],by simp [served,times],fun _ => ⟨now,Int.le_refl _,rfl⟩,by simp [served,times,grants]⟩
  | append_singleton before ask ih =>
    obtain ⟨sorted,_,earlier⟩ := List.pairwise_append.mp ordered
    obtain ⟨clear,tracks⟩ := ih sorted (fun x mem => inRange x (by simp [mem])) (fun x mem => earlier x mem ask (by simp))
    obtain ⟨clear,tracks⟩ := serveTracks clear tracks ask (Int.le_refl _) (inRange ask (by simp))
    rw [served,List.foldl_append]
    exact ⟨clear,tracks.later (bound ask (by simp))⟩

theorem allBefore (asks : List Ask) : ∃ now, ∀ ask ∈ asks, ask.now ≤ now := by
  induction asks with
  | nil => exact ⟨0,by simp⟩
  | cons ask rest ih =>
    obtain ⟨now,bound⟩ := ih
    exact ⟨max ask.now now,List.forall_mem_cons.mpr ⟨Int.le_max_left ..,fun x mem => Int.le_trans (bound x mem) (Int.le_max_right ..)⟩⟩

theorem closeBy (early : old < t) (late : u ≤ old + minute) : u - t < minute := by omega

theorem closeBefore (early : start ≤ t) (late : u < start + minute) : u - t < minute := by omega

theorem refusedFull (tracks : Tracks (slots,granted) now) (refused : (slide slots channel now).1 = false) :
    grants granted channel (fun t => now - minute < t ∧ t ≤ now) = callsPerMinute := by
  have full : callsPerMinute ≤ ((slots channel).dropWhile (fun t => t ≤ now - minute)).length := by
    unfold slide at refused
    simp only at refused
    split at refused
    · assumption
    · cases refused
  have recent : (times channel granted).filter (fun t => now - minute < t) =
      (times channel granted).filter (fun t => now - minute < t ∧ t ≤ now) :=
    List.filter_congr (fun t mem => by simp [tracks.past channel t mem])
  rw [tracks.queue (Int.le_refl now),recent] at full
  refine Nat.le_antisymm (tracks.bounded channel _ (fun t u early late => ?_)) full
  exact closeBy (of_decide_eq_true early).1 (by simpa using (of_decide_eq_true late).2)

theorem rateWindow (asks : List Ask) (ordered : asks.Pairwise (fun a b => a.now ≤ b.now))
    (inRange : ∀ ask ∈ asks, minUtc + minute ≤ ask.now) :
    (∀ channel start, grants (served asks).2 channel (fun t => start ≤ t ∧ t < start + minute) ≤ 60 ∧
      grants (served asks).2 channel (fun t => start < t ∧ t ≤ start + minute) ≤ 60) ∧
    ∀ before ask after, asks = before ++ ask::after → (takeRateSlot (served before).1 ask.channel ask.now).1 ≠ some true →
      (takeRateSlot (served before).1 ask.channel ask.now).1 = some false ∧
        grants (served before).2 ask.channel (fun t => ask.now - minute < t ∧ t ≤ ask.now) = 60 := by
  constructor
  · intro channel start
    obtain ⟨now,bound⟩ := allBefore asks
    obtain ⟨_,tracks⟩ := servedTracks ordered inRange bound
    refine ⟨tracks.bounded channel _ (fun t u early late => ?_),tracks.bounded channel _ (fun t u early late => ?_)⟩
    · exact closeBefore (of_decide_eq_true early).1 (of_decide_eq_true late).2
    · exact closeBy (of_decide_eq_true early).1 (of_decide_eq_true late).2
  · rintro before ask after rfl refused
    obtain ⟨sorted,_,earlier⟩ := List.pairwise_append.mp ordered
    obtain ⟨clear,tracks⟩ := servedTracks sorted (fun x mem => inRange x (by simp [mem])) (fun x mem => earlier x mem ask (by simp))
    rw [slotInRange clear (inRange ask (by simp))] at refused ⊢
    have full : (slide (served before).1.slots ask.channel ask.now).1 = false := by simpa using refused
    exact ⟨congrArg some full,refusedFull tracks full⟩

end Window

def burst (n : Nat) : List Ask := List.replicate n ⟨0x21,seconds 5⟩

theorem burstRefused : (takeRateSlot (served (burst 60)).1 0x21 (seconds 5)).1 = some false ∧
    grants (served (burst 60)).2 0x21 (fun t => seconds 5 - minute < t ∧ t ≤ seconds 5) = 60 := by
  have refused : (takeRateSlot (served (burst 60)).1 0x21 (seconds 5)).1 ≠ some true := by decide +kernel
  exact (rateWindow (burst 61) (by decide +kernel) (by decide +kernel)).2 (burst 60) ⟨0x21,seconds 5⟩ [] rfl refused

-- The second call panics, and from then on every channel is refused.
theorem earliestRefused : (takeRateSlot (served [⟨0x21,minUtc⟩]).1 0x21 minUtc).1 = none ∧
    (takeRateSlot (served [⟨0x21,minUtc⟩,⟨0x21,minUtc⟩]).1 0x22 (seconds 5)).1 = some false ∧
    grants (served [⟨0x21,minUtc⟩,⟨0x21,minUtc⟩]).2 0x22 (fun _ => true) = 0 := by decide +kernel

end OpenPanel.Notifications
