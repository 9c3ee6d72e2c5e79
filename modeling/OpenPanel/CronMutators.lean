import OpenPanel.CronOverlap

/-! What a mutator of a job leaves behind. `Duration` has whole seconds and the
nanoseconds above them; the check of a timeout looks at both and only the seconds are
stored. `update` writes its fields and `enable` its flag before the next occurrence is
computed, which may fail. -/
namespace OpenPanel.Cron

structure Duration where
  secs : Nat
  nanos : Nat
  below : nanos < 1000000000

namespace Duration

def fromSecs (secs : Nat) : Duration := ⟨secs,0,by decide⟩
def isZero (d : Duration) : Bool := d.secs == 0 && d.nanos == 0
def asSecs (d : Duration) : Nat := d.secs

end Duration

def acceptedTimeout (name : String) (timeout : Duration) : Bool :=
  !(trimIsEmpty name || timeout.isZero || decide (86400 < timeout.asSecs))

/-- `CronJob::update` with its `Duration`; the service hands over whole seconds. -/
def CronJob.updateTimed (cal : Calendar) (job : CronJob) (name : String) (schedule : CronSchedule)
    (kind : JobKind) (timeout : Duration) (now : DateTime) : CronJob × Except CronError Unit :=
  if acceptedTimeout name timeout = false then (job,.error fieldError)
  else
    let job := {job with name := name, schedule := schedule, kind := kind, timeoutSecs := timeout.asSecs}
    match job.schedule.nextAfter cal now with
    | .error e => (job,.error e)
    | .ok next => ({job with nextRunAt := next, updatedAt := now},.ok ())

inductive Mutator where
  | update (name : String) (schedule : CronSchedule) (kind : JobKind) (timeout : Duration) (now : DateTime)
  | enable (now : DateTime)
  | advance (after : DateTime)

namespace Mutator

def apply (cal : Calendar) (job : CronJob) : Mutator → CronJob × Except CronError Unit
  | .update name schedule kind timeout now => job.updateTimed cal name schedule kind timeout now
  | .enable now => job.enable cal now
  | .advance after => job.advance cal after

def reference : Mutator → DateTime
  | .update _ _ _ _ now | .enable now => now
  | .advance after => after

end Mutator

structure CronJob.Valid (job : CronJob) : Prop where
  named : trimIsEmpty job.name = false
  least : 1 ≤ job.timeoutSecs
  most : job.timeoutSecs ≤ 86400

def AllOrNothing (cal : Calendar) (job : CronJob) (m : Mutator) : Prop :=
  match m.apply cal job with
  | (next,.ok _) => next.Valid ∧ m.reference < next.nextRunAt
  | (next,.error _) => next = job

def Mutator.Spares (cal : Calendar) (job : CronJob) : Mutator → Prop
  | .update name schedule kind timeout now => acceptedTimeout name timeout = true →
    match schedule.nextAfter cal now with
    | .ok _ => 1 ≤ timeout.secs
    | .error _ => job.name = name ∧ job.schedule = schedule ∧ job.kind = kind ∧ job.timeoutSecs = timeout.secs
  | .enable now => match job.schedule.nextAfter cal now with
    | .ok _ => job.Valid
    | .error _ => job.enabled = true
  | .advance after => match job.schedule.nextAfter cal after with
    | .ok _ => job.Valid
    | .error _ => True

def Calendar.Forward (cal : Calendar) : Prop := ∀ expression zone after next,
  cal.next expression zone after = some next → after < next

section Mutators

variable {cal : Calendar} {job : CronJob}

theorem nextLater (forward : cal.Forward) {schedule : CronSchedule}
    (found : schedule.nextAfter cal after = .ok next) : after < next := by
  unfold CronSchedule.nextAfter at found
  split at found <;> try contradiction
  split at found <;> try contradiction
  split at found <;> try contradiction
  rename_i occurs
  cases Except.ok.inj found
  exact forward _ _ _ _ occurs

theorem enableOk (found : job.schedule.nextAfter cal now = .ok next) :
    job.enable cal now = ({job with enabled := true, nextRunAt := next, updatedAt := now},.ok ()) := by
  simp only [CronJob.enable,found]

theorem enableError (none : job.schedule.nextAfter cal now = .error e) :
    job.enable cal now = ({job with enabled := true},.error e) := by
  simp only [CronJob.enable,none]

theorem advanceOk (found : job.schedule.nextAfter cal after = .ok next) :
    job.advance cal after = ({job with nextRunAt := next, updatedAt := after},.ok ()) := by
  simp only [CronJob.advance,found]

theorem advanceError (none : job.schedule.nextAfter cal after = .error e) : job.advance cal after = (job,.error e) := by
  simp only [CronJob.advance,none]

theorem updateRefused (refused : acceptedTimeout name timeout = false) :
    job.updateTimed cal name schedule kind timeout now = (job,.error fieldError) := by
  simp only [CronJob.updateTimed,refused,if_true]

theorem updateOk (accepted : acceptedTimeout name timeout = true)
    (found : schedule.nextAfter cal now = .ok next) : job.updateTimed cal name schedule kind timeout now =
      ({job with name, schedule, kind, timeoutSecs := timeout.secs, nextRunAt := next, updatedAt := now},.ok ()) := by
  simp only [CronJob.updateTimed,accepted,found,Bool.true_eq_false,if_false,Duration.asSecs]

theorem updateError (accepted : acceptedTimeout name timeout = true)
    (none : schedule.nextAfter cal now = .error e) : job.updateTimed cal name schedule kind timeout now =
      ({job with name, schedule, kind, timeoutSecs := timeout.secs},.error e) := by
  simp only [CronJob.updateTimed,accepted,none,Bool.true_eq_false,if_false,Duration.asSecs]

theorem acceptedBounds (accepted : acceptedTimeout name timeout = true) : trimIsEmpty name = false ∧ timeout.secs ≤ 86400 := by
  simp only [acceptedTimeout,Duration.asSecs,Bool.not_eq_true',Bool.or_eq_false_iff] at accepted
  exact ⟨accepted.1.1,Nat.le_of_not_lt (of_decide_eq_false accepted.2)⟩

theorem updateSpares (forward : cal.Forward) : AllOrNothing cal job (.update name schedule kind timeout now) ↔
    (Mutator.update name schedule kind timeout now).Spares cal job := by
  simp only [AllOrNothing,Mutator.apply,Mutator.Spares,Mutator.reference]
  cases accepted : acceptedTimeout name timeout with
  | false =>
    rw [updateRefused accepted]
    simp
  | true =>
    obtain ⟨named,most⟩ := acceptedBounds accepted
    cases found : schedule.nextAfter cal now with
    | ok next =>
      have later := nextLater forward found
      rw [updateOk accepted found]
      exact ⟨fun both _ => both.1.least,fun spared => ⟨⟨named,spared rfl,most⟩,later⟩⟩
    | error e =>
      rw [updateError accepted found]
      simp only [forall_const]
      constructor
      · intro same
        exact ⟨(congrArg CronJob.name same).symm,(congrArg CronJob.schedule same).symm,(congrArg CronJob.kind same).symm,
          (congrArg CronJob.timeoutSecs same).symm⟩
      · rintro ⟨rfl,rfl,rfl,same⟩
        rw [← same]

theorem enableSpares (forward : cal.Forward) : AllOrNothing cal job (.enable now) ↔ (Mutator.enable now).Spares cal job := by
  simp only [AllOrNothing,Mutator.apply,Mutator.Spares,Mutator.reference]
  cases found : job.schedule.nextAfter cal now with
  | ok next =>
    have later := nextLater forward found
    rw [enableOk found]
    exact ⟨fun both => ⟨both.1.named,both.1.least,both.1.most⟩,
      fun valid => ⟨⟨valid.named,valid.least,valid.most⟩,later⟩⟩
  | error e =>
    rw [enableError found]
    constructor
    · exact fun same => (congrArg CronJob.enabled same).symm
    · intro enabled
      rw [← enabled]

theorem advanceSpares (forward : cal.Forward) : AllOrNothing cal job (.advance now) ↔ (Mutator.advance now).Spares cal job := by
  simp only [AllOrNothing,Mutator.apply,Mutator.Spares,Mutator.reference]
  cases found : job.schedule.nextAfter cal now with
  | ok next =>
    have later := nextLater forward found
    rw [advanceOk found]
    exact ⟨fun both => ⟨both.1.named,both.1.least,both.1.most⟩,
      fun valid => ⟨⟨valid.named,valid.least,valid.most⟩,later⟩⟩
  | error e =>
    rw [advanceError found]
    exact ⟨fun _ => trivial,fun _ => rfl⟩

theorem mutatorsSpare (forward : cal.Forward) (job : CronJob) (m : Mutator) :
    AllOrNothing cal job m ↔ m.Spares cal job := by
  cases m with
  | update => exact updateSpares forward
  | enable => exact enableSpares forward
  | advance => exact advanceSpares forward

end Mutators

def sparse : Calendar where
  zone name := name == "UTC"
  expression text := if text == "0 * * * * *" || text == "0 0 0 30 2 *" then none else some "unsupported"
  next expression _ after := if expression == "* * * * *" then some ((after / seconds 60 + 1) * seconds 60) else none

theorem sparseForward : sparse.Forward := by
  intro expression zone after next found
  simp only [sparse] at found
  split at found <;> try contradiction
  cases Option.some.inj found
  exact Int.lt_ediv_add_one_mul_self after (by decide)

def half : Duration := ⟨0,500000000,by decide⟩
def leapDay : CronSchedule := ⟨"0 0 30 2 *","UTC"⟩
def paused : CronJob := {hourly with enabled := false, schedule := leapDay}

theorem hourlyRescheduled : sparse.Forward ∧
    AllOrNothing sparse hourly (.update "nightly" hourly.schedule hourly.kind (.fromSecs 60) (seconds 1700000040)) ∧
    ¬ AllOrNothing sparse hourly (.update "nightly" leapDay hourly.kind (.fromSecs 60) (seconds 1700000040)) := by
  refine ⟨sparseForward,(mutatorsSpare sparseForward _ _).mpr ?_,fun whole => ?_⟩
  · intro _
    exact (by decide : 1 ≤ 60)
  · have same := (mutatorsSpare sparseForward _ _).mp whole (by decide)
    exact absurd same.1 (by decide)

theorem mutatorsHalfDone : CronSchedule.parse sparse "0 0 30 2 *" "UTC" = .ok leapDay ∧
    (∃ next, hourly.updateTimed sparse hourly.name hourly.schedule hourly.kind half (seconds 1700000040) = (next,.ok ()) ∧
      next.timeoutSecs = 0 ∧
      ¬ AllOrNothing sparse hourly (.update hourly.name hourly.schedule hourly.kind half (seconds 1700000040))) ∧
    (∃ next e, hourly.updateTimed sparse "nightly" leapDay hourly.kind (.fromSecs 60) (seconds 1700000040) = (next,.error e) ∧
      next.name = "nightly" ∧ hourly.name ≠ "nightly") ∧
    ∃ next e, paused.enable sparse (seconds 1700000040) = (next,.error e) ∧ next.enabled = true ∧ paused.enabled = false := by
  refine ⟨by decide,⟨_,rfl,by decide,fun whole => ?_⟩,⟨_,_,rfl,by decide,by decide⟩,⟨_,_,rfl,by decide,by decide⟩⟩
  have counted : 1 ≤ half.secs := (updateSpares sparseForward).mp whole (by decide)
  exact absurd counted (by decide)

end OpenPanel.Cron
