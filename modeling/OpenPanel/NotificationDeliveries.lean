import Mathlib.Data.List.Infix
import OpenPanel.Calendar
import OpenPanel.CallPool
import OpenPanel.Rows
import OpenPanel.Values

/-! Notification deliveries: the record and its transitions, and dispatchers that
lease due deliveries and store the results. Leasing is one transaction; every other
statement and adapter call is a step and may fail. Timestamps are compared as text. What
the lookups, the checks and the adapter come to are inputs. The failure count of a
subscription and the audit are left out. -/
namespace OpenPanel.Notifications
open CallPool GuardedRun

inductive DeliveryStatus where | pending | leased | retry | terminalSuccess | terminalFailure deriving DecidableEq

structure DeliveryAttempt where
  id : Uuid
  eventId : Uuid
  channelId : Uuid
  subscriptionId : Uuid
  payloadDigest : String
  status : DeliveryStatus
  attemptN : Nat
  nextRetryAt : Option DateTime
  leaseUntil : Option DateTime
  lastErrorRedacted : Option String
  createdAt : DateTime
  completedAt : Option DateTime
  deriving DecidableEq

inductive NotificationError where
  | invalidTransition
  | invalidEvent (reason : String)
  deriving DecidableEq

def redactError (error : String) : String :=
  let bounded := (error.toList.filter (fun c => !isControl c)).take 240
  let lower := bounded.map Char.toLower
  if "secret".toList <:+: lower ∨ "password".toList <:+: lower ∨ "token".toList <:+: lower then
    "[REDACTED DELIVERY ERROR]"
  else String.ofList bounded

def retryDelay : Nat → Int
  | 1 => seconds 60
  | 2 => seconds (5 * 60)
  | 3 => seconds (30 * 60)
  | 4 => seconds (2 * 3600)
  | _ => seconds (12 * 3600)

-- `u32::saturating_add(1)`.
def oneMore (n : Nat) : Nat := min (n + 1) 4294967295

namespace DeliveryAttempt

def terminal (delivery : DeliveryAttempt) : Bool :=
  delivery.status == .terminalSuccess || delivery.status == .terminalFailure

def recordSuccess (delivery : DeliveryAttempt) (now : DateTime) : Except NotificationError DeliveryAttempt :=
  if delivery.status ≠ .leased then .error .invalidTransition
  else .ok {delivery with status := .terminalSuccess, completedAt := some now, leaseUntil := none}

def recordTransientFailure (delivery : DeliveryAttempt) (now : DateTime) (error : String) :
    Except NotificationError DeliveryAttempt :=
  if delivery.status ≠ .leased then .error .invalidTransition
  else
    let attemptN := oneMore delivery.attemptN
    let failed := {delivery with attemptN, lastErrorRedacted := some (redactError error), leaseUntil := none}
    if 6 ≤ attemptN then .ok {failed with status := .terminalFailure, completedAt := some now, nextRetryAt := none}
    else .ok {failed with status := .retry, nextRetryAt := some (now + retryDelay attemptN)}

def recordPermanentFailure (delivery : DeliveryAttempt) (now : DateTime) (error : String) :
    Except NotificationError DeliveryAttempt :=
  if delivery.status ≠ .leased then .error .invalidTransition
  else .ok {delivery with
    attemptN := oneMore delivery.attemptN, status := .terminalFailure, lastErrorRedacted := some (redactError error)
    completedAt := some now, leaseUntil := none, nextRetryAt := none}

end DeliveryAttempt
structure Outbox where
  deliveries : List DeliveryAttempt
  ids : Rows.Unique DeliveryAttempt.id deliveries

def Outbox.adjust (s : Outbox) (f : DeliveryAttempt → DeliveryAttempt) (same : ∀ d, (f d).id = d.id) : Outbox where
  deliveries := s.deliveries.map f
  ids := Rows.mapUnique s.ids same

def before (a b : DateTime) : Bool := decide (Calendar.text a < Calendar.text b)

def expired (now : DateTime) (delivery : DeliveryAttempt) : Bool :=
  delivery.status == .leased && delivery.leaseUntil.any (fun deadline => before deadline now)

def due (now : DateTime) (delivery : DeliveryAttempt) : Bool :=
  delivery.status == .pending || delivery.status == .retry && delivery.nextRetryAt.any (fun retry => !before now retry)

def recovered (now : DateTime) (delivery : DeliveryAttempt) : DeliveryAttempt :=
  if expired now delivery then {delivery with status := .pending, leaseUntil := none} else delivery

def leasedUntil (now : DateTime) (leaseFor : Int) (id : Uuid) (delivery : DeliveryAttempt) : DeliveryAttempt :=
  if delivery.id = id ∧ due now delivery = true then {delivery with status := .leased, leaseUntil := some (now + leaseFor)}
  else delivery

def written (result delivery : DeliveryAttempt) : DeliveryAttempt :=
  if delivery.id = result.id then
    {delivery with
      status := result.status, attemptN := result.attemptN, nextRetryAt := result.nextRetryAt
      leaseUntil := result.leaseUntil, lastErrorRedacted := result.lastErrorRedacted, completedAt := result.completedAt}
  else delivery

theorem recoveredId (now) (d) : (recovered now d).id = d.id := by
  unfold recovered
  split <;> rfl

theorem leasedId (now) (leaseFor) (id) (d) : (leasedUntil now leaseFor id d).id = d.id := by
  unfold leasedUntil
  split <;> rfl

theorem writtenId (result d) : (written result d).id = d.id := by
  unfold written
  split <;> rfl

namespace Outbox

-- `ORDER BY created_at LIMIT ?`.
def dueIds (s : Outbox) (now : DateTime) (limit : Nat) : List Uuid :=
  (((s.deliveries.filter (due now)).insertionSort (fun a b => before b.createdAt a.createdAt = false)).take limit).map
    DeliveryAttempt.id

def leaseEach (now : DateTime) (leaseFor : Int) : List Uuid → Outbox → Outbox × List Uuid
  | [],s => (s,[])
  | id::ids,s =>
    let affected := s.deliveries.any (fun d => d.id == id && due now d)
    let (last,leased) := leaseEach now leaseFor ids (s.adjust (leasedUntil now leaseFor id) (leasedId now leaseFor id))
    (last,if affected then id::leased else leased)

def leaseDue (s : Outbox) (now : DateTime) (limit : Nat) (leaseFor : Int) : Outbox × List Uuid :=
  let cleared := s.adjust (recovered now) (recoveredId now)
  leaseEach now leaseFor (cleared.dueIds now limit) cleared

def find (s : Outbox) (id : Uuid) : Option DeliveryAttempt := s.deliveries.find? (fun d => d.id == id)

def updateDelivery (s : Outbox) (result : DeliveryAttempt) : Outbox := s.adjust (written result) (writtenId result)

end Outbox
inductive AdapterOutcome where
  | accepted
  | transient (error : String)
  | permanent (error : String)

inductive ServiceError where
  | domain (error : NotificationError)
  | internal (message : String)
  deriving DecidableEq

inductive Lookup where | event | subscription | channel deriving DecidableEq

def Lookup.missing : Lookup → String
  | .event => "event missing"
  | .subscription => "subscription missing"
  | .channel => "channel missing"

structure Batch where
  now : DateTime
  count : Nat
  rest : List DeliveryAttempt
  deriving DecidableEq

-- `again`: the result was stored once already, before the failure is counted.
inductive Point where
  | dispatch (now : DateTime) (limit : Nat)
  | reading (now : DateTime) (id : Uuid) (ids : List Uuid) (got : List DeliveryAttempt)
  | looking (lookup : Lookup) (batch : Batch) (delivery : DeliveryAttempt)
  | sending (batch : Batch) (delivery : DeliveryAttempt)
  | storing (batch : Batch) (result : DeliveryAttempt)
  | finishing (again : Bool) (batch : Batch) (result : DeliveryAttempt)
  | counting (batch : Batch)
  | returned (result : Except ServiceError Nat)
  deriving DecidableEq

inductive Input where
  | fault (error : ServiceError)
  | answer (found : Bool) (outcome : AdapterOutcome)

def Batch.next (batch : Batch) : Point :=
  match batch.rest with
  | [] => .returned (.ok batch.count)
  | delivery::rest => .looking .event {batch with rest} delivery

def readNext (now : DateTime) (got : List DeliveryAttempt) : List Uuid → Point
  | [] => Batch.next ⟨now,got.length,got⟩
  | id::ids => .reading now id ids got

def recorded (result : Except NotificationError DeliveryAttempt) (go : DeliveryAttempt → Point) : Point :=
  match result with
  | .error e => .returned (.error (.domain e))
  | .ok delivery => go delivery

def step (s : Outbox) (point : Point) (input : Input) : Option (Outbox × Point) :=
  match point,input with
  | .returned _,_ => none
  | _,.fault error => some (s,.returned (.error error))
  | .dispatch now limit,.answer .. =>
    let (next,ids) := s.leaseDue now limit (seconds 30)
    some (next,readNext now [] ids)
  | .reading now id ids got,.answer .. => match s.find id with
    | none => some (s,.returned (.error (.internal "no rows returned by a query that expected to return at least one row")))
    | some delivery => some (s,readNext now (got ++ [delivery]) ids)
  | .looking lookup batch delivery,.answer found _ =>
    if found then match lookup with
      | .event => some (s,.looking .subscription batch delivery)
      | .subscription => some (s,.looking .channel batch delivery)
      | .channel => some (s,.sending batch delivery)
    else some (s,recorded (delivery.recordPermanentFailure batch.now lookup.missing) (.finishing false batch))
  | .sending batch delivery,.answer _ outcome => match outcome with
    | .accepted => some (s,recorded (delivery.recordSuccess batch.now) (.storing batch))
    | .transient error => some (s,recorded (delivery.recordTransientFailure batch.now error) (.storing batch))
    | .permanent error => some (s,recorded (delivery.recordPermanentFailure batch.now error) (.finishing false batch))
  | .storing batch result,.answer .. =>
    some (s.updateDelivery result,if result.status = .terminalFailure then .finishing true batch result else batch.next)
  | .finishing _ batch result,.answer .. => some (s.updateDelivery result,.counting batch)
  | .counting batch,.answer .. => some (s,batch.next)

def dispatcher : Machine Outbox Point Input where
  entry point := match point with
    | .dispatch .. => true
    | _ => false
  step := step

def settled (d : DeliveryAttempt) : DeliveryStatus × Nat × Option DateTime := (d.status,d.attemptN,d.completedAt)

def Settled (s : Outbox) (id : Uuid) : Prop := ∃ d ∈ s.deliveries, d.id = id ∧ d.terminal = true

instance (s id) : Decidable (Settled s id) :=
  inferInstanceAs (Decidable (∃ d ∈ s.deliveries, d.id = id ∧ d.terminal = true))

def Keeps (s s' : Outbox) : Prop := ∃ f : DeliveryAttempt → DeliveryAttempt, (∀ d, (f d).id = d.id) ∧
  (∀ d ∈ s.deliveries, d.terminal = true → settled (f d) = settled d) ∧ s'.deliveries = s.deliveries.map f

theorem terminalOfSettled (same : settled d' = settled d) : d'.terminal = d.terminal := by
  simp only [settled,Prod.mk.injEq] at same
  simp only [DeliveryAttempt.terminal,same.1]

theorem Keeps.refl (s) : Keeps s s := ⟨id,fun _ => rfl,fun _ _ _ => rfl,(List.map_id _).symm⟩

theorem Keeps.trans (first : Keeps s s') (second : Keeps s' s'') : Keeps s s'' := by
  obtain ⟨f,ids,kept,rows⟩ := first
  obtain ⟨g,ids',kept',rows'⟩ := second
  refine ⟨g ∘ f,fun d => (ids' _).trans (ids d),fun d mem terminal => ?_,by rw [rows',rows,List.map_map]⟩
  have step := kept d mem terminal
  refine (kept' (f d) ?_ (by rw [terminalOfSettled step,terminal])).trans step
  rw [rows]
  exact List.mem_map_of_mem mem

theorem adjustKeeps (same : ∀ d, (f d).id = d.id)
    (kept : ∀ d ∈ s.deliveries, d.terminal = true → settled (f d) = settled d) : Keeps s (s.adjust f same) :=
  ⟨f,same,kept,rfl⟩

theorem recoveredTerminal (terminal : d.terminal = true) : recovered now d = d := by
  have other : expired now d = false := by
    rcases d with ⟨_,_,_,_,_,status,_⟩
    cases status <;> simp_all [DeliveryAttempt.terminal,expired]
  simp [recovered,other]

theorem leasedTerminal {now leaseFor id d} (terminal : d.terminal = true) : leasedUntil now leaseFor id d = d := by
  have other : due now d = false := by
    rcases d with ⟨_,_,_,_,_,status,_⟩
    cases status <;> simp_all [DeliveryAttempt.terminal,due]
  simp [leasedUntil,other]

theorem leaseEachKeeps (now) (leaseFor) (ids) (s) : Keeps s (Outbox.leaseEach now leaseFor ids s).1 := by
  induction ids generalizing s with
  | nil => exact .refl s
  | cons id ids ih =>
    exact (adjustKeeps _ (fun d _ terminal => by rw [leasedTerminal terminal])).trans (ih _)

theorem leaseDueKeeps (s) (now) (limit) (leaseFor) : Keeps s (s.leaseDue now limit leaseFor).1 :=
  (adjustKeeps _ (fun d _ terminal => by rw [recoveredTerminal terminal])).trans (leaseEachKeeps _ _ _ _)

theorem writtenSettled (result) (same : d.id = result.id) : settled (written result d) = settled result := by
  simp only [written,if_pos same,settled]

theorem writeKeeps (fits : ∀ d ∈ s.deliveries, d.id = result.id → d.terminal = true → settled d = settled result) :
    Keeps s (s.updateDelivery result) := by
  refine adjustKeeps _ (fun d mem terminal => ?_)
  by_cases same : d.id = result.id
  · exact (writtenSettled result same).trans (fits d mem same terminal).symm
  · rw [written,if_neg same]

section Once

def unsettled : Discipline Outbox Point Input where
  alone s point input := match point,input with
    | .storing _ result,.answer .. => ¬ Settled s result.id
    | .finishing false _ result,.answer .. => ¬ Settled s result.id
    | _,_ => True
  beside _ _ _ _ := True

instance (s point input) : Decidable (unsettled.alone s point input) := by
  unfold unsettled
  dsimp only
  split <;> exact inferInstance

instance (s point input other) : Decidable (unsettled.beside s point input other) :=
  isTrue trivial

def known (s : Outbox) : Point → Prop
  | .finishing true _ result =>
    result.terminal = true ∧ ∀ d ∈ s.deliveries, d.id = result.id → settled d = settled result
  | _ => True

def outline : Outline Outbox Point where
  shared _ := True
  point := known
  pair _ _ := True

variable {s s' : Outbox}

theorem nextKnown (batch : Batch) : known s batch.next := by
  unfold Batch.next
  split <;> trivial

theorem readNextKnown (now) (got) (ids) : known s (readNext now got ids) := by
  cases ids with
  | nil => exact nextKnown _
  | cons => trivial

theorem recordedKnown (plain : ∀ d, known s (go d)) : known s (recorded result go) := by
  unfold recorded
  split
  · trivial
  · exact plain _

theorem updateStored (result) : ∀ d ∈ (s.updateDelivery result).deliveries, d.id = result.id → settled d = settled result := by
  intro d mem same
  obtain ⟨before,_,rfl⟩ := List.mem_map.mp mem
  exact writtenSettled result ((writtenId result before).symm.trans same)

theorem stepKeeps (moved : step s p input = some (s',p')) (here : known s p) (allowed : unsettled.alone s p input) : Keeps s s' := by
  have free {result : DeliveryAttempt} (unset : ¬ Settled s result.id) :
      ∀ d ∈ s.deliveries, d.id = result.id → d.terminal = true → settled d = settled result :=
    fun d mem same terminal => absurd ⟨d,mem,same,terminal⟩ unset
  cases input with
  | fault error =>
    cases p <;> cases moved <;> exact .refl s
  | answer found outcome =>
    cases p with
    | dispatch now limit =>
      cases moved
      exact leaseDueKeeps s now limit _
    | reading now id ids got =>
      simp only [step] at moved
      split at moved <;> cases moved <;> exact .refl s
    | looking lookup batch delivery =>
      cases lookup <;> simp only [step] at moved <;> split at moved <;> cases moved <;> exact .refl s
    | sending batch delivery =>
      cases outcome <;> cases moved <;> exact .refl s
    | storing batch result =>
      cases moved
      exact writeKeeps (free allowed)
    | finishing again batch result =>
      cases moved
      cases again with
      | false => exact writeKeeps (free allowed)
      | true => exact writeKeeps (fun d mem same _ => here.2 d mem same)
    | counting batch =>
      cases moved
      exact .refl s
    | returned result => cases moved

theorem stepKnown (moved : step s p input = some (s',p')) : known s' p' := by
  cases input with
  | fault error =>
    cases p <;> cases moved <;> trivial
  | answer found outcome =>
    cases p with
    | dispatch now limit =>
      cases moved
      exact readNextKnown _ _ _
    | reading now id ids got =>
      simp only [step] at moved
      split at moved <;> cases moved
      · trivial
      · exact readNextKnown _ _ _
    | looking lookup batch delivery =>
      cases lookup <;> simp only [step] at moved <;> split at moved <;> cases moved <;>
        first | trivial | exact recordedKnown (fun _ => trivial)
    | sending batch delivery =>
      cases outcome <;> cases moved <;> exact recordedKnown (fun _ => trivial)
    | storing batch result =>
      cases moved
      split
      · rename_i failed
        exact ⟨by simp [DeliveryAttempt.terminal,failed],updateStored result⟩
      · exact nextKnown _
    | finishing again batch result =>
      cases moved
      trivial
    | counting batch =>
      cases moved
      exact nextKnown _
    | returned result => cases moved

theorem knownKept (keeps : Keeps s s') (there : known s q) : known s' q := by
  unfold known at there ⊢
  split
  · obtain ⟨f,ids,kept,rows⟩ := keeps
    refine ⟨there.1,fun d mem same => ?_⟩
    rw [rows] at mem
    obtain ⟨earlier,inside,rfl⟩ := List.mem_map.mp mem
    have stored := there.2 earlier inside ((ids earlier).symm.trans same)
    exact (kept earlier inside ((terminalOfSettled stored).trans there.1)).trans stored
  · trivial

theorem outlineSound : outline.Sound dispatcher unsettled where
  symm _ _ _ := trivial
  start s p entry := by cases p <;> trivial
  startPair _ _ _ _ _ := trivial
  own _ _ _ _ _ _ _ _ moved := ⟨trivial,stepKnown moved⟩
  other _ _ _ _ _ _ _ here there _ allowed _ moved := ⟨knownKept (stepKeeps moved here allowed) there,trivial⟩

theorem deliveriesSettleOnce {s : Outbox} {es es'} {c c' : Pool Outbox Point}
    (first : Run dispatcher.fire unsettled.guard ⟨s,[]⟩ es c) (second : Run dispatcher.fire unsettled.guard c es' c') :
    ∀ d ∈ c.shared.deliveries, d.terminal = true → ∃ d' ∈ c'.shared.deliveries, d'.id = d.id ∧
      d'.status = d.status ∧ d'.attemptN = d.attemptN ∧ d'.completedAt = d.completedAt := by
  have holds : outline.Holds c := Outline.runHolds outlineSound first (Outline.emptyHolds trivial)
  have keeps : Keeps c.shared c'.shared := by
    refine Outline.runKeeps (fun next => Keeps c.shared next.shared) outlineSound ?_ second holds (.refl _)
    intro c e next holds kept allowed fired
    obtain ⟨point,rfl,entry,rfl⟩ | ⟨index,input,point,shared,target,rfl,found,moved,rfl⟩ := fireCases fired
    · exact kept
    · exact kept.trans (stepKeeps moved (holds.point point (List.mem_of_getElem? found)) (allowed point found).1)
  intro d mem terminal
  obtain ⟨f,ids,kept,rows⟩ := keeps
  refine ⟨f d,rows ▸ List.mem_map_of_mem mem,ids d,?_⟩
  simpa [settled] using kept d mem terminal

end Once

def queued : DeliveryAttempt :=
  ⟨0x91,0x92,0x93,0x94,"digest",.pending,0,none,none,none,seconds 1700000000,none⟩

def outbox : Outbox := ⟨[queued],by decide⟩

def go (index : Nat) (outcome : AdapterOutcome) : Event Point Input := .step index (.answer true outcome)

def dispatchAt (index : Nat) (now : Int) (outcome : AdapterOutcome) : List (Event Point Input) :=
  .start (.dispatch (seconds (1700000000 + now)) 10)::List.replicate 7 (go index outcome)

theorem acceptedOnce : ∃ between last,
    Run dispatcher.fire unsettled.guard ⟨outbox,[]⟩ (dispatchAt 0 0 .accepted) between ∧
      Run dispatcher.fire unsettled.guard between [.start (.dispatch (seconds 1700000060) 10),go 1 .accepted] last ∧
      ∃ d ∈ last.shared.deliveries, d.id = 0x91 ∧ d.status = .terminalSuccess := by
  obtain ⟨between,last,ran,⟨d,mem,named,accepted⟩,later,_⟩ := replayTwice dispatcher.fire unsettled.guard ⟨outbox,[]⟩
    (dispatchAt 0 0 .accepted) [.start (.dispatch (seconds 1700000060) 10),go 1 .accepted]
    (fun c => ∃ d ∈ c.shared.deliveries, d.id = 0x91 ∧ d.status = .terminalSuccess) (fun _ => True) (by decide +kernel)
  obtain ⟨kept,inside,same,status,_⟩ := deliveriesSettleOnce ran later d mem (by simp [DeliveryAttempt.terminal,accepted])
  exact ⟨between,last,ran,later,kept,inside,same.trans named,status.trans accepted⟩

theorem acceptedThenRetried : ∃ between last,
    Run dispatcher.fire free ⟨outbox,[]⟩
      (.start (.dispatch (seconds 1700000000) 10)::List.replicate 6 (go 0 (.transient "timeout")) ++
        dispatchAt 1 31 .accepted) between ∧
      (∃ d ∈ between.shared.deliveries, d.id = 0x91 ∧ d.status = .terminalSuccess) ∧
      Run dispatcher.fire free between [go 0 (.transient "timeout")] last ∧
      ∃ d ∈ last.shared.deliveries, d.id = 0x91 ∧ d.status = .retry ∧ d.attemptN = 1 := replayTwice _ _ _ _ _ _ _ (by decide +kernel)

end OpenPanel.Notifications
