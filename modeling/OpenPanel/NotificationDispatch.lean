import OpenPanel.Fallible
import OpenPanel.NotificationDeliveries
import OpenPanel.RateLimits
import OpenPanel.WebhookDestinations

/-! One call of the dispatcher by itself: what it leased is prepared and settled, one delivery after
the other. What the rows hold, the cipher of a credential, the text of a body and the
adapter's answer to each delivery are inputs, and every statement may fail. The audit and the
failure count of a subscription are left out. -/
namespace OpenPanel.Notifications
open Fallible

structure Channel where
  id : Uuid
  disabledAt : Option DateTime
  config : ChannelConfig
  credentialEnc : String

def Channel.isEnabled (channel : Channel) : Bool := channel.disabledAt.isNone

structure Subscription where
  destination : String
  enabled : Bool

inductive Statement where
  | lease
  | read (id : Uuid)
  | find (lookup : Lookup) (id : Uuid)
  | update (id : Uuid)
  | finish (id : Uuid)
  | count (id : Uuid)

/-- A row that is there may not be readable. The host of a webhook may resolve to something else for each delivery. -/
structure Surroundings (Event : Type) where
  fault : Statement → Option String
  events : Uuid → Except String (Option Event)
  subscriptions : Uuid → Except String (Option Subscription)
  channels : Uuid → Except String (Option Channel)
  net : Uuid → Resolver
  decrypt : String → Except String String
  render : Event → Uuid → Except String (List UInt8)
  digest : List UInt8 → String
  maxPayloadBytes : Nat
  send : Uuid → AdapterOutcome

structure Desk where
  outbox : Outbox
  limiter : Limiter

inductive Stop where
  | error (error : ServiceError)
  | panicked

abbrev Dispatch := Prog Desk Stop

def internal (message : String) : Stop := .error (.internal message)

section Calls

variable {Event : Type} (env : Surroundings Event) (now : DateTime)

def found (lookup : Lookup) (delivery : DeliveryAttempt) (answer : Except String (Option α)) : Except String (Option α) :=
  match env.fault (.find lookup delivery.id) with
  | some message => .error message
  | none => answer

def findEvent (delivery : DeliveryAttempt) := found env .event delivery (env.events delivery.eventId)
def findSubscription (delivery : DeliveryAttempt) := found env .subscription delivery (env.subscriptions delivery.subscriptionId)
def findChannel (delivery : DeliveryAttempt) := found env .channel delivery (env.channels delivery.channelId)

def storing (which : Statement) (change : Outbox → Outbox) : Dispatch Unit := attempt (fun s => match env.fault which with
  | some message => .error (internal message)
  | none => .ok ((),{s with outbox := change s.outbox}))

def recording (result : Except NotificationError DeliveryAttempt) : Dispatch DeliveryAttempt :=
  reads (fun _ => result.mapError (fun e => .error (.domain e)))

def finishFailure (delivery : DeliveryAttempt) : Dispatch Unit := do
  storing env (.finish delivery.id) (fun outbox => outbox.updateDelivery delivery)
  storing env (.count delivery.id) id

def missing (lookup : Lookup) (delivery : DeliveryAttempt) : Dispatch Unit := do
  let failed ← recording (delivery.recordPermanentFailure now lookup.missing)
  finishFailure env failed

def webhookBody (event : Event) (deliveryId : Uuid) : Except NotificationError (List UInt8) := do
  let body ← (env.render event deliveryId).mapError .invalidEvent
  if env.maxPayloadBytes < body.length then .error (.invalidEvent "payload too large") else .ok body

def accepts (subscription : Subscription) (channel : Channel) (delivery : DeliveryAttempt) : Bool :=
  channel.isEnabled && subscription.enabled && (ensureDestination (env.net delivery.id) channel.config subscription.destination).isOk

def takeSlot (channel : Channel) : Dispatch Bool := fun s =>
  match takeRateSlot s.limiter channel.id now with
  | (some granted,limiter) => (.ok granted,{s with limiter})
  | (none,limiter) => (.error .panicked,{s with limiter})

def attempted (event : Event) (subscription : Subscription) (channel : Channel) (delivery : DeliveryAttempt) : Dispatch AdapterOutcome :=
  if !accepts env subscription channel delivery then pure (.permanent "destination rejected")
  else do
    let granted ← takeSlot now channel
    if !granted then pure (.transient "channel rate limited")
    else do
      let _ ← reads (fun _ => (env.decrypt channel.credentialEnc).mapError internal)
      match channel.config with
      | .smtp _ => pure (env.send delivery.id)
      | .webhook _ => do
        let body ← reads (fun _ => (webhookBody env event delivery.id).mapError (fun e => .error (.domain e)))
        if env.digest body ≠ delivery.payloadDigest then pure (.permanent "payload digest mismatch") else pure (env.send delivery.id)

def settle (delivery : DeliveryAttempt) : AdapterOutcome → Dispatch Unit
  | .accepted => do
    let result ← recording (delivery.recordSuccess now)
    storing env (.update delivery.id) (fun outbox => outbox.updateDelivery result)
  | .transient error => do
    let result ← recording (delivery.recordTransientFailure now error)
    storing env (.update delivery.id) (fun outbox => outbox.updateDelivery result)
    if result.status = .terminalFailure then finishFailure env result else pure ()
  | .permanent error => do
    let result ← recording (delivery.recordPermanentFailure now error)
    finishFailure env result

def dispatchOne (delivery : DeliveryAttempt) : Dispatch Unit := do
  let event ← reads (fun _ => (findEvent env delivery).mapError internal)
  match event with
  | none => missing env now .event delivery
  | some event => do
    let subscription ← reads (fun _ => (findSubscription env delivery).mapError internal)
    match subscription with
    | none => missing env now .subscription delivery
    | some subscription => do
      let channel ← reads (fun _ => (findChannel env delivery).mapError internal)
      match channel with
      | none => missing env now .channel delivery
      | some channel => do
        let outcome ← attempted env now event subscription channel delivery
        settle env now delivery outcome

def dispatchEach : List DeliveryAttempt → Dispatch Unit
  | [] => pure ()
  | delivery::rest => do
    dispatchOne env now delivery
    dispatchEach rest

def readEach : List Uuid → Dispatch (List DeliveryAttempt)
  | [] => pure []
  | id::ids => do
    let delivery ← reads (fun s => match env.fault (.read id),s.outbox.find id with
      | some message,_ => .error (internal message)
      | none,none => .error (internal "no rows returned by a query that expected to return at least one row")
      | none,some delivery => .ok delivery)
    let rest ← readEach ids
    return delivery::rest

def leaseDue (limit : Nat) : Dispatch (List DeliveryAttempt) := do
  let ids ← attempt (fun s => match env.fault .lease with
    | some message => .error (internal message)
    | none =>
      let (outbox,ids) := s.outbox.leaseDue now limit (seconds 30)
      .ok (ids,{s with outbox}))
  readEach env ids

def dispatchOnce (limit : Nat) : Dispatch Nat := do
  let deliveries ← leaseDue env now limit
  dispatchEach env now deliveries
  return deliveries.length

end Calls

section Preparing

variable {Event : Type} (env : Surroundings Event) (now : DateTime)

/-- The event and the channel of a delivery that comes to ask for a slot. -/
def asking (delivery : DeliveryAttempt) : Option (Event × Channel) :=
  match findEvent env delivery,findSubscription env delivery,findChannel env delivery with
  | .ok (some event),.ok (some subscription),.ok (some channel) =>
    if accepts env subscription channel delivery then some (event,channel) else none
  | _,_,_ => none

/-- Preparing the delivery is an error: a row cannot be read, or with a slot granted the credential does not open or the
body of a webhook cannot be made. -/
inductive Fails (limiter : Limiter) (delivery : DeliveryAttempt) : Prop where
  | event (unreadable : findEvent env delivery = .error e)
  | subscription (there : findEvent env delivery = .ok (some event)) (unreadable : findSubscription env delivery = .error e)
  | channel (there : findEvent env delivery = .ok (some event)) (subscribed : findSubscription env delivery = .ok (some subscription))
      (unreadable : findChannel env delivery = .error e)
  | credential (asks : asking env delivery = some (event,channel)) (granted : (takeRateSlot limiter channel.id now).1 = some true)
      (sealed : env.decrypt channel.credentialEnc = .error e)
  | body (asks : asking env delivery = some (event,channel)) (granted : (takeRateSlot limiter channel.id now).1 = some true)
      (webhook : channel.config = .webhook config) (unmade : webhookBody env event delivery.id = .error e)

def passed (limiter : Limiter) (delivery : DeliveryAttempt) : Limiter :=
  (asking env delivery).elim limiter (fun asks => (takeRateSlot limiter asks.2.id now).2)

/-- Each delivery with the limiter its turn would find, were the turns before it all taken. -/
def turns : Limiter → List DeliveryAttempt → List (Limiter × DeliveryAttempt)
  | _,[] => []
  | limiter,delivery::rest => (limiter,delivery)::turns (passed env now limiter delivery) rest

structure Stores : Prop where
  lease : env.fault .lease = none
  read : ∀ id, env.fault (.read id) = none
  update : ∀ id, env.fault (.update id) = none
  finish : ∀ id, env.fault (.finish id) = none
  count : ∀ id, env.fault (.count id) = none

end Preparing

def Outbox.statusOf (s : Outbox) (id : Uuid) : Option DeliveryStatus := (s.find id).map DeliveryAttempt.status

def Outbox.Recorded (s : Outbox) (id : Uuid) : Prop := ∃ status, s.statusOf id = some status ∧ status ≠ .pending ∧ status ≠ .leased

def Outbox.batch (s : Outbox) (now : DateTime) (limit : Nat) : List DeliveryAttempt :=
  (s.leaseDue now limit (seconds 30)).2.filterMap (s.leaseDue now limit (seconds 30)).1.find

section Leasing

variable {s : Outbox} {id : Uuid}

theorem findAdjusted (same : ∀ d, (f d).id = d.id) (id) : (s.adjust f same).find id = (s.find id).map f := by
  unfold Outbox.find Outbox.adjust
  rw [List.find?_map]
  congr 2
  funext d
  simp [same]

theorem leasedKept {now leaseFor id d} (leased : d.status = .leased) : leasedUntil now leaseFor id d = d := by
  simp [leasedUntil,due,leased]

theorem leaseEachKept (stands : s.find id = some d) (leased : d.status = .leased) (ids) :
    (Outbox.leaseEach now leaseFor ids s).1.find id = some d := by
  induction ids generalizing s with
  | nil => exact stands
  | cons next ids ih => exact ih (by rw [findAdjusted,stands,Option.map_some,leasedKept leased])

theorem leaseEachRows (ids : List Uuid) : (Outbox.leaseEach now leaseFor ids s).2.Sublist ids ∧
    ∀ id ∈ (Outbox.leaseEach now leaseFor ids s).2, ∃ d, (Outbox.leaseEach now leaseFor ids s).1.find id = some d ∧
      d.id = id ∧ d.status = .leased := by
  induction ids generalizing s with
  | nil => exact ⟨.slnil,nofun⟩
  | cons id ids ih =>
    obtain ⟨inner,rows⟩ := @ih (s.adjust (leasedUntil now leaseFor id) (leasedId now leaseFor id))
    simp only [Outbox.leaseEach]
    split
    · rename_i affected
      refine ⟨inner.cons_cons id,List.forall_mem_cons.mpr ⟨?_,rows⟩⟩
      obtain ⟨row,mem,hit⟩ := List.any_eq_true.mp affected
      simp only [Bool.and_eq_true,beq_iff_eq] at hit
      have there : s.find id = some row := Rows.findOnly mem (by simp [hit.1]) (fun other inside same =>
        Rows.equalOfKey s.ids inside mem (by simpa [hit.1] using same))
      have taken : (s.adjust (leasedUntil now leaseFor id) (leasedId now leaseFor id)).find id =
          some (leasedUntil now leaseFor id row) := by rw [findAdjusted,there,Option.map_some]
      have leased : (leasedUntil now leaseFor id row).status = .leased := by rw [leasedUntil,if_pos hit]
      exact ⟨_,leaseEachKept taken leased ids,(leasedId ..).trans hit.1,leased⟩
    · exact ⟨inner.cons id,rows⟩

theorem leaseDueRows (s : Outbox) (now limit leaseFor) : (s.leaseDue now limit leaseFor).2.Nodup ∧
    ∀ id ∈ (s.leaseDue now limit leaseFor).2, ∃ d, (s.leaseDue now limit leaseFor).1.find id = some d ∧ d.id = id ∧ d.status = .leased := by
  obtain ⟨inner,rows⟩ := @leaseEachRows (s.adjust (recovered now) (recoveredId now)) now leaseFor
    ((s.adjust (recovered now) (recoveredId now)).dueIds now limit)
  refine ⟨inner.nodup ?_,rows⟩
  have kept := (s.adjust (recovered now) (recoveredId now)).ids
  refine List.Nodup.sublist ((List.take_sublist ..).map _) ?_
  exact ((List.perm_insertionSort _ _).map DeliveryAttempt.id).nodup_iff.mpr (kept.sublist (List.filter_sublist.map _))

theorem updateTwice (result) : (s.updateDelivery result).updateDelivery result = s.updateDelivery result := by
  have twice : ∀ d, written result (written result d) = written result d := by
    intro d
    by_cases same : d.id = result.id <;> simp [written,same]
  simp only [Outbox.updateDelivery,Outbox.adjust,Outbox.mk.injEq,List.map_map]
  exact List.map_congr_left (fun d _ => twice d)

theorem statusUpdated (result) (id) : (s.updateDelivery result).statusOf id =
    if id = result.id then (s.statusOf id).map (fun _ => result.status) else s.statusOf id := by
  unfold Outbox.statusOf
  rw [Outbox.updateDelivery,findAdjusted]
  cases there : s.find id with
  | none => simp
  | some d =>
    have own : d.id = id := by simpa using List.find?_some there
    by_cases same : id = result.id <;> simp [written,own,same]

end Leasing

section Turns

variable {Event : Type} {env : Surroundings Event} {now : DateTime} {s : Desk} {d : DeliveryAttempt}

def Settles (d : DeliveryAttempt) (s next : Desk) : Prop :=
  ∃ result : DeliveryAttempt, next = {s with outbox := s.outbox.updateDelivery result} ∧
    result.id = d.id ∧ result.status ≠ .pending ∧ result.status ≠ .leased

theorem storingEnds (sound : env.fault which = none) : Ends (storing env which change) s
    (fun _ next => next = {s with outbox := change s.outbox}) (fun _ _ => False) := by
  refine .attempts (fun _ next ran => ?_) (fun e ran => ?_) <;> rw [sound] at ran <;> cases ran
  rfl

theorem finishFailureEnds (stores : Stores env) : Ends (finishFailure env result) s
    (fun _ next => next = {s with outbox := s.outbox.updateDelivery result}) (fun _ _ => False) := by
  refine .after (storingEnds (stores.finish _)) ?_ (fun _ _ no => no)
  rintro _ _ rfl
  exact storingEnds (stores.count _)

theorem settleEnds (stores : Stores env) (leased : d.status = .leased) (outcome) :
    Ends (settle env now d outcome) s (fun _ => Settles d s) (fun _ _ => False) := by
  cases outcome with
  | accepted =>
    refine .andThen (.knows (by rw [DeliveryAttempt.recordSuccess,if_neg (not_not.mpr leased)]; rfl) ?_)
    exact (storingEnds (stores.update _)).gives (fun _ _ done => ⟨_,done,rfl,by simp,by simp⟩)
  | permanent error =>
    refine .andThen (.knows (by rw [DeliveryAttempt.recordPermanentFailure,if_neg (not_not.mpr leased)]; rfl) ?_)
    exact (finishFailureEnds stores).gives (fun _ _ done => ⟨_,done,rfl,by simp,by simp⟩)
  | transient error =>
    obtain ⟨result,recorded,own,done⟩ : ∃ result, d.recordTransientFailure now error = .ok result ∧ result.id = d.id ∧
        (result.status = .terminalFailure ∨ result.status = .retry) := by
      rw [DeliveryAttempt.recordTransientFailure,if_neg (not_not.mpr leased)]
      simp only
      split
      · exact ⟨_,rfl,rfl,.inl rfl⟩
      · exact ⟨_,rfl,rfl,.inr rfl⟩
    have settled : Settles d s {s with outbox := s.outbox.updateDelivery result} := by
      rcases done with status | status <;> exact ⟨result,rfl,own,by simp [status],by simp [status]⟩
    refine .andThen (.knows (by rw [recorded]; rfl) (.andThen ((storingEnds (stores.update _)).gives ?_)))
    rintro _ mid rfl
    refine .branch (fun _ => (finishFailureEnds stores).gives ?_) (fun _ => .returns settled)
    rintro _ next rfl
    simpa only [updateTwice] using settled

theorem attemptedEnds (inRange : minUtc + minute ≤ now) (event : findEvent env d = .ok (some e))
    (subscription : findSubscription env d = .ok (some sub)) (channel : findChannel env d = .ok (some chan)) :
    Ends (attempted env now e sub chan d) s
      (fun _ next => ¬ Fails env now s.limiter d ∧ next = {s with limiter := passed env now s.limiter d})
      (fun _ next => Fails env now s.limiter d ∧ next.outbox = s.outbox) := by
  by_cases allowed : accepts env sub chan d = true
  · have asks : asking env d = some (e,chan) := by simp [asking,event,subscription,channel,allowed]
    have after : passed env now s.limiter d = (takeRateSlot s.limiter chan.id now).2 := by simp [passed,asks]
    obtain ⟨granted,limiter,taken⟩ : ∃ granted limiter, takeRateSlot s.limiter chan.id now = (some granted,limiter) := by
      cases poisoned : s.limiter.poisoned with
      | true => exact ⟨_,_,by rw [takeRateSlot,if_pos poisoned]⟩
      | false => exact ⟨_,_,slotInRange poisoned inRange⟩
    have slot : Ends (takeSlot now chan) s (fun given next => given = granted ∧ next = {s with limiter := passed env now s.limiter d})
        (fun _ _ => False) := by
      refine .observed (fun given next ran => ?_) (fun e next ran => ?_)
      all_goals
        change takeSlot now chan s = _ at ran
        rw [takeSlot,taken] at ran
        cases ran
      exact ⟨rfl,by rw [after,taken]⟩
    rw [attempted,if_neg (by simp [allowed])]
    refine .andThen (slot.weaken ?_ (fun _ _ no => no.elim))
    rintro _ _ ⟨rfl,rfl⟩
    refine .branch (fun refused => .returns ⟨?_,rfl⟩) (fun given => ?_)
    · rintro (unread | ⟨_,unread⟩ | ⟨_,_,unread⟩ | ⟨again,given,_⟩ | ⟨again,given,_⟩)
      all_goals simp_all
    · have yes : (takeRateSlot s.limiter chan.id now).1 = some true := by simpa [taken] using given
      refine .asks (fun secret opened => ?_) (fun e closed => ⟨.credential asks yes (mapErrorFails closed).choose_spec,rfl⟩)
      have unlocked := mapErrorOk opened
      have clear : (∀ config error, chan.config = .webhook config → webhookBody env e d.id ≠ .error error) → ¬ Fails env now s.limiter d := by
        rintro fits (unread | ⟨_,unread⟩ | ⟨_,_,unread⟩ | ⟨again,_,closed⟩ | ⟨again,_,webhook,unmade⟩)
        · rw [event] at unread; cases unread
        · rw [subscription] at unread; cases unread
        · rw [channel] at unread; cases unread
        · cases asks.symm.trans again
          rw [unlocked] at closed; cases closed
        · cases asks.symm.trans again
          exact fits _ _ webhook unmade
      cases config : chan.config with
      | smtp => exact .returns ⟨clear (by simp [config]),rfl⟩
      | webhook =>
        refine .asks (fun body made => ?_) (fun e unmade => ⟨.body asks yes config (mapErrorFails unmade).choose_spec,rfl⟩)
        have whole := mapErrorOk made
        have free := clear (fun _ _ _ unmade => by rw [whole] at unmade; cases unmade)
        exact .branch (fun _ => .returns ⟨free,rfl⟩) (fun _ => .returns ⟨free,rfl⟩)
  · have none : asking env d = none := by simp [asking,event,subscription,channel,allowed]
    rw [attempted,if_pos (by simpa using allowed)]
    refine .returns ⟨?_,by simp [passed,none]⟩
    rintro (unread | ⟨_,unread⟩ | ⟨_,_,unread⟩ | ⟨again,_⟩ | ⟨again,_⟩)
    all_goals simp_all

theorem dispatchOneEnds (stores : Stores env) (inRange : minUtc + minute ≤ now) (leased : d.status = .leased) :
    Ends (dispatchOne env now d) s
      (fun _ next => ¬ Fails env now s.limiter d ∧ Settles d {s with limiter := passed env now s.limiter d} next)
      (fun _ next => Fails env now s.limiter d ∧ next.outbox = s.outbox) := by
  have absent : ∀ lookup, asking env d = none → ¬ Fails env now s.limiter d → Ends (missing env now lookup d) s
      (fun _ next => ¬ Fails env now s.limiter d ∧ Settles d {s with limiter := passed env now s.limiter d} next)
      (fun _ next => Fails env now s.limiter d ∧ next.outbox = s.outbox) := by
    intro lookup none fine
    have same : passed env now s.limiter d = s.limiter := by simp [passed,none]
    exact (settleEnds stores leased (.permanent lookup.missing)).weaken (fun _ _ done => ⟨fine,by rw [same]; exact done⟩) (fun _ _ no => no.elim)
  refine .asks (fun event ok => ?_) (fun e failed => ⟨.event (mapErrorFails failed).choose_spec,rfl⟩)
  have event' := mapErrorOk ok
  cases event with
  | none =>
    refine absent .event (by simp [asking,event']) ?_
    rintro (unread | ⟨there,_⟩ | ⟨there,_⟩ | ⟨asks,_⟩ | ⟨asks,_⟩) <;> simp_all [asking]
  | some event =>
    refine .asks (fun subscription ok => ?_) (fun e failed => ⟨.subscription event' (mapErrorFails failed).choose_spec,rfl⟩)
    have subscription' := mapErrorOk ok
    cases subscription with
    | none =>
      refine absent .subscription (by simp [asking,event',subscription']) ?_
      rintro (unread | ⟨there,unread⟩ | ⟨_,there,_⟩ | ⟨asks,_⟩ | ⟨asks,_⟩) <;> simp_all [asking]
    | some subscription =>
      refine .asks (fun channel ok => ?_) (fun e failed => ⟨.channel event' subscription' (mapErrorFails failed).choose_spec,rfl⟩)
      have channel' := mapErrorOk ok
      cases channel with
      | none =>
        refine absent .channel (by simp [asking,event',subscription',channel']) ?_
        rintro (unread | ⟨_,unread⟩ | ⟨_,_,unread⟩ | ⟨asks,_⟩ | ⟨asks,_⟩) <;> simp_all [asking]
      | some channel =>
        refine .andThen ((attemptedEnds inRange event' subscription' channel').gives ?_)
        rintro outcome _ ⟨fine,rfl⟩
        exact (settleEnds stores leased outcome).weaken (fun _ _ done => ⟨fine,done⟩) (fun _ _ no => no.elim)

theorem turnOf (mem : t ∈ turns env now limiter ds) : t.2 ∈ ds := by
  induction ds generalizing limiter with
  | nil => cases mem
  | cons d rest ih =>
    rcases List.mem_cons.mp mem with rfl | later
    · exact List.mem_cons_self
    · exact List.mem_cons_of_mem _ (ih later)

def Done (env : Surroundings Event) (now : DateTime) (next : Desk) (ts : List (Limiter × DeliveryAttempt)) : Prop :=
  ∀ t ∈ ts, ¬ Fails env now t.1 t.2 ∧ next.outbox.Recorded t.2.id

/-- What stood before the first error is recorded, and what stands after it is left as it was leased. -/
def BrokenOff (env : Surroundings Event) (now : DateTime) (next : Desk) (ts : List (Limiter × DeliveryAttempt)) : Prop :=
  ∃ front turn back, ts = front ++ turn::back ∧ Done env now next front ∧ Fails env now turn.1 turn.2 ∧
    ∀ t ∈ turn::back, next.outbox.statusOf t.2.id = some .leased

def Framed (ds : List DeliveryAttempt) (s next : Desk) : Prop :=
  ∀ id, id ∉ ds.map DeliveryAttempt.id → next.outbox.statusOf id = s.outbox.statusOf id

theorem dispatchEachEnds (stores : Stores env) (inRange : minUtc + minute ≤ now) (leased : ∀ d ∈ ds, d.status = .leased)
    (distinct : (ds.map DeliveryAttempt.id).Nodup) (stands : ∀ d ∈ ds, s.outbox.statusOf d.id = some .leased) :
    Ends (dispatchEach env now ds) s
      (fun _ next => Done env now next (turns env now s.limiter ds) ∧ Framed ds s next)
      (fun _ next => BrokenOff env now next (turns env now s.limiter ds) ∧ Framed ds s next) := by
  induction ds generalizing s with
  | nil => exact .returns ⟨nofun,fun _ _ => rfl⟩
  | cons d rest ih =>
    obtain ⟨once,distinct⟩ := List.nodup_cons.mp distinct
    refine .after (dispatchOneEnds stores inRange (leased d List.mem_cons_self)) ?_ ?_
    · rintro _ mid ⟨fine,result,rfl,own,pending,held⟩
      have here : (s.outbox.updateDelivery result).statusOf d.id = some result.status := by
        rw [statusUpdated,if_pos own.symm,stands d List.mem_cons_self,Option.map_some]
      have others : ∀ id ≠ d.id, (s.outbox.updateDelivery result).statusOf id = s.outbox.statusOf id :=
        fun id other => by rw [statusUpdated,if_neg (own ▸ other)]
      have recorded : ∀ next : Desk, next.outbox.statusOf d.id = (s.outbox.updateDelivery result).statusOf d.id → next.outbox.Recorded d.id :=
        fun next same => ⟨_,same.trans here,pending,held⟩
      have frame : ∀ next, Framed rest ⟨s.outbox.updateDelivery result,passed env now s.limiter d⟩ next → Framed (d::rest) s next := by
        intro next same id absent
        rw [List.map_cons,List.mem_cons,not_or] at absent
        exact (same id absent.2).trans (others id absent.1)
      refine .weaken (ih (fun x mem => leased x (List.mem_cons_of_mem _ mem)) distinct (fun x mem => ?_)) ?_ ?_
      · exact (others x.id (fun same => once (same ▸ List.mem_map_of_mem mem))).trans (stands x (List.mem_cons_of_mem _ mem))
      · rintro _ next ⟨all,same⟩
        exact ⟨List.forall_mem_cons.mpr ⟨⟨fine,recorded next (same d.id once)⟩,all⟩,frame next same⟩
      · rintro _ next ⟨⟨front,turn,back,parts,settled,failed,left⟩,same⟩
        refine ⟨⟨(s.limiter,d)::front,turn,back,congrArg _ parts,List.forall_mem_cons.mpr ⟨⟨fine,?_⟩,settled⟩,failed,left⟩,frame next same⟩
        exact recorded next (same d.id once)
    · rintro _ next ⟨failed,same⟩
      refine ⟨⟨[],_,_,rfl,nofun,failed,fun t mem => ?_⟩,fun _ _ => by rw [same]⟩
      have inside : t ∈ turns env now s.limiter (d::rest) := mem
      rw [same]
      exact stands t.2 (turnOf inside)

theorem readEachEnds (stores : Stores env) (there : ∀ id ∈ ids, ∃ d, s.outbox.find id = some d) :
    Ends (readEach env ids) s (fun ds next => ds = ids.filterMap s.outbox.find ∧ next = s) (fun _ _ => False) := by
  induction ids with
  | nil => exact .returns ⟨rfl,rfl⟩
  | cons id ids ih =>
    obtain ⟨found,others⟩ := List.forall_mem_cons.mp there
    obtain ⟨d,here⟩ := found
    refine .andThen (.knows (by rw [stores.read,here]) (.after (ih others) ?_ (fun _ _ no => no)))
    rintro _ _ ⟨rfl,rfl⟩
    exact .returns ⟨by rw [List.filterMap_cons_some here],rfl⟩

theorem leaseDueEnds (stores : Stores env) (limit) : Ends (leaseDue env now limit) s
    (fun ds next => ds = s.outbox.batch now limit ∧ next = {s with outbox := (s.outbox.leaseDue now limit (seconds 30)).1})
    (fun _ _ => False) := by
  refine .andThen (.attempts (fun ids next ran => ?_) (fun e ran => ?_)) <;> rw [stores.lease] at ran <;> cases ran
  refine readEachEnds stores (fun id mem => ?_)
  obtain ⟨d,found,_⟩ := (leaseDueRows ..).2 id mem
  exact ⟨d,found⟩

theorem batchLeased (s : Outbox) (now limit) : ((s.batch now limit).map DeliveryAttempt.id).Nodup ∧ ∀ d ∈ s.batch now limit,
    d.status = .leased ∧ (s.leaseDue now limit (seconds 30)).1.statusOf d.id = some .leased := by
  obtain ⟨distinct,rows⟩ := leaseDueRows s now limit (seconds 30)
  have named : ∀ ids : List Uuid, (∀ id ∈ ids, id ∈ (s.leaseDue now limit (seconds 30)).2) →
      (ids.filterMap (s.leaseDue now limit (seconds 30)).1.find).map DeliveryAttempt.id = ids := by
    intro ids
    induction ids with
    | nil => exact fun _ => rfl
    | cons id ids ih =>
      intro inside
      obtain ⟨d,found,own,_⟩ := rows id (inside id List.mem_cons_self)
      rw [List.filterMap_cons_some found,List.map_cons,own,ih (fun x mem => inside x (List.mem_cons_of_mem _ mem))]
  refine ⟨by rw [Outbox.batch,named _ (fun _ mem => mem)]; exact distinct,fun d mem => ?_⟩
  obtain ⟨id,inside,found⟩ := List.mem_filterMap.mp mem
  obtain ⟨row,again,own,leased⟩ := rows id inside
  cases found.symm.trans again
  exact ⟨leased,by rw [Outbox.statusOf,own,found,Option.map_some,leased]⟩

/-- Every delivery that could be prepared is recorded in the call just when none that could not stands before one that could. -/
theorem dispatchIsolated (env : Surroundings Event) (s : Desk) (now : DateTime) (limit : Nat) (stores : Stores env)
    (inRange : minUtc + minute ≤ now) :
    (∀ t ∈ turns env now s.limiter (s.outbox.batch now limit), ¬ Fails env now t.1 t.2 →
      (exec (dispatchOnce env now limit) s).2.outbox.Recorded t.2.id) ↔
    (turns env now s.limiter (s.outbox.batch now limit)).Pairwise (fun a b => Fails env now a.1 a.2 → Fails env now b.1 b.2) := by
  obtain ⟨distinct,leased⟩ := batchLeased s.outbox now limit
  have ends : Leaves (dispatchOnce env now limit) s (fun next =>
      Done env now next (turns env now s.limiter (s.outbox.batch now limit)) ∨
      BrokenOff env now next (turns env now s.limiter (s.outbox.batch now limit))) := by
    refine .after (leaseDueEnds stores limit) ?_ (fun _ _ no => no.elim)
    rintro _ _ ⟨rfl,rfl⟩
    refine .after (dispatchEachEnds stores inRange (fun d mem => (leased d mem).1) distinct (fun d mem => (leased d mem).2)) ?_ ?_
    · exact fun _ _ done => .returns (.inl done.1)
    · exact fun _ _ stopped => .inr stopped.1
  rcases ends.always with all | ⟨front,turn,back,parts,settled,failed,left⟩
  · exact ⟨fun _ => List.pairwise_iff_forall_sublist.mpr (fun pair fails => absurd fails (all _ (pair.subset List.mem_cons_self)).1),
      fun _ t mem _ => (all t mem).2⟩
  · have unrecorded : ∀ t ∈ turn::back, ¬ (exec (dispatchOnce env now limit) s).2.outbox.Recorded t.2.id := by
      rintro t mem ⟨status,there,_,held⟩
      cases (left t mem).symm.trans there
      exact held rfl
    rw [parts,List.pairwise_append,List.pairwise_cons]
    constructor
    · intro isolated
      have fails : ∀ t ∈ turn::back, Fails env now t.1 t.2 := fun t mem =>
        not_not.mp (fun fine => unrecorded t mem (isolated t (List.mem_append_right _ mem) fine))
      refine ⟨?_,⟨fun t mem _ => fails t (List.mem_cons_of_mem _ mem),?_⟩,fun t mem _ _ fail => absurd fail (settled t mem).1⟩
      · exact List.pairwise_iff_forall_sublist.mpr (fun pair fail => absurd fail (settled _ (pair.subset List.mem_cons_self)).1)
      · exact List.pairwise_iff_forall_sublist.mpr (fun pair _ =>
          fails _ (List.mem_cons_of_mem _ (pair.subset (List.mem_cons_of_mem _ List.mem_cons_self))))
    · rintro ⟨_,⟨later,_⟩,_⟩ t mem fine
      rcases List.mem_append.mp mem with before | after
      · exact (settled t before).2
      · rcases List.mem_cons.mp after with rfl | behind
        · exact absurd failed fine
        · exact absurd (later t behind failed) fine

end Turns

-- An empty credential does not open.
def mails (credential : Uuid → String) : Surroundings Unit where
  fault _ := none
  events _ := .ok (some ())
  subscriptions _ := .ok (some ⟨"ops@panel.test",true⟩)
  channels id := .ok (some ⟨id,none,.smtp ⟨["ops@panel.test"]⟩,credential id⟩)
  net _ := ⟨fun _ => none,fun _ => none,fun _ _ => none⟩
  decrypt text := if text = "" then .error "decryption error: aead::Error" else .ok text
  render _ _ := .ok []
  digest _ := ""
  maxPayloadBytes := 65536
  send _ := .accepted

def blanked (id : Uuid) : String := if id = 0x93 then "" else "sealed"

def twoQueued : Desk := ⟨⟨[queued,{queued with id := 0x95, channelId := 0x96}],by decide⟩,⟨fun _ => [],false⟩⟩

theorem mailsStores (credential) : Stores (mails credential) := ⟨rfl,fun _ => rfl,fun _ => rfl,fun _ => rfl,fun _ => rfl⟩

theorem askingChannel (asks : asking env d = some (event,channel)) : findChannel env d = .ok (some channel) := by
  unfold asking at asks
  split at asks
  · split at asks <;> cases asks
    assumption
  · cases asks

theorem mailsFine (opens : credential d.channelId ≠ "") : ¬ Fails (mails credential) now limiter d := by
  rintro (unread | ⟨_,unread⟩ | ⟨_,_,unread⟩ | ⟨asks,_,shut⟩ | ⟨_,_,_,unmade⟩)
  · cases unread
  · cases unread
  · cases unread
  · have own : (mails credential).channels d.channelId = .ok (some _) := askingChannel asks
    cases own
    simp [mails,opens] at shut
  · cases unmade

theorem turnFor (env : Surroundings Event) (now) (limiter) (mem : d ∈ ds) : ∃ found, (found,d) ∈ turns env now limiter ds := by
  induction ds generalizing limiter with
  | nil => cases mem
  | cons first rest ih =>
    rcases List.mem_cons.mp mem with rfl | later
    · exact ⟨limiter,List.mem_cons_self⟩
    · obtain ⟨found,there⟩ := ih (passed env now limiter first) later
      exact ⟨found,List.mem_cons_of_mem _ there⟩

theorem secondBatched : ∃ d ∈ twoQueued.outbox.batch (seconds 1700000000) 10, d.id = 0x95 ∧ d.channelId = 0x96 := by decide +kernel

theorem secondRecorded : (exec (dispatchOnce (mails (fun _ => "sealed")) (seconds 1700000000) 10) twoQueued).2.outbox.Recorded 0x95 := by
  obtain ⟨d,mem,own,_⟩ := secondBatched
  obtain ⟨limiter,turn⟩ := turnFor (mails (fun _ => "sealed")) (seconds 1700000000) twoQueued.limiter mem
  have isolated := (dispatchIsolated (mails (fun _ => "sealed")) twoQueued (seconds 1700000000) 10 (mailsStores _) (by decide)).mpr
    (List.pairwise_iff_forall_sublist.mpr (fun _ fails => absurd fails (mailsFine (by decide))))
  exact own ▸ isolated _ turn (mailsFine (by decide))

theorem secondLeft : ∃ t ∈ turns (mails blanked) (seconds 1700000000) twoQueued.limiter (twoQueued.outbox.batch (seconds 1700000000) 10),
    ¬ Fails (mails blanked) (seconds 1700000000) t.1 t.2 ∧
      (exec (dispatchOnce (mails blanked) (seconds 1700000000) 10) twoQueued).2.outbox.statusOf t.2.id = some .leased := by
  obtain ⟨d,mem,own,channel⟩ := secondBatched
  obtain ⟨limiter,turn⟩ := turnFor (mails blanked) (seconds 1700000000) twoQueued.limiter mem
  have left : (exec (dispatchOnce (mails blanked) (seconds 1700000000) 10) twoQueued).2.outbox.statusOf 0x95 = some .leased := by
    decide +kernel
  exact ⟨_,turn,mailsFine (by rw [channel]; decide),own ▸ left⟩

end OpenPanel.Notifications
