import OpenPanel.CallPool
import OpenPanel.SshKeys
import OpenPanel.Users

/-! Adding and removing host keys while other calls do. A call changes the table,
lists it, renders the file from the listing and renames a temporary file that all calls
share. Every statement and file operation is a step and may fail. -/
namespace OpenPanel.Security
open CallPool GuardedRun Fallible
open Identity (Role)

structure KeyHost where
  table : List HostSshKey
  file : Option (List Char)
  temporary : Option (List Char)

-- After `list` a call carries the listing it took.
inductive KeyPoint where
  | duplicate (key : HostSshKey)
  | insert (key : HostSshKey)
  | delete (id : Uuid)
  | list
  | read (keys : List HostSshKey)
  | write (keys : List HostSshKey) (rendered : List Char)
  | restrict (keys : List HostSshKey)
  | rename (keys : List HostSshKey)
  | stat
  | done
  | failed (error : SecurityError)
  deriving DecidableEq

def requireAdmin (role : Role) : Except SecurityError Unit :=
  if role = .admin ∨ role = .owner then .ok () else .error .forbidden

def KeyPoint.first (point : Except SecurityError KeyPoint) : KeyPoint :=
  match point with
  | .ok point => point
  | .error e => .failed e

def add (codec : KeyCodec) (role : Role) (caller id : Uuid) (label line : List Char) (now : DateTime) : KeyPoint :=
  .first (do
    requireAdmin role
    let key ← HostSshKey.parse codec id label line caller now
    return .duplicate key)

def remove (role : Role) (id : Uuid) : KeyPoint :=
  .first (do
    requireAdmin role
    return .delete id)

-- `ORDER BY added_at`; of the columns, the renderer reads the label, the algorithm and the body.
def listing (table : List HostSshKey) : List HostSshKey := table.insertionSort (fun a b => a.addedAt ≤ b.addedAt)

-- A write that fails may leave anything in the temporary file.
inductive KeyInput where
  | fine
  | fault (message : String) (torn : Option (List Char))

def lost (message : String) : KeyPoint := .failed (.persistence message)

def advance (host : KeyHost) : KeyPoint → Option (KeyHost × KeyPoint)
  | .duplicate key =>
    some (host,if host.table.any (fun row => row.fingerprint == key.fingerprint) then .failed .duplicateSshKey else .insert key)
  | .insert key =>
    if host.table.any (fun row => row.fingerprint == key.fingerprint || row.id == key.id) then
      some (host,lost "UNIQUE constraint failed")
    else some ({host with table := host.table ++ [key]},.list)
  | .delete id =>
    if host.table.any (fun row => row.id == id) then
      some ({host with table := Rows.delete HostSshKey.id id host.table},.list)
    else some (host,.failed (.notFound id.hyphenated))
  | .list => some (host,.read (listing host.table))
  | .read keys => some (host,.write keys (renderAuthorizedKeys (host.file.getD []) keys))
  | .write keys rendered => some ({host with temporary := some rendered},.restrict keys)
  | .restrict keys => some (host,if host.temporary.isSome then .rename keys else lost "No such file or directory")
  | .rename _ => match host.temporary with
    | some text => some ({host with file := some text,temporary := none},.stat)
    | none => some (host,lost "No such file or directory")
  | .stat => some (host,.done)
  | .done => none
  | .failed _ => none

def breakOff (host : KeyHost) (message : String) (torn : Option (List Char)) : KeyPoint → Option (KeyHost × KeyPoint)
  | .read keys => some (host,.write keys (renderAuthorizedKeys [] keys))
  | .write _ _ => some ({host with temporary := torn},lost message)
  | .done => none
  | .failed _ => none
  | _ => some (host,lost message)

def KeyPoint.entry : KeyPoint → Bool
  | .duplicate _ => true
  | .delete _ => true
  | .failed _ => true
  | _ => false

def keyMachine : Machine KeyHost KeyPoint KeyInput where
  entry := KeyPoint.entry
  step host point
    | .fine => advance host point
    | .fault message torn => breakOff host message torn point

def managedBlock (keys : List HostSshKey) : List Char := managedBegin ++ managedLines keys ++ managedEnd

def KeyHost.synced (host : KeyHost) : Bool :=
  match host.file with
  | some text => (managedBlock (listing host.table)).isPrefixOf text ||
      host.table.isEmpty && !managedBegin.isPrefixOf text
  | none => host.table.isEmpty

def KeyPoint.pending (table : List HostSshKey) : KeyPoint → Bool
  | .duplicate _ => true
  | .insert _ => true
  | .delete _ => true
  | .list => true
  | .read keys => keys == listing table
  | .write keys _ => keys == listing table
  | .restrict keys => keys == listing table
  | .rename keys => keys == listing table
  | _ => false

def KeyPoint.isFailed : KeyPoint → Bool
  | .failed _ => true
  | _ => false

/-- What is renamed lists the table, unless a call that will still list it, or
holds its listing, is to rename later. -/
def publishesLast (c : Pool KeyHost KeyPoint) : Event KeyPoint KeyInput → Prop
  | .step index .fine => match c.calls[index]? with
    | some (.rename _) =>
      (c.shared.temporary.all (fun text => (managedBlock (listing c.shared.table)).isPrefixOf text) ||
        (c.calls.eraseIdx index).any (KeyPoint.pending c.shared.table)) = true
    | _ => True
  | _ => True

instance (c e) : Decidable (publishesLast c e) := by
  unfold publishesLast
  split
  · split <;> infer_instance
  · infer_instance

theorem breakOffCases (moved : breakOff host message torn point = some (host',point')) :
    point'.isFailed = true ∨ host' = host ∧ point'.pending host.table = point.pending host.table := by
  cases point with
  | read keys =>
    cases moved
    exact .inr ⟨rfl,rfl⟩
  | done => contradiction
  | failed e => contradiction
  | _ =>
    cases moved
    exact .inl rfl

theorem carriesListing {host : KeyHost} {point : KeyPoint} (carries : point.pending host.table = (keys == listing host.table)) :
    point.pending host.table = true ∨ (keys == listing host.table) = false := by
  rw [carries]
  exact Bool.eq_false_or_eq_true _

theorem keyStep (moved : keyMachine.step host point input = some (host',point')) :
    point'.isFailed = true ∨ point'.pending host'.table = true ∨
      (∃ keys text, point = .rename keys ∧ input = .fine ∧ host.temporary = some text ∧
        host' = {host with file := some text,temporary := none}) ∨
      (host'.table = host.table ∧ host'.file = host.file ∧ point.pending host.table = false) := by
  cases input with
  | fault message torn =>
    rcases breakOffCases moved with failed | ⟨rfl,same⟩
    · exact .inl failed
    · cases status : point.pending host'.table with
      | true => exact .inr (.inl (same.trans status))
      | false => exact .inr (.inr (.inr ⟨rfl,rfl,rfl⟩))
  | fine =>
    cases point with
    | duplicate key =>
      obtain ⟨rfl,rfl⟩ := moved
      split
      · exact .inl rfl
      · exact .inr (.inl rfl)
    | insert key =>
      simp only [keyMachine,advance] at moved
      split at moved <;> cases moved
      · exact .inl rfl
      · exact .inr (.inl rfl)
    | delete id =>
      simp only [keyMachine,advance] at moved
      split at moved <;> cases moved
      · exact .inr (.inl rfl)
      · exact .inl rfl
    | list =>
      cases moved
      exact .inr (.inl (beq_self_eq_true (listing host.table)))
    | read keys =>
      cases moved
      exact .inr ((carriesListing rfl).imp_right (fun stale => .inr ⟨rfl,rfl,stale⟩))
    | write keys rendered =>
      cases moved
      exact .inr ((carriesListing rfl).imp_right (fun stale => .inr ⟨rfl,rfl,stale⟩))
    | restrict keys =>
      obtain ⟨rfl,rfl⟩ := moved
      split
      · exact .inr ((carriesListing rfl).imp_right (fun stale => .inr ⟨rfl,rfl,stale⟩))
      · exact .inl rfl
    | rename keys =>
      simp only [keyMachine,advance] at moved
      split at moved <;> cases moved
      · rename_i text present
        exact .inr (.inr (.inl ⟨keys,text,rfl,rfl,present,rfl⟩))
      · exact .inl rfl
    | stat =>
      cases moved
      exact .inr (.inr (.inr ⟨rfl,rfl,rfl⟩))
    | done => contradiction
    | failed e => contradiction

def Attended (c : Pool KeyHost KeyPoint) : Prop :=
  (∃ call ∈ c.calls, call.isFailed = true) ∨ c.shared.synced = true ∨ ∃ call ∈ c.calls, call.pending c.shared.table = true

theorem failedStays (moved : keyMachine.step host point input = some (host',point')) : point.isFailed = false := by
  cases point <;> cases input <;> first | rfl | contradiction

theorem attendedStep (inv : Attended c) (allowed : publishesLast c e) (fired : keyMachine.fire c e = some next) : Attended next := by
  obtain ⟨point,rfl,_,rfl⟩ | ⟨index,input,point,shared,target,rfl,found,moved,rfl⟩ := fireCases fired
  · refine inv.imp ?_ (Or.imp id ?_)
    · exact fun ⟨call,mem,failed⟩ => ⟨call,List.mem_append_left _ mem,failed⟩
    · exact fun ⟨call,mem,waits⟩ => ⟨call,List.mem_append_left _ mem,waits⟩
  · have here : target ∈ c.calls.set index target := stepMem found
    have others : ∀ call ∈ c.calls, call = point ∨ call ∈ c.calls.set index target := fun _ mem =>
      othersKept found target mem
    rcases keyStep moved with failed | waits | ⟨keys,text,rfl,rfl,present,rfl⟩ | ⟨table,file,idle⟩
    · exact .inl ⟨target,here,failed⟩
    · exact .inr (.inr ⟨target,here,waits⟩)
    · -- What was renamed is current, or another call renames after this one.
      simp only [publishesLast,found,present,Option.all_some,Bool.or_eq_true,List.any_eq_true] at allowed
      rcases allowed with current | ⟨other,elsewhere,waits⟩
      · exact .inr (.inl (by simp [KeyHost.synced,current]))
      · obtain ⟨j,different,position⟩ := List.mem_eraseIdx_iff_getElem?.mp elsewhere
        refine .inr (.inr ⟨other,List.mem_iff_getElem?.mpr ⟨j,?_⟩,waits⟩)
        rwa [List.getElem?_set_ne (Ne.symm different)]
    · rcases inv with ⟨call,mem,failed⟩ | synced | ⟨call,mem,waits⟩
      · rcases others call mem with rfl | kept
        · rw [failedStays moved] at failed
          cases failed
        · exact .inl ⟨call,kept,failed⟩
      · refine .inr (.inl ?_)
        simpa only [KeyHost.synced,table,file] using synced
      · rcases others call mem with rfl | kept
        · rw [idle] at waits
          cases waits
        · exact .inr (.inr ⟨call,kept,by rwa [table]⟩)

theorem revocationPublished (start : KeyHost) (synced : start.synced = true) {events : List (Event KeyPoint KeyInput)}
    {last : Pool KeyHost KeyPoint} (run : Run keyMachine.fire publishesLast ⟨start,[]⟩ events last)
    (finished : ∀ call ∈ last.calls, call = .done) : last.shared.synced = true := by
  have initial : Attended ⟨start,[]⟩ := .inr (.inl synced)
  have attended := run.keeps (fun _ _ _ inv allowed fired => attendedStep inv allowed fired) initial
  rcases attended with ⟨call,mem,failed⟩ | synced | ⟨call,mem,waits⟩
  · rw [finished call mem] at failed
    cases failed
  · exact synced
  · rw [finished call mem] at waits
    cases waits

def freshHost : KeyHost := ⟨[],none,none⟩

def steps (index count : Nat) : List (Event KeyPoint KeyInput) := List.replicate count (.step index .fine)

def adding : Event KeyPoint KeyInput := .start (add sampleCodec .admin 2 1 "laptop".toList sampleLine 0)
def removing : Event KeyPoint KeyInput := .start (remove .admin 1)

def allDone (c : Pool KeyHost KeyPoint) : Bool := c.calls.all (fun call => call == .done)

theorem finishedDone (finished : allDone c = true) : ∀ call ∈ c.calls, call = .done := by
  simpa [allDone] using finished

theorem removedPublished : ∃ last,
    Run keyMachine.fire publishesLast ⟨freshHost,[]⟩ (adding::steps 0 8 ++ removing::steps 1 7) last ∧
      last.shared.table = [] ∧ last.shared.synced = true := by
  obtain ⟨last,run,finished,empty⟩ := replayShows keyMachine.fire publishesLast ⟨freshHost,[]⟩ (adding::steps 0 8 ++ removing::steps 1 7)
    (fun last => allDone last = true ∧ last.shared.table = []) (by decide +kernel)
  exact ⟨last,run,empty,revocationPublished freshHost rfl run (finishedDone finished)⟩

theorem removedRestored : ∃ last,
    Run keyMachine.fire free ⟨freshHost,[]⟩ (adding::steps 0 3 ++ removing::steps 1 7 ++ steps 0 5) last ∧
      (∀ call ∈ last.calls, call = .done) ∧ last.shared.table = [] ∧ last.shared.synced = false := replayShows _ _ _ _ _ (by decide +kernel)

end OpenPanel.Security
