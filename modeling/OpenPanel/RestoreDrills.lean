import OpenPanel.ArchiveRoundTrip
import OpenPanel.BackupRetention

/-! Restore drills. A drill looks at the header of a site archive, the size of a
dump and the syntax of the panel metadata, not at sizes and digests: a run it passes is
restorable exactly if the files are what the capture wrote. The JSON parser is a
parameter; the sandbox database and the notifications are left out. -/
namespace OpenPanel.Backups
open Fallible FileTree

inductive DrillAssertionKind where | database | site | sslKeys | panelMetadata

structure DrillAssertion where
  kind : DrillAssertionKind
  passed : Bool
  detail : String

inductive DrillOutcome where | passed | failed
inductive DrillState where | running | passed | failed deriving DecidableEq

structure RestoreDrill where
  id : Uuid
  backupRunId : Uuid
  state : DrillState
  assertions : List DrillAssertion
  startedAt : DateTime
  completedAt : Option DateTime

def RestoreDrill.start (id backupRunId : Uuid) (now : DateTime) : RestoreDrill :=
  ⟨id,backupRunId,.running,[],now,none⟩

def DrillState.name : DrillState → String
  | .running => "Running"
  | .passed => "Passed"
  | .failed => "Failed"

inductive DrillServiceError where
  | validation (detail : String)
  | runNotFound
  | internal (detail : String)

def RestoreDrill.finish (drill : RestoreDrill) (outcome : DrillOutcome) (assertions : List DrillAssertion)
    (now : DateTime) : Except DrillServiceError RestoreDrill :=
  if drill.state ≠ .running then
    .error (.validation ("invalid drill transition: cannot finish drill in state " ++ drill.state.name))
  else .ok {drill with
    state := match outcome with
      | .passed => .passed
      | .failed => .failed
    assertions := assertions
    completedAt := some now}

inductive DrillStep where
  | findRun
  | sandbox
  | stat (index : Nat)
  | read (index : Nat)
  | insert
  | list
  | delete (id : Uuid)

structure DrillEnv where
  drillId : Uuid
  startedAt : DateTime
  completedAt : DateTime
  root : String
  json : Bytes → Option String
  fault : DrillStep → Option String

structure DrillWorld where
  backups : World
  drills : List RestoreDrill

abbrev DrillService := Prog DrillWorld DrillServiceError

section Calls

variable (env : DrillEnv)

def verifyRun (backupRunId : Uuid) : DrillService BackupRun :=
  reads (fun w => match env.fault .findRun with
    | some message => .error (.internal message)
    | none => match w.backups.runs.find? (fun run => run.id == backupRunId) with
      | none => .error .runNotFound
      | some run =>
        if run.state ≠ .completed then
          .error (.validation ("backup run " ++ backupRunId.hyphenated ++ " is not completed"))
        else .ok run)

def artifactFile (w : World) (runId : Uuid) (artifact : BackupArtifact) : Option StoredFile :=
  w.stored.find? (fun f => f.runId == runId && f.path == artifact.path)

def display (runId : Uuid) (artifact : BackupArtifact) : String :=
  env.root ++ "/runs/" ++ runId.hyphenated ++ "/" ++ artifact.path

def assertFile (kind : DrillAssertionKind) (what verb noun : String) (w : World) (runId : Uuid) (index : Nat)
    (artifact : BackupArtifact) (check : Bytes → Except String String) : DrillAssertion :=
  match env.fault (.stat index),artifactFile w runId artifact with
  | none,some file => match env.fault (.read index) with
    | some message => ⟨kind,false,"failed to " ++ verb ++ " " ++ noun ++ ": " ++ message⟩
    | none => match check file.bytes with
      | .error detail => ⟨kind,false,detail⟩
      | .ok detail => ⟨kind,true,detail⟩
  | _,_ => ⟨kind,false,what ++ " file missing: " ++ display env runId artifact⟩

def assertSiteArchive (w : World) (runId : Uuid) (index : Nat) (artifact : BackupArtifact) (siteId : Uuid) :
    DrillAssertion :=
  assertFile env .site "archive" "read" "archive" w runId index artifact (fun contents =>
    if contents.length < 7 then .error "archive too small to contain OPFS header"
    else if contents.take 6 ≠ magic then .error "invalid OPFS magic header"
    else .ok ("site:" ++ siteId.hyphenated ++ " archive valid (" ++ toString contents.length ++ " bytes)"))

def assertDatabaseDump (w : World) (runId : Uuid) (index : Nat) (artifact : BackupArtifact) (dbId : Uuid) :
    DrillAssertion :=
  assertFile env .database "dump" "stat" "dump" w runId index artifact (fun contents =>
    if contents.length = 0 then .error "dump file is empty"
    else .ok ("db:" ++ dbId.hyphenated ++ " dump present (" ++ toString contents.length ++ " bytes)"))

def assertPanelMetadata (w : World) (runId : Uuid) (index : Nat) (artifact : BackupArtifact) : DrillAssertion :=
  assertFile env .panelMetadata "metadata" "read" "metadata" w runId index artifact (fun contents =>
    match env.json contents with
    | some detail => .error ("invalid manifest JSON: " ++ detail)
    | none => .ok "panel metadata manifest valid")

def assertArtifact (w : World) (runId : Uuid) (entry : BackupArtifact × Nat) : DrillAssertion :=
  match entry.1.resource with
  | .site siteId => assertSiteArchive env w runId entry.2 entry.1 siteId
  | .database dbId => assertDatabaseDump env w runId entry.2 entry.1 dbId
  | .panelMetadata => assertPanelMetadata env w runId entry.2 entry.1

def evaluateAssertions (w : World) (run : BackupRun) : List DrillAssertion :=
  run.artifacts.zipIdx.map (assertArtifact env w run.id)

def drillStatement (step : DrillStep) (change : DrillWorld → Except DrillServiceError DrillWorld) :
    DrillService Unit :=
  attempt (fun w => match env.fault step with
    | some message => .error (.internal message)
    | none => (change w).map (fun next => ((),next)))

def persistDrill (drill : RestoreDrill) : DrillService Unit :=
  drillStatement env .insert (fun w =>
    if w.drills.any (fun d => d.id == drill.id) then .error (.internal (DbError.unique "backup_drills.id").message)
    else .ok {w with drills := w.drills ++ [drill]})

def deleteDrills : List Uuid → DrillService Unit
  | [] => pure ()
  | id::rest => do
    drillStatement env (.delete id) (fun w => .ok {w with drills := Rows.delete RestoreDrill.id id w.drills})
    deleteDrills rest

def defaultDrillRetention : Nat := 20

def pruneOldDrills : DrillService Unit := do
  let ids ← reads (fun w => match env.fault .list with
    | some message => .error (.internal message)
    | none => .ok ((w.drills.insertionSort (fun a b => b.startedAt ≤ a.startedAt)).map RestoreDrill.id))
  deleteDrills env (ids.drop defaultDrillRetention)

def runDrill (backupRunId : Uuid) : DrillService RestoreDrill := do
  let run ← verifyRun env backupRunId
  let drill := RestoreDrill.start env.drillId backupRunId env.startedAt
  reads (fun _ => match env.fault .sandbox with
    | some message => .error (.validation ("invalid drill value: " ++ message))
    | none => .ok ())
  let assertions ← reads (fun w => .ok (evaluateAssertions env w.backups run))
  let outcome := if assertions.all DrillAssertion.passed then .passed else .failed
  let drill ← reads (fun _ => drill.finish outcome assertions env.completedAt)
  persistDrill env drill
  pruneOldDrills env
  return drill

end Calls

theorem hexEncodeLower (bytes) : toLowercase (hexEncode bytes) = hexEncode bytes := by
  have digit : ∀ n < 16, (hexDigit n).toLower = hexDigit n := by decide
  unfold toLowercase hexEncode
  rw [String.toList_ofList]
  congr 1
  conv_rhs => rw [← List.map_id (bytes.flatMap _)]
  refine List.map_congr_left (fun c mem => ?_)
  obtain ⟨b,_,mem⟩ := List.mem_flatMap.mp mem
  have small := b.toNat_lt
  rcases List.mem_cons.mp mem with rfl | mem
  · exact digit _ (by omega)
  · rw [List.mem_singleton.mp mem]
    exact digit _ (by omega)

def recorded (sha256 : Bytes → Bytes) (content : Bytes) : String := hexEncode (sha256 content)

theorem newVerifies (made : BackupArtifact.new sha256 resource path bytes = .ok artifact) :
    artifact.verify (recorded sha256) bytes = true ∧ artifact.resource = resource := by
  obtain ⟨_,_,made⟩ := bindOk made
  cases made
  simp [BackupArtifact.verify,recorded]

theorem fromDigestVerifies
    (made : BackupArtifact.fromDigest resource path bytes.length (hexEncode (sha256 bytes)) = .ok artifact) :
    artifact.verify (recorded sha256) bytes = true ∧ artifact.resource = resource := by
  obtain ⟨_,_,made⟩ := bindOk made
  split at made <;> cases made
  simp [BackupArtifact.verify,recorded,hexEncodeLower]

def Source.Sane : Source → Prop
  | .site _ tree documentRoot => Regular tree documentRoot ∧ ∀ f ∈ walk tree documentRoot, Framed f
  | _ => True

def Source.Portable : Source → Prop
  | .site _ tree documentRoot => ∀ f ∈ walk tree documentRoot, Backups.Portable f
  | _ => True

def BackupArtifact.isSite (artifact : BackupArtifact) : Bool :=
  match artifact.resource with
  | .site _ => true
  | _ => false

section Captures

variable {sha256 : Bytes → Bytes} {source : Source} {artifact : BackupArtifact} {bytes : Bytes}

theorem capturedVerifies (made : source.capture sha256 = .ok (artifact,bytes)) : artifact.verify (recorded sha256) bytes = true := by
  cases source with
  | panelMetadata =>
    obtain ⟨_,described,same⟩ := bindOk made
    cases same
    exact (newVerifies described).1
  | site id tree documentRoot =>
    obtain ⟨archive,_,made⟩ := bindOk made
    obtain ⟨_,made,same⟩ := bindOk made
    cases same
    exact (fromDigestVerifies made).1
  | database id dump =>
    obtain ⟨_,made,same⟩ := bindOk made
    cases same
    exact (newVerifies made).1

theorem capturedExtracts (made : source.capture sha256 = .ok (artifact,bytes)) (sane : source.Sane) (vacant : Vacant disk staging) :
    (artifact.isSite = true → ∃ next, exec (extractSiteArchive faultless staging bytes) disk = (.ok (),next)) ↔ source.Portable := by
  cases source with
  | panelMetadata =>
    obtain ⟨_,described,same⟩ := bindOk made
    cases same
    simp [BackupArtifact.isSite,(newVerifies described).2,Source.Portable]
  | site id tree documentRoot =>
    obtain ⟨archive,streamed,made⟩ := bindOk made
    obtain ⟨_,described,same⟩ := bindOk made
    cases same
    have site : artifact.isSite = true := by simp [BackupArtifact.isSite,(fromDigestVerifies described).2]
    obtain ⟨named,written⟩ := streamOk streamed
    constructor
    · intro extracts
      obtain ⟨next,ran⟩ := extracts site
      by_contra other
      simp only [Source.Portable,not_forall] at other
      obtain ⟨f,mem,bad⟩ := other
      rw [written] at ran
      exact (extractRefused named sane.2 ⟨f,mem,bad⟩).reached ran
    · intro portable _
      rw [streamPortable streamed portable]
      obtain ⟨_,next,ran,_⟩ := (extractLaid vacant named portable (walkApart sane.1)).succeeds
      exact ⟨next,ran⟩
  | database id dump =>
    obtain ⟨_,made,same⟩ := bindOk made
    cases same
    simp [BackupArtifact.isSite,(newVerifies made).2,Source.Portable]

end Captures

section Verification

variable {env : Env}

def Stored (sha256 : Bytes → String) (w : World) (runId : Uuid) (artifact : BackupArtifact) : Prop :=
  ∃ file, artifactFile w runId artifact = some file ∧ artifact.verify sha256 file.bytes = true

theorem verifyArtifactsOk (calm : ∀ step, env.fault step = none) (stored : ∀ a ∈ artifacts, Stored sha256 w run.id a) :
    Ends (verifyArtifacts env sha256 turn run index artifacts) w (fun _ next => next = w) (fun _ _ => False) := by
  induction artifacts generalizing index with
  | nil => exact .returns rfl
  | cons artifact rest ih =>
    obtain ⟨file,found,good⟩ := stored artifact List.mem_cons_self
    unfold artifactFile at found
    refine .andThen (queryOk (calm _) (by rw [found]) ?_)
    exact .branch (fun _ => ih (fun a mem => stored a (List.mem_cons_of_mem _ mem))) (fun bad => absurd good bad)

theorem verifyOk (calm : ∀ step, env.fault step = none)
    (unique : Rows.Unique BackupRun.id w.runs) (mem : run ∈ w.runs) (seen : visible owner all run = true)
    (done : run.state = .completed) (stored : ∀ a ∈ run.artifacts, Stored sha256 w run.id a) :
    Ends (verify env sha256 turn owner all run.id) w (fun r next => r = run ∧ next = w) (fun _ _ => False) := by
  refine getRunFinds unique mem seen (fun message fault => by rw [calm] at fault; cases fault) ?_
  refine .branch (fun other => absurd done other) (fun _ => ?_)
  refine .andThen (.gives (verifyArtifactsOk calm stored) ?_)
  rintro _ _ rfl
  exact .returns ⟨rfl,rfl⟩

end Verification

section Drills

variable {env : DrillEnv} {w : DrillWorld}

-- What the drill asks of a file.
def Plausible (json : Bytes → Option String) (artifact : BackupArtifact) (bytes : Bytes) : Prop :=
  match artifact.resource with
  | .site _ => 7 ≤ bytes.length ∧ bytes.take 6 = magic
  | .database _ => bytes.length ≠ 0
  | .panelMetadata => json bytes = none

theorem assertedFile (sound : Bytes → Prop) (checks : ∀ bytes, (∃ detail, check bytes = .ok detail) ↔ sound bytes) :
    (assertFile env kind what verb noun world runId index artifact check).passed = true ↔ env.fault (.stat index) = none ∧
      env.fault (.read index) = none ∧ ∃ file, artifactFile world runId artifact = some file ∧ sound file.bytes := by
  simp only [← checks]
  unfold assertFile
  cases env.fault (.stat index) with
  | some message => simp
  | none =>
    cases artifactFile world runId artifact with
    | none => simp
    | some file =>
      cases env.fault (.read index) with
      | some message => simp
      | none =>
        cases checked : check file.bytes <;> simp [checked]

theorem assertedArtifact : (assertArtifact env world runId entry).passed = true ↔
    env.fault (.stat entry.2) = none ∧ env.fault (.read entry.2) = none ∧
      ∃ file, artifactFile world runId entry.1 = some file ∧ Plausible env.json entry.1 file.bytes := by
  unfold assertArtifact
  split <;> refine assertedFile (Plausible env.json entry.1) (fun bytes => ?_) <;> rename_i kind <;> simp only [Plausible,kind]
  · by_cases short : bytes.length < 7
    · simp [short]
    · by_cases start : bytes.take 6 = magic
      · simp [short,start]
        omega
      · simp [short,start]
  · by_cases empty : bytes.length = 0 <;> simp [empty]
  · cases env.json bytes <;> simp

def AllPlausible (json : Bytes → Option String) (w : World) (run : BackupRun) : Prop :=
  ∀ a ∈ run.artifacts, ∃ file, artifactFile w run.id a = some file ∧ Plausible json a file.bytes

theorem assertionsPassed (passed : (evaluateAssertions env world run).all DrillAssertion.passed = true) : AllPlausible env.json world run := by
  intro a mem
  obtain ⟨index,there⟩ := List.mem_iff_getElem?.mp mem
  have inside : (a,index) ∈ run.artifacts.zipIdx := List.mk_mem_zipIdx_iff_getElem?.mpr there
  exact (assertedArtifact.mp (List.all_eq_true.mp passed _ (List.mem_map_of_mem inside))).2.2

theorem drillEnds : Ends (runDrill env backupRunId) w
    (fun drill _ => ∃ run ∈ w.backups.runs, run.id = backupRunId ∧ run.state = .completed ∧
      (drill.state = .passed → AllPlausible env.json w.backups run)) (fun _ _ => True) := by
  refine .asks ?_ (fun _ _ => trivial)
  intro run found
  split at found <;> try contradiction
  split at found <;> try contradiction
  rename_i _ _ hit
  split at found <;> cases found
  rename_i done
  refine .asks (fun _ _ => ?_) (fun _ _ => trivial)
  refine .andThen (.knows rfl ?_)
  refine .asks ?_ (fun _ _ => trivial)
  intro drill finished
  refine .andThen (.gives (.whatever (fun _ _ => trivial) (fun _ _ => trivial)) ?_)
  intro _ mid _
  refine .andThen (.gives (.whatever (fun _ _ => trivial) (fun _ _ => trivial)) ?_)
  intro _ last _
  refine .returns ⟨run,(Rows.found hit).1,(Rows.found hit).2,not_not.mp done,fun passed => assertionsPassed ?_⟩
  cases finished
  by_contra some
  simp [some] at passed

theorem deletesOk (calm : ∀ step, env.fault step = none) (ids) : Ends (deleteDrills env ids) w (fun _ _ => True) (fun _ _ => False) := by
  induction ids generalizing w with
  | nil => exact .returns trivial
  | cons id rest ih =>
    refine .andThen (.attempts (fun _ _ _ => ih) (fun e failed => ?_))
    simp only [calm] at failed
    cases failed

theorem drillPasses (calm : ∀ step, env.fault step = none) (fresh : ∀ drill ∈ w.drills, drill.id ≠ env.drillId)
    (unique : Rows.Unique BackupRun.id w.backups.runs) (mem : run ∈ w.backups.runs) (done : run.state = .completed)
    (likely : AllPlausible env.json w.backups run) :
    Ends (runDrill env run.id) w (fun drill _ => drill.state = .passed) (fun _ _ => False) := by
  have found : w.backups.runs.find? (fun other => other.id == run.id) = some run :=
    Rows.findOnly mem (by simp) (fun other inside same => Rows.equalOfKey unique inside mem (by simpa using same))
  have all : (evaluateAssertions env w.backups run).all DrillAssertion.passed = true := by
    refine List.all_eq_true.mpr (fun _ asserted => ?_)
    obtain ⟨entry,inside,rfl⟩ := List.mem_map.mp asserted
    exact assertedArtifact.mpr ⟨calm _,calm _,likely entry.1 (List.fst_mem_of_mem_zipIdx inside)⟩
  refine .andThen (.knows (by simp only [calm,found]; rw [if_neg (not_not.mpr done)]) ?_)
  refine .andThen (.knows (by simp only [calm]; rfl) (.andThen (.knows rfl (.andThen (.knows (by rw [if_pos all]; rfl) ?_)))))
  refine .andThen (.attempts (fun _ mid ran => ?_) (fun e failed => ?_))
  · refine .andThen (.andThen (.knows (by simp only [calm]; rfl) ?_))
    exact (deletesOk calm _).gives (fun _ _ _ => .returns rfl)
  · simp only [calm] at failed
    rw [if_neg (by simpa [RestoreDrill.start] using fresh)] at failed
    cases failed

/-- The guarantee of a passed drill: every file is as recorded, every site archive extracts, and the run verifies. -/
def Restorable (sha256 : Bytes → Bytes) (w : World) (backupRunId : Uuid) : Prop :=
  ∃ run ∈ w.runs, run.id = backupRunId ∧
    (∀ a ∈ run.artifacts, ∃ file, artifactFile w run.id a = some file ∧
      a.size = file.bytes.length ∧ a.sha256 = hexEncode (sha256 file.bytes) ∧
      (a.isSite = true → ∀ disk staging, Vacant disk staging →
        ∃ extracted, exec (extractSiteArchive faultless staging file.bytes) disk = (.ok (),extracted))) ∧
    ∀ (calm : Env) turn, (∀ step, calm.fault step = none) →
      exec (verify calm (recorded sha256) turn run.ownerId false backupRunId) w = (.ok run,w)

/-- What the artifacts of the run were made from, and that no file now stored collides with what was written then. -/
structure Made (sha256 : Bytes → Bytes) (w : World) (run : BackupRun) (taken : BackupArtifact → Source × Bytes) : Prop where
  captured : ∀ a ∈ run.artifacts, (taken a).1.capture sha256 = .ok (a,(taken a).2) ∧ (taken a).1.Sane
  apart : ∀ a ∈ run.artifacts, ∀ file, artifactFile w run.id a = some file → file.bytes.length = (taken a).2.length →
    recorded sha256 file.bytes = recorded sha256 (taken a).2 → file.bytes = (taken a).2

theorem passedDrillRestorable (sha256 : Bytes → Bytes) (json : Bytes → Option String) (w : DrillWorld) (backupRunId : Uuid)
    (taken : BackupArtifact → Source × Bytes) (unique : Rows.Unique BackupRun.id w.backups.runs)
    (made : ∀ run ∈ w.backups.runs, run.id = backupRunId → Made sha256 w.backups run taken)
    (left : ∃ id, ∀ drill ∈ w.drills, drill.id ≠ id) :
    (∀ env drill next, env.json = json → exec (runDrill env backupRunId) w = (.ok drill,next) → drill.state = .passed →
      Restorable sha256 w.backups backupRunId) ↔
    ∀ run ∈ w.backups.runs, run.id = backupRunId → run.state = .completed → AllPlausible json w.backups run →
      ∀ a ∈ run.artifacts, ∀ file, artifactFile w.backups run.id a = some file → file.bytes = (taken a).2 ∧ (taken a).1.Portable := by
  constructor
  · rintro guarantee run mem rfl done likely a inside file found
    obtain ⟨id,fresh⟩ := left
    obtain ⟨drill,next,ran,passed⟩ := (@drillPasses ⟨id,0,0,"",json,fun _ => none⟩ w run (fun _ => rfl) fresh unique mem done likely).succeeds
    obtain ⟨other,there,same,files,_⟩ := guarantee _ drill next rfl ran passed
    cases Rows.equalOfKey unique there mem same
    obtain ⟨held,hit,size,digest,extracts⟩ := files a inside
    cases Option.some.inj (hit.symm.trans found)
    obtain ⟨captured,sane⟩ := (made run mem rfl).captured a inside
    have good := capturedVerifies captured
    simp only [BackupArtifact.verify,Bool.and_eq_true,beq_iff_eq] at good
    have equal := (made run mem rfl).apart a inside file found (size.symm.trans good.1) (digest.symm.trans good.2)
    have vacant : Vacant bare [main] := ⟨fun _ _ => rfl,nofun⟩
    refine ⟨equal,(capturedExtracts captured sane vacant).mp (fun site => ?_)⟩
    exact equal ▸ extracts site bare [main] vacant
  · rintro intact env drill next rfl ran passed
    obtain ⟨run,mem,rfl,done,seen⟩ := drillEnds.reached ran
    have likely := seen passed
    have intact := intact run mem rfl done likely
    refine ⟨run,mem,rfl,fun a inside => ?_,fun calm turn none => ?_⟩
    · obtain ⟨file,found,_⟩ := likely a inside
      obtain ⟨captured,sane⟩ := (made run mem rfl).captured a inside
      obtain ⟨same,portable⟩ := intact a inside file found
      rw [← same] at captured
      have good := capturedVerifies captured
      simp only [BackupArtifact.verify,Bool.and_eq_true,beq_iff_eq] at good
      exact ⟨file,found,good.1,good.2,fun site disk staging vacant => (capturedExtracts captured sane vacant).mpr portable site⟩
    · refine (verifyOk none unique mem (by simp [visible]) done (fun a inside => ?_)).yields
      obtain ⟨file,found,_⟩ := likely a inside
      refine ⟨file,found,?_⟩
      rw [(intact a inside file found).1]
      exact capturedVerifies ((made run mem rfl).captured a inside).1

end Drills

def onePage : Bytes := packed [([main],[1])]

def onePageSite : Source := .site 21 ((bare.set [www] .dir).set [www,main] (.file [1])) [www]

def summed (bytes : Bytes) : Bytes := List.replicate 31 0 ++ [UInt8.ofNat bytes.length]

def siteArtifact : BackupArtifact :=
  ⟨.site 21,"site-00000000-0000-0000-0000-000000000015.opfs",onePage.length,hexEncode (summed onePage)⟩

def drilled (bytes : Bytes) : DrillWorld :=
  ⟨⟨[⟨5,1,9,.completed,[siteArtifact],true,false,0,none,none,none⟩],[⟨5,siteArtifact.path,bytes⟩]⟩,[]⟩

theorem onePageWalk : walk ((bare.set [www] .dir).set [www,main] (.file [1])) [www] = [([main],[1])] := by decide +kernel

theorem onePageMade : ∀ run ∈ (drilled onePage).backups.runs, run.id = 5 →
    Made summed (drilled onePage).backups run (fun _ => (onePageSite,onePage)) := by
  intro run mem _
  rw [List.mem_singleton.mp mem]
  refine ⟨fun a inside => ?_,fun a inside file found _ _ => ?_⟩
  · rw [List.mem_singleton.mp inside]
    refine ⟨by decide +kernel,by decide +kernel,?_⟩
    rw [onePageWalk]
    simp [Framed,pathText,main]
  · rw [List.mem_singleton.mp inside] at found
    cases found
    rfl

def drilling : DrillEnv := ⟨8,0,1,"/var/lib/openpanel/backups",fun _ => none,fun _ => none⟩

theorem passedDrillRestorableSite : Restorable summed (drilled onePage).backups 5 := by
  have passes : (exec (runDrill drilling 5) (drilled onePage)).1.toOption.map RestoreDrill.state = some .passed := by decide +kernel
  rcases ran : exec (runDrill drilling 5) (drilled onePage) with ⟨_ | drill,next⟩ <;> rw [ran] at passes
  · cases passes
  refine (passedDrillRestorable summed _ (drilled onePage) 5 _ (by decide) onePageMade ⟨0,nofun⟩).mpr ?_ drilling drill next rfl ran
    (Option.some.inj passes)
  intro run mem _ _ _ a inside file found
  rw [List.mem_singleton.mp mem] at inside found
  rw [List.mem_singleton.mp inside] at found
  cases found
  refine ⟨rfl,?_⟩
  simp only [onePageSite,Source.Portable,onePageWalk]
  decide

theorem drillPassesCorrupt :
    (exec (runDrill drilling 5) (drilled (magic ++ [0,0,0,0]))).1.toOption.map RestoreDrill.state = some .passed ∧
    siteArtifact.size ≠ (magic ++ [0,0,0,0]).length ∧
    siteArtifact.sha256 ≠ hexEncode (summed (magic ++ [0,0,0,0])) ∧
    (exec (extractSiteArchive faultless [main] (magic ++ [0,0,0,0])) bare).1 = .error .corrupt := by
  refine ⟨?_,?_,?_,?_⟩ <;> decide +kernel

end OpenPanel.Backups
