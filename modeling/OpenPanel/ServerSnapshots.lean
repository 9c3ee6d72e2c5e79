import OpenPanel.Fallible
import OpenPanel.Users

/-! Server snapshots: the manifest of a bundle, how a stored one is read back, and the preflight of
a restore. A bundle's manifest is held as the value that was written. Making a bundle,
restoring it and the audit are left out. -/
namespace OpenPanel.Snapshots
open Fallible
open Identity (User)

def supportedManifestSchema : Nat := 1

inductive SnapshotError where
  | schemaTooNew (schema : Nat)
  | invalid (detail : String)
  | confirmationRequired
  | tokenMismatch
  | hashMismatch (path : String)
  deriving DecidableEq

def SnapshotError.message : SnapshotError → String
  | .schemaTooNew schema =>
    "manifest schema " ++ toString schema ++ " is newer than supported " ++ toString supportedManifestSchema
  | .invalid detail => "invalid snapshot manifest: " ++ detail
  | .confirmationRequired => "confirmation required before restore"
  | .tokenMismatch => "confirmation token mismatch"
  | .hashMismatch path => "hash mismatch for entry `" ++ path ++ "`"

inductive SnapshotEntryKind where | panelMetadata | site | database | sslKeys
  deriving DecidableEq

structure SnapshotEntry where
  kind : SnapshotEntryKind
  reference : Option String
  path : String
  sha256 : String
  deriving DecidableEq

def containsDots : List Char → Bool
  | a::b::rest => a == '.' && b == '.' || containsDots (b::rest)
  | _ => false

def SnapshotEntry.validate (entry : SnapshotEntry) : Except SnapshotError Unit :=
  let path := entry.path.toList
  if path.isEmpty ∨ entry.path.utf8ByteSize > 512 ∨ containsDots path ∨ path.head? = some '/' ∨ '\\' ∈ path then
    .error (.invalid ("entry path `" ++ entry.path ++ "` escapes the bundle"))
  else if entry.sha256.utf8ByteSize ≠ 64 ∨ entry.sha256.toList.all isAsciiHexdigit = false then
    .error (.invalid ("entry `" ++ entry.path ++ "` has a malformed sha256"))
  else .ok ()

structure SnapshotManifest where
  manifestSchema : Nat
  createdAt : DateTime
  sourceHostId : Uuid
  panelVersion : String
  entries : List SnapshotEntry
  deriving DecidableEq

namespace SnapshotManifest

def validateSchema (schema : Nat) : Except SnapshotError Unit :=
  if schema > supportedManifestSchema then .error (.schemaTooNew schema) else .ok ()

def validateEntries : List String → List SnapshotEntry → Except SnapshotError Unit
  | _,[] => .ok ()
  | seen,entry::rest => do
    entry.validate
    if entry.path ∈ seen then .error (.invalid ("duplicate entry path `" ++ entry.path ++ "`"))
    else validateEntries (entry.path::seen) rest

def new (createdAt : DateTime) (sourceHostId : Uuid) (panelVersion : String) (entries : List SnapshotEntry) :
    Except SnapshotError SnapshotManifest := do
  validateSchema supportedManifestSchema
  if panelVersion.isEmpty ∨ panelVersion.utf8ByteSize > 64 then .error (.invalid "panel_version must be 1–64 chars")
  else if entries.isEmpty then .error (.invalid "a full snapshot needs at least one entry")
  else if entries.length > 4096 then .error (.invalid "too many entries")
  else do
    validateEntries [] entries
    return ⟨supportedManifestSchema,createdAt,sourceHostId,panelVersion,entries⟩

def validated (manifest : SnapshotManifest) : Except SnapshotError SnapshotManifest :=
  new manifest.createdAt manifest.sourceHostId manifest.panelVersion manifest.entries

end SnapshotManifest

structure PreflightReport where
  ready : Bool
  warnings : List String
  blockers : List String
  collisions : List String

def PreflightReport.of (manifest : SnapshotManifest) (localHostId : Uuid) (localPanelVersion : String)
    (existingNames : List String) : PreflightReport :=
  match SnapshotManifest.validateSchema manifest.manifestSchema with
  | .error e => ⟨false,[],[e.message],[]⟩
  | .ok () =>
    let host := if manifest.sourceHostId = localHostId then ["snapshot was produced by this same host"] else []
    let skew := if manifest.panelVersion ≠ localPanelVersion then
      ["panel version skew: snapshot " ++ manifest.panelVersion ++ " vs local " ++ localPanelVersion] else []
    let collided := if existingNames.isEmpty then [] else
      [toString existingNames.length ++ " name collision(s) require overwrite confirmation"]
    ⟨true,host ++ skew ++ collided,[],existingNames⟩

structure ConfirmToken where
  value : String
  used : Bool

inductive ServerSnapshotError where
  | forbidden
  | notFound (what : String)
  | validation (detail : String)
  | confirmation (reason : SnapshotError)
  | failure (detail : String)
  deriving DecidableEq

def ServerSnapshotError.ofSnapshotError : SnapshotError → ServerSnapshotError
  | .confirmationRequired => .confirmation .confirmationRequired
  | .tokenMismatch => .confirmation .tokenMismatch
  | other => .validation other.message

structure Bundle where
  id : Uuid
  manifest : Option SnapshotManifest

structure SnapshotWorld where
  siteNames : List String
  bundles : List Bundle
  tokens : List (Uuid × ConfirmToken)

def SnapshotWorld.bundle (w : SnapshotWorld) (id : Uuid) : Option Bundle := w.bundles.find? (fun b => b.id == id)

inductive SnapshotStep where
  | readManifest
  | siteNames

structure SnapshotEnv where
  -- What `ConfirmToken::mint` draws.
  token : String
  hostId : Uuid
  panelVersion : String
  fault : SnapshotStep → Option String

abbrev SnapshotService := Prog SnapshotWorld ServerSnapshotError

def requireOwner (caller : User) : Except ServerSnapshotError Unit :=
  if caller.role ≠ .owner then .error .forbidden else .ok ()

section Calls

variable (env : SnapshotEnv)

def get (snapshotId : Uuid) : SnapshotService SnapshotManifest :=
  reads (fun w => match env.fault .readManifest,(w.bundle snapshotId).bind Bundle.manifest with
    | none,some manifest => manifest.validated.mapError .ofSnapshotError
    | _,_ => .error (.notFound snapshotId.hyphenated))

def list : SnapshotService (List (Uuid × SnapshotManifest)) :=
  reads (fun w => do
    let read (found : Uuid × SnapshotManifest) : Except ServerSnapshotError (Uuid × SnapshotManifest) :=
      match env.fault .readManifest with
      | some message => .error (.failure message)
      | none => (found.2.validated.mapError .ofSnapshotError).map (fun manifest => (found.1,manifest))
    let out ← (w.bundles.filterMap (fun b => b.manifest.map (fun m => (b.id,m)))).mapM read
    .ok (out.insertionSort (fun a b => b.2.createdAt ≤ a.2.createdAt)))

-- A query that fails counts as no names.
def existingSiteNames (w : SnapshotWorld) : List String :=
  match env.fault .siteNames with
  | some _ => []
  | none => w.siteNames

def preflight (caller : User) (snapshotId : Uuid) : SnapshotService (String × PreflightReport) := do
  reads (fun _ => requireOwner caller)
  let manifest ← get env snapshotId
  let report ← reads (fun w => .ok (PreflightReport.of manifest env.hostId env.panelVersion (existingSiteNames env w)))
  if report.ready = false then throw (.validation ("; ".intercalate report.blockers))
  else do
    attempt (fun w => .ok ((),{w with tokens := (snapshotId,⟨env.token,false⟩)::w.tokens.filter (fun t => t.1 ≠ snapshotId)}))
    return (env.token,report)

end Calls

def SnapshotEntry.WellFormed (entry : SnapshotEntry) : Prop :=
  (entry.path.toList ≠ [] ∧ entry.path.utf8ByteSize ≤ 512 ∧ containsDots entry.path.toList = false ∧
    entry.path.toList.head? ≠ some '/' ∧ '\\' ∉ entry.path.toList) ∧
  entry.sha256.utf8ByteSize = 64 ∧ entry.sha256.toList.all isAsciiHexdigit = true

structure SnapshotManifest.WellFormed (manifest : SnapshotManifest) : Prop where
  version : manifest.panelVersion.isEmpty = false ∧ manifest.panelVersion.utf8ByteSize ≤ 64
  filled : manifest.entries ≠ []
  bounded : manifest.entries.length ≤ 4096
  entries : ∀ entry ∈ manifest.entries, entry.WellFormed
  distinct : (manifest.entries.map SnapshotEntry.path).Nodup

theorem validateIff (entry : SnapshotEntry) : entry.validate = .ok () ↔ entry.WellFormed := by
  unfold SnapshotEntry.validate SnapshotEntry.WellFormed
  simp only
  split
  · rename_i escapes
    refine ⟨nofun,fun formed => ?_⟩
    obtain ⟨filled,short,dots,slash,back⟩ := formed.1
    simp_all
    omega
  · rename_i stays
    split
    · rename_i malformed
      exact ⟨nofun,fun formed => malformed.elim (fun length => (length formed.2.1).elim) (fun other => by simp [formed.2.2] at other)⟩
    · simp_all

theorem entriesIff : SnapshotManifest.validateEntries seen entries = .ok () ↔
    (∀ entry ∈ entries, entry.WellFormed ∧ entry.path ∉ seen) ∧ (entries.map SnapshotEntry.path).Nodup := by
  induction entries generalizing seen with
  | nil => simp [SnapshotManifest.validateEntries]
  | cons entry rest ih =>
    rw [SnapshotManifest.validateEntries,List.forall_mem_cons,List.map_cons,List.nodup_cons]
    cases checked : entry.validate with
    | error e =>
      have bad : ¬ entry.WellFormed := fun formed => by rw [(validateIff entry).mpr formed] at checked; cases checked
      exact ⟨nofun,fun all => absurd all.1.1.1 bad⟩
    | ok =>
      have formed := (validateIff entry).mp checked
      rw [okBind]
      split
      · rename_i twice
        exact ⟨nofun,fun all => absurd twice all.1.1.2⟩
      · rename_i fresh
        rw [ih]
        constructor
        · rintro ⟨others,distinct⟩
          refine ⟨⟨⟨formed,fresh⟩,fun e mem => ⟨(others e mem).1,fun old => ?_⟩⟩,fun mem => ?_,distinct⟩
          · exact (others e mem).2 (List.mem_cons_of_mem _ old)
          · obtain ⟨e,inside,same⟩ := List.mem_map.mp mem
            exact (others e inside).2 (same ▸ List.mem_cons_self)
        · rintro ⟨⟨_,others⟩,once,distinct⟩
          refine ⟨fun e mem => ⟨(others e mem).1,fun seen => ?_⟩,distinct⟩
          rcases List.mem_cons.mp seen with same | old
          · exact once (same ▸ List.mem_map_of_mem mem)
          · exact (others e mem).2 old

theorem validatedIff (manifest r : SnapshotManifest) : manifest.validated = .ok r ↔
    manifest.WellFormed ∧ r = {manifest with manifestSchema := supportedManifestSchema} := by
  unfold SnapshotManifest.validated SnapshotManifest.new
  rw [show SnapshotManifest.validateSchema supportedManifestSchema = .ok () from rfl,okBind]
  split
  · rename_i version
    refine ⟨nofun,fun formed => version.elim (fun none => ?_) (fun long => absurd formed.1.version.2 (by omega))⟩
    simp [formed.1.version.1] at none
  · rename_i version
    split
    · rename_i none
      exact ⟨nofun,fun formed => absurd (List.isEmpty_iff.mp none) formed.1.filled⟩
    · rename_i filled
      split
      · rename_i many
        exact ⟨nofun,fun formed => absurd formed.1.bounded (by omega)⟩
      · rename_i bounded
        rw [not_or,Bool.not_eq_true] at version
        constructor
        · intro made
          obtain ⟨_,valid,made⟩ := bindOk made
          cases made
          obtain ⟨entries,distinct⟩ := entriesIff.mp valid
          exact ⟨⟨⟨version.1,by omega⟩,fun none => filled (List.isEmpty_iff.mpr none),by omega,fun e mem => (entries e mem).1,distinct⟩,rfl⟩
        · rintro ⟨formed,rfl⟩
          rw [entriesIff.mpr ⟨fun e mem => ⟨formed.entries e mem,List.not_mem_nil⟩,formed.distinct⟩]
          rfl

section Refusals

variable {env : SnapshotEnv} {w : SnapshotWorld}

def Refused {α : Type} (prog : SnapshotService α) (w : SnapshotWorld) : Prop := ∃ e, (exec prog w).1 = .error e

def SnapshotWorld.Stored (w : SnapshotWorld) (id : Uuid) (manifest : SnapshotManifest) : Prop :=
  ∃ bundle, w.bundle id = some bundle ∧ bundle.manifest = some manifest

section Schema

variable {manifest : SnapshotManifest} {id : Uuid} {e : SnapshotError}

theorem getRefused (stored : w.Stored id manifest) (invalid : manifest.validated = .error e) : Refused (get env id) w := by
  obtain ⟨bundle,found,written⟩ := stored
  have read : (w.bundle id).bind Bundle.manifest = some manifest := by rw [found,Option.bind_some,written]
  simp only [Refused,get,execReads,read]
  cases env.fault .readManifest <;> simp [invalid,Except.mapError]

theorem preflightRefused (caller) (refused : Refused (get env id) w) : Refused (preflight env caller id) w := by
  obtain ⟨e,failed⟩ := refused
  have stops : exec (get env id) w = (.error e,w) := by rw [← failed]; rfl
  cases owner : requireOwner caller <;> simp [Refused,preflight,execBind,execReads,owner,stops]

theorem mapMStops {f : α → Except ε β} {l : List α} {a : α} {e : ε} (mem : a ∈ l) (fails : f a = .error e) :
    ∃ e, l.mapM f = .error e := by
  induction l with
  | nil => cases mem
  | cons first rest ih =>
    rw [List.mapM_cons]
    cases here : f first with
    | error e => exact ⟨e,rfl⟩
    | ok b =>
      obtain rfl | later := List.mem_cons.mp mem
      · rw [fails] at here
        cases here
      · obtain ⟨e,stopped⟩ := ih later
        exact ⟨e,by rw [stopped]; rfl⟩

theorem listRefused (stored : w.Stored id manifest) (invalid : manifest.validated = .error e) : Refused (list env) w := by
  obtain ⟨bundle,found,written⟩ := stored
  have listed : (bundle.id,manifest) ∈ w.bundles.filterMap (fun b => b.manifest.map (fun m => (b.id,m))) :=
    List.mem_filterMap.mpr ⟨bundle,List.mem_of_find?_eq_some found,by rw [written]; rfl⟩
  cases fault : env.fault .readManifest with
  | some message =>
    obtain ⟨e,stopped⟩ := mapMStops (f := fun _ => (.error (.failure message) : Except ServerSnapshotError (Uuid × SnapshotManifest))) listed rfl
    refine ⟨e,?_⟩
    simp only [list,execReads,fault,stopped]
    rfl
  | none =>
    obtain ⟨e,stopped⟩ := mapMStops (f := fun found : Uuid × SnapshotManifest =>
      (found.2.validated.mapError ServerSnapshotError.ofSnapshotError).map (fun manifest => (found.1,manifest)))
      listed (by simp only [invalid]; rfl)
    refine ⟨e,?_⟩
    simp only [list,execReads,fault,stopped]
    rfl

theorem manifestValidated (manifest : SnapshotManifest) :
    ((∀ r, manifest.validated = .ok r → r = manifest ∧ manifest.manifestSchema ≤ supportedManifestSchema) ∧
      (manifest.manifestSchema > supportedManifestSchema → ∀ env w id, SnapshotWorld.Stored w id manifest →
        Refused (get env id) w ∧ Refused (list env) w ∧ ∀ caller, Refused (preflight env caller id) w)) ↔
    manifest.manifestSchema = supportedManifestSchema ∨ ¬ manifest.WellFormed := by
  constructor
  · rintro ⟨same,_⟩
    refine or_iff_not_imp_right.mpr (fun formed => ?_)
    obtain ⟨equal,_⟩ := same _ ((validatedIff manifest _).mpr ⟨not_not.mp formed,rfl⟩)
    exact (congrArg SnapshotManifest.manifestSchema equal).symm
  · rintro (current | malformed)
    · refine ⟨fun r checked => ⟨?_,Nat.le_of_eq current⟩,fun newer => absurd current (Nat.ne_of_gt newer)⟩
      rw [((validatedIff manifest r).mp checked).2,← current]
    · obtain ⟨e,invalid⟩ : ∃ e, manifest.validated = .error e := by
        cases checked : manifest.validated with
        | error e => exact ⟨e,rfl⟩
        | ok r => exact absurd ((validatedIff manifest r).mp checked).1 malformed
      refine ⟨fun r checked => absurd (invalid.symm.trans checked) (by simp),fun _ env w id stored => ?_⟩
      have refused : Refused (get env id) w := getRefused stored invalid
      exact ⟨refused,listRefused stored invalid,fun caller => preflightRefused caller refused⟩

end Schema

def SnapshotManifest.Names (manifest : SnapshotManifest) (name : String) : Prop :=
  ∃ entry ∈ manifest.entries, entry.reference = some name

def Real (report : PreflightReport) (manifest : SnapshotManifest) (existing : List String) : Prop :=
  ∀ name, name ∈ report.collisions ↔ name ∈ existing ∧ manifest.Names name

theorem ofCollisions (manifest hostId version names) :
    (PreflightReport.of manifest hostId version names).ready = decide (manifest.manifestSchema ≤ supportedManifestSchema) ∧
    (PreflightReport.of manifest hostId version names).collisions =
      if decide (manifest.manifestSchema ≤ supportedManifestSchema) then names else [] := by
  by_cases newer : manifest.manifestSchema > supportedManifestSchema
  · simp [PreflightReport.of,SnapshotManifest.validateSchema,newer,Nat.not_le.mpr newer]
  · simp [PreflightReport.of,SnapshotManifest.validateSchema,newer,Nat.le_of_not_gt newer]

theorem realIff (known) (lists : report.collisions = if known then existing else []) :
    Real report manifest existing ↔ ∀ name ∈ existing, known = true ↔ manifest.Names name := by
  unfold Real
  rw [lists]
  refine forall_congr' (fun name => ?_)
  cases known <;> by_cases present : name ∈ existing <;> simp [present]

theorem preflightReports {caller id token report} (granted : (exec (preflight env caller id) w).1 = .ok (token,report)) :
    ∃ manifest, (exec (get env id) w).1 = .ok manifest ∧ report.collisions = existingSiteNames env w := by
  have ends : Ends (preflight env caller id) w (fun out _ => ∃ manifest, (exec (get env id) w).1 = .ok manifest ∧
      out.2.collisions = existingSiteNames env w) (fun _ _ => True) := by
    refine .asks (fun _ _ => .asks (fun manifest read => .andThen (.knows rfl ?_)) ?_) ?_
    · obtain ⟨ready,lists⟩ := ofCollisions manifest env.hostId env.panelVersion (existingSiteNames env w)
      refine .branch (fun _ => .fails trivial) (fun goes => .andThen (.attempts (fun _ _ stored => ?_) (fun _ _ => trivial)))
      rw [← ready,if_pos (Bool.eq_true_of_not_eq_false goes)] at lists
      exact .returns ⟨manifest,read,lists⟩
    all_goals exact fun _ _ => trivial
  exact ends.reached (Prod.ext granted rfl)

/-- The existing names are reported whatever the manifest holds, and none under a schema that is too new. -/
theorem collisionsReal (manifest hostId version existing env w caller id) :
    (Real (.of manifest hostId version existing) manifest existing ↔
      ∀ name ∈ existing, manifest.manifestSchema ≤ supportedManifestSchema ↔ manifest.Names name) ∧
    ∀ token report, (exec (preflight env caller id) w).1 = .ok (token,report) →
      ∃ manifest, (exec (get env id) w).1 = .ok manifest ∧
        (Real report manifest w.siteNames ↔ ∀ name ∈ w.siteNames, env.fault .siteNames = none ↔ manifest.Names name) := by
  refine ⟨?_,fun token report granted => ?_⟩
  · rw [realIff (decide (manifest.manifestSchema ≤ supportedManifestSchema)) (ofCollisions ..).2]
    simp
  · obtain ⟨manifest,read,lists⟩ := preflightReports granted
    refine ⟨manifest,read,?_⟩
    rw [realIff (env.fault .siteNames).isNone (by rw [lists,existingSiteNames]; cases env.fault .siteNames <;> rfl)]
    simp

end Refusals

def panelOwner : User := ⟨9,⟨"keeper",by decide⟩,⟨"keeper@panel.test",by decide⟩,.owner,none,none,0⟩

def nightly : SnapshotManifest :=
  ⟨1,0,3,"0.1.0",[⟨.site,some "00000000-0000-0000-0000-000000000015","sites/15.opfs",String.ofList (List.replicate 64 'a')⟩]⟩

def snapshotting : SnapshotEnv := ⟨"d41d8cd98f00b204e9800998ecf8427e",3,"0.1.0",fun _ => none⟩

theorem nightlyValid : nightly.validated = .ok nightly := by decide +kernel

def hosting : SnapshotWorld := ⟨["shop.test"],[⟨40,some nightly⟩],[]⟩

theorem unrelatedReported : (exec (get snapshotting 40) hosting).1 = .ok nightly ∧ ¬ nightly.Names "shop.test" ∧
    ∃ report, (exec (preflight snapshotting panelOwner 40) hosting).1 = .ok ("d41d8cd98f00b204e9800998ecf8427e",report) ∧
      report.collisions = ["shop.test"] := by
  have got : exec (get snapshotting 40) hosting = (.ok nightly,hosting) := by
    simp [get,execReads,SnapshotWorld.bundle,hosting,snapshotting,nightlyValid,Except.mapError]
  refine ⟨congrArg Prod.fst got,by unfold SnapshotManifest.Names; decide +kernel,?_⟩
  have owner : requireOwner panelOwner = .ok () := rfl
  simp only [preflight,execBind,execReads,owner,got]
  exact ⟨_,rfl,rfl⟩

def newer : SnapshotManifest := {nightly with manifestSchema := 2}

def newerBundled : SnapshotWorld := ⟨[],[⟨40,some newer⟩],[]⟩

theorem newerSchemaRead : newer.manifestSchema > supportedManifestSchema ∧ newer.validated = .ok nightly ∧
    (exec (get snapshotting 40) newerBundled).1 = .ok nightly ∧ (exec (list snapshotting) newerBundled).1 = .ok [(40,nightly)] ∧
      ∃ granted, (exec (preflight snapshotting panelOwner 40) newerBundled).1 = .ok granted := by
  have read : newer.validated = .ok nightly := nightlyValid
  have got : exec (get snapshotting 40) newerBundled = (.ok nightly,newerBundled) := by
    simp [get,execReads,SnapshotWorld.bundle,newerBundled,snapshotting,read,Except.mapError]
  refine ⟨by decide,read,congrArg Prod.fst got,?_,?_⟩
  · simp only [list,execReads,newerBundled,snapshotting,List.filterMap_cons,Option.map_some,List.filterMap_nil,List.mapM_cons,read]
    rfl
  · have owner : requireOwner panelOwner = .ok () := rfl
    simp only [preflight,execBind,execReads,owner,got]
    exact ⟨_,rfl⟩

end OpenPanel.Snapshots
