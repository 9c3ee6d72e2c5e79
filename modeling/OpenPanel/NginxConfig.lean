import OpenPanel.NginxTemplates

/-! The generator that writes a site's configuration and has nginx test and load
it. Both directories are kept by file name and hold plain files, which are UTF-8 text
or not. What can go wrong is the nginx binary, and a file that is not there or is no text. -/
namespace OpenPanel.Nginx
open Fallible
open Sites (Site SiteError)

inductive Content where
  | utf8 (text : List Char)
  | raw (bytes : List UInt8)
  deriving DecidableEq

structure ConfDirs where
  active : List Char → Option Content
  disabled : List Char → Option Content

def ConfDirs.empty : ConfDirs := ⟨fun _ => none,fun _ => none⟩

inductive Launch (α : Type) where
  | notFound
  | failed (error : String)
  | ran (result : α)
  deriving DecidableEq

/-- How nginx behaves during one call: `nginx -t` and `nginx -s reload` are each started at most once. -/
structure Binary where
  available : Bool
  testing : Launch Bool
  reloading : Launch (Except String Unit)

def Binary.accepting : Binary := ⟨true,.ran true,.ran (.ok ())⟩

abbrev Generator (α : Type) := Prog ConfDirs SiteError α

def put (dir : List Char → Option Content) (name : List Char) (content : Option Content) : List Char → Option Content :=
  fun other => if other = name then content else dir other

theorem putSame (dir) (name) (content) : put dir name content name = content := if_pos rfl

theorem putOther (different : other ≠ name) : put dir name content other = dir other := if_neg different

def noSuch : SiteError := .io "No such file or directory (os error 2)"
def notUtf8 : SiteError := .io "stream did not contain valid UTF-8"

def activeExists (name : List Char) : Generator Bool := reads (fun d => .ok (d.active name).isSome)
def disabledExists (name : List Char) : Generator Bool := reads (fun d => .ok (d.disabled name).isSome)

-- `fs::read_to_string`.
def readActive (name : List Char) : Generator (List Char) := reads (fun d => match d.active name with
  | none => .error noSuch
  | some (.raw _) => .error notUtf8
  | some (.utf8 text) => .ok text)

def writeActive (name text : List Char) : Generator Unit :=
  attempt (fun d => .ok ((),{d with active := put d.active name (some (.utf8 text))}))

def removeActive (name : List Char) : Generator Unit := attempt (fun d => match d.active name with
  | none => .error noSuch
  | some _ => .ok ((),{d with active := put d.active name none}))

def removeDisabled (name : List Char) : Generator Unit := attempt (fun d => match d.disabled name with
  | none => .error noSuch
  | some _ => .ok ((),{d with disabled := put d.disabled name none}))

def renameActive (source target : List Char) : Generator Unit := attempt (fun d => match d.active source with
  | none => .error noSuch
  | some content => .ok ((),{d with active := put (put d.active source none) target (some content)}))

def renameDisabled (source target : List Char) : Generator Unit := attempt (fun d => match d.active source with
  | none => .error noSuch
  | some content => .ok ((),⟨put d.active source none,put d.disabled target (some content)⟩))

def activeName (stem : List Char) : List Char := stem ++ chars ".conf"
def disabledName (stem : List Char) : List Char := stem ++ chars ".conf.disabled"

-- `target.with_extension("conf.new")` of an active name.
def candidateName (stem : List Char) : List Char := stem ++ chars ".conf.new"

def logFormatName : List Char := chars "00-openpanel-log-format.conf"

def managedLogFormat : List Char :=
  chars "log_format openpanel escape=json '$openpanel_site_id\\t$time_iso8601\\t$request_method\\t$uri\\t$status" ++
    chars "\\t$body_bytes_sent\\t$request_time\\t$remote_addr\\t$http_user_agent';\n"

structure PreviewEnvironment where
  prNumber : Nat
  hostname : List Char

def PreviewEnvironment.stem (preview : PreviewEnvironment) : List Char :=
  chars "pr-" ++ Nat.toDigits 10 preview.prNumber ++ '-'::preview.hostname

def launched {α : Type} (launch : Launch α) : Generator α := reads (fun _ => match launch with
  | .notFound => .error .nginxMissing
  | .failed error => .error (.io error)
  | .ran result => .ok result)

def test (nginx : Binary) : Generator Bool := launched nginx.testing

def reload (nginx : Binary) : Generator Unit := do
  let status ← launched nginx.reloading
  match status with
  | .error stderr => throw (.nginxReload stderr)
  | .ok () => pure ()

def testAndReload (nginx : Binary) : Generator Unit := do
  let passed ← test nginx
  if passed then reload nginx else throw (.nginxTest "nginx -t failed")

def ensureDirs : Generator Unit := writeActive logFormatName managedLogFormat

def writeOnly (stem rendered : List Char) : Generator Unit := do
  writeActive (candidateName stem) rendered
  renameActive (candidateName stem) (activeName stem)

def previousText (name : List Char) : Generator (Option (List Char)) := do
  let there ← activeExists name
  if there then do
    let text ← readActive name
    pure (some text)
  else pure none

def restore (name : List Char) (previous : Option (List Char)) : Generator Unit :=
  match previous with
  | some text => writeActive name text
  | none => quietly (removeActive name)

def rewrite (name : List Char) (previous : Option (List Char)) : Generator Unit :=
  match previous with
  | some text => writeActive name text
  | none => pure ()

def testOrRestore (nginx : Binary) (name : List Char) (previous : Option (List Char)) : Generator Unit := do
  let passed ← test nginx
  if passed then pure ()
  else do
    restore name previous
    throw (.nginxTest "nginx -t failed after write")

def writeWithTest (nginx : Binary) (stem rendered : List Char) : Generator Unit := do
  let previous ← previousText (activeName stem)
  writeActive (candidateName stem) rendered
  rewrite (activeName stem) previous
  renameActive (candidateName stem) (activeName stem)
  testOrRestore nginx (activeName stem) previous

-- What `apply_with_tls` and `apply_with_waf` do with what they rendered.
def applyRendered (nginx : Binary) (site : Site) (rendered : List Char) : Generator Unit := do
  ensureDirs
  if nginx.available then do
    writeWithTest nginx site.primaryDomain rendered
    reload nginx
  else writeOnly site.primaryDomain rendered

def applyWithTls (nginx : Binary) (site : Site) (tls : Option (List Char × List Char)) (upstream : Option (List Char)) :
    Generator Unit :=
  applyRendered nginx site (renderFull site tls upstream)

def applyWithWaf (nginx : Binary) (site : Site) (snippet : List Char) : Generator Unit :=
  applyRendered nginx site (renderWithWaf site snippet)

def apply (nginx : Binary) (site : Site) : Generator Unit := applyWithTls nginx site none none

def disable (nginx : Binary) (site : Site) : Generator Unit := do
  ensureDirs
  let there ← activeExists (activeName site.primaryDomain)
  if there then do
    let previous ← readActive (activeName site.primaryDomain)
    removeActive (activeName site.primaryDomain)
    if nginx.available then do
      let passed ← test nginx
      if passed then do
        renameDisabled (activeName site.primaryDomain) (disabledName site.primaryDomain)
        reload nginx
      else do
        writeActive (activeName site.primaryDomain) previous
        throw (.nginxTest "nginx -t failed after disable")
    else do
      writeActive (activeName site.primaryDomain) previous
      renameDisabled (activeName site.primaryDomain) (disabledName site.primaryDomain)
  else if nginx.available then testAndReload nginx else pure ()

def remove (nginx : Binary) (site : Site) : Generator Unit := do
  let there ← activeExists (activeName site.primaryDomain)
  (if there then removeActive (activeName site.primaryDomain) else pure ())
  let kept ← disabledExists (disabledName site.primaryDomain)
  (if kept then removeDisabled (disabledName site.primaryDomain) else pure ())
  if nginx.available then do
    let passed ← test nginx
    if passed then pure () else throw (.nginxTest "nginx -t failed after remove")
  else pure ()

-- Without a binary the file is put back and the call reports success.
def removePreview (nginx : Binary) (preview : PreviewEnvironment) : Generator Unit := do
  ensureDirs
  let there ← activeExists (activeName preview.stem)
  if there then do
    let previous ← readActive (activeName preview.stem)
    removeActive (activeName preview.stem)
    if nginx.available then do
      let passed ← test nginx
      if passed then reload nginx
      else do
        writeActive (activeName preview.stem) previous
        throw (.nginxTest "nginx -t failed after preview removal")
    else writeActive (activeName preview.stem) previous
  else if nginx.available then testAndReload nginx else pure ()

theorem writes (next : post () {d with active := put d.active name (some (.utf8 text))}) :
    Ends (writeActive name text) d post failed :=
  .attempted rfl next

theorem looks (there : ∀ content, d.active name = some content → post true d)
    (absent : d.active name = none → post false d) : Ends (activeExists name) d post failed := by
  cases found : d.active name with
  | none => exact .knows (by simp [found]) (absent found)
  | some content => exact .knows (by simp [found]) (there content found)

theorem ifThere {yes no} (there : ∀ content, d.active name = some content → Ends yes d post failed)
    (absent : d.active name = none → Ends no d post failed) :
    Ends (do let there ← activeExists name; if there then yes else no) d post failed :=
  Ends.andThen (looks (fun content found => .branch (fun _ => there content found) nofun)
    (fun missing => .branch nofun (fun _ => absent missing)))

theorem readsText (there : d.active name = some content)
    (plain : ∀ text, content = .utf8 text → post text d) (bytes : ∀ raw, content = .raw raw → failed notUtf8 d) :
    Ends (readActive name) d post failed := by
  cases content with
  | utf8 text => exact .knows (by simp [there]) (plain text rfl)
  | raw raw =>
    refine .checks (fun a ok => ?_) (fun e error => ?_)
    · simp [there] at ok
    · simp only [there,Except.error.injEq] at error
      exact error ▸ bytes raw rfl

theorem removes (there : d.active name = some content)
    (next : post () {d with active := put d.active name none}) : Ends (removeActive name) d post failed :=
  .attempted (by simp only [there]) next

theorem renames (there : d.active source = some content)
    (next : post () {d with active := put (put d.active source none) target (some content)}) :
    Ends (renameActive source target) d post failed :=
  .attempted (by simp only [there]) next

theorem renamesMissing (absent : d.active source = none) (stopped : failed noSuch d) :
    Ends (renameDisabled source target) d post failed := by
  refine .attempts (fun _ _ ok => ?_) (fun _ error => ?_)
  · simp [absent] at ok
  · simp only [absent,Except.error.injEq] at error
    exact error ▸ stopped

theorem renamesAway (there : d.active source = some content)
    (next : post () ⟨put d.active source none,put d.disabled target (some content)⟩) :
    Ends (renameDisabled source target) d post failed :=
  .attempted (by simp only [there]) next

theorem tests (answered : ∀ passed, nginx.testing = .ran passed → post passed d)
    (unstarted : ∀ e, (∀ passed, nginx.testing ≠ .ran passed) → failed e d) : Ends (test nginx) d post failed := by
  unfold test launched
  cases testing : nginx.testing with
  | ran passed => exact .knows rfl (answered passed testing)
  | _ => exact .checks nofun (fun e _ => unstarted e (by simp [testing]))

theorem reloads (loaded : nginx.reloading = .ran (.ok ()) → post () d)
    (refused : ∀ e, nginx.reloading ≠ .ran (.ok ()) → failed e d) : Ends (reload nginx) d post failed := by
  refine .asks (fun status ran => ?_) (fun e error => refused e ?_)
  · have answer : nginx.reloading = .ran status := by
      split at ran <;> cases ran
      assumption
    cases status with
    | error stderr => exact .fails (refused _ (by simp [answer]))
    | ok done => exact .returns (loaded answer)
  · rintro loaded
    simp [loaded] at error

theorem testsAndReloads (loaded : post () d) (refused : ∀ e, failed e d) : Ends (testAndReload nginx) d post failed :=
  Ends.andThen (tests (fun _ _ => .branch (fun _ => reloads (fun _ => loaded) (fun e _ => refused e))
    (fun _ => .fails (refused _))) (fun e _ => refused e))

def Kept (stem : List Char) (d next : ConfDirs) : Prop :=
  next.active (activeName stem) = d.active (activeName stem) ∧
    next.disabled (disabledName stem) = d.disabled (disabledName stem)

def Unreadable (d : ConfDirs) (name : List Char) : Prop := ∃ bytes, d.active name = some (.raw bytes)

theorem candidateApart (stem) : activeName stem ≠ candidateName stem := by
  intro same
  exact absurd (List.append_cancel_left same) (by decide)

theorem dotApart (dot : '.' ∈ stem) : activeName stem ≠ logFormatName := by
  intro same
  have whole : logFormatName = chars "00-openpanel-log-format" ++ chars ".conf" := by decide
  have front : stem = chars "00-openpanel-log-format" := List.append_cancel_right same
  rw [front] at dot
  exact absurd dot (by decide)

theorem siteApart (site : Site) : activeName site.primaryDomain ≠ logFormatName :=
  dotApart (Sites.patternDot (Sites.domainPattern site.domainValid))

theorem previewApart (preview : PreviewEnvironment) : activeName preview.stem ≠ logFormatName := by
  intro same
  have first := congrArg List.head? same
  simp [activeName,PreviewEnvironment.stem,logFormatName,chars] at first

def Harmless (nginx : Binary) (d : ConfDirs) (stem rendered : List Char) : Prop :=
  Unreadable d (activeName stem) ∨ nginx.testing = .ran false ∨ d.active (activeName stem) = some (.utf8 rendered)

structure Placed (nginx : Binary) (stem rendered : List Char) (d next : ConfDirs) : Prop where
  written : next.active (activeName stem) = some (.utf8 rendered)
  others : next.disabled = d.disabled
  readable : ¬ Unreadable d (activeName stem)
  passed : nginx.testing = .ran true

def Rejected (nginx : Binary) (d : ConfDirs) (stem : List Char) : Prop :=
  Unreadable d (activeName stem) ∨ nginx.testing ≠ .ran true ∨ nginx.reloading ≠ .ran (.ok ())

def Stopped (nginx : Binary) (stem rendered : List Char) (d next : ConfDirs) : Prop :=
  (Kept stem d next ↔ Harmless nginx d stem rendered) ∧ Rejected nginx d stem

theorem testsOrRestores (prior : d.active (activeName stem) = previous.map Content.utf8)
    (there : mid.active (activeName stem) = some (.utf8 rendered)) (others : mid.disabled = d.disabled) :
    Ends (testOrRestore nginx (activeName stem) previous) mid (fun _ => Placed nginx stem rendered d)
      (fun _ => Stopped nginx stem rendered d) := by
  have readable : ¬ Unreadable d (activeName stem) := by
    rintro ⟨bytes,raw⟩
    cases previous <;> simp [prior] at raw
  refine .andThen (tests (fun passed ran => ?_) (fun e unstarted => ⟨?_,.inr (.inl (unstarted true))⟩))
  · cases passed with
    | true => exact .returns ⟨there,others,readable,ran⟩
    | false =>
      have rejected : Rejected nginx d stem := .inr (.inl (by simp [ran]))
      refine .andThen ?_
      cases previous with
      | some text =>
        refine writes (.fails ⟨?_,rejected⟩)
        simp [Kept,Harmless,putSame,prior,others,ran]
      | none =>
        refine .quietly (removes there (.fails ⟨?_,rejected⟩))
        simp [Kept,Harmless,putSame,prior,others,ran]
  · simp [Kept,Harmless,there,others,readable,unstarted,eq_comm]

theorem writesWithTest : Ends (writeWithTest nginx stem rendered) d (fun _ => Placed nginx stem rendered d)
    (fun _ => Stopped nginx stem rendered d) := by
  have apart := candidateApart stem
  refine .andThen (ifThere (fun content there => ?_) (fun absent => ?_))
  · refine .andThen (readsText there (fun text plain => ?_) (fun bytes raw => ?_))
    · subst plain
      have kept : put (put d.active (candidateName stem) (some (.utf8 rendered))) (activeName stem) (some (.utf8 text))
          (candidateName stem) = some (.utf8 rendered) := by
        rw [putOther (Ne.symm apart),putSame]
      refine .returns (.andThen (writes (.andThen (writes (.andThen (renames kept ?_))))))
      exact testsOrRestores there (putSame _ _ _) rfl
    · subst raw
      exact ⟨by simp [Kept,Harmless,Unreadable,there],.inl ⟨bytes,there⟩⟩
  · refine .returns (.andThen (writes (.andThen (.returns (.andThen (renames (putSame _ _ _) ?_))))))
    exact testsOrRestores absent (putSame _ _ _) rfl

theorem ensures (apart : activeName stem ≠ logFormatName)
    (next : ∀ mid : ConfDirs, mid.active (activeName stem) = d.active (activeName stem) → mid.disabled = d.disabled →
      post () mid) : Ends ensureDirs d post failed :=
  writes (next _ (putOther apart) rfl)

theorem stoppedFrom (same : mid.active (activeName stem) = d.active (activeName stem))
    (others : mid.disabled = d.disabled) (stopped : Stopped nginx stem rendered mid next) : Stopped nginx stem rendered d next := by
  unfold Stopped Rejected Kept Harmless Unreadable at stopped ⊢
  rwa [← same,← others]

theorem applies (site) : Ends (applyRendered nginx site rendered) d
    (fun _ next => (next.active (activeName site.primaryDomain) = some (.utf8 rendered) ∧ next.disabled = d.disabled) ∧
      (nginx.available = true → ¬ Rejected nginx d site.primaryDomain))
    (fun _ next => Stopped nginx site.primaryDomain rendered d next ∧ nginx.available = true) := by
  refine .andThen (ensures (siteApart site) (fun mid same others => ?_))
  refine .branch (fun available => ?_) (fun missing => ?_)
  · refine .after writesWithTest (fun _ next placed => ?_) (fun _ next stopped => ⟨stoppedFrom same others stopped,available⟩)
    have kept := placed.others.trans others
    have readable : ¬ Unreadable d (activeName site.primaryDomain) := by
      have readable := placed.readable
      rwa [Unreadable,same] at readable
    refine reloads (fun loaded => ⟨⟨placed.written,kept⟩,fun _ => ?_⟩) (fun _ refused => ⟨⟨?_,.inr (.inr refused)⟩,available⟩)
    · simp [Rejected,readable,placed.passed,loaded]
    · simp [Kept,Harmless,placed.written,kept,readable,placed.passed,eq_comm]
  · exact .andThen (writes (renames (putSame _ _ _) ⟨⟨putSame _ _ _,others⟩,fun there => absurd there missing⟩))

theorem takesDown {message accepted} {untested : List Char → Generator Unit}
    (apart : activeName stem ≠ logFormatName)
    (lost : ∀ mid : ConfDirs, mid.active (activeName stem) = none →
      Ends accepted mid (fun _ _ => True) (fun _ next => next.active (activeName stem) = none))
    (quiet : ∀ text mid, Ends (untested text) mid (fun _ _ => True) (fun _ _ => False)) :
    Ends (do
        ensureDirs
        let there ← activeExists (activeName stem)
        if there then do
          let previous ← readActive (activeName stem)
          removeActive (activeName stem)
          if nginx.available then do
            let passed ← test nginx
            if passed then accepted
            else do
              writeActive (activeName stem) previous
              throw (.nginxTest message)
          else untested previous
        else if nginx.available then testAndReload nginx else pure ()) d (fun _ _ => True)
      (fun _ next => Kept stem d next ↔
        d.active (activeName stem) = none ∨ Unreadable d (activeName stem) ∨ nginx.testing = .ran false) := by
  refine .andThen (ensures apart (fun mid same others => ?_))
  refine ifThere (fun content there => ?_) (fun absent => ?_)
  · refine .andThen (readsText there (fun text plain => ?_) (fun bytes raw => ?_))
    · subst plain
      have readable : ¬ Unreadable d (activeName stem) := by
        rintro ⟨bytes,raw⟩
        cases there.symm.trans (same.trans raw)
      refine .andThen (removes there (.branch (fun _ => ?_) (fun _ => ?_)))
      · refine .andThen (tests (fun passed ran => ?_) (fun e unstarted => ?_))
        · cases passed with
          | true =>
            refine (lost _ (putSame _ _ _)).weaken (fun _ _ _ => trivial) (fun _ next gone => ?_)
            simp [Kept,gone,← same,there,ran,readable]
          | false =>
            refine .andThen (writes (.fails ?_))
            simp [Kept,putSame,← same,there,ran,others]
        · simp [Kept,putSame,← same,there,unstarted,readable]
      · exact (quiet text _).weaken (fun _ _ _ => trivial) (fun _ _ never => never.elim)
    · subst raw
      simp [Kept,Unreadable,← same,there,others]
  · exact .branch (fun _ => testsAndReloads trivial (fun _ => by simp [Kept,← same,absent,others]))
      (fun _ => .returns trivial)

-- The file is gone by the time it is to be moved, so an accepted test ends in a failed move.
theorem disables (site) : Ends (disable nginx site) d (fun _ _ => True) (fun _ next =>
    Kept site.primaryDomain d next ↔ d.active (activeName site.primaryDomain) = none ∨
      Unreadable d (activeName site.primaryDomain) ∨ nginx.testing = .ran false) :=
  takesDown (siteApart site) (fun _ gone => .andThen (renamesMissing gone gone))
    (fun _ _ => .andThen (writes (renamesAway (putSame _ _ _) trivial)))

theorem removesPreview (preview) : Ends (removePreview nginx preview) d (fun _ _ => True)
    (fun _ next => Kept preview.stem d next ↔ d.active (activeName preview.stem) = none ∨
      Unreadable d (activeName preview.stem) ∨ nginx.testing = .ran false) :=
  takesDown (previewApart preview) (fun _ gone => reloads (fun _ => trivial) (fun _ _ => gone)) (fun _ _ => writes trivial)

theorem putAbsent (absent : dir name = none) : put dir name none = dir := by
  funext other
  unfold put
  split
  · rename_i same
    rw [same,absent]
  · rfl

theorem clearsActive {post : Unit → ConfDirs → Prop} (next : Ends rest {d with active := put d.active name none} post failed) :
    Ends (do let there ← activeExists name; (if there then removeActive name else pure ()); rest) d post failed := by
  refine .andThen (looks (fun content found => ?_) (fun absent => ?_))
  · exact .andThen (.branch (fun _ => removes found next) nofun)
  · rwa [putAbsent absent] at next

theorem clearsDisabled {post : Unit → ConfDirs → Prop}
    (next : Ends rest {d with disabled := put d.disabled name none} post failed) :
    Ends (do let there ← disabledExists name; (if there then removeDisabled name else pure ()); rest) d post failed := by
  refine .andThen ?_
  cases found : d.disabled name with
  | none =>
    refine .knows rfl (.andThen (.branch (fun there => ?_) (fun _ => .returns ?_)))
    · simp [found] at there
    · rwa [putAbsent found] at next
  | some content =>
    refine .knows rfl (.andThen (.branch (fun _ => ?_) (fun absent => ?_)))
    · exact .attempted (by simp only [found]; rfl) next
    · simp [found] at absent

def cleared (stem : List Char) (d : ConfDirs) : ConfDirs :=
  ⟨put d.active (activeName stem) none,put d.disabled (disabledName stem) none⟩

theorem removesBoth (site) : Ends (remove nginx site) d (fun _ next => next = cleared site.primaryDomain d)
    (fun _ next => next = cleared site.primaryDomain d ∧ nginx ≠ .accepting) := by
  refine clearsActive (clearsDisabled (.branch (fun _ => ?_) (fun _ => .returns rfl)))
  refine .andThen (tests (fun passed ran => ?_) (fun e unstarted => ⟨rfl,?_⟩))
  · refine .branch (fun _ => .returns rfl) (fun rejected => .fails ⟨rfl,?_⟩)
    rintro rfl
    exact rejected (Launch.ran.inj ran).symm
  · rintro rfl
    exact unstarted true rfl

def Apart (stem : List Char) (d next : ConfDirs) : Prop := ∀ other, other ≠ stem → activeName other ≠ logFormatName →
  next.active (activeName other) = d.active (activeName other) ∧
    next.disabled (disabledName other) = d.disabled (disabledName other)

def Confined {α : Type} (stem : List Char) (prog : Generator α) : Prop :=
  ∀ d, Leaves prog d (Apart stem d)

inductive Own (stem : List Char) : List Char → Prop where
  | active : Own stem (activeName stem)
  | candidate : Own stem (candidateName stem)
  | logFormat : Own stem logFormatName

theorem Apart.refl (d) : Apart stem d d := fun _ _ _ => ⟨rfl,rfl⟩

theorem Apart.trans (first : Apart stem d mid) (second : Apart stem mid next) : Apart stem d next :=
  fun other different named => ⟨(second other different named).1.trans (first other different named).1,
    (second other different named).2.trans (first other different named).2⟩

theorem activeNotCandidate (other stem) : activeName other ≠ candidateName stem := by
  intro same
  have last := congrArg List.getLast? same
  simp [activeName,candidateName,chars,List.getLast?_append] at last

theorem Own.different (own : Own stem name) (different : other ≠ stem)
    (named : activeName other ≠ logFormatName) : activeName other ≠ name := by
  cases own with
  | active => exact fun same => different (List.append_cancel_right same)
  | candidate => exact activeNotCandidate other stem
  | logFormat => exact named

theorem Own.apart (own : Own stem name) (content) : Apart stem d {d with active := put d.active name content} :=
  fun _ different named => ⟨putOther (own.different different named),rfl⟩

theorem confinedReads (check : ConfDirs → Except SiteError α) : Confined stem (reads check) :=
  fun d => .checks (fun _ _ => .refl d) (fun _ _ => .refl d)

theorem confinedFails : Confined stem (throw e : Generator α) := fun d => .fails (.refl d)

theorem confinedReturns : Confined stem (pure a) := fun d => .returns (.refl d)

theorem confinedIf [Decidable c] (first : Confined stem yes) (second : Confined stem no) :
    Confined stem (if c then yes else no) := fun d => .branch (fun _ => first d) (fun _ => second d)

theorem Confined.next (first : Confined stem prog) (second : ∀ a, Confined stem (rest a)) : Confined stem (prog >>= rest) := by
  intro d
  refine .after (first d) (fun a mid apart => ?_) (fun _ _ apart => apart)
  exact (second a mid).weaken (fun _ _ => apart.trans) (fun _ _ => apart.trans)

theorem confinedWrite (own : Own stem name) : Confined stem (writeActive name text) :=
  fun _ => writes (own.apart _)

theorem confinedRemove (own : Own stem name) : Confined stem (removeActive name) := by
  intro d
  refine .attempts (fun _ next ok => ?_) (fun _ _ => .refl d)
  split at ok <;> cases ok
  exact own.apart _

theorem confinedRename (first : Own stem source) (second : Own stem target) : Confined stem (renameActive source target) := by
  intro d
  refine .attempts (fun _ next ok => ?_) (fun _ _ => .refl d)
  split at ok <;> cases ok
  exact (first.apart none).trans (second.apart _)

theorem disabledApart (content) : Apart stem d ⟨put d.active (activeName stem) none,put d.disabled (disabledName stem) content⟩ :=
  fun _ different named => ⟨putOther (Own.active.different different named),
    putOther (fun same => different (List.append_cancel_right same))⟩

theorem confinedDisable : Confined stem (renameDisabled (activeName stem) (disabledName stem)) := by
  intro d
  refine .attempts (fun _ next ok => ?_) (fun _ _ => .refl d)
  split at ok <;> cases ok
  exact disabledApart _

theorem confinedTest : Confined stem (test nginx) := confinedReads _

theorem confinedReload : Confined stem (reload nginx) :=
  (confinedReads _).next (fun status => by cases status <;> first | exact confinedFails | exact confinedReturns)

theorem confinedTestAndReload : Confined stem (testAndReload nginx) :=
  confinedTest.next (fun _ => confinedIf confinedReload confinedFails)

theorem confinedTestOrRestore (previous) : Confined stem (testOrRestore nginx (activeName stem) previous) := by
  refine confinedTest.next (fun _ => confinedIf confinedReturns ?_)
  refine Confined.next ?_ (fun _ => confinedFails)
  cases previous with
  | some text => exact confinedWrite .active
  | none => exact fun d => .quietly (confinedRemove .active d)

theorem confinedWriteWithTest (rendered) : Confined stem (writeWithTest nginx stem rendered) := by
  refine Confined.next ?_ (fun previous => (confinedWrite .candidate).next (fun _ => Confined.next ?_ (fun _ =>
    (confinedRename .candidate .active).next (fun _ => confinedTestOrRestore previous))))
  · exact (confinedReads _).next (fun _ => confinedIf ((confinedReads _).next (fun _ => confinedReturns)) confinedReturns)
  · cases previous with
    | some text => exact confinedWrite .active
    | none => exact confinedReturns

theorem appliesConfined (site) (rendered) : Confined site.primaryDomain (applyRendered nginx site rendered) :=
  (confinedWrite .logFormat).next (fun _ => confinedIf
    ((confinedWriteWithTest rendered).next (fun _ => confinedReload))
    ((confinedWrite .candidate).next (fun _ => confinedRename .candidate .active)))

theorem disablesConfined (site) : Confined site.primaryDomain (disable nginx site) := by
  refine (confinedWrite .logFormat).next (fun _ => (confinedReads _).next (fun _ => confinedIf ?_ ?_))
  · refine (confinedReads _).next (fun previous => (confinedRemove .active).next (fun _ => confinedIf ?_ ?_))
    · exact confinedTest.next (fun _ => confinedIf (confinedDisable.next (fun _ => confinedReload))
        ((confinedWrite .active).next (fun _ => confinedFails)))
    · exact (confinedWrite .active).next (fun _ => confinedDisable)
  · exact confinedIf confinedTestAndReload confinedReturns

theorem disablesAccepted {d} (site) : Ends (disable .accepting site) d
    (fun _ next => d.active (activeName site.primaryDomain) = none ∧ next.active (activeName site.primaryDomain) = none ∧
      next.disabled = d.disabled) (fun _ _ => d.active (activeName site.primaryDomain) ≠ none) := by
  refine .andThen (ensures (siteApart site) (fun mid same others => ?_))
  refine ifThere (fun content there => ?_) (fun absent => ?_)
  · have here : d.active (activeName site.primaryDomain) ≠ none := by
      rw [← same,there]
      exact Option.some_ne_none content
    refine .andThen (readsText there (fun text plain => ?_) (fun bytes raw => here))
    refine .andThen (removes there (.branch (fun _ => ?_) nofun))
    refine .andThen (tests (fun passed ran => ?_) (fun e unstarted => here))
    exact .branch (fun _ => .andThen (renamesMissing (putSame _ _ _) here))
      (fun _ => .andThen (writes (.fails here)))
  · have gone := same.symm.trans absent
    refine .andThen (tests (fun passed ran => ?_) (fun e unstarted => absurd rfl (unstarted true)))
    cases Launch.ran.inj ran
    exact .branch (fun _ => reloads (fun _ => ⟨gone,absent,others⟩) (fun _ refused => absurd rfl refused)) nofun

inductive Change where
  | applyWithTls (site : Site) (tls : Option (List Char × List Char)) (upstream : Option (List Char))
  | applyWithWaf (site : Site) (snippet : List Char)
  | disable (site : Site)
  | remove (site : Site)
  | removePreview (preview : PreviewEnvironment)

namespace Change

def stem : Change → List Char
  | .applyWithTls site .. | .applyWithWaf site _ | .disable site | .remove site => site.primaryDomain
  | .removePreview preview => preview.stem

def run (nginx : Binary) : Change → Generator Unit
  | .applyWithTls site tls upstream => Nginx.applyWithTls nginx site tls upstream
  | .applyWithWaf site snippet => Nginx.applyWithWaf nginx site snippet
  | .disable site => Nginx.disable nginx site
  | .remove site => Nginx.remove nginx site
  | .removePreview preview => Nginx.removePreview nginx preview

def Restored (nginx : Binary) (d : ConfDirs) : Change → Prop
  | .applyWithTls site tls upstream => Harmless nginx d site.primaryDomain (renderFull site tls upstream)
  | .applyWithWaf site snippet => Harmless nginx d site.primaryDomain (renderWithWaf site snippet)
  | .disable site => d.active (activeName site.primaryDomain) = none ∨
      Unreadable d (activeName site.primaryDomain) ∨ nginx.testing = .ran false
  | .remove site => d.active (activeName site.primaryDomain) = none ∧ d.disabled (disabledName site.primaryDomain) = none
  | .removePreview preview => d.active (activeName preview.stem) = none ∨
      Unreadable d (activeName preview.stem) ∨ nginx.testing = .ran false

end Change

theorem failureLeavesNoTrace {change : Change} {nginx : Binary} {d next : ConfDirs} {e : SiteError}
    (failed : exec (change.run nginx) d = (.error e,next)) : Kept change.stem d next ↔ change.Restored nginx d := by
  cases change with
  | applyWithTls site tls upstream => exact ((applies site).stopped failed).1.1
  | applyWithWaf site snippet => exact ((applies site).stopped failed).1.1
  | disable site => exact (disables site).stopped failed
  | removePreview preview => exact (removesPreview preview).stopped failed
  | remove site =>
    obtain ⟨rfl,_⟩ := (removesBoth site).stopped failed
    simp [Kept,Change.stem,Change.Restored,cleared,putSame,eq_comm]

theorem exampleDomain : Sites.validateDomain (chars "example.com") = .ok () := by decide +kernel

theorem exampleRoot : Sites.validateDocumentRoot (chars "/var/www/example.com/public_html") = .ok () := by decide +kernel

def exampleSite : Site :=
  ⟨0x5a,0x0a,chars "example.com",[],chars "/var/www/example.com/public_html",false,none,.active,exampleDomain,
    Sites.noAliases _,exampleRoot⟩

def served : ConfDirs :=
  {ConfDirs.empty with active := put (fun _ => none) (activeName exampleSite.primaryDomain) (some (.utf8 (chars "# old")))}

theorem rejectedTakenBack : ∃ next,
    exec (Change.run ⟨true,.ran false,.notFound⟩ (.applyWithTls exampleSite none none)) served =
      (.error (.nginxTest "nginx -t failed after write"),next) ∧ Kept exampleSite.primaryDomain served next := by
  have failed : exec (Change.run ⟨true,.ran false,.notFound⟩ (.applyWithTls exampleSite none none)) served =
      (.error (.nginxTest "nginx -t failed after write"),_) := rfl
  exact ⟨_,failed,(failureLeavesNoTrace failed).mpr (.inr (.inl rfl))⟩

-- The candidate passed its test, was not loaded, and stays for the next reload.
theorem unloadedStays : ∃ next,
    exec (Change.run ⟨true,.ran true,.ran (.error "bind() failed")⟩ (.applyWithTls exampleSite none none)) served =
      (.error (.nginxReload "bind() failed"),next) ∧
      next.active (activeName exampleSite.primaryDomain) = some (.utf8 (render exampleSite)) ∧
      ¬ Kept exampleSite.primaryDomain served next := by
  have left : (exec (Change.run ⟨true,.ran true,.ran (.error "bind() failed")⟩ (.applyWithTls exampleSite none none))
      served).2.active (activeName exampleSite.primaryDomain) = some (.utf8 (render exampleSite)) := rfl
  refine ⟨_,rfl,left,?_⟩
  rintro ⟨same,_⟩
  exact absurd (left.symm.trans same) (by decide +kernel)

end OpenPanel.Nginx
