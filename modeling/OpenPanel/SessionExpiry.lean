import OpenPanel.IdentityStore

/-! Resolving a session token, and when a session that is used goes on being
accepted. Only login moves `last_seen_at`; resolving a session reads it. -/
namespace OpenPanel.Accounts
open Fallible

section Service

variable (verifies : String → String → Bool) (env : Env)

def resolveSession (token : String) : Prog Tables IdentityError (User × Session) := do
  let found ← query env .findByToken (fun t => t.findByTokenHashMatch verifies token)
  let session ← reads (fun _ => match found with | some session => .ok session | none => .error .invalidToken)
  if session.isExpired env.now then do
    quietly (write env .deleteSession (fun t => .ok (t.deleteSession session.id)))
    throw .sessionExpired
  else do
    let user ← findUser env session.userId
    if user.isDisabled then do
      quietly (write env .deleteSession (fun t => .ok (t.deleteSession session.id)))
      throw .accountDisabled
    else return (user,session)

def resolutions (token : String) : Tables → List Env → List Bool
  | _,[] => []
  | t,env::envs =>
    let (result,next) := exec (resolveSession verifies env token) t
    result.isOk::resolutions token next envs

end Service

def followsActivity (created : Int) : Int → List Int → List Bool
  | _,[] => []
  | last,now::rest =>
    if now ≤ created + sessionAbsolute ∧ now - last ≤ sessionInactivity then true::followsActivity created now rest
    else false::followsActivity created last rest

def lasts (created login now : Int) : Bool :=
  decide (now ≤ created + sessionAbsolute) && decide (now - login ≤ sessionInactivity)

theorem neverAccepted (late : ∀ now ∈ times, created + sessionAbsolute < now ∨ last + sessionInactivity < now) :
    followsActivity created last times = times.map (fun _ => false) := by
  induction times with
  | nil => rfl
  | cons now rest ih =>
    have refused : ¬ (now ≤ created + sessionAbsolute ∧ now - last ≤ sessionInactivity) := by
      have := late now List.mem_cons_self
      omega
    rw [followsActivity,if_neg refused,ih (fun t mem => late t (List.mem_cons_of_mem _ mem)),List.map_cons]

theorem neverAcceptedIff : followsActivity created last times = times.map (fun _ => false) ↔
      ∀ now ∈ times, now ≤ created + sessionAbsolute → last + sessionInactivity < now := by
  refine ⟨fun same => ?_,fun late => neverAccepted (fun now mem => ?_)⟩
  · induction times with
    | nil => simp
    | cons now rest ih =>
      simp only [followsActivity,List.map_cons] at same
      split at same
      · cases (List.cons.inj same).1
      · intro t mem early
        rcases List.mem_cons.mp mem with rfl | later
        · omega
        · exact ih (List.cons.inj same).2 t later early
  · have := late now mem
    omega

def NoneCarried (created login last : Int) (times : List Int) : Prop :=
  ∀ now ∈ times, login + sessionInactivity < now → now ≤ created + sessionAbsolute →
    ∀ earlier ∈ last::times, earlier ≤ login + sessionInactivity → earlier + sessionInactivity < now

theorem carriedEarly (next : last ≤ now) (early : now ≤ login + sessionInactivity) :
    NoneCarried created login now rest ↔ NoneCarried created login last (now::rest) := by
  constructor
  · intro none t mem after inside earlier before close
    rcases List.mem_cons.mp mem with rfl | mem
    · omega
    · have step := none t mem after inside
      rcases List.mem_cons.mp before with rfl | before
      · have := step now List.mem_cons_self early
        omega
      · exact step earlier before close
  · intro none t mem after inside earlier before close
    exact none t (List.mem_cons_of_mem _ mem) after inside earlier (List.mem_cons_of_mem _ before) close

theorem bothRefuse (refused : ∀ t ∈ times, created + sessionAbsolute < t ∨ last + sessionInactivity < t)
    (late : ∀ t ∈ times, lasts created login t = false) : times.map (lasts created login) = followsActivity created last times := by
  rw [neverAccepted refused,List.map_congr_left late]

theorem activityIff (started : login ≤ last)
    (within : last ≤ login + sessionInactivity) (ordered : (last::times).Pairwise (· ≤ ·)) :
    times.map (lasts created login) = followsActivity created last times ↔ NoneCarried created login last times := by
  induction times generalizing last with
  | nil => simp [followsActivity,NoneCarried]
  | cons now rest ih =>
    obtain ⟨above,later⟩ := List.pairwise_cons.mp ordered
    have next := above now List.mem_cons_self
    have rising := (List.pairwise_cons.mp later).1
    have inOrder : ∀ t ∈ now::rest, now ≤ t := fun t mem => by
      rcases List.mem_cons.mp mem with rfl | mem
      · exact le_rfl
      · exact rising t mem
    by_cases lifetime : now ≤ created + sessionAbsolute
    · by_cases early : now ≤ login + sessionInactivity
      · have accepted : now ≤ created + sessionAbsolute ∧ now - last ≤ sessionInactivity := ⟨lifetime,by omega⟩
        have still : lasts created login now = true := by simp [lasts,lifetime]; omega
        rw [followsActivity,if_pos accepted,List.map_cons,still,List.cons.injEq,eq_self,true_and,
          ih (by omega) early later]
        exact carriedEarly next early
      · by_cases carried : now - last ≤ sessionInactivity
        · have refused : lasts created login now = false := by simp [lasts]; omega
          refine iff_of_false (fun same => ?_) (fun none => ?_)
          · rw [followsActivity,if_pos ⟨lifetime,carried⟩,List.map_cons,refused] at same
            cases (List.cons.inj same).1
          · have := none now List.mem_cons_self (by omega) lifetime last List.mem_cons_self within
            omega
        · refine iff_of_true (bothRefuse (fun t mem => .inr ?_) (fun t mem => ?_)) ?_
          · have := inOrder t mem
            omega
          · have := inOrder t mem
            simp [lasts]
            omega
          · intro t mem after inside earlier before close
            rcases List.mem_cons.mp before with rfl | before
            · have := inOrder t mem
              omega
            · have := inOrder earlier before
              omega
    · refine iff_of_true (bothRefuse (fun t mem => .inl ?_) (fun t mem => ?_)) ?_
      · have := inOrder t mem
        omega
      · have := inOrder t mem
        simp [lasts]
        omega
      · intro t mem after inside
        have := inOrder t mem
        omega

section Tokens

variable {verifies : String → String → Bool} {token : String} {session : Session} {t : Tables} {env : Env}

structure Bound (verifies : String → String → Bool) (token : String) (session : Session) (t : Tables) : Prop where
  stored : session ∈ t.sessions
  accepted : verifies session.tokenHash token = true
  only : ∀ other ∈ t.sessions, verifies other.tokenHash token = true → other = session
  opened : session.absoluteExpiresAt = session.createdAt + sessionAbsolute
  user : ∃ user, t.findById session.userId = some user ∧ user.isDisabled = false

structure Answers (env : Env) : Prop where
  token : env.fault .findByToken = none
  user : env.fault .findById = none

theorem memRestored : row ∈ t.sessions.filterMap Session.restore ↔ row ∈ t.sessions ∧ row.Readable := by
  simp only [List.mem_filterMap,Session.restoreIff]
  constructor
  · rintro ⟨old,mem,same⟩
    split at same <;> cases same
    exact ⟨mem,by assumption⟩
  · rintro ⟨mem,readable⟩
    exact ⟨row,mem,if_pos readable⟩

theorem boundFound (bound : Bound verifies token session t) :
    t.findByTokenHashMatch verifies token = if session.Readable then some session else none := by
  split
  case isTrue readable =>
    exact Rows.findOnly (memRestored.mpr ⟨bound.stored,readable⟩) bound.accepted
      (fun other mem hit => bound.only other (memRestored.mp mem).1 hit)
  case isFalse unreadable =>
    refine List.find?_eq_none.mpr (fun other mem hit => unreadable ?_)
    obtain ⟨stored,readable⟩ := memRestored.mp mem
    exact bound.only other stored hit ▸ readable

theorem expiredIff (bound : Bound verifies token session t) (now) :
    session.isExpired now = !lasts session.createdAt session.lastSeenAt now := by
  simp only [Session.isExpired,lasts,bound.opened,Bool.not_and,← decide_not,Int.not_le]

theorem resolves (bound : Bound verifies token session t) (answers : Answers env) : Ends (resolveSession verifies env token) t
      (fun _ next => next = t ∧ session.Readable ∧ lasts session.createdAt session.lastSeenAt env.now = true)
      (fun _ next => ¬ (session.Readable ∧ lasts session.createdAt session.lastSeenAt env.now = true) ∧
        (next = t ∨ next = t.deleteSession session.id ∧ lasts session.createdAt session.lastSeenAt env.now = false)) := by
  refine .andThen (queries (fun _ => ?_) (fun message fault => ?_))
  · rw [boundFound bound]
    by_cases readable : session.Readable
    · rw [if_pos readable]
      refine .andThen (.knows rfl (.branch (fun expired => ?_) (fun fresh => ?_)))
      · have late : lasts session.createdAt session.lastSeenAt env.now = false := by
          simpa [expiredIff bound] using expired
        refine .andThen (.quietly (writes (fun _ _ done => .fails ?_) (fun _ _ => .fails ?_)))
        · cases done
          exact ⟨fun both => by simp [late] at both,.inr ⟨rfl,late⟩⟩
        · exact ⟨fun both => by simp [late] at both,.inl rfl⟩
      · have alive : lasts session.createdAt session.lastSeenAt env.now = true := by
          simpa [expiredIff bound] using fresh
        obtain ⟨user,found,enabled⟩ := bound.user
        refine .after findsUser ?_ ?_
        · rintro other t ⟨rfl,_,same⟩
          cases found.symm.trans same
          exact .branch (fun disabled => by simp [enabled] at disabled) (fun _ => .returns ⟨rfl,readable,alive⟩)
        · rintro _ t ⟨rfl,missing⟩
          rw [missing answers.user] at found
          cases found
    · rw [if_neg readable]
      exact .asks (fun _ absurd => by cases absurd) (fun _ _ => ⟨fun both => readable both.1,.inl rfl⟩)
  · rw [answers.token] at fault
    cases fault

theorem resolutionsCons (ran : exec (resolveSession verifies env token) t = (result,next)) (envs) :
    resolutions verifies token t (env::envs) = result.isOk::resolutions verifies token next envs := by
  simp only [resolutions,ran]

def Gone (verifies : String → String → Bool) (token : String) (t : Tables) : Prop :=
  ∀ row ∈ t.sessions, verifies row.tokenHash token = false

theorem deletedGone (bound : Bound verifies token session t) : Gone verifies token (t.deleteSession session.id) := by
  intro row mem
  obtain ⟨stored,other⟩ := Rows.memDelete.mp mem
  by_contra hit
  rw [bound.only row stored (by simpa using hit)] at other
  exact other rfl

theorem goneRefused (gone : Gone verifies token t) (envs) : resolutions verifies token t envs = envs.map (fun _ => false) := by
  induction envs with
  | nil => rfl
  | cons env envs ih =>
    have absent : t.findByTokenHashMatch verifies token = none :=
      List.find?_eq_none.mpr (fun row mem => by simp [gone row (memRestored.mp mem).1])
    have refused : Ends (resolveSession verifies env token) t (fun _ _ => False) (fun _ next => next = t) := by
      refine .andThen (queries (fun _ => ?_) (fun _ _ => rfl))
      rw [absent]
      exact .asks (fun _ absurd => by cases absurd) (fun _ _ => rfl)
    cases ran : exec (resolveSession verifies env token) t with
    | mk result next =>
      cases result with
      | ok => exact (refused.reached ran).elim
      | error e =>
        cases refused.stopped ran
        rw [resolutionsCons ran,ih,List.map_cons]
        rfl

theorem lastsAntitone (le : now ≤ later) (late : lasts created login now = false) : lasts created login later = false := by
  simp only [lasts,Bool.and_eq_false_iff,decide_eq_false_iff_not] at late ⊢
  omega

theorem resolutionsEq (bound : Bound verifies token session t) (answers : ∀ env ∈ envs, Answers env)
    (ordered : (envs.map Env.now).Pairwise (· ≤ ·)) : resolutions verifies token t envs =
      envs.map (fun env => decide session.Readable && lasts session.createdAt session.lastSeenAt env.now) := by
  induction envs with
  | nil => rfl
  | cons env envs ih =>
    obtain ⟨above,later⟩ := List.pairwise_cons.mp ordered
    have tail := ih (fun e mem => answers e (List.mem_cons_of_mem _ mem)) later
    have step := resolves bound (answers env List.mem_cons_self)
    cases ran : exec (resolveSession verifies env token) t with
    | mk result next =>
      rw [resolutionsCons ran,List.map_cons]
      cases result with
      | ok both =>
        obtain ⟨rfl,readable,alive⟩ := step.reached ran
        simp [tail,readable,alive,Except.isOk,Except.toBool]
      | error e =>
        obtain ⟨refused,rfl | ⟨rfl,late⟩⟩ := step.stopped ran
        · have answer : (decide session.Readable && lasts session.createdAt session.lastSeenAt env.now) = false := by
            simpa using refused
          simp [tail,answer,Except.isOk,Except.toBool]
        · have after : ∀ e ∈ envs, lasts session.createdAt session.lastSeenAt e.now = false := fun e mem =>
            lastsAntitone (above e.now (List.mem_map_of_mem mem)) late
          rw [goneRefused (deletedGone bound),late,Bool.and_false]
          refine congrArg (false::·) ?_
          exact List.map_congr_left (fun e mem => by rw [after e mem,Bool.and_false])

theorem expiryFollowsActivity (bound : Bound verifies token session t) {envs : List Env}
    (answers : ∀ env ∈ envs, Answers env) (ordered : (session.lastSeenAt::envs.map Env.now).Pairwise (· ≤ ·)) :
    resolutions verifies token t envs = followsActivity session.createdAt session.lastSeenAt (envs.map Env.now) ↔
      if session.Readable then NoneCarried session.createdAt session.lastSeenAt session.lastSeenAt (envs.map Env.now)
      else ∀ now ∈ envs.map Env.now, now ≤ session.createdAt + sessionAbsolute →
        session.lastSeenAt + sessionInactivity < now := by
  rw [resolutionsEq bound answers (List.pairwise_cons.mp ordered).2]
  split
  case isTrue readable =>
    rw [← activityIff le_rfl (Int.le_add_of_nonneg_right (by decide)) ordered,List.map_map]
    simp [readable,Function.comp_def]
  case isFalse unreadable =>
    rw [← neverAcceptedIff,List.map_map,eq_comm]
    simp [unreadable,Function.comp_def]

end Tokens

def hour (n : Int) : Int := seconds (1700000000 + n * 3600)

def member : User :=
  ⟨⟨0x21,⟨"panel-member",by decide⟩,⟨"panel-member@panel.test",by decide⟩,.user,none,none,hour 0⟩,
    "$argon2id$v=19$member",none,none⟩

def opened : Session := Session.new 0x31 0x21 .user "hash-of-token" none none (hour 0)

def signedIn : Tables := ⟨[member],[opened],by decide⟩

def sameText (hash token : String) : Bool := hash == token

def clock (n : Int) : Env := ⟨hour n,0x41,"unused",fun _ => none⟩

theorem openedBound : Bound sameText "hash-of-token" opened signedIn where
  stored := by decide
  accepted := by decide
  only := by decide
  opened := by decide
  user := ⟨member,by decide,by decide⟩

theorem withinADay : opened.Readable ∧
    (resolutions sameText "hash-of-token" signedIn [clock 1,clock 23,clock 48] =
        followsActivity opened.createdAt opened.lastSeenAt ([clock 1,clock 23,clock 48].map Env.now) ↔
      if opened.Readable then
        NoneCarried opened.createdAt opened.lastSeenAt opened.lastSeenAt ([clock 1,clock 23,clock 48].map Env.now)
      else ∀ now ∈ [clock 1,clock 23,clock 48].map Env.now, now ≤ opened.createdAt + sessionAbsolute →
        opened.lastSeenAt + sessionInactivity < now) :=
  ⟨by decide +kernel,expiryFollowsActivity openedBound (by simp [clock,Answers.mk]) (by decide)⟩

theorem activeRefused : Bound sameText "hash-of-token" opened signedIn ∧
    resolutions sameText "hash-of-token" signedIn [clock 20,clock 40] ≠
      followsActivity opened.createdAt opened.lastSeenAt ([clock 20,clock 40].map Env.now) :=
  ⟨openedBound,by decide +kernel⟩

end OpenPanel.Accounts
