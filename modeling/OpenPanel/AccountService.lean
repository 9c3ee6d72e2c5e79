import OpenPanel.GuardedRun
import OpenPanel.IdentityStore

/-! The calls of the identity service that create, promote, disable, enable and
delete accounts, and what they do to the Owners who can still log in. -/
namespace OpenPanel.Accounts
open Fallible GuardedRun
open Identity (Role Username Email)

section Service

variable (env : Env)

def createUserWithParents (username email plaintext : String) (role : Role) (parent plan : Option Uuid) :
    Prog Tables IdentityError User := do
  reads (fun _ => (Identity.Password.hash plaintext).mapError (fun _ => .passwordTooShort))
  let username ← reads (fun _ => (Username.new username).mapError (fun _ => .forbidden))
  let email ← reads (fun _ => (Email.new email).mapError (fun _ => .forbidden))
  -- `.ok().flatten()`: a lookup that fails found nothing
  reads (fun t =>
    if env.fault .findByUsername = none ∧ (t.findByUsername username.text).isSome then .error .usernameTaken else .ok ())
  reads (fun t =>
    if env.fault .findByEmail = none ∧ (t.findByEmail email.text).isSome then .error .emailTaken else .ok ())
  let user ← reads (fun _ => User.newWithParents env.freshId username email env.freshHash role parent plan env.now)
  write env .insertUser (fun t => t.insertUser user)
  return user

def createUser (username email plaintext : String) (role : Role) : Prog Tables IdentityError User :=
  createUserWithParents env username email plaintext role none none

def changeRole (targetId : Uuid) (newRole : Role) : Prog Tables IdentityError Unit := do
  let user ← findUser env targetId
  let user ← reads (fun _ => (user.changeRole newRole).mapError (fun _ => .lastOwner))
  write env .updateRole (fun t => .ok (t.updateRole user.key user.role))

def disableUser (targetId : Uuid) : Prog Tables IdentityError Unit := do
  let user ← findUser env targetId
  write env .disable (fun t => .ok (t.disable user.key env.now))
  write env .deleteForUser (fun t => .ok (t.deleteForUser user.key))

def enableUser (targetId : Uuid) : Prog Tables IdentityError Unit := do
  let user ← findUser env targetId
  write env .enable (fun t => .ok (t.enable user.key))

def deleteUser (targetId : Uuid) : Prog Tables IdentityError Unit := do
  let count ← query env .count (fun t => t.users.length)
  reads (fun _ => if count ≤ 1 then .error .lastOwner else .ok ())
  let user ← findUser env targetId
  reads (fun _ => if user.role = .owner then .error .lastOwner else .ok ())
  write env .deleteForUser (fun t => .ok (t.deleteForUser user.key))
  write env .deleteUser (fun t => .ok (t.deleteUser user.key))

end Service

inductive Request where
  | createUser (username email plaintext : String) (role : Role)
  | changeRole (targetId : Uuid) (newRole : Role)
  | disableUser (targetId : Uuid)
  | enableUser (targetId : Uuid)
  | deleteUser (targetId : Uuid)

structure Call where
  env : Env
  request : Request

def Call.prog (call : Call) : Prog Tables IdentityError Unit :=
  match call.request with
  | .createUser username email plaintext role => do
    let _ ← createUser call.env username email plaintext role
    return ()
  | .changeRole targetId newRole => changeRole call.env targetId newRole
  | .disableUser targetId => disableUser call.env targetId
  | .enableUser targetId => enableUser call.env targetId
  | .deleteUser targetId => deleteUser call.env targetId

def serve (t : Tables) (call : Call) : Tables := (exec call.prog t).2

def visited : Tables → List Call → List Tables
  | _,[] => []
  | t,call::calls => serve t call::visited (serve t call) calls

section Owners

def User.EnabledOwner (user : User) : Prop := user.role = .owner ∧ user.disabledAt = none

instance (user : User) : Decidable user.EnabledOwner := inferInstanceAs (Decidable (_ ∧ _))

def HasOwner (t : Tables) : Prop := ∃ user ∈ t.users, user.EnabledOwner

instance (t : Tables) : Decidable (HasOwner t) := inferInstanceAs (Decidable (∃ user ∈ t.users, user.EnabledOwner))

variable {env : Env} {t : Tables} {id : Uuid}

theorem insertKeepsOwner (owner : HasOwner t) (ok : t.insertUser user = .ok next) : HasOwner next := by
  obtain ⟨o,mem,holds⟩ := owner
  unfold Tables.insertUser at ok
  split at ok <;> try contradiction
  split at ok <;> try contradiction
  split at ok <;> try contradiction
  cases ok
  exact ⟨o,List.mem_append_left _ mem,holds⟩

theorem updateKeepsOwner {same} (owner : HasOwner t)
    (kept : ∀ u ∈ t.users, u.key = id → u.EnabledOwner → (change u).EnabledOwner) : HasOwner (t.updateUser id change same) := by
  obtain ⟨o,mem,holds⟩ := owner
  by_cases hit : o.key = id
  · exact ⟨change o,Rows.updateHit mem hit,kept o mem hit holds⟩
  · exact ⟨o,Rows.updateOther mem hit,holds⟩

theorem disableOwnerIff : HasOwner (t.disable id now) ↔ ∃ user ∈ t.users, user.EnabledOwner ∧ user.key ≠ id := by
  constructor
  · rintro ⟨user,mem,holds⟩
    rcases Rows.memUpdate mem with ⟨old,other⟩ | ⟨before,_,_,rfl⟩
    · exact ⟨user,old,holds,other⟩
    · exact absurd holds.2 (by simp)
  · rintro ⟨user,mem,holds,other⟩
    exact ⟨user,Rows.updateOther mem other,holds⟩

theorem deleteKeepsOwner (owner : HasOwner t) (mem : user ∈ t.users) (plain : user.role ≠ .owner) :
    HasOwner (t.deleteUser user.key) := by
  obtain ⟨o,inside,holds⟩ := owner
  refine ⟨o,Rows.memDelete.mpr ⟨inside,fun same => plain ?_⟩,holds⟩
  rw [← Rows.equalOfKey t.ids inside mem same]
  exact holds.1

theorem createKeepsOwner (owner : HasOwner t) (username email plaintext) (role) (parent plan) :
    Leaves (createUserWithParents env username email plaintext role parent plan) t HasOwner := by
  refine .asks (fun _ _ => ?_) (fun _ _ => owner)
  refine .asks (fun _ _ => ?_) (fun _ _ => owner)
  refine .asks (fun _ _ => ?_) (fun _ _ => owner)
  refine .asks (fun _ _ => ?_) (fun _ _ => owner)
  refine .asks (fun _ _ => ?_) (fun _ _ => owner)
  refine .asks (fun _ _ => ?_) (fun _ _ => owner)
  exact .andThen (writes (fun _ _ ok => .returns (insertKeepsOwner owner ok)) (fun _ _ => owner))

theorem changeRoleKeepsOwner (owner : HasOwner t) (newRole) : Leaves (changeRole env id newRole) t HasOwner := by
  refine .after findsUser ?_ (fun _ _ failed => failed.1 ▸ owner)
  rintro user t ⟨rfl,_,found⟩
  obtain ⟨mem,_⟩ := foundUser found
  refine .asks (fun changed ok => ?_) (fun _ _ => owner)
  have admitted := mapErrorOk ok
  unfold User.changeRole at admitted
  split at admitted <;> try contradiction
  rename_i allowed
  cases admitted
  refine writes (fun _ _ done => ?_) (fun _ _ => owner)
  cases done
  refine updateKeepsOwner owner (fun o inside same holds => ⟨?_,holds.2⟩)
  have here : o = user := Rows.equalOfKey t.ids inside mem same
  subst here
  by_contra demoted
  exact allowed ⟨holds.1,demoted⟩

theorem enableKeepsOwner (owner : HasOwner t) : Leaves (enableUser env id) t HasOwner := by
  refine .after findsUser ?_ (fun _ _ failed => failed.1 ▸ owner)
  rintro user t ⟨rfl,_,_⟩
  refine writes (fun _ _ done => ?_) (fun _ _ => owner)
  cases done
  exact updateKeepsOwner owner (fun o _ _ holds => ⟨holds.1,rfl⟩)

theorem deleteUserKeepsOwner (owner : HasOwner t) : Leaves (deleteUser env id) t HasOwner := by
  refine .andThen (queries (fun _ => ?_) (fun _ _ => owner))
  refine .asks (fun _ _ => ?_) (fun _ _ => owner)
  refine .after findsUser ?_ (fun _ _ failed => failed.1 ▸ owner)
  rintro user t ⟨rfl,_,found⟩
  obtain ⟨mem,_⟩ := foundUser found
  refine .asks (fun _ ok => ?_) (fun _ _ => owner)
  split at ok <;> try contradiction
  rename_i plain
  refine .andThen (writes (fun _ _ purged => ?_) (fun _ _ => owner))
  cases purged
  refine writes (fun _ _ done => ?_) (fun _ _ => owner)
  cases done
  exact deleteKeepsOwner (t := t.deleteForUser user.key) owner mem plain

end Owners

section LastOwner

def Disables (t : Tables) (call : Call) (id : Uuid) : Prop :=
  call.request = .disableUser id ∧ call.env.fault .findById = none ∧ call.env.fault .disable = none ∧
    ∀ user ∈ t.users, user.EnabledOwner → user.key = id

def spares (t : Tables) (call : Call) : Prop := ∀ id, ¬ Disables t call id

variable {t : Tables}

theorem disableIff (env) (id) (owner : HasOwner t) : HasOwner (exec (disableUser env id) t).2 ↔
      ¬ (env.fault .findById = none ∧ env.fault .disable = none ∧ ∀ user ∈ t.users, user.EnabledOwner → user.key = id) := by
  generalize strikes : (env.fault .findById = none ∧ env.fault .disable = none ∧ ∀ user ∈ t.users, user.EnabledOwner → user.key = id) = struck
  suffices ends : Leaves (disableUser env id) t (fun next => HasOwner next ↔ ¬ struck) from ends.always
  subst strikes
  have untouched (reason : ¬ (env.fault .findById = none ∧ env.fault .disable = none ∧
      ∀ user ∈ t.users, user.EnabledOwner → user.key = id)) : HasOwner t ↔ _ := iff_of_true owner reason
  refine .after findsUser ?_ ?_
  · rintro user t ⟨rfl,works,found⟩
    obtain ⟨_,rfl⟩ := foundUser found
    have struck : ∀ sessions, HasOwner {t.disable user.key env.now with sessions} ↔
        ∃ other ∈ t.users, other.EnabledOwner ∧ other.key ≠ user.key := fun _ => disableOwnerIff
    refine .andThen (writes (fun _ fine done => ?_) (fun _ unfit => untouched ?_))
    · cases done
      have either : ∀ sessions, HasOwner {t.disable user.key env.now with sessions} ↔
          ¬ (env.fault .findById = none ∧ env.fault .disable = none ∧
            ∀ other ∈ t.users, other.EnabledOwner → other.key = user.key) := by
        simp [struck,works,fine]
      refine writes (fun _ _ purged => ?_) (fun _ _ => either _)
      cases purged
      exact either _
    · exact fun strikes => unfit _ strikes.2.1 rfl
  · rintro _ t ⟨rfl,missing⟩
    refine untouched (fun strikes => ?_)
    obtain ⟨user,mem,holds⟩ := owner
    have absent := List.find?_eq_none.mp (missing strikes.1) user mem
    exact absent (by simpa using strikes.2.2 user mem holds)

theorem serveOwnerIff (owner : HasOwner t) (call) : HasOwner (serve t call) ↔ spares t call := by
  obtain ⟨env,request⟩ := call
  have kept {prog : Prog Tables IdentityError Unit} (ends : Leaves prog t HasOwner) :
      HasOwner (exec prog t).2 := ends.always
  cases request with
  | createUser username email plaintext role =>
    refine iff_of_true (kept ?_) (fun id strikes => by cases strikes.1)
    exact .andThen ((createKeepsOwner owner username email plaintext role none none).weaken
      (fun _ _ kept => .returns kept) (fun _ _ kept => kept))
  | changeRole id newRole =>
    exact iff_of_true (kept (changeRoleKeepsOwner owner newRole)) (fun id strikes => by cases strikes.1)
  | disableUser id =>
    rw [serve,Call.prog,disableIff env id owner]
    constructor
    · rintro other id' ⟨same,strikes⟩
      cases same
      exact other strikes
    · intro spared strikes
      exact spared id ⟨rfl,strikes⟩
  | enableUser id => exact iff_of_true (kept (enableKeepsOwner owner)) (fun id strikes => by cases strikes.1)
  | deleteUser id => exact iff_of_true (kept (deleteUserKeepsOwner owner)) (fun id strikes => by cases strikes.1)

theorem usableOwnerKept (calls : List Call) (owner : HasOwner t) :
    (∀ next ∈ visited t calls, HasOwner next) ↔ ∃ last, Run (fun t call => some (serve t call)) spares t calls last := by
  induction calls generalizing t with
  | nil => exact iff_of_true (fun _ absurd => by cases absurd) ⟨t,.nil t⟩
  | cons call calls ih =>
    simp only [visited,List.mem_cons,forall_eq_or_imp]
    constructor
    · rintro ⟨first,later⟩
      obtain ⟨last,run⟩ := (ih first).mp later
      exact ⟨last,.cons ((serveOwnerIff owner call).mp first) rfl run⟩
    · rintro ⟨last,_ | ⟨spared,fired,run⟩⟩
      cases fired
      have first := (serveOwnerIff owner call).mpr spared
      exact ⟨first,(ih first).mpr ⟨last,run⟩⟩

def steady (now : DateTime) : Env := ⟨now,0x51,"$argon2id$v=19$panel",fun _ => none⟩

def soleOwner : User :=
  ⟨⟨0x11,⟨"panel-owner",by decide⟩,⟨"panel-owner@panel.test",by decide⟩,.owner,none,none,0⟩,"$argon2id$v=19$owner",none,none⟩

def ownedPanel : Tables := ⟨[soleOwner],[],by decide⟩

theorem promotedOwnerKept : HasOwner ownedPanel ∧
    ((∀ next ∈ visited ownedPanel [⟨steady 1,.createUser "second-owner" "second@panel.test" "correct horse" .owner⟩,
        ⟨steady 2,.disableUser 0x11⟩],HasOwner next) ↔
      ∃ last, Run (fun t call => some (serve t call)) spares ownedPanel
        [⟨steady 1,.createUser "second-owner" "second@panel.test" "correct horse" .owner⟩,⟨steady 2,.disableUser 0x11⟩] last) :=
  ⟨by decide,usableOwnerKept _ (by decide)⟩

theorem soleOwnerDisabled : HasOwner ownedPanel ∧
    ¬ (∀ next ∈ visited ownedPanel [⟨steady 1,.disableUser 0x11⟩],HasOwner next) := by
  decide

end LastOwner

end OpenPanel.Accounts
