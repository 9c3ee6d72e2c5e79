import OpenPanel.Calendar
import OpenPanel.Fallible
import OpenPanel.Users

/-! The tables of accounts and sessions and the statements of the identity service.
A statement may fail, which leaves the tables as they were; a user row that cannot be
read back counts as that. A session is read back through the text of its timestamps.
Audit events are left out. -/
namespace OpenPanel.Accounts
open Fallible
open Identity (Role Username Email)

inductive IdentityError where
  | invalidCredentials
  | accountDisabled
  | passwordTooShort
  | usernameTaken
  | emailTaken
  | userNotFound
  | sessionExpired
  | forbidden
  | lastOwner
  | invalidToken
  | parentAccountCycle
  | persistence (message : String)

structure User extends Identity.User where
  passwordHash : String
  disabledAt : Option DateTime
  lastLoginAt : Option DateTime
  deriving DecidableEq

namespace User

def key (user : User) : Uuid := user.id

def isDisabled (user : User) : Bool := user.disabledAt.isSome

def newWithParents (id : Uuid) (username : Username) (email : Email) (passwordHash : String) (role : Role)
    (parentAccountId hostingPlanId : Option Uuid) (now : DateTime) : Except IdentityError User :=
  if parentAccountId = some id then .error .parentAccountCycle
  else .ok ⟨⟨id,username,email,role,parentAccountId,hostingPlanId,now⟩,passwordHash,none,none⟩

def changeRole (user : User) (role : Role) : Except IdentityError User :=
  if user.role = .owner ∧ role ≠ .owner then .error .lastOwner else .ok {user with role := role}

end User

def sessionInactivity : Int := seconds (24 * 3600)
def sessionAbsolute : Int := days 7

structure Session where
  id : Uuid
  userId : Uuid
  tokenHash : String
  role : Role
  createdAt : DateTime
  lastSeenAt : DateTime
  absoluteExpiresAt : DateTime
  sourceIp : Option String
  userAgent : Option String
  deriving DecidableEq

namespace Session

def new (id userId : Uuid) (role : Role) (tokenHash : String) (sourceIp userAgent : Option String) (now : DateTime) :
    Session :=
  ⟨id,userId,tokenHash,role,now,now,now + sessionAbsolute,sourceIp,userAgent⟩

def isExpired (session : Session) (now : DateTime) : Bool :=
  decide (session.absoluteExpiresAt < now) || decide (sessionInactivity < now - session.lastSeenAt)

-- `SessionRow::into_session`.
def restore (row : Session) : Option Session := do
  let createdAt ← Calendar.read (Calendar.text row.createdAt)
  let lastSeenAt ← Calendar.read (Calendar.text row.lastSeenAt)
  let absoluteExpiresAt ← Calendar.read (Calendar.text row.absoluteExpiresAt)
  return {row with createdAt,lastSeenAt,absoluteExpiresAt}

def Readable (row : Session) : Prop :=
  Calendar.Plain row.createdAt ∧ Calendar.Plain row.lastSeenAt ∧ Calendar.Plain row.absoluteExpiresAt

instance (row : Session) : Decidable row.Readable := inferInstanceAs (Decidable (_ ∧ _ ∧ _))

theorem restoreIff (row : Session) : row.restore = if row.Readable then some row else none := by
  simp only [restore,Calendar.readTextIff,Readable]
  by_cases created : Calendar.Plain row.createdAt <;> by_cases seen : Calendar.Plain row.lastSeenAt <;>
    by_cases last : Calendar.Plain row.absoluteExpiresAt <;> simp [created,seen,last]

end Session
structure Tables where
  users : List User
  sessions : List Session
  ids : Rows.Unique User.key users

inductive Statement where
  | findById
  | findByUsername
  | findByEmail
  | insertUser
  | updateRole
  | disable
  | enable
  | updateLastLogin
  | deleteUser
  | count
  | insertSession
  | findByToken
  | touch
  | deleteSession
  | deleteForUser

/-- What the surroundings decide for one call: the clock, the random values and
the statements that fail. -/
structure Env where
  now : DateTime
  freshId : Uuid
  freshHash : String
  fault : Statement → Option String

def Env.attempt {α : Type} (env : Env) (statement : Statement) (result : Except DbError α) : Except IdentityError α :=
  match env.fault statement with
  | some message => .error (.persistence message)
  | none => result.mapError (fun e => .persistence e.message)

def query {α : Type} (env : Env) (statement : Statement) (select : Tables → α) : Prog Tables IdentityError α :=
  reads (fun t => env.attempt statement (.ok (select t)))

def write (env : Env) (statement : Statement) (change : Tables → Except DbError Tables) : Prog Tables IdentityError Unit :=
  Fallible.attempt (fun t => (env.attempt statement (change t)).map (fun next => ((),next)))

namespace Tables

def findById (t : Tables) (id : Uuid) : Option User := t.users.find? (fun u => u.key == id)

def findByUsername (t : Tables) (name : String) : Option User := t.users.find? (fun u => u.username.text == name)

def findByEmail (t : Tables) (email : String) : Option User := t.users.find? (fun u => u.email.text == email)

def insertUser (t : Tables) (user : User) : Except DbError Tables :=
  if fresh : t.users.any (fun u => u.key == user.key) then .error (.unique "users.id")
  else if t.users.any (fun u => u.username.text == user.username.text) then .error (.unique "users.username")
  else if t.users.any (fun u => u.email.text == user.email.text) then .error (.unique "users.email")
  else .ok {t with
    users := t.users ++ [user]
    ids := Rows.insertUnique t.ids (fun old mem same => fresh (List.any_eq_true.mpr ⟨old,mem,by simp [same]⟩))}

def updateUser (t : Tables) (id : Uuid) (change : User → User) (same : ∀ u, (change u).key = u.key) : Tables :=
  {t with users := Rows.update User.key id change t.users, ids := Rows.updateUnique t.ids (fun u _ => same u)}

def updateRole (t : Tables) (id : Uuid) (role : Role) : Tables :=
  t.updateUser id (fun u => {u with role := role}) (fun _ => rfl)

def disable (t : Tables) (id : Uuid) (now : DateTime) : Tables :=
  t.updateUser id (fun u => {u with disabledAt := some now}) (fun _ => rfl)

def enable (t : Tables) (id : Uuid) : Tables := t.updateUser id (fun u => {u with disabledAt := none}) (fun _ => rfl)

def updateLastLogin (t : Tables) (id : Uuid) (now : DateTime) : Tables :=
  t.updateUser id (fun u => {u with lastLoginAt := some now}) (fun _ => rfl)

def deleteForUser (t : Tables) (id : Uuid) : Tables := {t with sessions := Rows.delete Session.userId id t.sessions}

-- The foreign key of a session cascades.
def deleteUser (t : Tables) (id : Uuid) : Tables :=
  {users := Rows.delete User.key id t.users
   sessions := Rows.delete Session.userId id t.sessions
   ids := Rows.deleteUnique t.ids}

def insertSession (t : Tables) (session : Session) : Except DbError Tables :=
  if t.sessions.any (fun s => s.id == session.id) then .error (.unique "sessions.id")
  else if t.sessions.any (fun s => s.tokenHash == session.tokenHash) then .error (.unique "sessions.token_hash")
  else if !t.users.any (fun u => u.key == session.userId) then .error .foreignKey
  else .ok {t with sessions := t.sessions ++ [session]}

def touch (t : Tables) (id : Uuid) (now : DateTime) : Tables :=
  {t with sessions := Rows.update Session.id id (fun s => {s with lastSeenAt := now}) t.sessions}

def deleteSession (t : Tables) (id : Uuid) : Tables := {t with sessions := Rows.delete Session.id id t.sessions}

-- Rows that cannot be read back are passed over.
def findByTokenHashMatch (verifies : String → String → Bool) (t : Tables) (token : String) : Option Session :=
  (t.sessions.filterMap Session.restore).find? (fun s => verifies s.tokenHash token)

end Tables

def findUser (env : Env) (id : Uuid) : Prog Tables IdentityError User := do
  let found ← query env .findById (fun t => t.findById id)
  reads (fun _ => match found with | some user => .ok user | none => .error .userNotFound)

section Rules

variable {env : Env} {t : Tables}

theorem attemptOk (ok : env.attempt statement result = .ok a) : env.fault statement = none ∧ result = .ok a := by
  unfold Env.attempt at ok
  split at ok
  · cases ok
  · rename_i works
    exact ⟨works,mapErrorOk ok⟩

theorem queries (found : env.fault statement = none → post (select t) t)
    (stopped : ∀ message, env.fault statement = some message → failed (.persistence message) t) :
    Ends (query env statement select) t post failed := by
  refine .checks (fun a ok => ?_) (fun e error => ?_)
  · obtain ⟨works,same⟩ := attemptOk ok
    cases same
    exact found works
  · unfold Env.attempt at error
    split at error
    · rename_i message fault
      cases error
      exact stopped message fault
    · cases error

theorem writes (done : ∀ next, env.fault statement = none → change t = .ok next → post () next)
    (stopped : ∀ e, (∀ next, env.fault statement = none → change t ≠ .ok next) → failed e t) :
    Ends (write env statement change) t post failed := by
  refine .attempts (fun a next ok => ?_) (fun e error => ?_)
  · cases changed : env.attempt statement (change t) with
    | error e =>
      rw [changed] at ok
      cases ok
    | ok last =>
      rw [changed] at ok
      cases ok
      obtain ⟨works,same⟩ := attemptOk changed
      exact done _ works same
  · refine stopped e (fun next works same => ?_)
    rw [Env.attempt,works,same] at error
    cases error

theorem findsUser {id} : Ends (findUser env id) t
    (fun user next => next = t ∧ env.fault .findById = none ∧ t.findById id = some user)
    (fun _ next => next = t ∧ (env.fault .findById = none → t.findById id = none)) := by
  refine .andThen (queries (fun works => ?_) (fun message fault => ⟨rfl,fun works => ?_⟩))
  · cases found : t.findById id with
    | none => exact .checks (fun _ absurd => by cases absurd) (fun _ _ => ⟨rfl,fun _ => rfl⟩)
    | some user => exact .knows rfl ⟨rfl,works,rfl⟩
  · rw [fault] at works
    cases works

theorem foundUser {id user} (found : t.findById id = some user) : user ∈ t.users ∧ user.key = id :=
  Rows.found found

end Rules

end OpenPanel.Accounts
