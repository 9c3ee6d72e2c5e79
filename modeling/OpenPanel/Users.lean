import OpenPanel.Rows
import OpenPanel.Values

/-! Accounts and the table that holds them. A password is hashed before it is
stored and no modelled function reads it back, so only the lengths it is refused
for are here; the same goes for the times of the last login and of disabling. -/
namespace OpenPanel.Identity

inductive Role where | owner | admin | user deriving DecidableEq

inductive UsernameError where
  | length
  | invalidChar (c : Char)
  deriving DecidableEq

def UsernameError.message : UsernameError → String
  | .length => "username must be 3-32 chars long"
  | .invalidChar c => "username contains invalid character `" ++ c.toString ++ "`"

def usernameChar (c : Char) : Bool := isAsciiAlphanumeric c || c == '-' || c == '_' || c == '.'

def Username.validate (s : String) : Except UsernameError Unit :=
  if s.utf8ByteSize < 3 ∨ s.utf8ByteSize > 32 then .error .length
  else match s.toList.find? (fun c => !usernameChar c) with
    | some c => .error (.invalidChar c)
    | none => .ok ()

structure Username where
  text : String
  valid : Username.validate text = .ok ()
  deriving DecidableEq

def Username.new (s : String) : Except UsernameError Username :=
  match checked : Username.validate s with
  | .error e => .error e
  | .ok () => .ok ⟨s,checked⟩

-- `s.find('@')` is the first one, so the domain may hold more of them.
def Email.validate (s : String) : Except String Unit :=
  if s.isEmpty ∨ s.utf8ByteSize > 254 then .error "email length out of range"
  else match s.toList.span (fun c => c != '@') with
    | (_,[]) => .error "email missing '@'"
    | (name,_::domain) =>
      if name = [] ∨ domain = [] then .error "email has empty local/domain part"
      else if ¬ '.' ∈ domain then .error "email domain must contain a dot"
      else if domain.head? = some '.' ∨ domain.getLast? = some '.' then
        .error "email domain cannot start or end with a dot"
      else if ¬ (s.toList.all (fun c => 32 ≤ c.toNat && c.toNat ≤ 126)) then
        .error "email contains invalid characters"
      else .ok ()

structure Email where
  text : String
  valid : Email.validate text = .ok ()
  deriving DecidableEq

def Email.new (s : String) : Except String Email :=
  match checked : Email.validate s with
  | .error detail => .error ("validation error: " ++ detail)
  | .ok () => .ok ⟨s,checked⟩

def minPasswordLen : Nat := 12

inductive PasswordError where
  | tooShort (minimum : Nat)
  | tooLong

def Password.hash (plaintext : String) : Except PasswordError Unit :=
  if plaintext.utf8ByteSize < minPasswordLen then .error (.tooShort minPasswordLen)
  else if plaintext.utf8ByteSize > 1024 then .error .tooLong
  else .ok ()

structure User where
  id : Uuid
  username : Username
  email : Email
  role : Role
  parentAccountId : Option Uuid
  hostingPlanId : Option Uuid
  createdAt : DateTime
  deriving DecidableEq

inductive IdentityError where | parentAccountCycle

def User.newWithParents (id : Uuid) (username : Username) (email : Email) (role : Role)
    (parentAccountId hostingPlanId : Option Uuid) (now : DateTime) : Except IdentityError User :=
  if parentAccountId = some id then .error .parentAccountCycle
  else .ok ⟨id,username,email,role,parentAccountId,hostingPlanId,now⟩

abbrev Users := List User

def Users.findById (users : Users) (id : Uuid) : Option User := users.find? (fun u => u.id == id)

def Users.insert (users : Users) (user : User) : Except DbError Users :=
  if users.any (fun u => u.id == user.id) then .error (.unique "users.id")
  else if users.any (fun u => u.username == user.username) then .error (.unique "users.username")
  else if users.any (fun u => u.email == user.email) then .error (.unique "users.email")
  else .ok (users ++ [user])

def Users.updateParentAccountId (users : Users) (id : Uuid) (parent : Option Uuid) : Users :=
  Rows.update User.id id (fun u => {u with parentAccountId := parent}) users

def Users.updateHostingPlanId (users : Users) (id : Uuid) (plan : Option Uuid) : Users :=
  Rows.update User.id id (fun u => {u with hostingPlanId := plan}) users

def Users.ids (users : Users) : List Uuid := users.map User.id

theorem insertIds {users users' : Users} (ok : users.insert user = .ok users') :
    user.id ∉ users.ids ∧ users'.ids = users.ids ++ [user.id] := by
  unfold Users.insert at ok
  split at ok <;> try contradiction
  rename_i fresh
  split at ok <;> try contradiction
  split at ok <;> try contradiction
  cases ok
  refine ⟨?_,by simp [Users.ids]⟩
  intro mem
  obtain ⟨old,inside,same⟩ := List.mem_map.mp mem
  exact fresh (List.any_eq_true.mpr ⟨old,inside,by simp [same]⟩)

theorem updateParentIds (users : Users) (id parent) : (users.updateParentAccountId id parent).ids = users.ids := Rows.updateKeys (fun _ _ => rfl)

theorem updatePlanIds (users : Users) (id plan) : (users.updateHostingPlanId id plan).ids = users.ids := Rows.updateKeys (fun _ _ => rfl)

end OpenPanel.Identity
