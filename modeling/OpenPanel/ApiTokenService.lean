import OpenPanel.CallPool
import OpenPanel.IdentityStore
import OpenPanel.NetworkMatchers

/-! API tokens: the credential, the token, and the calls that authenticate with,
revoke and rotate one, split at their repository calls. A statement may fail, and a
row that cannot be read back counts as that. Checksum, keyed hash and the reader of
addresses are parameters, the rate limiter's answer an input. Audit is left out. -/
namespace OpenPanel.ApiTokens
open Security (IpAddr)
open Accounts (User)
open CallPool

def alphabet : List Char := "ABCDEFGHIJKLMNOPQRSTUVWXYZ234567".toList

structure TokenCrypto where
  checksum : List Char → List Char
  hash : List Char → BitVec 256

structure TokenCredential where
  rendered : String
  body : List Char

-- `base32_decode` fails at a character outside the alphabet only.
def TokenCredential.parse (crypto : TokenCrypto) (value : String) : Except ApiTokenError TokenCredential :=
  let front := "openpanel_pat_".toList
  if value.toList.take front.length ≠ front then .error .invalidCredential
  else match (value.toList.drop front.length).span (fun c => c ≠ '.') with
    | (_,[]) => .error .invalidCredential
    | (body,_::supplied) =>
      if byteLength body ≠ 24 ∨ byteLength supplied ≠ 4 ∨ body.all (fun c => alphabet.contains c) = false ∨
          supplied ≠ crypto.checksum body then .error .invalidCredential
      else .ok ⟨value,body⟩

def validScopePart (part : List Char) : Bool :=
  part ≠ [] && byteLength part ≤ 32 && part.head?.any (fun c => 'a' ≤ c && c ≤ 'z') &&
    part.all (fun c => ('a' ≤ c && c ≤ 'z') || ('0' ≤ c && c ≤ '9') || c == '_' || c == '-')

def validScope (value : String) : Bool :=
  match value.toList.span (fun c => c ≠ ':') with
  | (_,[]) => false
  | (context,_::verb) => validScopePart context && validScopePart verb

structure TokenScope where
  text : String
  valid : validScope text = true
  deriving DecidableEq

structure ApiToken where
  id : Uuid
  userId : Uuid
  label : List Char
  hash : BitVec 256
  scopes : List TokenScope
  cidrAllowlist : List Cidr
  createdAt : DateTime
  expiresAt : DateTime
  lastUsedAt : Option DateTime
  revokedAt : Option DateTime
  deriving DecidableEq

namespace ApiToken

def restore (id userId : Uuid) (label : List Char) (hash : BitVec 256) (scopes : List TokenScope)
    (cidrAllowlist : List Cidr) (createdAt expiresAt : DateTime) (lastUsedAt revokedAt : Option DateTime) :
    Except ApiTokenError ApiToken :=
  if trim label = [] ∨ 120 < byteLength label then .error .invalidLabel
  else if scopes = [] then .error .emptyScopes
  else if expiresAt ≤ createdAt then .error .invalidExpiration
  else .ok ⟨id,userId,trim label,hash,scopes,cidrAllowlist,createdAt,expiresAt,lastUsedAt,revokedAt⟩

def new (id userId : Uuid) (label : List Char) (hash : BitVec 256) (scopes : List TokenScope)
    (cidrAllowlist : List Cidr) (expiresAt now : DateTime) : Except ApiTokenError ApiToken :=
  restore id userId label hash scopes cidrAllowlist now expiresAt none none

def revoke (token : ApiToken) (instant : DateTime) : Except ApiTokenError ApiToken :=
  if token.revokedAt.isSome then .error .alreadyRevoked else .ok {token with revokedAt := some instant}

def markUsed (token : ApiToken) (instant : DateTime) : ApiToken := {token with lastUsedAt := some instant}

def isActive (token : ApiToken) (now : DateTime) : Bool := token.revokedAt.isNone && decide (now < token.expiresAt)

def allowsIp (readAddress : String → Option IpAddr) (token : ApiToken) (address : IpAddr) : Bool :=
  token.cidrAllowlist = [] || token.cidrAllowlist.any (fun cidr => cidr.contains readAddress address)

def allowsScope (token : ApiToken) (scope : TokenScope) : Bool := token.scopes.contains scope

def key (token : ApiToken) : Uuid × Uuid := (token.id,token.userId)

end ApiToken

structure Store where
  users : List User
  tokens : List ApiToken
  ids : Rows.Unique ApiToken.id tokens

namespace Store

def findUser (s : Store) (id : Uuid) : Option User := s.users.find? (fun u => u.key == id)

def find (s : Store) (userId id : Uuid) : Option ApiToken := s.tokens.find? (fun t => t.key == (id,userId))

def findByHash (s : Store) (hash : BitVec 256) : Option ApiToken := s.tokens.find? (fun t => t.hash == hash)

def overwrite (copy stored : ApiToken) : ApiToken :=
  {stored with
    label := copy.label, hash := copy.hash, scopes := copy.scopes, cidrAllowlist := copy.cidrAllowlist
    expiresAt := copy.expiresAt, lastUsedAt := copy.lastUsedAt, revokedAt := copy.revokedAt}

def change (s : Store) (key : Uuid × Uuid) (f : ApiToken → ApiToken) (same : ∀ t, (f t).id = t.id) : Store where
  users := s.users
  tokens := Rows.update ApiToken.key key f s.tokens
  ids := by
    refine Rows.mapUnique s.ids (fun t => ?_)
    split
    · exact same t
    · rfl

def update (s : Store) (copy : ApiToken) : Except DbError Store :=
  if s.tokens.any (fun t => t.id ≠ copy.id && t.hash == copy.hash) then .error (.unique "api_tokens.hash")
  else .ok (s.change copy.key (overwrite copy) (fun _ => rfl))

def insert (s : Store) (token : ApiToken) : Except DbError Store :=
  if fresh : s.tokens.any (fun t => t.id == token.id) then .error (.unique "api_tokens.id")
  else if s.tokens.any (fun t => t.hash == token.hash) then .error (.unique "api_tokens.hash")
  else if !s.users.any (fun u => u.key == token.userId) then .error .foreignKey
  else .ok {s with
    tokens := s.tokens ++ [token]
    ids := Rows.insertUnique s.ids (fun old mem same => fresh (List.any_eq_true.mpr ⟨old,mem,by simp [same]⟩))}

-- One transaction: what the insertion refuses undoes the update.
def rotate (s : Store) (old new : ApiToken) : Except DbError Store :=
  (s.change old.key (fun t => {t with revokedAt := old.revokedAt}) (fun _ => rfl)).insert new

end Store
section Service

inductive TokenAuthError where
  | unauthorized
  | expired
  | scopeRejected
  | cidrRejected
  | forbidden
  | rateLimited (retryAfterSeconds : Nat)
  | invalid (error : ApiTokenError)
  | internal (message : String)
  deriving DecidableEq

structure BearerPrincipal where
  user : User
  tokenId : Uuid
  deriving DecidableEq

inductive Point where
  | authenticate (plaintext : String) (peer : IpAddr) (scope : TokenScope)
  | authUser (token : ApiToken) (now : DateTime)
  | authUpdate (user : User) (token : ApiToken)
  | authenticated (result : Except TokenAuthError BearerPrincipal)
  | revoke (actor : User) (userId id : Uuid)
  | revokeFind (userId id : Uuid)
  | revokeUpdate (token : ApiToken)
  | revoked (result : Except TokenAuthError Uuid)
  | rotate (actor : User) (userId id : Uuid)
  | rotateFind (userId id : Uuid)
  | rotateCommit (old new : ApiToken)
  | rotated (result : Except TokenAuthError Uuid)
  deriving DecidableEq

structure Input where
  fault : Option String
  now : DateTime
  later : DateTime
  limited : Option TokenAuthError
  freshId : Uuid
  freshBody : List Char

def Input.attempt {α : Type} (input : Input) (result : Except DbError α) : Except TokenAuthError α :=
  match input.fault with
  | some message => .error (.internal message)
  | none => result.mapError (fun e => .internal e.message)

section Steps

variable (crypto : TokenCrypto) (readAddress : String → Option IpAddr) (s : Store) (input : Input)

def checkToken (plaintext : String) (peer : IpAddr) (scope : TokenScope) : Except TokenAuthError ApiToken := do
  let credential ← (TokenCredential.parse crypto plaintext).mapError (fun _ => .unauthorized)
  let found ← input.attempt (.ok (s.findByHash (crypto.hash credential.body)))
  match found with
  | none => .error .unauthorized
  | some token =>
    if token.revokedAt.isSome then .error .unauthorized
    else if token.expiresAt ≤ input.now then .error .expired
    else if !token.allowsIp readAddress peer then .error .cidrRejected
    else if !token.allowsScope scope then .error .scopeRejected
    else match input.limited with
      | some error => .error error
      | none => .ok token

def bearer (token : ApiToken) : Except TokenAuthError User := do
  let found ← input.attempt (.ok (s.findUser token.userId))
  match found with
  | none => .error .unauthorized
  | some user => if user.isDisabled then .error .unauthorized else .ok user

def authorizeTarget (actor : User) (userId : Uuid) : Except TokenAuthError User := do
  let found ← input.attempt (.ok (s.findUser userId))
  match found with
  | none => .error .forbidden
  | some target =>
    if actor.key = userId ∨ actor.role = .owner ∨ (actor.role = .admin ∧ target.role ≠ .owner) then .ok target
    else .error .forbidden

def findToken (userId id : Uuid) : Except TokenAuthError ApiToken := do
  let found ← input.attempt (.ok (s.find userId id))
  match found with
  | none => .error (.invalid .notFound)
  | some token => .ok token

def prepareRevoke (userId id : Uuid) : Except TokenAuthError ApiToken := do
  let token ← findToken s input userId id
  (token.revoke input.now).mapError .invalid

-- The clock is read again after the token was found active.
def prepareRotate (userId id : Uuid) : Except TokenAuthError (ApiToken × ApiToken) := do
  let token ← findToken s input userId id
  if !token.isActive input.now then .error .unauthorized
  else do
    let old ← (token.revoke input.later).mapError .invalid
    let new ← (ApiToken.new input.freshId old.userId old.label (crypto.hash input.freshBody) old.scopes
      old.cidrAllowlist old.expiresAt input.later).mapError .invalid
    return (old,new)

def step (point : Point) : Option (Store × Point) :=
  match point with
  | .authenticate plaintext peer scope => match checkToken crypto readAddress s input plaintext peer scope with
    | .error e => some (s,.authenticated (.error e))
    | .ok token => some (s,.authUser token input.now)
  | .authUser token now => match bearer s input token with
    | .error e => some (s,.authenticated (.error e))
    | .ok user => some (s,.authUpdate user (token.markUsed now))
  | .authUpdate user token => match input.attempt (s.update token) with
    | .error e => some (s,.authenticated (.error e))
    | .ok next => some (next,.authenticated (.ok ⟨user,token.id⟩))
  | .authenticated _ => none
  | .revoke actor userId id => match authorizeTarget s input actor userId with
    | .error e => some (s,.revoked (.error e))
    | .ok _ => some (s,.revokeFind userId id)
  | .revokeFind userId id => match prepareRevoke s input userId id with
    | .error e => some (s,.revoked (.error e))
    | .ok token => some (s,.revokeUpdate token)
  | .revokeUpdate token => match input.attempt (s.update token) with
    | .error e => some (s,.revoked (.error e))
    | .ok next => some (next,.revoked (.ok token.id))
  | .revoked _ => none
  | .rotate actor userId id => match authorizeTarget s input actor userId with
    | .error e => some (s,.rotated (.error e))
    | .ok _ => some (s,.rotateFind userId id)
  | .rotateFind userId id => match prepareRotate crypto s input userId id with
    | .error e => some (s,.rotated (.error e))
    | .ok (old,new) => some (s,.rotateCommit old new)
  | .rotateCommit old new => match input.attempt (s.rotate old new) with
    | .error e => some (s,.rotated (.error e))
    | .ok next => some (next,.rotated (.ok old.id))
  | .rotated _ => none

end Steps

def entry : Point → Bool
  | .authenticate .. => true
  | .revoke .. => true
  | .rotate .. => true
  | _ => false

def service (crypto : TokenCrypto) (readAddress : String → Option IpAddr) : Machine Store Point Input :=
  ⟨entry,fun s point input => step crypto readAddress s input point⟩

end Service

end OpenPanel.ApiTokens
