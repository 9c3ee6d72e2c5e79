import OpenPanel.IdentityStore
import OpenPanel.TwoFactorService

/-! The calls that open a session: a login by password, the answer to a challenge,
and the callback of an identity provider. Every statement may fail. Hashes, the signature
of a cookie and the exchange with the provider are parameters; a call reads the clock
once. Audit events are left out, except where a verification stops at one. -/
namespace OpenPanel.Login
open Fallible
open Identity (Role Username Email)
open Accounts (User Session Tables IdentityError)
open TwoFactor (FactorStore TwoFactorError TwoFactorCrypto TwoFactorChallenge FactorResponse LoginCall VerifyPoint Accepted Fault)

structure SsoConnection where
  issuerUrl : String
  clientId : String
  clientSecretCipher : String
  defaultRole : Role
  autoProvision : Bool
  trustIdpMfa : Bool

def SsoConnection.mfaSatisfied (connection : SsoConnection) : Bool := connection.trustIdpMfa

structure ExternalIdentity where
  issuer : String
  subject : String
  userId : Uuid

structure SsoLoginState where
  state : String
  nonce : String
  pkceVerifier : String
  expiresAt : DateTime

structure OidcClaims where
  issuer : String
  subject : String
  email : Option String

inductive SsoError where
  | invalidConfig (reason : String)
  | discovery
  | stateMismatch
  | stateExpired
  | nonceMismatch
  | provisionDisabled
  | linkConflict
  | persistence (message : String)

structure Panel where
  accounts : Tables
  factors : FactorStore
  connection : Option SsoConnection
  identities : List ExternalIdentity
  states : List SsoLoginState

def Panel.findIdentity (p : Panel) (issuer subject : String) : Option ExternalIdentity :=
  p.identities.find? (fun row => row.issuer == issuer && row.subject == subject)

-- `ON CONFLICT(issuer, subject) DO UPDATE`.
def Panel.saveIdentity (p : Panel) (identity : ExternalIdentity) : Panel :=
  {p with identities := p.identities.filter (fun row => !(row.issuer == identity.issuer && row.subject == identity.subject)) ++ [identity]}

def hasActiveFactor (store : FactorStore) (user : Uuid) : Bool :=
  store.factors.any (fun row => row.userId == user && row.revokedAt.isNone)

structure RememberedDevicePayload where
  v : Nat
  factorId : Uuid
  userId : Uuid
  uaHash : String
  ipPrefix : String
  exp : DateTime

/-- What a cookie is made with: base64, the signature under the panel's key, JSON, and the fingerprints of a request. -/
structure DeviceCrypto where
  decode : List Char → Option (List UInt8)
  sign : List UInt8 → List UInt8
  parse : List UInt8 → Option RememberedDevicePayload
  hashUserAgent : String → String
  ipPrefix : String → String

structure Keys where
  verifyPassword : String → String → Except String Bool
  twoFactor : TwoFactorCrypto
  device : DeviceCrypto
  exchange : SsoConnection → String → String → String → Except SsoError OidcClaims
  toLowercase : String → String

inductive Statement where
  | listFactors
  | rememberedFactors
  | insertChallenge
  | getConnection
  | selectState
  | deleteState
  | findIdentity
  | saveIdentity

/-- What the surroundings decide for one call: the clock, random values and failures. -/
structure Env where
  accounts : Accounts.Env
  fault : Statement → Option String
  verifyFault : Nat → Fault
  challengeId : Uuid
  challengeHash : String
  challengeLifetime : Int
  userId : Uuid
  passwordHash : Except String String

def Env.now (env : Env) : DateTime := env.accounts.now

section Steps

variable (env : Env)

def statement (which : Statement) (report : String → ε) (run : Panel → Except String (α × Panel)) : Prog Panel ε α :=
  attempt (fun p => match env.fault which with
    | some message => .error (report message)
    | none => (run p).mapError report)

def asks (which : Statement) (report : String → ε) (select : Panel → α) : Prog Panel ε α :=
  statement env which report (fun p => .ok (select p,p))

def onAccounts (report : IdentityError → ε) (prog : Prog Tables IdentityError α) : Prog Panel ε α :=
  zoom Panel.accounts (fun t p => {p with accounts := t}) report prog

def newSession (user : User) (ip userAgent : Option String) : Session :=
  Session.new env.accounts.freshId user.key user.role env.accounts.freshHash ip userAgent env.now

def insertSession (user : User) (ip userAgent : Option String) : Prog Tables IdentityError Unit :=
  Accounts.write env.accounts .insertSession (fun t => t.insertSession (newSession env user ip userAgent))

def openSession (user : User) (ip userAgent : Option String) : Prog Tables IdentityError Unit := do
  insertSession env user ip userAgent
  quietly (Accounts.write env.accounts .touch (fun t => .ok (t.touch env.accounts.freshId env.now)))
  quietly (Accounts.write env.accounts .updateLastLogin (fun t => .ok (t.updateLastLogin user.key env.now)))

def issueLoginChallenge (report : String → ε) (user : Uuid) : Prog Panel ε TwoFactorChallenge :=
  let challenge : TwoFactorChallenge := ⟨env.challengeId,user,env.challengeHash,env.now + env.challengeLifetime,none⟩
  statement env .insertChallenge report (fun p =>
    if p.factors.challenges.any (fun row => row.id == challenge.id) then .error "UNIQUE constraint failed: login_challenges.id"
    else .ok (challenge,{p with factors := {p.factors with challenges := p.factors.challenges ++ [challenge]}}))

end Steps

-- The variants of `TwoFactorError` for the cookie, and the lookup of the factors.
inductive RememberError where
  | invalid
  | expired
  | mismatch
  | storage (message : String)

def splitDot (cookie : List Char) : Option (List Char × List Char) := match cookie.span (fun c => c ≠ '.') with
  | (_,[]) => none
  | (front,_::back) => some (front,back)

def validateRememberDevice (crypto : DeviceCrypto) (cookie : List Char) (userAgent ip : String) (now : DateTime) :
    Except RememberError RememberedDevicePayload := do
  let (payloadB64,tagB64) ← (splitDot cookie).elim (.error .invalid) .ok
  let payloadBytes ← (crypto.decode payloadB64).elim (.error .invalid) .ok
  let expectedTag ← (crypto.decode tagB64).elim (.error .invalid) .ok
  if crypto.sign payloadBytes ≠ expectedTag then .error .invalid
  else do
    let payload ← (crypto.parse payloadBytes).elim (.error .invalid) .ok
    if payload.v ≠ 1 then .error .invalid
    else if ¬ now < payload.exp then .error .expired
    else if payload.uaHash ≠ crypto.hashUserAgent userAgent ∨ payload.ipPrefix ≠ crypto.ipPrefix ip then .error .mismatch
    else .ok payload

def acceptRememberDevice (crypto : DeviceCrypto) (fault : Option String) (store : FactorStore) (cookie : List Char)
    (userAgent ip : String) (now : DateTime) : Except RememberError (Uuid × Uuid) := do
  let payload ← validateRememberDevice crypto cookie userAgent ip now
  match fault with
  | some message => .error (.storage message)
  | none =>
    match store.factors.find? (fun row => row.userId == payload.userId && row.id == payload.factorId && row.revokedAt.isNone) with
    | none => .error .mismatch
    | some factor => .ok (payload.userId,factor.id)

section Calls

variable (keys : Keys) (env : Env)

inductive LoginOutcome where
  | authenticated (user : User)
  | factorRequired (user : User) (challenge : TwoFactorChallenge)

def findLogin (usernameOrEmail : String) : Prog Tables IdentityError User := do
  let named ← Accounts.query env.accounts .findByUsername (fun t => t.findByUsername usernameOrEmail)
  match named with
  | some user => return user
  | none => do
    let mailed ← Accounts.query env.accounts .findByEmail (fun t => t.findByEmail usernameOrEmail)
    reads (fun _ => mailed.elim (.error .invalidCredentials) .ok)

def remembered (user : User) (ip userAgent : Option String) (cookie : Option (List Char)) : Prog Panel IdentityError Bool :=
  reads (fun p => .ok (cookie.any (fun text =>
    match acceptRememberDevice keys.device (env.fault .rememberedFactors) p.factors text (userAgent.getD "") (ip.getD "") env.now with
    | .ok (cookieUserId,_) => cookieUserId == user.key
    | .error _ => false)))

def login (usernameOrEmail password : String) (ip userAgent : Option String) (rememberDevice : Option (List Char)) :
    Prog Panel IdentityError LoginOutcome := do
  let user ← onAccounts id (findLogin env usernameOrEmail)
  if user.isDisabled then throw .accountDisabled
  else do
    let verified ← reads (fun _ => (keys.verifyPassword user.passwordHash password).mapError .persistence)
    if !verified then throw .invalidCredentials
    else do
      let hasFactor ← asks env .listFactors .persistence (fun p => hasActiveFactor p.factors user.key)
      if hasFactor then do
        let skip ← remembered keys env user ip userAgent rememberDevice
        if skip then do
          onAccounts id (openSession env user ip userAgent)
          return .authenticated user
        else do
          let challenge ← issueLoginChallenge env .persistence user.key
          return .factorRequired user challenge
      else do
        onAccounts id (openSession env user ip userAgent)
        return .authenticated user

def verifyRun (crypto : TwoFactorCrypto) (faults : Nat → Fault) : Nat → FactorStore → VerifyPoint → FactorStore × VerifyPoint
  | 0,store,point => (store,point)
  | n + 1,store,point => match point.step crypto store (faults n) with
    | none => (store,point)
    | some (next,target) => verifyRun crypto faults n next target

def verifyResult : VerifyPoint → Except TwoFactorError Accepted
  | .verified _ accepted => .ok accepted
  | .failed error => .error error
  | _ => .error .invalidCode

def verifyLoginChallenge (call : LoginCall) : Prog Panel TwoFactorError Accepted := fun p =>
  let (store,point) := verifyRun keys.twoFactor env.verifyFault 9 p.factors (.token call)
  (verifyResult point,{p with factors := store})

def twoFactorText : TwoFactorError → String
  | .noFactor => "no enrolled factor"
  | .invalidCode => "invalid factor code"
  | .codeReplayed => "factor code replayed"
  | .revoked => "factor has been revoked"
  | .factorNotFound => "factor not found for user"
  | .storage message => "storage failure: " ++ message
  | .webAuthnUnavailable => "WebAuthn is not configured"
  | .webAuthnCeremony message => "WebAuthn ceremony: " ++ message
  | .webAuthnCeremonyExpired => "WebAuthn ceremony expired"

def mapVerifyError : TwoFactorError → IdentityError
  | .invalidCode => .invalidCredentials
  | .codeReplayed => .invalidCredentials
  | .noFactor => .invalidCredentials
  | .revoked => .invalidCredentials
  | other => .persistence (twoFactorText other)

def verifyLoginFactorWithFactor (challengeId : Uuid) (challengeToken : String) (response : FactorResponse)
    (ip userAgent : Option String) : Prog Panel IdentityError (User × Option Uuid) := do
  let accepted ← rescue (verifyLoginChallenge keys env ⟨challengeId,challengeToken,response,env.now⟩) (fun e => throw (mapVerifyError e))
  let user ← onAccounts id (Accounts.findUser env.accounts accepted.userId)
  if user.isDisabled then throw .accountDisabled
  else do
    onAccounts id (openSession env user ip userAgent)
    return (user,accepted.factorId)

inductive CallbackOutcome where
  | session (mfaSatisfied : Bool)
  | factorRequired (challenge : TwoFactorChallenge)

def persistence : IdentityError → SsoError
  | .persistence message => .persistence message
  | _ => .persistence ""

/-- The row is deleted whether or not it is there, and before its expiry is read. -/
def takeState (state : String) : Prog Panel SsoError (Option SsoLoginState) := do
  let row ← asks env .selectState .persistence (fun p => p.states.find? (fun row => row.state == state))
  statement env .deleteState .persistence (fun p => .ok ((),{p with states := p.states.filter (fun row => row.state != state)}))
  reads (fun _ => match row with
    | none => .ok none
    | some row => match Calendar.read (Calendar.text row.expiresAt) with
      | none => .error (.persistence "input contains invalid characters")
      | some expiresAt => .ok (some {row with expiresAt}))

def SsoLoginState.validateState (outstanding : SsoLoginState) (state : String) (now : DateTime) : Except SsoError Unit :=
  if outstanding.state ≠ state then .error .stateMismatch
  else if outstanding.expiresAt ≤ now then .error .stateExpired
  else .ok ()

def provisionedUser (connection : SsoConnection) (claims : OidcClaims) : Except SsoError User := do
  let stem := (claims.subject.toList.filter isAsciiAlphanumeric).take 12
  let username := "sso-" ++ String.ofList stem
  let email ← (Email.new (claims.email.getD (username ++ "@sso.local"))).mapError (fun _ => .invalidConfig "provider email invalid")
  let uname ← (Username.new username).mapError (fun _ => .invalidConfig "derived username invalid")
  let password ← env.passwordHash.mapError .invalidConfig
  .ok ⟨⟨env.userId,uname,email,connection.defaultRole,none,none,env.now⟩,password,none,none⟩

def linkedUser (connection : SsoConnection) (claims : OidcClaims) : Prog Panel SsoError Uuid := do
  let issuer := keys.toLowercase claims.issuer
  let existing ← asks env .findIdentity .persistence (fun p => p.findIdentity issuer claims.subject)
  match existing with
  | some identity => return identity.userId
  | none =>
    if !connection.autoProvision then throw .provisionDisabled
    else do
      let user ← reads (fun _ => provisionedUser env connection claims)
      onAccounts persistence (Accounts.write env.accounts .insertUser (fun t => t.insertUser user))
      statement env .saveIdentity .persistence (fun p => .ok ((),p.saveIdentity ⟨issuer,claims.subject,user.key⟩))
      return user.key

def callback (code stateParam : String) (ip userAgent : Option String) : Prog Panel SsoError CallbackOutcome := do
  let configured ← asks env .getConnection .persistence (fun p => p.connection)
  let connection ← reads (fun _ => configured.elim (.error .discovery) .ok)
  let taken ← takeState env stateParam
  let outstanding ← reads (fun _ => taken.elim (.error .stateMismatch) .ok)
  reads (fun _ => outstanding.validateState stateParam env.now)
  let claims ← reads (fun _ => keys.exchange connection code outstanding.pkceVerifier outstanding.nonce)
  let userId ← linkedUser keys env connection claims
  let found ← onAccounts persistence (Accounts.query env.accounts .findById (fun t => t.findById userId))
  let user ← reads (fun _ => found.elim (.error .linkConflict) .ok)
  let hasFactor ← (if connection.mfaSatisfied then pure false
    else asks env .listFactors .invalidConfig (fun p => hasActiveFactor p.factors user.key))
  if hasFactor then do
    let challenge ← issueLoginChallenge env .invalidConfig user.key
    return .factorRequired challenge
  else do
    onAccounts persistence (insertSession env user ip userAgent)
    return .session connection.mfaSatisfied

inductive Entry where
  | login (usernameOrEmail password : String) (ip userAgent : Option String) (rememberDevice : Option (List Char))
  | verify (challengeId : Uuid) (challengeToken : String) (response : FactorResponse) (ip userAgent : Option String)
  | callback (code stateParam : String) (ip userAgent : Option String)

structure Request where
  env : Env
  entry : Entry

def serve (p : Panel) (request : Request) : Panel := match request.entry with
  | .login name password ip userAgent cookie => (exec (login keys request.env name password ip userAgent cookie) p).2
  | .verify challengeId token response ip userAgent =>
    (exec (verifyLoginFactorWithFactor keys request.env challengeId token response ip userAgent) p).2
  | .callback code state ip userAgent => (exec (callback keys request.env code state ip userAgent) p).2

def history (p : Panel) (requests : List Request) : Panel := requests.foldl (serve keys) p

end Calls
end OpenPanel.Login
