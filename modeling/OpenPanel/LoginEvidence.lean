import OpenPanel.LoginService

/-! What stands behind a session: the call that opened it had authenticated the
session's user, and where the user has an active factor also a factor of the user,
a cookie bound to one, or a provider trusted with it. -/
namespace OpenPanel.Login
open Fallible
open Accounts (User Session Tables IdentityError)
open TwoFactor (FactorStore TwoFactorError TwoFactorCrypto TwoFactorChallenge FactorResponse LoginCall VerifyPoint Accepted Fault
  WebAuthnCredential)

section Evidence

variable (keys : Keys)

def Presented (store : FactorStore) (call : LoginCall) (user : Uuid) : Prop :=
  ∃ challenge, store.findChallenge call.challengeId = some challenge ∧ challenge.userId = user ∧
    keys.twoFactor.verifyToken challenge.tokenHash call.token = true ∧ challenge.isUsable call.now = true

def TotpAnswer (store : FactorStore) (user : Uuid) (code : List Char) (now : DateTime) : Prop :=
  ∃ factor encrypted result, store.findActiveTotpFactor user = some factor ∧
    store.findTotpSecretEncrypted factor.id = some encrypted ∧ TwoFactor.verifyTotp keys.twoFactor factor encrypted code now = .ok result

def RecoveryAnswer (store : FactorStore) (user : Uuid) (code : String) : Prop :=
  ∃ row ∈ store.recoveryCodes, row.userId = user ∧ row.consumedAt = none ∧ keys.twoFactor.verifyRecovery code row.codeHash = true

def PasskeyAnswer (store : FactorStore) (user : Uuid) (ceremonyId : Uuid) (response : String) (now : DateTime) : Prop :=
  ∃ ceremony id counter, ∃ passkey : WebAuthnCredential, store.findWebAuthnChallenge ceremonyId = some ceremony ∧
    ceremony.isUsable now = true ∧ ceremony.kind = .assertion ∧ keys.twoFactor.finishAssert response ceremony.stateJson = .ok (id,counter) ∧
    store.findWebAuthnCredentialById id = some passkey ∧ passkey.userId = user ∧ passkey.recordAssertion counter = .ok ()

def Answered (store : FactorStore) (call : LoginCall) (user : Uuid) : Prop := match call.response with
  | .totp code => TotpAnswer keys store user code call.now
  | .recovery code => RecoveryAnswer keys store user code
  | .webAuthn ceremonyId response => PasskeyAnswer keys store user ceremonyId response call.now

def DeviceRemembered (store : FactorStore) (cookie : Option (List Char)) (userAgent ip : Option String) (now : DateTime) (user : Uuid) : Prop :=
  ∃ text payload, cookie = some text ∧
    validateRememberDevice keys.device text (userAgent.getD "") (ip.getD "") now = .ok payload ∧ payload.userId = user ∧
    ∃ row ∈ store.factors, row.id = payload.factorId ∧ row.userId = user ∧ row.revokedAt = none

/-- The identity is linked to the user, or it is linked to nobody and the user is made for it by this call. -/
def LinkedTo (p : Panel) (env : Env) (connection : SsoConnection) (claims : OidcClaims) (user : Uuid) : Prop :=
  match p.findIdentity (keys.toLowercase claims.issuer) claims.subject with
  | some identity => identity.userId = user
  | none => connection.autoProvision = true ∧ user = env.userId ∧ ∀ row ∈ p.accounts.users, row.key ≠ user

def ProviderVouches (p : Panel) (env : Env) (code state : String) (user : Uuid) : Prop :=
  ∃ connection, p.connection = some connection ∧ ∃ outstanding ∈ p.states, outstanding.state = state ∧ env.now < outstanding.expiresAt ∧
    ∃ claims, keys.exchange connection code outstanding.pkceVerifier outstanding.nonce = .ok claims ∧
      LinkedTo keys p env connection claims user

def Request.call (request : Request) (challengeId : Uuid) (token : String) (response : FactorResponse) : LoginCall :=
  ⟨challengeId,token,response,request.env.now⟩

def Primary (p : Panel) (request : Request) (user : Uuid) : Prop := match request.entry with
  | .login name password _ _ _ => ∃ row ∈ p.accounts.users, row.key = user ∧ (row.username.text = name ∨ row.email.text = name) ∧
      keys.verifyPassword row.passwordHash password = .ok true
  | .verify challengeId token response _ _ => Presented keys p.factors (request.call challengeId token response) user
  | .callback code state _ _ => ProviderVouches keys p request.env code state user

def Secondary (p : Panel) (request : Request) (user : Uuid) : Prop := match request.entry with
  | .login _ _ ip userAgent cookie => DeviceRemembered keys p.factors cookie userAgent ip request.env.now user
  | .verify challengeId token response _ _ => Answered keys p.factors (request.call challengeId token response) user
  | .callback _ _ _ _ => ∃ connection, p.connection = some connection ∧ connection.trustIdpMfa = true

def Backed (p : Panel) (request : Request) (user : Uuid) : Prop :=
  Primary keys p request user ∧ (hasActiveFactor p.factors user = true → Secondary keys p request user)

end Evidence

def Grown (user : Uuid) (t next : Tables) : Prop :=
  ∀ session ∈ next.sessions, (∃ old ∈ t.sessions, old.id = session.id ∧ old.userId = session.userId) ∨ session.userId = user

theorem insertGrown (ok : t.insertSession session = .ok next) : Grown session.userId t next := by
  unfold Tables.insertSession at ok
  split at ok <;> try contradiction
  split at ok <;> try contradiction
  split at ok <;> try contradiction
  cases ok
  intro s mem
  rcases List.mem_append.mp mem with old | new
  · exact .inl ⟨s,old,rfl,rfl⟩
  · exact .inr (by rw [List.mem_singleton.mp new])

theorem Grown.touch {user id now next} (grown : Grown user t next) : Grown user t (next.touch id now) := by
  intro s mem
  rcases Rows.memUpdate mem with ⟨old,_⟩ | ⟨r,old,_,rfl⟩
  · exact grown s old
  · exact grown r old

theorem insertSessionEnds : Ends (insertSession env user ip userAgent) t
    (fun _ next => Grown user.key t next) (fun _ next => next = t) :=
  Accounts.writes (fun _ _ ok => insertGrown ok) (fun _ _ => rfl)

theorem openSessionEnds : Ends (openSession env user ip userAgent) t
    (fun _ next => Grown user.key t next) (fun _ next => next = t) := by
  refine .after insertSessionEnds (fun _ mid grown => ?_) (fun _ _ same => same)
  refine .andThen (.quietly (Accounts.writes (fun next _ ok => ?_) (fun _ _ => ?_)))
  · cases ok
    refine .quietly (Accounts.writes (fun next _ ok => ?_) (fun _ _ => grown.touch))
    cases ok
    exact grown.touch
  · refine .quietly (Accounts.writes (fun next _ ok => ?_) (fun _ _ => grown))
    cases ok
    exact grown

theorem statementEnds {post : α → Panel → Prop}
    (done : ∀ a next, run p = .ok (a,next) → post a next) (stopped : ∀ e, failed e p) :
    Ends (statement env which report run) p post failed := by
  refine .attempts (fun a next ran => ?_) (fun e _ => stopped e)
  split at ran
  · cases ran
  · exact done a next (mapErrorOk ran)

theorem asksEnds : Ends (asks env which report select) p (fun a next => a = select p ∧ next = p) (fun _ next => next = p) := by
  refine statementEnds (fun a next ran => ?_) (fun _ => rfl)
  cases ran
  exact ⟨rfl,rfl⟩

theorem onAccountsEnds
    (ends : Ends prog p.accounts (fun a next => post a {p with accounts := next}) (fun e next => failed (report e) {p with accounts := next})) :
    Ends (onAccounts report prog) p post failed := Ends.within ends

theorem findsLogin : Ends (findLogin env name) t
    (fun user next => next = t ∧ user ∈ t.users ∧ (user.username.text = name ∨ user.email.text = name)) (fun _ next => next = t) := by
  refine .andThen (Accounts.queries (fun _ => ?_) (fun _ _ => rfl))
  cases named : t.findByUsername name with
  | some user => exact .returns ⟨rfl,(Rows.found named).1,.inl (Rows.found named).2⟩
  | none =>
    refine .andThen (Accounts.queries (fun _ => ?_) (fun _ _ => rfl))
    cases mailed : t.findByEmail name with
    | none => exact .checks (fun _ absurd => by cases absurd) (fun _ _ => rfl)
    | some user =>
      exact .knows rfl ⟨rfl,(Rows.found mailed).1,.inr (Rows.found mailed).2⟩

theorem issueEnds : Leaves (issueLoginChallenge env report user) p (fun next => next.accounts = p.accounts) := by
  refine statementEnds (fun a next ran => ?_) (fun _ => rfl)
  split at ran <;> cases ran
  rfl

theorem elimOk (ok : found.elim (.error e) Except.ok = .ok a) : found = some a := by
  cases found with
  | none => cases ok
  | some b =>
    cases ok
    rfl

section Login

variable {keys : Keys}

theorem acceptedDevice (ok : acceptRememberDevice keys.device fault store cookie userAgent ip now = .ok (user,factor)) :
    ∃ payload, validateRememberDevice keys.device cookie userAgent ip now = .ok payload ∧ payload.userId = user ∧
      ∃ row ∈ store.factors, row.id = payload.factorId ∧ row.userId = user ∧ row.revokedAt = none := by
  obtain ⟨payload,valid,rest⟩ := bindOk ok
  split at rest
  · cases rest
  · split at rest
    · cases rest
    · rename_i row found
      cases rest
      have hit := List.find?_some found
      simp only [Bool.and_eq_true,beq_iff_eq,Option.isNone_iff_eq_none] at hit
      exact ⟨payload,valid,rfl,row,List.mem_of_find?_eq_some found,hit.1.2,hit.1.1,hit.2⟩

theorem loginEnds (same : ∀ next, next.accounts = p.accounts → left next)
    (opened : ∀ user ∈ p.accounts.users, (user.username.text = name ∨ user.email.text = name) →
      keys.verifyPassword user.passwordHash password = .ok true →
      (hasActiveFactor p.factors user.key = true → DeviceRemembered keys p.factors cookie userAgent ip env.now user.key) →
      ∀ next, Grown user.key p.accounts next → left {p with accounts := next}) :
    Leaves (login keys env name password ip userAgent cookie) p left := by
  refine .andThen (onAccountsEnds (findsLogin.weaken ?_ (fun _ _ kept => same _ kept)))
  rintro user _ ⟨rfl,mem,named⟩
  refine .branch (fun _ => .fails (same _ rfl)) (fun _ => ?_)
  refine .asks (fun verified ok => ?_) (fun _ _ => same _ rfl)
  refine .branch (fun _ => .fails (same _ rfl)) (fun right => ?_)
  have matched : keys.verifyPassword user.passwordHash password = .ok true := by
    have value := mapErrorOk ok
    simpa [value] using right
  have finish : (hasActiveFactor p.factors user.key = true → DeviceRemembered keys p.factors cookie userAgent ip env.now user.key) →
      Leaves (do
        onAccounts id (openSession env user ip userAgent)
        return LoginOutcome.authenticated user) p left := by
    intro second
    refine .andThen (onAccountsEnds (openSessionEnds.weaken (fun _ next grown => ?_) (fun _ _ kept => same _ kept)))
    exact .returns (opened user mem named matched second next grown)
  refine .after asksEnds ?_ (fun _ _ kept => same _ (kept ▸ rfl))
  rintro hasFactor _ ⟨rfl,rfl⟩
  refine .branch (fun active => ?_) (fun inactive => finish (fun active => absurd active inactive))
  refine .asks (fun skip known => ?_) (fun _ impossible => by cases impossible)
  cases known
  refine .branch (fun skipped => finish (fun _ => ?_)) (fun _ => ?_)
  · cases cookie with
    | none => cases skipped
    | some text =>
      rw [Option.any_some] at skipped
      split at skipped
      · rename_i cookieUserId factor ok
        obtain ⟨payload,valid,owner,row⟩ := acceptedDevice ok
        have own : cookieUserId = user.key := by simpa using skipped
        subst own
        exact ⟨text,payload,rfl,valid,owner,row⟩
      · cases skipped
  · refine .after issueEnds (fun _ next kept => ?_) (fun _ next kept => same next kept)
    exact .returns (same next kept)

end Login

section Verification

variable {keys : Keys}

def Checked (keys : Keys) (store0 : FactorStore) (call : LoginCall) (store : FactorStore) : VerifyPoint → Prop
  | .token c => c = call ∧ store = store0
  | .challenge c => c = call ∧ store = store0 ∧
      (store0.findChallenge call.challengeId).any (fun row => keys.twoFactor.verifyToken row.tokenHash call.token) = true
  | .activeTotp c user code => c = call ∧ store = store0 ∧ Presented keys store0 call user ∧ call.response = .totp code
  | .totpSecret c user code factor => c = call ∧ store = store0 ∧ Presented keys store0 call user ∧ call.response = .totp code ∧
      store0.findActiveTotpFactor user = some factor
  | .recoveryCodes c user code => c = call ∧ store = store0 ∧ Presented keys store0 call user ∧ call.response = .recovery code
  | .ceremony c user ceremonyId response => c = call ∧ store = store0 ∧ Presented keys store0 call user ∧
      call.response = .webAuthn ceremonyId response
  | .useCeremony c user ceremony response => c = call ∧ store = store0 ∧ Presented keys store0 call user ∧
      ∃ ceremonyId, call.response = .webAuthn ceremonyId response ∧ store0.findWebAuthnChallenge ceremonyId = some ceremony ∧
        ceremony.isUsable call.now = true
  | .credential c user id counter => c = call ∧ store.credentials = store0.credentials ∧ Presented keys store0 call user ∧
      ∃ ceremonyId response ceremony, call.response = .webAuthn ceremonyId response ∧
        store0.findWebAuthnChallenge ceremonyId = some ceremony ∧ ceremony.isUsable call.now = true ∧ ceremony.kind = .assertion ∧
        keys.twoFactor.finishAssert response ceremony.stateJson = .ok (id,counter)
  | .touch c user passkey _ => c = call ∧ Presented keys store0 call user ∧ (passkey.userId = user → Answered keys store0 call user)
  | .storeStep c user _ _ => c = call ∧ Presented keys store0 call user ∧ Answered keys store0 call user
  | .useRecovery c user _ => c = call ∧ Presented keys store0 call user ∧ Answered keys store0 call user
  | .consume c accepted => c = call ∧ Presented keys store0 call accepted.userId ∧ Answered keys store0 call accepted.userId
  | .mark c accepted => c = call ∧ Presented keys store0 call accepted.userId ∧ Answered keys store0 call accepted.userId
  | .auditSuccess c accepted => c = call ∧ Presented keys store0 call accepted.userId ∧ Answered keys store0 call accepted.userId
  | .verified c accepted => c = call ∧ Presented keys store0 call accepted.userId ∧ Answered keys store0 call accepted.userId
  | .auditFailure _ => True
  | .failed _ => True

theorem tokenChecked : Checked keys store0 call store0 (.token call) := ⟨rfl,rfl⟩

theorem brokenChecked {point target : VerifyPoint}
    (broken : point.breakOff message = some target) : Checked keys store0 call store target := by
  cases point <;> cases broken <;> trivial

theorem respondChecked (presented : Presented keys store0 call user) :
    Checked keys store0 call store0 (VerifyPoint.respond call user) := by
  unfold VerifyPoint.respond
  split
  · exact ⟨rfl,rfl,presented,by assumption⟩
  · exact ⟨rfl,rfl,presented,by assumption⟩
  · exact ⟨rfl,rfl,presented,by assumption⟩

theorem assertedChecked (presented : Presented keys store0 call user) (answer : call.response = .webAuthn ceremonyId response)
    (found : store0.findWebAuthnChallenge ceremonyId = some started) (usable : started.isUsable call.now = true)
    (kept : store.credentials = store0.credentials) :
    Checked keys store0 call store (VerifyPoint.asserted keys.twoFactor call user started response) := by
  unfold VerifyPoint.asserted
  split
  · trivial
  · rename_i kind
    split
    · trivial
    · rename_i finished
      exact ⟨rfl,kept,presented,ceremonyId,response,started,answer,found,usable,Decidable.not_not.mp kind,finished⟩

theorem totpSecretChecked (checked : Checked keys store0 call store (.totpSecret c user code factor))
    (moved : VerifyPoint.advance keys.twoFactor store (.totpSecret c user code factor) = some (next,target)) :
    Checked keys store0 call next target := by
  obtain ⟨rfl,rfl,presented,answer,found⟩ := checked
  cases moved
  split
  · trivial
  · rename_i encrypted sealed
    split
    · trivial
    · rename_i verified
      refine ⟨rfl,presented,?_⟩
      rw [Answered,answer]
      exact ⟨factor,encrypted,_,found,sealed,verified⟩

theorem recoveryChecked (checked : Checked keys store0 call store (.recoveryCodes c user code))
    (moved : VerifyPoint.advance keys.twoFactor store (.recoveryCodes c user code) = some (next,target)) :
    Checked keys store0 call next target := by
  obtain ⟨rfl,rfl,presented,answer⟩ := checked
  cases moved
  split
  · trivial
  · rename_i row found
    have hit := List.find?_some found
    simp only [Bool.and_eq_true,beq_iff_eq,Option.isNone_iff_eq_none] at hit
    refine ⟨rfl,presented,?_⟩
    rw [Answered,answer]
    exact ⟨row,List.mem_of_find?_eq_some found,hit.1.1,hit.1.2,hit.2⟩

theorem credentialChecked {store next target c user id counter}
    (checked : Checked keys store0 call store (.credential c user id counter))
    (moved : VerifyPoint.advance keys.twoFactor store (.credential c user id counter) = some (next,target)) :
    Checked keys store0 call next target := by
  obtain ⟨rfl,kept,presented,ceremonyId,response,started,answer,found,usable,kind,finished⟩ := checked
  cases moved
  split
  · trivial
  · rename_i passkey owned
    split
    · trivial
    · rename_i recorded
      refine ⟨rfl,presented,fun own => ?_⟩
      have stored : store0.findWebAuthnCredentialById id = some passkey := by
        rw [FactorStore.findWebAuthnCredentialById,← kept]
        exact owned
      rw [Answered,answer]
      exact ⟨started,id,counter,passkey,found,usable,kind,finished,stored,own,recorded⟩

theorem checkedStep (checked : Checked keys store0 call store point)
    (moved : point.step keys.twoFactor store fault = some (next,target)) : Checked keys store0 call next target := by
  cases fault with
  | some message =>
    obtain ⟨_,broken,same⟩ := Option.map_eq_some_iff.mp moved
    cases same
    exact brokenChecked broken
  | none =>
    cases point with
    | token c =>
      obtain ⟨rfl,rfl⟩ := checked
      cases moved
      split
      · exact ⟨rfl,rfl,by assumption⟩
      · trivial
    | challenge c =>
      obtain ⟨rfl,rfl,known⟩ := checked
      cases moved
      split
      · trivial
      · rename_i pending found
        rw [found] at known
        split
        · trivial
        · rename_i usable
          exact respondChecked ⟨pending,found,rfl,known,by simpa using usable⟩
    | activeTotp c user code =>
      obtain ⟨rfl,rfl,presented,answer⟩ := checked
      cases moved
      split
      · trivial
      · exact ⟨rfl,rfl,presented,answer,by assumption⟩
    | totpSecret c user code factor => exact totpSecretChecked checked moved
    | storeStep c user factor step =>
      cases moved
      exact checked
    | recoveryCodes c user code => exact recoveryChecked checked moved
    | useRecovery c user id =>
      cases moved
      exact checked
    | ceremony c user ceremonyId response =>
      obtain ⟨rfl,rfl,presented,answer⟩ := checked
      cases moved
      split
      · trivial
      · rename_i started found
        split
        · trivial
        · rename_i usable
          exact ⟨rfl,rfl,presented,ceremonyId,answer,found,by simpa using usable⟩
    | useCeremony c user started response =>
      obtain ⟨rfl,rfl,presented,ceremonyId,answer,found,usable⟩ := checked
      cases moved
      split
      · exact assertedChecked presented answer found usable rfl
      · trivial
    | credential c user id counter => exact credentialChecked checked moved
    | touch c user passkey counter =>
      obtain ⟨rfl,presented,answered⟩ := checked
      cases moved
      split
      · trivial
      · rename_i own
        exact ⟨rfl,presented,answered (Decidable.not_not.mp own)⟩
    | consume c accepted =>
      cases moved
      split
      · exact checked
      · split
        · exact checked
        · exact checked
    | mark c accepted =>
      cases moved
      exact checked
    | auditSuccess c accepted =>
      cases moved
      exact checked
    | auditFailure error =>
      cases moved
      trivial
    | verified c accepted => cases moved
    | failed error => cases moved

theorem checkedRun (checked : Checked keys store0 call store point) :
    Checked keys store0 call (verifyRun keys.twoFactor faults n store point).1 (verifyRun keys.twoFactor faults n store point).2 := by
  induction n generalizing store point with
  | zero => exact checked
  | succ n ih =>
    rw [verifyRun]
    split
    · exact checked
    · exact ih (checkedStep checked (by assumption))

theorem resultChecked (checked : Checked keys store0 call store point)
    (ok : verifyResult point = .ok accepted) : Presented keys store0 call accepted.userId ∧ Answered keys store0 call accepted.userId := by
  cases point <;> cases ok
  exact checked.2

theorem verifies : Ends (verifyLoginChallenge keys env call) p
    (fun accepted next => next.accounts = p.accounts ∧ Presented keys p.factors call accepted.userId ∧
      Answered keys p.factors call accepted.userId) (fun _ next => next.accounts = p.accounts) := by
  refine .observed (fun accepted next ran => ?_) (fun _ next ran => ?_)
  · have ok : verifyResult (verifyRun keys.twoFactor env.verifyFault 9 p.factors (.token call)).2 = .ok accepted := congrArg Prod.fst ran
    cases congrArg Prod.snd ran
    exact ⟨rfl,resultChecked (checkedRun tokenChecked) ok⟩
  · cases congrArg Prod.snd ran
    rfl

theorem verifyEnds (same : ∀ next, next.accounts = p.accounts → left next)
    (opened : ∀ user, Presented keys p.factors ⟨challengeId,token,response,env.now⟩ user →
      Answered keys p.factors ⟨challengeId,token,response,env.now⟩ user → ∀ next, Grown user p.accounts next.accounts → left next) :
    Leaves (verifyLoginFactorWithFactor keys env challengeId token response ip userAgent) p left := by
  refine .andThen (.rescues (verifies.weaken ?_ (fun _ next kept => .fails (same next kept))))
  rintro accepted mid ⟨kept,presented,answered⟩
  refine .andThen (onAccountsEnds (Accounts.findsUser.weaken ?_ (fun _ _ failed => same _ (failed.1.trans kept))))
  rintro user _ ⟨rfl,_,found⟩
  refine .branch (fun _ => .fails (same _ kept)) (fun _ => ?_)
  refine .andThen (onAccountsEnds (openSessionEnds.weaken (fun _ next grown => ?_) (fun _ _ still => same _ (still.trans kept))))
  rw [(Accounts.foundUser found).2] at grown
  exact .returns (opened accepted.userId presented answered _ (kept ▸ grown))

end Verification
section Callback

variable {keys : Keys} {p : Panel}

theorem insertUserFresh {t next : Tables} (ok : t.insertUser user = .ok next) :
    next.sessions = t.sessions ∧ ∀ row ∈ t.users, row.key ≠ user.key := by
  unfold Tables.insertUser at ok
  split at ok <;> try contradiction
  rename_i fresh
  split at ok <;> try contradiction
  split at ok <;> try contradiction
  cases ok
  exact ⟨rfl,by simpa using fresh⟩

theorem provisionedKey (ok : provisionedUser env connection claims = .ok user) : user.key = env.userId := by
  obtain ⟨email,_,ok⟩ := bindOk ok
  obtain ⟨username,_,ok⟩ := bindOk ok
  obtain ⟨password,_,ok⟩ := bindOk ok
  cases ok
  rfl

theorem takesState : Ends (takeState env state) p (fun taken next => (∃ states, next = {p with states := states}) ∧
      ∀ outstanding, taken = some outstanding → outstanding ∈ p.states ∧ outstanding.state = state)
    (fun _ next => next.accounts = p.accounts) := by
  refine .after asksEnds ?_ (fun _ _ kept => kept ▸ rfl)
  rintro row _ ⟨rfl,rfl⟩
  refine .andThen (statementEnds (fun _ next ran => ?_) (fun _ => rfl))
  cases ran
  refine .checks (fun taken ok => ⟨⟨_,rfl⟩,fun outstanding known => ?_⟩) (fun _ _ => rfl)
  subst known
  split at ok
  · cases ok
  · rename_i row found
    rw [Calendar.readTextIff] at ok
    split at ok
    · cases ok
    · rename_i expiresAt readable
      split at readable
      · cases readable
        cases ok
        exact Rows.found found
      · cases readable

theorem linksUser : Ends (linkedUser keys env connection claims) p
    (fun user next => next.accounts.sessions = p.accounts.sessions ∧ next.factors = p.factors ∧ LinkedTo keys p env connection claims user)
    (fun _ next => next.accounts.sessions = p.accounts.sessions) := by
  refine .after asksEnds ?_ (fun _ _ kept => kept ▸ rfl)
  rintro existing p ⟨rfl,rfl⟩
  cases linked : p.findIdentity (keys.toLowercase claims.issuer) claims.subject with
  | some identity => exact .returns ⟨rfl,rfl,by rw [LinkedTo,linked]⟩
  | none =>
    refine .branch (fun _ => .fails rfl) (fun allowed => ?_)
    refine .asks (fun user made => ?_) (fun _ _ => rfl)
    refine .andThen (onAccountsEnds (Accounts.writes (fun next _ ok => ?_) (fun _ _ => rfl)))
    obtain ⟨kept,fresh⟩ := insertUserFresh ok
    refine .andThen (statementEnds (fun _ saved ran => ?_) (fun _ => kept))
    cases ran
    refine .returns ⟨kept,rfl,?_⟩
    rw [LinkedTo,linked]
    exact ⟨by simpa using allowed,provisionedKey made,fresh⟩

theorem validState {outstanding : SsoLoginState} (ok : outstanding.validateState state now = .ok ()) : now < outstanding.expiresAt := by
  unfold SsoLoginState.validateState at ok
  split at ok
  · cases ok
  · split at ok
    · cases ok
    · exact Int.not_le.mp (by assumption)

theorem Grown.fromKept (kept : mid.sessions = t.sessions) (grown : Grown user mid next) : Grown user t next := by
  intro session mem
  have earlier := grown session mem
  rwa [kept] at earlier

def Vouched (keys : Keys) (p : Panel) (env : Env) (code state : String) (next : Panel) : Prop :=
  next.accounts.sessions = p.accounts.sessions ∨ ∃ user, ProviderVouches keys p env code state user ∧
    (hasActiveFactor p.factors user = true → ∃ connection, p.connection = some connection ∧ connection.trustIdpMfa = true) ∧
    Grown user p.accounts next.accounts

theorem callbackEnds : Leaves (callback keys env code state ip userAgent) p (Vouched keys p env code state) := by
  refine .after asksEnds ?_ (fun _ _ kept => .inl (kept ▸ rfl))
  rintro configured p ⟨rfl,rfl⟩
  refine .asks (fun connection ok => ?_) (fun _ _ => .inl rfl)
  have configured := elimOk ok
  refine .after takesState ?_ (fun _ _ kept => .inl (kept ▸ rfl))
  rintro taken _ ⟨⟨states,rfl⟩,outstanding⟩
  refine .asks (fun login ok => ?_) (fun _ _ => .inl rfl)
  obtain ⟨mem,own⟩ := outstanding login (elimOk ok)
  refine .asks (fun _ valid => ?_) (fun _ _ => .inl rfl)
  refine .asks (fun claims exchanged => ?_) (fun _ _ => .inl rfl)
  refine .after linksUser ?_ (fun _ _ kept => .inl kept)
  rintro userId mid ⟨kept,factors,linked⟩
  refine .andThen (onAccountsEnds (Accounts.queries (fun _ => ?_) (fun _ _ => .inl kept)))
  refine .asks (fun user ok => ?_) (fun _ _ => .inl kept)
  obtain ⟨_,rfl⟩ := Accounts.foundUser (elimOk ok)
  -- Without the provider's word for a second factor, the panel's own factors are asked for.
  have decided : Ends (if connection.mfaSatisfied then pure false
      else asks env .listFactors SsoError.invalidConfig (fun p => hasActiveFactor p.factors user.key)) mid
      (fun hasFactor next => next = mid ∧ (hasFactor = false → hasActiveFactor p.factors user.key = true → connection.trustIdpMfa = true))
      (fun _ next => next = mid) := by
    refine .branch (fun trusted => .returns ⟨rfl,fun _ _ => trusted⟩) (fun _ => asksEnds.gives ?_)
    rintro hasFactor next ⟨rfl,rfl⟩
    refine ⟨rfl,fun inactive active => ?_⟩
    rw [factors,active] at inactive
    cases inactive
  refine .after decided ?_ (fun _ _ still => .inl (still ▸ kept))
  rintro hasFactor mid ⟨rfl,second⟩
  refine .branch (fun _ => ?_) (fun inactive => ?_)
  · refine .after issueEnds (fun _ _ still => ?_) (fun _ _ still => .inl (still ▸ kept))
    exact .returns (.inl (still ▸ kept))
  · refine .andThen (onAccountsEnds (insertSessionEnds.weaken (fun _ next grown => ?_) (fun _ _ still => .inl (still ▸ kept))))
    refine .returns (.inr ⟨user.key,?_,fun active => ?_,grown.fromKept kept⟩)
    · exact ⟨connection,configured,login,mem,own,validState valid,claims,exchanged,linked⟩
    · exact ⟨connection,configured,second (Bool.eq_false_iff.mpr inactive) active⟩

end Callback

section Histories

variable {keys : Keys}

theorem grownBacked {p next : Panel} (backed : Backed keys p request user)
    (grown : Grown user p.accounts next.accounts) : ∀ session ∈ next.accounts.sessions,
      (∃ old ∈ p.accounts.sessions, old.id = session.id ∧ old.userId = session.userId) ∨ Backed keys p request session.userId := by
  intro session mem
  rcases grown session mem with old | own
  · exact .inl old
  · exact .inr (own ▸ backed)

theorem servedBacked (p) (request) : ∀ session ∈ (serve keys p request).accounts.sessions,
    (∃ old ∈ p.accounts.sessions, old.id = session.id ∧ old.userId = session.userId) ∨ Backed keys p request session.userId := by
  have kept : ∀ next : Panel, next.accounts.sessions = p.accounts.sessions → ∀ session ∈ next.accounts.sessions,
      (∃ old ∈ p.accounts.sessions, old.id = session.id ∧ old.userId = session.userId) ∨ Backed keys p request session.userId :=
    fun next same session mem => .inl ⟨session,same ▸ mem,rfl,rfl⟩
  obtain ⟨env,entry⟩ := request
  cases entry with
  | login name password ip userAgent cookie =>
    refine Ends.always (loginEnds (fun next same => kept next (same ▸ rfl)) (fun user mem named matched second next grown => ?_))
    exact grownBacked ⟨⟨user,mem,rfl,named,matched⟩,second⟩ grown
  | verify challengeId token response ip userAgent =>
    refine Ends.always (verifyEnds (fun next same => kept next (same ▸ rfl)) (fun user presented answered next grown => ?_))
    exact grownBacked ⟨presented,fun _ => answered⟩ grown
  | callback code state ip userAgent =>
    have outcome : Vouched keys p env code state (serve keys p ⟨env,.callback code state ip userAgent⟩) := Ends.always callbackEnds
    rcases outcome with same | ⟨user,vouched,second,grown⟩
    · exact kept _ same
    · exact grownBacked ⟨vouched,second⟩ grown

theorem sessionsNeedEveryFactor (keys : Keys) (p : Panel) (requests : List Request) :
    ∀ session ∈ (history keys p requests).accounts.sessions,
      (∃ old ∈ p.accounts.sessions, old.id = session.id ∧ old.userId = session.userId) ∨
      ∃ front request back, requests = front ++ request::back ∧ Backed keys (history keys p front) request session.userId := by
  induction requests using List.reverseRecOn with
  | nil => exact fun session mem => .inl ⟨session,mem,rfl,rfl⟩
  | append_singleton front request ih =>
    intro session mem
    rw [history,List.foldl_append] at mem
    rcases servedBacked _ request session mem with ⟨old,there,id,user⟩ | backed
    · rcases ih old there with ⟨first,present,id',user'⟩ | ⟨before,earlier,after,split,backed⟩
      · exact .inl ⟨first,present,id'.trans id,user'.trans user⟩
      · refine .inr ⟨before,earlier,after ++ [request],by simp [split],?_⟩
        rwa [← user]
    · exact .inr ⟨front,request,[],rfl,backed⟩

def deskKeys : Keys where
  verifyPassword hash text := .ok (hash == text)
  twoFactor := ⟨fun hash text => hash == text,.ok,fun _ => .error "",⟨fun _ _ => List.replicate 6 '4',fun _ _ => by decide⟩,
    fun code hash => code == hash,
    fun _ _ => .error .invalidCode,fun _ _ => .error .invalidCode⟩
  device := ⟨fun _ => none,id,fun _ => none,id,id⟩
  exchange _ _ _ _ := .error .discovery
  toLowercase := id

def deskEnv : Env := ⟨⟨60,0x61,"session",fun _ => none⟩,fun _ => none,fun _ => none,0x62,"challenge",300,0x63,.error ""⟩

def desk : Panel where
  accounts := ⟨[⟨⟨0x21,⟨"desk",by decide⟩,⟨"desk@panel.test",by decide⟩,.owner,none,none,0⟩,"open sesame",none,none⟩],[],by decide⟩
  factors := ⟨[⟨⟨0x22,0x21,.totp,none,none⟩,some ""⟩],[],[⟨0,0x21,"recovery",none⟩],1,[⟨0x23,0x21,"token",300,none⟩],[],[]⟩
  connection := none
  identities := []
  states := []

def recovering : Request := ⟨deskEnv,.verify 0x23 "token" (.recovery "recovery") none none⟩

theorem recoverySessionBacked : ∃ session ∈ (history deskKeys desk [recovering]).accounts.sessions, session.userId = 0x21 ∧
    ∃ front request back, [recovering] = front ++ request::back ∧ Backed deskKeys (history deskKeys desk front) request session.userId := by
  have opened : 0x21 ∈ (history deskKeys desk [recovering]).accounts.sessions.map Session.userId := by decide
  obtain ⟨session,mem,user⟩ := List.mem_map.mp opened
  rcases sessionsNeedEveryFactor deskKeys desk [recovering] session mem with ⟨old,there,_⟩ | backed
  · cases there
  · exact ⟨session,mem,user,backed⟩

end Histories

end OpenPanel.Login
