import OpenPanel.CredentialCipher
import OpenPanel.LoginService

/-! The client secret of the identity provider's connection. A plaintext and an envelope come
in one field and are told apart by their shape. -/
namespace OpenPanel.Login
open Fallible (bindOk)
open Identity (Role)
open Dns (Bytes CredentialCipher hexEncode hexDecode asBytes)

structure Aead extends Dns.Aes256Gcm where
  tag : ∀ key nonce plain ciphered, encrypt key nonce plain = some ciphered → ciphered.length = plain.length + 16

abbrev Nonce := {bytes : Bytes // bytes.length = 12}

inductive ConfigureError where
  | forbidden
  | sso (error : SsoError)

def looksLikeCipher (value : String) : Bool :=
  let parts := value.toList.splitOn ':'
  parts.length == 2 && parts.all (fun part => !part.isEmpty && part.all (fun c => (hexValue c).isSome))

def SsoConnection.validate (connection : SsoConnection) : Except SsoError Unit :=
  if connection.issuerUrl = "" ∨ 512 < connection.issuerUrl.utf8ByteSize ∨
      ¬ ("https://".toList.isPrefixOf connection.issuerUrl.toList ∨ "http://".toList.isPrefixOf connection.issuerUrl.toList) then
    .error (.invalidConfig "issuer_url must be an http(s) URL")
  else if connection.clientId = "" ∨ 256 < connection.clientId.utf8ByteSize then .error (.invalidConfig "client_id is required")
  else if !looksLikeCipher connection.clientSecretCipher then
    .error (.invalidConfig "client secret must be stored as hex(nonce):hex(ciphertext)")
  else .ok ()

variable (aes : Aead) (key : CredentialCipher)

def encryptToStorage (nonce : Nonce) (plaintext : String) : Except SsoError String :=
  match aes.encrypt key.key nonce (asBytes plaintext) with
  | none => .error (.invalidConfig "encryption error: aead::Error")
  | some ciphertext => .ok (String.ofList (hexEncode nonce ++ ':'::hexEncode ciphertext))

def decryptFromStorage (stored : String) : Option String :=
  match stored.toList.dropWhile (· != ':') with
  | [] => none
  | _::ciphertext => key.decryptHex aes.toAes256Gcm (stored.toList.takeWhile (· != ':')) ciphertext

def sealSecret (nonce : Nonce) (connection : SsoConnection) : Except SsoError SsoConnection := do
  let secret ← (if looksLikeCipher connection.clientSecretCipher then .ok connection.clientSecretCipher
    else encryptToStorage aes key nonce connection.clientSecretCipher)
  let connection := {connection with clientSecretCipher := secret}
  connection.validate
  return connection

def configure (nonce : Nonce) (fault : Option String) (caller : Role) (connection : SsoConnection) (p : Panel) :
    Panel × Except ConfigureError SsoConnection :=
  if caller ≠ .owner then (p,.error .forbidden)
  else match sealSecret aes key nonce connection with
    | .error e => (p,.error (.sso e))
    | .ok connection => match fault with
      | some message => (p,.error (.sso (.persistence message)))
      | none => ({p with connection := some connection},.ok connection)

variable {aes key}

theorem hexLength (decoded : hexDecode text = some bytes) : text.length = 2 * bytes.length := by
  fun_induction hexDecode text generalizing bytes with
  | case1 => cases decoded; rfl
  | case2 => cases decoded
  | case3 a b rest ih =>
    simp only [Option.bind_eq_bind,Option.bind_eq_some_iff] at decoded
    obtain ⟨_,_,_,_,later,again,made⟩ := decoded
    cases made
    simp only [List.length_cons,ih again]
    omega

theorem charsLeBytes (text) : text.toList.length ≤ (asBytes text).length := by
  change _ ≤ text.utf8ByteSize
  rw [← text.ofList_toList]
  generalize text.toList = chars
  induction chars with
  | nil => simp
  | cons c rest ih =>
    have positive := c.utf8Size_pos
    simp at *
    omega

theorem encryptedOpens (made : encryptToStorage aes key nonce plaintext = .ok stored) :
    decryptFromStorage aes key stored = some plaintext := by
  unfold encryptToStorage at made
  split at made <;> cases made
  rename_i ciphertext ran
  have front : ∀ c ∈ hexEncode nonce, (c != ':') = true := fun c mem => bne_iff_ne.mpr (Dns.hexPlain mem).1
  rw [decryptFromStorage,String.toList_ofList,List.takeWhile_append_of_pos front,List.dropWhile_append_of_pos front]
  simpa using Dns.decryptSealed nonce.2 ran

-- An envelope is longer than what it holds.
theorem opensOther (text) : decryptFromStorage aes key text ≠ some text := by
  intro opened
  have whole := congrArg List.length (List.takeWhile_append_dropWhile (p := (· != ':')) (l := text.toList))
  unfold decryptFromStorage at opened
  split at opened <;> try contradiction
  rename_i rest
  simp only [CredentialCipher.decryptHex,Option.bind_eq_bind,Option.bind_eq_some_iff] at opened
  obtain ⟨nonce,_,opened⟩ := opened
  split at opened <;> try contradiction
  simp only [Option.bind_eq_some_iff] at opened
  obtain ⟨ciphered,back,bytes,opened,read⟩ := opened
  have longer := aes.tag _ _ _ _ ((aes.authentic ..).mp opened)
  have shorter := charsLeBytes text
  rw [Dns.utf8Iff.mp read] at shorter
  rw [rest,List.length_append,List.length_cons,hexLength back] at whole
  omega

theorem validatedLooks {stored : SsoConnection} (ok : stored.validate = .ok ()) : looksLikeCipher stored.clientSecretCipher = true := by
  unfold SsoConnection.validate at ok
  split at ok <;> try contradiction
  split at ok <;> try contradiction
  split at ok <;> try contradiction
  rename_i looks
  simpa using looks

theorem sealSecretOk (made : sealSecret aes key nonce connection = .ok stored) : stored.validate = .ok () ∧
    if looksLikeCipher connection.clientSecretCipher then stored = connection
    else encryptToStorage aes key nonce connection.clientSecretCipher = .ok stored.clientSecretCipher := by
  obtain ⟨secret,chosen,made⟩ := bindOk made
  obtain ⟨_,valid,made⟩ := bindOk made
  cases made
  refine ⟨valid,?_⟩
  split at chosen
  · rename_i looks
    cases chosen
    rw [if_pos looks]
  · rename_i plain
    rw [if_neg plain]
    exact chosen

theorem sealAgain (nonce) (valid : stored.validate = .ok ()) : sealSecret aes key nonce stored = .ok stored := by
  simp only [sealSecret,validatedLooks valid,if_true,bind,Except.bind,valid]
  rfl

theorem configured (saved : configure aes key nonce fault .owner connection p = (next,.ok stored)) :
    sealSecret aes key nonce connection = .ok stored ∧ next = {p with connection := some stored} := by
  rw [configure,if_neg (by decide)] at saved
  split at saved
  · cases saved
  · rename_i made
    split at saved <;> cases saved
    exact ⟨made,rfl⟩

/-- What is stored opens to what was submitted exactly when that does not have an envelope's shape. -/
theorem secretsSealed (aes : Aead) (key : CredentialCipher) (nonce : Nonce) (fault : Option String) (connection : SsoConnection) (p : Panel) :
    (∀ stored next, configure aes key nonce fault .owner connection p = (next,.ok stored) →
      next.connection = some stored ∧ decryptFromStorage aes key stored.clientSecretCipher = some connection.clientSecretCipher ∧
      ∀ other, configure aes key other none .owner stored next = (next,.ok stored)) ↔
    ((∃ stored next, configure aes key nonce fault .owner connection p = (next,.ok stored)) →
      looksLikeCipher connection.clientSecretCipher = false) := by
  constructor
  · rintro safe ⟨stored,next,saved⟩
    have opened := (safe stored next saved).2.1
    have kept := (sealSecretOk (configured saved).1).2
    refine Bool.eq_false_of_not_eq_true (fun looks => ?_)
    rw [if_pos looks] at kept
    subst kept
    exact opensOther _ opened
  · intro plain stored next saved
    obtain ⟨made,rfl⟩ := configured saved
    obtain ⟨valid,kept⟩ := sealSecretOk made
    rw [if_neg (by simp [plain ⟨stored,_,saved⟩])] at kept
    refine ⟨rfl,encryptedOpens kept,fun other => ?_⟩
    rw [configure,if_neg (by decide),sealAgain other valid]

def zeroTag : Aead where
  encrypt _ _ plain := some (List.replicate 16 0 ++ plain)
  decrypt _ _ ciphered := if List.replicate 16 0 <+: ciphered then some (ciphered.drop 16) else none
  authentic _ _ := Dns.untagged (List.replicate 16 0)
  tag key nonce plain ciphered made := by
    cases made
    rw [List.length_append,List.length_replicate,Nat.add_comm]

def hexPair : SsoConnection := ⟨"https://idp.test","panel","c0ffee:5ec2e7",.user,false,false⟩

theorem plaintextStored : decryptFromStorage zeroTag Dns.zeroCipher hexPair.clientSecretCipher = none ∧
    ∀ p, configure zeroTag Dns.zeroCipher ⟨List.replicate 12 0,rfl⟩ none .owner hexPair p =
      ({p with connection := some hexPair},.ok hexPair) := by
  have valid : hexPair.validate = .ok () := rfl
  refine ⟨by decide +kernel,fun p => ?_⟩
  rw [configure,if_neg (by decide),sealAgain _ valid]

end OpenPanel.Login
