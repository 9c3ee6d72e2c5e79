import OpenPanel.DnsService

/-! The cipher of stored provider credentials. AES-256-GCM is a parameter: what opens under a
key and nonce is exactly what was sealed there. The nonce `encrypt` draws is given. -/
namespace OpenPanel.Dns

abbrev Bytes := List UInt8

structure Aes256Gcm where
  encrypt : Bytes → Bytes → Bytes → Option Bytes
  decrypt : Bytes → Bytes → Bytes → Option Bytes
  authentic : ∀ key nonce plain ciphered, decrypt key nonce ciphered = some plain ↔ encrypt key nonce plain = some ciphered

def hexEncode (bytes : Bytes) : List Char := bytes.flatMap (fun b => [hexDigit (b.toNat / 16),hexDigit (b.toNat % 16)])

def hexDecode : List Char → Option Bytes
  | [] => some []
  | [_] => none
  | a::b::rest => do
    let high ← hexValue a
    let low ← hexValue b
    let bytes ← hexDecode rest
    return UInt8.ofNat (16 * high + low)::bytes

def asBytes (text : String) : Bytes := text.toUTF8.data.toList

def fromUtf8 (bytes : Bytes) : Option String := String.fromUTF8? ⟨bytes.toArray⟩

structure CredentialCipher where
  key : Bytes
  valid : key.length = 32

namespace CredentialCipher

def new (key : Bytes) : Except DnsServiceError CredentialCipher :=
  if valid : key.length = 32 then .ok ⟨key,valid⟩ else .error .crypto

variable (aes : Aes256Gcm) (cipher : CredentialCipher)

def encrypt (nonce : Bytes) (plaintext : String) : Except DnsServiceError (List Char) :=
  match aes.encrypt cipher.key nonce (asBytes plaintext) with
  | none => .error .crypto
  | some ciphertext => .ok (hexEncode nonce ++ ':'::hexEncode ciphertext)

def decryptHex (nonce ciphertext : List Char) : Option String := do
  let nonce ← hexDecode nonce
  if nonce.length ≠ 12 then none
  else
    let ciphertext ← hexDecode ciphertext
    let plaintext ← aes.decrypt cipher.key nonce ciphertext
    fromUtf8 plaintext

def decrypt (stored : List Char) : Except DnsServiceError String :=
  if "test:".toList.isPrefixOf stored then .ok (String.ofList (stored.drop 5))
  else match stored.dropWhile (· != ':') with
    | [] => .error .crypto
    | _::ciphertext => match decryptHex aes cipher (stored.takeWhile (· != ':')) ciphertext with
      | none => .error .crypto
      | some plaintext => .ok plaintext

end CredentialCipher

theorem hexDecoded (bytes) : hexDecode (hexEncode bytes) = some bytes := by
  induction bytes with
  | nil => rfl
  | cons b rest ih =>
    have high : b.toNat / 16 < 16 := Nat.div_lt_of_lt_mul b.toNat_lt
    have same : hexEncode (b::rest) = hexDigit (b.toNat / 16)::hexDigit (b.toNat % 16)::hexEncode rest := rfl
    rw [same,hexDecode,hexValueDigit high,hexValueDigit (Nat.mod_lt _ (by decide)),ih]
    exact congrArg (fun b => some (b::rest)) ((congrArg UInt8.ofNat (Nat.div_add_mod ..)).trans UInt8.ofNat_toNat)

theorem hexPlain (mem : c ∈ hexEncode bytes) : c ≠ ':' ∧ c ≠ 't' ∧ c.isUpper = false := by
  have digit : ∀ n < 16, hexDigit n ≠ ':' ∧ hexDigit n ≠ 't' ∧ (hexDigit n).isUpper = false := by decide
  obtain ⟨b,_,inside⟩ := List.mem_flatMap.mp mem
  rcases List.mem_pair.mp inside with rfl | rfl
  · exact digit _ (Nat.div_lt_of_lt_mul b.toNat_lt)
  · exact digit _ (Nat.mod_lt _ (by decide))

theorem hexCanonical (value : hexValue c = some n) : n < 16 ∧ (hexDigit n = c ↔ c.isUpper = false) := by
  have small : c.toNat < 103 := by
    unfold hexValue at value
    grind
  have all : ∀ k < 103, (hexValue (Char.ofNat k)).all (fun n =>
      n < 16 ∧ (hexDigit n = Char.ofNat k ↔ (Char.ofNat k).isUpper = false)) = true := by decide
  have here := all c.toNat small
  rw [Char.ofNat_toNat,value] at here
  exact of_decide_eq_true here

theorem hexEncoded (decoded : hexDecode text = some bytes) : hexEncode bytes = text ↔ ∀ c ∈ text, c.isUpper = false := by
  fun_induction hexDecode text generalizing bytes with
  | case1 =>
    cases decoded
    simp [hexEncode]
  | case2 => cases decoded
  | case3 a b rest ih =>
    simp only [Option.bind_eq_bind,Option.bind_eq_some_iff] at decoded
    obtain ⟨high,first,low,second,later,again,made⟩ := decoded
    cases made
    obtain ⟨less,upper⟩ := hexCanonical first
    obtain ⟨small,lower⟩ := hexCanonical second
    have same : (UInt8.ofNat (16 * high + low)).toNat = 16 * high + low := UInt8.toNat_ofNat_of_lt' (by change _ < 256; omega)
    have whole : hexEncode (UInt8.ofNat (16 * high + low)::later) = hexDigit high::hexDigit low::hexEncode later := by
      rw [hexEncode,List.flatMap_cons,same,show (16 * high + low) / 16 = high by omega,show (16 * high + low) % 16 = low by omega]
      rfl
    rw [whole]
    simp only [List.cons.injEq,List.forall_mem_cons,upper,lower,ih again]

theorem utf8Iff : fromUtf8 bytes = some text ↔ asBytes text = bytes := by
  unfold fromUtf8 String.fromUTF8? asBytes
  constructor
  · intro read
    split at read <;> cases read
    rfl
  · rintro rfl
    exact dif_pos text.isValidUTF8

theorem encryptPlain (drawn : nonce.length = 12) (made : CredentialCipher.encrypt aes cipher nonce plaintext = .ok stored) :
    ∃ ciphertext, aes.encrypt cipher.key nonce (asBytes plaintext) = some ciphertext ∧
      stored = hexEncode nonce ++ ':'::hexEncode ciphertext ∧ ¬ "test:".toList <+: stored ∧ ∀ c ∈ stored, c.isUpper = false := by
  unfold CredentialCipher.encrypt at made
  split at made <;> cases made
  rename_i ciphertext ran
  refine ⟨ciphertext,ran,rfl,?_,?_⟩
  · rintro ⟨rest,same⟩
    cases nonce with
    | nil => cases drawn
    | cons b more => exact (@hexPlain [b] _ List.mem_cons_self).2.1 (List.cons.inj same).1.symm
  · simp only [List.mem_append,List.mem_cons]
    rintro c (front | rfl | back)
    · exact (hexPlain front).2.2
    · decide
    · exact (hexPlain back).2.2

theorem decryptSealed {cipher : CredentialCipher} (drawn : nonce.length = 12)
    (ran : aes.encrypt cipher.key nonce (asBytes plaintext) = some ciphertext) :
    cipher.decryptHex aes (hexEncode nonce) (hexEncode ciphertext) = some plaintext := by
  simp [CredentialCipher.decryptHex,hexDecoded,drawn,(aes.authentic ..).mpr ran,utf8Iff]

theorem credentialsAuthentic (aes : Aes256Gcm) (cipher : CredentialCipher) :
    (∀ nonce plaintext stored, nonce.length = 12 → cipher.encrypt aes nonce plaintext = .ok stored →
      cipher.decrypt aes stored = .ok plaintext) ∧
    ∀ stored plaintext, cipher.decrypt aes stored = .ok plaintext →
      ((∃ nonce, nonce.length = 12 ∧ cipher.encrypt aes nonce plaintext = .ok stored) ↔
        ¬ "test:".toList <+: stored ∧ ∀ c ∈ stored, c.isUpper = false) := by
  refine ⟨fun nonce plaintext stored drawn made => ?_,fun stored plaintext opened => ?_⟩
  · obtain ⟨ciphertext,ran,same,plain,_⟩ := encryptPlain drawn made
    have front : ∀ c ∈ hexEncode nonce, (c != ':') = true := fun c mem => bne_iff_ne.mpr (hexPlain mem).1
    rw [CredentialCipher.decrypt,if_neg (by simpa using plain),same,List.takeWhile_append_of_pos front,List.dropWhile_append_of_pos front]
    simp [decryptSealed drawn ran]
  · refine ⟨fun ⟨nonce,drawn,made⟩ => (encryptPlain drawn made).choose_spec.2.2,fun ⟨plain,lower⟩ => ?_⟩
    have whole := List.takeWhile_append_dropWhile (p := (· != ':')) (l := stored)
    have first := List.head?_dropWhile_not (· != ':') stored
    rw [CredentialCipher.decrypt,if_neg (by simpa using plain)] at opened
    split at opened <;> try contradiction
    rename_i colon ciphertext rest
    split at opened <;> cases opened
    rename_i found
    simp only [CredentialCipher.decryptHex,Option.bind_eq_bind,Option.bind_eq_some_iff] at found
    obtain ⟨nonce,front,found⟩ := found
    split at found <;> try contradiction
    rename_i drawn
    simp only [Option.bind_eq_some_iff] at found
    obtain ⟨ciphered,back,bytes,opened,read⟩ := found
    rw [rest] at whole first
    obtain rfl : colon = ':' := by simpa using first
    rw [← whole] at lower
    have left := (hexEncoded front).mpr (fun c mem => lower c (List.mem_append_left _ mem))
    have right := (hexEncoded back).mpr (fun c mem => lower c (List.mem_append_right _ (List.mem_cons_of_mem _ mem)))
    refine ⟨nonce,not_not.mp drawn,?_⟩
    rw [CredentialCipher.encrypt,utf8Iff.mp read,(aes.authentic ..).mp opened]
    simp only [left,right,whole]

theorem untagged (tag plain ciphered : List UInt8) :
    (if tag <+: ciphered then some (ciphered.drop tag.length) else none) = some plain ↔ some (tag ++ plain) = some ciphered := by
  constructor
  · intro opened
    split at opened <;> cases opened
    rename_i start
    exact congrArg some (List.prefix_iff_eq_append.mp start)
  · intro made
    cases made
    simp

def tagged : Aes256Gcm where
  encrypt key _ plain := some (key ++ plain)
  decrypt key _ ciphered := if key <+: ciphered then some (ciphered.drop key.length) else none
  authentic key _ := untagged key

def zeroCipher : CredentialCipher := ⟨List.replicate 32 0,by decide⟩

theorem unsealedAccepted : zeroCipher.decrypt tagged "test:token".toList = .ok "token" ∧
    ¬∃ nonce, nonce.length = 12 ∧ zeroCipher.encrypt tagged nonce "token" = .ok "test:token".toList :=
  ⟨by decide,fun ⟨_,drawn,made⟩ => (encryptPlain drawn made).choose_spec.2.2.1 (by decide)⟩

end OpenPanel.Dns
