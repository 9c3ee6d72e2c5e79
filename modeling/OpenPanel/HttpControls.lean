import OpenPanel.WafRules

/-! The document of a site's HTTP controls and the snippet it compiles to. An
address is read by the standard library, whose reader is a parameter; what it
accepts is written in hexadecimal digits, dots and colons. -/
namespace OpenPanel.HttpControls
open Fallible (bindOk)
open Nginx (chars)
open Waf (decimal)

inductive SiteHttpError where
  | forbidden
  | siteNotFound (id : Uuid)
  | invalid (detail : String)
  | pathOutsideSite
  | redirectLoop
  | persistence (detail : String)
  deriving DecidableEq

inductive RedirectStatus where | movedPermanently | found | temporaryRedirect | permanentRedirect deriving DecidableEq

def RedirectStatus.code : RedirectStatus → Nat
  | .movedPermanently => 301
  | .found => 302
  | .temporaryRedirect => 307
  | .permanentRedirect => 308

def RedirectStatus.fromCode (code : Nat) : Option RedirectStatus :=
  if code = 301 then some .movedPermanently
  else if code = 302 then some .found
  else if code = 307 then some .temporaryRedirect
  else if code = 308 then some .permanentRedirect
  else none

inductive IpEffect where | allow | deny deriving DecidableEq

inductive Family where | v4 | v6

def addressChar (c : Char) : Bool := isAsciiHexdigit c || c == '.' || c == ':'

/-- `str::parse::<IpAddr>`, as far as the family it finds. -/
structure AddressReader where
  read : List Char → Option Family
  plain : ∀ text family, read text = some family → text ≠ [] ∧ ∀ c ∈ text, addressChar c = true

def noAddresses : AddressReader := ⟨fun _ => none,nofun⟩

structure ErrorPageOverride where
  status : Nat
  documentPath : List Char
  deriving DecidableEq

structure RedirectRule where
  ordinal : Nat
  sourcePrefix : List Char
  destination : List Char
  status : RedirectStatus
  deriving DecidableEq

structure BasicAuthAccount where
  name : List Char
  passwordHash : List Char
  deriving DecidableEq

structure ProtectedDir where
  pathPrefix : List Char
  realm : List Char
  accounts : List BasicAuthAccount
  deriving DecidableEq

structure HotlinkPolicy where
  allowedReferers : List (List Char)
  defaultDeny : Bool
  deriving DecidableEq

structure ClientIpRule where
  ordinal : Nat
  cidr : List Char
  effect : IpEffect
  deriving DecidableEq

structure MimeOverride where
  extension : List Char
  mimeType : List Char
  deriving DecidableEq

structure IndexPolicy where
  order : List (List Char)
  autoindex : Bool
  deriving DecidableEq

structure SiteHttpControls where
  siteId : Uuid
  version : Nat
  errorPages : List ErrorPageOverride
  redirects : List RedirectRule
  protectedDirs : List ProtectedDir
  hotlink : Option HotlinkPolicy
  ipRules : List ClientIpRule
  mimeOverrides : List MimeOverride
  indexPolicy : Option IndexPolicy
  deriving DecidableEq

abbrev Check := Except SiteHttpError Unit

def require (holds : Bool) (e : SiteHttpError) : Check := if holds then .ok () else .error e

theorem requireOk (ok : require holds e = .ok ()) : holds = true := by
  unfold require at ok
  split at ok <;> try contradiction
  assumption

def sitePath (value : List Char) (max : Nat) : Bool :=
  value.head? == some '/' && byteLength value ≤ max && !value.contains (Char.ofNat 0) && !value.contains '\\' &&
    (value.splitOn '/').all (fun segment => segment != ['.','.'])

def validateSitePath (value : List Char) (max : Nat) : Check := require (sitePath value max) .pathOutsideSite

def plainReserved (c : Char) : Bool := [';',Char.ofNat 123,Char.ofNat 125,'"','\n','\r',Char.ofNat 0].contains c

def plainValue (value : List Char) (max : Nat) : Bool :=
  value ≠ [] && byteLength value ≤ max && value.all (fun c => !plainReserved c)

def validatePlain (value : List Char) (max : Nat) : Check :=
  require (plainValue value max) (.invalid "value contains unsafe characters")

def ErrorPageOverride.validate (page : ErrorPageOverride) : Check := do
  require (400 ≤ page.status && page.status ≤ 599 && page.status != 401 && (RedirectStatus.fromCode page.status).isNone)
    (.invalid "error-page status must be a 4xx/5xx code other than 401 and non-redirect")
  validateSitePath page.documentPath 512

def httpUrl (value : List Char) : Bool := (chars "http://").isPrefixOf value || (chars "https://").isPrefixOf value

def RedirectRule.validate (rule : RedirectRule) : Check := do
  validateSitePath rule.sourcePrefix 512
  require (!rule.sourcePrefix.contains '%') (.invalid "source prefix must not contain percent escapes")
  require (rule.destination.head? == some '/' && sitePath rule.destination 1024 ||
      httpUrl rule.destination && plainValue rule.destination 1024)
    (.invalid "destination must be a site-root-relative path or an http(s) URL")

def RedirectRule.loopsWith (a b : RedirectRule) : Bool := a.sourcePrefix == b.destination || b.sourcePrefix == a.destination

def accountChar (c : Char) : Bool := isAsciiAlphanumeric c || ['_','.','@','-'].contains c

def BasicAuthAccount.validate (account : BasicAuthAccount) : Check := do
  require (account.name ≠ [] && account.name.length ≤ 64 && account.name.all accountChar)
    (.invalid "invalid basic-auth account name")
  require (59 ≤ byteLength account.passwordHash && ((chars "$2a$").isPrefixOf account.passwordHash ||
      (chars "$2b$").isPrefixOf account.passwordHash || (chars "$2y$").isPrefixOf account.passwordHash))
    (.invalid "password must be a bcrypt hash, never plaintext")

-- `for x in xs { x.validate()? }`.
def validateEach {α : Type} (check : α → Check) : List α → Check
  | [] => .ok ()
  | x::rest => do
    check x
    validateEach check rest

def ProtectedDir.validate (dir : ProtectedDir) : Check := do
  validateSitePath dir.pathPrefix 512
  require (dir.accounts ≠ [] && dir.accounts.length ≤ 64) (.invalid "a protected directory needs 1–64 accounts")
  validatePlain dir.realm 128
  validateEach BasicAuthAccount.validate dir.accounts

def refererChar (c : Char) : Bool := isAsciiAlphanumeric c || ['.','-','*',':'].contains c

def HotlinkPolicy.validate (policy : HotlinkPolicy) : Check := do
  require (policy.allowedReferers.length ≤ 64) (.invalid "at most 64 allowed referers")
  validateEach (fun referer => require (referer ≠ [] && referer.length ≤ 253 && referer.all refererChar)
    (.invalid "allowed referer must be a host suffix")) policy.allowedReferers

def prefixFits (family : Family) (length : Nat) : Bool :=
  match family with
  | .v4 => length ≤ 32
  | .v6 => length ≤ 128

def ClientIpRule.validate (reader : AddressReader) (rule : ClientIpRule) : Check :=
  match rule.cidr.span (fun c => c != '/') with
  | (address,_::length) => match reader.read address with
    | none => .error (.invalid "invalid CIDR address")
    | some family => match parseUnsigned 256 length with
      | none => .error (.invalid "invalid CIDR prefix length")
      | some bits => require (prefixFits family bits) (.invalid "CIDR prefix length exceeds address size")
  | (address,[]) => match reader.read address with
    | none => .error (.invalid "invalid CIDR address")
    | some _ => .ok ()

def mimeChar (c : Char) : Bool := isAsciiAlphanumeric c || ['/','-','+','.','_'].contains c

def MimeOverride.validate (mime : MimeOverride) : Check := do
  require (mime.extension ≠ [] && mime.extension.length ≤ 32 && mime.extension.head? != some '.' &&
      mime.extension.all (fun c => isAsciiLowercase c || isAsciiDigit c))
    (.invalid "extension must be lowercase alphanumeric without dot")
  let parts := mime.mimeType.span (fun c => c != '/')
  require (mime.mimeType.length ≤ 128 && parts.1 ≠ [] && parts.2.drop 1 ≠ [] && mime.mimeType.all mimeChar)
    (.invalid "mime_type must look like type/subtype")

def indexChar (c : Char) : Bool := !(['/',';',Char.ofNat 123,Char.ofNat 125,Char.ofNat 0].contains c)

def IndexPolicy.validate (policy : IndexPolicy) : Check := do
  require (policy.order ≠ [] && policy.order.length ≤ 16) (.invalid "index order needs 1–16 entries")
  validateEach (fun entry => require (entry ≠ [] && byteLength entry ≤ 128 && entry.head? != some '/' && entry.all indexChar)
    (.invalid "index entries must be plain file names")) policy.order

def validateDistinct {α κ : Type} [DecidableEq κ] (check : α → Check) (key : α → κ) (detail : String) :
    List κ → List α → Check
  | _,[] => .ok ()
  | seen,x::rest => do
    check x
    if key x ∈ seen then .error (.invalid detail) else validateDistinct check key detail (key x::seen) rest

-- `(ordinal, source_prefix)`, texts being compared by their code points.
def inOrder (a b : RedirectRule) : Prop :=
  a.ordinal < b.ordinal ∨ a.ordinal = b.ordinal ∧ ¬ b.sourcePrefix < a.sourcePrefix

instance (a b) : Decidable (inOrder a b) := by unfold inOrder; infer_instance

-- `windows(2)`: a rule against the next one.
def loopFree : List RedirectRule → Bool
  | a::b::rest => !a.loopsWith b && loopFree (b::rest)
  | _ => true

def validateOption {α : Type} (check : α → Check) (x : Option α) : Check :=
  match x with
  | none => .ok ()
  | some a => check a

theorem eachValid {xs} (ok : validateEach check xs = .ok ()) : ∀ x ∈ xs, check x = .ok () := by
  induction xs with
  | nil => simp
  | cons x rest ih =>
    obtain ⟨_,first,ok⟩ := bindOk ok
    intro y mem
    rcases List.mem_cons.mp mem with rfl | old
    · exact first
    · exact ih ok y old

theorem distinctValid [DecidableEq κ] {check : α → Check} {key : α → κ} {detail seen xs}
    (ok : validateDistinct check key detail seen xs = .ok ()) : ∀ x ∈ xs, check x = .ok () := by
  induction xs generalizing seen with
  | nil => simp
  | cons x rest ih =>
    obtain ⟨_,first,ok⟩ := bindOk ok
    split at ok <;> try contradiction
    intro y mem
    rcases List.mem_cons.mp mem with rfl | old
    · exact first
    · exact ih ok y old

namespace SiteHttpControls

def validated (reader : AddressReader) (c : SiteHttpControls) : Except SiteHttpError SiteHttpControls := do
  require (c.version ≠ 0) (.invalid "version must be positive")
  require (c.errorPages.length ≤ 32) (.invalid "at most 32 error-page overrides")
  validateDistinct ErrorPageOverride.validate ErrorPageOverride.status "duplicate error-page status" [] c.errorPages
  require (c.redirects.length ≤ 64) (.invalid "at most 64 redirect rules")
  validateEach RedirectRule.validate c.redirects
  require (loopFree (c.redirects.insertionSort inOrder)) .redirectLoop
  require (c.protectedDirs.length ≤ 32) (.invalid "at most 32 protected directories")
  validateDistinct ProtectedDir.validate ProtectedDir.pathPrefix "duplicate protected directory prefix" [] c.protectedDirs
  validateOption HotlinkPolicy.validate c.hotlink
  require (c.ipRules.length ≤ 64) (.invalid "at most 64 client-IP rules")
  validateEach (ClientIpRule.validate reader) c.ipRules
  require (c.mimeOverrides.length ≤ 64) (.invalid "at most 64 MIME overrides")
  validateDistinct MimeOverride.validate MimeOverride.extension "duplicate MIME override extension" [] c.mimeOverrides
  validateOption IndexPolicy.validate c.indexPolicy
  return {c with redirects := c.redirects.insertionSort inOrder}

def isEmpty (c : SiteHttpControls) : Bool :=
  c.errorPages.isEmpty && c.redirects.isEmpty && c.protectedDirs.isEmpty && c.hotlink.isNone && c.ipRules.isEmpty &&
    c.mimeOverrides.isEmpty && c.indexPolicy.isNone

structure Valid (reader : AddressReader) (c : SiteHttpControls) : Prop where
  errorPages : ∀ page ∈ c.errorPages, page.validate = .ok ()
  redirects : ∀ rule ∈ c.redirects, rule.validate = .ok ()
  protectedDirs : ∀ dir ∈ c.protectedDirs, dir.validate = .ok ()
  hotlink : validateOption HotlinkPolicy.validate c.hotlink = .ok ()
  ipRules : ∀ rule ∈ c.ipRules, rule.validate reader = .ok ()
  mimeOverrides : ∀ mime ∈ c.mimeOverrides, mime.validate = .ok ()
  indexPolicy : validateOption IndexPolicy.validate c.indexPolicy = .ok ()

theorem validatedValid {c checked : SiteHttpControls} (ok : c.validated reader = .ok checked) :
    checked.siteId = c.siteId ∧ Valid reader checked := by
  obtain ⟨_,_,ok⟩ := bindOk ok
  obtain ⟨_,_,ok⟩ := bindOk ok
  obtain ⟨_,errorPages,ok⟩ := bindOk ok
  obtain ⟨_,_,ok⟩ := bindOk ok
  obtain ⟨_,redirects,ok⟩ := bindOk ok
  obtain ⟨_,_,ok⟩ := bindOk ok
  obtain ⟨_,_,ok⟩ := bindOk ok
  obtain ⟨_,protectedDirs,ok⟩ := bindOk ok
  obtain ⟨_,hotlink,ok⟩ := bindOk ok
  obtain ⟨_,_,ok⟩ := bindOk ok
  obtain ⟨_,ipRules,ok⟩ := bindOk ok
  obtain ⟨_,_,ok⟩ := bindOk ok
  obtain ⟨_,mimeOverrides,ok⟩ := bindOk ok
  obtain ⟨_,indexPolicy,ok⟩ := bindOk ok
  cases Except.ok.inj ok
  exact ⟨rfl,distinctValid errorPages,
    fun rule mem => eachValid redirects rule ((List.mem_insertionSort inOrder).mp mem),distinctValid protectedDirs,hotlink,
    eachValid ipRules,distinctValid mimeOverrides,indexPolicy⟩

end SiteHttpControls

def indexLines (policy : IndexPolicy) : List Char :=
  chars "index " ++ [' '].intercalate policy.order ++ chars ";\nautoindex " ++
    (if policy.autoindex then chars "on" else chars "off") ++ chars ";\n"

def errorPageLine (page : ErrorPageOverride) : List Char :=
  chars "error_page " ++ decimal page.status ++ chars " " ++ page.documentPath ++ chars ";\n"

def rewriteLine (rule : RedirectRule) (flag : List Char) : List Char :=
  chars "rewrite ^" ++ rule.sourcePrefix ++ chars "(.*)$ " ++ rule.destination ++ chars "$1 " ++ flag ++ chars ";\n"

def returnLine (rule : RedirectRule) : List Char :=
  chars "location ^~ " ++ rule.sourcePrefix ++ chars " \x7b return " ++ decimal rule.status.code ++ chars " " ++
    rule.destination ++ chars "$request_uri; \x7d\n"

def redirectLine (rule : RedirectRule) : List Char :=
  match rule.status with
  | .movedPermanently => rewriteLine rule (chars "permanent")
  | .found => rewriteLine rule (chars "redirect")
  | .temporaryRedirect | .permanentRedirect => returnLine rule

def protectedLines (htpasswdPrefix : List Char) (indexed : ProtectedDir × Nat) : List Char :=
  chars "location ^~ " ++ indexed.1.pathPrefix ++ chars " \x7b\n    auth_basic \"" ++ indexed.1.realm ++
    chars "\";\n    auth_basic_user_file " ++ htpasswdPrefix ++ chars "/" ++ decimal indexed.2 ++
    chars ".htpasswd;\n\x7d\n"

def hotlinkLines (policy : HotlinkPolicy) : List Char :=
  if policy.defaultDeny then
    chars "valid_referers " ++ [' '].intercalate (chars "none blocked server_names"::policy.allowedReferers) ++
      chars ";\nif ($invalid_referer) \x7b return 403; \x7d\n"
  else []

def ipLine (rule : ClientIpRule) : List Char :=
  (match rule.effect with
    | .allow => chars "allow "
    | .deny => chars "deny ") ++ rule.cidr ++ chars ";\n"

def mimeLine (mime : MimeOverride) : List Char :=
  chars "location ~* \\." ++ mime.extension ++ chars "$ \x7b types \x7b \x7d default_type " ++ mime.mimeType ++ chars "; \x7d\n"

def header (c : SiteHttpControls) : List Char :=
  chars "# openpanel-http-controls site=" ++ chars c.siteId.hyphenated ++ chars " rev=" ++ decimal c.version ++ ['\n']

def compile (htpasswdPrefix : List Char) (c : SiteHttpControls) : List Char :=
  if c.isEmpty then []
  else header c ++ c.indexPolicy.toList.flatMap indexLines ++ c.errorPages.flatMap errorPageLine ++
    c.redirects.flatMap redirectLine ++ c.protectedDirs.zipIdx.flatMap (protectedLines htpasswdPrefix) ++
    c.hotlink.toList.flatMap hotlinkLines ++ c.ipRules.flatMap ipLine ++
    (if c.ipRules.any (fun rule => rule.effect == .allow) then chars "deny all;\n" else []) ++
    c.mimeOverrides.flatMap mimeLine

end OpenPanel.HttpControls
