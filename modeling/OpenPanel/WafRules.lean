import OpenPanel.NginxTemplates

/-! Rule sets of the web application firewall and the snippet they compile to.
The fields every kind of rule has stand beside the kind. A set is read from a
document as it comes and validated afterwards. -/
namespace OpenPanel.Waf
open Fallible (bindOk)
open Nginx (chars)

inductive WafError where
  | forbidden
  | siteNotFound (id : Uuid)
  | invalid (detail : String)
  | compile (detail : String)
  | persistence (detail : String)
  deriving DecidableEq

inductive DefaultAction where | allow | challenge | deny deriving DecidableEq

inductive RuleAction where | allow | challenge | deny deriving DecidableEq

inductive HeaderChallenge where
  | tarpit
  | redirect (path : List Char)
  deriving DecidableEq

inductive RuleKind where
  | rateLimit (zone : List Char) (rate burst : Nat) (nodelay : Bool)
  | connLimit (zone : List Char) (perIp : Nat)
  | geoBlock (countries : List (List Char)) (action : RuleAction)
  | userAgentBlock (pattern : List Char) (action : RuleAction)
  | pathBlock (pattern : List Char) (method : Option (List Char)) (action : RuleAction)
  | headerChallenge (header value : List Char) (challenge : HeaderChallenge)
  | bodySizeCap (maxBytes : Nat)
  deriving DecidableEq

structure Rule where
  id : Uuid
  enabled : Bool
  priority : Nat
  hitCount : Nat
  lastTriggeredAt : Option DateTime
  kind : RuleKind
  deriving DecidableEq

def isAsciiUppercase (c : Char) : Bool := 65 ≤ c.toNat && c.toNat ≤ 90

def zoneChar (c : Char) : Bool := isAsciiAlphanumeric c || c == '_'

def validateZone (zone : List Char) : Except WafError Unit :=
  if zone = [] ∨ 48 < byteLength zone ∨ ¬ zone.all zoneChar then .error (.invalid "invalid nginx zone name") else .ok ()

def reserved (c : Char) : Bool := [';',Char.ofNat 123,Char.ofNat 125,'\n','\r',Char.ofNat 0].contains c

def validateLiteral (value : List Char) (max : Nat) (allowSpace : Bool) : Except WafError Unit :=
  if value ≠ [] ∧ byteLength value ≤ max ∧ value.all (fun c => !reserved c && (allowSpace || c != ' ')) then .ok ()
  else .error (.invalid "value contains unsafe nginx syntax")

def validatePath (value : List Char) (max : Nat) (detail : String) : Except WafError Unit := do
  validateLiteral value max true
  if value.head? = some '/' then .ok () else .error (.invalid detail)

def countryCode (country : List Char) : Bool := country.length == 2 && country.all isAsciiUppercase

def methodName (method : List Char) : Bool := method ≠ [] && method.length ≤ 16 && method.all isAsciiUppercase

def headerName (header : List Char) : Bool :=
  header ≠ [] && header.length ≤ 128 && header.all (fun c => isAsciiAlphanumeric c || c == '-')

def RuleKind.validate : RuleKind → Except WafError Unit
  | .rateLimit zone rate burst _ => do
    validateZone zone
    if rate = 0 ∨ 100000 < rate ∨ 1000000 < burst then .error (.invalid "rate or burst is out of range") else .ok ()
  | .connLimit zone perIp => do
    validateZone zone
    if perIp = 0 ∨ 1000000 < perIp then .error (.invalid "connection limit is out of range") else .ok ()
  | .geoBlock countries _ =>
    if countries = [] ∨ 249 < countries.length ∨ ¬ countries.all countryCode then
      .error (.invalid "country codes must be uppercase ISO alpha-2")
    else .ok ()
  | .userAgentBlock pattern _ => validateLiteral pattern 256 false
  | .pathBlock pattern method _ => do
    validatePath pattern 512 "path pattern must start with /"
    if method.all methodName then .ok () else .error (.invalid "method must be uppercase ASCII")
  | .headerChallenge header value challenge =>
    if headerName header then do
      validateLiteral value 256 false
      match challenge with
      | .tarpit => .ok ()
      | .redirect path => validatePath path 512 "redirect path must start with /"
    else .error (.invalid "invalid HTTP header name")
  | .bodySizeCap maxBytes =>
    if maxBytes = 0 ∨ 1024 * 1024 * 1024 < maxBytes then .error (.invalid "body-size cap is out of range") else .ok ()

def validateRules : List Uuid → List Rule → Except WafError Unit
  | _,[] => .ok ()
  | seen,rule::rest => do
    rule.kind.validate
    if rule.id ∈ seen then .error (.invalid "duplicate rule id") else validateRules (rule.id::seen) rest

theorem rulesValid (ok : validateRules seen rules = .ok ()) : ∀ rule ∈ rules, rule.kind.validate = .ok () := by
  induction rules generalizing seen with
  | nil => simp
  | cons rule rest ih =>
    obtain ⟨_,valid,ok⟩ := bindOk ok
    split at ok <;> try contradiction
    intro r mem
    rcases List.mem_cons.mp mem with rfl | old
    · exact valid
    · exact ih ok r old

structure RuleSet where
  siteId : Uuid
  version : Nat
  defaultAction : DefaultAction
  rules : List Rule
  deriving DecidableEq

-- `(priority, id)`, an id being compared as its bytes are.
def inOrder (a b : Rule) : Prop := a.priority < b.priority ∨ a.priority = b.priority ∧ a.id.toNat ≤ b.id.toNat

instance (a b) : Decidable (inOrder a b) := by unfold inOrder; infer_instance

namespace RuleSet

def new (siteId : Uuid) (version : Nat) (defaultAction : DefaultAction) (rules : List Rule) : Except WafError RuleSet :=
  if version = 0 then .error (.invalid "version must be positive")
  else if 256 < rules.length then .error (.invalid "a ruleset may contain at most 256 rules")
  else do
    validateRules [] rules
    .ok ⟨siteId,version,defaultAction,rules.insertionSort inOrder⟩

def validated (set : RuleSet) : Except WafError RuleSet := new set.siteId set.version set.defaultAction set.rules

theorem validatedRules {set checked : RuleSet} (ok : set.validated = .ok checked) :
    checked.siteId = set.siteId ∧ ∀ rule ∈ checked.rules, rule.kind.validate = .ok () := by
  unfold validated new at ok
  split at ok <;> try contradiction
  split at ok <;> try contradiction
  obtain ⟨_,valid,ok⟩ := bindOk ok
  cases Except.ok.inj ok
  exact ⟨rfl,fun rule mem => rulesValid valid rule ((List.mem_insertionSort inOrder).mp mem)⟩

end RuleSet

def decimal (n : Nat) : List Char := Nat.toDigits 10 n

def actionDirective : RuleAction → List Char
  | .allow => chars "set $openpanel_waf_allowed 1;"
  | .challenge => chars "return 302 /openpanel-waf-challenge;"
  | .deny => chars "return 403;"

def kindLabel : RuleKind → List Char
  | .rateLimit .. => chars "rate_limit"
  | .connLimit .. => chars "conn_limit"
  | .geoBlock .. => chars "geo_block"
  | .userAgentBlock .. => chars "user_agent_block"
  | .pathBlock .. => chars "path_block"
  | .headerChallenge .. => chars "header_challenge"
  | .bodySizeCap .. => chars "body_size_cap"

def headerVariable (header : List Char) : List Char := header.map (fun c => if c.toLower = '-' then '_' else c.toLower)

-- `op_{site}_{zone}`.
def zoneName (site zone : List Char) : List Char := chars "op_" ++ site ++ '_'::zone

def challengeDirective : HeaderChallenge → List Char
  | .tarpit => chars "return 429;"
  | .redirect path => chars "return 302 " ++ path ++ chars ";"

def compileRule (site : List Char) : RuleKind → List Char
  | .rateLimit zone rate burst nodelay =>
    chars "limit_req_zone $binary_remote_addr zone=" ++ zoneName site zone ++ chars ":10m rate=" ++ decimal rate ++
      chars "r/s;\nlimit_req zone=" ++ zoneName site zone ++ chars " burst=" ++ decimal burst ++
      (if nodelay then chars " nodelay" else []) ++ chars ";\nlimit_req_status 429;\n"
  | .connLimit zone perIp =>
    chars "limit_conn_zone $binary_remote_addr zone=" ++ zoneName site zone ++ chars ":10m;\nlimit_conn " ++
      zoneName site zone ++ chars " " ++ decimal perIp ++ chars ";\nlimit_conn_status 429;\n"
  | .geoBlock countries action =>
    chars "if ($http_cf_ipcountry ~* \"^(" ++ ['|'].intercalate countries ++ chars ")$\") \x7b " ++
      actionDirective action ++ chars " \x7d\n"
  | .userAgentBlock pattern action =>
    chars "if ($http_user_agent ~* \"" ++ pattern ++ chars "\") \x7b " ++ actionDirective action ++ chars " \x7d\n"
  | .pathBlock pattern method action =>
    match method with
    | some method => chars "location ^~ " ++ pattern ++ chars " \x7b if ($request_method = " ++ method ++ chars ") \x7b " ++
        actionDirective action ++ chars " \x7d \x7d\n"
    | none => chars "location ^~ " ++ pattern ++ chars " \x7b " ++ actionDirective action ++ chars " \x7d\n"
  | .headerChallenge header value challenge =>
    chars "if ($http_" ++ headerVariable header ++ chars " = \"" ++ value ++ chars "\") \x7b " ++
      challengeDirective challenge ++ chars " \x7d\n"
  | .bodySizeCap maxBytes => chars "client_max_body_size " ++ decimal maxBytes ++ chars ";\n"

def ruleLines (site : List Char) (rule : Rule) : List Char :=
  chars "# rule=" ++ chars rule.id.hyphenated ++ chars " kind=" ++ kindLabel rule.kind ++ '\n'::compileRule site rule.kind

def defaultLines : DefaultAction → List Char
  | .allow => []
  | .challenge => chars "return 302 /openpanel-waf-challenge;\n"
  | .deny => chars "return 403;\n"

def header (set : RuleSet) : List Char :=
  chars "# openpanel-waf site=" ++ chars set.siteId.hyphenated ++ chars " rev=" ++ decimal set.version ++ ['\n']

def recheck : List Rule → Except WafError Unit
  | [] => .ok ()
  | rule::rest => do
    rule.kind.validate
    recheck rest

def compile (set : RuleSet) : Except WafError (List Char) :=
  if set.rules = [] then .ok []
  else do
    recheck set.rules
    let site := set.siteId.digits.take 12
    .ok (header set ++ (set.rules.filter Rule.enabled).flatMap (ruleLines site) ++ defaultLines set.defaultAction)

theorem rechecked (valid : ∀ rule ∈ rules, rule.kind.validate = .ok ()) : recheck rules = .ok () := by
  induction rules with
  | nil => rfl
  | cons rule rest ih =>
    simp only [recheck,valid rule List.mem_cons_self,Fallible.okBind]
    exact ih (fun r mem => valid r (List.mem_cons_of_mem _ mem))

theorem compiled {set checked : RuleSet} (ok : set.validated = .ok checked) : ∃ snippet, compile checked = .ok snippet := by
  have again := rechecked (RuleSet.validatedRules ok).2
  unfold compile
  split
  · exact ⟨_,rfl⟩
  · rw [again]
    exact ⟨_,rfl⟩

end OpenPanel.Waf
