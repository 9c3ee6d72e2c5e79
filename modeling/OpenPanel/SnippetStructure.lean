import OpenPanel.NginxConfig
import OpenPanel.NginxStructure

/-! The directives the compiled snippets are meant to have. Comments carry texts the
panel made itself. -/
namespace OpenPanel.Waf
open ConfSyntax
open Fallible (bindOk)
open Nginx (chars words fixed spelled spelt closed quits wordsPresent fixedNamed locationRead blockEndRead)

def RuleAction.directive : RuleAction → Directive
  | .allow => fixed "set $openpanel_waf_allowed 1"
  | .challenge => fixed "return 302 /openpanel-waf-challenge"
  | .deny => fixed "return 403"

def HeaderChallenge.directive : HeaderChallenge → Directive
  | .tarpit => fixed "return 429"
  | .redirect path => .simple [chars "return",chars "302",path]

def zoneWord (site zone : List Char) : List Char := chars "zone=" ++ (zoneName site zone ++ chars ":10m")

def RuleKind.directives (site : List Char) : RuleKind → List Directive
  | .rateLimit zone rate burst nodelay =>
    [.simple [chars "limit_req_zone",chars "$binary_remote_addr",zoneWord site zone,chars "rate=" ++ (decimal rate ++ chars "r/s")],
      .simple ([chars "limit_req",chars "zone=" ++ zoneName site zone,chars "burst=" ++ decimal burst] ++
        (if nodelay then [chars "nodelay"] else [])),
      fixed "limit_req_status 429"]
  | .connLimit zone perIp =>
    [.simple [chars "limit_conn_zone",chars "$binary_remote_addr",zoneWord site zone],
      .simple [chars "limit_conn",zoneName site zone,decimal perIp],fixed "limit_conn_status 429"]
  | .geoBlock countries action =>
    [.block [chars "if",chars "($http_cf_ipcountry",chars "~*",chars "^(" ++ (['|'].intercalate countries ++ chars ")$"),chars ")"]
      [action.directive]]
  | .userAgentBlock pattern action =>
    [.block [chars "if",chars "($http_user_agent",chars "~*",pattern,chars ")"] [action.directive]]
  | .pathBlock pattern method action =>
    [.block [chars "location",chars "^~",pattern] [match method with
      | some method => .block [chars "if",chars "($request_method",chars "=",method ++ chars ")"] [action.directive]
      | none => action.directive]]
  | .headerChallenge header value challenge =>
    [.block [chars "if",chars "($http_" ++ headerVariable header,chars "=",value,chars ")"] [challenge.directive]]
  | .bodySizeCap maxBytes => [.simple [chars "client_max_body_size",decimal maxBytes]]

def RuleKind.Clean : RuleKind → Prop
  | .userAgentBlock pattern _ => Quotable '"' pattern
  | .pathBlock pattern _ _ => Bare pattern
  | .headerChallenge _ value .tarpit => Quotable '"' value
  | .headerChallenge _ value (.redirect path) => Quotable '"' value ∧ Bare path
  | _ => True

def DefaultAction.directives : DefaultAction → List Directive
  | .allow => []
  | .challenge => [fixed "return 302 /openpanel-waf-challenge"]
  | .deny => [fixed "return 403"]

def RuleSet.directives (set : RuleSet) : List Directive :=
  if set.rules = [] then []
  else (set.rules.filter Rule.enabled).flatMap (fun rule => rule.kind.directives (set.siteId.digits.take 12)) ++
    set.defaultAction.directives

theorem decimalPlain (n) : ∀ c ∈ decimal n, ordinary c = true := digitsAll (by decide) (by decide) (by decide) n

theorem decimalPresent (n) : decimal n ≠ [] := by
  rw [decimal,Nat.toDigits_eq_if (by decide)]
  split <;> simp

theorem sitePlain (id : Uuid) : ∀ c ∈ id.digits.take 12, ordinary c = true := by
  have digits : ∀ c ∈ id.digits, ordinary c = true := uuidDigits (by decide) id
  exact fun c mem => digits c (List.mem_of_mem_take mem)

theorem plainAppend {a b : List Char} (first : ∀ c ∈ a, ordinary c = true) (second : ∀ c ∈ b, ordinary c = true) :
    ∀ c ∈ a ++ b, ordinary c = true := fun c mem => (List.mem_append.mp mem).elim (first c) (second c)

theorem zonePlain (siteFits : ∀ c ∈ site, ordinary c = true) (valid : validateZone zone = .ok ()) :
    ∀ c ∈ zoneName site zone, ordinary c = true := by
  unfold validateZone at valid
  split at valid <;> try contradiction
  rename_i fits
  simp only [not_or,not_not,List.all_eq_true] at fits
  refine plainAppend (plainAppend (List.all_eq_true.mp (by decide)) siteFits) (List.forall_mem_cons.mpr ⟨by decide,fun c mem => ?_⟩)
  exact ordinaryClass (by decide) (fits.2.2 c mem)

theorem pathStart {value max detail} (valid : validatePath value max detail = .ok ()) : value.head? = some '/' := by
  obtain ⟨_,_,valid⟩ := bindOk valid
  split at valid <;> try contradiction
  assumption

theorem lowerPlain (fits : isAsciiAlphanumeric c = true) : isAsciiAlphanumeric c.toLower = true := by
  unfold Char.toLower
  split
  · rename_i upper
    have bounds : 65 ≤ c.val.toNat ∧ c.val.toNat ≤ 90 :=
      ⟨UInt32.le_iff_toNat_le.mp upper.1,UInt32.le_iff_toNat_le.mp upper.2⟩
    have shifted : (c.val + ('a'.val - 'A'.val)).toNat = c.val.toNat + 32 := by
      rw [UInt32.toNat_add]
      exact Nat.mod_eq_of_lt (by change c.val.toNat + 32 < 4294967296; omega)
    simp only [isAsciiAlphanumeric,Char.toNat,shifted,Bool.or_eq_true,Bool.and_eq_true,decide_eq_true_eq]
    omega
  · exact fits

theorem headerPlain {header} (fits : headerName header = true) : ∀ c ∈ headerVariable header, ordinary c = true := by
  simp only [headerName,Bool.and_eq_true,List.all_eq_true] at fits
  intro c mem
  obtain ⟨old,inside,rfl⟩ := List.mem_map.mp mem
  split
  · decide
  · rename_i other
    rcases Bool.or_eq_true_iff.mp (fits.2 old inside) with letter | hyphen
    · exact ordinaryClass (by decide) (lowerPlain letter)
    · rw [beq_iff_eq.mp hyphen] at other
      exact absurd rfl other

theorem upperPlain {word : List Char} (upper : word.all isAsciiUppercase = true) : ∀ c ∈ word, ordinary c = true :=
  fun c mem => ordinaryClass (by decide) (List.all_eq_true.mp upper c mem)

theorem readsAction (action) : Reads .gap (actionDirective action) action.directive.tokens True .gap := by
  cases action
  · exact literal (by rw [actionDirective,spelled]; decide)
  · exact literal (by rw [actionDirective,spelled]; decide)
  · exact literal (by rw [actionDirective,spelled]; decide)

theorem readsChallenge {header value challenge} (valid : (RuleKind.headerChallenge header value challenge).validate = .ok ()) :
    Reads .gap (challengeDirective challenge) challenge.directive.tokens (∀ path, challenge = .redirect path → Bare path) .gap := by
  cases challenge with
  | tarpit =>
    have fixed : Reads .gap (chars "return 429;") (HeaderChallenge.directive .tarpit).tokens True .gap :=
      spelt (by decide)
    exact fixed.cast rfl (by simp)
  | redirect path =>
    have starts : path.head?.any opens = true := by
      simp only [RuleKind.validate] at valid
      split at valid <;> try contradiction
      obtain ⟨_,_,valid⟩ := bindOk valid
      rw [pathStart valid]
      decide
    have first : Reads .gap (chars "return 302 ") [.word (chars "return"),.word (chars "302")] True .gap :=
      spelt (by decide)
    have last : Reads .gap (path ++ chars ";") [.word path,.semi] (Bare path) .gap :=
      Reads.argument starts (closed (by decide))
    refine ((first.andThen last).cast ?_ ?_).ofText (by simp only [challengeDirective,List.append_assoc])
    · simp [HeaderChallenge.directive,Directive.tokens]
    · simp

theorem readsRate (siteFits : ∀ c ∈ site, ordinary c = true)
    (valid : (RuleKind.rateLimit zone rate burst nodelay).validate = .ok ()) :
    Reads .gap (compileRule site (.rateLimit zone rate burst nodelay))
      (tokensAll ((RuleKind.rateLimit zone rate burst nodelay).directives site)) True .gap := by
  obtain ⟨_,zoneValid,_⟩ := bindOk valid
  have zoneFits := zonePlain siteFits zoneValid
  have first : Reads .gap (chars "limit_req_zone $binary_remote_addr zone=")
      [.word (chars "limit_req_zone"),.word (chars "$binary_remote_addr")] True (.word (chars "zone=") false false) :=
    spelt (by decide)
  have zoned : Reads (.word (chars "zone=") false false) ((zoneName site zone ++ chars ":10m") ++ chars " rate=")
      [.word (zoneWord site zone)] True (.word (chars "rate=") false false) :=
    Reads.plainIn (plainAppend zoneFits (List.all_eq_true.mp (by decide))) (closed (by decide))
  have rated : Reads (.word (chars "rate=") false false) ((decimal rate ++ chars "r/s") ++ chars ";\nlimit_req zone=")
      [.word (chars "rate=" ++ (decimal rate ++ chars "r/s")),.semi,.word (chars "limit_req")] True
      (.word (chars "zone=") false false) :=
    Reads.plainIn (plainAppend (decimalPlain rate) (List.all_eq_true.mp (by decide))) (closed (by decide))
  have again : Reads (.word (chars "zone=") false false) (zoneName site zone ++ chars " burst=")
      [.word (chars "zone=" ++ zoneName site zone)] True (.word (chars "burst=") false false) :=
    Reads.plainIn zoneFits (closed (by decide))
  have last : Reads (.word (chars "burst=") false false)
      (decimal burst ++ ((if nodelay then chars " nodelay" else []) ++ chars ";\nlimit_req_status 429;\n"))
      (.word (chars "burst=" ++ decimal burst)::((if nodelay then [.word (chars "nodelay")] else []) ++
        .semi::(fixed "limit_req_status 429").tokens)) True .gap := by
    cases nodelay
    · exact Reads.plainIn (decimalPlain burst) (closed (by decide))
    · exact Reads.plainIn (decimalPlain burst) (by rw [spelled]; decide)
  have split : chars ":10m rate=" = chars ":10m" ++ chars " rate=" ∧
      chars "r/s;\nlimit_req zone=" = chars "r/s" ++ chars ";\nlimit_req zone=" := by decide
  have whole := (((first.andThen zoned).andThen rated).andThen again).andThen last
  refine (whole.cast ?_ (by simp)).ofText (by simp only [compileRule,split.1,split.2,List.append_assoc])
  cases nodelay <;> simp [RuleKind.directives,zoneWord,tokensAll,Directive.tokens]

theorem readsConn (siteFits : ∀ c ∈ site, ordinary c = true) (valid : (RuleKind.connLimit zone perIp).validate = .ok ()) :
    Reads .gap (compileRule site (.connLimit zone perIp)) (tokensAll ((RuleKind.connLimit zone perIp).directives site)) True .gap := by
  obtain ⟨_,zoneValid,_⟩ := bindOk valid
  have zoneFits := zonePlain siteFits zoneValid
  have first : Reads .gap (chars "limit_conn_zone $binary_remote_addr zone=")
      [.word (chars "limit_conn_zone"),.word (chars "$binary_remote_addr")] True (.word (chars "zone=") false false) :=
    spelt (by decide)
  have zoned : Reads (.word (chars "zone=") false false) ((zoneName site zone ++ chars ":10m") ++ chars ";\nlimit_conn ")
      [.word (zoneWord site zone),.semi,.word (chars "limit_conn")] True .gap :=
    Reads.plainIn (plainAppend zoneFits (List.all_eq_true.mp (by decide))) (closed (by decide))
  have again : Reads .gap (zoneName site zone ++ chars " ") [.word (zoneName site zone)] True .gap :=
    Reads.plain (by simp [zoneName]) zoneFits (closed (by decide))
  have last : Reads .gap (decimal perIp ++ chars ";\nlimit_conn_status 429;\n")
      (.word (decimal perIp)::.semi::(fixed "limit_conn_status 429").tokens) True .gap :=
    Reads.plain (decimalPresent perIp) (decimalPlain perIp) (closed (by decide))
  have split : chars ":10m;\nlimit_conn " = chars ":10m" ++ chars ";\nlimit_conn " := by decide
  have whole := ((first.andThen zoned).andThen again).andThen last
  refine (whole.cast ?_ (by simp)).ofText (by simp only [compileRule,split,List.append_assoc])
  simp [RuleKind.directives,zoneWord,tokensAll,Directive.tokens]

theorem readsGeo (valid : (RuleKind.geoBlock countries action).validate = .ok ()) :
    Reads .gap (compileRule site (.geoBlock countries action)) (tokensAll ((RuleKind.geoBlock countries action).directives site))
      True .gap := by
  have codes : ∀ c ∈ ['|'].intercalate countries, c ≠ '"' ∧ c ≠ '\\' := by
    simp only [RuleKind.validate] at valid
    split at valid <;> try contradiction
    rename_i fits
    simp only [not_or,not_not,List.all_eq_true] at fits
    refine intercalateAll (by simp) (fun country mem c inside => ?_)
    have code := fits.2.2 country mem
    simp only [countryCode,Bool.and_eq_true] at code
    have plain := ordinaryNot (upperPlain code.2 c inside)
    exact ⟨fun same => plain (by simp [same,special]),fun same => plain (by simp [same,special])⟩
  have quotable : Quotable '"' (['|'].intercalate countries ++ chars ")$") := by
    refine quotableOf (fun c mem => ?_)
    rcases List.mem_append.mp mem with code | tail
    · exact codes c code
    · rw [spelled] at tail
      rcases List.mem_pair.mp tail with rfl | rfl <;> decide
  have first : Reads .gap (chars "if ($http_cf_ipcountry ~* \"^(")
      [.word (chars "if"),.word (chars "($http_cf_ipcountry"),.word (chars "~*")] True (.quoted '"' (chars "^(") false) :=
    spelt (by decide)
  have inside : Reads (.quoted '"' (chars "^(") false) ((['|'].intercalate countries ++ chars ")$") ++ chars "\") \x7b ")
      [.word (chars "^(" ++ (['|'].intercalate countries ++ chars ")$")),.word (chars ")"),.opening] _ .gap :=
    Reads.between (quits (by decide))
  have split : chars ")$\") \x7b " = chars ")$" ++ chars "\") \x7b " := by decide
  have whole := ((first.andThen inside).andThen (readsAction action)).andThen blockEndRead
  refine (whole.cast ?_ (by simp [quotable])).ofText (by simp only [compileRule,split,List.append_assoc])
  simp [RuleKind.directives,tokensAll,Directive.tokens]

theorem readsAgent (pattern) (action) :
    Reads .gap (compileRule site (.userAgentBlock pattern action))
      (tokensAll ((RuleKind.userAgentBlock pattern action).directives site)) (Quotable '"' pattern) .gap := by
  have first : Reads .gap (chars "if ($http_user_agent ~* \"")
      [.word (chars "if"),.word (chars "($http_user_agent"),.word (chars "~*")] True (.quoted '"' [] false) :=
    spelt (by decide)
  have inside : Reads (.quoted '"' [] false) (pattern ++ chars "\") \x7b ") [.word pattern,.word (chars ")"),.opening]
      (Quotable '"' pattern) .gap := Reads.quoted (quits (by decide))
  have whole := ((first.andThen inside).andThen (readsAction action)).andThen blockEndRead
  refine (whole.cast ?_ (by simp)).ofText (by simp only [compileRule,List.append_assoc])
  simp [RuleKind.directives,tokensAll,Directive.tokens]

theorem readsPath (valid : (RuleKind.pathBlock pattern method action).validate = .ok ()) :
    Reads .gap (compileRule site (.pathBlock pattern method action))
      (tokensAll ((RuleKind.pathBlock pattern method action).directives site)) (Bare pattern) .gap := by
  obtain ⟨_,pathValid,valid⟩ := bindOk valid
  have starts : pattern.head?.any opens = true := by
    rw [pathStart pathValid]
    decide
  cases method with
  | none =>
    have path : Reads .gap (pattern ++ chars " \x7b ") [.word pattern,.opening] (Bare pattern) .gap :=
      Reads.argument starts (closed (by decide))
    have whole := ((locationRead.andThen path).andThen (readsAction action)).andThen blockEndRead
    refine (whole.cast ?_ (by simp)).ofText (by simp only [compileRule,List.append_assoc])
    simp [RuleKind.directives,tokensAll,Directive.tokens]
  | some method =>
    have upper : ∀ c ∈ method, ordinary c = true := by
      split at valid <;> try contradiction
      rename_i fits
      simp only [Option.all_some,methodName,Bool.and_eq_true] at fits
      exact upperPlain fits.2
    have path : Reads .gap (pattern ++ chars " \x7b if ($request_method = ")
        [.word pattern,.opening,.word (chars "if"),.word (chars "($request_method"),.word (chars "=")] (Bare pattern) .gap :=
      Reads.argument starts (closed (by decide))
    have named : Reads .gap ((method ++ chars ")") ++ chars " \x7b ") [.word (method ++ chars ")"),.opening] True .gap :=
      Reads.plain (by simp [chars]) (plainAppend upper (List.all_eq_true.mp (by decide))) (closed (by decide))
    have last : Reads .gap (chars " \x7d \x7d\n") [.closing,.closing] True .gap := literal (by decide)
    have split : chars ") \x7b " = chars ")" ++ chars " \x7b " := by decide
    have whole := (((locationRead.andThen path).andThen named).andThen (readsAction action)).andThen last
    refine (whole.cast ?_ (by simp)).ofText (by simp only [compileRule,split,List.append_assoc])
    simp [RuleKind.directives,tokensAll,Directive.tokens]

theorem readsHeader {header value challenge} (valid : (RuleKind.headerChallenge header value challenge).validate = .ok ()) :
    Reads .gap (compileRule site (.headerChallenge header value challenge))
      (tokensAll ((RuleKind.headerChallenge header value challenge).directives site))
      (RuleKind.headerChallenge header value challenge).Clean .gap := by
  have named : headerName header = true := by
    simp only [RuleKind.validate] at valid
    split at valid <;> try contradiction
    assumption
  have first : Reads .gap (chars "if ($http_") [.word (chars "if")] True (.word (chars "($http_") false false) :=
    spelt (by decide)
  have varied : Reads (.word (chars "($http_") false false) (headerVariable header ++ chars " = \"")
      [.word (chars "($http_" ++ headerVariable header),.word (chars "=")] True (.quoted '"' [] false) :=
    Reads.plainIn (headerPlain named) (closed (by decide))
  have inside : Reads (.quoted '"' [] false) (value ++ chars "\") \x7b ") [.word value,.word (chars ")"),.opening]
      (Quotable '"' value) .gap := Reads.quoted (quits (by decide))
  have whole := (((first.andThen varied).andThen inside).andThen (readsChallenge valid)).andThen blockEndRead
  refine (whole.cast ?_ ?_).ofText (by simp only [compileRule,List.append_assoc])
  · simp [RuleKind.directives,tokensAll,Directive.tokens]
  · cases challenge <;> simp [RuleKind.Clean]

theorem readsCap (maxBytes) : Reads .gap (compileRule site (.bodySizeCap maxBytes))
    (tokensAll ((RuleKind.bodySizeCap maxBytes).directives site)) True .gap := by
  have first : Reads .gap (chars "client_max_body_size ") [.word (chars "client_max_body_size")] True .gap :=
    spelt (by decide)
  have last : Reads .gap (decimal maxBytes ++ chars ";\n") [.word (decimal maxBytes),.semi] True .gap :=
    Reads.plain (decimalPresent maxBytes) (decimalPlain maxBytes) (closed (by decide))
  refine ((first.andThen last).cast ?_ (by simp)).ofText (by simp only [compileRule,List.append_assoc])
  simp [RuleKind.directives,tokensAll,Directive.tokens]

theorem readsRule (siteFits : ∀ c ∈ site, ordinary c = true) (valid : kind.validate = .ok ()) :
    Reads .gap (compileRule site kind) (tokensAll (kind.directives site)) kind.Clean .gap := by
  cases kind with
  | rateLimit zone rate burst nodelay => exact (readsRate siteFits valid).cast rfl (by simp [RuleKind.Clean])
  | connLimit zone perIp => exact (readsConn siteFits valid).cast rfl (by simp [RuleKind.Clean])
  | geoBlock countries action => exact (readsGeo valid).cast rfl (by simp [RuleKind.Clean])
  | userAgentBlock pattern action => exact readsAgent pattern action
  | pathBlock pattern method action => exact readsPath valid
  | headerChallenge header value challenge => exact readsHeader valid
  | bodySizeCap maxBytes => exact (readsCap maxBytes).cast rfl (by simp [RuleKind.Clean])

theorem readsLabel (kind) : Reads .comment (kindLabel kind) [] True .comment := by
  refine comments ?_
  cases kind <;> (simp only [kindLabel]; decide)

theorem hyphenatedLine (id : Uuid) : '\n' ∉ chars id.hyphenated := by
  have other : ∀ c ∈ chars id.hyphenated, c ≠ '\n' := hyphenatedAll (by decide) (by decide) id
  exact fun mem => other _ mem rfl

theorem decimalLine (n) : '\n' ∉ decimal n := by
  have other : ∀ c ∈ decimal n, c ≠ '\n' := digitsAll (by decide) (by decide) (by decide) n
  exact fun mem => other _ mem rfl

theorem readsLines (siteFits : ∀ c ∈ site, ordinary c = true) (valid : rule.kind.validate = .ok ()) :
    Reads .gap (ruleLines site rule) (tokensAll (rule.kind.directives site)) rule.kind.Clean .gap := by
  have start : Reads .gap (chars "# rule=") [] True .comment := literal (by decide)
  have id : Reads .comment (chars rule.id.hyphenated) [] True .comment := comments (hyphenatedLine rule.id)
  have named : Reads .comment (chars " kind=") [] True .comment := comments (by decide)
  have ended : Reads .comment ['\n'] [] True .gap := literal rfl
  have whole := (((start.andThen id).andThen named).andThen (readsLabel rule.kind)).andThen (ended.andThen (readsRule siteFits valid))
  exact (whole.cast (by simp) (by simp)).ofText (by simp only [ruleLines,List.append_assoc,List.cons_append,List.nil_append])

theorem readsRevision (start : Reads .gap lead [] True .comment) (id : Uuid) (version) :
    Reads .gap (lead ++ chars id.hyphenated ++ chars " rev=" ++ decimal version ++ ['\n']) [] True .gap := by
  have owner : Reads .comment (chars id.hyphenated) [] True .comment := comments (hyphenatedLine id)
  have revised : Reads .comment (chars " rev=") [] True .comment := comments (by decide)
  have number : Reads .comment (decimal version) [] True .comment := comments (decimalLine version)
  have ended : Reads .comment ['\n'] [] True .gap := literal rfl
  exact ((((start.andThen owner).andThen revised).andThen number).andThen ended).cast rfl (by simp)

theorem readsHeading (set) : Reads .gap (header set) [] True .gap :=
  readsRevision (spelt (by decide)) set.siteId set.version

theorem readsDefault (action) : Reads .gap (defaultLines action) (tokensAll action.directives) True .gap := by
  cases action
  · exact Reads.nothing
  · exact literal (by rw [defaultLines,spelled]; decide)
  · exact literal (by rw [defaultLines,spelled]; decide)

theorem setNamed (set : RuleSet) : NamedAll set.directives := by
  have action : ∀ a : RuleAction, a.directive.Named := fun a => by cases a <;> exact fixedNamed _
  have challenged : ∀ c : HeaderChallenge, c.directive.Named := by
    intro c
    cases c
    · exact fixedNamed _
    · simp [HeaderChallenge.directive,Directive.Named]
  have kinds : ∀ site (kind : RuleKind), NamedAll (kind.directives site) := by
    intro site kind
    cases kind with
    | pathBlock pattern method a => cases method <;> simp [RuleKind.directives,NamedAll,Directive.Named,action]
    | _ => simp [RuleKind.directives,NamedAll,Directive.Named,action,challenged,fixedNamed]
  have last : NamedAll set.defaultAction.directives := by
    cases set.defaultAction <;> simp [DefaultAction.directives,NamedAll,fixedNamed]
  unfold RuleSet.directives
  split
  · trivial
  · refine namedAppend.mpr ⟨namedAll.mpr (fun d mem => ?_),last⟩
    obtain ⟨rule,_,inside⟩ := List.mem_flatMap.mp mem
    exact namedAll.mp (kinds _ _) d inside

theorem setRead {set checked : RuleSet} (valid : set.validated = .ok checked) (compiled : compile checked = .ok snippet) :
    read snippet = some checked.directives ↔ ∀ rule ∈ checked.rules, rule.enabled = true → rule.kind.Clean := by
  rw [readIff (setNamed checked)]
  unfold compile at compiled
  unfold RuleSet.directives
  split at compiled
  · rename_i empty
    cases Except.ok.inj compiled
    simp [empty,lex,scan,finished,tokensAll]
  · rename_i some
    obtain ⟨_,_,compiled⟩ := bindOk compiled
    cases Except.ok.inj compiled
    have rules := (RuleSet.validatedRules valid).2
    have lines := Reads.each (fun (rule : Rule) (mem : rule ∈ checked.rules.filter Rule.enabled) =>
      readsLines (sitePlain checked.siteId) (rules rule (List.mem_of_mem_filter mem)))
    have whole := ((readsHeading checked).andThen lines).andThen (readsDefault checked.defaultAction)
    refine (whole.cast ?_ ?_).whole
    · rw [if_neg some,tokensAllAppend,tokensAllFlatMap,List.nil_append]
    · simp [and_imp]

end OpenPanel.Waf

namespace OpenPanel.HttpControls
open ConfSyntax
open Fallible (bindOk)
open Nginx (chars words fixed spelled spelt closed quits wordsPresent fixedNamed locationRead)
open Waf (decimal decimalPlain decimalPresent plainAppend)

def IndexPolicy.directives (policy : IndexPolicy) : List Directive :=
  [.simple (chars "index"::policy.order),if policy.autoindex then fixed "autoindex on" else fixed "autoindex off"]

def ErrorPageOverride.directive (page : ErrorPageOverride) : Directive :=
  .simple [chars "error_page",decimal page.status,page.documentPath]

def rewriteDirective (rule : RedirectRule) (flag : List Char) : Directive :=
  .simple [chars "rewrite",chars "^" ++ (rule.sourcePrefix ++ chars "(.*)$"),rule.destination ++ chars "$1",flag]

def returnDirective (rule : RedirectRule) : Directive :=
  .block [chars "location",chars "^~",rule.sourcePrefix]
    [.simple [chars "return",decimal rule.status.code,rule.destination ++ chars "$request_uri"]]

def RedirectRule.directive (rule : RedirectRule) : Directive :=
  match rule.status with
  | .movedPermanently => rewriteDirective rule (chars "permanent")
  | .found => rewriteDirective rule (chars "redirect")
  | .temporaryRedirect | .permanentRedirect => returnDirective rule

def htpasswdFile (htpasswdPrefix : List Char) (index : Nat) : List Char :=
  htpasswdPrefix ++ (chars "/" ++ decimal index ++ chars ".htpasswd")

def protectedDirective (htpasswdPrefix : List Char) (indexed : ProtectedDir × Nat) : Directive :=
  .block [chars "location",chars "^~",indexed.1.pathPrefix] [.simple [chars "auth_basic",indexed.1.realm],
    .simple [chars "auth_basic_user_file",htpasswdFile htpasswdPrefix indexed.2]]

def HotlinkPolicy.directives (policy : HotlinkPolicy) : List Directive :=
  if policy.defaultDeny then
    [.simple (words "valid_referers none blocked server_names" ++ policy.allowedReferers),
      .block (words "if ($invalid_referer)") [fixed "return 403"]]
  else []

def ClientIpRule.directive (rule : ClientIpRule) : Directive :=
  .simple [match rule.effect with
    | .allow => chars "allow"
    | .deny => chars "deny",rule.cidr]

def MimeOverride.directive (mime : MimeOverride) : Directive :=
  .block [chars "location",chars "~*",chars "\\." ++ (mime.extension ++ chars "$")]
    [.block [chars "types"] [],.simple [chars "default_type",mime.mimeType]]

def SiteHttpControls.directives (htpasswdPrefix : List Char) (c : SiteHttpControls) : List Directive :=
  c.indexPolicy.toList.flatMap IndexPolicy.directives ++ c.errorPages.map ErrorPageOverride.directive ++
    c.redirects.map RedirectRule.directive ++ c.protectedDirs.zipIdx.map (protectedDirective htpasswdPrefix) ++
    c.hotlink.toList.flatMap HotlinkPolicy.directives ++ c.ipRules.map ClientIpRule.directive ++
    (if c.ipRules.any (fun rule => rule.effect == .allow) then [fixed "deny all"] else []) ++
    c.mimeOverrides.map MimeOverride.directive

structure SiteHttpControls.Clean (c : SiteHttpControls) : Prop where
  names : ∀ policy ∈ c.indexPolicy, ∀ entry ∈ policy.order, entry.head?.any opens = true ∧ Bare entry
  pages : ∀ page ∈ c.errorPages, Bare page.documentPath
  redirects : ∀ rule ∈ c.redirects, Bare rule.sourcePrefix ∧ Unbroken rule.destination
  dirs : ∀ dir ∈ c.protectedDirs, Bare dir.pathPrefix ∧ Quotable '"' dir.realm

theorem pathStart {value max} (valid : validateSitePath value max = .ok ()) : value.head?.any opens = true ∧ '\\' ∉ value := by
  have fits := requireOk valid
  simp only [sitePath,Bool.and_eq_true,beq_iff_eq,Bool.not_eq_true',List.contains_eq_mem,decide_eq_false_iff_not] at fits
  rw [fits.1.1.1.1]
  exact ⟨by decide,fits.1.2⟩

theorem destinationStart {rule : RedirectRule} (valid : rule.validate = .ok ()) (tail) :
    (rule.destination ++ tail).head?.any opens = true := by
  obtain ⟨_,_,valid⟩ := bindOk valid
  obtain ⟨_,_,valid⟩ := bindOk valid
  have fits := requireOk valid
  have first : rule.destination.head? = some '/' ∨ rule.destination.head? = some 'h' := by
    simp only [Bool.or_eq_true,Bool.and_eq_true,beq_iff_eq,httpUrl,List.isPrefixOf_iff_prefix] at fits
    rcases fits with ⟨slash,_⟩ | ⟨⟨more,same⟩ | ⟨more,same⟩,_⟩
    · exact .inl slash
    · rw [← same]
      exact .inr rfl
    · rw [← same]
      exact .inr rfl
  rcases first with start | start
  · rw [List.head?_append,start]
    exact (by decide : opens '/' = true)
  · rw [List.head?_append,start]
    exact (by decide : opens 'h' = true)

theorem unsignedPlain (parsed : parseUnsigned bound text = some n) : ∀ c ∈ text, ordinary c = true := by
  have digits : ∀ {rest : List Char} {found : Option Nat}, (if rest.isEmpty || !rest.all isAsciiDigit then none else found) = some n →
      ∀ c ∈ rest, ordinary c = true := by
    intro rest found parsed c mem
    split at parsed <;> try contradiction
    rename_i all
    rw [Bool.not_eq_true,Bool.or_eq_false_iff,Bool.not_eq_false',List.all_eq_true] at all
    exact ordinaryClass (by decide) (all.2 c mem)
  simp only [parseUnsigned] at parsed
  split at parsed
  · rename_i sign
    obtain ⟨rest,rfl⟩ := List.head?_eq_some_iff.mp sign
    exact List.forall_mem_cons.mpr ⟨by decide,digits parsed⟩
  · exact digits parsed

theorem cidrPlain {rule : ClientIpRule} (valid : rule.validate reader = .ok ()) :
    rule.cidr ≠ [] ∧ ∀ c ∈ rule.cidr, ordinary c = true := by
  have whole : rule.cidr = (rule.cidr.span (fun c => c != '/')).1 ++ (rule.cidr.span (fun c => c != '/')).2 := by
    rw [List.span_eq_takeWhile_dropWhile]
    exact List.takeWhile_append_dropWhile.symm
  unfold ClientIpRule.validate at valid
  split at valid
  · rename_i address x length parts
    rw [parts] at whole
    have slash : x = '/' := by
      have stopped := List.head?_dropWhile_not (fun c => c != '/') rule.cidr
      rw [List.span_eq_takeWhile_dropWhile,Prod.mk.injEq] at parts
      rw [parts.2] at stopped
      simpa using stopped
    split at valid <;> try contradiction
    rename_i family found
    split at valid <;> try contradiction
    rename_i bits parsed
    obtain ⟨present,plain⟩ := reader.plain address family found
    rw [whole,slash]
    refine ⟨by simp,fun c mem => ?_⟩
    rcases List.mem_append.mp mem with front | back
    · exact ordinaryClass (by decide) (plain c front)
    · rcases List.mem_cons.mp back with rfl | digits
      · decide
      · exact unsignedPlain parsed c digits
  · rename_i address parts
    rw [parts] at whole
    split at valid <;> try contradiction
    rename_i family found
    obtain ⟨present,plain⟩ := reader.plain address family found
    rw [whole,List.append_nil]
    exact ⟨present,fun c mem => ordinaryClass (by decide) (plain c mem)⟩

theorem readsIndex (valid : policy.validate = .ok ()) : Reads .gap (indexLines policy) (tokensAll policy.directives)
    (∀ entry ∈ policy.order, entry.head?.any opens = true ∧ Bare entry) .gap := by
  obtain ⟨_,_,entries⟩ := bindOk valid
  have plain : ∀ entry ∈ policy.order, entry ≠ [] ∧ ';' ∉ entry := by
    intro entry mem
    have fits := requireOk (eachValid entries entry mem)
    simp only [Bool.and_eq_true,decide_eq_true_eq,List.all_eq_true] at fits
    exact ⟨fits.1.1.1,fun semi => absurd (fits.2 _ semi) (by decide)⟩
  have first : Reads .gap (chars "index ") [.word (chars "index")] True .gap := spelt (by decide)
  have closing : scan .gap (chars "autoindex " ++ (if policy.autoindex then chars "on" else chars "off") ++ chars ";\n") =
      some ([.word (chars "autoindex"),.word (if policy.autoindex then chars "on" else chars "off"),.semi],.gap) := by
    cases policy.autoindex <;> decide
  have names := Reads.listed plain closing (by cases policy.autoindex <;> decide)
  have split : words "autoindex on" = [chars "autoindex",chars "on"] ∧ words "autoindex off" = [chars "autoindex",chars "off"] := by
    decide
  refine ((first.andThen names).cast ?_ (by simp)).ofText ?_
  · unfold IndexPolicy.directives
    cases policy.autoindex <;> simp [tokensAll,Directive.tokens,fixed,split]
  · simp only [indexLines,List.append_assoc,(by decide : chars ";\nautoindex " = ';':: '\n'::chars "autoindex "),List.cons_append]

theorem readsPage (valid : page.validate = .ok ()) :
    Reads .gap (errorPageLine page) page.directive.tokens (Bare page.documentPath) .gap := by
  obtain ⟨_,_,path⟩ := bindOk valid
  have first : Reads .gap (chars "error_page ") [.word (chars "error_page")] True .gap := spelt (by decide)
  have status : Reads .gap (decimal page.status ++ chars " ") [.word (decimal page.status)] True .gap :=
    Reads.plain (decimalPresent _) (decimalPlain _) (closed (by decide))
  have last : Reads .gap (page.documentPath ++ chars ";\n") [.word page.documentPath,.semi] (Bare page.documentPath) .gap :=
    Reads.argument (pathStart path).1 (closed (by decide))
  refine (((first.andThen status).andThen last).cast ?_ (by simp)).ofText (by simp only [errorPageLine,List.append_assoc])
  simp [ErrorPageOverride.directive,Directive.tokens]

theorem readsRewrite (valid : rule.validate = .ok ()) (present : flag ≠ []) (plain : ∀ c ∈ flag, ordinary c = true) :
    Reads .gap (rewriteLine rule flag) (rewriteDirective rule flag).tokens (Bare rule.sourcePrefix ∧ Unbroken rule.destination)
      .gap := by
  obtain ⟨_,path,_⟩ := bindOk valid
  have first : Reads .gap (chars "rewrite ^") [.word (chars "rewrite")] True (.word (chars "^") false false) :=
    spelt (by decide)
  have source : Reads (.word (chars "^") false false) ((rule.sourcePrefix ++ chars "(.*)$") ++ chars " ")
      [.word (chars "^" ++ (rule.sourcePrefix ++ chars "(.*)$"))] _ .gap := Reads.inWord (closed (by decide))
  have target : Reads .gap ((rule.destination ++ chars "$1") ++ chars " ") [.word (rule.destination ++ chars "$1")] _ .gap :=
    Reads.argument (destinationStart valid _) (closed (by decide))
  have last : Reads .gap (flag ++ chars ";\n") [.word flag,.semi] True .gap := Reads.plain present plain (closed (by decide))
  have split : chars "(.*)$ " = chars "(.*)$" ++ chars " " ∧ chars "$1 " = chars "$1" ++ chars " " := by decide
  have whole := ((first.andThen source).andThen target).andThen last
  refine (whole.cast ?_ ?_).ofText (by simp only [rewriteLine,split.1,split.2,List.append_assoc])
  · simp [rewriteDirective,Directive.tokens]
  · have from' : Settles false false (rule.sourcePrefix ++ chars "(.*)$") ↔ Bare rule.sourcePrefix :=
      (settlesBefore (by decide)).trans (unbrokenBare (pathStart path).2)
    have onto : Bare (rule.destination ++ chars "$1") ↔ Unbroken rule.destination := settlesBefore (by decide)
    simp [from',onto]

theorem readsReturn (valid : rule.validate = .ok ()) : Reads .gap (returnLine rule) (returnDirective rule).tokens
      (Bare rule.sourcePrefix ∧ Unbroken rule.destination) .gap := by
  obtain ⟨_,path,_⟩ := bindOk valid
  have source : Reads .gap (rule.sourcePrefix ++ chars " \x7b return ") [.word rule.sourcePrefix,.opening,.word (chars "return")]
      (Bare rule.sourcePrefix) .gap := Reads.argument (pathStart path).1 (closed (by decide))
  have code : Reads .gap (decimal rule.status.code ++ chars " ") [.word (decimal rule.status.code)] True .gap :=
    Reads.plain (decimalPresent _) (decimalPlain _) (closed (by decide))
  have target : Reads .gap ((rule.destination ++ chars "$request_uri") ++ chars "; \x7d\n")
      [.word (rule.destination ++ chars "$request_uri"),.semi,.closing] _ .gap :=
    Reads.argument (destinationStart valid _) (closed (by decide))
  have split : chars "$request_uri; \x7d\n" = chars "$request_uri" ++ chars "; \x7d\n" := by decide
  have whole := ((locationRead.andThen source).andThen code).andThen target
  refine (whole.cast ?_ ?_).ofText (by simp only [returnLine,split,List.append_assoc])
  · simp [returnDirective,Directive.tokens,tokensAll]
  · have onto : Bare (rule.destination ++ chars "$request_uri") ↔ Unbroken rule.destination := settlesBefore (by decide)
    simp [onto]

theorem readsRedirect (valid : rule.validate = .ok ()) :
    Reads .gap (redirectLine rule) rule.directive.tokens (Bare rule.sourcePrefix ∧ Unbroken rule.destination) .gap := by
  unfold redirectLine RedirectRule.directive
  cases status : rule.status with
  | movedPermanently => exact readsRewrite valid (by decide) (List.all_eq_true.mp (by decide))
  | found => exact readsRewrite valid (by decide) (List.all_eq_true.mp (by decide))
  | temporaryRedirect => exact readsReturn valid
  | permanentRedirect => exact readsReturn valid

theorem readsProtected (opened : htpasswdPrefix.head?.any opens = true)
    (bare : Bare htpasswdPrefix) (valid : indexed.1.validate = .ok ()) :
    Reads .gap (protectedLines htpasswdPrefix indexed) (protectedDirective htpasswdPrefix indexed).tokens
      (Bare indexed.1.pathPrefix ∧ Quotable '"' indexed.1.realm) .gap := by
  obtain ⟨_,path,_⟩ := bindOk valid
  have dir : Reads .gap (indexed.1.pathPrefix ++ chars " \x7b\n    auth_basic \"")
      [.word indexed.1.pathPrefix,.opening,.word (chars "auth_basic")] (Bare indexed.1.pathPrefix) (.quoted '"' [] false) :=
    Reads.argument (pathStart path).1 (closed (by decide))
  have realm : Reads (.quoted '"' [] false) (indexed.1.realm ++ chars "\";\n    auth_basic_user_file ")
      [.word indexed.1.realm,.semi,.word (chars "auth_basic_user_file")] (Quotable '"' indexed.1.realm) .gap :=
    Reads.quoted (quits (by decide))
  have named : Bare (htpasswdFile htpasswdPrefix indexed.2) :=
    bareBefore bare (plainAppend (plainAppend (List.all_eq_true.mp (by decide)) (decimalPlain _)) (List.all_eq_true.mp (by decide)))
  have file : Reads .gap (htpasswdFile htpasswdPrefix indexed.2 ++ chars ";\n\x7d\n")
      [.word (htpasswdFile htpasswdPrefix indexed.2),.semi,.closing] (Bare (htpasswdFile htpasswdPrefix indexed.2)) .gap := by
    refine Reads.argument ?_ (closed (by decide))
    obtain ⟨c,tail,rfl⟩ := List.exists_cons_of_ne_nil (show htpasswdPrefix ≠ [] by rintro rfl; cases opened)
    exact opened
  have split : chars ".htpasswd;\n\x7d\n" = chars ".htpasswd" ++ chars ";\n\x7d\n" := by decide
  have whole := ((locationRead.andThen dir).andThen realm).andThen file
  refine (whole.cast ?_ ?_).ofText (by simp only [protectedLines,htpasswdFile,split,List.append_assoc])
  · simp [protectedDirective,Directive.tokens,tokensAll]
  · simp [named]

theorem readsHotlink (valid : policy.validate = .ok ()) : Reads .gap (hotlinkLines policy) (tokensAll policy.directives) True .gap := by
  unfold hotlinkLines HotlinkPolicy.directives
  split
  · obtain ⟨_,_,referers⟩ := bindOk valid
    have plain : ∀ referer ∈ policy.allowedReferers, referer ≠ [] ∧ ∀ c ∈ referer, ordinary c = true := by
      intro referer mem
      have fits := requireOk (eachValid referers referer mem)
      simp only [Bool.and_eq_true,decide_eq_true_eq,List.all_eq_true] at fits
      exact ⟨fits.1.1,fun c inside => ordinaryClass (by decide) (fits.2 c inside)⟩
    have joined : [' '].intercalate (chars "none blocked server_names"::policy.allowedReferers) =
        [' '].intercalate (words "none blocked server_names" ++ policy.allowedReferers) := by
      have three : words "none blocked server_names" = [chars "none",chars "blocked",chars "server_names"] := by decide
      have text : chars "none blocked server_names" = chars "none" ++ [' '] ++ (chars "blocked" ++ [' '] ++ chars "server_names") := by
        decide
      rw [three,text]
      cases policy.allowedReferers with
      | nil => rfl
      | cons referer rest => simp [List.intercalate_cons_cons]
    have starts : ∀ value ∈ words "none blocked server_names" ++ policy.allowedReferers, value.head?.any opens = true ∧ Bare value := by
      intro value mem
      rcases List.mem_append.mp mem with known | referer
      · exact (by decide : ∀ value ∈ words "none blocked server_names", value.head?.any opens = true ∧ Bare value) value known
      · obtain ⟨present,inside⟩ := plain value referer
        obtain ⟨c,tail,rfl⟩ := List.exists_cons_of_ne_nil present
        exact ⟨ordinaryOpens (inside c List.mem_cons_self),ordinaryWalk inside false⟩
    have first : Reads .gap (chars "valid_referers ") [.word (chars "valid_referers")] True .gap := spelt (by decide)
    have last : Reads .gap ([' '].intercalate (words "none blocked server_names" ++ policy.allowedReferers) ++
          chars ";\nif ($invalid_referer) \x7b return 403; \x7d\n")
        ((words "none blocked server_names" ++ policy.allowedReferers).map .word ++
          .semi::(Directive.block (words "if ($invalid_referer)") [fixed "return 403"]).tokens) _ .gap :=
      Reads.arguments (fun value mem => (starts value mem).1) (closed (by decide))
    have named : words "valid_referers none blocked server_names" = chars "valid_referers"::words "none blocked server_names" := by
      decide
    rw [joined]
    refine ((first.andThen last).cast ?_ ?_).ofText (by simp only [List.append_assoc])
    · simp [tokensAll,Directive.tokens,named]
    · exact iff_of_true ⟨trivial,fun value mem => (starts value mem).2⟩ trivial
  · exact Reads.nothing

theorem readsIp (valid : rule.validate reader = .ok ()) : Reads .gap (ipLine rule) rule.directive.tokens True .gap := by
  obtain ⟨present,plain⟩ := cidrPlain valid
  have last : Reads .gap (rule.cidr ++ chars ";\n") [.word rule.cidr,.semi] True .gap :=
    Reads.plain present plain (closed (by decide))
  unfold ipLine ClientIpRule.directive
  cases rule.effect
  · have first : Reads .gap (chars "allow ") [.word (chars "allow")] True .gap := literal (by decide)
    exact ((first.andThen last).cast (by simp [Directive.tokens]) (by simp)).ofText (by simp only [List.append_assoc])
  · have first : Reads .gap (chars "deny ") [.word (chars "deny")] True .gap := literal (by decide)
    exact ((first.andThen last).cast (by simp [Directive.tokens]) (by simp)).ofText (by simp only [List.append_assoc])

theorem readsMime (valid : mime.validate = .ok ()) : Reads .gap (mimeLine mime) mime.directive.tokens True .gap := by
  obtain ⟨_,extension,valid⟩ := bindOk valid
  have ext := requireOk extension
  have type := requireOk valid
  simp only [Bool.and_eq_true,List.all_eq_true] at ext type
  have extPlain : ∀ c ∈ mime.extension, ordinary c = true := fun c mem =>
    (Bool.or_eq_true_iff.mp (ext.2 c mem)).elim (ordinaryClass (by decide)) (ordinaryClass (by decide))
  have typePlain : ∀ c ∈ mime.mimeType, ordinary c = true := fun c mem => ordinaryClass (by decide) (type.2 c mem)
  have present : mime.mimeType ≠ [] := by
    intro empty
    rw [empty] at type
    simp at type
  have first : Reads .gap (chars "location ~* \\.") [.word (chars "location"),.word (chars "~*")] True
      (.word (chars "\\.") false false) := spelt (by decide)
  have matched : Reads (.word (chars "\\.") false false) ((mime.extension ++ chars "$") ++ chars " \x7b types \x7b \x7d default_type ")
      [.word (chars "\\." ++ (mime.extension ++ chars "$")),.opening,.word (chars "types"),.opening,.closing,.word (chars "default_type")]
      _ .gap := Reads.inWord (closed (by decide))
  have last : Reads .gap (mime.mimeType ++ chars "; \x7d\n") [.word mime.mimeType,.semi,.closing] True .gap :=
    Reads.plain present typePlain (closed (by decide))
  have split : chars "$ \x7b types \x7b \x7d default_type " = chars "$" ++ chars " \x7b types \x7b \x7d default_type " := by
    decide
  have settled : Settles false false (mime.extension ++ chars "$") := by
    obtain ⟨flag,walked⟩ := ordinaryWalk extPlain false
    exact (settlesBefore (by decide)).mpr (by rw [Unbroken,walked]; rfl)
  have whole := (first.andThen matched).andThen last
  refine (whole.cast ?_ ?_).ofText (by simp only [mimeLine,split,List.append_assoc])
  · simp [MimeOverride.directive,Directive.tokens,tokensAll]
  · simp [settled]

theorem readsHeading (c) : Reads .gap (header c) [] True .gap :=
  Waf.readsRevision (spelt (by decide)) c.siteId c.version

theorem controlsNamed (htpasswdPrefix) (c : SiteHttpControls) : NamedAll (c.directives htpasswdPrefix) := by
  have mapped : ∀ {α : Type} (f : α → Directive) (xs : List α), (∀ x, (f x).Named) → NamedAll (xs.map f) :=
    fun f xs each => namedAll.mpr (fun d mem => by
      obtain ⟨x,_,rfl⟩ := List.mem_map.mp mem
      exact each x)
  have index : NamedAll (c.indexPolicy.toList.flatMap IndexPolicy.directives) := by
    cases c.indexPolicy with
    | none => trivial
    | some policy => cases on : policy.autoindex <;> simp [IndexPolicy.directives,NamedAll,Directive.Named,on,fixedNamed]
  have hotlink : NamedAll (c.hotlink.toList.flatMap HotlinkPolicy.directives) := by
    cases c.hotlink with
    | none => trivial
    | some policy => cases on : policy.defaultDeny <;>
        simp [HotlinkPolicy.directives,NamedAll,Directive.Named,on,wordsPresent,fixedNamed]
  have redirect : ∀ rule : RedirectRule, rule.directive.Named := by
    intro rule
    unfold RedirectRule.directive
    cases rule.status <;> simp [rewriteDirective,returnDirective,Directive.Named,NamedAll]
  have deny : NamedAll (if c.ipRules.any (fun rule => rule.effect == .allow) then [fixed "deny all"] else []) := by
    split <;> simp [NamedAll,fixedNamed]
  simp only [SiteHttpControls.directives,namedAppend]
  refine ⟨⟨⟨⟨⟨⟨⟨index,mapped _ _ ?_⟩,mapped _ _ redirect⟩,mapped _ _ ?_⟩,hotlink⟩,mapped _ _ ?_⟩,deny⟩,mapped _ _ ?_⟩
  · simp [ErrorPageOverride.directive,Directive.Named]
  · simp [protectedDirective,Directive.Named,NamedAll]
  · simp [ClientIpRule.directive,Directive.Named]
  · simp [MimeOverride.directive,Directive.Named,NamedAll]

theorem controlsRead {c checked : SiteHttpControls}
    (valid : c.validated reader = .ok checked) (opened : htpasswdPrefix.head?.any opens = true) (bare : Bare htpasswdPrefix) :
    read (compile htpasswdPrefix checked) = some (checked.directives htpasswdPrefix) ↔ checked.Clean := by
  rw [readIff (controlsNamed htpasswdPrefix checked)]
  obtain ⟨_,sections⟩ := SiteHttpControls.validatedValid valid
  unfold compile
  split
  · rename_i empty
    simp only [SiteHttpControls.isEmpty,Bool.and_eq_true,List.isEmpty_iff,Option.isNone_iff_eq_none] at empty
    obtain ⟨⟨⟨⟨⟨⟨pages,redirects⟩,dirs⟩,hotlink⟩,rules⟩,mimes⟩,index⟩ := empty
    have clean : checked.Clean := ⟨by simp [index],by simp [pages],by simp [redirects],by simp [dirs]⟩
    refine iff_of_true ?_ clean
    simp [SiteHttpControls.directives,pages,redirects,dirs,hotlink,rules,mimes,index,lex,scan,finished,tokensAll]
  · have index := Reads.each (fun policy (mem : policy ∈ checked.indexPolicy.toList) =>
      readsIndex (by simpa [validateOption,Option.mem_toList.mp mem] using sections.indexPolicy))
    have pages := Reads.each (fun page mem => readsPage (sections.errorPages page mem))
    have redirects := Reads.each (fun rule mem => readsRedirect (sections.redirects rule mem))
    have dirs := Reads.each (fun (indexed : ProtectedDir × Nat) (mem : indexed ∈ checked.protectedDirs.zipIdx) =>
      readsProtected opened bare (sections.protectedDirs indexed.1 (List.fst_mem_of_mem_zipIdx mem)))
    have hotlink : Reads .gap (checked.hotlink.toList.flatMap hotlinkLines)
        (tokensAll (checked.hotlink.toList.flatMap HotlinkPolicy.directives)) True .gap := by
      have policy := sections.hotlink
      cases present : checked.hotlink with
      | none => exact Reads.nothing
      | some one =>
        rw [present] at policy
        simpa using readsHotlink policy
    have rules := Reads.each (fun rule mem => readsIp (sections.ipRules rule mem))
    have mimes := Reads.each (fun mime mem => readsMime (sections.mimeOverrides mime mem))
    have deny : Reads .gap (if checked.ipRules.any (fun rule => rule.effect == .allow) then chars "deny all;\n" else [])
        (tokensAll (if checked.ipRules.any (fun rule => rule.effect == .allow) then [fixed "deny all"] else [])) True .gap := by
      split
      · exact spelt (by decide)
      · exact Reads.nothing
    have whole := ((((((((readsHeading checked).andThen index).andThen pages).andThen redirects).andThen dirs).andThen
      hotlink).andThen rules).andThen deny).andThen mimes
    refine (whole.cast ?_ ?_).whole
    · simp only [SiteHttpControls.directives,tokensAllAppend,tokensAllFlatMap,tokensAllMap,List.nil_append]
    · have firsts : (∀ indexed ∈ checked.protectedDirs.zipIdx, Bare indexed.1.pathPrefix ∧ Quotable '"' indexed.1.realm) ↔
          ∀ dir ∈ checked.protectedDirs, Bare dir.pathPrefix ∧ Quotable '"' dir.realm := by
        have same : checked.protectedDirs.zipIdx.map Prod.fst = checked.protectedDirs := List.zipIdx_map_fst 0 _
        constructor
        · intro all dir mem
          rw [← same] at mem
          obtain ⟨indexed,inside,rfl⟩ := List.mem_map.mp mem
          exact all indexed inside
        · exact fun all indexed mem => all indexed.1 (List.fst_mem_of_mem_zipIdx mem)
      rw [firsts]
      constructor
      · rintro ⟨⟨⟨⟨⟨⟨⟨⟨_,names⟩,pages⟩,redirects⟩,dirs⟩,_⟩,_⟩,_⟩,_⟩
        exact ⟨fun policy mem => names policy (Option.mem_toList.mpr mem),pages,redirects,dirs⟩
      · exact fun clean => ⟨⟨⟨⟨⟨⟨⟨⟨trivial,fun policy mem => clean.names policy (Option.mem_toList.mp mem)⟩,clean.pages⟩,
          clean.redirects⟩,clean.dirs⟩,trivial⟩,fun _ _ => trivial⟩,trivial⟩,fun _ _ => trivial⟩

end OpenPanel.HttpControls

namespace OpenPanel.Nginx
open ConfSyntax
open Sites (Site)
open Waf (RuleSet)
open HttpControls (SiteHttpControls AddressReader)

section Generated

variable {site : Site} {tls : Option (List Char × List Char)} {upstream : Option (List Char)} {set checkedSet : RuleSet}
  {snippet htpasswdPrefix : List Char} {reader : AddressReader} {c checked : SiteHttpControls}

theorem generatedAsIntended (paths : PathsBare tls upstream) (setValid : set.validated = .ok checkedSet)
    (compiled : Waf.compile checkedSet = .ok snippet) (valid : c.validated reader = .ok checked)
    (opened : htpasswdPrefix.head?.any opens = true) (bare : Bare htpasswdPrefix) :
    (read (renderFull site tls upstream) = some (vhostDirectives site tls upstream) ↔ Bare site.documentRoot) ∧
    (read snippet = some checkedSet.directives ↔ ∀ rule ∈ checkedSet.rules, rule.enabled = true → rule.kind.Clean) ∧
    (read (HttpControls.compile htpasswdPrefix checked) = some (checked.directives htpasswdPrefix) ↔ checked.Clean) :=
  ⟨vhostRead site paths,Waf.setRead setValid compiled,HttpControls.controlsRead valid opened bare⟩

end Generated

def blockBot : RuleSet := ⟨0x5a,1,.allow,[⟨0x71,true,10,0,none,.userAgentBlock (chars "BadBot/[0-9]+") .deny⟩]⟩

def staff : SiteHttpControls :=
  ⟨0x5a,1,[],[],[⟨chars "/private",chars "Staff only",
    [⟨chars "ada",chars "$2b$10$abcdefghijklmnopqrstuvwxyzabcdefghijklmnopqrstuvwxyz1234"⟩]⟩],none,[],[],
    some ⟨[chars "start.html"],false⟩⟩

def passwordDir : List Char := chars "/var/lib/openpanel/htpasswd/5a"

theorem blockBotValid : blockBot.validated = .ok blockBot := by decide

theorem staffValid : staff.validated HttpControls.noAddresses = .ok staff := by decide

theorem samplesRead : read (render exampleSite) = some (vhostDirectives exampleSite none none) ∧
    (∃ snippet, Waf.compile blockBot = .ok snippet ∧ read snippet = some blockBot.directives) ∧
    read (HttpControls.compile passwordDir staff) = some (staff.directives passwordDir) := by
  obtain ⟨snippet,compiled⟩ := Waf.compiled blockBotValid
  have paths : PathsBare none none := by simp [PathsBare]
  have all : (read (renderFull exampleSite none none) = some (vhostDirectives exampleSite none none) ↔ _) ∧ _ ∧
      (read (HttpControls.compile passwordDir staff) = some (staff.directives passwordDir) ↔ _) :=
    generatedAsIntended paths blockBotValid compiled staffValid (by decide) (by decide)
  refine ⟨all.1.mpr (by decide),⟨snippet,compiled,all.2.1.mpr ?_⟩,all.2.2.mpr ?_⟩
  · intro rule mem _
    rw [List.mem_singleton.mp mem]
    exact (by decide : Quotable '"' (chars "BadBot/[0-9]+"))
  · exact ⟨by decide,by decide,by decide,by decide⟩

theorem rootIncludes : ∃ site, Site.new (List.map Char.toLower) 0x5a 0x0a (chars "example.com") []
      (chars "/srv/www; include /tmp/x") false none = .ok site ∧
    read (render site) ≠ some (vhostDirectives site none none) ∧
    read (rootLines site) = some [.simple [chars "root",chars "/srv/www"],.simple [chars "include",chars "/tmp/x"],
      fixed "index index.html index.htm"] := by
  refine ⟨_,rfl,?_,?_⟩
  · have paths : PathsBare none none := by simp [PathsBare]
    intro intended
    exact absurd ((vhostRead _ paths).mp intended) (by decide)
  · exact (readIff (by simp [NamedAll,Directive.Named,fixedNamed])).mpr (by decide +kernel)

end OpenPanel.Nginx
