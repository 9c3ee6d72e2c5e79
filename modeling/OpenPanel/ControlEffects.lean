import Mathlib.Data.List.Find
import OpenPanel.FrontRewriting
import OpenPanel.SnippetStructure

/-! What the server does with the compiled controls: which client addresses its
access list lets in, and where a request ends that is redirected again and again. -/
namespace OpenPanel.HttpControls
open ConfSyntax
open Nginx (chars words fixed)
open Relation (TransGen)

section Access

variable {α : Type} {covers : List Char → α → Bool} {address : α} {rules : List ClientIpRule} {reader : AddressReader}

def accessLine : Directive → Option (IpEffect × List Char)
  | .simple [verb,who] =>
    if verb = chars "allow" then some (.allow,who) else if verb = chars "deny" then some (.deny,who) else none
  | _ => none

-- The first line that names the address decides; an address no line names is let in.
def access (covers : List Char → α → Bool) (address : α) : List (IpEffect × List Char) → IpEffect
  | [] => .allow
  | (effect,who)::rest => if who = chars "all" ∨ covers who address then effect else access covers address rest

/-- The effect of a matching rule of the lowest ordinal; where no rule matches, an
address is let in when the document allows none by name. -/
def ByOrdinal (covers : List Char → α → Bool) (address : α) (rules : List ClientIpRule) (effect : IpEffect) : Prop :=
  (∃ rule ∈ rules, covers rule.cidr address ∧ effect = rule.effect ∧
    ∀ other ∈ rules, covers other.cidr address → rule.ordinal ≤ other.ordinal) ∨
  (∀ rule ∈ rules, ¬ covers rule.cidr address) ∧ (effect = .allow ↔ ∀ rule ∈ rules, rule.effect ≠ .allow)

def ruleLines (rules : List ClientIpRule) : List (IpEffect × List Char) := rules.map (fun rule => (rule.effect,rule.cidr))

def lastLine (rules : List ClientIpRule) : List (IpEffect × List Char) :=
  if rules.any (fun rule => rule.effect == .allow) then [(.deny,chars "all")] else []

theorem otherLine (verb) (rest) (other : (verb != chars "allow" && verb != chars "deny") = true) :
    accessLine (.simple (verb::rest)) = none := by
  unfold accessLine
  split <;> simp_all

theorem controlsAccess (htpasswdPrefix) (c : SiteHttpControls) :
    (c.directives htpasswdPrefix).filterMap accessLine = ruleLines c.ipRules ++ lastLine c.ipRules := by
  have index : ∀ policy : IndexPolicy, policy.directives.filterMap accessLine = [] := by
    intro policy
    have names := otherLine (chars "index") policy.order (by decide)
    have flag : accessLine (if policy.autoindex then fixed "autoindex on" else fixed "autoindex off") = none := by
      split <;> decide
    simp [IndexPolicy.directives,names,flag]
  have hotlink : ∀ policy : HotlinkPolicy, policy.directives.filterMap accessLine = [] := by
    intro policy
    unfold HotlinkPolicy.directives
    cases policy.defaultDeny
    · rfl
    · rfl
  have redirect : ∀ rule : RedirectRule, accessLine rule.directive = none := by
    intro rule
    unfold RedirectRule.directive
    cases rule.status <;> rfl
  have ip : accessLine ∘ ClientIpRule.directive = some ∘ fun rule => (rule.effect,rule.cidr) := by
    funext rule
    obtain ⟨_,_,effect⟩ := rule
    cases effect <;> rfl
  have last : (if c.ipRules.any (fun rule => rule.effect == .allow) then [fixed "deny all"] else []).filterMap accessLine =
      lastLine c.ipRules := by
    unfold lastLine
    split <;> rfl
  have silent : ∀ {β : Type} (f : β → Directive) (xs : List β), (∀ x, accessLine (f x) = none) → (xs.map f).filterMap accessLine = [] :=
    fun f xs none => List.filterMap_eq_nil_iff.mpr (List.forall_mem_map.mpr (fun x _ => none x))
  have quiet : ∀ {β : Type} (f : β → List Directive) (xs : List β), (∀ x, (f x).filterMap accessLine = []) →
      (xs.flatMap f).filterMap accessLine = [] := fun f xs none => by
    rw [List.filterMap_flatMap]
    exact List.flatMap_eq_nil_iff.mpr (fun x _ => none x)
  have names : (c.ipRules.map ClientIpRule.directive).filterMap accessLine = ruleLines c.ipRules := by
    rw [List.filterMap_map,ip,← List.filterMap_map,List.filterMap_some,ruleLines]
  simp only [SiteHttpControls.directives,List.filterMap_append,quiet _ _ index,quiet _ _ hotlink,names,last,silent _ _ redirect,
    silent ErrorPageOverride.directive _ (fun _ => rfl),silent (protectedDirective htpasswdPrefix) _ (fun _ => rfl),
    silent MimeOverride.directive _ (fun _ => rfl),List.nil_append,List.append_nil]

theorem cidrNamed {rule : ClientIpRule} (valid : rule.validate reader = .ok ()) : rule.cidr ≠ chars "all" := by
  intro same
  have alone : (chars "all").span (fun c => c != '/') = (chars "all",[]) := by decide
  simp only [ClientIpRule.validate,same,alone] at valid
  cases found : reader.read (chars "all") with
  | none => simp [found] at valid
  | some family => exact absurd ((reader.plain _ _ found).2 'l' (by decide)) (by decide)

theorem accessFirst (covers) (address : α) (named : ∀ rule ∈ rules, rule.cidr ≠ chars "all") (rest) :
    access covers address (ruleLines rules ++ rest) =
      ((rules.find? (fun rule => covers rule.cidr address)).map ClientIpRule.effect).getD (access covers address rest) := by
  induction rules with
  | nil => rfl
  | cons rule later ih =>
    rw [List.forall_mem_cons] at named
    by_cases here : covers rule.cidr address
    · simp [ruleLines,access,here]
    · rw [List.find?_cons_of_neg (by simpa using here),← ih named.2]
      simp [ruleLines,access,here,named.1]

/-- The stored rule that covers the address first has the effect of one that covers it with the lowest ordinal. -/
def FirstIsLowest (covers : List Char → α → Bool) (address : α) (rules : List ClientIpRule) : Prop :=
  ∀ first ∈ rules.find? (fun rule => covers rule.cidr address), ∃ lowest ∈ rules, covers lowest.cidr address ∧ first.effect = lowest.effect ∧
    ∀ other ∈ rules, covers other.cidr address → lowest.ordinal ≤ other.ordinal

theorem accessByOrdinal (named : ∀ rule ∈ rules, rule.cidr ≠ chars "all") :
    ByOrdinal covers address rules (access covers address (ruleLines rules ++ lastLine rules)) ↔ FirstIsLowest covers address rules := by
  rw [accessFirst covers address named,FirstIsLowest,ByOrdinal]
  cases found : rules.find? (fun rule => covers rule.cidr address) with
  | some first =>
    have here := List.find?_some found
    rw [or_iff_left (fun none => none.1 first (List.mem_of_find?_eq_some found) here)]
    simp
  | none =>
    have missed : ∀ rule ∈ rules, ¬ covers rule.cidr address := List.find?_eq_none.mp found
    refine iff_of_true (.inr ⟨missed,?_⟩) nofun
    unfold lastLine
    cases allows : rules.any (fun rule => rule.effect == .allow) with
    | true => simpa [access] using allows
    | false => simpa [access] using allows

end Access

def listed (redirects : List RedirectRule) (ipRules : List ClientIpRule) : SiteHttpControls :=
  ⟨0x5a,1,[],redirects,[],none,ipRules,[],none⟩

def tens : AddressReader where
  read text := if text = chars "10.0.0.0" ∨ text = chars "10.1.0.0" then some .v4 else none
  plain text _ found := by
    split at found <;> try contradiction
    rename_i known
    rcases known with rfl | rfl
    · exact ⟨by decide,List.all_eq_true.mp (by decide)⟩
    · exact ⟨by decide,List.all_eq_true.mp (by decide)⟩

-- The first two octets of an address.
def within (cidr : List Char) (address : Nat × Nat) : Bool :=
  cidr = chars "10.0.0.0/8" ∧ address.1 = 10 ∨ cidr = chars "10.1.0.0/16" ∧ address = (10,1)

def office : ClientIpRule := ⟨10,chars "10.1.0.0/16",.allow⟩

def campus : ClientIpRule := ⟨20,chars "10.0.0.0/8",.deny⟩

section Redirects

variable {rules : List RedirectRule}

-- `rewrite ^source(.*)$ destination$1` and `return code destination$request_uri`.
def RedirectRule.apply (rule : RedirectRule) (path : List Char) : List Char :=
  match rule.status with
  | .movedPermanently | .found => rule.destination ++ path.drop rule.sourcePrefix.length
  | .temporaryRedirect | .permanentRedirect => rule.destination ++ path

def redirect (rules : List RedirectRule) (path : List Char) : Option (List Char) :=
  (rules.find? (fun rule => rule.sourcePrefix.isPrefixOf path)).map (RedirectRule.apply · path)

/-- Finitely many redirects lead to an absolute URL or to a path that no rule matches. -/
inductive Lands (rules : List RedirectRule) : List Char → Prop where
  | away (url : httpUrl path = true) : Lands rules path
  | rest (unmatched : redirect rules path = none) : Lands rules path
  | hop (next : redirect rules path = some target) (lands : Lands rules target) : Lands rules path

def Hops (rules : List RedirectRule) (path target : List Char) : Prop := httpUrl path = false ∧ redirect rules path = some target

-- How far a rule, or the test for an absolute URL, looks into a path.
def reach (rules : List RedirectRule) : Nat := rules.foldr (fun rule => max rule.sourcePrefix.length) 8

/-- Redirects lead from the path back to it, or, whatever is appended to it, to a path
that continues it. -/
def Returns (rules : List RedirectRule) (path : List Char) : Prop :=
  TransGen (Hops rules) path path ∨
    ∃ more, TransGen (fun front next => ∀ rest, Hops rules (front ++ rest) (next ++ rest)) path (path ++ more)

def RedirectRule.replaced (rule : RedirectRule) : Nat :=
  match rule.status with
  | .movedPermanently | .found => rule.sourcePrefix.length
  | .temporaryRedirect | .permanentRedirect => 0

theorem applied (rule : RedirectRule) (path) : rule.apply path = rule.destination ++ path.drop rule.replaced := by
  unfold RedirectRule.apply RedirectRule.replaced
  cases rule.status <;> rfl

theorem startsNear {start front : List Char} (fits : start.length ≤ front.length) (rest) :
    start.isPrefixOf (front ++ rest) = start.isPrefixOf front := by
  have opens : front <+: front ++ rest := List.prefix_append ..
  rw [Bool.eq_iff_iff,List.isPrefixOf_iff_prefix,List.isPrefixOf_iff_prefix]
  exact ⟨fun starts => List.prefix_of_prefix_length_le starts opens fits,fun starts => starts.trans opens⟩

theorem urlReach (rules : List RedirectRule) : 8 ≤ reach rules := by
  induction rules with
  | nil => exact Nat.le_refl 8
  | cons rule rules ih => exact ih.trans (Nat.le_max_right ..)

theorem sourceReach (mem : rule ∈ rules) : rule.sourcePrefix.length ≤ reach rules := by
  induction mem with
  | head => exact Nat.le_max_left ..
  | tail _ _ ih => exact ih.trans (Nat.le_max_right ..)

def moveFront (rules : List RedirectRule) (path : List Char) : Option (Nat × List Char) :=
  if httpUrl path then none
  else (rules.find? (fun rule => rule.sourcePrefix.isPrefixOf path)).map (fun rule => (rule.replaced,rule.destination))

theorem moveSource (move : moveFront rules path = some (taken,put)) :
    ∃ rule ∈ rules, rule.sourcePrefix <+: path ∧ rule.replaced = taken ∧ rule.destination = put := by
  unfold moveFront at move
  split at move
  · cases move
  · obtain ⟨rule,first,same⟩ := Option.map_eq_some_iff.mp move
    have matched := List.find?_some first
    obtain ⟨replaced,destination⟩ := Prod.mk.inj same
    exact ⟨rule,List.mem_of_find?_eq_some first,List.isPrefixOf_iff_prefix.mp matched,replaced,destination⟩

def rewriting (rules : List RedirectRule) : FrontRewriting.System Char where
  move := moveFront rules
  window := reach rules
  within move := by
    obtain ⟨rule,_,matched,rfl,_⟩ := moveSource move
    have fits := matched.length_le
    unfold RedirectRule.replaced
    cases rule.status <;> first | exact fits | exact Nat.zero_le _
  near {front} wide rest := by
    have url : httpUrl (front ++ rest) = httpUrl front := by
      have far := (urlReach rules).trans wide
      exact congrArg₂ or (startsNear ((by decide : (chars "http://").length ≤ 8).trans far) rest)
        (startsNear ((by decide : (chars "https://").length ≤ 8).trans far) rest)
    have first : rules.find? (fun rule => rule.sourcePrefix.isPrefixOf (front ++ rest)) =
        rules.find? (fun rule => rule.sourcePrefix.isPrefixOf front) :=
      List.find?_congr (fun rule mem => startsNear ((sourceReach mem).trans wide) rest)
    unfold moveFront
    rw [url,first]
  puts := (List.finite_toSet (rules.map RedirectRule.destination)).subset (by
    rintro put ⟨path,taken,move⟩
    obtain ⟨rule,mem,_,_,rfl⟩ := moveSource move
    exact List.mem_map_of_mem mem)

theorem rewritingSteps : (rewriting rules).Step = Hops rules := by
  funext path target
  simp only [FrontRewriting.System.Step,rewriting,moveFront,Hops,redirect]
  cases httpUrl path with
  | true => simp
  | false => cases rules.find? (fun rule => rule.sourcePrefix.isPrefixOf path) <;> simp [applied,eq_comm]

theorem rewritingRepeats (rules : List RedirectRule) (path) : (rewriting rules).Repeats path ↔ Returns rules path := by
  unfold FrontRewriting.System.Repeats FrontRewriting.System.FrontStep
  rw [rewritingSteps,Returns]

theorem rewritingEnds (rules : List RedirectRule) (path) : (rewriting rules).Ends path ↔ Lands rules path := by
  unfold FrontRewriting.System.Ends
  rw [rewritingSteps]
  constructor
  · intro ends
    induction ends with
    | intro path _ ih =>
      cases url : httpUrl path with
      | true => exact .away url
      | false =>
        cases next : redirect rules path with
        | none => exact .rest next
        | some target => exact .hop next (ih target ⟨url,next⟩)
  · intro lands
    induction lands with
    | away url => exact ⟨_,fun _ hop => by cases url.symm.trans hop.1⟩
    | rest unmatched => exact ⟨_,fun _ hop => by cases unmatched.symm.trans hop.2⟩
    | hop next _ ih => exact ⟨_,fun _ hop => by cases next.symm.trans hop.2; exact ih⟩

theorem redirectsLand (rules : List RedirectRule) : (∀ path, Lands rules path) ↔
    ∀ rule ∈ rules, ∀ rest : List Char, rest.length ≤ reach rules → ¬ Returns rules (rule.destination ++ rest) := by
  have finite : Finite Char := Finite.of_injective (fun c => c.val.toFin) (fun _ _ same => Char.ext (UInt32.toFin_inj.mp same))
  simp only [← rewritingEnds,← rewritingRepeats]
  refine ⟨fun ends rule _ rest _ => FrontRewriting.neverRepeats ends _,fun never => FrontRewriting.endsUnlessRepeats ?_⟩
  rintro put ⟨path,taken,move⟩ rest fits
  obtain ⟨rule,mem,_,_,rfl⟩ := moveSource move
  exact never rule mem rest fits

end Redirects

def deeper : RedirectRule := ⟨10,chars "/docs",chars "/docs/v2",.found⟩

theorem docsNeverLand : (listed [deeper] []).validated noAddresses = .ok (listed [deeper] []) ∧
    ¬ Lands [deeper] (chars "/docs") := by
  have stays : ∀ path, Lands [deeper] path → ¬ chars "/docs" <+: path := by
    intro path lands
    induction lands with
    | away url =>
      rintro ⟨tail,rfl⟩
      cases url
    | rest unmatched =>
      rintro ⟨tail,rfl⟩
      cases unmatched
    | hop next _ ih =>
      rintro ⟨tail,rfl⟩
      cases next
      exact ih ⟨chars "/v2" ++ tail,rfl⟩
  exact ⟨by decide,fun lands => stays _ lands List.prefix_rfl⟩

end OpenPanel.HttpControls
