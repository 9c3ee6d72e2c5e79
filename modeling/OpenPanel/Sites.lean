import OpenPanel.Fallible
import OpenPanel.Rows
import OpenPanel.Values
import Mathlib.Data.List.Infix

/-! Sites and the table that holds them. `str::to_lowercase` is a parameter; what is
accepted has passed the hostname pattern after it. A site carries the checks it passed,
and no statement writes a row past them. Stamps, PHP runtime, clone and template
references are left out. -/
namespace OpenPanel.Sites
open Fallible (bindOk)

inductive SiteStatus where | active | disabled deriving DecidableEq

inductive SiteError where
  | invalidDomain (detail : String)
  | duplicateDomain (domain : List Char)
  | invalidAlias (name : List Char) (detail : String)
  | invalidDocumentRoot (detail : String)
  | notFound (id : Uuid)
  | forbidden
  | nginxTest (detail : String)
  | nginxReload (detail : String)
  | nginxMissing
  | io (detail : String)
  | persistence (message : String)
  deriving DecidableEq

def SiteError.message : SiteError → String
  | .invalidDomain detail => "invalid domain: " ++ detail
  | .duplicateDomain domain => "duplicate domain: " ++ String.ofList domain
  | .invalidAlias name detail => "invalid alias `" ++ String.ofList name ++ "`: " ++ detail
  | .invalidDocumentRoot detail => "invalid document root `" ++ detail ++ "`: must be under /var/www/"
  | .notFound id => "site not found: " ++ id.hyphenated
  | .forbidden => "forbidden"
  | .nginxTest detail => "nginx test failed: " ++ detail
  | .nginxReload detail => "nginx reload failed: " ++ detail
  | .nginxMissing => "nginx not found in PATH"
  | .io detail => "io error: " ++ detail
  | .persistence message => "persistence error: " ++ message

def hostAlnum (c : Char) : Bool := isAsciiLowercase c || isAsciiDigit c

def hostChar (c : Char) : Bool := hostAlnum c || c == '-'

-- `[a-z0-9]([a-z0-9-]{0,61}[a-z0-9])?`
def hostLabel (label : List Char) : Bool :=
  label.length ≤ 63 && label.head?.any hostAlnum && label.getLast?.any hostAlnum && label.all hostChar

/-- `DOMAIN_RE` and `ALIAS_RE`, which are the same: labels between dots, at least two of them. -/
def hostPattern (s : List Char) : Bool := 2 ≤ (s.splitOn '.').length && (s.splitOn '.').all hostLabel

def validateDomain (s : List Char) : Except SiteError Unit :=
  if s = [] ∨ 253 < byteLength s then .error (.invalidDomain "length out of range")
  else if ¬ hostPattern s then .error (.invalidDomain ("`" ++ String.ofList s ++ "` does not match domain pattern"))
  else .ok ()

def validateAlias (s : List Char) : Except SiteError Unit :=
  if s = [] ∨ 253 < byteLength s then .error (.invalidAlias s "length out of range")
  else if s.head? = some '.' ∨ '*' ∈ s then .error (.invalidAlias s "wildcards not allowed")
  else if ¬ hostPattern s then .error (.invalidAlias s "invalid hostname")
  else .ok ()

def validateDocumentRoot (p : List Char) : Except SiteError Unit :=
  if p.head? ≠ some '/' then .error (.invalidDocumentRoot (String.ofList p))
  else if ['.','.'] <:+: p then .error (.invalidDocumentRoot (String.ofList p ++ " contains `..`"))
  else if Char.ofNat 0 ∈ p then .error (.invalidDocumentRoot (String.ofList p ++ " contains NUL"))
  else .ok ()

-- The loop `Site::new` and `Site::change_aliases` both have.
def validateAliases (lower : List Char → List Char) (primary : List Char) :
    List (List Char) → List (List Char) → Except SiteError (List (List Char))
  | validated,[] => .ok validated
  | validated,given::rest =>
    let a := lower given
    if a = primary then .error (.invalidAlias a "alias matches primary domain")
    else do
      validateAlias a
      if a ∈ validated then .error (.invalidAlias a "duplicate alias")
      else validateAliases lower primary (validated ++ [a]) rest

structure AliasesFit (primary : List Char) (aliases : List (List Char)) : Prop where
  apart : primary ∉ aliases
  distinct : aliases.Nodup
  valid : ∀ a ∈ aliases, validateAlias a = .ok ()

theorem validatedFit (fit : AliasesFit primary validated) (ok : validateAliases lower primary validated given = .ok result) :
    AliasesFit primary result := by
  induction given generalizing validated with
  | nil =>
    cases Except.ok.inj ok
    exact fit
  | cons name rest ih =>
    simp only [validateAliases] at ok
    split at ok <;> try contradiction
    rename_i other
    obtain ⟨_,valid,ok⟩ := bindOk ok
    split at ok <;> try contradiction
    rename_i fresh
    refine ih ⟨?_,?_,?_⟩ ok
    · simp only [List.mem_append,List.mem_singleton,not_or]
      exact ⟨fit.apart,Ne.symm other⟩
    · rw [List.nodup_append]
      refine ⟨fit.distinct,List.nodup_singleton _,?_⟩
      intro a mem b last same
      exact fresh (List.mem_singleton.mp last ▸ same ▸ mem)
    · intro a mem
      rcases List.mem_append.mp mem with old | new
      · exact fit.valid a old
      · rwa [List.mem_singleton.mp new]

theorem noAliases (primary) : AliasesFit primary [] := ⟨by simp,List.nodup_nil,by simp⟩

structure Site where
  id : Uuid
  ownerId : Uuid
  primaryDomain : List Char
  aliases : List (List Char)
  documentRoot : List Char
  phpEnabled : Bool
  phpVersion : Option String
  status : SiteStatus
  domainValid : validateDomain primaryDomain = .ok ()
  aliasesFit : AliasesFit primaryDomain aliases
  rootValid : validateDocumentRoot documentRoot = .ok ()
  deriving DecidableEq

namespace Site

def new (lower : List Char → List Char) (id ownerId : Uuid) (primaryDomain : List Char) (aliases : List (List Char))
    (documentRoot : List Char) (phpEnabled : Bool) (phpVersion : Option String) : Except SiteError Site :=
  let primary := lower primaryDomain
  match domain : validateDomain primary with
  | .error e => .error e
  | .ok () => match checked : validateAliases lower primary [] aliases with
    | .error e => .error e
    | .ok validated => match root : validateDocumentRoot documentRoot with
      | .error e => .error e
      | .ok () => .ok ⟨id,ownerId,primary,validated,documentRoot,phpEnabled,phpVersion,.active,domain,
          validatedFit (noAliases primary) checked,root⟩

def changeAliases (lower : List Char → List Char) (site : Site) (aliases : List (List Char)) : Except SiteError Site :=
  match checked : validateAliases lower site.primaryDomain [] aliases with
  | .error e => .error e
  | .ok validated => .ok {site with
      aliases := validated, aliasesFit := validatedFit (noAliases site.primaryDomain) checked}

def enable (site : Site) : Site := {site with status := .active}
def disable (site : Site) : Site := {site with status := .disabled}

def hostnames (site : Site) : List (List Char) := site.primaryDomain::site.aliases

theorem hostnamesDistinct (site : Site) : site.hostnames.Nodup :=
  List.nodup_cons.mpr ⟨site.aliasesFit.apart,site.aliasesFit.distinct⟩

theorem newFields {id ownerId primaryDomain documentRoot aliases phpEnabled phpVersion site}
    (ok : new lower id ownerId primaryDomain aliases documentRoot phpEnabled phpVersion = .ok site) :
    site.id = id ∧ site.ownerId = ownerId ∧ site.primaryDomain = lower primaryDomain ∧ site.status = .active ∧
      validateAliases lower (lower primaryDomain) [] aliases = .ok site.aliases := by
  unfold new at ok
  dsimp only at ok
  split at ok <;> try contradiction
  split at ok <;> try contradiction
  rename_i checked
  split at ok <;> try contradiction
  cases Except.ok.inj ok
  exact ⟨rfl,rfl,rfl,rfl,checked⟩

theorem changedFields {site changed : Site} {aliases : List (List Char)} (ok : site.changeAliases lower aliases = .ok changed) :
    validateAliases lower site.primaryDomain [] aliases = .ok changed.aliases ∧ changed.id = site.id ∧
      changed.ownerId = site.ownerId ∧ changed.primaryDomain = site.primaryDomain ∧ changed.status = site.status := by
  unfold changeAliases at ok
  split at ok <;> try contradiction
  rename_i checked
  cases Except.ok.inj ok
  exact ⟨checked,rfl,rfl,rfl,rfl⟩

end Site

theorem domainPattern (valid : validateDomain s = .ok ()) : hostPattern s = true := by
  unfold validateDomain at valid
  split at valid <;> try contradiction
  split at valid <;> try contradiction
  rename_i fits
  simpa using fits

theorem aliasPattern (valid : validateAlias s = .ok ()) : hostPattern s = true := by
  unfold validateAlias at valid
  split at valid <;> try contradiction
  split at valid <;> try contradiction
  split at valid <;> try contradiction
  rename_i fits
  simpa using fits

theorem patternChars (fits : hostPattern s = true) (mem : c ∈ s) : c = '.' ∨ hostChar c = true := by
  by_cases dot : c = '.'
  · exact .inl dot
  · obtain ⟨label,inside,found⟩ := (memSplit dot).mpr mem
    simp only [hostPattern,hostLabel,Bool.and_eq_true,List.all_eq_true] at fits
    exact .inr ((fits.2 label inside).2 c found)

theorem patternDot (fits : hostPattern s = true) : '.' ∈ s := by
  by_contra none
  have whole : s.splitOn '.' = [s] := by
    refine List.splitOnP_eq_singleton (fun c mem => ?_)
    exact beq_eq_false_iff_ne.mpr (fun same => none (same ▸ mem))
  simp [hostPattern,whole] at fits

theorem Site.hostnameChars (site : Site) (mem : name ∈ site.hostnames) : name ≠ [] ∧ ∀ c ∈ name, c = '.' ∨ hostChar c = true := by
  have fits : hostPattern name = true := by
    rcases List.mem_cons.mp mem with rfl | other
    · exact domainPattern site.domainValid
    · exact aliasPattern (site.aliasesFit.valid name other)
  exact ⟨List.ne_nil_of_mem (patternDot fits),fun c inside => patternChars fits inside⟩

/-- The table `sites`: its primary key, and the unique column of primary domains. -/
structure SiteTable where
  rows : List Site
  ids : Rows.Unique Site.id rows
  domains : Rows.Unique Site.primaryDomain rows

namespace SiteTable

def empty : SiteTable := ⟨[],by simp [Rows.Unique],by simp [Rows.Unique]⟩

def findById (t : SiteTable) (id : Uuid) : Option Site := t.rows.find? (fun r => r.id == id)

def findByDomain (lower : List Char → List Char) (t : SiteTable) (domain : List Char) : Option Site :=
  t.rows.find? (fun r => r.primaryDomain == lower domain)

-- `accounts` are the ids of the table the owner column refers to.
def insert (accounts : List Uuid) (t : SiteTable) (site : Site) : Except DbError SiteTable :=
  if fresh : ∀ r ∈ t.rows, r.id ≠ site.id then
    if unused : ∀ r ∈ t.rows, r.primaryDomain ≠ site.primaryDomain then
      if site.ownerId ∈ accounts then
        .ok ⟨t.rows ++ [site],Rows.insertUnique t.ids fresh,Rows.insertUnique t.domains unused⟩
      else .error .foreignKey
    else .error (.unique "sites.primary_domain")
  else .error (.unique "sites.id")

-- No statement writes a primary domain: the row of the id is of the domain the aliases were checked against.
def writeAliases (changed r : Site) : Site :=
  if same : r.id = changed.id ∧ r.primaryDomain = changed.primaryDomain then
    {r with aliases := changed.aliases, aliasesFit := same.2 ▸ changed.aliasesFit}
  else r

theorem writtenKeys (changed r) : (writeAliases changed r).id = r.id ∧
    (writeAliases changed r).primaryDomain = r.primaryDomain ∧ (writeAliases changed r).status = r.status := by
  unfold writeAliases
  split <;> exact ⟨rfl,rfl,rfl⟩

def updateAliases (t : SiteTable) (changed : Site) : SiteTable where
  rows := t.rows.map (writeAliases changed)
  ids := Rows.mapUnique t.ids (fun r => (writtenKeys changed r).1)
  domains := Rows.mapUnique t.domains (fun r => (writtenKeys changed r).2.1)

def writeStatus (id : Uuid) (status : SiteStatus) (r : Site) : Site :=
  if r.id = id then {r with status := status} else r

theorem statusKeys (id) (status) (r) : (writeStatus id status r).id = r.id ∧
    (writeStatus id status r).primaryDomain = r.primaryDomain ∧ (writeStatus id status r).hostnames = r.hostnames := by
  unfold writeStatus
  split <;> exact ⟨rfl,rfl,rfl⟩

def updateStatus (t : SiteTable) (id : Uuid) (status : SiteStatus) : SiteTable where
  rows := t.rows.map (writeStatus id status)
  ids := Rows.mapUnique t.ids (fun r => (statusKeys id status r).1)
  domains := Rows.mapUnique t.domains (fun r => (statusKeys id status r).2.1)

def delete (t : SiteTable) (id : Uuid) : SiteTable where
  rows := Rows.delete Site.id id t.rows
  ids := Rows.deleteUnique t.ids
  domains := t.domains.sublist (List.filter_sublist.map Site.primaryDomain)

end SiteTable
end OpenPanel.Sites
