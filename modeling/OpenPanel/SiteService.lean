import OpenPanel.GuardedRun
import OpenPanel.NginxConfig
import OpenPanel.Users

/-! The calls of the sites service over the table and the two configuration
directories. Provisioning and the audit log touch neither. A statement may fail.
`deleted` is history: the primary domains of the deleted sites. -/
namespace OpenPanel.Sites
open Fallible
open Identity (Role)
open Nginx (ConfDirs Binary chars activeName disabledName)

def canManageSites (role : Role) : Bool := role = .owner ∨ role = .admin

structure World where
  table : SiteTable
  dirs : ConfDirs
  deleted : List (List Char)

abbrev Service (α : Type) := Prog World SiteError α

inductive Statement where
  | findById | findByDomain | insert | updateStatus | updateAliases | delete

structure Caller where
  id : Uuid
  role : Role

inductive Op where
  | createSite (ownerId : Uuid) (primaryDomain : List Char) (aliases : List (List Char)) (phpEnabled : Bool)
      (phpVersion : Option String) (documentRoot : Option (List Char))
  | enableSite (id : Uuid)
  | disableSite (id : Uuid)
  | changeAliases (id : Uuid) (aliases : List (List Char))
  | deleteSite (id : Uuid)

structure Call where
  caller : Caller
  nginx : Binary
  fault : Statement → Option String
  freshId : Uuid
  op : Op

/-- `str::to_lowercase`, and the accounts an owner can be. -/
structure Env where
  lower : List Char → List Char
  accounts : List Uuid

section Calls

variable (env : Env) (call : Call)

def query {α : Type} (statement : Statement) (f : SiteTable → α) : Service α := reads (fun w =>
  match call.fault statement with
  | some message => .error (.persistence message)
  | none => .ok (f w.table))

def execute (statement : Statement) (f : SiteTable → Except DbError SiteTable) : Service Unit := attempt (fun w =>
  match call.fault statement with
  | some message => .error (.persistence message)
  | none => match f w.table with
    | .error e => .error (.persistence e.message)
    | .ok table => .ok ((),{w with table}))

def generate (prog : Nginx.Generator Unit) : Service Unit := zoom World.dirs (fun dirs w => {w with dirs}) id prog

def getSite (id : Uuid) : Service Site := do
  let row ← query call .findById (fun t => t.findById id)
  match row with
  | none => throw (.notFound id)
  | some site => pure site

-- The branch for administrators allows either way.
def mayManage (caller : Caller) (site : Site) : Bool :=
  match caller.role with
  | .owner => true
  | .admin => if site.ownerId = caller.id then true else true
  | .user => site.ownerId = caller.id

def assertCanManage (site : Site) : Service Unit := if mayManage call.caller site then pure () else throw .forbidden

def defaultRoot (primaryDomain : List Char) : List Char := chars "/var/www/" ++ primaryDomain ++ chars "/public_html"

def createSite (ownerId : Uuid) (primaryDomain : List Char) (aliases : List (List Char)) (phpEnabled : Bool)
    (phpVersion : Option String) (documentRoot : Option (List Char)) : Service Unit :=
  if canManageSites call.caller.role then do
    let existing ← query call .findByDomain (fun t => t.findByDomain env.lower primaryDomain)
    match existing with
    | some site => throw (.duplicateDomain site.primaryDomain)
    | none =>
      let site ← reads (fun _ => Site.new env.lower call.freshId ownerId primaryDomain aliases
        (documentRoot.getD (defaultRoot primaryDomain)) phpEnabled phpVersion)
      execute call .insert (fun t => t.insert env.accounts site)
      onError (generate (Nginx.apply call.nginx site)) (execute call .delete (fun t => .ok (t.delete site.id)))
  else throw .forbidden

def enableSite (id : Uuid) : Service Unit := do
  let site ← getSite call id
  assertCanManage call site
  generate (Nginx.apply call.nginx site.enable)
  execute call .updateStatus (fun t => .ok (t.updateStatus id .active))

def disableSite (id : Uuid) : Service Unit := do
  let site ← getSite call id
  assertCanManage call site
  generate (Nginx.disable call.nginx site.disable)
  execute call .updateStatus (fun t => .ok (t.updateStatus id .disabled))

def changeAliases (id : Uuid) (aliases : List (List Char)) : Service Unit := do
  let site ← getSite call id
  assertCanManage call site
  let changed ← reads (fun _ => site.changeAliases env.lower aliases)
  execute call .updateAliases (fun t => .ok (t.updateAliases changed))
  generate (Nginx.apply call.nginx changed)

def deleteSite (id : Uuid) : Service Unit := do
  let site ← getSite call id
  assertCanManage call site
  generate (Nginx.remove call.nginx site)
  execute call .delete (fun t => .ok (t.delete id))
  attempt (fun w => .ok ((),{w with deleted := site.primaryDomain::w.deleted}))

def serve : Service Unit :=
  match call.op with
  | .createSite ownerId primaryDomain aliases phpEnabled phpVersion documentRoot =>
    createSite env call ownerId primaryDomain aliases phpEnabled phpVersion documentRoot
  | .enableSite id => enableSite call id
  | .disableSite id => disableSite call id
  | .changeAliases id aliases => changeAliases env call id aliases
  | .deleteSite id => deleteSite call id

def after (w : World) : World := (exec (serve env call) w).2

end Calls

def fire (env : Env) (w : World) (call : Call) : Option World := some (after env call w)

section Rules

variable {env : Env} {call : Call}

theorem manages {id} {next : Site → Service Unit}
    (stopped : ∀ e, (call.fault .findById = none → ∀ site, w.table.findById id = some site →
      mayManage call.caller site = false) → failed e w)
    (found : ∀ site, w.table.findById id = some site → mayManage call.caller site = true → call.fault .findById = none →
      Ends (next site) w post failed) :
    Ends (do let site ← getSite call id; assertCanManage call site; next site) w post failed := by
  refine .andThen (.asks (fun row ok => ?_) (fun e error => stopped e (fun steady => ?_)))
  · obtain ⟨same,steady⟩ : w.table.findById id = row ∧ call.fault .findById = none := by
      split at ok <;> try contradiction
      exact ⟨Except.ok.inj ok,by assumption⟩
    cases row with
    | none => exact .fails (stopped _ (fun _ site there => by simp [same] at there))
    | some site =>
      refine .returns (.andThen (.branch (fun may => .returns (found site same may steady)) (fun mayNot => ?_)))
      refine .fails (stopped _ (fun _ other there => ?_))
      cases Option.some.inj (same.symm.trans there)
      simpa using mayNot
  · simp [steady] at error

theorem executes {statement} (stopped : ∀ e, call.fault statement ≠ none ∨ (f w.table).isOk = false → failed e w)
    (done : call.fault statement = none → ∀ table, f w.table = .ok table → post () {w with table}) :
    Ends (execute call statement f) w post failed := by
  unfold execute
  cases fault : call.fault statement with
  | some message => exact .attempts (by simp) (fun e _ => stopped e (.inl (by simp [fault])))
  | none =>
    cases ran : f w.table with
    | error e => exact .attempts (by simp [ran]) (fun e _ => stopped e (.inr (by rw [ran]; rfl)))
    | ok table =>
      refine .attempts (fun _ next ok => ?_) (by simp [ran])
      simp only [ran,Except.ok.injEq,Prod.mk.injEq] at ok
      exact ok.2 ▸ done fault table ran

theorem queries (stopped : ∀ e, call.fault statement ≠ none → failed e w)
    (read : call.fault statement = none → post (f w.table) w) : Ends (query call statement f) w post failed := by
  unfold query
  cases fault : call.fault statement with
  | some message => exact .checks (by simp) (fun e _ => stopped e (by simp [fault]))
  | none => exact .knows (by simp) (read fault)

-- nginx and its files are behind the table's back.
theorem generates {prog} (done : ∀ dirs, post () {w with dirs})
    (stopped : ∀ e dirs, failed e {w with dirs}) : Ends (generate prog) w post failed :=
  Ends.within (.whatever (fun _ dirs => done dirs) (fun e dirs => stopped e dirs))

end Rules

section Rows

theorem insertedRows {t stored : SiteTable} (ok : t.insert accounts site = .ok stored) :
    stored.rows = t.rows ++ [site] ∧ (∀ r ∈ t.rows, r.id ≠ site.id) ∧ ∀ r ∈ t.rows, r.primaryDomain ≠ site.primaryDomain := by
  unfold SiteTable.insert at ok
  split at ok <;> try contradiction
  rename_i fresh
  split at ok <;> try contradiction
  rename_i unused
  split at ok <;> try contradiction
  cases Except.ok.inj ok
  exact ⟨rfl,fresh,unused⟩

theorem rolledBack {t stored : SiteTable} (ok : t.insert accounts site = .ok stored) : (stored.delete site.id).rows = t.rows := by
  obtain ⟨rows,fresh,_⟩ := insertedRows ok
  change Rows.delete Site.id site.id stored.rows = t.rows
  rw [rows]
  exact Rows.deleteInserted fresh

end Rows

def panel : Env := ⟨List.map Char.toLower,[0x0a,0x0b]⟩

def emptyWorld : World := ⟨SiteTable.empty,ConfDirs.empty,[]⟩

def byOwner (freshId : Uuid) (op : Op) : Call := ⟨⟨0x0a,.owner⟩,.accepting,fun _ => none,freshId,op⟩

def createExample : Call := byOwner 0x5a (.createSite 0x0a (chars "Example.com") [chars "www.example.com"] false none none)
def createShop : Call := byOwner 0x5b (.createSite 0x0b (chars "shop.test") [] false none none)

end OpenPanel.Sites
