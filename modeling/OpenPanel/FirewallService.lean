import OpenPanel.Fallible
import OpenPanel.FirewallRules

/-! The firewall service over the nft adapter and its SQLite repository. The host
has the three files of the state directory, the input chain, the stored rules and the
audit log. What nft makes of a file is a parameter; loading one is atomic and appends
its rules to the chain. Every step may fail. -/
namespace OpenPanel.Security
open Fallible

inductive SecurityServiceError where
  | notFound
  | validation (message : String)
  | syntaxRejected
  | verificationFailed
  | firewall
  | persistence
  deriving DecidableEq

def SecurityServiceError.ofDomain (error : SecurityError) : SecurityServiceError := .validation error.message

abbrev Statement := List Char

def tableHead : List Char :=
  "table inet openpanel \x7b\n chain input \x7b type filter hook input priority 0; policy accept;\n".toList

def tableFoot : List Char := " \x7d\n\x7d\n".toList

def statementLine (statement : Statement) : List Char := ' ' :: ' ' :: statement ++ ['\n']

def tableText (statements : List Statement) : List Char := tableHead ++ statements.flatMap statementLine ++ tableFoot

/-- What a file lists for the chain. Of a file in the rendered shape it is the
statements between the lines that open and close the chain. -/
structure Nft where
  lists : List Char → List Statement
  documented : ∀ statements, (∀ statement ∈ statements, OneStatement statement) → lists (tableText statements) = statements

def enabledStatements (rules : List FirewallRule) : List Statement :=
  (rules.filter FirewallRule.enabled).map FirewallRule.renderNft

def renderRuleset (rules : List FirewallRule) : List Char := tableText (enabledStatements rules)

theorem listsRuleset (nft : Nft) (rules) : nft.lists (renderRuleset rules) = enabledStatements rules := by
  refine nft.documented _ (fun statement mem => ?_)
  obtain ⟨rule,_,rfl⟩ := List.mem_map.mp mem
  exact renderOne rule

structure FirewallChanged where
  actor : Uuid
  ruleIds : List Uuid

structure FirewallHost where
  candidate : Option (List Char)
  active : Option (List Char)
  lastGood : Option (List Char)
  live : List Statement
  rules : List FirewallRule
  audit : List FirewallChanged

inductive FirewallStep where
  | checkDir
  | checkWrite
  | check
  | applyDir
  | copyActive
  | applyWrite
  | load
  | rename
  | restore
  | begin
  | deleteRules
  | insertRule (index : Nat)
  | commit
  | audit
  deriving DecidableEq

inductive Verification where
  | answered (reachable : Bool)
  | failed
  | timedOut
  deriving DecidableEq

-- `torn` is what a write that fails leaves of its file.
structure FirewallEnv where
  now : DateTime
  fault : FirewallStep → Bool
  refuses : FirewallStep → Bool
  torn : Option (List Char)
  verification : Verification

section Adapter
variable (nft : Nft) (env : FirewallEnv)

abbrev FirewallProg := Prog FirewallHost SecurityServiceError

def createDir (step : FirewallStep) : FirewallProg Unit :=
  reads (fun _ => if env.fault step then .error .firewall else .ok ())

def writeFile (step : FirewallStep) (put : Option (List Char) → FirewallHost → FirewallHost) (text : List Char) :
    FirewallProg Unit := fun host =>
  if env.fault step then (.error .firewall,put env.torn host) else (.ok (),put (some text) host)

def putCandidate (text : Option (List Char)) (host : FirewallHost) : FirewallHost := {host with candidate := text}
def putLastGood (text : Option (List Char)) (host : FirewallHost) : FirewallHost := {host with lastGood := text}

-- The exit status of nft over the file; only a run without `--check` changes the chain.
def runFile (step : FirewallStep) (checkOnly : Bool) (file : FirewallHost → Option (List Char)) : FirewallProg Bool :=
  attempt (fun host =>
    if env.fault step then .error .firewall
    else if env.refuses step then .ok (false,host)
    else match file host with
      | none => .ok (false,host)
      | some text => .ok (true,if checkOnly then host else {host with live := host.live ++ nft.lists text}))

def check (candidate : List Char) : FirewallProg Bool := do
  createDir env .checkDir
  writeFile env .checkWrite putCandidate candidate
  runFile nft env .check true FirewallHost.candidate

def keepLastGood : FirewallProg Unit := do
  let active ← reads (fun host => .ok host.active)
  match active with
  | some text => writeFile env .copyActive putLastGood text
  | none => pure ()

def rename : FirewallProg Unit := attempt (fun host =>
  if env.fault .rename then .error .firewall else .ok ((),{host with active := host.candidate,candidate := none}))

def apply (candidate : List Char) : FirewallProg Unit := do
  createDir env .applyDir
  keepLastGood env
  writeFile env .applyWrite putCandidate candidate
  let loaded ← runFile nft env .load false FirewallHost.candidate
  if loaded then rename env else throw .firewall

def rollback : FirewallProg Unit := do
  let last ← reads (fun host => .ok host.lastGood)
  match last with
  | some _ => do
    let restored ← runFile nft env .restore false FirewallHost.lastGood
    if restored then pure () else throw .firewall
  | none => pure ()

end Adapter

section Service

def insertRules (env : FirewallEnv) : Nat → List FirewallRule → List FirewallRule →
    Except SecurityServiceError (List FirewallRule)
  | _,table,[] => .ok table
  | index,table,rule::rest =>
    if env.fault (.insertRule index) || table.any (fun stored => stored.id == rule.id) then .error .persistence
    else insertRules env (index + 1) (table ++ [rule]) rest

def replaceRules (env : FirewallEnv) (rules : List FirewallRule) : FirewallProg Unit := attempt (fun host =>
  if env.fault .begin || env.fault .deleteRules then .error .persistence
  else do
    let table ← insertRules env 0 [] rules
    if env.fault .commit then .error .persistence else .ok ((),{host with rules := table}))

-- The result of the audit is dropped.
def record (env : FirewallEnv) (event : FirewallChanged) : FirewallProg Unit := attempt (fun host =>
  .ok ((),if env.fault .audit then host else {host with audit := host.audit ++ [event]}))

structure ApplyCall where
  actor : Uuid
  rules : List FirewallRule
  confirmation : Option BreakGlassConfirmation
  env : FirewallEnv

variable (nft : Nft) (policy : FirewallPolicy) (call : ApplyCall)

def preview : Except SecurityServiceError (List Char) := do
  (policy.validateCandidate call.rules call.confirmation call.env.now).mapError SecurityServiceError.ofDomain
  return renderRuleset call.rules

def applyCandidate : FirewallProg Unit := do
  let candidate ← reads (fun _ => preview policy call)
  let checked ← check nft call.env candidate
  if checked then do
    apply nft call.env candidate
    if call.env.verification = .answered true then do
      replaceRules call.env call.rules
      record call.env ⟨call.actor,call.rules.map FirewallRule.id⟩
    else do
      rollback nft call.env
      throw .verificationFailed
  else throw .syntaxRejected

end Service

end OpenPanel.Security
