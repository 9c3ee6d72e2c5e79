import OpenPanel.CallPool
import OpenPanel.Rows
import OpenPanel.Values

/-! Agents, their fleet tokens and the manifests dispatched to them. Every repository
call is a step and may fail. Actions of a manifest, registering an agent and storing
a manifest are left out. `clock`, the last reading of the clock, is not stored. -/
namespace OpenPanel.Agents
open CallPool

inductive AgentStatus where
  | pending | online | offline | revoked
  deriving DecidableEq

structure AgentRegistration where
  id : Uuid
  hostFingerprint : String
  hostname : String
  status : AgentStatus
  certFingerprint : String
  lastHeartbeatAt : Option DateTime
  registeredAt : DateTime
  ownerId : Uuid
  deriving DecidableEq

namespace AgentRegistration

def markOnline (agent : AgentRegistration) (now : DateTime) : AgentRegistration :=
  {agent with status := .online, lastHeartbeatAt := some now}

def revoke (agent : AgentRegistration) : AgentRegistration := {agent with status := .revoked}

def isUsable (agent : AgentRegistration) : Bool := match agent.status with
  | .online | .pending => true
  | _ => false

end AgentRegistration

inductive FleetTokenScope where
  | read | execute | admin
  deriving DecidableEq

structure FleetToken where
  id : Uuid
  agentId : Uuid
  scope : FleetTokenScope
  tokenHash : String
  issuedAt : DateTime
  expiresAt : DateTime
  revoked : Bool
  deriving DecidableEq

namespace FleetToken

def new (id agentId : Uuid) (scope : FleetTokenScope) (tokenHash : String) (issuedAt expiresAt : DateTime) : FleetToken :=
  ⟨id,agentId,scope,tokenHash,issuedAt,expiresAt,false⟩

def isUsableAt (token : FleetToken) (now : DateTime) : Bool := !token.revoked && decide (now < token.expiresAt)

def revoke (token : FleetToken) : FleetToken := {token with revoked := true}

end FleetToken

structure RecipeManifest where
  id : Uuid
  name : String
  allowedRunners : List String
  signature : String
  signedAt : DateTime
  expiresAt : DateTime
  deriving DecidableEq

namespace RecipeManifest

def isExpiredAt (manifest : RecipeManifest) (now : DateTime) : Bool := decide (manifest.expiresAt ≤ now)
def allowsRunner (manifest : RecipeManifest) (runner : String) : Bool := manifest.allowedRunners.contains runner

end RecipeManifest

inductive AgentError where
  | invalidManifest (detail : String)
  | agentNotFound
  | tokenNotFound
  | revoked
  | runnerNotAllowed (runner : String)
  | manifestExpired
  | persistence (detail : String)
  deriving DecidableEq

structure Store where
  agents : List AgentRegistration
  tokens : List FleetToken
  manifests : List RecipeManifest
  clock : DateTime
  ids : Rows.Unique AgentRegistration.id agents
  tokenIds : Rows.Unique FleetToken.id tokens

namespace Store

def findAgent (s : Store) (id : Uuid) : Option AgentRegistration := s.agents.find? (fun row => row.id == id)
def findToken (s : Store) (id : Uuid) : Option FleetToken := s.tokens.find? (fun row => row.id == id)
def findTokenByHash (s : Store) (hash : String) : Option FleetToken := s.tokens.find? (fun row => row.tokenHash == hash)
def findManifest (s : Store) (id : Uuid) : Option RecipeManifest := s.manifests.find? (fun row => row.id == id)

def writeAgent (copy row : AgentRegistration) : AgentRegistration :=
  {row with status := copy.status, lastHeartbeatAt := copy.lastHeartbeatAt, hostname := copy.hostname}

def updateAgent (s : Store) (copy : AgentRegistration) : Store :=
  {s with
    agents := Rows.update AgentRegistration.id copy.id (writeAgent copy) s.agents
    ids := Rows.updateUnique s.ids (fun _ _ => rfl)}

def updateToken (s : Store) (copy : FleetToken) : Store :=
  {s with
    tokens := Rows.update FleetToken.id copy.id (fun row => {row with revoked := copy.revoked}) s.tokens
    tokenIds := Rows.updateUnique s.tokenIds (fun _ _ => rfl)}

def insertToken (s : Store) (token : FleetToken) : Except DbError Store :=
  if fresh : s.tokens.any (fun row => row.id == token.id) then .error (.unique "fleet_tokens.id")
  else if s.tokens.any (fun row => row.tokenHash == token.tokenHash) then .error (.unique "fleet_tokens.token_hash")
  else if !s.agents.any (fun row => row.id == token.agentId) then .error .foreignKey
  else .ok {s with
    tokens := s.tokens ++ [token]
    tokenIds := Rows.insertUnique s.tokenIds (fun old mem same => fresh (List.any_eq_true.mpr ⟨old,mem,by simp [same]⟩))}

end Store
section Service

inductive Point where
  | heartbeat (agentId : Uuid)
  | heartbeatUpdate (agent : AgentRegistration)
  | beaten (result : Except AgentError Unit)
  | revoke (agentId : Uuid)
  | revokeUpdate (agent : AgentRegistration)
  | revoked (result : Except AgentError AgentRegistration)
  | issueToken (agentId : Uuid) (scope : FleetTokenScope) (tokenHash : String) (ttlSeconds : Int)
  | insertToken (token : FleetToken)
  | issued (result : Except AgentError FleetToken)
  | revokeToken (tokenId : Uuid)
  | updateToken (token : FleetToken)
  | tokenRevoked (result : Except AgentError Unit)
  | resolveToken (tokenHash : String)
  | resolved (result : Except AgentError (Option FleetToken))
  | validateDispatch (agentId manifestId : Uuid) (runner : String)
  | dispatchManifest (agentId manifestId : Uuid) (runner : String)
  | dispatched (agentId : Uuid) (result : Except AgentError RecipeManifest)
  deriving DecidableEq

structure Input where
  fault : Option String
  now : DateTime
  freshId : Uuid

def Input.attempt {α : Type} (input : Input) (result : Except AgentError α) : Except AgentError α :=
  match input.fault with
  | some message => .error (.persistence message)
  | none => result

def persisted {α : Type} (result : Except DbError α) : Except AgentError α :=
  result.mapError (fun e => .persistence e.message)

section Steps

variable (s : Store) (input : Input)

def foundAgent (agentId : Uuid) : Except AgentError AgentRegistration :=
  input.attempt (match s.findAgent agentId with
    | none => .error .agentNotFound
    | some agent => .ok agent)

def beating (agentId : Uuid) : Except AgentError AgentRegistration := do
  let agent ← foundAgent s input agentId
  if agent.status = .revoked then .error .revoked else .ok (agent.markOnline input.now)

def revoking (agentId : Uuid) : Except AgentError AgentRegistration := do
  let agent ← foundAgent s input agentId
  return agent.revoke

def issuing (agentId : Uuid) (scope : FleetTokenScope) (tokenHash : String) (ttlSeconds : Int) :
    Except AgentError FleetToken := do
  let agent ← foundAgent s input agentId
  if !agent.isUsable then .error .revoked
  else .ok (.new input.freshId agentId scope tokenHash input.now (input.now + seconds ttlSeconds))

def revokingToken (tokenId : Uuid) : Except AgentError FleetToken :=
  input.attempt (match s.findToken tokenId with
    | none => .error .tokenNotFound
    | some token => .ok token.revoke)

def resolving (tokenHash : String) : Except AgentError (Option FleetToken) :=
  input.attempt (.ok ((s.findTokenByHash tokenHash).filter (fun token => token.isUsableAt input.now)))

def usable (agentId : Uuid) : Except AgentError Unit := do
  let agent ← foundAgent s input agentId
  if !agent.isUsable then .error .revoked else .ok ()

def dispatching (manifestId : Uuid) (runner : String) : Except AgentError RecipeManifest := do
  let manifest ← input.attempt (match s.findManifest manifestId with
    | none => .error (.invalidManifest "manifest not found")
    | some manifest => .ok manifest)
  if manifest.isExpiredAt input.now then .error .manifestExpired
  else if !manifest.allowsRunner runner then .error (.runnerNotAllowed runner)
  else .ok manifest

def act : Point → Option (Store × Point)
  | .heartbeat agentId => match beating s input agentId with
    | .error e => some (s,.beaten (.error e))
    | .ok agent => some (s,.heartbeatUpdate agent)
  | .heartbeatUpdate agent => match input.attempt (.ok (s.updateAgent agent)) with
    | .error e => some (s,.beaten (.error e))
    | .ok next => some (next,.beaten (.ok ()))
  | .revoke agentId => match revoking s input agentId with
    | .error e => some (s,.revoked (.error e))
    | .ok agent => some (s,.revokeUpdate agent)
  | .revokeUpdate agent => match input.attempt (.ok (s.updateAgent agent)) with
    | .error e => some (s,.revoked (.error e))
    | .ok next => some (next,.revoked (.ok agent))
  | .issueToken agentId scope tokenHash ttlSeconds => match issuing s input agentId scope tokenHash ttlSeconds with
    | .error e => some (s,.issued (.error e))
    | .ok token => some (s,.insertToken token)
  | .insertToken token => match input.attempt (persisted (s.insertToken token)) with
    | .error e => some (s,.issued (.error e))
    | .ok next => some (next,.issued (.ok token))
  | .revokeToken tokenId => match revokingToken s input tokenId with
    | .error e => some (s,.tokenRevoked (.error e))
    | .ok token => some (s,.updateToken token)
  | .updateToken token => match input.attempt (.ok (s.updateToken token)) with
    | .error e => some (s,.tokenRevoked (.error e))
    | .ok next => some (next,.tokenRevoked (.ok ()))
  | .resolveToken tokenHash => some (s,.resolved (resolving s input tokenHash))
  | .validateDispatch agentId manifestId runner => match usable s input agentId with
    | .error e => some (s,.dispatched agentId (.error e))
    | .ok _ => some (s,.dispatchManifest agentId manifestId runner)
  | .dispatchManifest agentId manifestId runner => some (s,.dispatched agentId (dispatching s input manifestId runner))
  | .beaten _ | .revoked _ | .issued _ | .tokenRevoked _ | .resolved _ | .dispatched .. => none

end Steps

def step (s : Store) (point : Point) (input : Input) : Option (Store × Point) :=
  (act s input point).map (fun moved => ({moved.1 with clock := input.now},moved.2))

def entry : Point → Bool
  | .heartbeat _ | .revoke _ | .issueToken .. | .revokeToken _ | .resolveToken _ | .validateDispatch .. => true
  | _ => false

def service : Machine Store Point Input := ⟨entry,step⟩

end Service

end OpenPanel.Agents
