import OpenPanel.NetworkMatchers

/-! Where a notification may be sent. The host of a webhook is resolved before a delivery and
one allowed address among the answers is enough. How a URL is read and what a host
resolves to are inputs. -/
namespace OpenPanel.Notifications
open Security (IpAddr)

structure SmtpChannel where
  allowlist : List String

structure WebhookChannel where
  url : String
  allowlist : List String

inductive ChannelConfig where
  | smtp (config : SmtpChannel)
  | webhook (config : WebhookChannel)

inductive DestinationError where | destinationRejected deriving DecidableEq

def SmtpChannel.allowsRecipient (config : SmtpChannel) (recipient : String) : Bool :=
  config.allowlist.contains (String.ofList ((trim recipient.toList).map Char.toLower))

def WebhookChannel.allowsIp (readAddress : String → Option IpAddr) (config : WebhookChannel) (address : IpAddr) : Bool :=
  config.allowlist.any (fun cidr => cidrContains readAddress cidr address)

-- `parseUrl` answers `host_str` and `port_or_known_default`.
structure Resolver where
  readAddress : String → Option IpAddr
  parseUrl : String → Option (Option String × Option Nat)
  lookupHost : String → Nat → Option (List IpAddr)

def Resolver.addresses (net : Resolver) (destination : String) : Option (List IpAddr) := do
  let (host,port) ← net.parseUrl destination
  net.lookupHost (← host) (← port)

def ensureDestination (net : Resolver) (channel : ChannelConfig) (destination : String) : Except DestinationError Unit :=
  match channel with
  | .smtp config => if config.allowsRecipient destination then .ok () else .error .destinationRejected
  | .webhook config =>
    if destination ≠ config.url then .error .destinationRejected
    else match net.addresses destination with
      | none => .error .destinationRejected
      | some addresses =>
        if addresses.all (fun address => !config.allowsIp net.readAddress address) then .error .destinationRejected
        else .ok ()

def WebhookChannel.Lists (readAddress : String → Option IpAddr) (config : WebhookChannel) (address : IpAddr) : Prop :=
  ∃ cidr ∈ config.allowlist, ∃ network length, networkParts readAddress cidr = some (network,length) ∧
    Fits length network ∧ Inside length network address

theorem containsFits (held : cidrContains readAddress cidr address = true) :
    ∃ network length, networkParts readAddress cidr = some (network,length) ∧ Fits length network := by
  unfold cidrContains at held
  split at held
  · contradiction
  · rename_i network length named
    refine ⟨network,length,named,?_⟩
    split at held <;> try contradiction
    all_goals
      split at held <;> try contradiction
      assumption

theorem allowsIff (readAddress) (config : WebhookChannel) (address) :
    config.allowsIp readAddress address = true ↔ config.Lists readAddress address := by
  simp only [WebhookChannel.allowsIp,List.any_eq_true]
  constructor
  · rintro ⟨cidr,listed,held⟩
    obtain ⟨network,length,named,fits⟩ := containsFits held
    exact ⟨cidr,listed,network,length,named,fits,(webhookInside named fits address).mp held⟩
  · rintro ⟨cidr,listed,network,length,named,fits,inside⟩
    exact ⟨cidr,listed,(webhookInside named fits address).mpr inside⟩

theorem ensuredIff (net) (config) (destination) :
    ensureDestination net (.webhook config) destination = .ok () ↔ destination = config.url ∧
      ∃ addresses, net.addresses destination = some addresses ∧ ∃ address ∈ addresses, config.Lists net.readAddress address := by
  by_cases same : destination = config.url
  · cases resolved : net.addresses destination with
    | none => simp [ensureDestination,same,same ▸ resolved]
    | some addresses => simp [ensureDestination,same,same ▸ resolved,allowsIff]
  · simp [ensureDestination,same]

/-- A destination passes with one allowed address, so the others are inside only when they all are. -/
theorem destinationsInside (net : Resolver) (config : WebhookChannel) (destination : String) :
    (ensureDestination net (.webhook config) destination = .ok () → ∀ addresses, net.addresses destination = some addresses →
      ∀ address ∈ addresses, config.Lists net.readAddress address) ↔
    (destination = config.url → ∀ addresses, net.addresses destination = some addresses →
      (∃ address ∈ addresses, config.Lists net.readAddress address) → ∀ address ∈ addresses, config.Lists net.readAddress address) := by
  rw [ensuredIff]
  constructor
  · exact fun safe same addresses resolved some => safe ⟨same,addresses,resolved,some⟩ addresses resolved
  · rintro safe ⟨same,addresses,resolved,allowed⟩ others again
    cases resolved.symm.trans again
    exact safe same addresses resolved allowed

def hooks : WebhookChannel := ⟨"https://hooks.test/in",["203.0.113.0/24"]⟩

-- The host has a public address of the allowed network and a private one.
def mixed : Resolver :=
  ⟨fun text => if text = "203.0.113.0" then some (.v4 0xcb007100) else none,fun _ => some (some "hooks.test",some 443),
    fun _ _ => some [.v4 0xcb007109,.v4 0x0a000005]⟩

theorem privateAccepted : ensureDestination mixed (.webhook hooks) hooks.url = .ok () ∧
    mixed.addresses hooks.url = some [.v4 0xcb007109,.v4 0x0a000005] ∧ ¬ hooks.Lists mixed.readAddress (.v4 0x0a000005) :=
  ⟨by decide +kernel,rfl,(allowsIff ..).not.mp (by decide +kernel)⟩

end OpenPanel.Notifications
