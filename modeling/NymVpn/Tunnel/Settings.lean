import NymVpn.Firewall.Compile
import NymVpn.Gateway.Selector

/-!
# Tunnel settings

What changed between two settings, and the resolvers and policies that are read off them. The
addresses of the daemon's own resolvers are passed as `defaultDnsServers`.
-/

namespace TunnelStateMachine

open Net NymFirewall GatewayDirectory

inductive TunnelType where
  | mixnet
  | wireguard
deriving DecidableEq

structure MixnetTunnelOptions where
  mtu : Option UInt16
deriving DecidableEq

inductive WireguardMultihopMode where
  | tunTun
deriving DecidableEq

structure WireguardTunnelOptions where
  multihopMode : WireguardMultihopMode
  enableBridges : Bool
deriving DecidableEq

structure GatewayPerformanceOptions where
  mixnetMinPerformance : Option UInt8
  vpnMinPerformance : Option UInt8
deriving DecidableEq

/-- Delays are in milliseconds. -/
structure MixnetClientConfig where
  disableRealTrafficPoissonProcess : Bool
  disableBackgroundCoverTraffic : Bool
  minMixnodePerformance : Option UInt8
  minGatewayPerformance : Option UInt8
  loopCoverTrafficAverageDelay : Option ℕ
  averagePacketDelay : Option ℕ
  messageSendingAverageDelay : Option ℕ
deriving DecidableEq

inductive DnsOptions where
  | default
  | custom (addrs : List IpAddr)
deriving DecidableEq

structure TunnelSettings where
  enableIpv6 : Bool
  tunnelType : TunnelType
  allowLan : Bool
  residentialExit : Bool
  mixnetTunnelOptions : MixnetTunnelOptions
  wireguardTunnelOptions : WireguardTunnelOptions
  gatewayPerformanceOptions : GatewayPerformanceOptions
  mixnetClientConfig : Option MixnetClientConfig
  entryPoint : EntryPoint
  exitPoint : ExitPoint
  dns : DnsOptions
  killswitch : Bool
  legacySplitTunnel : Bool
  inboundExemptions : List InboundExemption
  gatewayIndependence : GatewayIndependence
deriving DecidableEq

/-! ## What changed -/

inductive TunnelSettingsDiffFields where
  | enableIpv6
  | tunnelType
  | allowLan
  | residentialExit
  | mixnetTunnelOptions
  | wireguardTunnelOptions
  | quic
  | gatewayPerformanceOptions
  | mixnetPerformanceOptions
  | entryPoint
  | exitPoint
  | dns
  | killswitch
  | legacySplitTunnel
  | inboundExemptions
  | gatewayIndependence
deriving DecidableEq

/-- The changed fields, each once. -/
structure TunnelSettingsDiff where
  fields : List TunnelSettingsDiffFields
deriving DecidableEq

namespace TunnelSettingsDiff

def new : TunnelSettingsDiff := ⟨[]⟩

def add (diff : TunnelSettingsDiff) (field : TunnelSettingsDiffFields) : TunnelSettingsDiff :=
  ⟨diff.fields.insert field⟩

def isEmpty (diff : TunnelSettingsDiff) : Bool := diff.fields.isEmpty

def isFieldChanged (diff : TunnelSettingsDiff) (field : TunnelSettingsDiffFields) : Bool :=
  diff.fields.contains field

def onlyFieldChanged (diff : TunnelSettingsDiff) (field : TunnelSettingsDiffFields) : Bool :=
  diff.isFieldChanged field && diff.fields.length == 1

def allowLanChanged (diff : TunnelSettingsDiff) : Bool := diff.isFieldChanged .allowLan

def inboundExemptionsChanged (diff : TunnelSettingsDiff) : Bool :=
  diff.isFieldChanged .inboundExemptions

def killswitchChanged (diff : TunnelSettingsDiff) : Bool := diff.isFieldChanged .killswitch

def hotAppliable : TunnelSettingsDiffFields → Bool
  | .allowLan | .inboundExemptions => true
  | _ => false

def onlyHotAppliableChanged (diff : TunnelSettingsDiff) : Bool :=
  !diff.isEmpty && diff.fields.all hotAppliable

def onlyMixnetPerformanceOptionsChanged (diff : TunnelSettingsDiff) : Bool :=
  diff.onlyFieldChanged .mixnetPerformanceOptions

def selectionInput : TunnelSettingsDiffFields → Bool
  | .entryPoint | .exitPoint | .tunnelType | .quic | .residentialExit
  | .gatewayPerformanceOptions | .gatewayIndependence => true
  | _ => false

def affectsGatewaySelection (diff : TunnelSettingsDiff) : Bool :=
  diff.fields.any selectionInput

variable {diff : TunnelSettingsDiff}

theorem mem_foldl_add {changes : List (TunnelSettingsDiffFields × Bool)}
    {field : TunnelSettingsDiffFields} :
    field ∈ (changes.foldl (fun d c => if c.2 then d.add c.1 else d) diff).fields ↔
      field ∈ diff.fields ∨ (field, true) ∈ changes := by
  induction changes generalizing diff with
  | nil => simp
  | cons c changes ih =>
    obtain ⟨f, changed⟩ := c
    rw [List.foldl_cons, ih]
    cases changed with
    | false => simp
    | true =>
      simp only [if_true, add, List.mem_insert_iff, List.mem_cons, Prod.mk.injEq, and_true]
      tauto

theorem eq_of_onlyFieldChanged {field f : TunnelSettingsDiffFields}
    (h : diff.onlyFieldChanged field = true) (hf : diff.isFieldChanged f = true) : f = field := by
  obtain ⟨hfield, hlength⟩ : field ∈ diff.fields ∧ diff.fields.length = 1 := by
    simpa [onlyFieldChanged, isFieldChanged] using h
  obtain ⟨g, hg⟩ := List.length_eq_one_iff.1 hlength
  have hmem : f ∈ diff.fields := by simpa [isFieldChanged] using hf
  rw [hg, List.mem_singleton] at hfield hmem
  rw [hmem, hfield]

end TunnelSettingsDiff

namespace TunnelSettings

open TunnelSettingsDiff

def criteriaOf (independence : GatewayIndependence) : GatewayIndependence :=
  { independence with enableNotifications := false }

def changes (self other : TunnelSettings) : List (TunnelSettingsDiffFields × Bool) :=
  [(.enableIpv6, self.enableIpv6 != other.enableIpv6),
    (.tunnelType, self.tunnelType != other.tunnelType),
    (.allowLan, self.allowLan != other.allowLan),
    (.residentialExit, self.residentialExit != other.residentialExit),
    (.mixnetTunnelOptions, self.mixnetTunnelOptions != other.mixnetTunnelOptions),
    (.wireguardTunnelOptions, self.wireguardTunnelOptions != other.wireguardTunnelOptions),
    (.quic, self.wireguardTunnelOptions != other.wireguardTunnelOptions &&
      self.wireguardTunnelOptions.enableBridges != other.wireguardTunnelOptions.enableBridges),
    (.gatewayPerformanceOptions, self.gatewayPerformanceOptions != other.gatewayPerformanceOptions),
    (.mixnetPerformanceOptions,
      self.gatewayPerformanceOptions != other.gatewayPerformanceOptions &&
      self.gatewayPerformanceOptions.mixnetMinPerformance !=
        other.gatewayPerformanceOptions.mixnetMinPerformance),
    (.mixnetPerformanceOptions, self.mixnetClientConfig != other.mixnetClientConfig),
    (.entryPoint, self.entryPoint != other.entryPoint),
    (.exitPoint, self.exitPoint != other.exitPoint),
    (.dns, self.dns != other.dns),
    (.killswitch, self.killswitch != other.killswitch),
    (.legacySplitTunnel, self.legacySplitTunnel != other.legacySplitTunnel),
    (.inboundExemptions, self.inboundExemptions != other.inboundExemptions),
    -- The notification switch is for user interfaces alone.
    (.gatewayIndependence,
      criteriaOf self.gatewayIndependence != criteriaOf other.gatewayIndependence)]

def diff (self other : TunnelSettings) : Option TunnelSettingsDiff :=
  let diff := (self.changes other).foldl (fun d c => if c.2 then d.add c.1 else d) .new
  if diff.isEmpty then none else some diff

def Agrees (self other : TunnelSettings) : Prop := self.diff other = none

instance (self other : TunnelSettings) : Decidable (self.Agrees other) :=
  inferInstanceAs (Decidable (_ = none))

variable {s t : TunnelSettings}

theorem isFieldChanged_diff {d : TunnelSettingsDiff}
    (h : s.diff t = some d) (field : TunnelSettingsDiffFields) :
    d.isFieldChanged field = true ↔ (field, true) ∈ s.changes t := by
  unfold diff at h
  simp only at h
  split at h
  · cases h
  · obtain rfl := Option.some.inj h
    rw [isFieldChanged, List.contains_iff_mem, mem_foldl_add]
    simp [new]

theorem diff_eq_none_iff : s.diff t = none ↔ ∀ field, (field, true) ∉ s.changes t := by
  unfold diff
  simp only
  split
  · next h =>
      simp only [true_iff]
      intro field hfield
      have hmem : field ∈ ((s.changes t).foldl (fun d c => if c.2 then d.add c.1 else d)
          new).fields := mem_foldl_add.2 (Or.inr hfield)
      rw [isEmpty, List.isEmpty_iff] at h
      simp [h] at hmem
  · next h =>
      simp only [reduceCtorEq, false_iff, not_forall, not_not]
      rw [isEmpty, List.isEmpty_iff] at h
      obtain ⟨field, hfield⟩ := List.exists_mem_of_ne_nil _ h
      refine ⟨field, ?_⟩
      simpa [new] using mem_foldl_add.1 hfield

section Fields

variable {s t : TunnelSettings} {d : TunnelSettingsDiff}

theorem killswitchChanged_diff (h : s.diff t = some d) :
    d.killswitchChanged = true ↔ s.killswitch ≠ t.killswitch := by
  rw [killswitchChanged, isFieldChanged_diff h]
  simp [changes]

theorem not_mem_changes (h : s.diff t = some d) {field : TunnelSettingsDiffFields}
    (hd : d.isFieldChanged field = false) : (field, true) ∉ s.changes t := by
  rw [← isFieldChanged_diff h, hd]
  decide

theorem enableIpv6_of_unchanged (h : s.diff t = some d)
    (hd : d.isFieldChanged .enableIpv6 = false) : s.enableIpv6 = t.enableIpv6 := by
  simpa [changes] using not_mem_changes h hd

theorem Agrees.killswitch (h : s.Agrees t) : s.killswitch = t.killswitch := by
  by_contra hne
  exact diff_eq_none_iff.1 h .killswitch (by simp [changes, hne])

theorem exists_diff_of_killswitch (h : s.killswitch ≠ t.killswitch) :
    ∃ d, s.diff t = some d ∧ d.killswitchChanged = true := by
  cases hd : s.diff t with
  | none => exact absurd (Agrees.killswitch hd) h
  | some d => exact ⟨d, rfl, (killswitchChanged_diff hd).2 h⟩

end Fields

def essentials (s : TunnelSettings) : TunnelSettings :=
  { s with gatewayIndependence := criteriaOf s.gatewayIndependence }

theorem agrees_iff : s.Agrees t ↔ s.essentials = t.essentials := by
  constructor
  · intro h
    have hsame : ∀ p ∈ s.changes t, p.2 = false := by
      rintro ⟨field, changed⟩ hmem
      cases changed with
      | false => rfl
      | true => exact absurd hmem (diff_eq_none_iff.1 h field)
    simp only [changes, List.forall_mem_cons, bne_eq_false_iff_eq, List.not_mem_nil,
      false_imp_iff, implies_true, and_true] at hsame
    obtain ⟨h1, h2, h3, h4, h5, h6, -, h7, -, h8, h9, h10, h11, h12, h13, h14, h15⟩ := hsame
    simp only [essentials, h1, h2, h3, h4, h5, h6, h7, h8, h9, h10, h11, h12, h13, h14, h15]
  · intro h
    obtain ⟨⟩ := s
    obtain ⟨⟩ := t
    simp only [essentials, TunnelSettings.mk.injEq] at h
    rw [Agrees, diff_eq_none_iff]
    intro field hmem
    simp [changes, h] at hmem

/-! ## What is read off the settings -/

def independenceCriteria (s : TunnelSettings) (relaxIndependence : Bool) : GatewayIndependence :=
  if relaxIndependence then .disabled else s.gatewayIndependence

def allowsAddr (s : TunnelSettings) (ip : IpAddr) : Bool :=
  ip.isIpv4 || (ip.isIpv6 && s.enableIpv6)

def defaultDnsIps (s : TunnelSettings) (defaultDnsServers : List IpAddr) : List IpAddr :=
  defaultDnsServers.filter s.allowsAddr

def dnsIps (s : TunnelSettings) (defaultDnsServers : List IpAddr) : List IpAddr :=
  match s.dns with
  | .custom addrs => addrs.filter s.allowsAddr
  | .default => s.defaultDnsIps defaultDnsServers

def localCustomDnsIps (s : TunnelSettings) (defaultDnsServers : List IpAddr) : List IpAddr :=
  match s.dns with
  | .custom _ =>
    (s.dnsIps defaultDnsServers).filter fun ip => isLocalAddress ip && !ip.isLoopback
  | .default => []

def idleDnsIps (s : TunnelSettings) (defaultDnsServers : List IpAddr) : List IpAddr :=
  s.defaultDnsIps defaultDnsServers ++ s.localCustomDnsIps defaultDnsServers

structure IdleDns where
  localResolvers : List IpAddr
  killswitch : Bool
deriving DecidableEq

def idleDns (s : TunnelSettings) (defaultDnsServers : List IpAddr) : IdleDns :=
  ⟨s.localCustomDnsIps defaultDnsServers, s.killswitch⟩

def bridgesEnabled (s : TunnelSettings) : Bool :=
  s.tunnelType == .wireguard && s.wireguardTunnelOptions.enableBridges

end TunnelSettings

inductive DnsConfig where
  | default
  | override (tunnelConfig nonTunnelConfig : List IpAddr)

def DnsConfig.resolve (config : DnsConfig) (defaultTunConfig : List IpAddr) : ResolvedDnsConfig :=
  match config with
  | .default => ⟨defaultTunConfig, []⟩
  | .override tunnelConfig nonTunnelConfig => ⟨tunnelConfig, nonTunnelConfig⟩

def DnsOptions.toDnsConfig : DnsOptions → DnsConfig
  | .default => .default
  | .custom addrs =>
    if addrs.isEmpty then .default
    else
      let (nonTunnelConfig, tunnelConfig) := addrs.partition isLocalAddress
      .override tunnelConfig nonTunnelConfig

def TunnelSettings.resolvedDnsConfig (s : TunnelSettings) (defaultDnsServers : List IpAddr) :
    ResolvedDnsConfig :=
  s.dns.toDnsConfig.resolve (s.dnsIps defaultDnsServers)

/-! ## The policy between sessions -/

def rootEndpoint (protocol : TransportProtocol) (addr : SocketAddr) : AllowedEndpoint :=
  ⟨⟨addr, protocol⟩, .root⟩

def allowedAddrs (enableIpv6 : Bool) (addrs : List SocketAddr) : List SocketAddr :=
  addrs.filter fun addr => addr.ip.isIpv4 || (enableIpv6 && addr.ip.isIpv6)

def idleBlockedPolicy (s : TunnelSettings) (defaultDnsServers : List IpAddr)
    (apiEndpoints : List SocketAddr) : FirewallPolicy :=
  .blocked s.allowLan ((allowedAddrs s.enableIpv6 apiEndpoints).map (rootEndpoint .tcp))
    (s.idleDnsIps defaultDnsServers)

structure ResolverOverrides where
  addresses : List (String × List SocketAddr)
deriving DecidableEq

def ResolverOverrides.isEmpty (o : ResolverOverrides) : Bool := o.addresses.isEmpty

def ResolverOverrides.allAddresses (o : ResolverOverrides) : List SocketAddr :=
  o.addresses.flatMap Prod.snd

structure ResolvedConfig where
  nyxdSocketAddrs : List SocketAddr
  nymApiResolverOverrides : ResolverOverrides
  nymVpnApiResolverOverrides : ResolverOverrides

namespace ResolvedConfig

def hasResolverOverrides (c : ResolvedConfig) : Bool :=
  !c.nymApiResolverOverrides.isEmpty || !c.nymVpnApiResolverOverrides.isEmpty

def allSocketAddrs (c : ResolvedConfig) : List SocketAddr :=
  c.nyxdSocketAddrs ++ c.nymApiResolverOverrides.allAddresses ++
    c.nymVpnApiResolverOverrides.allAddresses

end ResolvedConfig

/-- The pins follow the policy: only a blocked policy built from a live resolution
admits addresses worth pinning to. -/
def idleResolverPins (killswitch : Bool) (resolution : Option ResolvedConfig) :
    Option ResolverOverrides :=
  (resolution.filter fun resolved => killswitch && resolved.hasResolverOverrides).map
    ResolvedConfig.nymVpnApiResolverOverrides

end TunnelStateMachine
