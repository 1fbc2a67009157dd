import NymVpn.Proto.Gateway
import NymVpn.Tunnel.World

/-!
# Tunnel states in messages

Endpoints travel as text and lose the flow label; the addresses of a bridge travel as an IP
address and a port, and lose the scope as well.
-/

open Net Wire

/-! ## Times -/

/-- An instant, as the library compares two of them: its offset from UTC is left out. -/
structure OffsetDateTime where
  unixTimestamp : ℤ
  nanosecond : ℤ
  inRange : -377705116800 ≤ unixTimestamp ∧ unixTimestamp ≤ 253402300799
  nanosecond_inRange : 0 ≤ nanosecond ∧ nanosecond < 1000000000
deriving DecidableEq

namespace OffsetDateTime

def ofNanoseconds? (n : ℤ) : Option OffsetDateTime :=
  if h : -377705116800 ≤ n / 1000000000 ∧ n / 1000000000 ≤ 253402300799 then
    some ⟨n / 1000000000, n % 1000000000, h, by omega⟩
  else none

def offsetDatetimeIntoProtoTimestamp (datetime : OffsetDateTime) : Proto.Timestamp where
  seconds := datetime.unixTimestamp
  nanos := datetime.nanosecond

/-- The seconds have to be in range on their own. Where only the sum is out of range the
source panics; it fails here. -/
def prostTimestampIntoOffsetDatetime (timestamp : Proto.Timestamp) : Option OffsetDateTime :=
  if -377705116800 ≤ timestamp.seconds ∧ timestamp.seconds ≤ 253402300799 then
    ofNanoseconds? (timestamp.seconds * 1000000000 + timestamp.nanos)
  else none

@[simp]
theorem prostTimestamp_offsetDatetime (datetime : OffsetDateTime) :
    prostTimestampIntoOffsetDatetime datetime.offsetDatetimeIntoProtoTimestamp = some datetime := by
  obtain ⟨seconds, nanos, hseconds, hnanos⟩ := datetime
  have hdiv : (seconds * 1000000000 + nanos) / 1000000000 = seconds := by omega
  have hmod : (seconds * 1000000000 + nanos) % 1000000000 = nanos := by omega
  simp [prostTimestampIntoOffsetDatetime, offsetDatetimeIntoProtoTimestamp, ofNanoseconds?,
    hseconds, hdiv, hmod]

end OffsetDateTime

namespace Proto

/-! ## The messages -/

inductive TunnelState.ErrorStateReason where
  | setFirewallPolicy
  | setRouting
  | setDns
  | tunDevice
  | tunnelProvider
  | ipv6Unavailable
  | sameEntryAndExitGateway
  | performantEntryGatewayUnavailable
  | performantExitGatewayUnavailable
  | invalidEntryGatewayIdentity
  | invalidExitGatewayIdentity
  | invalidEntryGatewayCountry
  | invalidExitGatewayCountry
  | credentialWastedOnEntryGateway
  | credentialWastedOnExitGateway
  | bandwidthExceeded
  | inactiveSubscription
  | inactiveAccount
  | maxDevicesReached
  | deviceTimeOutOfSync
  | deviceLoggedOut
  | internal
  | needsRelaxedIndependenceCriteria
deriving DecidableEq

instance : Enumeration TunnelState.ErrorStateReason where
  number
    | .setFirewallPolicy => 0
    | .setRouting => 1
    | .setDns => 2
    | .tunDevice => 3
    | .tunnelProvider => 4
    | .ipv6Unavailable => 5
    | .sameEntryAndExitGateway => 6
    | .performantEntryGatewayUnavailable => 18
    | .performantExitGatewayUnavailable => 19
    | .invalidEntryGatewayIdentity => 20
    | .invalidExitGatewayIdentity => 21
    | .invalidEntryGatewayCountry => 7
    | .invalidExitGatewayCountry => 8
    | .credentialWastedOnEntryGateway => 9
    | .credentialWastedOnExitGateway => 10
    | .bandwidthExceeded => 11
    | .inactiveSubscription => 12
    | .inactiveAccount => 13
    | .maxDevicesReached => 14
    | .deviceTimeOutOfSync => 15
    | .deviceLoggedOut => 16
    | .internal => 17
    | .needsRelaxedIndependenceCriteria => 22
  values := [.setFirewallPolicy, .setRouting, .setDns, .tunDevice, .tunnelProvider,
    .ipv6Unavailable, .sameEntryAndExitGateway, .performantEntryGatewayUnavailable,
    .performantExitGatewayUnavailable, .invalidEntryGatewayIdentity, .invalidExitGatewayIdentity,
    .invalidEntryGatewayCountry, .invalidExitGatewayCountry, .credentialWastedOnEntryGateway,
    .credentialWastedOnExitGateway, .bandwidthExceeded, .inactiveSubscription, .inactiveAccount,
    .maxDevicesReached, .deviceTimeOutOfSync, .deviceLoggedOut, .internal,
    .needsRelaxedIndependenceCriteria]
  mem_values a := by cases a <;> decide
  nodup := by decide

inductive TunnelState.ActionAfterDisconnect where
  | nothing
  | error
  | reconnect
  | offline
deriving DecidableEq

instance : Enumeration TunnelState.ActionAfterDisconnect where
  number
    | .nothing => 0
    | .error => 1
    | .reconnect => 2
    | .offline => 3
  values := [.nothing, .error, .reconnect, .offline]
  mem_values a := by cases a <;> decide
  nodup := by decide

inductive TunnelType where
  | mixnet
  | wireguard
deriving DecidableEq

instance : Enumeration TunnelType where
  number
    | .mixnet => 0
    | .wireguard => 1
  values := [.mixnet, .wireguard]
  mem_values a := by cases a <;> decide
  nodup := by decide

inductive EstablishConnectionState where
  | resolvingApiAddresses
  | awaitingAccountReadiness
  | refreshingGateways
  | selectingGateways
  | registeringWithGateways
  | connectingTunnel
deriving DecidableEq

instance : Enumeration EstablishConnectionState where
  number
    | .resolvingApiAddresses => 0
    | .awaitingAccountReadiness => 1
    | .refreshingGateways => 2
    | .selectingGateways => 3
    | .registeringWithGateways => 4
    | .connectingTunnel => 5
  values := [.resolvingApiAddresses, .awaitingAccountReadiness, .refreshingGateways,
    .selectingGateways, .registeringWithGateways, .connectingTunnel]
  mem_values a := by cases a <;> decide
  nodup := by decide

structure GatewayLightInfo where
  id : String
  countryCode : Option String
  familyName : Option String

structure Address where
  nymAddress : String
  gatewayId : String

structure MixnetConnectionData where
  nymAddress : Option Address
  exitIpr : Option Address
  ipv4 : String
  ipv6 : Option String
  entryIp : String
  exitIp : String

structure BridgeAddress where
  listenAddr : Option SocketAddr
  remoteAddr : Option SocketAddr

structure WireguardNode where
  endpoint : String
  publicKey : String
  privateIpv4 : String
  privateIpv6 : Option String

structure WireguardConnectionData where
  entry : Option WireguardNode
  exit : Option WireguardNode
  entryBridgeAddr : Option BridgeAddress
  lewesProtocol : Bool

inductive TunnelConnectionData.State where
  | mixnet (data : Option MixnetConnectionData)
  | wireguard (data : Option WireguardConnectionData)

structure TunnelConnectionData where
  state : Option TunnelConnectionData.State

structure EstablishConnectionData where
  entryGateway : Option GatewayLightInfo
  exitGateway : Option GatewayLightInfo
  tunnel : Option TunnelConnectionData

structure ConnectionData where
  entryGateway : Option GatewayLightInfo
  exitGateway : Option GatewayLightInfo
  connectedAt : Option Timestamp
  tunnel : Option TunnelConnectionData

structure TunnelState.Error where
  reason : Int32
  message : Option String

inductive TunnelState.State where
  | disconnected
  | connecting (retryAttempt : UInt32) (state tunnelType : Int32)
      (connectionData : Option EstablishConnectionData)
  | connected (connectionData : Option ConnectionData)
  | disconnecting (afterDisconnect : Int32)
  | error (error : TunnelState.Error)
  | offline (reconnect : Bool)

structure TunnelState where
  state : Option TunnelState.State

end Proto

/-! ## Reasons of the error state -/

namespace TunnelStateMachine.ErrorStateReason

abbrev Reason := Proto.TunnelState.ErrorStateReason

def toProto : ErrorStateReason → Proto.TunnelState.Error
  | .setFirewallPolicy => ⟨number (α := Reason) .setFirewallPolicy, none⟩
  | .setRouting => ⟨number (α := Reason) .setRouting, none⟩
  | .setDns => ⟨number (α := Reason) .setDns, none⟩
  | .tunDevice => ⟨number (α := Reason) .tunDevice, none⟩
  | .tunnelProvider => ⟨number (α := Reason) .tunnelProvider, none⟩
  | .ipv6Unavailable => ⟨number (α := Reason) .ipv6Unavailable, none⟩
  | .sameEntryAndExitGateway => ⟨number (α := Reason) .sameEntryAndExitGateway, none⟩
  | .needsRelaxedIndependenceCriteria =>
    ⟨number (α := Reason) .needsRelaxedIndependenceCriteria, none⟩
  | .performantEntryGatewayUnavailable =>
    ⟨number (α := Reason) .performantEntryGatewayUnavailable, none⟩
  | .performantExitGatewayUnavailable =>
    ⟨number (α := Reason) .performantExitGatewayUnavailable, none⟩
  | .invalidEntryGatewayIdentity => ⟨number (α := Reason) .invalidEntryGatewayIdentity, none⟩
  | .invalidExitGatewayIdentity => ⟨number (α := Reason) .invalidExitGatewayIdentity, none⟩
  | .invalidEntryGatewayCountry => ⟨number (α := Reason) .invalidEntryGatewayCountry, none⟩
  | .invalidExitGatewayCountry => ⟨number (α := Reason) .invalidExitGatewayCountry, none⟩
  | .credentialWastedOnEntryGateway => ⟨number (α := Reason) .credentialWastedOnEntryGateway, none⟩
  | .credentialWastedOnExitGateway => ⟨number (α := Reason) .credentialWastedOnExitGateway, none⟩
  | .bandwidthExceeded => ⟨number (α := Reason) .bandwidthExceeded, none⟩
  | .inactiveAccount => ⟨number (α := Reason) .inactiveAccount, none⟩
  | .inactiveSubscription => ⟨number (α := Reason) .inactiveSubscription, none⟩
  | .maxDevicesReached => ⟨number (α := Reason) .maxDevicesReached, none⟩
  | .deviceTimeOutOfSync => ⟨number (α := Reason) .deviceTimeOutOfSync, none⟩
  | .deviceLoggedOut => ⟨number (α := Reason) .deviceLoggedOut, none⟩
  | .internal message => ⟨number (α := Reason) .internal, some message⟩

def tryFromProto (value : Proto.TunnelState.Error) : Except ConversionError ErrorStateReason := do
  let reason ← okOr (tryFromNumber Reason value.reason) (.noValueSet "tunnel_state::Error::reason")
  match reason with
  | .setFirewallPolicy => return .setFirewallPolicy
  | .setRouting => return .setRouting
  | .setDns => return .setDns
  | .tunDevice => return .tunDevice
  | .tunnelProvider => return .tunnelProvider
  | .ipv6Unavailable => return .ipv6Unavailable
  | .sameEntryAndExitGateway => return .sameEntryAndExitGateway
  | .needsRelaxedIndependenceCriteria => return .needsRelaxedIndependenceCriteria
  | .performantEntryGatewayUnavailable => return .performantEntryGatewayUnavailable
  | .performantExitGatewayUnavailable => return .performantExitGatewayUnavailable
  | .invalidEntryGatewayIdentity => return .invalidEntryGatewayIdentity
  | .invalidExitGatewayIdentity => return .invalidExitGatewayIdentity
  | .invalidEntryGatewayCountry => return .invalidEntryGatewayCountry
  | .invalidExitGatewayCountry => return .invalidExitGatewayCountry
  | .credentialWastedOnEntryGateway => return .credentialWastedOnEntryGateway
  | .credentialWastedOnExitGateway => return .credentialWastedOnExitGateway
  | .bandwidthExceeded => return .bandwidthExceeded
  | .inactiveAccount => return .inactiveAccount
  | .inactiveSubscription => return .inactiveSubscription
  | .maxDevicesReached => return .maxDevicesReached
  | .deviceTimeOutOfSync => return .deviceTimeOutOfSync
  | .deviceLoggedOut => return .deviceLoggedOut
  | .internal => return .internal (value.message.getD "")

@[simp]
theorem tryFromProto_toProto (r : ErrorStateReason) : tryFromProto r.toProto = .ok r := by
  cases r <;> simp [tryFromProto, toProto]

end TunnelStateMachine.ErrorStateReason

namespace LibTypes

/-! ## Connection data -/

inductive TunnelType where
  | mixnet
  | wireguard
deriving DecidableEq

namespace TunnelType

def toProto : TunnelType → Proto.TunnelType
  | .mixnet => .mixnet
  | .wireguard => .wireguard

def fromProto : Proto.TunnelType → TunnelType
  | .mixnet => .mixnet
  | .wireguard => .wireguard

@[simp]
theorem fromProto_toProto (t : TunnelType) : fromProto t.toProto = t := by
  cases t <;> rfl

end TunnelType

inductive EstablishConnectionState where
  | resolvingApiAddresses
  | awaitingAccountReadiness
  | refreshingGateways
  | selectingGateways
  | registeringWithGateways
  | connectingTunnel
deriving DecidableEq

namespace EstablishConnectionState

def toProto : EstablishConnectionState → Proto.EstablishConnectionState
  | .awaitingAccountReadiness => .awaitingAccountReadiness
  | .resolvingApiAddresses => .resolvingApiAddresses
  | .refreshingGateways => .refreshingGateways
  | .selectingGateways => .selectingGateways
  | .registeringWithGateways => .registeringWithGateways
  | .connectingTunnel => .connectingTunnel

def fromProto : Proto.EstablishConnectionState → EstablishConnectionState
  | .awaitingAccountReadiness => .awaitingAccountReadiness
  | .resolvingApiAddresses => .resolvingApiAddresses
  | .refreshingGateways => .refreshingGateways
  | .selectingGateways => .selectingGateways
  | .registeringWithGateways => .registeringWithGateways
  | .connectingTunnel => .connectingTunnel

@[simp]
theorem fromProto_toProto (s : EstablishConnectionState) : fromProto s.toProto = s := by
  cases s <;> rfl

end EstablishConnectionState

structure GatewayLightInfo where
  id : String
  countryCode : Option String
  familyName : Option String
deriving DecidableEq

namespace GatewayLightInfo

def toProto (value : GatewayLightInfo) : Proto.GatewayLightInfo where
  id := value.id
  countryCode := value.countryCode
  familyName := value.familyName

def fromProto (value : Proto.GatewayLightInfo) : GatewayLightInfo where
  id := value.id
  countryCode := value.countryCode
  familyName := value.familyName

end GatewayLightInfo

structure NymAddress where
  nymAddress : String
  gatewayId : String
deriving DecidableEq

namespace NymAddress

def toProto (value : NymAddress) : Proto.Address where
  nymAddress := value.nymAddress
  gatewayId := value.gatewayId

def fromProto (value : Proto.Address) : NymAddress where
  nymAddress := value.nymAddress
  gatewayId := value.gatewayId

end NymAddress

def readOptionalIpv6 (field : String) (text : Option String) :
    Except ConversionError (Option Ipv6Addr) :=
  text.mapM fun text => okOr (readIpv6 text.toList) (.parseAddr field)

@[simp]
theorem readOptionalIpv6_display (field : String) (ip : Option Ipv6Addr) :
    readOptionalIpv6 field (ip.map Ipv6Addr.display) = .ok ip := by
  have hread : readOptionalIpv6 field (ip.map Ipv6Addr.display) = .ok (ip.map id) :=
    mapM_map_option fun ip _ => by rw [readIpv6_display]; rfl
  simpa using hread

structure MixnetConnectionData where
  nymAddress : NymAddress
  exitIpr : NymAddress
  entryIp : IpAddr
  exitIp : IpAddr
  ipv4 : Ipv4Addr
  ipv6 : Option Ipv6Addr
deriving DecidableEq

namespace MixnetConnectionData

def toProto (value : MixnetConnectionData) : Proto.MixnetConnectionData where
  nymAddress := some value.nymAddress.toProto
  exitIpr := some value.exitIpr.toProto
  entryIp := value.entryIp.display
  exitIp := value.exitIp.display
  ipv4 := value.ipv4.display
  ipv6 := value.ipv6.map Ipv6Addr.display

def tryFromProto (value : Proto.MixnetConnectionData) :
    Except ConversionError MixnetConnectionData := do
  let nymAddress ← okOr value.nymAddress (.noValueSet "MixnetConnectionData.nym_address")
  let exitIpr ← okOr value.exitIpr (.noValueSet "MixnetConnectionData.exit_ipr")
  let entryIp ← okOr (IpAddr.fromStr value.entryIp) (.parseAddr "MixnetConnectionData.entry_ip")
  let exitIp ← okOr (IpAddr.fromStr value.exitIp) (.parseAddr "MixnetConnectionData.exit_ip")
  let ipv4 ← okOr (readIpv4 value.ipv4.toList) (.parseAddr "MixnetConnectionData.ipv4")
  let ipv6 ← readOptionalIpv6 "MixnetConnectionData.ipv6" value.ipv6
  return {
    nymAddress := .fromProto nymAddress
    exitIpr := .fromProto exitIpr
    entryIp
    exitIp
    ipv4
    ipv6 }

@[simp]
theorem tryFromProto_toProto (d : MixnetConnectionData) : tryFromProto d.toProto = .ok d := by
  simp [tryFromProto, toProto, IpAddr.fromStr_display, readIpv4_display, NymAddress.toProto,
    NymAddress.fromProto]

end MixnetConnectionData

structure BridgeAddress where
  listenAddr : SocketAddr
  remoteAddr : SocketAddr
deriving DecidableEq

namespace BridgeAddress

def toProto (value : BridgeAddress) : Proto.BridgeAddress where
  listenAddr := some value.listenAddr.toProto
  remoteAddr := some value.remoteAddr.toProto

def tryFromProto (value : Proto.BridgeAddress) : Except ConversionError BridgeAddress := do
  let listenAddr ← okOr value.listenAddr (.noValueSet "BridgeAddress.local_addr")
  let remoteAddr ← okOr value.remoteAddr (.noValueSet "BridgeAddress.remote_addr")
  return {
    listenAddr := ← SocketAddr.tryFromProto listenAddr
    remoteAddr := ← SocketAddr.tryFromProto remoteAddr }

def Plain (value : BridgeAddress) : Prop :=
  (value.listenAddr.flowinfo = 0 ∧ value.listenAddr.scopeId = 0) ∧
    value.remoteAddr.flowinfo = 0 ∧ value.remoteAddr.scopeId = 0

theorem tryFromProto_toProto_iff (a : BridgeAddress) :
    tryFromProto a.toProto = .ok a ↔ a.Plain := by
  obtain ⟨listenAddr, remoteAddr⟩ := a
  simp [tryFromProto, toProto, SocketAddr.tryFromProto_toProto, SocketAddr.new_eq_self_iff, Plain]

end BridgeAddress

structure WireguardNode where
  endpoint : SocketAddr
  publicKey : String
  privateIpv4 : Ipv4Addr
  privateIpv6 : Option Ipv6Addr
deriving DecidableEq

namespace WireguardNode

def toProto (value : WireguardNode) : Proto.WireguardNode where
  publicKey := value.publicKey
  endpoint := value.endpoint.display
  privateIpv4 := value.privateIpv4.display
  privateIpv6 := value.privateIpv6.map Ipv6Addr.display

def tryFromProto (value : Proto.WireguardNode) : Except ConversionError WireguardNode := do
  let endpoint ← okOr (SocketAddr.fromStr value.endpoint) (.parseAddr "WireguardNode.endpoint")
  let privateIpv4 ← okOr (readIpv4 value.privateIpv4.toList)
    (.parseAddr "WireguardNode.private_ipv4")
  let privateIpv6 ← readOptionalIpv6 "WireguardNode.private_ipv6" value.privateIpv6
  return { endpoint, publicKey := value.publicKey, privateIpv4, privateIpv6 }

theorem tryFromProto_toProto_iff (n : WireguardNode) :
    tryFromProto n.toProto = .ok n ↔ n.endpoint.flowinfo = 0 := by
  obtain ⟨endpoint, publicKey, privateIpv4, privateIpv6⟩ := n
  simp [tryFromProto, toProto, SocketAddr.fromStr_display, readIpv4_display,
    SocketAddr.withoutFlowinfo_eq_self_iff]

end WireguardNode

structure WireguardConnectionData where
  entryBridgeAddr : Option BridgeAddress
  entry : WireguardNode
  exit : WireguardNode
  lewesProtocol : Bool
deriving DecidableEq

namespace WireguardConnectionData

def toProto (value : WireguardConnectionData) : Proto.WireguardConnectionData where
  entry := some value.entry.toProto
  exit := some value.exit.toProto
  entryBridgeAddr := value.entryBridgeAddr.map BridgeAddress.toProto
  lewesProtocol := value.lewesProtocol

def tryFromProto (value : Proto.WireguardConnectionData) :
    Except ConversionError WireguardConnectionData := do
  let entry ← WireguardNode.tryFromProto
    (← okOr value.entry (.noValueSet "WireguardConnectionData.entry"))
  let exit ← WireguardNode.tryFromProto
    (← okOr value.exit (.noValueSet "WireguardConnectionData.exit"))
  let entryBridgeAddr ← value.entryBridgeAddr.mapM BridgeAddress.tryFromProto
  return { entry, exit, entryBridgeAddr, lewesProtocol := value.lewesProtocol }

structure Plain (value : WireguardConnectionData) : Prop where
  entryBridgeAddr : ∀ a, value.entryBridgeAddr = some a → a.Plain
  entry : value.entry.endpoint.flowinfo = 0
  exit : value.exit.endpoint.flowinfo = 0

theorem tryFromProto_toProto_iff (d : WireguardConnectionData) :
    tryFromProto d.toProto = .ok d ↔ d.Plain := by
  obtain ⟨bridge, entry, exit, lewesProtocol⟩ := d
  simp only [tryFromProto, toProto, okOr_some, ok_bind, bind_eq_ok_iff, pure_eq_ok, Except.ok.injEq,
    mk.injEq]
  constructor
  · rintro ⟨_, hentry, _, hexit, _, hbridge, rfl, rfl, rfl, -⟩
    exact ⟨fun a ha => (a.tryFromProto_toProto_iff).1 (mapM_map_option_eq_self_iff.1 hbridge a ha),
      (WireguardNode.tryFromProto_toProto_iff _).1 hentry,
      (WireguardNode.tryFromProto_toProto_iff _).1 hexit⟩
  · rintro ⟨hbridge, hentry, hexit⟩
    exact ⟨entry, (WireguardNode.tryFromProto_toProto_iff _).2 hentry, exit,
      (WireguardNode.tryFromProto_toProto_iff _).2 hexit, bridge,
      mapM_map_option_eq_self_iff.2 fun a ha => a.tryFromProto_toProto_iff.2 (hbridge a ha),
      rfl, rfl, rfl, trivial⟩

end WireguardConnectionData

inductive TunnelConnectionData where
  | mixnet (data : MixnetConnectionData)
  | wireguard (data : WireguardConnectionData)
deriving DecidableEq

namespace TunnelConnectionData

def toProto : TunnelConnectionData → Proto.TunnelConnectionData
  | .mixnet data => ⟨some (.mixnet (some data.toProto))⟩
  | .wireguard data => ⟨some (.wireguard (some data.toProto))⟩

def tryFromProto (value : Proto.TunnelConnectionData) :
    Except ConversionError TunnelConnectionData := do
  match ← okOr value.state (.noValueSet "TunnelConnectionData.state") with
  | .mixnet data =>
    return .mixnet (← MixnetConnectionData.tryFromProto
      (← okOr data (.noValueSet "TunnelConnectionData::Mixnet.data")))
  | .wireguard data =>
    return .wireguard (← WireguardConnectionData.tryFromProto
      (← okOr data (.noValueSet "TunnelConnectionData::Wireguard.data")))

def Plain : TunnelConnectionData → Prop
  | .mixnet _ => True
  | .wireguard data => data.Plain

theorem tryFromProto_toProto_iff (d : TunnelConnectionData) :
    tryFromProto d.toProto = .ok d ↔ d.Plain := by
  cases d with
  | mixnet data => simp [tryFromProto, toProto, Plain]
  | wireguard data =>
    simp [tryFromProto, toProto, bind_eq_ok_iff, WireguardConnectionData.tryFromProto_toProto_iff,
      Plain]

end TunnelConnectionData

structure EstablishConnectionData where
  entryGateway : GatewayLightInfo
  exitGateway : GatewayLightInfo
  tunnel : Option TunnelConnectionData
deriving DecidableEq

namespace EstablishConnectionData

def toProto (value : EstablishConnectionData) : Proto.EstablishConnectionData where
  entryGateway := some value.entryGateway.toProto
  exitGateway := some value.exitGateway.toProto
  tunnel := value.tunnel.map TunnelConnectionData.toProto

def tryFromProto (value : Proto.EstablishConnectionData) :
    Except ConversionError EstablishConnectionData := do
  let entryGateway ← okOr (value.entryGateway.map GatewayLightInfo.fromProto)
    (.noValueSet "EstablishingConnectionData.entry_gateway")
  let exitGateway ← okOr (value.exitGateway.map GatewayLightInfo.fromProto)
    (.noValueSet "EstablishingConnectionData.exit_gateway")
  let tunnel ← value.tunnel.mapM TunnelConnectionData.tryFromProto
  return { entryGateway, exitGateway, tunnel }

def Plain (value : EstablishConnectionData) : Prop := ∀ d, value.tunnel = some d → d.Plain

theorem tryFromProto_toProto_iff (d : EstablishConnectionData) :
    tryFromProto d.toProto = .ok d ↔ d.Plain := by
  obtain ⟨entryGateway, exitGateway, tunnel⟩ := d
  simp [tryFromProto, toProto, bind_eq_ok_iff, mapM_map_option_eq_self_iff,
    TunnelConnectionData.tryFromProto_toProto_iff, GatewayLightInfo.toProto,
    GatewayLightInfo.fromProto, Plain]

end EstablishConnectionData

structure ConnectionData where
  entryGateway : GatewayLightInfo
  exitGateway : GatewayLightInfo
  connectedAt : OffsetDateTime
  tunnel : TunnelConnectionData
deriving DecidableEq

namespace ConnectionData

def toProto (value : ConnectionData) : Proto.ConnectionData where
  entryGateway := some value.entryGateway.toProto
  exitGateway := some value.exitGateway.toProto
  connectedAt := some value.connectedAt.offsetDatetimeIntoProtoTimestamp
  tunnel := some value.tunnel.toProto

def tryFromProto (value : Proto.ConnectionData) : Except ConversionError ConnectionData := do
  let connectedAt ← okOr value.connectedAt (.noValueSet "ConnectionData.connected_at")
  let connectedAt ← okOr (OffsetDateTime.prostTimestampIntoOffsetDatetime connectedAt)
    (.convertTime "ConnectionData.connected_at")
  let tunnelConnectionData ← okOr value.tunnel (.noValueSet "ConnectionData.tunnel")
  let entryGateway ← okOr (value.entryGateway.map GatewayLightInfo.fromProto)
    (.noValueSet "ConnectionData.entry_gateway")
  let exitGateway ← okOr (value.exitGateway.map GatewayLightInfo.fromProto)
    (.noValueSet "ConnectionData.exit_gateway")
  let tunnel ← TunnelConnectionData.tryFromProto tunnelConnectionData
  return { entryGateway, exitGateway, connectedAt, tunnel }

theorem tryFromProto_toProto_iff (d : ConnectionData) :
    tryFromProto d.toProto = .ok d ↔ d.tunnel.Plain := by
  obtain ⟨entryGateway, exitGateway, connectedAt, tunnel⟩ := d
  simp [tryFromProto, toProto, bind_eq_ok_iff, TunnelConnectionData.tryFromProto_toProto_iff,
    GatewayLightInfo.toProto, GatewayLightInfo.fromProto]

end ConnectionData

/-! ## The state of the tunnel -/

inductive ActionAfterDisconnect where
  | nothing
  | reconnect
  | offline
  | error
deriving DecidableEq

namespace ActionAfterDisconnect

def toProto : ActionAfterDisconnect → Proto.TunnelState.ActionAfterDisconnect
  | .error => .error
  | .nothing => .nothing
  | .offline => .offline
  | .reconnect => .reconnect

def fromProto : Proto.TunnelState.ActionAfterDisconnect → ActionAfterDisconnect
  | .error => .error
  | .nothing => .nothing
  | .offline => .offline
  | .reconnect => .reconnect

@[simp]
theorem fromProto_toProto (a : ActionAfterDisconnect) : fromProto a.toProto = a := by
  cases a <;> rfl

end ActionAfterDisconnect

open TunnelStateMachine (ErrorStateReason)

inductive TunnelState where
  | disconnected
  | connecting (retryAttempt : UInt32) (state : EstablishConnectionState)
      (tunnelType : TunnelType) (connectionData : Option EstablishConnectionData)
  | connected (connectionData : ConnectionData)
  | disconnecting (afterDisconnect : ActionAfterDisconnect)
  | error (reason : ErrorStateReason)
  | offline (reconnect : Bool)
deriving DecidableEq

namespace TunnelState

def toProto : TunnelState → Proto.TunnelState
  | .disconnected => ⟨some .disconnected⟩
  | .connecting retryAttempt state tunnelType connectionData =>
    ⟨some (.connecting retryAttempt (number state.toProto) (number tunnelType.toProto)
      (connectionData.map EstablishConnectionData.toProto))⟩
  | .connected connectionData => ⟨some (.connected (some connectionData.toProto))⟩
  | .disconnecting afterDisconnect =>
    ⟨some (.disconnecting (number afterDisconnect.toProto))⟩
  | .offline reconnect => ⟨some (.offline reconnect)⟩
  | .error reason => ⟨some (.error reason.toProto)⟩

def tryFromProto (value : Proto.TunnelState) : Except ConversionError TunnelState := do
  match ← okOr value.state (.noValueSet "TunnelState.state") with
  | .disconnected => return .disconnected
  | .disconnecting afterDisconnect =>
    return .disconnecting (.fromProto (← decode Proto.TunnelState.ActionAfterDisconnect
      "TunnelState.after_disconnect" afterDisconnect))
  | .connecting retryAttempt state tunnelType connectionData =>
    let connectionData ← connectionData.mapM EstablishConnectionData.tryFromProto
    let state ← decode Proto.EstablishConnectionState "EstablishConnectionState" state
    let tunnelType ← decode Proto.TunnelType "TunnelType" tunnelType
    return .connecting retryAttempt (.fromProto state) (.fromProto tunnelType) connectionData
  | .connected connectionData =>
    let connectionData ← okOr connectionData (.noValueSet "TunnelState.connection_data")
    return .connected (← ConnectionData.tryFromProto connectionData)
  | .error err => return .error (← ErrorStateReason.tryFromProto err)
  | .offline reconnect => return .offline reconnect

/-- No endpoint has a flow label, and no address of a bridge a flow label or a scope. -/
def Plain : TunnelState → Prop
  | .connecting _ _ _ connectionData => ∀ d, connectionData = some d → d.Plain
  | .connected connectionData => connectionData.tunnel.Plain
  | _ => True

theorem tryFromProto_toProto_iff (s : TunnelState) : tryFromProto s.toProto = .ok s ↔ s.Plain := by
  cases s with
  | connecting retryAttempt state tunnelType connectionData =>
    simp [tryFromProto, toProto, bind_eq_ok_iff, mapM_map_option_eq_self_iff,
      EstablishConnectionData.tryFromProto_toProto_iff, Plain]
  | connected connectionData =>
    simp [tryFromProto, toProto, bind_eq_ok_iff, ConnectionData.tryFromProto_toProto_iff, Plain]
  | _ => simp [tryFromProto, toProto, Plain]

end TunnelState

end LibTypes
