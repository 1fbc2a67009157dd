import NymVpn.Proto.TunnelState
import NymVpn.Service.ConfigFile

/-!
# Settings and the supervisor's status in messages

The time to the next retry travels in whole seconds, as many as a field of 32 bits holds.
-/

open Net Wire GatewayDirectory VpnService

namespace Proto

/-! ## The messages -/

inductive EntryNode.EntryNodeEnum where
  | gateway (gateway : GatewayId)
  | country (twoLetterIsoCountryCode : String)
  | region (region : String)
  | random

structure EntryNode where
  entryNodeEnum : Option EntryNode.EntryNodeEnum

inductive ExitNode.ExitNodeEnum where
  | address (address : Address)
  | gateway (gateway : GatewayId)
  | country (twoLetterIsoCountryCode : String)
  | region (region : String)
  | random

structure ExitNode where
  exitNodeEnum : Option ExitNode.ExitNodeEnum

structure MixnetTrafficConfig where
  poissonParameterForLoopCoverStream : Option UInt32
  averagePacketDelay : Option UInt32
  messageSendingAverageDelay : Option UInt32
  disablePoissonRate : Bool
  disableBackgroundCoverTraffic : Bool
  minMixnodePerformance : Option UInt32
  minGatewayMixnetPerformance : Option UInt32

inductive InboundExemptionProtocol where
  | unspecified
  | tcp
  | udp
deriving DecidableEq

instance : Enumeration InboundExemptionProtocol where
  number
    | .unspecified => 0
    | .tcp => 1
    | .udp => 2
  values := [.unspecified, .tcp, .udp]
  mem_values a := by cases a <;> decide
  nodup := by decide

structure InboundExemption where
  proto : Int32
  dport : UInt32
  label : Option String

structure GatewayIndependence where
  differentNodeFamily : Bool
  differentAsn : Bool
  differentSubnet : Bool
  enableNotifications : Bool

structure VpnServiceConfig where
  entryPoint : Option EntryNode
  exitPoint : Option ExitNode
  allowLan : Bool
  disableIpv6 : Bool
  enableTwoHop : Bool
  enableBridges : Bool
  enableLewesProtocol : Bool
  residentialExit : Bool
  netstack : Bool
  enableCustomDns : Bool
  customDns : Option IpAddrList
  minGatewayVpnPerformance : Option UInt32
  mixnetTraffic : Option MixnetTrafficConfig
  enableAdBlocking : Bool
  killswitch : Bool
  inboundExemptions : List InboundExemption
  legacySplitTunnel : Bool
  stealthApi : Bool
  gatewayIndependence : Option GatewayIndependence
  alwaysOn : Bool

structure AlwaysOnStatus where
  enabled : Bool
  active : Bool
  paused : Bool
  attempt : UInt32
  nextRetryInSecs : Option UInt32
  lastError : Option TunnelState.Error
  latchedReason : Option String

end Proto

/-! ## Entry and exit points -/

section Points

variable (t : TextForms)

namespace GatewayDirectory.EntryPoint

def toProto : EntryPoint → Proto.EntryNode
  | .gateway identity => ⟨some (.gateway ⟨t.nodeIdentityToBase58String identity⟩)⟩
  | .country code => ⟨some (.country code)⟩
  | .region name => ⟨some (.region name)⟩
  | .random => ⟨some .random⟩

def tryFromProto (value : Proto.EntryNode) : Except ConversionError EntryPoint := do
  match ← okOr value.entryNodeEnum (.noValueSet "EntryNode.entry_node_enum") with
  | .gateway node =>
    return .gateway (← (t.nodeIdentityFromBase58String node.id).mapError
      fun err => .generic ("failed to parse gateway id: " ++ err))
  | .country code => return .country code
  | .region name => return .region name
  | .random => return .random

end GatewayDirectory.EntryPoint

namespace GatewayDirectory.ExitPoint

def toProto : ExitPoint → Proto.ExitNode
  | .address recipient =>
    ⟨some (.address ⟨t.recipientToString recipient,
      t.nodeIdentityToBase58String recipient.gateway⟩)⟩
  | .gateway identity => ⟨some (.gateway ⟨t.nodeIdentityToBase58String identity⟩)⟩
  | .country code => ⟨some (.country code)⟩
  | .region name => ⟨some (.region name)⟩
  | .random => ⟨some .random⟩

def tryFromProto (value : Proto.ExitNode) : Except ConversionError ExitPoint := do
  match ← okOr value.exitNodeEnum (.noValueSet "ExitNode.exit_node_enum") with
  | .address recipient =>
    return .address (← (t.recipientTryFromBase58String recipient.nymAddress).mapError
      fun err => .generic ("failed to parse exit node address: " ++ err))
  | .gateway node =>
    return .gateway (← (t.nodeIdentityFromBase58String node.id).mapError
      fun err => .generic ("failed to parse gateway id: " ++ err))
  | .country code => return .country code
  | .region name => return .region name
  | .random => return .random

end GatewayDirectory.ExitPoint

variable {t}

theorem GatewayDirectory.EntryPoint.tryFromProto_toProto (ht : t.RoundTrips) (p : EntryPoint) :
    tryFromProto t (p.toProto t) = .ok p := by
  cases p with
  | gateway identity => simp [tryFromProto, toProto, ht.nodeIdentity]
  | _ => rfl

theorem GatewayDirectory.ExitPoint.tryFromProto_toProto (ht : t.RoundTrips) (p : ExitPoint) :
    tryFromProto t (p.toProto t) = .ok p := by
  cases p with
  | address address => simp [tryFromProto, toProto, ht.recipient]
  | gateway identity => simp [tryFromProto, toProto, ht.nodeIdentity]
  | _ => rfl

end Points

/-! ## The configuration -/

namespace VpnService

namespace MixnetTrafficConfig

def toProto (value : MixnetTrafficConfig) : Proto.MixnetTrafficConfig where
  poissonParameterForLoopCoverStream := value.poissonParameterForLoopCoverStream
  averagePacketDelay := value.averagePacketDelay
  messageSendingAverageDelay := value.messageSendingAverageDelay
  disablePoissonRate := value.disablePoissonRate
  disableBackgroundCoverTraffic := value.disableBackgroundCoverTraffic
  minMixnodePerformance := value.minMixnodePerformance.map UInt8.toUInt32
  minGatewayMixnetPerformance := value.minGatewayMixnetPerformance.map UInt8.toUInt32

def fromProto (value : Proto.MixnetTrafficConfig) : MixnetTrafficConfig where
  poissonParameterForLoopCoverStream := value.poissonParameterForLoopCoverStream
  averagePacketDelay := value.averagePacketDelay
  messageSendingAverageDelay := value.messageSendingAverageDelay
  disablePoissonRate := value.disablePoissonRate
  disableBackgroundCoverTraffic := value.disableBackgroundCoverTraffic
  minMixnodePerformance := value.minMixnodePerformance.map UInt32.toUInt8
  minGatewayMixnetPerformance := value.minGatewayMixnetPerformance.map UInt32.toUInt8

end MixnetTrafficConfig

namespace InboundExemption

def toProto (e : InboundExemption) : Proto.InboundExemption where
  proto :=
    match e.proto with
    | .tcp => number Proto.InboundExemptionProtocol.tcp
    | .udp => number Proto.InboundExemptionProtocol.udp
  dport := e.dport.toUInt32
  label := e.label

/-- An exemption without a known protocol is skipped. -/
def fromProto? (e : Proto.InboundExemption) : Option InboundExemption := do
  match ← tryFromNumber Proto.InboundExemptionProtocol e.proto with
  | .tcp => return { proto := .tcp, dport := e.dport.toUInt16, label := e.label }
  | .udp => return { proto := .udp, dport := e.dport.toUInt16, label := e.label }
  | .unspecified => none

@[simp]
theorem fromProto?_toProto (e : InboundExemption) : fromProto? e.toProto = some e := by
  obtain ⟨proto, dport, label⟩ := e
  cases proto <;> simp [fromProto?, toProto]

end InboundExemption

namespace VpnServiceConfig

variable (t : TextForms)

def toProto (value : VpnServiceConfig) : Proto.VpnServiceConfig where
  entryPoint := some (value.entryPoint.toProto t)
  exitPoint := some (value.exitPoint.toProto t)
  allowLan := value.allowLan
  disableIpv6 := value.disableIpv6
  enableTwoHop := value.enableTwoHop
  enableBridges := value.enableBridges
  enableLewesProtocol := value.enableLewesProtocol
  netstack := value.netstack
  minGatewayVpnPerformance := value.minGatewayVpnPerformance.map UInt8.toUInt32
  residentialExit := value.residentialExit
  enableCustomDns := value.enableCustomDns
  customDns := some (IpAddr.listToProto value.customDns)
  enableAdBlocking := value.enableAdBlocking
  killswitch := value.killswitch
  legacySplitTunnel := value.legacySplitTunnel
  mixnetTraffic := some value.mixnetTraffic.toProto
  inboundExemptions := value.inboundExemptions.map InboundExemption.toProto
  stealthApi := value.stealthApi
  gatewayIndependence := some {
    differentNodeFamily := value.gatewayIndependence.differentNodeFamily
    differentAsn := value.gatewayIndependence.differentAsn
    differentSubnet := value.gatewayIndependence.differentSubnet
    enableNotifications := value.gatewayIndependence.enableNotifications }
  alwaysOn := value.alwaysOn

def gatewayIndependenceFromProto (value : Proto.GatewayIndependence) : GatewayIndependence where
  enableNotifications := value.enableNotifications
  differentNodeFamily := value.differentNodeFamily
  differentAsn := value.differentAsn
  differentSubnet := value.differentSubnet

def tryFromProto (value : Proto.VpnServiceConfig) : Except ConversionError VpnServiceConfig := do
  let entryPoint ← okOr (← value.entryPoint.mapM (EntryPoint.tryFromProto t))
    (.noValueSet "VpnServiceConfig.entry_point")
  let exitPoint ← okOr (← value.exitPoint.mapM (ExitPoint.tryFromProto t))
    (.noValueSet "VpnServiceConfig.exit_point")
  let customDns ← match value.customDns with
    | some ipAddrList => IpAddr.listTryFromProto ipAddrList
    | none => .ok []
  let mixnetTraffic ← okOr value.mixnetTraffic (.noValueSet "VpnServiceConfig.mixnet_traffic")
  return {
    entryPoint
    exitPoint
    allowLan := value.allowLan
    disableIpv6 := value.disableIpv6
    enableTwoHop := value.enableTwoHop
    enableBridges := value.enableBridges
    enableLewesProtocol := value.enableLewesProtocol
    netstack := value.netstack
    minGatewayVpnPerformance := value.minGatewayVpnPerformance.map UInt32.toUInt8
    residentialExit := value.residentialExit
    enableCustomDns := value.enableCustomDns
    customDns
    enableAdBlocking := value.enableAdBlocking
    killswitch := value.killswitch
    legacySplitTunnel := value.legacySplitTunnel
    mixnetTraffic := .fromProto mixnetTraffic
    inboundExemptions := value.inboundExemptions.filterMap InboundExemption.fromProto?
    stealthApi := value.stealthApi
    -- A daemon predating the field leaves it unset; the feature defaults on.
    gatewayIndependence :=
      (value.gatewayIndependence.map gatewayIndependenceFromProto).getD .default
    alwaysOn := value.alwaysOn }

theorem map_toUInt8_toUInt32 (n : Option UInt8) :
    (n.map UInt8.toUInt32).map UInt32.toUInt8 = n := by
  cases n <;> simp

theorem tryFromProto_toProto {t : TextForms} (ht : t.RoundTrips) (c : VpnServiceConfig) :
    tryFromProto t (c.toProto t) = .ok c := by
  have hentry : (some (c.entryPoint.toProto t)).mapM (EntryPoint.tryFromProto t) =
      .ok (some c.entryPoint) := by
    change some <$> EntryPoint.tryFromProto t (c.entryPoint.toProto t) = _
    rw [EntryPoint.tryFromProto_toProto ht]
    rfl
  have hexit : (some (c.exitPoint.toProto t)).mapM (ExitPoint.tryFromProto t) =
      .ok (some c.exitPoint) := by
    change some <$> ExitPoint.tryFromProto t (c.exitPoint.toProto t) = _
    rw [ExitPoint.tryFromProto_toProto ht]
    rfl
  have htraffic : MixnetTrafficConfig.fromProto c.mixnetTraffic.toProto = c.mixnetTraffic := by
    simp only [MixnetTrafficConfig.fromProto, MixnetTrafficConfig.toProto, map_toUInt8_toUInt32]
  have hexemptions : (c.inboundExemptions.map InboundExemption.toProto).filterMap
      InboundExemption.fromProto? = c.inboundExemptions := by
    simp [List.filterMap_map]
  simp only [tryFromProto, toProto, hentry, hexit, ok_bind, okOr_some, pure_eq_ok,
    IpAddr.listTryFromProto_listToProto, htraffic, hexemptions, map_toUInt8_toUInt32,
    Option.map_some, Option.getD_some, gatewayIndependenceFromProto]

end VpnServiceConfig

end VpnService

/-! ## The status of Always On -/

namespace LibTypes

open TunnelStateMachine (ErrorStateReason)

structure Duration where
  secs : UInt64
  nanos : UInt32
  nanos_lt : nanos < 1000000000

def Duration.fromSecs (secs : UInt64) : Duration := ⟨secs, 0, by decide⟩

structure AlwaysOnStatus where
  enabled : Bool
  active : Bool
  paused : Bool
  attempt : UInt32
  nextRetryIn : Option Duration
  lastError : Option ErrorStateReason
  latchedReason : Option String

namespace AlwaysOnStatus

def toProto (value : AlwaysOnStatus) : Proto.AlwaysOnStatus where
  enabled := value.enabled
  active := value.active
  paused := value.paused
  attempt := value.attempt
  nextRetryInSecs := value.nextRetryIn.map fun d =>
    if d.secs.toNat < 4294967296 then d.secs.toUInt32 else 4294967295
  lastError := value.lastError.map ErrorStateReason.toProto
  latchedReason := value.latchedReason

def fromProto (value : Proto.AlwaysOnStatus) : AlwaysOnStatus where
  enabled := value.enabled
  active := value.active
  paused := value.paused
  attempt := value.attempt
  nextRetryIn := value.nextRetryInSecs.map fun s => .fromSecs s.toUInt64
  -- An unknown reason from a newer daemon is dropped, not an error.
  lastError := value.lastError.bind fun e => (ErrorStateReason.tryFromProto e).toOption
  latchedReason := value.latchedReason

def inSeconds (value : AlwaysOnStatus) : AlwaysOnStatus :=
  { value with nextRetryIn := value.nextRetryIn.map fun d => .fromSecs d.secs }

theorem fromProto_toProto_iff (s : AlwaysOnStatus) : fromProto s.toProto = s.inSeconds ↔
    ∀ d, s.nextRetryIn = some d → d.secs.toNat < 4294967296 := by
  have herror : (s.lastError.map ErrorStateReason.toProto).bind
      (fun e => (ErrorStateReason.tryFromProto e).toOption) = s.lastError := by
    cases s.lastError <;> simp [Except.toOption]
  have hsecs (d : Duration) : (if d.secs.toNat < 4294967296 then d.secs.toUInt32
      else 4294967295).toUInt64 = d.secs ↔ d.secs.toNat < 4294967296 := by
    rw [← UInt64.toNat_inj]
    split
    · simp only [UInt32.toNat_toUInt64, UInt64.toNat_toUInt32]
      omega
    · simp only [UInt32.toNat_toUInt64, UInt32.reduceToNat]
      omega
  simp only [fromProto, toProto, inSeconds, herror, mk.injEq, true_and, and_true]
  cases s.nextRetryIn <;> simp [Duration.fromSecs, hsecs]

end AlwaysOnStatus

/-- Settings reach the client as they were sent. Tunnel states do exactly if the addresses in
them are such as the messages can carry, and the supervisor's status, to the second, exactly if
the time to the next retry is. -/
theorem rpc_round_trips (t : TextForms) (ht : t.RoundTrips) :
    (∀ s : TunnelState, TunnelState.tryFromProto s.toProto = .ok s ↔ s.Plain) ∧
    (∀ c : VpnServiceConfig, VpnServiceConfig.tryFromProto t (c.toProto t) = .ok c) ∧
    ∀ a : AlwaysOnStatus, AlwaysOnStatus.fromProto a.toProto = a.inSeconds ↔
      ∀ d, a.nextRetryIn = some d → d.secs.toNat < 4294967296 :=
  ⟨TunnelState.tryFromProto_toProto_iff, fun c => VpnServiceConfig.tryFromProto_toProto ht c,
    AlwaysOnStatus.fromProto_toProto_iff⟩

def bridgedTunnel (scopeId : UInt32) : TunnelState :=
  .connecting 0 .connectingTunnel .wireguard (some {
    entryGateway := ⟨"a", none, none⟩
    exitGateway := ⟨"b", none, none⟩
    tunnel := some (.wireguard {
      entryBridgeAddr := some {
        listenAddr := .v4 ⟨127, 0, 0, 1⟩ 51820
        remoteAddr := .v6 ⟨[0xfe80, 0, 0, 0, 0, 0, 0, 1], rfl⟩ 443 0 scopeId }
      entry := ⟨.v4 ⟨127, 0, 0, 1⟩ 51820, "k", ⟨10, 1, 0, 1⟩, none⟩
      exit := ⟨.v4 ⟨198, 51, 100, 2⟩ 51822, "l", ⟨10, 1, 0, 2⟩, none⟩
      lewesProtocol := false }) })

/-- A second and a half are left to the retry. -/
theorem rpc_round_trips_bridgedTunnel :
    let retrying : AlwaysOnStatus :=
      ⟨true, true, false, 1, some ⟨1, 500000000, by decide⟩, none, none⟩
    TunnelState.tryFromProto (bridgedTunnel 0).toProto = .ok (bridgedTunnel 0) ∧
      VpnServiceConfig.tryFromProto plainForms (({} : VpnServiceConfig).toProto plainForms) =
        .ok {} ∧
      AlwaysOnStatus.fromProto retrying.toProto = retrying.inSeconds := by
  intro retrying
  obtain ⟨htunnel, hconfig, hstatus⟩ := rpc_round_trips plainForms plainForms_roundTrips
  refine ⟨(htunnel _).2 ?_, hconfig {}, (hstatus _).2 ?_⟩
  · rintro _ ⟨⟩ _ ⟨⟩
    exact ⟨fun _ h => by cases h; exact ⟨⟨rfl, rfl⟩, rfl, rfl⟩, rfl, rfl⟩
  · rintro _ ⟨⟩
    decide

/-- The scope of a bridge's address is lost. -/
theorem scope_is_lost :
    TunnelState.tryFromProto (bridgedTunnel 2).toProto ≠ .ok (bridgedTunnel 2) := by
  decide +kernel

end LibTypes
