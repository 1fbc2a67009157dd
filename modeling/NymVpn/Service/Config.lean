import NymVpn.Text.Numeral
import NymVpn.Tunnel.Settings

/-!
# The service configuration

The settings of the daemon as it holds them in memory, and the tunnel settings it
generates from them.
-/

namespace VpnService

open Net GatewayDirectory

inductive InboundExemptionProtocol where
  | tcp
  | udp
deriving DecidableEq

structure InboundExemption where
  proto : InboundExemptionProtocol
  dport : UInt16
  label : Option String
deriving DecidableEq

/-! ## Mixnet traffic -/

structure MixnetTrafficConfig where
  poissonParameterForLoopCoverStream : Option UInt32 := none
  averagePacketDelay : Option UInt32 := none
  messageSendingAverageDelay : Option UInt32 := none
  disablePoissonRate : Bool := false
  disableBackgroundCoverTraffic : Bool := false
  minMixnodePerformance : Option UInt8 := none
  minGatewayMixnetPerformance : Option UInt8 := none
deriving DecidableEq

/-- The bounds of a delay in milliseconds, both included. -/
structure DelayRange where
  first : UInt32
  last : UInt32

def loopCoverDelayRange : DelayRange := ⟨0, 200⟩

def avgPacketDelayRange : DelayRange := ⟨0, 200⟩

def messageSendingDelayRange : DelayRange := ⟨5, 50⟩

def validateDelay (field : String) (range : DelayRange) (delay : Option UInt32) :
    Except String Unit :=
  match delay with
  | some v =>
    if range.first ≤ v ∧ v ≤ range.last then .ok ()
    else .error (field ++ " must be between " ++ Text.decimal range.first.toNat ++ " and " ++
      Text.decimal range.last.toNat ++ " ms (got " ++ Text.decimal v.toNat ++ ")")
  | none => .ok ()

def MixnetTrafficConfig.validate (c : MixnetTrafficConfig) : Except String Unit := do
  validateDelay "poisson_parameter_for_loop_cover_stream" loopCoverDelayRange
    c.poissonParameterForLoopCoverStream
  validateDelay "average_packet_delay" avgPacketDelayRange c.averagePacketDelay
  validateDelay "message_sending_average_delay" messageSendingDelayRange
    c.messageSendingAverageDelay

/-! ## The configuration -/

/-- The defaults are those a first start runs with. -/
structure VpnServiceConfig where
  entryPoint : EntryPoint := .country "CH"
  exitPoint : ExitPoint := .country "CH"
  allowLan : Bool := true
  disableIpv6 : Bool := true
  enableTwoHop : Bool := true
  enableBridges : Bool := false
  enableLewesProtocol : Bool := false
  netstack : Bool := false
  minGatewayVpnPerformance : Option UInt8 := none
  residentialExit : Bool := false
  enableCustomDns : Bool := false
  customDns : List IpAddr := []
  enableAdBlocking : Bool := false
  mixnetTraffic : MixnetTrafficConfig := {}
  killswitch : Bool := true
  legacySplitTunnel : Bool := false
  inboundExemptions : List InboundExemption := []
  stealthApi : Bool := false
  gatewayIndependence : GatewayIndependence := .default
  alwaysOn : Bool := false
deriving DecidableEq

namespace VpnServiceConfig

def default : VpnServiceConfig := {}

def defaultMinMixnodePerformance : UInt8 := 50

def defaultMinGatewayPerformance : UInt8 := 50

def tunnelExemption (e : InboundExemption) : NymFirewall.InboundExemption where
  proto :=
    match e.proto with
    | .tcp => .tcp
    | .udp => .udp
  dport := e.dport
  label := e.label

def mixnetClientConfig (traffic : MixnetTrafficConfig) : TunnelStateMachine.MixnetClientConfig where
  disableRealTrafficPoissonProcess := traffic.disablePoissonRate
  disableBackgroundCoverTraffic := traffic.disableBackgroundCoverTraffic
  minMixnodePerformance :=
    some (traffic.minMixnodePerformance.getD defaultMinMixnodePerformance)
  minGatewayPerformance :=
    some (traffic.minGatewayMixnetPerformance.getD defaultMinGatewayPerformance)
  loopCoverTrafficAverageDelay := traffic.poissonParameterForLoopCoverStream.map UInt32.toNat
  averagePacketDelay := traffic.averagePacketDelay.map UInt32.toNat
  messageSendingAverageDelay := traffic.messageSendingAverageDelay.map UInt32.toNat

/-- The kill-switch in force: policy-based routing needs egress outside the tunnel,
so it switches the kill-switch off whatever is stored. -/
def effectiveKillswitch (c : VpnServiceConfig) : Bool :=
  c.killswitch && !c.legacySplitTunnel

/-- The settings of the front end alone, such as `stealthApi` and `alwaysOn`, are left
out: changing them never reconnects. -/
def generateTunnelSettings (c : VpnServiceConfig) : TunnelStateMachine.TunnelSettings where
  enableIpv6 := !c.disableIpv6
  tunnelType := if c.enableTwoHop then .wireguard else .mixnet
  allowLan := c.allowLan
  residentialExit := c.residentialExit
  mixnetTunnelOptions := ⟨none⟩
  wireguardTunnelOptions := ⟨.tunTun, c.enableBridges⟩
  gatewayPerformanceOptions :=
    ⟨c.mixnetTraffic.minGatewayMixnetPerformance, c.minGatewayVpnPerformance⟩
  mixnetClientConfig := some (mixnetClientConfig c.mixnetTraffic)
  entryPoint := c.entryPoint
  exitPoint := c.exitPoint
  dns := if c.enableCustomDns && !c.customDns.isEmpty then .custom c.customDns else .default
  killswitch := c.effectiveKillswitch
  legacySplitTunnel := c.legacySplitTunnel
  inboundExemptions := c.inboundExemptions.map tunnelExemption
  gatewayIndependence := c.gatewayIndependence

end VpnServiceConfig

end VpnService
