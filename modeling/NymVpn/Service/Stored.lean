import NymVpn.Net.Display
import NymVpn.Service.Config

/-!
# Stored configurations

One record per version of the file, and the conversions between them and the configuration in
memory. Keys and addresses are stored as text, by libraries of their own.
-/

namespace VpnService

open Net

/-- The text forms of keys and addresses. Reading gives the library's error message
when it fails. An IP address is written as the standard library prints it. -/
structure TextForms where
  nodeIdentityFromBytes : List UInt8 → Except String GatewayDirectory.NodeIdentity
  nodeIdentityFromBase58String : String → Except String GatewayDirectory.NodeIdentity
  nodeIdentityToBase58String : GatewayDirectory.NodeIdentity → String
  recipientTryFromBase58String : String → Except String GatewayDirectory.Recipient
  recipientToString : GatewayDirectory.Recipient → String
  ipAddrFromStr : String → Except String IpAddr

structure TextForms.RoundTrips (t : TextForms) : Prop where
  nodeIdentity (id : GatewayDirectory.NodeIdentity) :
    t.nodeIdentityFromBase58String (t.nodeIdentityToBase58String id) = .ok id
  recipient (address : GatewayDirectory.Recipient) :
    t.recipientTryFromBase58String (t.recipientToString address) = .ok address
  ipAddr (ip : IpAddr) : t.ipAddrFromStr ip.display = .ok ip

inductive ConfigSetupError where
  | entryPoint (message : String)
  | exitPoint (message : String)
  | ipAddress (message : String)

/-! ## Entry and exit points -/

namespace EntryExit

namespace Legacy

inductive EntryPoint where
  | gateway (identity : List UInt8)
  | location (location : String)
  | random

def EntryPoint.tryInto (t : TextForms) :
    EntryPoint → Except ConfigSetupError GatewayDirectory.EntryPoint
  | .gateway identity => do
    return .gateway (← (t.nodeIdentityFromBytes identity).mapError .entryPoint)
  | .location code => .ok (.country code)
  | .random => .ok .random

inductive ExitPoint where
  | address (address : String)
  | gateway (identity : List UInt8)
  | location (location : String)
  | random

def ExitPoint.tryInto (t : TextForms) :
    ExitPoint → Except ConfigSetupError GatewayDirectory.ExitPoint
  | .address text => do
    return .address (← (t.recipientTryFromBase58String text).mapError .exitPoint)
  | .gateway identity => do
    return .gateway (← (t.nodeIdentityFromBytes identity).mapError .exitPoint)
  | .location code => .ok (.country code)
  | .random => .ok .random

end Legacy

namespace V1

inductive EntryPoint where
  | gateway (identity : String)
  | location (location : String)
  | random

def EntryPoint.tryInto (t : TextForms) :
    EntryPoint → Except ConfigSetupError GatewayDirectory.EntryPoint
  | .gateway identity => do
    return .gateway (← (t.nodeIdentityFromBase58String identity).mapError .entryPoint)
  | .location code => .ok (.country code)
  | .random => .ok .random

inductive ExitPoint where
  | address (address : String)
  | gateway (identity : String)
  | location (location : String)
  | random

def ExitPoint.tryInto (t : TextForms) :
    ExitPoint → Except ConfigSetupError GatewayDirectory.ExitPoint
  | .address text => do
    return .address (← (t.recipientTryFromBase58String text).mapError .exitPoint)
  | .gateway identity => do
    return .gateway (← (t.nodeIdentityFromBase58String identity).mapError .exitPoint)
  | .location code => .ok (.country code)
  | .random => .ok .random

end V1

namespace V2

inductive EntryPoint where
  | gateway (identity : String)
  | country (twoLetterIsoCountryCode : String)
  | region (region : String)
  | random

def EntryPoint.tryInto (t : TextForms) :
    EntryPoint → Except ConfigSetupError GatewayDirectory.EntryPoint
  | .gateway identity => do
    return .gateway (← (t.nodeIdentityFromBase58String identity).mapError .entryPoint)
  | .country code => .ok (.country code)
  | .region name => .ok (.region name)
  | .random => .ok .random

def EntryPoint.tryFrom (t : TextForms) :
    GatewayDirectory.EntryPoint → Except ConfigSetupError EntryPoint
  | .gateway identity => .ok (.gateway (t.nodeIdentityToBase58String identity))
  | .country code => .ok (.country code)
  | .region name => .ok (.region name)
  | .random => .ok .random

inductive ExitPoint where
  | address (address : String)
  | gateway (identity : String)
  | country (twoLetterIsoCountryCode : String)
  | region (region : String)
  | random

def ExitPoint.tryInto (t : TextForms) :
    ExitPoint → Except ConfigSetupError GatewayDirectory.ExitPoint
  | .address text => do
    return .address (← (t.recipientTryFromBase58String text).mapError .exitPoint)
  | .gateway identity => do
    return .gateway (← (t.nodeIdentityFromBase58String identity).mapError .exitPoint)
  | .country code => .ok (.country code)
  | .region name => .ok (.region name)
  | .random => .ok .random

def ExitPoint.tryFrom (t : TextForms) :
    GatewayDirectory.ExitPoint → Except ConfigSetupError ExitPoint
  | .address recipient => .ok (.address (t.recipientToString recipient))
  | .gateway identity => .ok (.gateway (t.nodeIdentityToBase58String identity))
  | .country code => .ok (.country code)
  | .region name => .ok (.region name)
  | .random => .ok .random

end V2

end EntryExit

/-! ## Parts of several versions -/

namespace MixnetTraffic.V5

structure MixnetTrafficConfig where
  poissonParameterForLoopCoverStream : Option UInt32
  averagePacketDelay : Option UInt32
  messageSendingAverageDelay : Option UInt32
  disablePoissonRate : Bool
  disableBackgroundCoverTraffic : Bool
  minMixnodePerformance : Option UInt8
  minGatewayMixnetPerformance : Option UInt8

def MixnetTrafficConfig.into (value : MixnetTrafficConfig) : VpnService.MixnetTrafficConfig where
  poissonParameterForLoopCoverStream := value.poissonParameterForLoopCoverStream
  averagePacketDelay := value.averagePacketDelay
  messageSendingAverageDelay := value.messageSendingAverageDelay
  disablePoissonRate := value.disablePoissonRate
  disableBackgroundCoverTraffic := value.disableBackgroundCoverTraffic
  minMixnodePerformance := value.minMixnodePerformance
  minGatewayMixnetPerformance := value.minGatewayMixnetPerformance

def MixnetTrafficConfig.ofConfig (value : VpnService.MixnetTrafficConfig) :
    MixnetTrafficConfig where
  poissonParameterForLoopCoverStream := value.poissonParameterForLoopCoverStream
  averagePacketDelay := value.averagePacketDelay
  messageSendingAverageDelay := value.messageSendingAverageDelay
  disablePoissonRate := value.disablePoissonRate
  disableBackgroundCoverTraffic := value.disableBackgroundCoverTraffic
  minMixnodePerformance := value.minMixnodePerformance
  minGatewayMixnetPerformance := value.minGatewayMixnetPerformance

end MixnetTraffic.V5

def earlyMixnetTraffic (disablePoissonRate disableBackgroundCoverTraffic : Bool)
    (minMixnodePerformance minGatewayMixnetPerformance : Option UInt8) : MixnetTrafficConfig where
  poissonParameterForLoopCoverStream := none
  averagePacketDelay := none
  messageSendingAverageDelay := none
  disablePoissonRate
  disableBackgroundCoverTraffic
  minMixnodePerformance
  minGatewayMixnetPerformance

def ipAddrOf (t : TextForms) (text : String) : Except ConfigSetupError IpAddr :=
  (t.ipAddrFromStr text).mapError .ipAddress

/-! ## The versions -/

namespace V1

structure VpnServiceConfig where
  entryPoint : EntryExit.V1.EntryPoint
  exitPoint : EntryExit.V1.ExitPoint

def VpnServiceConfig.tryInto (t : TextForms) (value : VpnServiceConfig) :
    Except ConfigSetupError VpnService.VpnServiceConfig := do
  let entryPoint ← value.entryPoint.tryInto t
  let exitPoint ← value.exitPoint.tryInto t
  pure
    { entryPoint
      exitPoint
      killswitch := false
      legacySplitTunnel := false
      stealthApi := false
      alwaysOn := false
      gatewayIndependence := .default }

end V1

namespace V2

structure VpnServiceConfig where
  entryPoint : EntryExit.V2.EntryPoint
  exitPoint : EntryExit.V2.ExitPoint
  dns : Option String
  allowLan : Bool
  disableIpv6 : Bool
  enableTwoHop : Bool
  enableBridges : Bool
  netstack : Bool
  disablePoissonRate : Bool
  disableBackgroundCoverTraffic : Bool
  minMixnodePerformance : Option UInt8
  minGatewayMixnetPerformance : Option UInt8
  minGatewayVpnPerformance : Option UInt8
  residentialExit : Bool

def customDns (t : TextForms) : Option String → Except ConfigSetupError (List IpAddr)
  | some text => do return [← ipAddrOf t text]
  | none => .ok []

def VpnServiceConfig.tryInto (t : TextForms) (value : VpnServiceConfig) :
    Except ConfigSetupError VpnService.VpnServiceConfig := do
  let entryPoint ← value.entryPoint.tryInto t
  let exitPoint ← value.exitPoint.tryInto t
  let customDns ← V2.customDns t value.dns
  pure
    { entryPoint
      exitPoint
      allowLan := value.allowLan
      disableIpv6 := value.disableIpv6
      enableTwoHop := value.enableTwoHop
      enableBridges := value.enableBridges
      netstack := value.netstack
      minGatewayVpnPerformance := value.minGatewayVpnPerformance
      residentialExit := value.residentialExit
      enableCustomDns := !customDns.isEmpty
      customDns
      mixnetTraffic := earlyMixnetTraffic value.disablePoissonRate
        value.disableBackgroundCoverTraffic value.minMixnodePerformance
        value.minGatewayMixnetPerformance
      killswitch := true
      legacySplitTunnel := false
      stealthApi := false
      alwaysOn := false
      gatewayIndependence := .default }

end V2

namespace V3

structure VpnServiceConfig where
  entryPoint : EntryExit.V2.EntryPoint
  exitPoint : EntryExit.V2.ExitPoint
  allowLan : Bool
  disableIpv6 : Bool
  enableTwoHop : Bool
  enableBridges : Bool
  netstack : Bool
  disablePoissonRate : Bool
  disableBackgroundCoverTraffic : Bool
  minMixnodePerformance : Option UInt8
  minGatewayMixnetPerformance : Option UInt8
  minGatewayVpnPerformance : Option UInt8
  residentialExit : Bool
  customDns : Option (List String)

def customDns (t : TextForms) : Option (List String) → Except ConfigSetupError (List IpAddr)
  | none => .ok []
  | some [] => .ok []
  | some texts => texts.mapM (ipAddrOf t)

def VpnServiceConfig.tryInto (t : TextForms) (value : VpnServiceConfig) :
    Except ConfigSetupError VpnService.VpnServiceConfig := do
  let entryPoint ← value.entryPoint.tryInto t
  let exitPoint ← value.exitPoint.tryInto t
  let customDns ← V3.customDns t value.customDns
  pure
    { entryPoint
      exitPoint
      allowLan := value.allowLan
      disableIpv6 := value.disableIpv6
      enableTwoHop := value.enableTwoHop
      enableBridges := value.enableBridges
      netstack := value.netstack
      minGatewayVpnPerformance := value.minGatewayVpnPerformance
      residentialExit := value.residentialExit
      mixnetTraffic := earlyMixnetTraffic value.disablePoissonRate
        value.disableBackgroundCoverTraffic value.minMixnodePerformance
        value.minGatewayMixnetPerformance
      enableCustomDns := !customDns.isEmpty
      customDns
      killswitch := false
      legacySplitTunnel := false
      stealthApi := false
      alwaysOn := false
      gatewayIndependence := .default }

end V3

namespace V4

structure VpnServiceConfig where
  entryPoint : EntryExit.V2.EntryPoint
  exitPoint : EntryExit.V2.ExitPoint
  allowLan : Bool
  disableIpv6 : Bool
  enableTwoHop : Bool
  enableBridges : Bool
  netstack : Bool
  disablePoissonRate : Bool
  disableBackgroundCoverTraffic : Bool
  minMixnodePerformance : Option UInt8
  minGatewayMixnetPerformance : Option UInt8
  minGatewayVpnPerformance : Option UInt8
  residentialExit : Bool
  enableCustomDns : Bool
  customDns : List String

def VpnServiceConfig.tryInto (t : TextForms) (value : VpnServiceConfig) :
    Except ConfigSetupError VpnService.VpnServiceConfig := do
  let entryPoint ← value.entryPoint.tryInto t
  let exitPoint ← value.exitPoint.tryInto t
  let customDns ← value.customDns.mapM (ipAddrOf t)
  pure
    { entryPoint
      exitPoint
      allowLan := value.allowLan
      disableIpv6 := value.disableIpv6
      enableTwoHop := value.enableTwoHop
      enableBridges := value.enableBridges
      netstack := value.netstack
      minGatewayVpnPerformance := value.minGatewayVpnPerformance
      residentialExit := value.residentialExit
      mixnetTraffic := earlyMixnetTraffic value.disablePoissonRate
        value.disableBackgroundCoverTraffic value.minMixnodePerformance
        value.minGatewayMixnetPerformance
      enableCustomDns := value.enableCustomDns
      customDns
      killswitch := false
      legacySplitTunnel := false
      stealthApi := false
      alwaysOn := false
      gatewayIndependence := .default }

end V4

namespace V5

structure VpnServiceConfig where
  entryPoint : EntryExit.V2.EntryPoint
  exitPoint : EntryExit.V2.ExitPoint
  allowLan : Bool
  disableIpv6 : Bool
  enableTwoHop : Bool
  enableBridges : Bool
  netstack : Bool
  minGatewayVpnPerformance : Option UInt8
  residentialExit : Bool
  enableCustomDns : Bool
  customDns : List String
  mixnetTraffic : MixnetTraffic.V5.MixnetTrafficConfig

def VpnServiceConfig.tryInto (t : TextForms) (value : VpnServiceConfig) :
    Except ConfigSetupError VpnService.VpnServiceConfig := do
  let entryPoint ← value.entryPoint.tryInto t
  let exitPoint ← value.exitPoint.tryInto t
  let customDns ← value.customDns.mapM (ipAddrOf t)
  pure
    { entryPoint
      exitPoint
      allowLan := value.allowLan
      disableIpv6 := value.disableIpv6
      enableTwoHop := value.enableTwoHop
      enableBridges := value.enableBridges
      netstack := value.netstack
      minGatewayVpnPerformance := value.minGatewayVpnPerformance
      residentialExit := value.residentialExit
      mixnetTraffic := value.mixnetTraffic.into
      enableCustomDns := value.enableCustomDns
      customDns
      killswitch := false
      legacySplitTunnel := false
      stealthApi := false
      alwaysOn := false
      gatewayIndependence := .default }

end V5

namespace V6

structure VpnServiceConfig where
  entryPoint : EntryExit.V2.EntryPoint
  exitPoint : EntryExit.V2.ExitPoint
  allowLan : Bool
  disableIpv6 : Bool
  enableTwoHop : Bool
  enableBridges : Bool
  enableLewesProtocol : Bool
  netstack : Bool
  minGatewayVpnPerformance : Option UInt8
  residentialExit : Bool
  enableCustomDns : Bool
  customDns : List String
  mixnetTraffic : MixnetTraffic.V5.MixnetTrafficConfig

def VpnServiceConfig.tryInto (t : TextForms) (value : VpnServiceConfig) :
    Except ConfigSetupError VpnService.VpnServiceConfig := do
  let entryPoint ← value.entryPoint.tryInto t
  let exitPoint ← value.exitPoint.tryInto t
  let customDns ← value.customDns.mapM (ipAddrOf t)
  pure
    { entryPoint
      exitPoint
      allowLan := value.allowLan
      disableIpv6 := value.disableIpv6
      enableTwoHop := value.enableTwoHop
      enableBridges := value.enableBridges
      enableLewesProtocol := value.enableLewesProtocol
      netstack := value.netstack
      minGatewayVpnPerformance := value.minGatewayVpnPerformance
      residentialExit := value.residentialExit
      mixnetTraffic := value.mixnetTraffic.into
      enableCustomDns := value.enableCustomDns
      customDns
      killswitch := false
      legacySplitTunnel := false
      stealthApi := false
      alwaysOn := false
      gatewayIndependence := .default }

end V6

namespace V7

structure VpnServiceConfig where
  entryPoint : EntryExit.V2.EntryPoint
  exitPoint : EntryExit.V2.ExitPoint
  allowLan : Bool
  disableIpv6 : Bool
  enableTwoHop : Bool
  enableBridges : Bool
  enableLewesProtocol : Bool
  netstack : Bool
  minGatewayVpnPerformance : Option UInt8
  residentialExit : Bool
  enableCustomDns : Bool
  customDns : List String
  enableAdBlocking : Bool
  mixnetTraffic : MixnetTraffic.V5.MixnetTrafficConfig

def VpnServiceConfig.tryInto (t : TextForms) (value : VpnServiceConfig) :
    Except ConfigSetupError VpnService.VpnServiceConfig := do
  let entryPoint ← value.entryPoint.tryInto t
  let exitPoint ← value.exitPoint.tryInto t
  let customDns ← value.customDns.mapM (ipAddrOf t)
  pure
    { entryPoint
      exitPoint
      allowLan := value.allowLan
      disableIpv6 := value.disableIpv6
      enableTwoHop := value.enableTwoHop
      enableBridges := value.enableBridges
      enableLewesProtocol := value.enableLewesProtocol
      netstack := value.netstack
      minGatewayVpnPerformance := value.minGatewayVpnPerformance
      residentialExit := value.residentialExit
      mixnetTraffic := value.mixnetTraffic.into
      enableCustomDns := value.enableCustomDns
      customDns
      enableAdBlocking := value.enableAdBlocking
      killswitch := false
      legacySplitTunnel := false
      stealthApi := false
      alwaysOn := false
      gatewayIndependence := .default
      inboundExemptions := [] }

end V7

namespace V8

structure GatewayIndependence where
  enableNotifications : Bool
  differentNodeFamily : Bool
  differentAsn : Bool
  differentSubnet : Bool

def GatewayIndependence.default : GatewayIndependence := ⟨true, true, true, true⟩

def GatewayIndependence.into (value : GatewayIndependence) :
    GatewayDirectory.GatewayIndependence where
  enableNotifications := value.enableNotifications
  differentNodeFamily := value.differentNodeFamily
  differentAsn := value.differentAsn
  differentSubnet := value.differentSubnet

def GatewayIndependence.ofConfig (value : GatewayDirectory.GatewayIndependence) :
    GatewayIndependence where
  enableNotifications := value.enableNotifications
  differentNodeFamily := value.differentNodeFamily
  differentAsn := value.differentAsn
  differentSubnet := value.differentSubnet

inductive InboundExemptionProtocol where
  | tcp
  | udp

structure InboundExemption where
  proto : InboundExemptionProtocol
  dport : UInt16
  label : Option String

def InboundExemption.into (e : InboundExemption) : VpnService.InboundExemption where
  proto :=
    match e.proto with
    | .tcp => .tcp
    | .udp => .udp
  dport := e.dport
  label := e.label

def InboundExemption.ofConfig (e : VpnService.InboundExemption) : InboundExemption where
  proto :=
    match e.proto with
    | .tcp => .tcp
    | .udp => .udp
  dport := e.dport
  label := e.label

structure VpnServiceConfig where
  entryPoint : EntryExit.V2.EntryPoint
  exitPoint : EntryExit.V2.ExitPoint
  allowLan : Bool
  disableIpv6 : Bool
  enableTwoHop : Bool
  enableBridges : Bool
  enableLewesProtocol : Bool
  netstack : Bool
  minGatewayVpnPerformance : Option UInt8
  residentialExit : Bool
  enableCustomDns : Bool
  customDns : List String
  enableAdBlocking : Bool
  mixnetTraffic : MixnetTraffic.V5.MixnetTrafficConfig
  killswitch : Bool
  legacySplitTunnel : Bool
  inboundExemptions : List InboundExemption
  stealthApi : Bool
  gatewayIndependence : GatewayIndependence
  alwaysOn : Bool

def VpnServiceConfig.tryInto (t : TextForms) (value : VpnServiceConfig) :
    Except ConfigSetupError VpnService.VpnServiceConfig := do
  let entryPoint ← value.entryPoint.tryInto t
  let exitPoint ← value.exitPoint.tryInto t
  let customDns ← value.customDns.mapM (ipAddrOf t)
  pure
    { entryPoint
      exitPoint
      allowLan := value.allowLan
      disableIpv6 := value.disableIpv6
      enableTwoHop := value.enableTwoHop
      enableBridges := value.enableBridges
      enableLewesProtocol := value.enableLewesProtocol
      netstack := value.netstack
      minGatewayVpnPerformance := value.minGatewayVpnPerformance
      residentialExit := value.residentialExit
      mixnetTraffic := value.mixnetTraffic.into
      enableCustomDns := value.enableCustomDns
      customDns
      enableAdBlocking := value.enableAdBlocking
      killswitch := value.killswitch
      legacySplitTunnel := value.legacySplitTunnel
      inboundExemptions := value.inboundExemptions.map InboundExemption.into
      stealthApi := value.stealthApi
      gatewayIndependence := value.gatewayIndependence.into
      alwaysOn := value.alwaysOn }

end V8

namespace Legacy

structure VpnServiceConfig where
  entryPoint : EntryExit.Legacy.EntryPoint
  exitPoint : EntryExit.Legacy.ExitPoint

def VpnServiceConfig.tryInto (t : TextForms) (value : VpnServiceConfig) :
    Except ConfigSetupError VpnService.VpnServiceConfig := do
  let entryPoint ← value.entryPoint.tryInto t
  let exitPoint ← value.exitPoint.tryInto t
  pure
    { entryPoint
      exitPoint
      killswitch := false
      legacySplitTunnel := false
      stealthApi := false
      alwaysOn := false
      gatewayIndependence := .default }

end Legacy

/-! ## The versioned file -/

inductive VpnServiceConfigVersion where
  | v1
  | v2
  | v3
  | v4
  | v5
  | v6
  | v7
  | v8
deriving DecidableEq

def VpnServiceConfigVersion.latest : VpnServiceConfigVersion := .v8

inductive VpnServiceConfigExt where
  | v1 (c : V1.VpnServiceConfig)
  | v2 (c : V2.VpnServiceConfig)
  | v3 (c : V3.VpnServiceConfig)
  | v4 (c : V4.VpnServiceConfig)
  | v5 (c : V5.VpnServiceConfig)
  | v6 (c : V6.VpnServiceConfig)
  | v7 (c : V7.VpnServiceConfig)
  | v8 (c : V8.VpnServiceConfig)

namespace VpnServiceConfigExt

def version : VpnServiceConfigExt → VpnServiceConfigVersion
  | .v1 _ => .v1
  | .v2 _ => .v2
  | .v3 _ => .v3
  | .v4 _ => .v4
  | .v5 _ => .v5
  | .v6 _ => .v6
  | .v7 _ => .v7
  | .v8 _ => .v8

def tryInto (t : TextForms) : VpnServiceConfigExt → Except ConfigSetupError VpnServiceConfig
  | .v1 c => c.tryInto t
  | .v2 c => c.tryInto t
  | .v3 c => c.tryInto t
  | .v4 c => c.tryInto t
  | .v5 c => c.tryInto t
  | .v6 c => c.tryInto t
  | .v7 c => c.tryInto t
  | .v8 c => c.tryInto t

def tryFrom (t : TextForms) (value : VpnServiceConfig) :
    Except ConfigSetupError VpnServiceConfigExt := do
  let entryPoint ← EntryExit.V2.EntryPoint.tryFrom t value.entryPoint
  let exitPoint ← EntryExit.V2.ExitPoint.tryFrom t value.exitPoint
  pure <| .v8
    { entryPoint
      exitPoint
      allowLan := value.allowLan
      disableIpv6 := value.disableIpv6
      enableTwoHop := value.enableTwoHop
      enableBridges := value.enableBridges
      enableLewesProtocol := value.enableLewesProtocol
      netstack := value.netstack
      minGatewayVpnPerformance := value.minGatewayVpnPerformance
      residentialExit := value.residentialExit
      enableCustomDns := value.enableCustomDns
      customDns := value.customDns.map IpAddr.display
      enableAdBlocking := value.enableAdBlocking
      mixnetTraffic := .ofConfig value.mixnetTraffic
      killswitch := value.killswitch
      legacySplitTunnel := value.legacySplitTunnel
      inboundExemptions := value.inboundExemptions.map .ofConfig
      stealthApi := value.stealthApi
      gatewayIndependence := .ofConfig value.gatewayIndependence
      alwaysOn := value.alwaysOn }

end VpnServiceConfigExt

end VpnService
