import NymVpn.Serde.Json
import NymVpn.Service.Migration

/-!
# The configuration file

The JSON form of every stored version, and what is left of a configuration that is
saved and loaded again.
-/

namespace VpnService

open Serde VpnServiceConfigExt

/-! ## Entry and exit points -/

instance : Serialize EntryExit.V1.EntryPoint where
  toJson
    | .gateway x => .obj [("gateway", .obj [("identity", toJson x)])]
    | .location x => .obj [("location", .obj [("location", toJson x)])]
    | .random => .str "random"

instance : Deserialize EntryExit.V1.EntryPoint where
  fromJson j :=
    match j.variant with
    | some ("gateway", content) => (soleField "identity" content).map .gateway
    | some ("location", content) => (soleField "location" content).map .location
    | some ("random", content) => if isUnit content then some .random else none
    | _ => none

instance : RoundTrips EntryExit.V1.EntryPoint where
  fromJson_toJson p := by
    cases p with
    | random => rfl
    | _ => simp [fromJson, toJson, Json.variant]

instance : Serialize EntryExit.V1.ExitPoint where
  toJson
    | .address x => .obj [("address", .obj [("address", toJson x)])]
    | .gateway x => .obj [("gateway", .obj [("identity", toJson x)])]
    | .location x => .obj [("location", .obj [("location", toJson x)])]
    | .random => .str "random"

instance : Deserialize EntryExit.V1.ExitPoint where
  fromJson j :=
    match j.variant with
    | some ("address", content) => (soleField "address" content).map .address
    | some ("gateway", content) => (soleField "identity" content).map .gateway
    | some ("location", content) => (soleField "location" content).map .location
    | some ("random", content) => if isUnit content then some .random else none
    | _ => none

instance : RoundTrips EntryExit.V1.ExitPoint where
  fromJson_toJson p := by
    cases p with
    | random => rfl
    | _ => simp [fromJson, toJson, Json.variant]

instance : Serialize EntryExit.V2.EntryPoint where
  toJson
    | .gateway x => .obj [("gateway", .obj [("identity", toJson x)])]
    | .country x => .obj [("country", .obj [("two_letter_iso_country_code", toJson x)])]
    | .region x => .obj [("region", .obj [("region", toJson x)])]
    | .random => .str "random"

instance : Deserialize EntryExit.V2.EntryPoint where
  fromJson j :=
    match j.variant with
    | some ("gateway", content) => (soleField "identity" content).map .gateway
    | some ("country", content) => (soleField "two_letter_iso_country_code" content).map .country
    | some ("region", content) => (soleField "region" content).map .region
    | some ("random", content) => if isUnit content then some .random else none
    | _ => none

instance : RoundTrips EntryExit.V2.EntryPoint where
  fromJson_toJson p := by
    cases p with
    | random => rfl
    | _ => simp [fromJson, toJson, Json.variant]

instance : Serialize EntryExit.V2.ExitPoint where
  toJson
    | .address x => .obj [("address", .obj [("address", toJson x)])]
    | .gateway x => .obj [("gateway", .obj [("identity", toJson x)])]
    | .country x => .obj [("country", .obj [("two_letter_iso_country_code", toJson x)])]
    | .region x => .obj [("region", .obj [("region", toJson x)])]
    | .random => .str "random"

instance : Deserialize EntryExit.V2.ExitPoint where
  fromJson j :=
    match j.variant with
    | some ("address", content) => (soleField "address" content).map .address
    | some ("gateway", content) => (soleField "identity" content).map .gateway
    | some ("country", content) => (soleField "two_letter_iso_country_code" content).map .country
    | some ("region", content) => (soleField "region" content).map .region
    | some ("random", content) => if isUnit content then some .random else none
    | _ => none

instance : RoundTrips EntryExit.V2.ExitPoint where
  fromJson_toJson p := by
    cases p with
    | random => rfl
    | _ => simp [fromJson, toJson, Json.variant]

/-! ## Records -/

instance : Serialize V8.InboundExemptionProtocol where
  toJson
    | .tcp => .str "tcp"
    | .udp => .str "udp"

instance : Deserialize V8.InboundExemptionProtocol where
  fromJson j :=
    match j.variant with
    | some ("tcp", content) => if isUnit content then some .tcp else none
    | some ("udp", content) => if isUnit content then some .udp else none
    | _ => none

instance : RoundTrips V8.InboundExemptionProtocol where
  fromJson_toJson p := by cases p <;> rfl

attribute [local simp] Fields.required Fields.optional Fields.withDefault Fields.get

namespace MixnetTraffic.V5.MixnetTrafficConfig

def entries (c : MixnetTraffic.V5.MixnetTrafficConfig) : List (String × Json) :=
  [("poisson_parameter_for_loop_cover_stream", toJson c.poissonParameterForLoopCoverStream),
    ("average_packet_delay", toJson c.averagePacketDelay),
    ("message_sending_average_delay", toJson c.messageSendingAverageDelay),
    ("disable_poisson_rate", toJson c.disablePoissonRate),
    ("disable_background_cover_traffic", toJson c.disableBackgroundCoverTraffic),
    ("min_mixnode_performance", toJson c.minMixnodePerformance),
    ("min_gateway_mixnet_performance", toJson c.minGatewayMixnetPerformance)]

def ofFields (src : Fields) : Option MixnetTraffic.V5.MixnetTrafficConfig := do
  return {
    poissonParameterForLoopCoverStream :=
      ← src.optional 0 "poisson_parameter_for_loop_cover_stream"
    averagePacketDelay := ← src.optional 1 "average_packet_delay"
    messageSendingAverageDelay := ← src.optional 2 "message_sending_average_delay"
    disablePoissonRate := ← src.required 3 "disable_poisson_rate"
    disableBackgroundCoverTraffic := ← src.required 4 "disable_background_cover_traffic"
    minMixnodePerformance := ← src.optional 5 "min_mixnode_performance"
    minGatewayMixnetPerformance := ← src.optional 6 "min_gateway_mixnet_performance"
  }

instance : Serialize MixnetTraffic.V5.MixnetTrafficConfig := ⟨fun c => .obj c.entries⟩

instance : Deserialize MixnetTraffic.V5.MixnetTrafficConfig := ⟨fun j => (j.fields 7).bind ofFields⟩

instance : RoundTrips MixnetTraffic.V5.MixnetTrafficConfig where
  fromJson_toJson c := by
    change ofFields (.map c.entries) = _
    simp [ofFields, entries]

end MixnetTraffic.V5.MixnetTrafficConfig

namespace V8.GatewayIndependence

def entries (c : V8.GatewayIndependence) : List (String × Json) :=
  [("enable_notifications", toJson c.enableNotifications),
    ("different_node_family", toJson c.differentNodeFamily),
    ("different_asn", toJson c.differentAsn),
    ("different_subnet", toJson c.differentSubnet)]

def ofFields (src : Fields) : Option V8.GatewayIndependence := do
  return {
    enableNotifications := ← src.withDefault 0 "enable_notifications" true
    differentNodeFamily := ← src.withDefault 1 "different_node_family" true
    differentAsn := ← src.withDefault 2 "different_asn" true
    differentSubnet := ← src.withDefault 3 "different_subnet" true
  }

instance : Serialize V8.GatewayIndependence := ⟨fun c => .obj c.entries⟩

instance : Deserialize V8.GatewayIndependence := ⟨fun j => (j.fields 4).bind ofFields⟩

instance : RoundTrips V8.GatewayIndependence where
  fromJson_toJson c := by
    change ofFields (.map c.entries) = _
    simp [ofFields, entries]

end V8.GatewayIndependence

namespace V8.InboundExemption

def entries (c : V8.InboundExemption) : List (String × Json) :=
  [("proto", toJson c.proto), ("dport", toJson c.dport)] ++
  (c.label.map fun label => ("label", toJson label)).toList

def ofFields (src : Fields) : Option V8.InboundExemption := do
  return {
    proto := ← src.required 0 "proto"
    dport := ← src.required 1 "dport"
    label := ← src.withDefault 2 "label" none
  }

instance : Serialize V8.InboundExemption := ⟨fun c => .obj c.entries⟩

instance : Deserialize V8.InboundExemption := ⟨fun j => (j.fields 3).bind ofFields⟩

theorem ofFields_entries (c : V8.InboundExemption) : ofFields (.map c.entries) = some c := by
  have hproto : valuesOf "proto" c.entries = [toJson c.proto] := by
    cases hlabel : c.label <;> simp [entries, hlabel]
  have hdport : valuesOf "dport" c.entries = [toJson c.dport] := by
    cases hlabel : c.label <;> simp [entries, hlabel]
  have hlabel : (Fields.map c.entries).withDefault 2 "label" none = some c.label := by
    cases hlabel : c.label with
    | none => exact Fields.withDefault_map_absent (by simp [entries, hlabel]) _
    | some label =>
      rw [Fields.withDefault_map (v := toJson label) (by simp [entries, hlabel])]
      simp
  rw [ofFields, Fields.required_map hproto, Fields.required_map hdport, hlabel]
  simp

instance : RoundTrips V8.InboundExemption := ⟨fun c => c.ofFields_entries⟩

end V8.InboundExemption

/-! ## The versions -/

namespace V1.VpnServiceConfig

def entries (c : V1.VpnServiceConfig) : List (String × Json) :=
  [("entry_point", toJson c.entryPoint), ("exit_point", toJson c.exitPoint)]

def ofFields (src : Fields) : Option V1.VpnServiceConfig := do
  return {
    entryPoint := ← src.required 0 "entry_point"
    exitPoint := ← src.required 1 "exit_point"
  }

instance : Serialize V1.VpnServiceConfig := ⟨fun c => .obj c.entries⟩

instance : Deserialize V1.VpnServiceConfig := ⟨fun j => (j.fields 2).bind ofFields⟩

instance : RoundTrips V1.VpnServiceConfig where
  fromJson_toJson c := by
    change ofFields (.map c.entries) = _
    simp [ofFields, entries]

end V1.VpnServiceConfig

namespace V2.VpnServiceConfig

def entries (c : V2.VpnServiceConfig) : List (String × Json) :=
  [("entry_point", toJson c.entryPoint),
    ("exit_point", toJson c.exitPoint),
    ("dns", toJson c.dns),
    ("allow_lan", toJson c.allowLan),
    ("disable_ipv6", toJson c.disableIpv6),
    ("enable_two_hop", toJson c.enableTwoHop),
    ("enable_bridges", toJson c.enableBridges),
    ("netstack", toJson c.netstack),
    ("disable_poisson_rate", toJson c.disablePoissonRate),
    ("disable_background_cover_traffic", toJson c.disableBackgroundCoverTraffic),
    ("min_mixnode_performance", toJson c.minMixnodePerformance),
    ("min_gateway_mixnet_performance", toJson c.minGatewayMixnetPerformance),
    ("min_gateway_vpn_performance", toJson c.minGatewayVpnPerformance),
    ("residential_exit", toJson c.residentialExit)]

def ofFields (src : Fields) : Option V2.VpnServiceConfig := do
  return {
    entryPoint := ← src.required 0 "entry_point"
    exitPoint := ← src.required 1 "exit_point"
    dns := ← src.optional 2 "dns"
    allowLan := ← src.required 3 "allow_lan"
    disableIpv6 := ← src.required 4 "disable_ipv6"
    enableTwoHop := ← src.required 5 "enable_two_hop"
    enableBridges := ← src.required 6 "enable_bridges"
    netstack := ← src.required 7 "netstack"
    disablePoissonRate := ← src.required 8 "disable_poisson_rate"
    disableBackgroundCoverTraffic := ← src.required 9 "disable_background_cover_traffic"
    minMixnodePerformance := ← src.optional 10 "min_mixnode_performance"
    minGatewayMixnetPerformance := ← src.optional 11 "min_gateway_mixnet_performance"
    minGatewayVpnPerformance := ← src.optional 12 "min_gateway_vpn_performance"
    residentialExit := ← src.required 13 "residential_exit"
  }

instance : Serialize V2.VpnServiceConfig := ⟨fun c => .obj c.entries⟩

instance : Deserialize V2.VpnServiceConfig := ⟨fun j => (j.fields 14).bind ofFields⟩

instance : RoundTrips V2.VpnServiceConfig where
  fromJson_toJson c := by
    change ofFields (.map c.entries) = _
    simp [ofFields, entries]

end V2.VpnServiceConfig

namespace V3.VpnServiceConfig

def entries (c : V3.VpnServiceConfig) : List (String × Json) :=
  [("entry_point", toJson c.entryPoint),
    ("exit_point", toJson c.exitPoint),
    ("allow_lan", toJson c.allowLan),
    ("disable_ipv6", toJson c.disableIpv6),
    ("enable_two_hop", toJson c.enableTwoHop),
    ("enable_bridges", toJson c.enableBridges),
    ("netstack", toJson c.netstack),
    ("disable_poisson_rate", toJson c.disablePoissonRate),
    ("disable_background_cover_traffic", toJson c.disableBackgroundCoverTraffic),
    ("min_mixnode_performance", toJson c.minMixnodePerformance),
    ("min_gateway_mixnet_performance", toJson c.minGatewayMixnetPerformance),
    ("min_gateway_vpn_performance", toJson c.minGatewayVpnPerformance),
    ("residential_exit", toJson c.residentialExit),
    ("custom_dns", toJson c.customDns)]

def ofFields (src : Fields) : Option V3.VpnServiceConfig := do
  return {
    entryPoint := ← src.required 0 "entry_point"
    exitPoint := ← src.required 1 "exit_point"
    allowLan := ← src.required 2 "allow_lan"
    disableIpv6 := ← src.required 3 "disable_ipv6"
    enableTwoHop := ← src.required 4 "enable_two_hop"
    enableBridges := ← src.required 5 "enable_bridges"
    netstack := ← src.required 6 "netstack"
    disablePoissonRate := ← src.required 7 "disable_poisson_rate"
    disableBackgroundCoverTraffic := ← src.required 8 "disable_background_cover_traffic"
    minMixnodePerformance := ← src.optional 9 "min_mixnode_performance"
    minGatewayMixnetPerformance := ← src.optional 10 "min_gateway_mixnet_performance"
    minGatewayVpnPerformance := ← src.optional 11 "min_gateway_vpn_performance"
    residentialExit := ← src.required 12 "residential_exit"
    customDns := ← src.optional 13 "custom_dns"
  }

instance : Serialize V3.VpnServiceConfig := ⟨fun c => .obj c.entries⟩

instance : Deserialize V3.VpnServiceConfig := ⟨fun j => (j.fields 14).bind ofFields⟩

instance : RoundTrips V3.VpnServiceConfig where
  fromJson_toJson c := by
    change ofFields (.map c.entries) = _
    simp [ofFields, entries]

end V3.VpnServiceConfig

namespace V4.VpnServiceConfig

def entries (c : V4.VpnServiceConfig) : List (String × Json) :=
  [("entry_point", toJson c.entryPoint),
    ("exit_point", toJson c.exitPoint),
    ("allow_lan", toJson c.allowLan),
    ("disable_ipv6", toJson c.disableIpv6),
    ("enable_two_hop", toJson c.enableTwoHop),
    ("enable_bridges", toJson c.enableBridges),
    ("netstack", toJson c.netstack),
    ("disable_poisson_rate", toJson c.disablePoissonRate),
    ("disable_background_cover_traffic", toJson c.disableBackgroundCoverTraffic),
    ("min_mixnode_performance", toJson c.minMixnodePerformance),
    ("min_gateway_mixnet_performance", toJson c.minGatewayMixnetPerformance),
    ("min_gateway_vpn_performance", toJson c.minGatewayVpnPerformance),
    ("residential_exit", toJson c.residentialExit),
    ("enable_custom_dns", toJson c.enableCustomDns),
    ("custom_dns", toJson c.customDns)]

def ofFields (src : Fields) : Option V4.VpnServiceConfig := do
  return {
    entryPoint := ← src.required 0 "entry_point"
    exitPoint := ← src.required 1 "exit_point"
    allowLan := ← src.required 2 "allow_lan"
    disableIpv6 := ← src.required 3 "disable_ipv6"
    enableTwoHop := ← src.required 4 "enable_two_hop"
    enableBridges := ← src.required 5 "enable_bridges"
    netstack := ← src.required 6 "netstack"
    disablePoissonRate := ← src.required 7 "disable_poisson_rate"
    disableBackgroundCoverTraffic := ← src.required 8 "disable_background_cover_traffic"
    minMixnodePerformance := ← src.optional 9 "min_mixnode_performance"
    minGatewayMixnetPerformance := ← src.optional 10 "min_gateway_mixnet_performance"
    minGatewayVpnPerformance := ← src.optional 11 "min_gateway_vpn_performance"
    residentialExit := ← src.required 12 "residential_exit"
    enableCustomDns := ← src.required 13 "enable_custom_dns"
    customDns := ← src.required 14 "custom_dns"
  }

instance : Serialize V4.VpnServiceConfig := ⟨fun c => .obj c.entries⟩

instance : Deserialize V4.VpnServiceConfig := ⟨fun j => (j.fields 15).bind ofFields⟩

instance : RoundTrips V4.VpnServiceConfig where
  fromJson_toJson c := by
    change ofFields (.map c.entries) = _
    simp [ofFields, entries]

end V4.VpnServiceConfig

namespace V5.VpnServiceConfig

def entries (c : V5.VpnServiceConfig) : List (String × Json) :=
  [("entry_point", toJson c.entryPoint),
    ("exit_point", toJson c.exitPoint),
    ("allow_lan", toJson c.allowLan),
    ("disable_ipv6", toJson c.disableIpv6),
    ("enable_two_hop", toJson c.enableTwoHop),
    ("enable_bridges", toJson c.enableBridges),
    ("netstack", toJson c.netstack),
    ("min_gateway_vpn_performance", toJson c.minGatewayVpnPerformance),
    ("residential_exit", toJson c.residentialExit),
    ("enable_custom_dns", toJson c.enableCustomDns),
    ("custom_dns", toJson c.customDns),
    ("mixnet_traffic", toJson c.mixnetTraffic)]

def ofFields (src : Fields) : Option V5.VpnServiceConfig := do
  return {
    entryPoint := ← src.required 0 "entry_point"
    exitPoint := ← src.required 1 "exit_point"
    allowLan := ← src.required 2 "allow_lan"
    disableIpv6 := ← src.required 3 "disable_ipv6"
    enableTwoHop := ← src.required 4 "enable_two_hop"
    enableBridges := ← src.required 5 "enable_bridges"
    netstack := ← src.required 6 "netstack"
    minGatewayVpnPerformance := ← src.optional 7 "min_gateway_vpn_performance"
    residentialExit := ← src.required 8 "residential_exit"
    enableCustomDns := ← src.required 9 "enable_custom_dns"
    customDns := ← src.required 10 "custom_dns"
    mixnetTraffic := ← src.required 11 "mixnet_traffic"
  }

instance : Serialize V5.VpnServiceConfig := ⟨fun c => .obj c.entries⟩

instance : Deserialize V5.VpnServiceConfig := ⟨fun j => (j.fields 12).bind ofFields⟩

instance : RoundTrips V5.VpnServiceConfig where
  fromJson_toJson c := by
    change ofFields (.map c.entries) = _
    simp [ofFields, entries]

end V5.VpnServiceConfig

namespace V6.VpnServiceConfig

def entries (c : V6.VpnServiceConfig) : List (String × Json) :=
  [("entry_point", toJson c.entryPoint),
    ("exit_point", toJson c.exitPoint),
    ("allow_lan", toJson c.allowLan),
    ("disable_ipv6", toJson c.disableIpv6),
    ("enable_two_hop", toJson c.enableTwoHop),
    ("enable_bridges", toJson c.enableBridges),
    ("enable_lewes_protocol", toJson c.enableLewesProtocol),
    ("netstack", toJson c.netstack),
    ("min_gateway_vpn_performance", toJson c.minGatewayVpnPerformance),
    ("residential_exit", toJson c.residentialExit),
    ("enable_custom_dns", toJson c.enableCustomDns),
    ("custom_dns", toJson c.customDns),
    ("mixnet_traffic", toJson c.mixnetTraffic)]

def ofFields (src : Fields) : Option V6.VpnServiceConfig := do
  return {
    entryPoint := ← src.required 0 "entry_point"
    exitPoint := ← src.required 1 "exit_point"
    allowLan := ← src.required 2 "allow_lan"
    disableIpv6 := ← src.required 3 "disable_ipv6"
    enableTwoHop := ← src.required 4 "enable_two_hop"
    enableBridges := ← src.required 5 "enable_bridges"
    enableLewesProtocol := ← src.required 6 "enable_lewes_protocol"
    netstack := ← src.required 7 "netstack"
    minGatewayVpnPerformance := ← src.optional 8 "min_gateway_vpn_performance"
    residentialExit := ← src.required 9 "residential_exit"
    enableCustomDns := ← src.required 10 "enable_custom_dns"
    customDns := ← src.required 11 "custom_dns"
    mixnetTraffic := ← src.required 12 "mixnet_traffic"
  }

instance : Serialize V6.VpnServiceConfig := ⟨fun c => .obj c.entries⟩

instance : Deserialize V6.VpnServiceConfig := ⟨fun j => (j.fields 13).bind ofFields⟩

instance : RoundTrips V6.VpnServiceConfig where
  fromJson_toJson c := by
    change ofFields (.map c.entries) = _
    simp [ofFields, entries]

end V6.VpnServiceConfig

namespace V7.VpnServiceConfig

def entries (c : V7.VpnServiceConfig) : List (String × Json) :=
  [("entry_point", toJson c.entryPoint),
    ("exit_point", toJson c.exitPoint),
    ("allow_lan", toJson c.allowLan),
    ("disable_ipv6", toJson c.disableIpv6),
    ("enable_two_hop", toJson c.enableTwoHop),
    ("enable_bridges", toJson c.enableBridges),
    ("enable_lewes_protocol", toJson c.enableLewesProtocol),
    ("netstack", toJson c.netstack),
    ("min_gateway_vpn_performance", toJson c.minGatewayVpnPerformance),
    ("residential_exit", toJson c.residentialExit),
    ("enable_custom_dns", toJson c.enableCustomDns),
    ("custom_dns", toJson c.customDns),
    ("enable_ad_blocking", toJson c.enableAdBlocking),
    ("mixnet_traffic", toJson c.mixnetTraffic)]

def ofFields (src : Fields) : Option V7.VpnServiceConfig := do
  return {
    entryPoint := ← src.required 0 "entry_point"
    exitPoint := ← src.required 1 "exit_point"
    allowLan := ← src.required 2 "allow_lan"
    disableIpv6 := ← src.required 3 "disable_ipv6"
    enableTwoHop := ← src.required 4 "enable_two_hop"
    enableBridges := ← src.required 5 "enable_bridges"
    enableLewesProtocol := ← src.required 6 "enable_lewes_protocol"
    netstack := ← src.required 7 "netstack"
    minGatewayVpnPerformance := ← src.optional 8 "min_gateway_vpn_performance"
    residentialExit := ← src.required 9 "residential_exit"
    enableCustomDns := ← src.required 10 "enable_custom_dns"
    customDns := ← src.required 11 "custom_dns"
    enableAdBlocking := ← src.required 12 "enable_ad_blocking"
    mixnetTraffic := ← src.required 13 "mixnet_traffic"
  }

instance : Serialize V7.VpnServiceConfig := ⟨fun c => .obj c.entries⟩

instance : Deserialize V7.VpnServiceConfig := ⟨fun j => (j.fields 14).bind ofFields⟩

instance : RoundTrips V7.VpnServiceConfig where
  fromJson_toJson c := by
    change ofFields (.map c.entries) = _
    simp [ofFields, entries]

end V7.VpnServiceConfig

namespace V8.VpnServiceConfig

def entries (c : V8.VpnServiceConfig) : List (String × Json) :=
  [("entry_point", toJson c.entryPoint),
    ("exit_point", toJson c.exitPoint),
    ("allow_lan", toJson c.allowLan),
    ("disable_ipv6", toJson c.disableIpv6),
    ("enable_two_hop", toJson c.enableTwoHop),
    ("enable_bridges", toJson c.enableBridges),
    ("enable_lewes_protocol", toJson c.enableLewesProtocol),
    ("netstack", toJson c.netstack),
    ("min_gateway_vpn_performance", toJson c.minGatewayVpnPerformance),
    ("residential_exit", toJson c.residentialExit),
    ("enable_custom_dns", toJson c.enableCustomDns),
    ("custom_dns", toJson c.customDns),
    ("enable_ad_blocking", toJson c.enableAdBlocking),
    ("mixnet_traffic", toJson c.mixnetTraffic),
    ("killswitch", toJson c.killswitch),
    ("legacy_split_tunnel", toJson c.legacySplitTunnel),
    ("inbound_exemptions", toJson c.inboundExemptions),
    ("stealth_api", toJson c.stealthApi),
    ("gateway_independence", toJson c.gatewayIndependence),
    ("always_on", toJson c.alwaysOn)]

def ofFields (src : Fields) : Option V8.VpnServiceConfig := do
  return {
    entryPoint := ← src.required 0 "entry_point"
    exitPoint := ← src.required 1 "exit_point"
    allowLan := ← src.required 2 "allow_lan"
    disableIpv6 := ← src.required 3 "disable_ipv6"
    enableTwoHop := ← src.required 4 "enable_two_hop"
    enableBridges := ← src.required 5 "enable_bridges"
    enableLewesProtocol := ← src.required 6 "enable_lewes_protocol"
    netstack := ← src.required 7 "netstack"
    minGatewayVpnPerformance := ← src.optional 8 "min_gateway_vpn_performance"
    residentialExit := ← src.required 9 "residential_exit"
    enableCustomDns := ← src.required 10 "enable_custom_dns"
    customDns := ← src.required 11 "custom_dns"
    enableAdBlocking := ← src.required 12 "enable_ad_blocking"
    mixnetTraffic := ← src.required 13 "mixnet_traffic"
    killswitch := ← src.withDefault 14 "killswitch" true
    legacySplitTunnel := ← src.withDefault 15 "legacy_split_tunnel" false
    inboundExemptions := ← src.withDefault 16 "inbound_exemptions" []
    stealthApi := ← src.withDefault 17 "stealth_api" false
    gatewayIndependence := ← src.withDefault 18 "gateway_independence" .default
    alwaysOn := ← src.withDefault 19 "always_on" false
  }

instance : Serialize V8.VpnServiceConfig := ⟨fun c => .obj c.entries⟩

instance : Deserialize V8.VpnServiceConfig := ⟨fun j => (j.fields 20).bind ofFields⟩

instance : RoundTrips V8.VpnServiceConfig where
  fromJson_toJson c := by
    change ofFields (.map c.entries) = _
    simp [ofFields, entries]

end V8.VpnServiceConfig

/-! ## The file -/

namespace VpnServiceConfigExt

def entries : VpnServiceConfigExt → List (String × Json)
  | .v1 c => c.entries
  | .v2 c => c.entries
  | .v3 c => c.entries
  | .v4 c => c.entries
  | .v5 c => c.entries
  | .v6 c => c.entries
  | .v7 c => c.entries
  | .v8 c => c.entries

def tag : VpnServiceConfigExt → String
  | .v1 _ => "v1"
  | .v2 _ => "v2"
  | .v3 _ => "v3"
  | .v4 _ => "v4"
  | .v5 _ => "v5"
  | .v6 _ => "v6"
  | .v7 _ => "v7"
  | .v8 _ => "v8"

instance : Serialize VpnServiceConfigExt := ⟨fun e => withTag "version" e.tag e.entries⟩

def ofTagged (content : Json) : String → Option VpnServiceConfigExt
  | "v1" => (fromJson content).map .v1
  | "v2" => (fromJson content).map .v2
  | "v3" => (fromJson content).map .v3
  | "v4" => (fromJson content).map .v4
  | "v5" => (fromJson content).map .v5
  | "v6" => (fromJson content).map .v6
  | "v7" => (fromJson content).map .v7
  | "v8" => (fromJson content).map .v8
  | _ => none

instance : Deserialize VpnServiceConfigExt where
  fromJson j := (j.tagged "version").bind fun p => ofTagged p.2 p.1

theorem valuesOf_version_entries (e : VpnServiceConfigExt) : valuesOf "version" e.entries = [] := by
  cases e with
  | v1 c | v2 c | v3 c | v4 c | v5 c | v6 c | v7 c | v8 c =>
    simp [entries, V1.VpnServiceConfig.entries, V2.VpnServiceConfig.entries,
      V3.VpnServiceConfig.entries, V4.VpnServiceConfig.entries, V5.VpnServiceConfig.entries,
      V6.VpnServiceConfig.entries, V7.VpnServiceConfig.entries, V8.VpnServiceConfig.entries]

instance : RoundTrips VpnServiceConfigExt where
  fromJson_toJson e := by
    have htagged : (toJson e).tagged "version" = some (e.tag, .obj e.entries) :=
      tagged_withTag e.valuesOf_version_entries
    change ((toJson e).tagged "version").bind _ = _
    rw [htagged]
    cases e with
    | v1 c | v2 c | v3 c | v4 c | v5 c | v6 c | v7 c | v8 c =>
      exact congrArg (Option.map _) (fromJson_toJson c)

end VpnServiceConfigExt

/-! ## Saving and loading -/

section SaveLoad

variable {t : TextForms}

theorem EntryExit.V2.EntryPoint.exists_tryFrom (ht : t.RoundTrips)
    (p : GatewayDirectory.EntryPoint) : ∃ q, tryFrom t p = .ok q ∧ q.tryInto t = .ok p := by
  cases p with
  | gateway identity =>
    refine ⟨_, rfl, ?_⟩
    rw [tryInto, ht.nodeIdentity]
    rfl
  | _ => exact ⟨_, rfl, rfl⟩

theorem EntryExit.V2.ExitPoint.exists_tryFrom (ht : t.RoundTrips)
    (p : GatewayDirectory.ExitPoint) : ∃ q, tryFrom t p = .ok q ∧ q.tryInto t = .ok p := by
  cases p with
  | address recipient =>
    refine ⟨_, rfl, ?_⟩
    rw [tryInto, ht.recipient]
    rfl
  | gateway identity =>
    refine ⟨_, rfl, ?_⟩
    rw [tryInto, ht.nodeIdentity]
    rfl
  | _ => exact ⟨_, rfl, rfl⟩

theorem mapM_ipAddrOf_display (ht : t.RoundTrips) (ips : List Net.IpAddr) :
    (ips.map Net.IpAddr.display).mapM (ipAddrOf t) = .ok ips := by
  induction ips with
  | nil => rfl
  | cons ip ips ih =>
    rw [List.map_cons, List.mapM_cons, ipAddrOf, ht.ipAddr, ih]
    rfl

theorem V8.InboundExemption.into_ofConfig (e : VpnService.InboundExemption) :
    (ofConfig e).into = e := by
  obtain ⟨proto, dport, label⟩ := e
  cases proto <;> rfl

theorem VpnServiceConfigExt.exists_tryFrom (ht : t.RoundTrips) (c : VpnServiceConfig) :
    ∃ e, tryFrom t c = .ok e ∧ e.version = .latest ∧ e.tryInto t = .ok c := by
  obtain ⟨entry, hentry, hentry'⟩ := EntryExit.V2.EntryPoint.exists_tryFrom ht c.entryPoint
  obtain ⟨exit, hexit, hexit'⟩ := EntryExit.V2.ExitPoint.exists_tryFrom ht c.exitPoint
  rw [tryFrom, hentry, hexit]
  refine ⟨_, rfl, rfl, ?_⟩
  rw [tryInto, V8.VpnServiceConfig.tryInto, hentry', hexit', mapM_ipAddrOf_display ht]
  simp only [List.map_map, Function.comp_def, V8.InboundExemption.into_ofConfig, List.map_id']
  rfl

def decode (t : TextForms) (j : Json) : Option VpnServiceConfig :=
  (fromJson (α := VpnServiceConfigExt) j).bind fun e => (e.tryInto t).toOption

theorem decode_toJson {e : VpnServiceConfigExt} {c : VpnServiceConfig}
    (h : e.tryInto t = .ok c) : decode t (toJson e) = some c := by
  simp [decode, h, Except.toOption]

/-- A configuration survives being saved and loaded, and an upgrade of the file: the
settings an earlier version stores keep their values, and the migrated configuration
survives being saved in turn. -/
theorem stored_settings_survive (t : TextForms) (ht : t.RoundTrips) :
    (∀ c e, tryFrom t c = .ok e →
      e.version = .v8 ∧ decode t (toJson e) = some c) ∧
      ∀ e : VpnServiceConfigExt, e.version ≠ .v8 →
        ((∀ s, e.version.stores s = true → (e.setting? t s).isSome = true) →
          ∃ c, e.tryInto t = .ok c) ∧
        ∀ c, e.tryInto t = .ok c →
          (∀ s, e.version.stores s = true → e.setting? t s = some (c.setting s)) ∧
          ∃ e', tryFrom t c = .ok e' ∧ decode t (toJson e') = some c := by
  refine ⟨fun c e he => ?_, fun e _ => ⟨e.exists_tryInto, fun c hc => ⟨fun s hs => ?_, ?_⟩⟩⟩
  · obtain ⟨e', he', hversion, hinto⟩ := exists_tryFrom ht c
    obtain rfl : e' = e := Except.ok.inj (he'.symm.trans he)
    exact ⟨hversion, decode_toJson hinto⟩
  · exact (migrates hc).stored_eq hs
  · obtain ⟨e', he', -, hinto⟩ := exists_tryFrom ht c
    exact ⟨e', he', decode_toJson hinto⟩

theorem plainForms_roundTrips : plainForms.RoundTrips where
  nodeIdentity identity := by
    simp [plainForms, Text.decimal, Text.readDigits_toDigits]
  recipient address := by
    have hsplit (n : ℕ) : List.splitOn '.' (Nat.toDigits 10 n) = [Nat.toDigits 10 n] :=
      List.splitOn_eq_singleton (Net.dot_not_mem_toDigits n)
    simp [plainForms, Text.decimal, List.splitOn_append_cons_self, hsplit, Text.readDigits_toDigits]
  ipAddr ip := by
    have hcolon : (if ':' ∈ ip.display.toList then Net.AddrFamily.v6 else .v4) = ip.family := by
      cases ip with
      | v4 ip =>
        have hnot := Net.not_mem_display_ipv4 (c := ':') (by decide) (by decide) ip
        exact if_neg hnot
      | v6 ip => exact if_pos (Net.colon_mem_display_ipv6 ip)
    simp [plainForms, hcolon, Net.readIpAddr_display]

def editedV2 : V2.VpnServiceConfig where
  entryPoint := .gateway "7"
  exitPoint := .random
  dns := some "9.9.9.9"
  allowLan := false
  disableIpv6 := false
  enableTwoHop := false
  enableBridges := true
  netstack := true
  disablePoissonRate := true
  disableBackgroundCoverTraffic := true
  minMixnodePerformance := some 60
  minGatewayMixnetPerformance := some 70
  minGatewayVpnPerformance := some 80
  residentialExit := true

/-- The file is upgraded and saved. -/
theorem stored_settings_survive_editedV2 : ∃ c, (v2 editedV2).tryInto plainForms = .ok c ∧
    c.entryPoint = .gateway 7 ∧ c.customDns = [.v4 ⟨9, 9, 9, 9⟩] ∧
      (∀ s, VpnServiceConfigVersion.v2.stores s = true →
        (v2 editedV2).setting? plainForms s = some (c.setting s)) ∧
      ∃ e', tryFrom plainForms c = .ok e' ∧ decode plainForms (toJson e') = some c :=
  ⟨_, rfl, rfl, rfl, ((stored_settings_survive plainForms plainForms_roundTrips).2 (.v2 editedV2)
    (by decide)).2 _ rfl⟩

end SaveLoad

end VpnService
