import NymVpn.Firewall.Policy
import NymVpn.Firewall.Rules

/-!
# Compiling a policy

Every helper pushes rules onto the chains of the set it is given, in the order of the source;
a loop is a left fold of the helper. What the compiler probes from the system is a parameter.
-/

namespace NymFirewall

open Net

def dhcpv4ClientPort : UInt16 := 68
def dhcpv4ServerPort : UInt16 := 67
def dhcpv6ClientPort : UInt16 := 546
def dhcpv6ServerPort : UInt16 := 547
def dnsPort : UInt16 := 53
def dotPort : UInt16 := 853
def dohPort : UInt16 := 443
def ntpPort : UInt16 := 123

def ntpRatePerMin : UInt32 := 12
def ntpBurst : UInt32 := 8
def dnsRatePerMin : UInt32 := 30
def dnsBurst : UInt32 := 20
def probeRatePerMin : UInt32 := 3000
def probeBurst : UInt32 := 100

def rootUid : UInt32 := 0

def tunnelFwmark : UInt32 := 0x14d

def exemptFwmark : UInt32 := 0x14e

def lanNetsV4 : List Ipv4Network :=
  [⟨⟨10, 0, 0, 0⟩, 8⟩, ⟨⟨172, 16, 0, 0⟩, 12⟩, ⟨⟨192, 168, 0, 0⟩, 16⟩]

def lanNetsV6 : List Ipv6Network :=
  [⟨⟨[0xfe80, 0, 0, 0, 0, 0, 0, 0], rfl⟩, 10⟩, ⟨⟨[0xfc00, 0, 0, 0, 0, 0, 0, 0], rfl⟩, 7⟩]

def multicastV4 : Ipv4Network := ⟨⟨224, 0, 0, 0⟩, 4⟩

def multicastV6 : Ipv6Network := ⟨⟨[0xff00, 0, 0, 0, 0, 0, 0, 0], rfl⟩, 8⟩

def allowedLanNets : List IpNetwork :=
  [.v4 ⟨⟨10, 0, 0, 0⟩, 8⟩, .v4 ⟨⟨172, 16, 0, 0⟩, 12⟩, .v4 ⟨⟨192, 168, 0, 0⟩, 16⟩,
    .v4 ⟨⟨169, 254, 0, 0⟩, 16⟩, .v6 ⟨⟨[0xfe80, 0, 0, 0, 0, 0, 0, 0], rfl⟩, 10⟩,
    .v6 ⟨⟨[0xfc00, 0, 0, 0, 0, 0, 0, 0], rfl⟩, 7⟩]

def loopbackNets : List IpNetwork :=
  [.v4 ⟨⟨127, 0, 0, 0⟩, 8⟩, .v6 ⟨⟨[0, 0, 0, 0, 0, 0, 0, 1], rfl⟩, 128⟩]

def isLocalAddress (address : IpAddr) : Bool :=
  (allowedLanNets ++ loopbackNets).any fun net => net.contains address

/-- Loopback excluded: a resolver on the router is reached over `lo`. -/
def isPrivateDns (ip : IpAddr) : Bool := isLocalAddress ip && !ip.isLoopback

structure Uplink where
  /-- Devices of every WAN zone; empty means unknown. -/
  wanDevices : List String
  routeDevice : IpAddr → Option String

namespace RuleSet

def pushInput (rs : RuleSet) (r : Rule) : RuleSet :=
  { rs with filter := { rs.filter with input := rs.filter.input ++ [r] } }

def pushOutput (rs : RuleSet) (r : Rule) : RuleSet :=
  { rs with filter := { rs.filter with output := rs.filter.output ++ [r] } }

def pushForward (rs : RuleSet) (r : Rule) : RuleSet :=
  { rs with filter := { rs.filter with forward := rs.filter.forward ++ [r] } }

def pushManglePrerouting (rs : RuleSet) (r : Rule) : RuleSet :=
  { rs with mangle := { rs.mangle with prerouting := rs.mangle.prerouting ++ [r] } }

def pushMangleOutput (rs : RuleSet) (r : Rule) : RuleSet :=
  { rs with mangle := { rs.mangle with output := rs.mangle.output ++ [r] } }

end RuleSet

def familyOf : IpAddr → Family
  | .v4 _ => .v4
  | .v6 _ => .v6

def TransportProtocol.toProto : TransportProtocol → Proto
  | .tcp => .tcp
  | .udp => .udp

def allowTrackIp (rs : RuleSet) (ip : IpAddr) : RuleSet :=
  match ip with
  | .v4 _ => rs.pushOutput (((Rule.accept .v4).icmpv4Type .echoRequest).daddr ip)
  | .v6 _ => rs.pushOutput (((Rule.accept .v6).icmpv6Type .echoRequest).daddr ip)

def baseRules (trackIps : List IpAddr) (rs : RuleSet) : RuleSet :=
  let rs := rs.pushInput ((Rule.accept .inet).iif "lo")
  let rs := rs.pushOutput ((Rule.accept .inet).oif "lo")
  let rs := rs.pushOutput ((((Rule.accept .v4).proto .udp).sport
    dhcpv4ClientPort).dport dhcpv4ServerPort)
  let rs := rs.pushOutput ((((Rule.accept .v4).proto .udp).sport
    dhcpv4ServerPort).dport dhcpv4ClientPort)
  let rs := rs.pushOutput ((((Rule.accept .v6).proto .udp).sport
    dhcpv6ClientPort).dport dhcpv6ServerPort)
  let rs := rs.pushOutput ((((Rule.accept .v6).proto .udp).sport
    dhcpv6ServerPort).dport dhcpv6ClientPort)
  let rs := [IcmpV6Type.routerSolicit, .neighborSolicit, .neighborAdvert].foldl
    (fun rs t => rs.pushOutput ((Rule.accept .v6).icmpv6Type t)) rs
  trackIps.foldl allowTrackIp rs

def exemptionFilterAccepts (rs : RuleSet) (exemptions : List InboundExemption) : RuleSet :=
  if exemptions.isEmpty then rs
  else
    let rs := rs.pushInput ((Rule.accept .inet).markEq exemptFwmark)
    rs.pushOutput ((Rule.accept .inet).markEq exemptFwmark)

def bypassMarkForwardAccept (rs : RuleSet) : RuleSet :=
  rs.pushForward ((Rule.accept .inet).markEq exemptFwmark)

def tunnelInterfaces (policy : FirewallPolicy) : List String :=
  let metadatas : List TunnelMetadata :=
    match policy with
    | .connecting _ tunnel .. => tunnel.toList.flatMap TunnelInterface.innerMetadatas
    | .connected _ tunnel .. => tunnel.innerMetadatas
    | .blocked .. => []
  metadatas.map TunnelMetadata.interface

/-- Forwards that arrive from outside, WAN or tunnel, are the zones' to judge,
unless they leave through a WAN device. -/
def untrustedIngressReturns (rs : RuleSet) (wanDevices tunnels : List String) : RuleSet :=
  let ingress := wanDevices ++ tunnels
  let rs := ingress.foldl (fun rs dev =>
    wanDevices.foldl (fun rs wan =>
      rs.pushForward (((Rule.reject .inet).iif dev).oif wan)) rs) rs
  ingress.foldl (fun rs dev => rs.pushForward ((Rule.return_ .inet).iif dev)) rs

def exemptionMangleRules (rs : RuleSet) (exemptions : List InboundExemption)
    (wanDevices : List String) : RuleSet :=
  let restore := (Rule.restoreMark .inet).ctMarkEq exemptFwmark
  let rs := rs.pushManglePrerouting restore
  let rs := wanDevices.foldl (fun rs wan =>
    exemptions.foldl (fun rs ex =>
      rs.pushManglePrerouting (((((Rule.setCtMark .inet exemptFwmark).iif wan).proto
        ex.proto.toProto).dport ex.dport).ctNew)) rs) rs
  let rs := rs.pushManglePrerouting restore
  rs.pushMangleOutput restore

def exemptionMangle (rs : RuleSet) (exemptions : List InboundExemption)
    (wanDevices : List String) : RuleSet :=
  if exemptions.isEmpty then rs
  else if wanDevices.isEmpty then rs
  else exemptionMangleRules rs exemptions wanDevices

def allowEndpoint (rs : RuleSet) (ep : AllowedEndpoint) : RuleSet :=
  let ip := ep.endpoint.address.ip
  let out := (((Rule.accept (familyOf ip)).proto ep.endpoint.protocol.toProto).daddr
    ip).dport ep.endpoint.address.port
  let out := if ep.clients = .root then out.skuid rootUid else out
  rs.pushOutput out

inductive DnsAccess where
  | daemon
  | routerAndLan
deriving DecidableEq

def dnsPairs : List (Proto × UInt16) :=
  [(.udp, dnsPort), (.tcp, dnsPort), (.tcp, dotPort), (.tcp, dohPort)]

def dnsServerRule (dns : IpAddr) (iface : Option String) (outputSkuid : Option UInt32)
    (pair : Proto × UInt16) : Rule :=
  let out := (((Rule.accept (familyOf dns)).proto pair.1).daddr dns).dport pair.2
  let out := match iface with
    | some iface => out.oif iface
    | none => out
  match outputSkuid with
  | some uid => out.skuid uid
  | none => out

def allowDnsServerInner (rs : RuleSet) (dns : IpAddr) (iface : Option String)
    (clients : DnsAccess) : RuleSet :=
  let family := familyOf dns
  let outputSkuid : Option UInt32 :=
    match clients with
    | .daemon => some rootUid
    | .routerAndLan => none
  let allowForward := clients == .routerAndLan
  let rs := dnsPairs.foldl (fun rs pair =>
    rs.pushOutput (dnsServerRule dns iface outputSkuid pair)) rs
  if allowForward && iface.isNone then
    [Proto.udp, .tcp].foldl (fun rs proto =>
      rs.pushForward ((((Rule.accept family).proto proto).daddr dns).dport dnsPort)) rs
  else rs

def allowDnsServerDaemonOnly (rs : RuleSet) (dns : IpAddr) : RuleSet :=
  allowDnsServerInner rs dns none .daemon

def allowDnsServer (rs : RuleSet) (dns : IpAddr) (iface : Option String) : RuleSet :=
  allowDnsServerInner rs dns iface .routerAndLan

/-- The device a private resolver is pinned to: none unless the WAN zone is
known and the route leaves on a device that is neither a WAN nor the tunnel. -/
def privateDnsDevice (dns : IpAddr) (uplink : Uplink) (tunnelIfaces : List String) :
    Option String :=
  if uplink.wanDevices.isEmpty then none
  else
    match uplink.routeDevice dns with
    | none => none
    | some dev =>
      if uplink.wanDevices.contains dev then none
      else if tunnelIfaces.contains dev then none
      else some dev

def allowDnsServerOn (rs : RuleSet) (dns : IpAddr) (dev : String) : RuleSet :=
  let family := familyOf dns
  let rs := dnsPairs.foldl (fun rs pair =>
    rs.pushOutput (((((Rule.accept family).proto pair.1).daddr dns).dport pair.2).oif dev)) rs
  [Proto.udp, .tcp].foldl (fun rs proto =>
    rs.pushForward (((((Rule.accept family).proto proto).daddr dns).dport dnsPort).oif dev)) rs

/-- The accepts of a private resolver on the device it is pinned to. The flag
is `false`, and nothing is emitted, for an address that is not private or
cannot be pinned. -/
def allowPrivateDnsServer (rs : RuleSet) (dns : IpAddr) (uplink : Uplink)
    (tunnelIfaces : List String) : RuleSet × Bool :=
  if !isPrivateDns dns then (rs, false)
  else
    match privateDnsDevice dns uplink tunnelIfaces with
    | none => (rs, false)
    | some dev => (allowDnsServerOn rs dns dev, true)

def allowTunnel (rs : RuleSet) (iface : String) : RuleSet :=
  let rs := rs.pushOutput ((Rule.accept .inet).oif iface)
  rs.pushForward ((Rule.accept .inet).oif iface)

def allowTunnelIfAny (rs : RuleSet) : Option TunnelInterface → RuleSet
  | some tunnel => tunnel.innerMetadatas.foldl (fun rs m => allowTunnel rs m.interface) rs
  | none => rs

def cve201914899Protection (rs : RuleSet) (tunnel : TunnelMetadata) : RuleSet :=
  tunnel.ips.foldl (fun rs ip =>
    rs.pushInput (((Rule.drop_ (familyOf ip)).iifNot tunnel.interface).daddr ip)) rs

def blockDns (rs : RuleSet) : RuleSet :=
  [Proto.udp, .tcp].foldl (fun rs proto =>
    let rs := rs.pushOutput (((Rule.reject .inet).proto proto).dport dnsPort)
    rs.pushForward (((Rule.reject .inet).proto proto).dport dnsPort)) rs

def ntpEscapeHatch (rs : RuleSet) : RuleSet :=
  rs.pushOutput ((((Rule.accept .inet).proto .udp).dport ntpPort).rateLimit ntpRatePerMin ntpBurst)

def dnsEscapeHatch (rs : RuleSet) : RuleSet :=
  [Proto.udp, .tcp].foldl (fun rs proto =>
    rs.pushOutput (((((Rule.accept .inet).proto proto).dport dnsPort).rateLimit
      dnsRatePerMin dnsBurst).skuid rootUid)) rs

def probeEscapeHatch (rs : RuleSet) : RuleSet :=
  let rs := rs.pushOutput ((((Rule.accept .v4).icmpv4Type .echoRequest).markEq
    tunnelFwmark).rateLimit probeRatePerMin probeBurst)
  rs.pushOutput ((((Rule.accept .v6).icmpv6Type .echoRequest).markEq
    tunnelFwmark).rateLimit probeRatePerMin probeBurst)

def allowLanTraffic (rs : RuleSet) : RuleSet :=
  let rs := lanNetsV4.foldl (fun rs n =>
    let rs := rs.pushOutput ((Rule.accept .v4).daddr (.net (.v4 n)))
    rs.pushForward ((Rule.return_ .v4).daddr (.net (.v4 n)))) rs
  let rs := lanNetsV6.foldl (fun rs n =>
    let rs := rs.pushOutput ((Rule.accept .v6).daddr (.net (.v6 n)))
    rs.pushForward ((Rule.return_ .v6).daddr (.net (.v6 n)))) rs
  let rs := rs.pushOutput ((Rule.accept .v4).daddr (.net (.v4 multicastV4)))
  rs.pushOutput ((Rule.accept .v6).daddr (.net (.v6 multicastV6)))

def finalReject (rs : RuleSet) : RuleSet :=
  let rs := rs.pushOutput (Rule.reject .inet)
  rs.pushForward (Rule.reject .inet)

def allowDnsWhileDown (uplink : Uplink) (tunnelIfaces : List String) (rs : RuleSet)
    (dns : IpAddr) : RuleSet :=
  let (rs, pinned) := allowPrivateDnsServer rs dns uplink tunnelIfaces
  if !pinned then allowDnsServerDaemonOnly rs dns else rs

def allowDnsWhileConnected (uplink : Uplink) (tunnel : TunnelInterface) (rs : RuleSet)
    (dns : IpAddr) : RuleSet :=
  let tunnelIfaces := tunnel.innerMetadatas.map TunnelMetadata.interface
  let (rs, pinned) := allowPrivateDnsServer rs dns uplink tunnelIfaces
  if pinned then rs
  else if isPrivateDns dns then
    tunnel.innerMetadatas.foldl (fun rs m => allowDnsServer rs dns (some m.interface)) rs
  else allowDnsServer rs dns none

def allowTunnelDevice (allowLan : Bool) (rs : RuleSet) (m : TunnelMetadata) : RuleSet :=
  let rs := allowTunnel rs m.interface
  if allowLan then cve201914899Protection rs m else rs

def compileArm (policy : FirewallPolicy) (uplink : Uplink) (rs : RuleSet) : RuleSet :=
  match policy with
  | .connecting peerEndpoints tunnel allowLan dnsConfig allowedEndpoints _ _
      inboundExemptions =>
      let rs := peerEndpoints.foldl allowEndpoint rs
      let rs := allowedEndpoints.foldl allowEndpoint rs
      let tunnelIfaces := (tunnel.toList.flatMap TunnelInterface.innerMetadatas).map
        TunnelMetadata.interface
      let rs := dnsConfig.nonTunnelConfig.foldl (allowDnsWhileDown uplink tunnelIfaces) rs
      let rs := allowTunnelIfAny rs tunnel
      let rs := exemptionFilterAccepts rs inboundExemptions
      let rs := dnsEscapeHatch rs
      let rs := blockDns rs
      let rs := ntpEscapeHatch rs
      let rs := probeEscapeHatch rs
      let rs := if allowLan then allowLanTraffic rs else rs
      exemptionMangle rs inboundExemptions uplink.wanDevices
  | .connected peerEndpoints tunnel allowLan dnsConfig allowedEndpoints
      inboundExemptions =>
      let rs := peerEndpoints.foldl allowEndpoint rs
      let rs := allowedEndpoints.foldl allowEndpoint rs
      let rs := dnsConfig.tunnelConfig.foldl (fun rs dns =>
        tunnel.innerMetadatas.foldl (fun rs m =>
          allowDnsServer rs dns (some m.interface)) rs) rs
      let rs := dnsConfig.nonTunnelConfig.foldl (allowDnsWhileConnected uplink tunnel) rs
      let rs := tunnel.innerMetadatas.foldl (allowTunnelDevice allowLan) rs
      let rs := exemptionFilterAccepts rs inboundExemptions
      let rs := blockDns rs
      let rs := probeEscapeHatch rs
      let rs := if allowLan then allowLanTraffic rs else rs
      exemptionMangle rs inboundExemptions uplink.wanDevices
  | .blocked allowLan allowedEndpoints dnsServers =>
    let rs := allowedEndpoints.foldl allowEndpoint rs
    let rs := dnsServers.foldl (allowDnsWhileDown uplink []) rs
    let rs := dnsEscapeHatch rs
    let rs := blockDns rs
    let rs := ntpEscapeHatch rs
    let rs := probeEscapeHatch rs
    if allowLan then allowLanTraffic rs else rs

/-- Compiles a policy. `trackIps` are the addresses `mwan3` tracks. -/
def compileWith (trackIps : List IpAddr) (policy : FirewallPolicy) (uplink : Uplink) : RuleSet :=
  let rs : RuleSet := {}
  let rs := baseRules trackIps rs
  let rs := untrustedIngressReturns rs uplink.wanDevices (tunnelInterfaces policy)
  let rs := bypassMarkForwardAccept rs
  let rs := compileArm policy uplink rs
  finalReject rs

end NymFirewall
