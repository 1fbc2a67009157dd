import NymVpn.Net.Addr

/-!
# Firewall policies

What the daemon asks of the firewall. A policy is one of three states of the kill-switch;
the accessors give nothing where a state has no such field.
-/

namespace NymFirewall

open Net

inductive TransportProtocol where
  | udp
  | tcp
deriving DecidableEq

structure Endpoint where
  address : SocketAddr
  protocol : TransportProtocol
deriving DecidableEq

/-- The traffic permitted inside the tunnel while it is being negotiated. -/
inductive AllowedTunnelTraffic where
  | none
  | all
  | one (endpoint : Endpoint)
  | two (first second : Endpoint)
deriving DecidableEq

inductive AllowedClients where
  | root
  | all
deriving DecidableEq

structure AllowedEndpoint where
  endpoint : Endpoint
  clients : AllowedClients
deriving DecidableEq

/-- A service the operator exempts from the tunnel. The label is free text and
never reaches a rule. -/
structure InboundExemption where
  proto : TransportProtocol
  dport : UInt16
  label : Option String
deriving DecidableEq

structure TunnelMetadata where
  interface : String
  ips : List IpAddr
  ipv4Gateway : Option Ipv4Addr
  ipv6Gateway : Option Ipv6Addr
deriving DecidableEq

inductive TunnelInterface where
  | one (metadata : TunnelMetadata)
  | two (entry exit : TunnelMetadata)
deriving DecidableEq

def TunnelInterface.exitMetadata : TunnelInterface → TunnelMetadata
  | .one metadata => metadata
  | .two _ exit => exit

def TunnelInterface.innerMetadatas : TunnelInterface → List TunnelMetadata
  | .one metadata => [metadata]
  | .two entry exit => [entry, exit]

/-- The resolvers to configure on the tunnel interface, and those to let
through outside of it. -/
structure ResolvedDnsConfig where
  tunnelConfig : List IpAddr
  nonTunnelConfig : List IpAddr
deriving DecidableEq

inductive FirewallPolicy where
  | connecting (peerEndpoints : List AllowedEndpoint) (tunnel : Option TunnelInterface)
      (allowLan : Bool) (dnsConfig : ResolvedDnsConfig)
      (allowedEndpoints : List AllowedEndpoint)
      (allowedEntryTunnelTraffic allowedExitTunnelTraffic : AllowedTunnelTraffic)
      (inboundExemptions : List InboundExemption)
  | connected (peerEndpoints : List AllowedEndpoint) (tunnel : TunnelInterface)
      (allowLan : Bool) (dnsConfig : ResolvedDnsConfig)
      (allowedEndpoints : List AllowedEndpoint)
      (inboundExemptions : List InboundExemption)
  | blocked (allowLan : Bool) (allowedEndpoints : List AllowedEndpoint)
      (dnsServers : List IpAddr)
deriving DecidableEq

namespace FirewallPolicy

def peerEndpoints : FirewallPolicy → List AllowedEndpoint
  | connecting eps .. => eps
  | connected eps .. => eps
  | blocked .. => []

def allowedEndpoints : FirewallPolicy → List AllowedEndpoint
  | connecting _ _ _ _ eps .. => eps
  | connected _ _ _ _ eps .. => eps
  | blocked _ eps _ => eps

def inboundExemptions : FirewallPolicy → List InboundExemption
  | connecting _ _ _ _ _ _ _ exs => exs
  | connected _ _ _ _ _ exs => exs
  | blocked .. => []

def allowLan : FirewallPolicy → Bool
  | connecting _ _ lan .. => lan
  | connected _ _ lan .. => lan
  | blocked lan .. => lan

/-- The resolvers a policy lets through outside of the tunnel: the non-tunnel
resolvers of its configuration, or the servers of the blocked state. -/
def nonTunnelResolvers : FirewallPolicy → List IpAddr
  | connecting _ _ _ dns .. => dns.nonTunnelConfig
  | connected _ _ _ dns .. => dns.nonTunnelConfig
  | blocked _ _ servers => servers

def isConnected : FirewallPolicy → Bool
  | connected .. => true
  | _ => false

end FirewallPolicy

end NymFirewall
