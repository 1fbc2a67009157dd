import NymVpn.Net.Addr

/-!
# Packets as netfilter sees them

A packet carries what the rules of a chain can look at. The two addresses are of one family
by construction; the interfaces are optional.
-/

namespace Netfilter

open Net

inductive Addrs where
  | v4 (src dst : Ipv4Addr)
  | v6 (src dst : Ipv6Addr)

def Addrs.src : Addrs → IpAddr
  | .v4 s _ => .v4 s
  | .v6 s _ => .v6 s

def Addrs.dst : Addrs → IpAddr
  | .v4 _ d => .v4 d
  | .v6 _ d => .v6 d

/-- The transport header. `other` is any further protocol, by its number. -/
inductive Transport where
  | tcp (sport dport : UInt16)
  | udp (sport dport : UInt16)
  | icmp (type : UInt8)
  | icmpv6 (type : UInt8)
  | other (number : UInt8)
deriving DecidableEq

def Transport.sport? : Transport → Option UInt16
  | .tcp s _ => some s
  | .udp s _ => some s
  | _ => none

def Transport.dport? : Transport → Option UInt16
  | .tcp _ d => some d
  | .udp _ d => some d
  | _ => none

structure Packet where
  iif : Option String
  oif : Option String
  addrs : Addrs
  transport : Transport
  mark : UInt32
  /-- The flow has seen no reply yet. -/
  ctNew : Bool
  ctMark : UInt32
  /-- The uid of the owning socket, for a packet that has one. -/
  skuid : Option UInt32

inductive Decision where
  | accept
  | return_
  | drop_
  | reject

def Packet.family (k : Packet) : AddrFamily :=
  match k.addrs with
  | .v4 _ _ => .v4
  | .v6 _ _ => .v6

def Packet.saddr (k : Packet) : IpAddr := k.addrs.src

def Packet.daddr (k : Packet) : IpAddr := k.addrs.dst

theorem Packet.family_saddr (k : Packet) : k.saddr.family = k.family := by
  obtain ⟨_, _, addrs, _, _, _, _, _⟩ := k
  cases addrs with
  | v4 s d | v6 s d => rfl

theorem Packet.family_daddr (k : Packet) : k.daddr.family = k.family := by
  obtain ⟨_, _, addrs, _, _, _, _, _⟩ := k
  cases addrs with
  | v4 s d | v6 s d => rfl

end Netfilter
