import Mathlib.Algebra.Group.Nat.Defs
import Mathlib.Data.List.Basic

/-!
# IP addresses and networks

Addresses are kept as the octets and the segments the standard library prints. A network is
an address and a prefix length; `contains` compares the leading bits.
-/

namespace Net

structure Ipv4Addr where
  a : UInt8
  b : UInt8
  c : UInt8
  d : UInt8
deriving DecidableEq

structure Ipv6Addr where
  segments : List UInt16
  length_segments : segments.length = 8
deriving DecidableEq

inductive IpAddr where
  | v4 (ip : Ipv4Addr)
  | v6 (ip : Ipv6Addr)
deriving DecidableEq

inductive AddrFamily where
  | v4
  | v6
deriving DecidableEq

def IpAddr.family : IpAddr → AddrFamily
  | .v4 _ => .v4
  | .v6 _ => .v6

def IpAddr.isIpv4 : IpAddr → Bool
  | .v4 _ => true
  | .v6 _ => false

def IpAddr.isIpv6 : IpAddr → Bool
  | .v4 _ => false
  | .v6 _ => true

def Ipv4Addr.toNat (ip : Ipv4Addr) : ℕ :=
  ((ip.a.toNat * 256 + ip.b.toNat) * 256 + ip.c.toNat) * 256 + ip.d.toNat

def Ipv6Addr.toNat (ip : Ipv6Addr) : ℕ :=
  ip.segments.foldl (fun n s => n * 65536 + s.toNat) 0

structure Ipv4Network where
  addr : Ipv4Addr
  len : ℕ
deriving DecidableEq

structure Ipv6Network where
  addr : Ipv6Addr
  len : ℕ
deriving DecidableEq

inductive IpNetwork where
  | v4 (net : Ipv4Network)
  | v6 (net : Ipv6Network)
deriving DecidableEq

def IpNetwork.family : IpNetwork → AddrFamily
  | .v4 _ => .v4
  | .v6 _ => .v6

def Ipv4Network.contains (net : Ipv4Network) (ip : Ipv4Addr) : Bool :=
  ip.toNat / 2 ^ (32 - net.len) == net.addr.toNat / 2 ^ (32 - net.len)

def Ipv6Network.contains (net : Ipv6Network) (ip : Ipv6Addr) : Bool :=
  ip.toNat / 2 ^ (128 - net.len) == net.addr.toNat / 2 ^ (128 - net.len)

def IpNetwork.contains : IpNetwork → IpAddr → Bool
  | .v4 net, .v4 ip => net.contains ip
  | .v6 net, .v6 ip => net.contains ip
  | _, _ => false

theorem IpNetwork.family_of_contains {net : IpNetwork} {ip : IpAddr}
    (h : net.contains ip = true) : ip.family = net.family := by
  cases net with
  | v4 net =>
    cases ip with
    | v4 ip => rfl
    | v6 ip => simp [IpNetwork.contains] at h
  | v6 net =>
    cases ip with
    | v4 ip => simp [IpNetwork.contains] at h
    | v6 ip => rfl

def Ipv4Addr.isLoopback (ip : Ipv4Addr) : Bool := ip.a == 127

def Ipv6Addr.isLoopback (ip : Ipv6Addr) : Bool :=
  ip.segments == [0, 0, 0, 0, 0, 0, 0, 1]

def IpAddr.isLoopback : IpAddr → Bool
  | .v4 ip => ip.isLoopback
  | .v6 ip => ip.isLoopback

structure SocketAddr where
  ip : IpAddr
  port : UInt16
deriving DecidableEq

end Net
