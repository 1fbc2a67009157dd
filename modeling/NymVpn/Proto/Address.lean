import NymVpn.Net.Display
import NymVpn.Proto.Wire
import NymVpn.Text.Ascii

/-!
# Addresses in messages

The flow label and the scope of an IPv6 socket address have no field. Some messages carry the
text of an address instead, which keeps the scope.
-/

inductive ConversionError where
  | generic (message : String)
  | noValueSet (field : String)
  /-- A number that is none of the enumeration. -/
  | decode (field : String) (number : Int32)
  | convertTime (field : String)
  | parseAddr (field : String)
deriving DecidableEq

namespace Wire

def decode (α : Type*) [Enumeration α] (field : String) (n : Int32) : Except ConversionError α :=
  okOr (tryFromNumber α n) (.decode field n)

@[simp]
theorem decode_number {α : Type*} [Enumeration α] (field : String) (a : α) :
    decode α field (number a) = .ok a := by
  simp [decode]

end Wire

open Net Text Wire

/-! ## IP addresses -/

namespace Net

def Ipv4Addr.toBits (ip : Ipv4Addr) : UInt32 := .ofNat ip.toNat

def Ipv4Addr.ofBits (n : UInt32) : Ipv4Addr where
  a := .ofNat (n.toNat / 16777216)
  b := .ofNat (n.toNat / 65536)
  c := .ofNat (n.toNat / 256)
  d := .ofNat n.toNat

theorem Ipv4Addr.ofBits_toBits (ip : Ipv4Addr) : ofBits ip.toBits = ip := by
  obtain ⟨a, b, c, d⟩ := ip
  have ha : a.toNat < 256 := a.toNat_lt
  have hb : b.toNat < 256 := b.toNat_lt
  have hc : c.toNat < 256 := c.toNat_lt
  have hd : d.toNat < 256 := d.toNat_lt
  have hn : (Ipv4Addr.toBits ⟨a, b, c, d⟩).toNat =
      ((a.toNat * 256 + b.toNat) * 256 + c.toNat) * 256 + d.toNat := by
    rw [toBits, UInt32.toNat_ofNat', Nat.mod_eq_of_lt]
    · rfl
    · simp only [toNat]
      omega
  have hoctet {n : ℕ} {x : UInt8} (h : n % 256 = x.toNat) : UInt8.ofNat n = x := by
    rw [← UInt8.toNat_inj, UInt8.toNat_ofNat', ← h]
  simp only [ofBits, hn, mk.injEq]
  exact ⟨hoctet (by omega), hoctet (by omega), hoctet (by omega), hoctet (by omega)⟩

def Ipv6Addr.octets (ip : Ipv6Addr) : List UInt8 :=
  ip.segments.flatMap fun s => [.ofNat (s.toNat / 256), .ofNat s.toNat]

def segmentsOf : List UInt8 → List UInt16
  | a :: b :: octets => .ofNat (a.toNat * 256 + b.toNat) :: segmentsOf octets
  | _ => []

theorem length_segmentsOf (octets : List UInt8) :
    (segmentsOf octets).length = octets.length / 2 := by
  fun_induction segmentsOf octets with
  | case1 a b octets ih =>
    simp only [List.length_cons, ih]
    omega
  | case2 octets h =>
    match octets with
    | [] => rfl
    | [a] => simp
    | a :: b :: octets => exact (h a b octets rfl).elim

def Ipv6Addr.ofOctets (octets : List UInt8) (h : octets.length = 16) : Ipv6Addr where
  segments := segmentsOf octets
  length_segments := by rw [length_segmentsOf, h]

theorem segmentsOf_flatMap (segments : List UInt16) :
    segmentsOf (segments.flatMap fun s => [.ofNat (s.toNat / 256), .ofNat s.toNat]) =
      segments := by
  induction segments with
  | nil => rfl
  | cons s segments ih =>
    have hs : s.toNat < 65536 := s.toNat_lt
    have hsegment : s.toNat / 256 % 256 * 256 + s.toNat % 256 = s.toNat := by omega
    rw [List.flatMap_cons, List.cons_append, List.cons_append, List.nil_append, segmentsOf, ih,
      UInt8.toNat_ofNat', UInt8.toNat_ofNat', hsegment, UInt16.ofNat_toNat]

theorem Ipv6Addr.length_octets (ip : Ipv6Addr) : ip.octets.length = 16 := by
  simp [octets, List.length_flatMap, ip.length_segments]

end Net

namespace Proto

inductive IpAddr.Addr where
  | v4 (bits : UInt32)
  | v6 (octets : List UInt8)

structure IpAddr where
  ipAddr : Option IpAddr.Addr

structure IpAddrList where
  ips : List IpAddr

structure SocketAddr where
  addr : Option IpAddr
  port : UInt32

end Proto

namespace Net.IpAddr

def toProto : IpAddr → Proto.IpAddr
  | .v4 ip => ⟨some (.v4 ip.toBits)⟩
  | .v6 ip => ⟨some (.v6 ip.octets)⟩

/-- Octets beyond the sixteenth are skipped. -/
def tryFromProto (addr : Proto.IpAddr) : Except ConversionError IpAddr := do
  match ← okOr addr.ipAddr (.noValueSet "IpAddr.ip_addr") with
  | .v4 bits => return .v4 (.ofBits bits)
  | .v6 octets =>
    if h : 16 ≤ octets.length then
      return .v6 (.ofOctets (octets.take 16) (List.length_take_of_le h))
    else .error (.generic "invalid ipv6 address")

@[simp]
theorem tryFromProto_toProto (ip : IpAddr) : tryFromProto ip.toProto = .ok ip := by
  cases ip with
  | v4 ip => exact congrArg (fun ip => Except.ok (IpAddr.v4 ip)) ip.ofBits_toBits
  | v6 ip =>
    have hlength := ip.length_octets
    have htake : ip.octets.take 16 = ip.octets := List.take_of_length_le (by omega)
    simp only [tryFromProto, toProto, okOr_some, ok_bind, hlength, le_refl, dite_true,
      pure_eq_ok, Except.ok.injEq, v6.injEq]
    obtain ⟨segments, hsegments⟩ := ip
    simp only [Ipv6Addr.ofOctets, Ipv6Addr.mk.injEq]
    rw [htake]
    exact segmentsOf_flatMap segments

def listToProto (ips : List IpAddr) : Proto.IpAddrList := ⟨ips.map toProto⟩

def listTryFromProto (value : Proto.IpAddrList) : Except ConversionError (List IpAddr) :=
  value.ips.mapM tryFromProto

@[simp]
theorem listTryFromProto_listToProto (ips : List IpAddr) :
    listTryFromProto (listToProto ips) = .ok ips := by
  have hread : (ips.map toProto).mapM tryFromProto = .ok (ips.map id) :=
    mapM_map_list fun ip _ => ip.tryFromProto_toProto
  rwa [List.map_id] at hread

end Net.IpAddr

/-! ## The text of an IP address -/

namespace Text

theorem foldlM_pushDigit_eq_none {b : ℕ} {c : Char} (hc : digitValue c = none) {cs : List Char}
    (h : c ∈ cs) (n : ℕ) : cs.foldlM (pushDigit b) n = none := by
  induction cs generalizing n with
  | nil => cases h
  | cons d cs ih =>
    rw [List.foldlM_cons]
    rcases List.mem_cons.1 h with rfl | h
    · simp [pushDigit, hc]
    · cases pushDigit b n d with
      | none => rfl
      | some m => exact ih h m

end Text

namespace Net

theorem readIpv4_eq_none {c : Char} (hdigit : digitValue c = none) (hdot : c ≠ '.')
    {cs : List Char} (h : c ∈ cs) : readIpv4 cs = none := by
  have hoctet {part : List Char} (hpart : c ∈ part) : readOctet part = none := by
    rw [readOctet, readDigits, if_neg (List.ne_nil_of_mem hpart),
      foldlM_pushDigit_eq_none hdigit hpart]
    rfl
  obtain heq | ⟨part, hpart, hc⟩ := eq_or_mem_splitOn (x := '.') h
  · exact absurd heq hdot
  rw [readIpv4]
  split
  · next a b c' d hsplit =>
    rw [hsplit] at hpart
    simp only [List.mem_cons, List.not_mem_nil, or_false] at hpart
    rcases hpart with rfl | rfl | rfl | rfl <;> simp [hoctet hc]
  · rfl

def IpAddr.fromStr (s : String) : Option IpAddr :=
  (readIpv4 s.toList).map .v4 <|> (readIpv6 s.toList).map .v6

theorem IpAddr.fromStr_display (ip : IpAddr) : fromStr ip.display = some ip := by
  cases ip with
  | v4 ip => simp [fromStr, IpAddr.display, readIpv4_display]
  | v6 ip =>
    have hipv4 : readIpv4 ip.display.toList = none :=
      readIpv4_eq_none (by decide) (by decide) (colon_mem_display_ipv6 ip)
    simp [fromStr, IpAddr.display, hipv4, readIpv6_display]

end Net

/-! ## Socket addresses -/

namespace LibTypes

inductive SocketAddr where
  | v4 (ip : Ipv4Addr) (port : UInt16)
  | v6 (ip : Ipv6Addr) (port : UInt16) (flowinfo scopeId : UInt32)
deriving DecidableEq

namespace SocketAddr

def new (ip : IpAddr) (port : UInt16) : SocketAddr :=
  match ip with
  | .v4 ip => .v4 ip port
  | .v6 ip => .v6 ip port 0 0

def ip : SocketAddr → IpAddr
  | .v4 ip _ => .v4 ip
  | .v6 ip _ _ _ => .v6 ip

def port : SocketAddr → UInt16
  | .v4 _ port => port
  | .v6 _ port _ _ => port

def flowinfo : SocketAddr → UInt32
  | .v4 _ _ => 0
  | .v6 _ _ flowinfo _ => flowinfo

def scopeId : SocketAddr → UInt32
  | .v4 _ _ => 0
  | .v6 _ _ _ scopeId => scopeId

def toProto (addr : SocketAddr) : Proto.SocketAddr where
  addr := some addr.ip.toProto
  port := addr.port.toUInt32

def tryFromProto (value : Proto.SocketAddr) : Except ConversionError SocketAddr := do
  let ipAddr ← okOr value.addr (.noValueSet "SocketAddr.addr")
  return new (← IpAddr.tryFromProto ipAddr) value.port.toUInt16

variable (addr : SocketAddr) (ip : Ipv6Addr) (scopeId : UInt32) (port : UInt16)

theorem tryFromProto_toProto : tryFromProto addr.toProto = .ok (new addr.ip addr.port) := by
  simp [tryFromProto, toProto]

theorem new_eq_self_iff : new addr.ip addr.port = addr ↔ addr.flowinfo = 0 ∧ addr.scopeId = 0 := by
  cases addr with
  | v4 ip port => exact ⟨fun _ => ⟨rfl, rfl⟩, fun _ => rfl⟩
  | v6 ip port flowinfo scopeId =>
    simp only [new, SocketAddr.ip, SocketAddr.port, SocketAddr.flowinfo, SocketAddr.scopeId,
      v6.injEq, true_and]
    exact and_congr eq_comm eq_comm

/-! ### The text of a socket address -/

def display : SocketAddr → String
  | .v4 ip port => ip.display ++ ":" ++ decimal port.toNat
  | .v6 ip port _ scopeId =>
    let host := if scopeId = 0 then ip.display else ip.display ++ "%" ++ decimal scopeId.toNat
    "[" ++ host ++ "]:" ++ decimal port.toNat

def readPort (cs : List Char) : Option UInt16 :=
  (readDigits 10 cs).bind fun n => if n < 65536 then some (.ofNat n) else none

def readScope (cs : List Char) : Option UInt32 :=
  (readDigits 10 cs).bind fun n => if n < 4294967296 then some (.ofNat n) else none

def readHost (cs : List Char) : Option (Ipv6Addr × UInt32) :=
  match cs.splitOn '%' with
  | [ip] => do return (← readIpv6 ip, 0)
  | [ip, scope] => do return (← readIpv6 ip, ← readScope scope)
  | _ => none

def readV4 (cs : List Char) : Option SocketAddr :=
  match cs.splitOn ':' with
  | [ip, port] => do return .v4 (← readIpv4 ip) (← readPort port)
  | _ => none

def readV6 (cs : List Char) : Option SocketAddr :=
  match cs.splitOn ']' with
  | [host, ':' :: port] => do
    let (ip, scopeId) ← readHost host
    return .v6 ip (← readPort port) 0 scopeId
  | _ => none

def fromStr (s : String) : Option SocketAddr :=
  match s.toList with
  | '[' :: cs => readV6 cs
  | cs => readV4 cs

theorem readPort_toDigits : readPort (Nat.toDigits 10 port.toNat) = some port := by
  have hlt : port.toNat < 65536 := port.toNat_lt
  simp [readPort, readDigits_toDigits, hlt]

theorem readScope_toDigits : readScope (Nat.toDigits 10 scopeId.toNat) = some scopeId := by
  have hlt : scopeId.toNat < 4294967296 := scopeId.toNat_lt
  simp [readScope, readDigits_toDigits, hlt]

theorem not_mem_port {c : Char} (h : digitValue c = none) (port : UInt16) :
    c ∉ Nat.toDigits 10 port.toNat :=
  not_mem_toDigits (by decide) (by decide) h _

theorem fromStr_display_v4 (ip : Ipv4Addr) (port : UInt16) :
    fromStr (display (.v4 ip port)) = some (.v4 ip port) := by
  have htext : (display (.v4 ip port)).toList =
      ip.display.toList ++ ':' :: Nat.toDigits 10 port.toNat := by
    simp [display, decimal]
  have hip : List.splitOn ':' ip.display.toList = [ip.display.toList] :=
    List.splitOn_eq_singleton (not_mem_display_ipv4 (by decide) (by decide) ip)
  have hport : List.splitOn ':' (Nat.toDigits 10 port.toNat) = [Nat.toDigits 10 port.toNat] :=
    List.splitOn_eq_singleton (not_mem_port (by decide) port)
  have hread : readV4 (display (.v4 ip port)).toList = some (.v4 ip port) := by
    rw [readV4, htext, List.splitOn_append_cons_self, hip, hport]
    simp [readIpv4_display, readPort_toDigits]
  have hbracket : '[' ∉ (display (.v4 ip port)).toList := by
    rw [htext]
    simp [not_mem_display_ipv4, not_mem_port, digitValue]
  rw [fromStr]
  split
  · next cs hcs => exact absurd (hcs ▸ List.mem_cons_self) hbracket
  · exact hread

theorem readHost_display :
    readHost (if scopeId = 0 then ip.display else
      ip.display ++ "%" ++ decimal scopeId.toNat).toList = some (ip, scopeId) := by
  have hip : List.splitOn '%' ip.display.toList = [ip.display.toList] :=
    List.splitOn_eq_singleton (not_mem_display_ipv6 (by decide) (by decide) (by decide) ip)
  by_cases hscope : scopeId = 0
  · rw [if_pos hscope, readHost, hip, hscope]
    simp [readIpv6_display]
  · have hdigits : List.splitOn '%' (Nat.toDigits 10 scopeId.toNat) =
        [Nat.toDigits 10 scopeId.toNat] :=
      List.splitOn_eq_singleton (not_mem_toDigits (by decide) (by decide) (by decide) _)
    have htext : (ip.display ++ "%" ++ decimal scopeId.toNat).toList =
        ip.display.toList ++ '%' :: Nat.toDigits 10 scopeId.toNat := by
      simp [decimal]
    rw [if_neg hscope, readHost, htext, List.splitOn_append_cons_self, hip, hdigits]
    simp [readIpv6_display, readScope_toDigits]

theorem fromStr_display_v6 (flowinfo scopeId : UInt32) :
    fromStr (display (.v6 ip port flowinfo scopeId)) = some (.v6 ip port 0 scopeId) := by
  have hhost := readHost_display ip scopeId
  have hbracket : ']' ∉ (if scopeId = 0 then ip.display else
      ip.display ++ "%" ++ decimal scopeId.toNat).toList := by
    have hip : ']' ∉ ip.display.toList :=
      not_mem_display_ipv6 (by decide) (by decide) (by decide) ip
    have hdigits : ']' ∉ Nat.toDigits 10 scopeId.toNat :=
      not_mem_toDigits (by decide) (by decide) (by decide) _
    split
    · exact hip
    · simp [decimal, hip, hdigits]
  have htext : (display (.v6 ip port flowinfo scopeId)).toList =
      '[' :: ((if scopeId = 0 then ip.display else
        ip.display ++ "%" ++ decimal scopeId.toNat).toList ++
          ']' :: ':' :: Nat.toDigits 10 port.toNat) := by
    simp [display, decimal]
  generalize (if scopeId = 0 then ip.display else
    ip.display ++ "%" ++ decimal scopeId.toNat).toList = host at hhost hbracket htext
  have hport : List.splitOn ']' (':' :: Nat.toDigits 10 port.toNat) =
      [':' :: Nat.toDigits 10 port.toNat] := by
    apply List.splitOn_eq_singleton
    simp [not_mem_port, digitValue]
  rw [fromStr, htext]
  change readV6 _ = _
  rw [readV6, List.splitOn_append_cons_self, List.splitOn_eq_singleton hbracket, hport]
  simp [hhost, readPort_toDigits]

def withoutFlowinfo : SocketAddr → SocketAddr
  | .v4 ip port => .v4 ip port
  | .v6 ip port _ scopeId => .v6 ip port 0 scopeId

theorem fromStr_display : fromStr addr.display = some addr.withoutFlowinfo := by
  cases addr with
  | v4 ip port => exact fromStr_display_v4 ip port
  | v6 ip port flowinfo scopeId => exact fromStr_display_v6 ip port flowinfo scopeId

theorem withoutFlowinfo_eq_self_iff : addr.withoutFlowinfo = addr ↔ addr.flowinfo = 0 := by
  cases addr with
  | v4 ip port => exact ⟨fun _ => rfl, fun _ => rfl⟩
  | v6 ip port flowinfo scopeId =>
    simp only [withoutFlowinfo, SocketAddr.flowinfo, v6.injEq, true_and, and_true]
    exact eq_comm

end SocketAddr

end LibTypes
