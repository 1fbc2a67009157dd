import NymVpn.Firewall.Emitted
import NymVpn.Text.Words

/-!
# Well-formed rules

What the renderers rely on: an address or an ICMP type comes with its family, a port with a
protocol that has ports, and an owner match stands on an output chain only.
-/

namespace NymFirewall

open Net Text

def ifNameChar (c : Char) : Bool := c.isAlphanum || c == '.' || c == '-' || c == '_'

/-- An interface name: not empty, of letters, digits, dots, dashes and
underscores. -/
def IsIfName (s : String) : Prop := s.toList ≠ [] ∧ ∀ c ∈ s.toList, ifNameChar c = true

instance (s : String) : Decidable (IsIfName s) :=
  decidable_of_iff (s.toList ≠ [] ∧ s.toList.all ifNameChar = true) (by
    rw [List.all_eq_true, IsIfName])

theorem IsIfName.not_mem {s : String} (h : IsIfName s) {c : Char}
    (hc : ifNameChar c = false) : c ∉ s.toList := by
  intro hmem
  have hchar := h.2 c hmem
  rw [hc] at hchar
  exact absurd hchar (by decide)

theorem IsIfName.isWord {s : String} (h : IsIfName s) : IsWord s ∧ IsLine s :=
  ⟨⟨h.1, h.not_mem (by decide)⟩, h.not_mem (by decide)⟩

@[simp] def AddrMatch.ruleFamily : AddrMatch → Family
  | .ip a => familyOf a
  | .net (.v4 _) => .v4
  | .net (.v6 _) => .v6

structure Rule.WellFormed (r : Rule) : Prop where
  iif : ∀ d ∈ r.matches_.iif, IsIfName d
  oif : ∀ d ∈ r.matches_.oif, IsIfName d
  iifNot : ∀ d ∈ r.matches_.iifNot, IsIfName d
  saddr : ∀ a ∈ r.matches_.saddr, r.family = a.ruleFamily
  daddr : ∀ a ∈ r.matches_.daddr, r.family = a.ruleFamily
  icmpv4Type : ∀ _t ∈ r.matches_.icmpv4Type, r.family = .v4 ∧ r.matches_.proto = some .icmp
  icmpv6Type : ∀ _t ∈ r.matches_.icmpv6Type, r.family = .v6 ∧ r.matches_.proto = some .icmpV6
  icmp : r.matches_.proto = some .icmp → r.matches_.icmpv4Type.isSome = true
  icmpV6 : r.matches_.proto = some .icmpV6 → r.matches_.icmpv6Type.isSome = true
  sport : ∀ _p ∈ r.matches_.sport, r.matches_.proto = some .tcp ∨ r.matches_.proto = some .udp
  dport : ∀ _p ∈ r.matches_.dport, r.matches_.proto = some .tcp ∨ r.matches_.proto = some .udp

def Placed (c : ChainId) (r : Rule) : Prop :=
  r.WellFormed ∧ (r.matches_.skuid.isSome = true → c = .filterOutput)

theorem Placed.skuid_isNone {c : ChainId} {r : Rule} (h : Placed c r) (hc : c ≠ .filterOutput) :
    r.matches_.skuid.isNone = true := by
  rw [Option.isNone_iff_eq_none]
  by_contra hne
  exact hc (h.2 (Option.isSome_iff_ne_none.2 hne))

open RuleSet

theorem proto_of_mem_dnsPairs {pair : Proto × UInt16} (h : pair ∈ dnsPairs) :
    pair.1 = .tcp ∨ pair.1 = .udp := by
  simp only [dnsPairs, List.mem_cons, List.not_mem_nil, or_false] at h
  rcases h with rfl | rfl | rfl | rfl <;> simp

/-- The interface names the compiler is given are proper names. -/
structure ProperNames (p : FirewallPolicy) (uplink : Uplink) : Prop where
  wan : ∀ d ∈ uplink.wanDevices, IsIfName d
  tunnel : ∀ d ∈ tunnelInterfaces p, IsIfName d
  route : ∀ ip, ∀ d ∈ uplink.routeDevice ip, IsIfName d

variable {uplink : Uplink} {p : FirewallPolicy}

theorem isIfName_pinnedDevice (hroute : ∀ ip, ∀ d ∈ uplink.routeDevice ip, IsIfName d)
    {dns : IpAddr} {tunnels : List String} {dev : String}
    (h : pinnedDevice dns uplink tunnels = some dev) : IsIfName dev := by
  refine hroute dns dev ?_
  unfold pinnedDevice privateDnsDevice at h
  grind

theorem proto_of_mem {proto : Proto} (h : proto ∈ [Proto.udp, .tcp]) :
    proto = .tcp ∨ proto = .udp := by
  simp only [List.mem_cons, List.not_mem_nil, or_false] at h
  exact h.symm

theorem TransportProtocol.toProto_cases (t : TransportProtocol) :
    t.toProto = .tcp ∨ t.toProto = .udp := by
  cases t <;> simp [toProto]

theorem Emitted.placed (hnames : ProperNames p uplink)
    {c : ChainId} {r : Rule} (h : Emitted p uplink c r) : Placed c r := by
  obtain ⟨hwan, htunnel, hroute⟩ := hnames
  have hlo : IsIfName "lo" := by decide
  have hingress {d : String} (hd : d ∈ uplink.wanDevices ++ tunnelInterfaces p) : IsIfName d :=
    (List.mem_append.1 hd).elim (hwan d) (htunnel d)
  cases h with
  | loInput | loOutput => exact ⟨by constructor <;> simp [hlo], by simp⟩
  | dhcp | neighbour | exempt | restore | ntp | probeV4 | probeV6 | finalReject =>
    exact ⟨by constructor <;> simp, by simp⟩
  | trackV4 | trackV6 | lanV4 | lanV6 | lanReturnV4 | lanReturnV6 =>
    exact ⟨by constructor <;> simp [familyOf], by simp⟩
  | ingressReject hdev hw =>
    exact ⟨by constructor <;> simp [hingress hdev, hwan _ hw], by simp⟩
  | ingressReturn hdev => exact ⟨by constructor <;> simp [hingress hdev], by simp⟩
  | setMark hw ex =>
    rcases ex.proto.toProto_cases with hp | hp <;>
      exact ⟨by constructor <;> simp [hwan _ hw, hp], by simp⟩
  | endpoint ep | rootEndpoint ep =>
    rcases ep.protocol.toProto_cases with hp | hp <;> exact ⟨by constructor <;> simp [hp], by simp⟩
  | @resolver dns iface hiface uid huid pair hpair =>
    refine ⟨?_, fun _ => rfl⟩
    rcases proto_of_mem_dnsPairs hpair with hp | hp <;> cases uid <;> cases iface <;>
      constructor <;>
      simp_all [dnsServerRule]
  | resolverForward dns hproto | blockDns hproto | dnsHatch hproto =>
    rcases proto_of_mem hproto with rfl | rfl <;> exact ⟨by constructor <;> simp, by simp⟩
  | pinned hpin hpair =>
    have hdev := isIfName_pinnedDevice hroute hpin
    rcases proto_of_mem_dnsPairs hpair with hp | hp <;>
      exact ⟨by constructor <;> simp [hdev, hp], by simp⟩
  | pinnedForward hpin hproto =>
    have hdev := isIfName_pinnedDevice hroute hpin
    rcases proto_of_mem hproto with rfl | rfl <;> exact ⟨by constructor <;> simp [hdev], by simp⟩
  | tunnel hiface | spoofed hiface =>
    exact ⟨by constructor <;> simp [htunnel _ hiface], by simp⟩

theorem placed_compileWith (trackIps : List IpAddr)
    (hnames : ProperNames p uplink) : All Placed (compileWith trackIps p uplink) :=
  fun c r hr => (emitted_compileWith trackIps p uplink c r hr).placed hnames

end NymFirewall
