import NymVpn.Firewall.Sections

/-!
# What is emitted

Every rule of a compiled policy has one of a few shapes, and stands on the chain of its
shape. What holds of all rules of all policies is then proved by cases on the shape.
-/

namespace NymFirewall

open Net

def RuleSet.All (P : ChainId → Rule → Prop) (rs : RuleSet) : Prop :=
  ∀ c, ∀ r ∈ rs.chain c, P c r

namespace RuleSet.All

variable {P : ChainId → Rule → Prop} {rs : RuleSet} {r : Rule}

theorem empty : All P {} := by
  intro c r hr
  rw [chain_empty] at hr
  exact absurd hr (by simp)

theorem push {rs' : RuleSet} {d : ChainId}
    (hpush : ∀ c, rs'.chain c = rs.chain c ++ if c = d then [r] else [])
    (h : All P rs) (hr : P d r) : All P rs' := by
  intro c s hs
  rw [hpush c, List.mem_append] at hs
  rcases hs with hs | hs
  · exact h c s hs
  · by_cases hc : c = d
    · rw [if_pos hc, List.mem_singleton] at hs
      rw [hs, hc]
      exact hr
    · rw [if_neg hc] at hs
      exact absurd hs (by simp)

section

variable (h : All P rs)

include h

theorem pushInput (hr : P .filterInput r) : All P (rs.pushInput r) :=
  h.push (fun c => by cases c <;> simp [RuleSet.pushInput, RuleSet.chain]) hr

theorem pushOutput (hr : P .filterOutput r) : All P (rs.pushOutput r) :=
  h.push (fun c => by cases c <;> simp [RuleSet.pushOutput, RuleSet.chain]) hr

theorem pushForward (hr : P .filterForward r) : All P (rs.pushForward r) :=
  h.push (fun c => by cases c <;> simp [RuleSet.pushForward, RuleSet.chain]) hr

theorem pushManglePrerouting (hr : P .manglePrerouting r) : All P (rs.pushManglePrerouting r) :=
  h.push (fun c => by cases c <;> simp [RuleSet.pushManglePrerouting, RuleSet.chain]) hr

theorem pushMangleOutput (hr : P .mangleOutput r) : All P (rs.pushMangleOutput r) :=
  h.push (fun c => by cases c <;> simp [RuleSet.pushMangleOutput, RuleSet.chain]) hr

end

theorem foldl {α : Type*} {f : RuleSet → α → RuleSet} {l : List α}
    (hf : ∀ rs, ∀ a ∈ l, All P rs → All P (f rs a)) (h : All P rs) : All P (l.foldl f rs) := by
  induction l generalizing rs with
  | nil => exact h
  | cons a l ih =>
    exact ih (fun rs b hb => hf rs b (by simp [hb])) (hf rs a (by simp) h)

end RuleSet.All

/-- The shapes of the rules of a policy, each with its chain. -/
inductive Emitted (p : FirewallPolicy) (uplink : Uplink) : ChainId → Rule → Prop
  | loInput : Emitted p uplink .filterInput ((Rule.accept .inet).iif "lo")
  | loOutput : Emitted p uplink .filterOutput ((Rule.accept .inet).oif "lo")
  | dhcp (family : Family) (sport dport : UInt16) : Emitted p uplink .filterOutput
      ((((Rule.accept family).proto .udp).sport sport).dport dport)
  | neighbour (t : IcmpV6Type) :
      Emitted p uplink .filterOutput ((Rule.accept .v6).icmpv6Type t)
  | trackV4 (a : Ipv4Addr) : Emitted p uplink .filterOutput
      (((Rule.accept .v4).icmpv4Type .echoRequest).daddr (.ip (.v4 a)))
  | trackV6 (a : Ipv6Addr) : Emitted p uplink .filterOutput
      (((Rule.accept .v6).icmpv6Type .echoRequest).daddr (.ip (.v6 a)))
  | exempt (c : ChainId) : Emitted p uplink c ((Rule.accept .inet).markEq exemptFwmark)
  | ingressReject {dev wan : String} (hdev : dev ∈ uplink.wanDevices ++ tunnelInterfaces p)
      (hwan : wan ∈ uplink.wanDevices) :
      Emitted p uplink .filterForward (((Rule.reject .inet).iif dev).oif wan)
  | ingressReturn {dev : String} (hdev : dev ∈ uplink.wanDevices ++ tunnelInterfaces p) :
      Emitted p uplink .filterForward ((Rule.return_ .inet).iif dev)
  | restore (c : ChainId) : Emitted p uplink c ((Rule.restoreMark .inet).ctMarkEq exemptFwmark)
  | setMark {wan : String} (hwan : wan ∈ uplink.wanDevices) (ex : InboundExemption) :
      Emitted p uplink .manglePrerouting
        (((((Rule.setCtMark .inet exemptFwmark).iif wan).proto ex.proto.toProto).dport
          ex.dport).ctNew)
  | endpoint (ep : Endpoint) : Emitted p uplink .filterOutput
      ((((Rule.accept (familyOf ep.address.ip)).proto ep.protocol.toProto).daddr
        ep.address.ip).dport ep.address.port)
  | rootEndpoint (ep : Endpoint) : Emitted p uplink .filterOutput
      (((((Rule.accept (familyOf ep.address.ip)).proto ep.protocol.toProto).daddr
        ep.address.ip).dport ep.address.port).skuid rootUid)
  | resolver (dns : IpAddr) {iface : Option String} (hiface : ∀ d ∈ iface, d ∈ tunnelInterfaces p)
      {uid : Option UInt32} (huid : ∀ u ∈ uid, u = rootUid) {pair : Proto × UInt16}
      (hpair : pair ∈ dnsPairs) : Emitted p uplink .filterOutput (dnsServerRule dns iface uid pair)
  | resolverForward (dns : IpAddr) {proto : Proto} (hproto : proto ∈ [Proto.udp, .tcp]) :
      Emitted p uplink .filterForward
        ((((Rule.accept (familyOf dns)).proto proto).daddr dns).dport dnsPort)
  | pinned {dns : IpAddr} {dev : String}
      (hpin : pinnedDevice dns uplink (tunnelInterfaces p) = some dev) {pair : Proto × UInt16}
      (hpair : pair ∈ dnsPairs) : Emitted p uplink .filterOutput
        (((((Rule.accept (familyOf dns)).proto pair.1).daddr dns).dport pair.2).oif dev)
  | pinnedForward {dns : IpAddr} {dev : String}
      (hpin : pinnedDevice dns uplink (tunnelInterfaces p) = some dev) {proto : Proto}
      (hproto : proto ∈ [Proto.udp, .tcp]) : Emitted p uplink .filterForward
        (((((Rule.accept (familyOf dns)).proto proto).daddr dns).dport dnsPort).oif dev)
  | tunnel {iface : String} (h : iface ∈ tunnelInterfaces p) (c : ChainId) :
      Emitted p uplink c ((Rule.accept .inet).oif iface)
  | spoofed {iface : String} (h : iface ∈ tunnelInterfaces p) (ip : IpAddr) :
      Emitted p uplink .filterInput (((Rule.drop_ (familyOf ip)).iifNot iface).daddr ip)
  | blockDns {proto : Proto} (hproto : proto ∈ [Proto.udp, .tcp]) (c : ChainId) :
      Emitted p uplink c (((Rule.reject .inet).proto proto).dport dnsPort)
  | ntp : Emitted p uplink .filterOutput
      ((((Rule.accept .inet).proto .udp).dport ntpPort).rateLimit ntpRatePerMin ntpBurst)
  | dnsHatch {proto : Proto} (hproto : proto ∈ [Proto.udp, .tcp]) : Emitted p uplink .filterOutput
      (((((Rule.accept .inet).proto proto).dport dnsPort).rateLimit dnsRatePerMin
        dnsBurst).skuid rootUid)
  | probeV4 : Emitted p uplink .filterOutput
      ((((Rule.accept .v4).icmpv4Type .echoRequest).markEq tunnelFwmark).rateLimit
        probeRatePerMin probeBurst)
  | probeV6 : Emitted p uplink .filterOutput
      ((((Rule.accept .v6).icmpv6Type .echoRequest).markEq tunnelFwmark).rateLimit
        probeRatePerMin probeBurst)
  | lanV4 (n : Ipv4Network) :
      Emitted p uplink .filterOutput ((Rule.accept .v4).daddr (.net (.v4 n)))
  | lanV6 (n : Ipv6Network) :
      Emitted p uplink .filterOutput ((Rule.accept .v6).daddr (.net (.v6 n)))
  | lanReturnV4 (n : Ipv4Network) :
      Emitted p uplink .filterForward ((Rule.return_ .v4).daddr (.net (.v4 n)))
  | lanReturnV6 (n : Ipv6Network) :
      Emitted p uplink .filterForward ((Rule.return_ .v6).daddr (.net (.v6 n)))
  | finalReject (c : ChainId) : Emitted p uplink c (Rule.reject .inet)

section

variable {p : FirewallPolicy} {uplink : Uplink} {rs : RuleSet}

open RuleSet Emitted

theorem emitted_baseRules (trackIps : List IpAddr) :
    All (Emitted p uplink) (baseRules trackIps {}) := by
  refine All.foldl (fun rs ip _ h => ?_) ?_
  · cases ip with
    | v4 a => exact h.pushOutput (trackV4 a)
    | v6 a => exact h.pushOutput (trackV6 a)
  · refine All.foldl (fun _ t _ h => h.pushOutput (neighbour t)) ?_
    exact ((((((All.empty.pushInput loInput).pushOutput loOutput).pushOutput
      (dhcp _ _ _)).pushOutput
      (dhcp _ _ _)).pushOutput (dhcp _ _ _)).pushOutput (dhcp _ _ _))

variable (h : All (Emitted p uplink) rs) {tunnel : TunnelInterface}

include h

theorem emitted_exemptionFilterAccepts (exemptions : List InboundExemption) :
    All (Emitted p uplink) (exemptionFilterAccepts rs exemptions) := by
  unfold exemptionFilterAccepts
  split
  · exact h
  · exact (h.pushInput (exempt _)).pushOutput (exempt _)

theorem emitted_untrustedIngressReturns :
    All (Emitted p uplink) (untrustedIngressReturns rs uplink.wanDevices (tunnelInterfaces p)) := by
  refine All.foldl (fun _ _ hd h => h.pushForward (ingressReturn hd)) ?_
  refine All.foldl (fun rs d hd h => ?_) h
  exact All.foldl (fun _ _ hw h => h.pushForward (ingressReject hd hw)) h

theorem emitted_exemptionMangle (exemptions : List InboundExemption) :
    All (Emitted p uplink) (exemptionMangle rs exemptions uplink.wanDevices) := by
  unfold exemptionMangle
  split
  · exact h
  · split
    · exact h
    · refine All.pushMangleOutput (All.pushManglePrerouting (All.foldl (fun rs wan hw h => ?_)
        (h.pushManglePrerouting (restore _))) (restore _)) (restore _)
      exact All.foldl (fun _ ex _ h => h.pushManglePrerouting (setMark hw ex)) h

theorem emitted_allowEndpoints (eps : List AllowedEndpoint) :
    All (Emitted p uplink) (eps.foldl allowEndpoint rs) := by
  refine All.foldl (fun _ ep _ h => h.pushOutput ?_) h
  split
  · exact rootEndpoint ep.endpoint
  · exact endpoint ep.endpoint

theorem emitted_allowDnsServerInner (dns : IpAddr)
    {iface : Option String} (hiface : ∀ d ∈ iface, d ∈ tunnelInterfaces p) (clients : DnsAccess) :
    All (Emitted p uplink) (allowDnsServerInner rs dns iface clients) := by
  have hout {uid : Option UInt32} (huid : ∀ u ∈ uid, u = rootUid) : All (Emitted p uplink)
      (dnsPairs.foldl (fun rs pair => rs.pushOutput (dnsServerRule dns iface uid pair)) rs) :=
    All.foldl (fun _ _ hpair h => h.pushOutput (resolver dns hiface huid hpair)) h
  unfold allowDnsServerInner
  simp only
  split
  · exact All.foldl (fun _ _ hp h => h.pushForward (resolverForward dns hp))
      (hout (by cases clients <;> simp))
  · exact hout (by cases clients <;> simp)

theorem emitted_allowDnsServerOn {dns : IpAddr} {dev : String}
    (hpin : pinnedDevice dns uplink (tunnelInterfaces p) = some dev) :
    All (Emitted p uplink) (allowDnsServerOn rs dns dev) :=
  All.foldl (fun _ _ hp h => h.pushForward (pinnedForward hpin hp))
    (All.foldl (fun _ _ hpair h => h.pushOutput (pinned hpin hpair)) h)

theorem emitted_allowTunnel {iface : String}
    (hiface : iface ∈ tunnelInterfaces p) : All (Emitted p uplink) (allowTunnel rs iface) :=
  (h.pushOutput (tunnel hiface _)).pushForward (tunnel hiface _)

theorem emitted_blockDns : All (Emitted p uplink) (blockDns rs) :=
  All.foldl (fun _ _ hp h => (h.pushOutput (Emitted.blockDns hp _)).pushForward
    (Emitted.blockDns hp _)) h

theorem emitted_ntpEscapeHatch : All (Emitted p uplink) (ntpEscapeHatch rs) := h.pushOutput ntp

theorem emitted_dnsEscapeHatch : All (Emitted p uplink) (dnsEscapeHatch rs) :=
  All.foldl (fun _ _ hp h => h.pushOutput (dnsHatch hp)) h

theorem emitted_probeEscapeHatch :
    All (Emitted p uplink) (probeEscapeHatch rs) := (h.pushOutput probeV4).pushOutput probeV6

theorem emitted_allowLanTraffic (allowLan : Bool) :
    All (Emitted p uplink) (if allowLan then allowLanTraffic rs else rs) := by
  cases allowLan with
  | false => exact h
  | true =>
    refine All.pushOutput (All.pushOutput ?_ (lanV4 _)) (lanV6 _)
    refine All.foldl (fun _ n _ h => (h.pushOutput (lanV6 n)).pushForward (lanReturnV6 n)) ?_
    exact All.foldl (fun _ n _ h => (h.pushOutput (lanV4 n)).pushForward (lanReturnV4 n)) h

theorem emitted_allowDnsWhileDown (dns : IpAddr) :
    All (Emitted p uplink) (allowDnsWhileDown uplink (tunnelInterfaces p) rs dns) := by
  rw [allowDnsWhileDown_eq]
  cases hpin : pinnedDevice dns uplink (tunnelInterfaces p) with
  | none => exact emitted_allowDnsServerInner h dns (by simp) _
  | some dev => exact emitted_allowDnsServerOn h hpin

theorem emitted_allowDnsServer_tunnel
    (htunnel : ∀ m ∈ tunnel.innerMetadatas, m.interface ∈ tunnelInterfaces p) (dns : IpAddr) :
    All (Emitted p uplink) (tunnel.innerMetadatas.foldl
      (fun rs m => allowDnsServer rs dns (some m.interface)) rs) :=
  All.foldl (fun rs m hm h => emitted_allowDnsServerInner h dns (by simpa using htunnel m hm) _) h

theorem emitted_allowDnsWhileConnected
    (htunnel : tunnel.innerMetadatas.map TunnelMetadata.interface = tunnelInterfaces p)
    (dns : IpAddr) : All (Emitted p uplink) (allowDnsWhileConnected uplink tunnel rs dns) := by
  have hmem : ∀ m ∈ tunnel.innerMetadatas, m.interface ∈ tunnelInterfaces p :=
    fun m hm => htunnel ▸ List.mem_map_of_mem hm
  rw [allowDnsWhileConnected_eq, htunnel]
  cases hpin : pinnedDevice dns uplink (tunnelInterfaces p) with
  | some dev => exact emitted_allowDnsServerOn h hpin
  | none =>
    simp only
    split
    · exact emitted_allowDnsServer_tunnel h hmem dns
    · exact emitted_allowDnsServerInner h dns (by simp) _

theorem emitted_allowTunnelDevice {m : TunnelMetadata} (hm : m.interface ∈ tunnelInterfaces p)
    (allowLan : Bool) : All (Emitted p uplink) (allowTunnelDevice allowLan rs m) := by
  have htunnel := emitted_allowTunnel h hm
  cases allowLan with
  | false => exact htunnel
  | true => exact All.foldl (fun _ ip _ h => h.pushInput (spoofed hm ip)) htunnel

theorem emitted_compileArm : All (Emitted p uplink) (compileArm p uplink rs) := by
  cases p with
  | connecting pe t lan dns ae x y exs =>
    refine emitted_exemptionMangle (emitted_allowLanTraffic ?_ lan) exs
    refine emitted_probeEscapeHatch (emitted_ntpEscapeHatch (emitted_blockDns
      (emitted_dnsEscapeHatch (emitted_exemptionFilterAccepts ?_ exs))))
    have hdns := All.foldl (l := dns.nonTunnelConfig)
      (fun rs d _ h => emitted_allowDnsWhileDown h d)
      (emitted_allowEndpoints (emitted_allowEndpoints h pe) ae)
    cases t with
    | none => exact hdns
    | some t =>
      refine All.foldl (fun rs m hm h => emitted_allowTunnel h ?_) hdns
      simpa [tunnelInterfaces] using ⟨m, hm, rfl⟩
  | connected pe t lan dns ae exs =>
    have hmem : ∀ m ∈ t.innerMetadatas,
        m.interface ∈ tunnelInterfaces (.connected pe t lan dns ae exs) :=
      fun m hm => List.mem_map_of_mem hm
    refine emitted_exemptionMangle (emitted_allowLanTraffic ?_ lan) exs
    refine emitted_probeEscapeHatch (emitted_blockDns (emitted_exemptionFilterAccepts ?_ exs))
    refine All.foldl (fun rs m hm h => emitted_allowTunnelDevice h (hmem m hm) lan) ?_
    refine All.foldl (fun rs d _ h => emitted_allowDnsWhileConnected h rfl d) ?_
    refine All.foldl (fun rs d _ h => emitted_allowDnsServer_tunnel h hmem d) ?_
    exact emitted_allowEndpoints (emitted_allowEndpoints h pe) ae
  | blocked lan ae servers =>
    refine emitted_allowLanTraffic ?_ lan
    refine emitted_probeEscapeHatch (emitted_ntpEscapeHatch (emitted_blockDns
      (emitted_dnsEscapeHatch ?_)))
    exact All.foldl (fun rs d _ h => emitted_allowDnsWhileDown h d) (emitted_allowEndpoints h ae)

omit h in
theorem emitted_compileWith (trackIps : List IpAddr) (p : FirewallPolicy) (uplink : Uplink) :
    All (Emitted p uplink) (compileWith trackIps p uplink) := by
  have hbase : All (Emitted p uplink) (baseRules trackIps {}) := emitted_baseRules trackIps
  have hhead := emitted_untrustedIngressReturns hbase
  exact ((emitted_compileArm (hhead.pushForward (exempt _))).pushOutput
    (Emitted.finalReject _)).pushForward (Emitted.finalReject _)

end

end NymFirewall
