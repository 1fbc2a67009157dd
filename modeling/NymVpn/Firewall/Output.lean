import NymVpn.Firewall.Forward

/-!
# The OUTPUT chain

`OutputAllowed` lists what a process other than root may send past the kill-switch, without
a mark, on an interface that is neither loopback nor a tunnel. The compiled chain accepts
exactly that and rejects the rest. The rate limit of the NTP hatch is a parameter.
-/

namespace NymFirewall

open Net Netfilter RuleSet Chain

def DhcpExchange (k : Packet) : Prop :=
  (k.family = .v4 ∧ (k.transport = .udp dhcpv4ClientPort dhcpv4ServerPort ∨
      k.transport = .udp dhcpv4ServerPort dhcpv4ClientPort)) ∨
    (k.family = .v6 ∧ (k.transport = .udp dhcpv6ClientPort dhcpv6ServerPort ∨
      k.transport = .udp dhcpv6ServerPort dhcpv6ClientPort))

def NeighborDiscovery (k : Packet) : Prop :=
  k.family = .v6 ∧ (k.transport = .icmpv6 133 ∨ k.transport = .icmpv6 135 ∨
    k.transport = .icmpv6 136)

def EchoRequest (k : Packet) : Prop :=
  (k.family = .v4 ∧ k.transport = .icmp 8) ∨ (k.family = .v6 ∧ k.transport = .icmpv6 128)

def ToEndpoint (ep : AllowedEndpoint) (k : Packet) : Prop :=
  k.daddr = ep.endpoint.address.ip ∧
    ep.endpoint.protocol.toProto.holds k.transport = true ∧
    k.transport.dport? = some ep.endpoint.address.port

def OnResolverPort (k : Packet) : Prop :=
  ∃ pair ∈ dnsPairs, pair.1.holds k.transport = true ∧ k.transport.dport? = some pair.2

def InMulticast (k : Packet) : Prop :=
  (IpNetwork.v4 multicastV4).contains k.daddr = true ∨
    (IpNetwork.v6 multicastV6).contains k.daddr = true

def ToNtp (k : Packet) : Prop :=
  Proto.udp.holds k.transport = true ∧ k.transport.dport? = some ntpPort

instance (k : Packet) : Decidable (DhcpExchange k) := inferInstanceAs (Decidable (_ ∨ _))

instance (k : Packet) : Decidable (NeighborDiscovery k) :=
  inferInstanceAs (Decidable (_ ∧ _))

instance (k : Packet) : Decidable (EchoRequest k) := inferInstanceAs (Decidable (_ ∨ _))

instance (ep : AllowedEndpoint) (k : Packet) : Decidable (ToEndpoint ep k) :=
  inferInstanceAs (Decidable (_ ∧ _))

instance (k : Packet) : Decidable (OnResolverPort k) :=
  inferInstanceAs (Decidable (∃ _ ∈ _, _))

instance (k : Packet) : Decidable (InMulticast k) := inferInstanceAs (Decidable (_ ∨ _))

instance (k : Packet) : Decidable (ToNtp k) := inferInstanceAs (Decidable (_ ∧ _))

/-- What a process other than root may send outside of the tunnel. `ntpOk` is
the answer of the rate limit of the NTP hatch. -/
inductive OutputAllowed (trackIps : List IpAddr) (p : FirewallPolicy) (uplink : Uplink)
    (ntpOk : Bool) (k : Packet) : Prop where
  | dhcp (h : DhcpExchange k)
  | neighbor (h : NeighborDiscovery k)
  | track (h : EchoRequest k) (hip : k.daddr ∈ trackIps)
  | endpoint (ep : AllowedEndpoint) (hep : ep ∈ p.peerEndpoints ++ p.allowedEndpoints)
      (hall : ep.clients = .all) (h : ToEndpoint ep k)
  | pinnedResolver (h : ToPinnedResolver p uplink k) (hport : OnResolverPort k)
  | publicResolver (h : ToPublicResolver p k) (hport : OnResolverPort k)
  | ntp (hdown : p.isConnected = false) (h : ToNtp k) (hok : ntpOk = true)
  | lan (hallow : p.allowLan = true) (h : InLan k ∨ InMulticast k) (hdns : ¬ ToDns k)

/-- A packet of a process other than root, without a mark of the daemon, on an
interface that is neither loopback nor a tunnel of the policy. -/
structure Unprivileged (p : FirewallPolicy) (k : Packet) : Prop where
  skuid : k.skuid ≠ some rootUid
  mark_ne_exempt : k.mark ≠ exemptFwmark
  mark_ne_tunnel : k.mark ≠ tunnelFwmark
  not_lo : k.oif ≠ some "lo"
  not_tunnel : ¬ LeavesOn k (tunnelInterfaces p)

/-! ## The sections of the chain -/

attribute [local simp] pushOutput pushForward RuleSet.chain Rule.Plain Rule.Applies Match.holds_iff

variable (trackIps : List IpAddr) (dns : IpAddr) (uplink : Uplink)

theorem decidesIf_output_allowTrackIp (k : Packet) :
    Chain.DecidesIf (trackIps.flatMap fun ip => (allowTrackIp {} ip).chain .filterOutput)
      k .accept (EchoRequest k ∧ k.daddr ∈ trackIps) := by
  have hone (ip : IpAddr) : Chain.DecidesIf ((allowTrackIp {} ip).chain .filterOutput) k
      .accept (EchoRequest k ∧ k.daddr = ip) := by
    have hfam := k.family_daddr
    refine decidesIf_of_plain (v := .accept) ?_ rfl ?_
    · cases ip <;> simp [allowTrackIp]
    · cases ip with
      | v4 a =>
        simp [allowTrackIp, AddrMatch.holds, EchoRequest]
        grind [IpAddr.family, Proto.holds, IcmpV4Type.number]
      | v6 a =>
        simp [allowTrackIp, AddrMatch.holds, EchoRequest]
        grind [IpAddr.family, Proto.holds, IcmpV6Type.number]
  refine decidesIf_congr (decidesIf_flatMap _ fun ip _ => hone ip) ?_
  constructor
  · rintro ⟨ip, hmem, hecho, rfl⟩
    exact ⟨hecho, hmem⟩
  · rintro ⟨hecho, hmem⟩
    exact ⟨k.daddr, hmem, hecho, rfl⟩

def outputHead : Chain :=
  (baseRules [] {}).chain .filterOutput

theorem output_baseRules :
    (baseRules trackIps {}).chain .filterOutput = outputHead ++
      trackIps.flatMap fun ip => (allowTrackIp {} ip).chain .filterOutput := by
  unfold outputHead baseRules
  rw [Appends.chain_foldl appends_allowTrackIp, Appends.chain_foldl appends_allowTrackIp]
  simp

variable {k : Packet} {p : FirewallPolicy}

theorem decidesIf_outputHead (hlo : k.oif ≠ some "lo") :
    outputHead.DecidesIf k .accept (DhcpExchange k ∨ NeighborDiscovery k) := by
  refine decidesIf_of_plain (v := .accept) ?_ rfl ?_
  · simp [outputHead, baseRules, pushInput]
  · simp [outputHead, baseRules, pushInput, hlo, IcmpV6Type.number, DhcpExchange, NeighborDiscovery]
    cases k.transport <;> simp [Proto.holds, Transport.sport?, Transport.dport?] <;> grind

theorem decidesIf_output_allowEndpoint (eps : List AllowedEndpoint)
    (huid : k.skuid ≠ some rootUid) :
    Chain.DecidesIf (eps.flatMap fun ep => (allowEndpoint {} ep).chain .filterOutput) k
      .accept (∃ ep ∈ eps, ep.clients = .all ∧ ToEndpoint ep k) := by
  refine decidesIf_flatMap _ fun ep _ => ?_
  have hfam : k.daddr = ep.endpoint.address.ip →
    (familyOf ep.endpoint.address.ip).covers k.family = true := familyOf_covers_of_daddr
  refine decidesIf_of_plain (v := .accept) ?_ rfl ?_
  · cases ep.clients <;> simp [allowEndpoint] <;> split <;> simp
  · cases hc : ep.clients with
    | root => simp [allowEndpoint, hc, huid]
    | all =>
      simp [allowEndpoint, hc, AddrMatch.holds, ToEndpoint]
      tauto

theorem decidesIf_output_allowDnsServerOn (dev : String) (k : Packet) :
    ((allowDnsServerOn {} dns dev).chain .filterOutput).DecidesIf k .accept
      (OnResolverPort k ∧ k.daddr = dns ∧ k.oif = some dev) := by
  have hfam : k.daddr = dns → (familyOf dns).covers k.family = true :=
    familyOf_covers_of_daddr
  refine decidesIf_of_plain (v := .accept) ?_ rfl ?_
  · simp [allowDnsServerOn, dnsPairs]
  · simp [allowDnsServerOn, dnsPairs, AddrMatch.holds, OnResolverPort]
    tauto

theorem decidesIf_output_allowDnsServer (k : Packet) :
    ((allowDnsServer {} dns none).chain .filterOutput).DecidesIf k .accept
      (OnResolverPort k ∧ k.daddr = dns) := by
  have hfam : k.daddr = dns → (familyOf dns).covers k.family = true :=
    familyOf_covers_of_daddr
  refine decidesIf_of_plain (v := .accept) ?_ rfl ?_
  · simp [allowDnsServer, allowDnsServerInner, dnsServerRule, dnsPairs]
  · simp [allowDnsServer, allowDnsServerInner, dnsServerRule, dnsPairs, AddrMatch.holds,
      OnResolverPort]
    tauto

theorem decidesIf_output_allowDnsServer_some {iface : String} (h : k.oif ≠ some iface) :
    ((allowDnsServer {} dns (some iface)).chain .filterOutput).DecidesIf k .accept
      False := by
  refine decidesIf_false .accept ?_
  simp [allowDnsServer, allowDnsServerInner, dnsServerRule, dnsPairs, h]

theorem resolverSection_whileDown (hp : p.isConnected = false) (uplink : Uplink)
    (huid : k.skuid ≠ some rootUid) :
    ResolverSection (OnResolverPort k) p uplink k fun dns =>
      (allowDnsWhileDown uplink (tunnelInterfaces p) {} dns).chain .filterOutput := by
  intro dns
  simp only [allowDnsWhileDown_eq]
  cases pinnedDevice dns uplink (tunnelInterfaces p) with
  | some dev =>
    refine decidesIf_congr (decidesIf_output_allowDnsServerOn dns dev k) ?_
    simp [hp]
  | none =>
    -- The daemon's accepts are scoped to root.
    refine decidesIf_congr (decidesIf_false .accept ?_) (by simp [hp])
    simp [allowDnsServerDaemonOnly, allowDnsServerInner, dnsServerRule, dnsPairs, huid]

theorem resolverSection_whileConnected (peerEndpoints : List AllowedEndpoint)
    (tunnel : TunnelInterface) (allowLan : Bool) (dnsConfig : ResolvedDnsConfig)
    (allowedEndpoints : List AllowedEndpoint) (exemptions : List InboundExemption) (uplink : Uplink)
    (h : ¬ LeavesOn k (tunnel.innerMetadatas.map TunnelMetadata.interface)) :
    ResolverSection (OnResolverPort k) (.connected peerEndpoints tunnel allowLan dnsConfig
      allowedEndpoints exemptions) uplink k fun dns =>
        (allowDnsWhileConnected uplink tunnel {} dns).chain .filterOutput := by
  intro dns
  simp only [allowDnsWhileConnected_eq, tunnelInterfaces, FirewallPolicy.isConnected]
  cases hpin : pinnedDevice dns uplink (tunnel.innerMetadatas.map TunnelMetadata.interface) with
  | some dev =>
    have hpriv := ((pinnedDevice_eq_some_iff _ _ _ _).1 hpin).1
    refine decidesIf_congr (decidesIf_output_allowDnsServerOn dns dev k) ?_
    simp [hpriv]
  | none =>
    cases hpriv : isPrivateDns dns with
    | false =>
      refine decidesIf_congr (decidesIf_output_allowDnsServer dns k) ?_
      simp
    | true =>
      simp only [if_true, Appends.chain_foldl fun m : TunnelMetadata =>
        appends_allowDnsServer dns (some m.interface), chain_empty, List.nil_append]
      refine decidesIf_congr (decidesIf_flatMap _ fun m hm =>
        decidesIf_output_allowDnsServer_some dns fun hk =>
          h ⟨m.interface, List.mem_map_of_mem hm, hk⟩) ?_
      simp

theorem decidesIf_output_allowTunnel {tunnels : List String} (h : ¬ LeavesOn k tunnels) :
    Chain.DecidesIf (tunnels.flatMap fun d => (allowTunnel {} d).chain .filterOutput) k
      .accept False := by
  refine decidesIf_false .accept ?_
  simp only [List.mem_flatMap]
  rintro r ⟨d, hd, hr⟩ ok happ
  refine h ⟨d, hd, ?_⟩
  obtain rfl : r = (Rule.accept .inet).oif d := by
    simpa [allowTunnel] using hr
  exact happ.2.oif d rfl

theorem decidesIf_output_exemptionFilterAccepts (exemptions : List InboundExemption)
    (h : k.mark ≠ exemptFwmark) :
    ((exemptionFilterAccepts {} exemptions).chain .filterOutput).DecidesIf k .accept
      False := by
  refine decidesIf_false .accept ?_
  cases exemptions with
  | nil => simp [exemptionFilterAccepts]
  | cons ex exs =>
    simp [exemptionFilterAccepts, pushInput, h]

theorem decidesIf_output_probeEscapeHatch (h : k.mark ≠ tunnelFwmark) :
    ((probeEscapeHatch {}).chain .filterOutput).DecidesIf k .accept False := by
  refine decidesIf_false .accept ?_
  simp [probeEscapeHatch, h]

theorem decidesIf_output_blockDns (k : Packet) :
    ((blockDns {}).chain .filterOutput).DecidesIf k .reject (ToDns k) :=
  decidesIf_forward_blockDns k

theorem decidesIf_output_allowLanTraffic (allowLan : Bool) (k : Packet) :
    Chain.DecidesIf (if allowLan then (allowLanTraffic {}).chain .filterOutput else [])
      k .accept (allowLan = true ∧ (InLan k ∨ InMulticast k)) := by
  cases allowLan with
  | false => exact decidesIf_nil k .accept (by simp)
  | true =>
    refine decidesIf_of_plain (v := .accept) ?_ rfl ?_
    · simp [allowLanTraffic, lanNetsV4, lanNetsV6]
    · simp only [InLan, InMulticast, lanNetsV4, lanNetsV6, allowLanTraffic, pushForward,
        pushOutput, RuleSet.chain, if_true, true_and, List.foldl_cons, List.foldl_nil,
        List.nil_append, List.cons_append, List.mem_cons, List.not_mem_nil, or_false,
        exists_eq_or_imp, exists_eq_left]
      simp only [Rule.Applies, Match.holds_iff, AddrMatch.holds]
      simp
      grind [→ family_of_contains_daddr, IpNetwork.family]

def ntpRule : Rule :=
  (((Rule.accept .inet).proto .udp).dport ntpPort).rateLimit ntpRatePerMin ntpBurst

theorem output_ntpEscapeHatch : (ntpEscapeHatch {}).chain .filterOutput = [ntpRule] := rfl

theorem ntpRule_applies_iff (ok : Bool) (k : Packet) :
    ntpRule.Applies ok k ↔ ToNtp k ∧ ok = true := by
  simp [ntpRule, ToNtp]
  tauto

/-! ## The whole chain -/

def AllowedBeforeDns (trackIps : List IpAddr) (p : FirewallPolicy) (uplink : Uplink)
    (k : Packet) : Prop :=
  (DhcpExchange k ∨ NeighborDiscovery k) ∨ (EchoRequest k ∧ k.daddr ∈ trackIps) ∨
    (∃ ep ∈ p.peerEndpoints ++ p.allowedEndpoints, ep.clients = .all ∧ ToEndpoint ep k) ∨
    (OnResolverPort k ∧ (ToPinnedResolver p uplink k ∨ ToPublicResolver p k))

instance (trackIps : List IpAddr) (p : FirewallPolicy) (uplink : Uplink) (k : Packet) :
    Decidable (AllowedBeforeDns trackIps p uplink k) := inferInstanceAs (Decidable (_ ∨ _))

theorem outputAllowed_iff (p : FirewallPolicy) (uplink : Uplink) (ntpOk : Bool) (k : Packet) :
    OutputAllowed trackIps p uplink ntpOk k ↔
      AllowedBeforeDns trackIps p uplink k ∨
        (p.isConnected = false ∧ ToNtp k ∧ ntpOk = true) ∨
        (p.allowLan = true ∧ (InLan k ∨ InMulticast k) ∧ ¬ ToDns k) := by
  constructor
  · intro h
    cases h with
    | dhcp h => exact .inl (.inl (.inl h))
    | neighbor h => exact .inl (.inl (.inr h))
    | track h hip => exact .inl (.inr (.inl ⟨h, hip⟩))
    | endpoint ep hep hall h => exact .inl (.inr (.inr (.inl ⟨ep, hep, hall, h⟩)))
    | pinnedResolver h hport => exact .inl (.inr (.inr (.inr ⟨hport, .inl h⟩)))
    | publicResolver h hport => exact .inl (.inr (.inr (.inr ⟨hport, .inr h⟩)))
    | ntp hdown h hok => exact .inr (.inl ⟨hdown, h, hok⟩)
    | lan hallow h hdns => exact .inr (.inr ⟨hallow, h, hdns⟩)
  · rintro (((h | h) | ⟨h, hip⟩ | ⟨ep, hep, hall, h⟩ | ⟨hport, h | h⟩) | h | h)
    · exact .dhcp h
    · exact .neighbor h
    · exact .track h hip
    · exact .endpoint ep hep hall h
    · exact .pinnedResolver h hport
    · exact .publicResolver h hport
    · exact .ntp h.1 h.2.1 h.2.2
    · exact .lan h.1 h.2.1 h.2.2

instance (trackIps : List IpAddr) (p : FirewallPolicy) (uplink : Uplink) (ntpOk : Bool)
    (k : Packet) : Decidable (OutputAllowed trackIps p uplink ntpOk k) :=
  decidable_of_iff' _ (outputAllowed_iff trackIps p uplink ntpOk k)

def dnsOutput (uplink : Uplink) : FirewallPolicy → Chain
  | .connected _ tunnel _ dns .. =>
    dns.tunnelConfig.flatMap (fun d => tunnel.innerMetadatas.flatMap fun m =>
      (allowDnsServer {} d (some m.interface)).chain .filterOutput) ++
    dns.nonTunnelConfig.flatMap fun d =>
      (allowDnsWhileConnected uplink tunnel {} d).chain .filterOutput
  | p => p.nonTunnelResolvers.flatMap fun d =>
    (allowDnsWhileDown uplink (tunnelInterfaces p) {} d).chain .filterOutput

def outputPre (trackIps : List IpAddr) (p : FirewallPolicy) (uplink : Uplink) : Chain :=
  outputHead ++ trackIps.flatMap (fun ip => (allowTrackIp {} ip).chain .filterOutput) ++
  (p.peerEndpoints ++ p.allowedEndpoints).flatMap
    (fun ep => (allowEndpoint {} ep).chain .filterOutput) ++
  dnsOutput uplink p ++
  (tunnelInterfaces p).flatMap (fun d => (allowTunnel {} d).chain .filterOutput) ++
  (exemptionFilterAccepts {} p.inboundExemptions).chain .filterOutput ++
  (if p.isConnected then [] else (dnsEscapeHatch {}).chain .filterOutput)

def outputTail (p : FirewallPolicy) : Chain :=
  (blockDns {}).chain .filterOutput ++
  ((if p.isConnected then [] else [ntpRule]) ++
  ((probeEscapeHatch {}).chain .filterOutput ++
  ((if p.allowLan then (allowLanTraffic {}).chain .filterOutput else []) ++
  [Rule.reject .inet])))

theorem output_head (wanDevices tunnels : List String) :
    (bypassMarkForwardAccept (untrustedIngressReturns (baseRules trackIps {})
      wanDevices tunnels)).chain .filterOutput = outputHead ++
      trackIps.flatMap fun ip => (allowTrackIp {} ip).chain .filterOutput := by
  have hingress : (untrustedIngressReturns {} wanDevices tunnels).chain .filterOutput = [] := by
    refine (part_foldl (g := fun rs => rs.chain .filterOutput) (fun _ _ => by rfl) _ _).trans ?_
    refine part_foldl (g := fun rs => rs.chain .filterOutput) (fun rs dev => ?_) _ _
    exact part_foldl (g := fun rs => rs.chain .filterOutput) (fun _ _ => by rfl) _ _
  have hbypass : (bypassMarkForwardAccept {}).chain .filterOutput = [] := rfl
  rw [chain_head, hingress, hbypass, output_baseRules]
  simp

theorem output_compileWith :
    (compileWith trackIps p uplink).filter.output =
      outputPre trackIps p uplink ++ outputTail p := by
  show (compileWith trackIps p uplink).chain .filterOutput = _
  have hmangle (exs : List InboundExemption) :
      (exemptionMangle {} exs uplink.wanDevices).chain .filterOutput = [] :=
    congrArg FilterRules.output (filter_exemptionMangle {} exs uplink.wanDevices)
  have hfinal : (finalReject {}).chain .filterOutput = [Rule.reject .inet] := rfl
  rw [chain_compileWith, hfinal]
  cases p with
  | connecting pe t lan dns ae x y exs =>
    have hifaces : tunnelInterfaces (.connecting pe t lan dns ae x y exs) =
      (tunnelMetadatas t).map TunnelMetadata.interface := rfl
    rw [chain_compileArm_connecting, output_head, hmangle, output_ntpEscapeHatch]
    simp only [outputPre, outputTail, dnsOutput, hifaces, List.flatMap_map,
      List.append_assoc, List.nil_append]
    rfl
  | connected pe t lan dns ae exs =>
    have hifaces : tunnelInterfaces (.connected pe t lan dns ae exs) =
      t.innerMetadatas.map TunnelMetadata.interface := rfl
    have htunnel (m : TunnelMetadata) :=
      chain_allowTunnelDevice (c := .filterOutput) (by decide) lan {} m
    rw [chain_compileArm_connected, output_head, hmangle]
    simp only [outputPre, outputTail, dnsOutput, hifaces, htunnel, List.flatMap_map,
      List.append_assoc, List.nil_append]
    rfl
  | blocked lan ae servers =>
    rw [chain_compileArm_blocked, output_head, output_ntpEscapeHatch]
    simp only [outputPre, outputTail, dnsOutput, List.append_assoc]
    rfl

theorem decidesIf_dnsOutput (hk : Unprivileged p k) :
    (dnsOutput uplink p).DecidesIf k .accept
      (OnResolverPort k ∧ (ToPinnedResolver p uplink k ∨ ToPublicResolver p k)) := by
  cases p with
  | connecting pe t lan dns ae x y exs | blocked lan ae servers =>
    exact decidesIf_resolvers (resolverSection_whileDown rfl uplink hk.skuid)
  | connected pe t lan dns ae exs =>
    have htunnel : Chain.DecidesIf (dns.tunnelConfig.flatMap fun d =>
        t.innerMetadatas.flatMap fun m =>
          (allowDnsServer {} d (some m.interface)).chain .filterOutput) k .accept
        (∃ d ∈ dns.tunnelConfig, ∃ m ∈ t.innerMetadatas, False) :=
      decidesIf_flatMap _ fun d _ => decidesIf_flatMap _ fun m hm =>
        decidesIf_output_allowDnsServer_some d fun hoif =>
          hk.not_tunnel ⟨m.interface, List.mem_map_of_mem hm, hoif⟩
    have hresolvers := decidesIf_resolvers
      (resolverSection_whileConnected pe t lan dns ae exs uplink hk.not_tunnel)
    exact decidesIf_congr (htunnel.append_or hresolvers) (by simp)

theorem decidesIf_outputPre (hk : Unprivileged p k) :
    (outputPre trackIps p uplink).DecidesIf k .accept (AllowedBeforeDns trackIps p uplink k) := by
  have hhead := (decidesIf_outputHead hk.not_lo).append_or
    (decidesIf_output_allowTrackIp trackIps k)
  have hep := decidesIf_output_allowEndpoint (p.peerEndpoints ++ p.allowedEndpoints) hk.skuid
  have htun := decidesIf_output_allowTunnel hk.not_tunnel
  have hex := decidesIf_output_exemptionFilterAccepts p.inboundExemptions hk.mark_ne_exempt
  have hhatch : Chain.DecidesIf
      (if p.isConnected then [] else (dnsEscapeHatch {}).chain .filterOutput) k .accept
      False := by
    split
    · exact decidesIf_nil k .accept not_false
    · exact decidesIf_false .accept (by simp [dnsEscapeHatch, hk.skuid])
  refine decidesIf_congr (((((hhead.append_or hep).append_or
    (decidesIf_dnsOutput uplink hk)).append_or htun).append_or hex).append_or hhatch) ?_
  simp only [AllowedBeforeDns, or_false, or_assoc]

theorem run_outputTail (p : FirewallPolicy) (hk : k.mark ≠ tunnelFwmark) (ω : ℕ → Bool) :
    (outputTail p).run ω k = (some (if ToDns k then .reject
      else if p.isConnected = false ∧ ToNtp k ∧ ω 2 = true then .accept
      else if p.allowLan = true ∧ (InLan k ∨ InMulticast k) then .accept
      else .reject), k) := by
  have hlan := (decidesIf_output_allowLanTraffic p.allowLan k).append (run_reject_inet k)
  have hprobe := (decidesIf_output_probeEscapeHatch hk).append hlan
  simp only [if_false] at hprobe
  have hntp : ∀ ω, run ((if p.isConnected then [] else [ntpRule]) ++
      ((probeEscapeHatch {}).chain .filterOutput ++
      ((if p.allowLan then (allowLanTraffic {}).chain .filterOutput else []) ++
      [Rule.reject .inet]))) ω k =
      (some (if p.isConnected = false ∧ ToNtp k ∧ ω 0 = true then .accept
        else if p.allowLan = true ∧ (InLan k ∨ InMulticast k) then .accept
        else .reject), k) := by
    intro ω
    cases p.isConnected with
    | true => simpa using hprobe ω
    | false =>
      simp only [Bool.false_eq_true, if_false, true_and]
      by_cases happ : ntpRule.Applies (ω 0) k
      · rw [if_pos ((ntpRule_applies_iff (ω 0) k).1 happ)]
        exact traverse_cons_inl _ (if_pos happ)
      · rw [if_neg fun h => happ ((ntpRule_applies_iff (ω 0) k).2 h)]
        exact (traverse_cons_inr _ (if_neg happ)).trans (hprobe fun i => ω (i + 1))
  exact (decidesIf_output_blockDns k).append_at (n := 0)
    (e := fun ok => if p.isConnected = false ∧ ToNtp k ∧ ok = true then .accept
      else if p.allowLan = true ∧ (InLan k ∨ InMulticast k) then .accept
      else .reject) hntp ω

/-- OUTPUT does not leak for processes other than root. With `n` the position of
the NTP rule, the chain accepts exactly the packets of `OutputAllowed`, and
rejects every other one. -/
theorem output_no_leak (trackIps : List IpAddr) (p : FirewallPolicy) (uplink : Uplink) :
    ∃ n, (p.isConnected = false →
        (compileWith trackIps p uplink).filter.output[n]? = some ntpRule) ∧
      ∀ (ω : ℕ → Bool) (k : Packet), Unprivileged p k →
        (OutputAllowed trackIps p uplink (ω n) k →
          (compileWith trackIps p uplink).filter.output.run ω k = (some .accept, k)) ∧
        (¬ OutputAllowed trackIps p uplink (ω n) k →
          (compileWith trackIps p uplink).filter.output.run ω k = (some .reject, k)) := by
  refine ⟨(outputPre trackIps p uplink).length + 2, fun hp => ?_, fun ω k hk => ?_⟩
  · rw [output_compileWith, List.getElem?_append_right (by omega), Nat.add_sub_cancel_left,
      outputTail, hp]
    rfl
  · have htail : ∀ ω, (outputTail p).run ω k = _ := run_outputTail p hk.mark_ne_tunnel
    have hdec := decidesIf_outputPre trackIps uplink hk
    rw [output_compileWith, outputAllowed_iff]
    by_cases hpre : AllowedBeforeDns trackIps p uplink k
    · exact ⟨fun _ => traverse_append_of_some _ ((hdec ω).1 hpre), fun h => absurd (.inl hpre) h⟩
    · have hrun : (outputPre trackIps p uplink ++ outputTail p).run ω k = _ :=
        (traverse_append_of_none _ ((hdec ω).2 hpre)).trans (htail _)
      have hne : ToNtp k → ¬ ToDns k := by
        rintro ⟨-, hport⟩ hdns
        rw [ToDns, hport] at hdns
        exact absurd hdns (by decide)
      rw [hrun]
      grind

def dnsmasqQuery : Packet where
  iif := none
  oif := some "wan"
  addrs := .v4 ⟨192, 0, 2, 7⟩ ⟨9, 9, 9, 9⟩
  transport := .udp 5353 53
  mark := 0
  ctNew := true
  ctMark := 0
  skuid := some 453

theorem output_no_leak_dnsmasqQuery :
    Unprivileged (.blocked true [] []) dnsmasqQuery ∧
      (compileWith [] (.blocked true [] []) ⟨["wan"], fun _ => none⟩).filter.output.run
        (fun _ => true) dnsmasqQuery = (some .reject, dnsmasqQuery) := by
  have hk : Unprivileged (.blocked true [] []) dnsmasqQuery :=
    ⟨by decide, by decide, by decide, by decide, by decide⟩
  obtain ⟨n, -, h⟩ := output_no_leak [] (.blocked true [] []) ⟨["wan"], fun _ => none⟩
  exact ⟨hk, (h (fun _ => true) dnsmasqQuery hk).2 (by decide)⟩

end NymFirewall
