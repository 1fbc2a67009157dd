import NymVpn.Firewall.Verdicts

/-!
# The FORWARD chain

`forwardVerdict` says what the kill-switch is for on forwarded traffic, in terms of the
policy alone. The first-match verdict of the compiled chain is that function, for every
policy, every uplink and every packet.
-/

namespace NymFirewall

open Net Netfilter RuleSet Chain

def ArrivesOn (k : Packet) (devices : List String) : Prop := ∃ d ∈ devices, k.iif = some d

def LeavesOn (k : Packet) (devices : List String) : Prop := ∃ d ∈ devices, k.oif = some d

def InLan (k : Packet) : Prop :=
  (∃ n ∈ lanNetsV4, (IpNetwork.v4 n).contains k.daddr = true) ∨
    ∃ n ∈ lanNetsV6, (IpNetwork.v6 n).contains k.daddr = true

/-- A private resolver the policy lets through outside of the tunnel, with the
device it is pinned to: its route leaves on a device that is neither a WAN nor
a tunnel, and the WAN devices are known. -/
def PinnedResolver (p : FirewallPolicy) (uplink : Uplink) (dns : IpAddr) (dev : String) : Prop :=
  dns ∈ p.nonTunnelResolvers ∧ isPrivateDns dns = true ∧
    uplink.routeDevice dns = some dev ∧ uplink.wanDevices ≠ [] ∧
    dev ∉ uplink.wanDevices ∧ dev ∉ tunnelInterfaces p

def ToPinnedResolver (p : FirewallPolicy) (uplink : Uplink) (k : Packet) : Prop :=
  ∃ dev ∈ k.oif, PinnedResolver p uplink k.daddr dev

/-- The packet goes to a resolver that a connected policy lets through on any
interface: one outside of the tunnel that is not private. -/
def ToPublicResolver (p : FirewallPolicy) (k : Packet) : Prop :=
  p.isConnected = true ∧ k.daddr ∈ p.nonTunnelResolvers ∧ isPrivateDns k.daddr = false

instance (k : Packet) (l : List String) : Decidable (ArrivesOn k l) :=
  inferInstanceAs (Decidable (∃ _ ∈ _, _))

instance (k : Packet) (l : List String) : Decidable (LeavesOn k l) :=
  inferInstanceAs (Decidable (∃ _ ∈ _, _))

instance (k : Packet) : Decidable (InLan k) := inferInstanceAs (Decidable (_ ∨ _))

instance (p : FirewallPolicy) (uplink : Uplink) (dns : IpAddr) (dev : String) :
    Decidable (PinnedResolver p uplink dns dev) := inferInstanceAs (Decidable (_ ∧ _))

instance (p : FirewallPolicy) (uplink : Uplink) (k : Packet) :
    Decidable (ToPinnedResolver p uplink k) := inferInstanceAs (Decidable (∃ _ ∈ _, _))

instance (p : FirewallPolicy) (k : Packet) : Decidable (ToPublicResolver p k) :=
  inferInstanceAs (Decidable (_ ∧ _))

def forwardVerdict (p : FirewallPolicy) (uplink : Uplink) (k : Packet) : Decision :=
  if ArrivesOn k (uplink.wanDevices ++ tunnelInterfaces p) then
    if LeavesOn k uplink.wanDevices then .reject else .return_
  else if k.mark = exemptFwmark then .accept
  else if LeavesOn k (tunnelInterfaces p) then .accept
  else if ToDns k ∧ ToPinnedResolver p uplink k then .accept
  else if ToDns k ∧ ToPublicResolver p k then .accept
  else if ToDns k then .reject
  else if p.allowLan = true ∧ InLan k then .return_
  else .reject

/-! ## The sections of the chain -/

attribute [local simp] pushOutput pushForward RuleSet.chain Rule.Plain Rule.Applies Match.holds_iff

variable (wanDevices tunnels : List String) (trackIps : List IpAddr) (dns : IpAddr) (k : Packet)
  {p : FirewallPolicy} {uplink : Uplink}

theorem pinnedDevice_eq_some_iff (uplink : Uplink) (tunnelIfaces : List String) (dev : String) :
    pinnedDevice dns uplink tunnelIfaces = some dev ↔
      isPrivateDns dns = true ∧ uplink.routeDevice dns = some dev ∧
        uplink.wanDevices ≠ [] ∧ dev ∉ uplink.wanDevices ∧ dev ∉ tunnelIfaces := by
  unfold pinnedDevice privateDnsDevice
  grind

theorem forward_baseRules : (baseRules trackIps {}).chain .filterForward = [] := by
  unfold baseRules
  rw [Appends.chain_foldl appends_allowTrackIp]
  simp only [List.append_eq_nil_iff, List.flatMap_eq_nil_iff]
  refine ⟨rfl, fun ip _ => ?_⟩
  cases ip <;> rfl

def ingressRejects (wanDevices tunnels : List String) : Chain :=
  (wanDevices ++ tunnels).flatMap fun dev =>
    wanDevices.flatMap fun wan => [((Rule.reject .inet).iif dev).oif wan]

def ingressReturns (wanDevices tunnels : List String) : Chain :=
  (wanDevices ++ tunnels).flatMap fun dev => [(Rule.return_ .inet).iif dev]

theorem forward_untrustedIngressReturns :
    (untrustedIngressReturns {} wanDevices tunnels).chain .filterForward =
      ingressRejects wanDevices tunnels ++ ingressReturns wanDevices tunnels := by
  have hpush (dev : String) (wan : String) :=
    appends_pushForward (((Rule.reject .inet).iif dev).oif wan)
  unfold untrustedIngressReturns
  rw [Appends.chain_foldl fun dev => appends_pushForward _,
    Appends.chain_foldl fun dev => Appends.foldl (hpush dev) _]
  simp only [Appends.chain_foldl (hpush _), chain_empty, List.nil_append]
  rfl

theorem decidesIf_ingressRejects :
    (ingressRejects wanDevices tunnels).DecidesIf k .reject
      (ArrivesOn k (wanDevices ++ tunnels) ∧ LeavesOn k wanDevices) := by
  have hrule (dev wan : String) :
      Chain.DecidesIf [((Rule.reject .inet).iif dev).oif wan] k .reject
        (k.iif = some dev ∧ k.oif = some wan) := by
    refine decidesIf_of_plain (v := .reject) ?_ rfl ?_
    · simp
    · simp
  refine decidesIf_congr (decidesIf_flatMap _ fun dev _ =>
    decidesIf_flatMap _ fun wan _ => hrule dev wan) ?_
  simp only [ArrivesOn, LeavesOn]
  constructor
  · rintro ⟨dev, hdev, wan, hwan, hi, ho⟩
    exact ⟨⟨dev, hdev, hi⟩, wan, hwan, ho⟩
  · rintro ⟨⟨dev, hdev, hi⟩, wan, hwan, ho⟩
    exact ⟨dev, hdev, wan, hwan, hi, ho⟩

theorem decidesIf_ingressReturns :
    (ingressReturns wanDevices tunnels).DecidesIf k .return_
      (ArrivesOn k (wanDevices ++ tunnels)) := by
  refine decidesIf_flatMap _ fun dev _ => ?_
  refine decidesIf_of_plain (v := .return_) ?_ rfl ?_
  · simp
  · simp

theorem decidesIf_bypassMark :
    ((bypassMarkForwardAccept {}).chain .filterForward).DecidesIf k .accept
      (k.mark = exemptFwmark) := by
  refine decidesIf_of_plain (v := .accept) ?_ rfl ?_
  · simp [bypassMarkForwardAccept]
  · simp [bypassMarkForwardAccept]

def dnsForward (p : FirewallPolicy) (uplink : Uplink) (dns : IpAddr) : Chain :=
  match pinnedDevice dns uplink (tunnelInterfaces p) with
  | some dev => (allowDnsServerOn {} dns dev).chain .filterForward
  | none =>
    if p.isConnected && !isPrivateDns dns then
      (allowDnsServer {} dns none).chain .filterForward
    else []

theorem forward_allowDnsWhileDown (hp : p.isConnected = false)
    (uplink : Uplink) (dns : IpAddr) :
    (allowDnsWhileDown uplink (tunnelInterfaces p) {} dns).chain .filterForward =
      dnsForward p uplink dns := by
  rw [allowDnsWhileDown_eq, dnsForward]
  cases pinnedDevice dns uplink (tunnelInterfaces p) with
  | some dev => rfl
  | none =>
    simp only [hp, Bool.false_and, Bool.false_eq_true, if_false]
    rfl

theorem forward_allowDnsServer_some (iface : String) :
    (allowDnsServer {} dns (some iface)).chain .filterForward = [] := rfl

theorem forward_allowDnsWhileConnected (peerEndpoints : List AllowedEndpoint)
    (tunnel : TunnelInterface) (allowLan : Bool) (dnsConfig : ResolvedDnsConfig)
    (allowedEndpoints : List AllowedEndpoint) (exemptions : List InboundExemption)
    (uplink : Uplink) (dns : IpAddr) :
    (allowDnsWhileConnected uplink tunnel {} dns).chain .filterForward =
      dnsForward (.connected peerEndpoints tunnel allowLan dnsConfig allowedEndpoints
        exemptions) uplink dns := by
  rw [allowDnsWhileConnected_eq, dnsForward, tunnelInterfaces]
  cases pinnedDevice dns uplink (tunnel.innerMetadatas.map TunnelMetadata.interface) with
  | some dev => rfl
  | none =>
    cases hpriv : isPrivateDns dns with
    | false => rfl
    | true =>
      simp only [FirewallPolicy.isConnected, if_true, Appends.chain_foldl fun m : TunnelMetadata =>
          appends_allowDnsServer dns (some m.interface)]
      simp [forward_allowDnsServer_some, -RuleSet.chain]

theorem decidesIf_forward_allowDnsServerOn (dev : String) (k : Packet) :
    ((allowDnsServerOn {} dns dev).chain .filterForward).DecidesIf k .accept
      (ToDns k ∧ k.daddr = dns ∧ k.oif = some dev) := by
  refine decidesIf_of_plain (v := .accept) ?_ rfl ?_
  · simp [allowDnsServerOn, dnsPairs]
  · have hfam : k.daddr = dns → (familyOf dns).covers k.family = true :=
      familyOf_covers_of_daddr
    simp only [allowDnsServerOn, dnsPairs, pushForward, pushOutput, RuleSet.chain,
      List.foldl_cons, List.foldl_nil, List.nil_append, List.cons_append, ToDns]
    rw [dport?_eq_some_iff]
    simp [AddrMatch.holds]
    tauto

theorem decidesIf_forward_allowDnsServer :
    ((allowDnsServer {} dns none).chain .filterForward).DecidesIf k .accept
      (ToDns k ∧ k.daddr = dns) := by
  refine decidesIf_of_plain (v := .accept) ?_ rfl ?_
  · simp [allowDnsServer, allowDnsServerInner, dnsServerRule, dnsPairs]
  · have hfam : k.daddr = dns → (familyOf dns).covers k.family = true :=
      familyOf_covers_of_daddr
    rw [ToDns, dport?_eq_some_iff]
    simp [allowDnsServer, allowDnsServerInner, dnsServerRule, dnsPairs, AddrMatch.holds]
    tauto

/-- The section `f dns` accepts what goes to the resolver `dns` on the device it
is pinned to, or on any interface when the policy lets it through there, as far
as the ports are those of `port`. -/
def ResolverSection (port : Prop) (p : FirewallPolicy) (uplink : Uplink) (k : Packet)
    (f : IpAddr → Chain) : Prop :=
  ∀ dns, (f dns).DecidesIf k .accept
    (port ∧ k.daddr = dns ∧
      ((∃ dev ∈ k.oif, pinnedDevice dns uplink (tunnelInterfaces p) = some dev) ∨
        (p.isConnected = true ∧ isPrivateDns dns = false)))

theorem decidesIf_resolvers {port : Prop}
    {k : Packet} {f : IpAddr → Chain} (hf : ResolverSection port p uplink k f) :
    Chain.DecidesIf (p.nonTunnelResolvers.flatMap f) k .accept
      (port ∧ (ToPinnedResolver p uplink k ∨ ToPublicResolver p k)) := by
  refine decidesIf_congr (decidesIf_flatMap _ fun dns _ => hf dns) ?_
  simp only [ToPinnedResolver, ToPublicResolver, PinnedResolver, pinnedDevice_eq_some_iff]
  constructor
  · rintro ⟨dns, hmem, hport, rfl, ⟨dev, hdev, hpin⟩ | ⟨hconn, hpub⟩⟩
    · exact ⟨hport, .inl ⟨dev, hdev, hmem, hpin⟩⟩
    · exact ⟨hport, .inr ⟨hconn, hmem, hpub⟩⟩
  · rintro ⟨hport, ⟨dev, hdev, hmem, hpin⟩ | ⟨hconn, hmem, hpub⟩⟩
    · exact ⟨k.daddr, hmem, hport, rfl, .inl ⟨dev, hdev, hpin⟩⟩
    · exact ⟨k.daddr, hmem, hport, rfl, .inr ⟨hconn, hpub⟩⟩

theorem resolverSection_dnsForward (p : FirewallPolicy) (uplink : Uplink) (k : Packet) :
    ResolverSection (ToDns k) p uplink k (dnsForward p uplink) := by
  intro dns
  unfold dnsForward
  cases hpin : pinnedDevice dns uplink (tunnelInterfaces p) with
  | some dev =>
    have hpriv := ((pinnedDevice_eq_some_iff _ _ _ _).1 hpin).1
    refine decidesIf_congr (decidesIf_forward_allowDnsServerOn dns dev k) ?_
    simp [hpriv]
  | none =>
    by_cases hpub : p.isConnected = true ∧ isPrivateDns dns = false
    · simp only [hpub.1, hpub.2, Bool.not_false, Bool.and_true, if_true]
      exact decidesIf_congr (decidesIf_forward_allowDnsServer dns k) (by simp)
    · have hcond : ¬ (p.isConnected && !isPrivateDns dns) = true := by
        simpa using hpub
      simp only [if_neg hcond]
      exact decidesIf_nil k .accept (by simp [hpub])

theorem decidesIf_forward_allowTunnel :
    Chain.DecidesIf (tunnels.flatMap fun d => (allowTunnel {} d).chain .filterForward) k
      .accept (LeavesOn k tunnels) := by
  refine decidesIf_flatMap _ fun d _ => ?_
  refine decidesIf_of_plain (v := .accept) ?_ rfl ?_
  · simp [allowTunnel]
  · simp [allowTunnel]

theorem decidesIf_forward_blockDns :
    ((blockDns {}).chain .filterForward).DecidesIf k .reject (ToDns k) := by
  refine decidesIf_of_plain (v := .reject) ?_ rfl ?_
  · simp [blockDns]
  · rw [ToDns, dport?_eq_some_iff]
    simp [blockDns]

theorem family_of_contains_daddr {k : Packet} {n : IpNetwork} (h : n.contains k.daddr = true) :
    k.family = n.family :=
  k.family_daddr ▸ IpNetwork.family_of_contains h

theorem decidesIf_forward_allowLanTraffic (allowLan : Bool) (k : Packet) :
    Chain.DecidesIf (if allowLan then (allowLanTraffic {}).chain .filterForward else [])
      k .return_ (allowLan = true ∧ InLan k) := by
  cases allowLan with
  | false => exact decidesIf_nil k .return_ (by simp)
  | true =>
    refine decidesIf_of_plain (v := .return_) ?_ rfl ?_
    · simp [allowLanTraffic, lanNetsV4, lanNetsV6]
    · simp only [InLan, lanNetsV4, lanNetsV6, allowLanTraffic, pushForward, pushOutput,
        RuleSet.chain, if_true, true_and, List.foldl_cons, List.foldl_nil,
        List.nil_append, List.cons_append, List.mem_cons, List.not_mem_nil, or_false,
        exists_eq_or_imp, exists_eq_left]
      simp only [Rule.Applies, Match.holds_iff, AddrMatch.holds]
      simp
      grind [→ family_of_contains_daddr, IpNetwork.family]

theorem forward_compileWith (p : FirewallPolicy) (uplink : Uplink) :
    (compileWith trackIps p uplink).filter.forward =
      ingressRejects uplink.wanDevices (tunnelInterfaces p) ++
      (ingressReturns uplink.wanDevices (tunnelInterfaces p) ++
      ((bypassMarkForwardAccept {}).chain .filterForward ++
      (p.nonTunnelResolvers.flatMap (dnsForward p uplink) ++
      ((tunnelInterfaces p).flatMap (fun d => (allowTunnel {} d).chain .filterForward) ++
      ((blockDns {}).chain .filterForward ++
      ((if p.allowLan then (allowLanTraffic {}).chain .filterForward else []) ++
      (finalReject {}).chain .filterForward)))))) := by
  show (compileWith trackIps p uplink).chain .filterForward = _
  have hend (ep : AllowedEndpoint) : (allowEndpoint {} ep).chain .filterForward = [] := rfl
  have hmangle (exs : List InboundExemption) :
      (exemptionMangle {} exs uplink.wanDevices).chain .filterForward = [] :=
    congrArg FilterRules.forward (filter_exemptionMangle {} exs uplink.wanDevices)
  have hex (exs : List InboundExemption) :
      (exemptionFilterAccepts {} exs).chain .filterForward = [] := by
    unfold exemptionFilterAccepts
    cases exs <;> rfl
  have hdnsHatch : (dnsEscapeHatch {}).chain .filterForward = [] := rfl
  have hntp : (ntpEscapeHatch {}).chain .filterForward = [] := rfl
  have hprobe : (probeEscapeHatch {}).chain .filterForward = [] := rfl
  have hnil {α : Type} (l : List α) : (l.flatMap fun _ => ([] : Chain)) = [] := by simp
  rw [chain_compileWith]
  cases p with
  | connecting pe t lan dns ae x y exs =>
    have hdns (d : IpAddr) := forward_allowDnsWhileDown
      (p := .connecting pe t lan dns ae x y exs) rfl uplink d
    have hifaces : (tunnelMetadatas t).map TunnelMetadata.interface =
      tunnelInterfaces (.connecting pe t lan dns ae x y exs) := rfl
    rw [chain_compileArm_connecting, chain_head, forward_baseRules, forward_untrustedIngressReturns]
    simp only [hend, hmangle, hex, hdnsHatch, hntp, hprobe, hnil, hifaces, hdns,
      List.append_assoc, List.append_nil, List.nil_append]
    rw [← hifaces, List.flatMap_map]
    rfl
  | connected pe t lan dns ae exs =>
    have hdns (d : IpAddr) :=
      forward_allowDnsWhileConnected pe t lan dns ae exs uplink d
    have htunnel (m : TunnelMetadata) :=
      chain_allowTunnelDevice (c := .filterForward) (by decide) lan {} m
    rw [chain_compileArm_connected, chain_head, forward_baseRules, forward_untrustedIngressReturns]
    simp only [hend, hmangle, hex, hprobe, hnil, hdns, htunnel,
      forward_allowDnsServer_some, List.append_assoc, List.append_nil, List.nil_append]
    rw [show tunnelInterfaces (.connected pe t lan dns ae exs) =
      t.innerMetadatas.map TunnelMetadata.interface from rfl, List.flatMap_map]
    rfl
  | blocked lan ae servers =>
    have hdns (d : IpAddr) := forward_allowDnsWhileDown (p := .blocked lan ae servers) rfl uplink d
    rw [chain_compileArm_blocked, chain_head, forward_baseRules, forward_untrustedIngressReturns]
    simp only [hend, hdnsHatch, hntp, hprobe, hnil, List.append_assoc,
      List.append_nil, List.nil_append]
    rw [show tunnelInterfaces (.blocked lan ae servers) = [] from rfl] at hdns ⊢
    simp only [hdns, List.flatMap_nil, List.nil_append]
    rfl

/-- The compiled chain decides every packet as `forwardVerdict` says, whatever
the rate limits answer. -/
theorem run_forward (p : FirewallPolicy) (uplink : Uplink) (k : Packet) (ω : ℕ → Bool) :
    (compileWith trackIps p uplink).filter.forward.run ω k =
      (some (forwardVerdict p uplink k), k) := by
  rw [forward_compileWith]
  have hlan := (decidesIf_forward_allowLanTraffic p.allowLan k).append (run_reject_inet k)
  have hblock := (decidesIf_forward_blockDns k).append hlan
  have htunnel := (decidesIf_forward_allowTunnel (tunnelInterfaces p) k).append hblock
  have hdns := (decidesIf_resolvers (resolverSection_dnsForward p uplink k)).append htunnel
  have hmark := (decidesIf_bypassMark k).append hdns
  have hret := (decidesIf_ingressReturns uplink.wanDevices (tunnelInterfaces p) k).append hmark
  have hrej := (decidesIf_ingressRejects uplink.wanDevices (tunnelInterfaces p) k).append hret ω
  refine hrej.trans ?_
  unfold forwardVerdict
  grind

/-- An unmarked packet that leaves on a WAN device which is no tunnel device:
what can become of it. -/
theorem forwardVerdict_of_leavesOn_wan {k : Packet}
    (hdisj : ∀ d ∈ uplink.wanDevices, d ∉ tunnelInterfaces p)
    (hmark : k.mark ≠ exemptFwmark) (hoif : LeavesOn k uplink.wanDevices) :
    forwardVerdict p uplink k =
      if ArrivesOn k (uplink.wanDevices ++ tunnelInterfaces p) then .reject
      else if ToDns k then if ToPublicResolver p k then .accept else .reject
      else if p.allowLan = true ∧ InLan k then .return_
      else .reject := by
  have htunnel : ¬ LeavesOn k (tunnelInterfaces p) := by
    rintro ⟨d, hd, hk⟩
    obtain ⟨w, hw, hkw⟩ := hoif
    obtain rfl := Option.some.inj (hk.symm.trans hkw)
    exact hdisj d hw hd
  have hpinned : ¬ ToPinnedResolver p uplink k := by
    rintro ⟨dev, hdev, -, -, -, -, hnot, -⟩
    obtain ⟨w, hw, hkw⟩ := hoif
    obtain rfl := Option.some.inj (hdev.symm.trans hkw)
    exact hnot hw
  unfold forwardVerdict
  simp only [hoif, hmark, htunnel, hpinned, if_true, if_false, and_false]
  grind

/-- FORWARD is a fail-closed kill-switch. -/
theorem forward_fail_closed (trackIps : List IpAddr) (p : FirewallPolicy) (uplink : Uplink)
    (k : Packet) (ω : ℕ → Bool) :
    (compileWith trackIps p uplink).filter.forward.run ω k =
        (some (forwardVerdict p uplink k), k) ∧
      ((∀ d ∈ uplink.wanDevices, d ∉ tunnelInterfaces p) → k.mark ≠ exemptFwmark →
        LeavesOn k uplink.wanDevices →
        (forwardVerdict p uplink k = .accept ↔
          ¬ ArrivesOn k (uplink.wanDevices ++ tunnelInterfaces p) ∧ ToDns k ∧
            ToPublicResolver p k) ∧
        (forwardVerdict p uplink k = .return_ ↔
          ¬ ArrivesOn k (uplink.wanDevices ++ tunnelInterfaces p) ∧ ¬ ToDns k ∧
            p.allowLan = true ∧ InLan k) ∧
        forwardVerdict p uplink k ≠ .drop_) := by
  refine ⟨run_forward trackIps p uplink k ω, fun hdisj hmark hoif => ?_⟩
  rw [forwardVerdict_of_leavesOn_wan hdisj hmark hoif]
  grind

def lanClientPacket : Packet where
  iif := some "br-lan"
  oif := some "wan"
  addrs := .v4 ⟨192, 168, 1, 2⟩ ⟨1, 1, 1, 1⟩
  transport := .tcp 40000 443
  mark := 0
  ctNew := true
  ctMark := 0
  skuid := none

theorem forward_fail_closed_lanClientPacket :
    LeavesOn lanClientPacket ["wan"] ∧
      forwardVerdict (.blocked true [] []) ⟨["wan"], fun _ => none⟩ lanClientPacket ≠ .accept := by
  have h := forward_fail_closed [] (.blocked true [] []) ⟨["wan"], fun _ => none⟩
    lanClientPacket fun _ => true
  obtain ⟨haccept, -, -⟩ := h.2 (by decide) (by decide) (by decide)
  exact ⟨by decide, fun hv => absurd (haccept.1 hv).2.1 (by decide)⟩

end NymFirewall
