import NymVpn.Firewall.Compile

/-!
# What a helper emits

Every helper of the compiler acts on a rule set as appending what it emits onto the empty
one, so a chain of a compiled policy is the concatenation of its helpers' sections.
-/

namespace NymFirewall

open Net

inductive ChainId where
  | filterInput
  | filterOutput
  | filterForward
  | manglePrerouting
  | mangleOutput
deriving DecidableEq

namespace RuleSet

def chain (rs : RuleSet) : ChainId → Chain
  | .filterInput => rs.filter.input
  | .filterOutput => rs.filter.output
  | .filterForward => rs.filter.forward
  | .manglePrerouting => rs.mangle.prerouting
  | .mangleOutput => rs.mangle.output

theorem ext_chain {rs rs' : RuleSet} (h : ∀ c, rs.chain c = rs'.chain c) : rs = rs' := by
  obtain ⟨⟨i, o, f⟩, ⟨p, m⟩⟩ := rs
  obtain ⟨⟨i', o', f'⟩, ⟨p', m'⟩⟩ := rs'
  have hi : i = i' := h .filterInput
  have ho : o = o' := h .filterOutput
  have hf : f = f' := h .filterForward
  have hp : p = p' := h .manglePrerouting
  have hm : m = m' := h .mangleOutput
  subst hi ho hf hp hm
  rfl

instance : Append RuleSet where
  append rs rs' :=
    { filter :=
        { input := rs.filter.input ++ rs'.filter.input
          output := rs.filter.output ++ rs'.filter.output
          forward := rs.filter.forward ++ rs'.filter.forward }
      mangle :=
        { prerouting := rs.mangle.prerouting ++ rs'.mangle.prerouting
          output := rs.mangle.output ++ rs'.mangle.output } }

variable (r : Rule) (rs : RuleSet) {f g : RuleSet → RuleSet} {α : Type*}

@[simp] theorem chain_append (rs' : RuleSet) (c : ChainId) :
    (rs ++ rs').chain c = rs.chain c ++ rs'.chain c := by
  cases c <;> rfl

@[simp] theorem chain_empty (c : ChainId) : ({} : RuleSet).chain c = [] := by
  cases c <;> rfl

theorem append_assoc (a b c : RuleSet) : a ++ b ++ c = a ++ (b ++ c) :=
  ext_chain fun _ => by simp

@[simp] theorem append_empty : rs ++ ({} : RuleSet) = rs :=
  ext_chain fun _ => by simp

/-- The transformation only appends rules, and they do not depend on those
already there. -/
def Appends (f : RuleSet → RuleSet) : Prop := ∀ rs, f rs = rs ++ f {}

theorem Appends.chain_eq {f : RuleSet → RuleSet} (h : Appends f) (rs : RuleSet)
    (c : ChainId) : (f rs).chain c = rs.chain c ++ (f {}).chain c := by
  rw [h rs, chain_append]

theorem appends_id : Appends fun rs => rs := fun rs => by simp

theorem Appends.comp (hg : Appends g) (hf : Appends f) : Appends fun rs => g (f rs) := by
  intro rs
  show g (f rs) = rs ++ g (f {})
  rw [hg, hf, hg (f {}), append_assoc]

theorem Appends.ite (hf : Appends f) (hg : Appends g)
    (p : Prop) [Decidable p] : Appends fun rs => if p then f rs else g rs := by
  by_cases h : p
  · simpa [h] using hf
  · simpa [h] using hg

theorem Appends.foldl {f : RuleSet → α → RuleSet} (h : ∀ a, Appends fun rs => f rs a) (l : List α) :
    Appends fun rs => l.foldl f rs := by
  induction l with
  | nil => exact appends_id
  | cons a l ih => exact ih.comp (h a)

theorem Appends.chain_foldl {f : RuleSet → α → RuleSet}
    (h : ∀ a, Appends fun rs => f rs a) (l : List α) (rs : RuleSet) (c : ChainId) :
    (l.foldl f rs).chain c = rs.chain c ++ l.flatMap fun a => (f {} a).chain c := by
  induction l generalizing rs with
  | nil => simp
  | cons a l ih =>
    rw [List.foldl_cons, ih, (h a).chain_eq rs c, List.flatMap_cons, List.append_assoc]

theorem appends_pushInput : Appends fun rs => rs.pushInput r :=
  fun rs => ext_chain fun c => by
    rw [chain_append]
    cases c <;> simp [chain, pushInput]

theorem appends_pushOutput : Appends fun rs => rs.pushOutput r :=
  fun rs => ext_chain fun c => by
    rw [chain_append]
    cases c <;> simp [chain, pushOutput]

theorem appends_pushForward : Appends fun rs => rs.pushForward r :=
  fun rs => ext_chain fun c => by
    rw [chain_append]
    cases c <;> simp [chain, pushForward]

theorem appends_pushManglePrerouting : Appends fun rs => rs.pushManglePrerouting r :=
  fun rs => ext_chain fun c => by
    rw [chain_append]
    cases c <;> simp [chain, pushManglePrerouting]

theorem appends_pushMangleOutput : Appends fun rs => rs.pushMangleOutput r :=
  fun rs => ext_chain fun c => by
    rw [chain_append]
    cases c <;> simp [chain, pushMangleOutput]

end RuleSet

open RuleSet

theorem appends_allowTrackIp (ip : IpAddr) : Appends fun rs => allowTrackIp rs ip := by
  cases ip with
  | v4 a | v6 a => exact appends_pushOutput _

variable (rs : RuleSet) (exemptions : List InboundExemption) (wanDevices : List String)
  (dns : IpAddr) (uplink : Uplink)

theorem appends_exemptionFilterAccepts : Appends fun rs => exemptionFilterAccepts rs exemptions :=
  appends_id.ite ((appends_pushOutput _).comp (appends_pushInput _)) _

theorem appends_bypassMarkForwardAccept : Appends bypassMarkForwardAccept :=
  appends_pushForward _

theorem appends_untrustedIngressReturns (tunnels : List String) :
    Appends fun rs => untrustedIngressReturns rs wanDevices tunnels := by
  refine (Appends.foldl ?_ _).comp (Appends.foldl ?_ _)
  · exact fun dev => appends_pushForward _
  · exact fun dev => Appends.foldl (fun wan => appends_pushForward _) _

theorem appends_exemptionMangleRules :
    Appends fun rs => exemptionMangleRules rs exemptions wanDevices := by
  refine (appends_pushMangleOutput _).comp <| (appends_pushManglePrerouting _).comp <|
    (Appends.foldl ?_ _).comp (appends_pushManglePrerouting _)
  exact fun wan => Appends.foldl (fun ex => appends_pushManglePrerouting _) _

theorem appends_exemptionMangle : Appends fun rs => exemptionMangle rs exemptions wanDevices :=
  appends_id.ite (appends_id.ite (appends_exemptionMangleRules _ _) _) _

theorem part_foldl {α β : Type*} {g : RuleSet → β} {f : RuleSet → α → RuleSet}
    (h : ∀ rs a, g (f rs a) = g rs) (l : List α) (rs : RuleSet) : g (l.foldl f rs) = g rs := by
  induction l generalizing rs with
  | nil => rfl
  | cons a l ih => rw [List.foldl_cons, ih, h]

theorem filter_exemptionMangle : (exemptionMangle rs exemptions wanDevices).filter = rs.filter := by
  have hloop (rs : RuleSet) : (wanDevices.foldl (fun rs wan =>
      exemptions.foldl (fun rs ex => rs.pushManglePrerouting
        (((((Rule.setCtMark .inet exemptFwmark).iif wan).proto
          ex.proto.toProto).dport ex.dport).ctNew)) rs) rs).filter = rs.filter := by
    refine part_foldl ?_ wanDevices rs
    intro rs wan
    refine part_foldl ?_ exemptions rs
    intro rs ex
    rfl
  unfold exemptionMangle
  split
  · rfl
  · split
    · rfl
    · exact hloop _

theorem appends_allowEndpoint (ep : AllowedEndpoint) : Appends fun rs => allowEndpoint rs ep :=
  appends_pushOutput _

theorem appends_allowDnsServerInner (iface : Option String) (clients : DnsAccess) :
    Appends fun rs => allowDnsServerInner rs dns iface clients := by
  have hout (uid : Option UInt32) := Appends.foldl
    (fun pair => appends_pushOutput (dnsServerRule dns iface uid pair)) dnsPairs
  have hfwd := Appends.foldl (fun proto : Proto => appends_pushForward
    ((((Rule.accept (familyOf dns)).proto proto).daddr dns).dport dnsPort))
    [Proto.udp, .tcp]
  exact (hfwd.comp (hout _)).ite (hout _) _

theorem appends_allowDnsServer (iface : Option String) :
    Appends fun rs => allowDnsServer rs dns iface :=
  appends_allowDnsServerInner _ _ _

def pinnedDevice (dns : IpAddr) (uplink : Uplink) (tunnelIfaces : List String) : Option String :=
  if isPrivateDns dns then privateDnsDevice dns uplink tunnelIfaces else none

theorem appends_allowDnsServerOn (dev : String) : Appends fun rs => allowDnsServerOn rs dns dev :=
  (Appends.foldl (fun _ => appends_pushForward _) _).comp
    (Appends.foldl (fun _ => appends_pushOutput _) _)

variable (tunnelIfaces : List String)

theorem allowPrivateDnsServer_eq :
    allowPrivateDnsServer rs dns uplink tunnelIfaces =
      match pinnedDevice dns uplink tunnelIfaces with
      | none => (rs, false)
      | some dev => (allowDnsServerOn rs dns dev, true) := by
  unfold allowPrivateDnsServer pinnedDevice
  cases isPrivateDns dns <;> rfl

theorem appends_allowTunnel (iface : String) : Appends fun rs => allowTunnel rs iface :=
  (appends_pushForward _).comp (appends_pushOutput _)

theorem appends_cve201914899Protection (m : TunnelMetadata) :
    Appends fun rs => cve201914899Protection rs m :=
  Appends.foldl (fun _ => appends_pushInput _) _

theorem chain_cve201914899Protection {c : ChainId} (hc : c ≠ .filterInput) (rs : RuleSet)
    (m : TunnelMetadata) : (cve201914899Protection rs m).chain c = rs.chain c := by
  unfold cve201914899Protection
  refine part_foldl (g := fun rs => rs.chain c) ?_ m.ips rs
  intro rs ip
  cases c <;> first | rfl | exact absurd rfl hc

theorem appends_blockDns : Appends blockDns :=
  Appends.foldl (fun _ => (appends_pushForward _).comp (appends_pushOutput _)) _

theorem appends_ntpEscapeHatch : Appends ntpEscapeHatch := appends_pushOutput _

theorem appends_dnsEscapeHatch : Appends dnsEscapeHatch :=
  Appends.foldl (fun _ => appends_pushOutput _) _

theorem appends_probeEscapeHatch : Appends probeEscapeHatch :=
  (appends_pushOutput _).comp (appends_pushOutput _)

theorem appends_allowLanTraffic : Appends allowLanTraffic :=
  (appends_pushOutput _).comp <| (appends_pushOutput _).comp <|
    (Appends.foldl (fun _ => (appends_pushForward _).comp (appends_pushOutput _)) _).comp
    (Appends.foldl (fun _ => (appends_pushForward _).comp (appends_pushOutput _)) _)

theorem allowDnsWhileDown_eq :
    allowDnsWhileDown uplink tunnelIfaces rs dns = match pinnedDevice dns uplink tunnelIfaces with
      | none => allowDnsServerDaemonOnly rs dns
      | some dev => allowDnsServerOn rs dns dev := by
  unfold allowDnsWhileDown
  rw [allowPrivateDnsServer_eq]
  cases pinnedDevice dns uplink tunnelIfaces <;> rfl

theorem appends_allowDnsWhileDown (tunnelIfaces : List String) (dns : IpAddr) :
    Appends fun rs => allowDnsWhileDown uplink tunnelIfaces rs dns := by
  simp only [allowDnsWhileDown_eq]
  cases pinnedDevice dns uplink tunnelIfaces with
  | none => exact appends_allowDnsServerInner _ _ _
  | some dev => exact appends_allowDnsServerOn dns dev

variable (tunnel : TunnelInterface)

theorem allowDnsWhileConnected_eq :
    allowDnsWhileConnected uplink tunnel rs dns =
      match pinnedDevice dns uplink (tunnel.innerMetadatas.map TunnelMetadata.interface) with
      | some dev => allowDnsServerOn rs dns dev
      | none =>
        if isPrivateDns dns then
          tunnel.innerMetadatas.foldl (fun rs m => allowDnsServer rs dns (some m.interface)) rs
        else allowDnsServer rs dns none := by
  unfold allowDnsWhileConnected
  simp only [allowPrivateDnsServer_eq]
  cases pinnedDevice dns uplink (tunnel.innerMetadatas.map TunnelMetadata.interface) <;> rfl

theorem appends_allowDnsWhileConnected (tunnel : TunnelInterface) (dns : IpAddr) :
    Appends fun rs => allowDnsWhileConnected uplink tunnel rs dns := by
  simp only [allowDnsWhileConnected_eq]
  cases pinnedDevice dns uplink (tunnel.innerMetadatas.map TunnelMetadata.interface) with
  | none =>
    exact (Appends.foldl (fun m => appends_allowDnsServer _ _) _).ite (appends_allowDnsServer _ _) _
  | some dev => exact appends_allowDnsServerOn dns dev

def tunnelMetadatas (tunnel : Option TunnelInterface) : List TunnelMetadata :=
  tunnel.toList.flatMap TunnelInterface.innerMetadatas

variable (c : ChainId)

theorem chain_allowTunnelIfAny (tunnel : Option TunnelInterface) :
    (allowTunnelIfAny rs tunnel).chain c = rs.chain c ++
      (tunnelMetadatas tunnel).flatMap fun m => (allowTunnel {} m.interface).chain c := by
  cases tunnel with
  | none => simp [allowTunnelIfAny, tunnelMetadatas]
  | some t =>
    rw [allowTunnelIfAny,
      Appends.chain_foldl fun m : TunnelMetadata => appends_allowTunnel m.interface]
    simp [tunnelMetadatas]

variable (allowLan : Bool)

theorem chain_ite_allowLanTraffic :
    (if allowLan then allowLanTraffic rs else rs).chain c =
      rs.chain c ++ if allowLan then (allowLanTraffic {}).chain c else [] := by
  cases allowLan
  · simp
  · exact appends_allowLanTraffic.chain_eq rs c

variable (peerEndpoints : List AllowedEndpoint) (dnsConfig : ResolvedDnsConfig)
  (allowedEndpoints : List AllowedEndpoint)

theorem chain_compileArm_connecting
    (tunnel : Option TunnelInterface) (entry exit : AllowedTunnelTraffic) :
    (compileArm (.connecting peerEndpoints tunnel allowLan dnsConfig allowedEndpoints
      entry exit exemptions) uplink rs).chain c =
      rs.chain c ++
      (peerEndpoints ++ allowedEndpoints).flatMap (fun ep => (allowEndpoint {} ep).chain c) ++
      dnsConfig.nonTunnelConfig.flatMap (fun dns => (allowDnsWhileDown uplink
        ((tunnelMetadatas tunnel).map TunnelMetadata.interface) {} dns).chain c) ++
      (tunnelMetadatas tunnel).flatMap (fun m => (allowTunnel {} m.interface).chain c) ++
      (exemptionFilterAccepts {} exemptions).chain c ++
      (dnsEscapeHatch {}).chain c ++ (blockDns {}).chain c ++
      (ntpEscapeHatch {}).chain c ++ (probeEscapeHatch {}).chain c ++
      (if allowLan then (allowLanTraffic {}).chain c else []) ++
      (exemptionMangle {} exemptions uplink.wanDevices).chain c := by
  unfold compileArm
  rw [(appends_exemptionMangle _ _).chain_eq, chain_ite_allowLanTraffic,
    appends_probeEscapeHatch.chain_eq, appends_ntpEscapeHatch.chain_eq,
    appends_blockDns.chain_eq, appends_dnsEscapeHatch.chain_eq,
    (appends_exemptionFilterAccepts _).chain_eq, chain_allowTunnelIfAny,
    Appends.chain_foldl (appends_allowDnsWhileDown _ _),
    Appends.chain_foldl appends_allowEndpoint,
    Appends.chain_foldl appends_allowEndpoint, List.flatMap_append]
  simp only [tunnelMetadatas, List.append_assoc]

theorem appends_allowTunnelDevice (allowLan : Bool) (m : TunnelMetadata) :
    Appends fun rs => allowTunnelDevice allowLan rs m :=
  ((appends_cve201914899Protection m).comp (appends_allowTunnel m.interface)).ite
    (appends_allowTunnel m.interface) _

theorem chain_allowTunnelDevice {c : ChainId} (hc : c ≠ .filterInput) (allowLan : Bool)
    (rs : RuleSet) (m : TunnelMetadata) :
    (allowTunnelDevice allowLan rs m).chain c = (allowTunnel rs m.interface).chain c := by
  cases allowLan with
  | false => rfl
  | true => exact chain_cve201914899Protection hc _ m

theorem chain_compileArm_connected :
    (compileArm (.connected peerEndpoints tunnel allowLan dnsConfig allowedEndpoints
      exemptions) uplink rs).chain c =
      rs.chain c ++
      (peerEndpoints ++ allowedEndpoints).flatMap (fun ep => (allowEndpoint {} ep).chain c) ++
      dnsConfig.tunnelConfig.flatMap (fun dns => tunnel.innerMetadatas.flatMap fun m =>
        (allowDnsServer {} dns (some m.interface)).chain c) ++
      dnsConfig.nonTunnelConfig.flatMap (fun dns =>
        (allowDnsWhileConnected uplink tunnel {} dns).chain c) ++
      tunnel.innerMetadatas.flatMap (fun m => (allowTunnelDevice allowLan {} m).chain c) ++
      (exemptionFilterAccepts {} exemptions).chain c ++ (blockDns {}).chain c ++
      (probeEscapeHatch {}).chain c ++
      (if allowLan then (allowLanTraffic {}).chain c else []) ++
      (exemptionMangle {} exemptions uplink.wanDevices).chain c := by
  have hserver (dns : IpAddr) (m : TunnelMetadata) :=
    appends_allowDnsServer dns (some m.interface)
  have htunnel : (dnsConfig.tunnelConfig.flatMap fun dns =>
      (tunnel.innerMetadatas.foldl (fun rs m =>
        allowDnsServer rs dns (some m.interface)) {}).chain c) =
      dnsConfig.tunnelConfig.flatMap fun dns => tunnel.innerMetadatas.flatMap fun m =>
        (allowDnsServer {} dns (some m.interface)).chain c := by
    congr 1
    funext dns
    rw [Appends.chain_foldl (hserver dns), chain_empty, List.nil_append]
  unfold compileArm
  rw [(appends_exemptionMangle _ _).chain_eq, chain_ite_allowLanTraffic,
    appends_probeEscapeHatch.chain_eq, appends_blockDns.chain_eq,
    (appends_exemptionFilterAccepts _).chain_eq,
    Appends.chain_foldl (appends_allowTunnelDevice allowLan),
    Appends.chain_foldl (appends_allowDnsWhileConnected _ _),
    Appends.chain_foldl fun dns => Appends.foldl (hserver dns) _, htunnel,
    Appends.chain_foldl appends_allowEndpoint,
    Appends.chain_foldl appends_allowEndpoint, List.flatMap_append]
  simp only [List.append_assoc]

theorem chain_compileArm_blocked (dnsServers : List IpAddr) :
    (compileArm (.blocked allowLan allowedEndpoints dnsServers) uplink rs).chain c =
      rs.chain c ++
      allowedEndpoints.flatMap (fun ep => (allowEndpoint {} ep).chain c) ++
      dnsServers.flatMap (fun dns => (allowDnsWhileDown uplink [] {} dns).chain c) ++
      (dnsEscapeHatch {}).chain c ++ (blockDns {}).chain c ++
      (ntpEscapeHatch {}).chain c ++ (probeEscapeHatch {}).chain c ++
      (if allowLan then (allowLanTraffic {}).chain c else []) := by
  unfold compileArm
  rw [chain_ite_allowLanTraffic, appends_probeEscapeHatch.chain_eq,
    appends_ntpEscapeHatch.chain_eq, appends_blockDns.chain_eq,
    appends_dnsEscapeHatch.chain_eq, Appends.chain_foldl (appends_allowDnsWhileDown _ _),
    Appends.chain_foldl appends_allowEndpoint]

theorem chain_compileWith (trackIps : List IpAddr) (policy : FirewallPolicy) :
    (compileWith trackIps policy uplink).chain c =
      (compileArm policy uplink (bypassMarkForwardAccept (untrustedIngressReturns
        (baseRules trackIps {}) uplink.wanDevices (tunnelInterfaces policy)))).chain c ++
      (finalReject {}).chain c :=
  ((appends_pushForward _).comp (appends_pushOutput _)).chain_eq _ c

theorem chain_head (trackIps : List IpAddr) (wanDevices tunnels : List String)
    (c : ChainId) :
    (bypassMarkForwardAccept (untrustedIngressReturns (baseRules trackIps {})
      wanDevices tunnels)).chain c =
      (baseRules trackIps {}).chain c ++
      (untrustedIngressReturns {} wanDevices tunnels).chain c ++
      (bypassMarkForwardAccept {}).chain c := by
  rw [appends_bypassMarkForwardAccept.chain_eq, (appends_untrustedIngressReturns _ _).chain_eq]

end NymFirewall
