import NymVpn.Firewall.Output
import NymVpn.Netfilter.Conntrack

/-!
# Inbound exemptions

The mangle chains give an exempted flow a mark when it is opened, and the filter chains let
marked packets through. Over any sequence of packets, the flows with the mark are exactly
those opened from a WAN device to an exempt port.
-/

namespace NymFirewall

open Net Netfilter RuleSet Chain

/-! ## A packet on its way -/

namespace RuleSet

def mangleChain (rs : RuleSet) : PacketPath → Chain
  | .toRouter => rs.mangle.prerouting
  | .fromRouter => rs.mangle.output
  | .through => rs.mangle.prerouting

def filterChain (rs : RuleSet) : PacketPath → Chain
  | .toRouter => rs.filter.input
  | .fromRouter => rs.filter.output
  | .through => rs.filter.forward

section Transit

variable {F : Type*} (rs : RuleSet)

def afterMangle (t : Transit F) (k : Packet) : Packet :=
  ((rs.mangleChain t.path).run t.mangleLimits k).2

variable [DecidableEq F]

def conntrack (past : List (Transit F)) : Conntrack F := trackAll rs.afterMangle past

def atFilter (past : List (Transit F)) (t : Transit F) : Packet :=
  let k := t.mangled rs.afterMangle (rs.conntrack past)
  { t.routed with mark := k.mark, ctMark := k.ctMark, ctNew := k.ctNew }

def filterDecision (past : List (Transit F)) (t : Transit F) : Option Decision :=
  ((rs.filterChain t.path).run t.filterLimits (rs.atFilter past t)).1

end Transit

end RuleSet

/-! ## What the policy asks for -/

def InboundExempt (p : FirewallPolicy) (uplink : Uplink) (k : Packet) : Prop :=
  ArrivesOn k uplink.wanDevices ∧ ∃ ex ∈ p.inboundExemptions,
    ex.proto.toProto.holds k.transport = true ∧ k.transport.dport? = some ex.dport

instance (p : FirewallPolicy) (uplink : Uplink) (k : Packet) :
    Decidable (InboundExempt p uplink k) := inferInstanceAs (Decidable (_ ∧ _))

def OpensExempt {F : Type*} (p : FirewallPolicy) (uplink : Uplink) (t : Transit F) : Prop :=
  t.path ≠ .fromRouter ∧ InboundExempt p uplink t.packet

instance {F : Type*} (p : FirewallPolicy) (uplink : Uplink) :
    DecidablePred (OpensExempt (F := F) p uplink) := fun _ => inferInstanceAs (Decidable (_ ∧ _))

def cveDrops : FirewallPolicy → List (String × IpAddr)
  | .connected _ tunnel true .. =>
    tunnel.innerMetadatas.flatMap fun m => m.ips.map fun ip => (m.interface, ip)
  | _ => []

/-- A CVE-2019-14899 drop matches the packet: it goes to a tunnel address and arrives on another
interface. -/
def HitsCveDrop (p : FirewallPolicy) (k : Packet) : Prop :=
  ∃ d ∈ cveDrops p, k.iif ≠ some d.1 ∧ k.daddr = d.2

instance (p : FirewallPolicy) (k : Packet) : Decidable (HitsCveDrop p k) :=
  inferInstanceAs (Decidable (∃ _ ∈ _, _))

/-! ## The chains with few rules -/

def cveDropRule (d : String × IpAddr) : Rule :=
  ((Rule.drop_ (familyOf d.2)).iifNot d.1).daddr d.2

section Quiet

-- On the chains other than OUTPUT and FORWARD most helpers emit nothing.
variable {c : ChainId} (hout : c ≠ .filterOutput) (hfwd : c ≠ .filterForward)

include hout in
theorem quiet_pushOutput (rs : RuleSet) (r : Rule) : (rs.pushOutput r).chain c = rs.chain c := by
  cases c <;> first | rfl | contradiction

include hfwd in
theorem quiet_pushForward (rs : RuleSet) (r : Rule) : (rs.pushForward r).chain c = rs.chain c := by
  cases c <;> first | rfl | contradiction

include hout in
theorem quiet_baseRules (trackIps : List IpAddr) :
    (baseRules trackIps {}).chain c =
      if c = .filterInput then [(Rule.accept .inet).iif "lo"] else [] := by
  have htrack (rs : RuleSet) (ip : IpAddr) : (allowTrackIp rs ip).chain c = rs.chain c := by
    cases ip <;> exact quiet_pushOutput hout _ _
  unfold baseRules
  rw [part_foldl (g := fun rs => rs.chain c) htrack,
    part_foldl (g := fun rs => rs.chain c) fun rs t => quiet_pushOutput hout _ _]
  simp only [quiet_pushOutput hout]
  cases c <;> rfl

include hfwd in
theorem quiet_untrustedIngressReturns (wanDevices tunnels : List String) :
    (untrustedIngressReturns {} wanDevices tunnels).chain c = [] := by
  unfold untrustedIngressReturns
  rw [part_foldl (g := fun rs => rs.chain c) fun rs dev => quiet_pushForward hfwd _ _,
    part_foldl (g := fun rs => rs.chain c) fun rs dev =>
      part_foldl (g := fun rs => rs.chain c) (fun rs wan => quiet_pushForward hfwd _ _) _ _]
  exact chain_empty c

include hout hfwd

theorem quiet_allowDnsServer (dns : IpAddr) (iface : Option String) :
    (allowDnsServer {} dns iface).chain c = [] := by
  cases iface <;> cases c <;> first | rfl | contradiction

theorem quiet_allowDnsServerOn (dns : IpAddr) (dev : String) :
    (allowDnsServerOn {} dns dev).chain c = [] := by
  cases c <;> first | rfl | contradiction

theorem quiet_allowDnsWhileDown (uplink : Uplink) (tunnels : List String) (dns : IpAddr) :
    (allowDnsWhileDown uplink tunnels {} dns).chain c = [] := by
  rw [allowDnsWhileDown_eq]
  split
  · cases c <;> first | rfl | contradiction
  · exact quiet_allowDnsServerOn hout hfwd dns _

theorem quiet_allowDnsWhileConnected (uplink : Uplink) (tunnel : TunnelInterface) (dns : IpAddr) :
    (allowDnsWhileConnected uplink tunnel {} dns).chain c = [] := by
  rw [allowDnsWhileConnected_eq]
  split
  · exact quiet_allowDnsServerOn hout hfwd dns _
  · split
    · rw [Appends.chain_foldl fun m : TunnelMetadata =>
        appends_allowDnsServer dns (some m.interface)]
      simp [quiet_allowDnsServer hout hfwd]
    · exact quiet_allowDnsServer hout hfwd dns none

theorem quiet_allowTunnel (iface : String) : (allowTunnel {} iface).chain c = [] := by
  cases c <;> first | rfl | contradiction

theorem quiet_allowTunnelDevice (allowLan : Bool) (m : TunnelMetadata) :
    (allowTunnelDevice allowLan {} m).chain c =
      if c = .filterInput ∧ allowLan = true then m.ips.map fun ip => cveDropRule (m.interface, ip)
      else [] := by
  have hallow := quiet_allowTunnel hout hfwd m.interface
  by_cases hc : c = .filterInput
  · subst hc
    cases allowLan with
    | false => exact hallow
    | true =>
      show (cve201914899Protection (allowTunnel {} m.interface) m).chain .filterInput = _
      unfold cve201914899Protection
      rw [Appends.chain_foldl fun ip => appends_pushInput _, hallow]
      simp [RuleSet.chain, pushInput, cveDropRule, List.map_eq_flatMap]
  · rw [chain_allowTunnelDevice hc, hallow, if_neg fun h => hc h.1]

/-- What is left of the chain: the loopback accept and the CVE drops of INPUT,
  and the exemptions. -/
theorem quiet_compileWith (trackIps : List IpAddr) (p : FirewallPolicy) (uplink : Uplink) :
    (compileWith trackIps p uplink).chain c =
      (if c = .filterInput then (Rule.accept .inet).iif "lo" :: (cveDrops p).map cveDropRule
        else []) ++
      (exemptionFilterAccepts {} p.inboundExemptions).chain c ++
      (exemptionMangle {} p.inboundExemptions uplink.wanDevices).chain c := by
  obtain ⟨hbypass, hfinal, hhatch, hblock, hntp, hprobe, hlan⟩ :
      (bypassMarkForwardAccept {}).chain c = [] ∧ (finalReject {}).chain c = [] ∧
        (dnsEscapeHatch {}).chain c = [] ∧ (blockDns {}).chain c = [] ∧
        (ntpEscapeHatch {}).chain c = [] ∧ (probeEscapeHatch {}).chain c = [] ∧
        (allowLanTraffic {}).chain c = [] := by
    cases c <;> first | exact ⟨rfl, rfl, rfl, rfl, rfl, rfl, rfl⟩ | contradiction
  have hend (ep : AllowedEndpoint) : (allowEndpoint {} ep).chain c = [] :=
    (quiet_pushOutput hout _ _).trans (chain_empty c)
  have hnil {α : Type} (l : List α) : (l.flatMap fun _ => ([] : Chain)) = [] := by simp
  have hhead := chain_head trackIps uplink.wanDevices (tunnelInterfaces p) c
  rw [quiet_baseRules hout, quiet_untrustedIngressReturns hfwd, hbypass, List.append_nil,
    List.append_nil] at hhead
  rw [chain_compileWith, hfinal]
  cases p with
  | connecting pe t lan dns ae x y exs =>
    rw [chain_compileArm_connecting, hhead]
    simp [hend, quiet_allowDnsWhileDown hout hfwd, quiet_allowTunnel hout hfwd, hhatch, hblock,
      hntp, hprobe, hlan, hnil, cveDrops, FirewallPolicy.inboundExemptions]
  | connected pe t lan dns ae exs =>
    rw [chain_compileArm_connected, hhead]
    simp only [hend, quiet_allowDnsServer hout hfwd, quiet_allowDnsWhileConnected hout hfwd,
      quiet_allowTunnelDevice hout hfwd, hblock, hprobe, hlan, hnil]
    cases lan <;> by_cases hc : c = .filterInput <;>
      simp [hc, hnil, cveDrops, FirewallPolicy.inboundExemptions, List.map_flatMap,
        Function.comp_def]
  | blocked lan ae servers =>
    rw [chain_compileArm_blocked, hhead]
    simp [hend, quiet_allowDnsWhileDown hout hfwd, hhatch, hblock, hntp, hprobe, hlan, hnil,
      cveDrops, FirewallPolicy.inboundExemptions, exemptionFilterAccepts, exemptionMangle]

end Quiet

/-! ## The mangle chains -/

def restoreRule : Rule := (Rule.restoreMark .inet).ctMarkEq exemptFwmark

def markRule (wan : String) (ex : InboundExemption) : Rule :=
  ((((Rule.setCtMark .inet exemptFwmark).iif wan).proto ex.proto.toProto).dport ex.dport).ctNew

def EmitsMangle (p : FirewallPolicy) (uplink : Uplink) : Prop :=
  p.inboundExemptions ≠ [] ∧ uplink.wanDevices ≠ []

instance (p : FirewallPolicy) (uplink : Uplink) : Decidable (EmitsMangle p uplink) :=
  inferInstanceAs (Decidable (_ ∧ _))

theorem InboundExempt.emitsMangle {p : FirewallPolicy} {uplink : Uplink} {k : Packet}
    (h : InboundExempt p uplink k) : EmitsMangle p uplink := by
  obtain ⟨⟨d, hd, -⟩, ex, hex, -⟩ := h
  exact ⟨List.ne_nil_of_mem hex, List.ne_nil_of_mem hd⟩

def markRules (p : FirewallPolicy) (uplink : Uplink) : Chain :=
  uplink.wanDevices.flatMap fun wan => p.inboundExemptions.map (markRule wan)

def markExempt (k : Packet) : Packet := { k with mark := exemptFwmark, ctMark := exemptFwmark }

section Mangle

variable (trackIps : List IpAddr) (p : FirewallPolicy) (uplink : Uplink)

theorem mangle_compileWith {c : ChainId} (hc : c = .manglePrerouting ∨ c = .mangleOutput) :
    (compileWith trackIps p uplink).chain c =
      (exemptionMangle {} p.inboundExemptions uplink.wanDevices).chain c := by
  have haccepts : (exemptionFilterAccepts {} p.inboundExemptions).chain c = [] := by
    unfold exemptionFilterAccepts
    rcases hc with rfl | rfl <;> cases p.inboundExemptions <;> rfl
  rcases hc with rfl | rfl <;> rw [quiet_compileWith (by decide) (by decide), haccepts] <;> rfl

variable {p uplink} in
theorem exemptionMangle_of_not (h : ¬ EmitsMangle p uplink) :
    exemptionMangle {} p.inboundExemptions uplink.wanDevices = {} := by
  simp only [EmitsMangle, not_and_or, not_not] at h
  rcases h with h | h <;> simp [exemptionMangle, h]

theorem prerouting_compileWith :
    (compileWith trackIps p uplink).mangle.prerouting =
      if EmitsMangle p uplink then restoreRule :: (markRules p uplink ++ [restoreRule])
      else [] := by
  refine (mangle_compileWith trackIps p uplink (.inl rfl)).trans ?_
  by_cases h : EmitsMangle p uplink
  · rw [if_pos h, exemptionMangle, if_neg (by simpa using h.1), if_neg (by simpa using h.2)]
    have hset (wan : String) (ex : InboundExemption) :=
      appends_pushManglePrerouting (markRule wan ex)
    show ((uplink.wanDevices.foldl (fun (rs : RuleSet) wan => p.inboundExemptions.foldl
      (fun (rs : RuleSet) ex => rs.pushManglePrerouting (markRule wan ex)) rs)
      _).pushManglePrerouting restoreRule).chain .manglePrerouting = _
    rw [(appends_pushManglePrerouting _).chain_eq,
      Appends.chain_foldl fun wan => Appends.foldl (hset wan) _]
    simp only [Appends.chain_foldl (hset _), chain_empty, List.nil_append]
    simp [RuleSet.chain, pushManglePrerouting, markRules, List.map_eq_flatMap, restoreRule]
  · rw [if_neg h, exemptionMangle_of_not h, chain_empty]

theorem mangleOutput_compileWith :
    (compileWith trackIps p uplink).mangle.output =
      if EmitsMangle p uplink then [restoreRule] else [] := by
  refine (mangle_compileWith trackIps p uplink (.inr rfl)).trans ?_
  by_cases h : EmitsMangle p uplink
  · rw [if_pos h, exemptionMangle, if_neg (by simpa using h.1), if_neg (by simpa using h.2)]
    show RuleSet.chain _ .mangleOutput ++ [restoreRule] = _
    rw [List.append_left_eq_self]
    refine (part_foldl (g := fun rs => rs.chain .mangleOutput) (fun rs wan => ?_) _ _)
    exact part_foldl (g := fun rs => rs.chain .mangleOutput) (fun _ _ => by rfl) _ _
  · rw [if_neg h, exemptionMangle_of_not h, chain_empty]

variable (k : Packet) (ω : ℕ → Bool)

theorem step_restoreRule (ok : Bool) :
    restoreRule.step ok k =
      .inr (if k.ctMark = exemptFwmark then { k with mark := exemptFwmark } else k) := by
  have happ : restoreRule.Applies ok k ↔ k.ctMark = exemptFwmark := by
    simp [restoreRule, Rule.Applies, Match.holds_iff]
  by_cases h : k.ctMark = exemptFwmark
  · rw [Rule.step, if_pos (happ.2 h), if_pos h, ← h]
    rfl
  · rw [Rule.step, if_neg (fun ha => h (happ.1 ha)), if_neg h]

theorem markRule_applies_iff (wan : String) (ex : InboundExemption) (ok : Bool) :
    (markRule wan ex).Applies ok k ↔ k.iif = some wan ∧
      ex.proto.toProto.holds k.transport = true ∧ k.transport.dport? = some ex.dport ∧
      k.ctNew = true := by
  have : Nonempty CtState := ⟨.new⟩
  simp [markRule, Rule.Applies, Match.holds_iff]

theorem run_markRules :
    (markRules p uplink).run ω k = (none,
      if k.ctNew = true ∧ InboundExempt p uplink k then { k with ctMark := exemptFwmark }
      else k) := by
  have hrule : ∀ r ∈ markRules p uplink, ∃ wan ex, r = markRule wan ex := by
    simp only [markRules, List.mem_flatMap, List.mem_map]
    rintro r ⟨wan, -, ex, -, rfl⟩
    exact ⟨wan, ex, rfl⟩
  have hstep : ∀ r ∈ markRules p uplink, ∀ ok k, r.step ok k =
      .inr (if r.Applies true k then { k with ctMark := exemptFwmark } else k) := by
    intro r hr ok k
    obtain ⟨wan, ex, rfl⟩ := hrule r hr
    have happ := Rule.applies_of_rateLimit_none (r := markRule wan ex) rfl ok k
    by_cases h : (markRule wan ex).Applies true k
    · rw [Rule.step, if_pos (happ.2 h), if_pos h]
      rfl
    · rw [Rule.step, if_neg (fun ha => h (happ.1 ha)), if_neg h]
  have hexists : (∃ r ∈ markRules p uplink, r.Applies true k) ↔
      k.ctNew = true ∧ InboundExempt p uplink k := by
    simp only [markRules, List.mem_flatMap, List.mem_map, InboundExempt, ArrivesOn]
    constructor
    · rintro ⟨_, ⟨wan, hwan, ex, hex, rfl⟩, happ⟩
      obtain ⟨hiif, hproto, hdport, hnew⟩ := (markRule_applies_iff k wan ex true).1 happ
      exact ⟨hnew, ⟨wan, hwan, hiif⟩, ex, hex, hproto, hdport⟩
    · rintro ⟨hnew, ⟨wan, hwan, hiif⟩, ex, hex, hproto, hdport⟩
      exact ⟨_, ⟨wan, hwan, ex, hex, rfl⟩,
        (markRule_applies_iff k wan ex true).2 ⟨hiif, hproto, hdport, hnew⟩⟩
  rw [run, traverse_of_change hstep (fun _ => rfl)]
  simp only [hexists]

/-- A packet that leaves the prerouting chain is of a marked flow and has the mark, or it is as it
was. The second restore is for the packet that opens the flow. -/
theorem run_prerouting :
    (compileWith trackIps p uplink).mangle.prerouting.run ω k = (none,
      if EmitsMangle p uplink ∧ (k.ctMark = exemptFwmark ∨
        (k.ctNew = true ∧ InboundExempt p uplink k))
      then markExempt k else k) := by
  rw [prerouting_compileWith]
  by_cases hemits : EmitsMangle p uplink
  · -- After the first restore the packet has the mark if its flow had it; the flow then gets it if
    -- the packet opens an exempt one; the second restore is for that packet.
    rw [if_pos hemits, run, traverse_cons_inr _ (step_restoreRule k (ω 0)),
      traverse_append_of_none _ (run_markRules p uplink _ _),
      traverse_cons_inr _ (step_restoreRule _ _), traverse_nil]
    by_cases hmark : k.ctMark = exemptFwmark <;>
      by_cases hopens : k.ctNew = true ∧ InboundExempt p uplink k
    all_goals simp [hemits, hmark, hopens, markExempt]
  · simp [hemits, run]

theorem run_mangleOutput :
    (compileWith trackIps p uplink).mangle.output.run ω k = (none,
      if EmitsMangle p uplink ∧ k.ctMark = exemptFwmark then markExempt k else k) := by
  rw [mangleOutput_compileWith]
  by_cases hemits : EmitsMangle p uplink
  · rw [if_pos hemits, run, traverse_cons_inr _ (step_restoreRule k (ω 0)), traverse_nil]
    by_cases hmark : k.ctMark = exemptFwmark
    · simp [hemits, hmark, markExempt]
    · simp [hmark]
  · simp [hemits, run]

end Mangle

attribute [local simp] RuleSet.chain pushOutput pushInput pushForward Rule.Applies Match.holds_iff

/-! ## The filter chains on a marked packet -/

def Chain.Accepts (c : Chain) : Prop := ∀ r ∈ c, r.verdict = .accept

attribute [local simp] Chain.Accepts

theorem Chain.Accepts.append {c c' : Chain} (h : c.Accepts) (h' : c'.Accepts) : (c ++ c').Accepts :=
  List.forall_mem_append.2 ⟨h, h'⟩

theorem Chain.accepts_flatMap {α : Type*} {f : α → Chain} {l : List α}
    (h : ∀ a ∈ l, (f a).Accepts) : Chain.Accepts (l.flatMap f) := by
  intro r hr
  obtain ⟨a, ha, hr⟩ := List.mem_flatMap.1 hr
  exact h a ha r hr

theorem Chain.Accepts.run {c : Chain} {k : Packet} (hc : c.Accepts)
    (hk : ∃ r ∈ c, ∀ ok, r.Applies ok k) (ω : ℕ → Bool) : c.run ω k = (some .accept, k) := by
  induction c generalizing ω with
  | nil => simp at hk
  | cons r c ih =>
    by_cases hr : r.Applies (ω 0) k
    · refine traverse_cons_inl _ ?_
      rw [Rule.step, if_pos hr, hc r (by simp)]
      rfl
    · refine (traverse_cons_inr _ (if_neg hr)).trans (ih (fun s hs => hc s (by simp [hs])) ?_ _)
      obtain ⟨s, hs, happ⟩ := hk
      rcases List.mem_cons.1 hs with rfl | hs
      · exact absurd (happ _) hr
      · exact ⟨s, hs, happ⟩

theorem accepts_allowDnsServer (dns : IpAddr) (iface : Option String) :
    Chain.Accepts ((allowDnsServer {} dns iface).chain .filterOutput) := by
  cases iface <;> simp [allowDnsServer, allowDnsServerInner, dnsServerRule, dnsPairs]

theorem accepts_allowDnsServerOn (dns : IpAddr) (dev : String) :
    Chain.Accepts ((allowDnsServerOn {} dns dev).chain .filterOutput) := by
  simp [allowDnsServerOn, dnsPairs]

theorem accepts_allowDnsWhileDown (uplink : Uplink) (tunnels : List String) (dns : IpAddr) :
    Chain.Accepts ((allowDnsWhileDown uplink tunnels {} dns).chain .filterOutput) := by
  rw [allowDnsWhileDown_eq]
  split
  · simp [allowDnsServerDaemonOnly, allowDnsServerInner, dnsServerRule, dnsPairs]
  · exact accepts_allowDnsServerOn dns _

theorem accepts_allowDnsWhileConnected (uplink : Uplink) (tunnel : TunnelInterface) (dns : IpAddr) :
    Chain.Accepts ((allowDnsWhileConnected uplink tunnel {} dns).chain .filterOutput) := by
  rw [allowDnsWhileConnected_eq]
  split
  · exact accepts_allowDnsServerOn dns _
  · split
    · rw [Appends.chain_foldl fun m : TunnelMetadata =>
        appends_allowDnsServer dns (some m.interface), chain_empty, List.nil_append]
      exact accepts_flatMap fun m _ => accepts_allowDnsServer dns _
    · exact accepts_allowDnsServer dns none

theorem accepts_dnsOutput (uplink : Uplink) (p : FirewallPolicy) :
    (dnsOutput uplink p).Accepts := by
  cases p with
  | connecting pe t lan dns ae x y exs | blocked lan ae servers =>
    exact accepts_flatMap fun d _ => accepts_allowDnsWhileDown _ _ d
  | connected pe t lan dns ae exs =>
    refine Chain.Accepts.append ?_ ?_
    · exact accepts_flatMap fun d _ => accepts_flatMap fun m _ =>
        accepts_allowDnsServer d _
    · exact accepts_flatMap fun d _ => accepts_allowDnsWhileConnected _ _ d

theorem accepts_outputPre (trackIps : List IpAddr) (p : FirewallPolicy) (uplink : Uplink) :
    (outputPre trackIps p uplink).Accepts := by
  have hhead : outputHead.Accepts := by unfold Chain.Accepts; decide
  have htrack (ip : IpAddr) : Chain.Accepts ((allowTrackIp {} ip).chain .filterOutput) := by
    cases ip <;> simp [allowTrackIp]
  have hend (ep : AllowedEndpoint) : Chain.Accepts ((allowEndpoint {} ep).chain .filterOutput) := by
    by_cases h : ep.clients = .root <;> simp [allowEndpoint, h]
  have htunnel (d : String) : Chain.Accepts ((allowTunnel {} d).chain .filterOutput) := by
    simp [allowTunnel]
  have hexempt : Chain.Accepts
      ((exemptionFilterAccepts {} p.inboundExemptions).chain .filterOutput) := by
    by_cases h : p.inboundExemptions = [] <;> simp [exemptionFilterAccepts, h]
  have hhatch : Chain.Accepts
      (if p.isConnected then [] else (dnsEscapeHatch {}).chain .filterOutput) := by
    cases p.isConnected <;> simp [dnsEscapeHatch]
  exact ((((hhead.append (accepts_flatMap fun ip _ => htrack ip)).append
    (accepts_flatMap fun ep _ => hend ep)).append (accepts_dnsOutput uplink p)).append
    (accepts_flatMap fun d _ => htunnel d)).append hexempt |>.append hhatch

def exemptRule : Rule := (Rule.accept .inet).markEq exemptFwmark

theorem exemptRule_applies_iff (ok : Bool) (k : Packet) :
    exemptRule.Applies ok k ↔ k.mark = exemptFwmark := by
  simp [exemptRule]

theorem cveDropRule_applies_iff (d : String × IpAddr) (ok : Bool) (k : Packet) :
    (cveDropRule d).Applies ok k ↔ k.iif ≠ some d.1 ∧ k.daddr = d.2 := by
  have hfam : k.daddr = d.2 → (familyOf d.2).covers k.family = true := familyOf_covers_of_daddr
  simp [cveDropRule, AddrMatch.holds]
  tauto

theorem exemptionFilterAccepts_chain {exs : List InboundExemption} (h : exs ≠ []) {c : ChainId}
    (hc : c = .filterInput ∨ c = .filterOutput) :
    (exemptionFilterAccepts {} exs).chain c = [exemptRule] := by
  unfold exemptionFilterAccepts
  rw [if_neg (by simpa using h)]
  rcases hc with rfl | rfl <;> rfl

section Marked

variable (trackIps : List IpAddr) {p : FirewallPolicy} (uplink : Uplink) {k : Packet}
  (hp : p.inboundExemptions ≠ []) (hk : k.mark = exemptFwmark) (ω : ℕ → Bool)

include hp hk

theorem run_output_of_marked :
    (compileWith trackIps p uplink).filter.output.run ω k = (some .accept, k) := by
  rw [output_compileWith]
  refine traverse_append_of_some _ ((accepts_outputPre _ _ _).run ?_ ω)
  refine ⟨exemptRule, ?_, fun ok => (exemptRule_applies_iff ok k).2 hk⟩
  rw [outputPre, List.append_assoc, exemptionFilterAccepts_chain hp (.inr rfl)]
  simp

theorem run_input_of_marked :
    (compileWith trackIps p uplink).filter.input.run ω k =
      (some (if k.iif = some "lo" then .accept else if HitsCveDrop p k then .drop_ else .accept),
        k) := by
  show ((compileWith trackIps p uplink).chain .filterInput).run ω k = _
  have hmangle : (exemptionMangle {} p.inboundExemptions uplink.wanDevices).chain .filterInput =
      [] := congrArg FilterRules.input (filter_exemptionMangle {} _ _)
  have hlo : Chain.DecidesIf [(Rule.accept .inet).iif "lo"] k .accept (k.iif = some "lo") := by
    refine decidesIf_of_plain (v := .accept) ?_ rfl ?_
    · simp [Rule.Plain]
    · simp
  have hcve : Chain.DecidesIf ((cveDrops p).map cveDropRule) k .drop_ (HitsCveDrop p k) := by
    refine decidesIf_of_plain (v := .drop_) ?_ rfl ?_
    · exact List.forall_mem_map.2 fun d _ => ⟨rfl, rfl⟩
    · simp only [List.mem_map, HitsCveDrop]
      constructor
      · rintro ⟨_, ⟨d, hd, rfl⟩, happ⟩
        exact ⟨d, hd, (cveDropRule_applies_iff d true k).1 happ⟩
      · rintro ⟨d, hd, hk⟩
        exact ⟨_, ⟨d, hd, rfl⟩, (cveDropRule_applies_iff d true k).2 hk⟩
  have haccept : ∀ ω, run [exemptRule] ω k = (some .accept, k) := fun ω =>
    traverse_cons_inl [] (if_pos ((exemptRule_applies_iff _ k).2 hk))
  rw [quiet_compileWith (by decide) (by decide), exemptionFilterAccepts_chain hp (.inl rfl),
    hmangle, List.append_nil, if_pos rfl, List.cons_append]
  exact hlo.append (hcve.append haccept) ω

end Marked

/-! ## Exempt flows -/

def PassesFilter {F : Type*} (p : FirewallPolicy) (uplink : Uplink) (t : Transit F)
    (decision : Option Decision) : Prop :=
  match t.path with
  | .fromRouter => decision = some .accept
  | .toRouter => ¬ HitsCveDrop p t.routed → decision = some .accept
  | .through =>
    let untrusted := ArrivesOn t.routed (uplink.wanDevices ++ tunnelInterfaces p)
    (¬ untrusted → decision = some .accept) ∧
      (untrusted ∧ ¬ LeavesOn t.routed uplink.wanDevices → decision = some .return_)

section Flows

variable (trackIps : List IpAddr) (p : FirewallPolicy) (uplink : Uplink) {F : Type*}

/-- The mangle chain of a packet's path decides nothing. The packet leaves it with both marks when
its flow has the mark or gets it now, and as it was otherwise. -/
theorem run_mangleChain (t : Transit F) (table : Conntrack F) :
    ((compileWith trackIps p uplink).mangleChain t.path).run t.mangleLimits (t.entering table) =
      (none, if EmitsMangle p uplink ∧ ((table t.flow).mark = exemptFwmark ∨
          ((t.entering table).ctNew = true ∧ OpensExempt p uplink t))
        then markExempt (t.entering table) else t.entering table) := by
  obtain ⟨flow, reply, path, packet, routed, mangleLimits, filterLimits⟩ := t
  cases path with
  | fromRouter =>
    refine (run_mangleOutput trackIps p uplink _ _).trans (congrArg (Prod.mk none) ?_)
    refine if_congr (and_congr_right fun _ => ?_) rfl rfl
    exact (or_iff_left fun h => h.2.1 rfl).symm
  | toRouter | through =>
    refine (run_prerouting trackIps p uplink _ _).trans (congrArg (Prod.mk none) ?_)
    refine if_congr (and_congr_right fun _ => or_congr_right (and_congr_right fun _ => ?_)) rfl rfl
    exact (and_iff_right PacketPath.noConfusion).symm

theorem mangled_compileWith (t : Transit F) (table : Conntrack F) :
    t.mangled (compileWith trackIps p uplink).afterMangle table =
      if EmitsMangle p uplink ∧ ((table t.flow).mark = exemptFwmark ∨
          ((t.entering table).ctNew = true ∧ OpensExempt p uplink t))
        then markExempt (t.entering table) else t.entering table :=
  congrArg Prod.snd (run_mangleChain trackIps p uplink t table)

theorem givesMark_compileWith :
    GivesMark (F := F) (compileWith trackIps p uplink).afterMangle exemptFwmark
      (OpensExempt p uplink) := by
  intro t table
  rw [mangled_compileWith]
  have hentering : (t.entering table).ctMark = (table t.flow).mark := rfl
  by_cases hopens : (t.entering table).ctNew = true ∧ OpensExempt p uplink t
  · have hemits := hopens.2.2.emitsMangle
    rw [if_pos ⟨hemits, .inr hopens⟩, if_pos hopens]
    rfl
  · rw [if_neg hopens]
    split_ifs with h
    · exact (h.2.resolve_right hopens).symm
    · exact hentering

variable [DecidableEq F]

/-- The flow of the packet has the mark, this packet included, exactly when both marks of the packet
say so. -/
theorem mangled_of_metWhileNew (past : List (Transit F)) (t : Transit F) :
    let k := t.mangled (compileWith trackIps p uplink).afterMangle
      ((compileWith trackIps p uplink).conntrack past)
    (MetWhileNew (OpensExempt p uplink) (past ++ [t]) t.flow →
      p.inboundExemptions ≠ [] ∧ k.mark = exemptFwmark) ∧
    (¬ MetWhileNew (OpensExempt p uplink) (past ++ [t]) t.flow → k.mark = t.packet.mark) := by
  intro k
  have hmark := (givesMark_compileWith trackIps p uplink).mark_trackAll (past ++ [t]) t.flow
  rw [trackAll_append_singleton, track, Function.update_self] at hmark
  have hk : k = _ := mangled_compileWith trackIps p uplink t _
  refine ⟨fun hmet => ?_, fun hmet => ?_⟩
  · have hemits : EmitsMangle p uplink := by
      obtain ⟨_, s, _, _, _, _, hs⟩ := hmet
      exact hs.2.emitsMangle
    have hct : k.ctMark = exemptFwmark := hmark.1 hmet
    refine ⟨hemits.1, ?_⟩
    rw [hk] at hct ⊢
    split_ifs at hct ⊢ with h
    · rfl
    · exact absurd ⟨hemits, .inl hct⟩ h
  · have hct : k.ctMark = 0 := hmark.2 hmet
    rw [hk] at hct ⊢
    split_ifs at hct ⊢ with h
    · cases hct
    · rfl

theorem passesFilter_of_marked (past : List (Transit F)) (t : Transit F)
    (hp : p.inboundExemptions ≠ [])
    (hmark : ((compileWith trackIps p uplink).atFilter past t).mark = exemptFwmark) :
    PassesFilter p uplink t ((compileWith trackIps p uplink).filterDecision past t) := by
  unfold PassesFilter RuleSet.filterDecision RuleSet.filterChain
  cases t.path with
  | fromRouter => simp only [run_output_of_marked trackIps uplink hp hmark]
  | toRouter =>
    intro (hcve : ¬ HitsCveDrop p ((compileWith trackIps p uplink).atFilter past t))
    simp [run_input_of_marked trackIps uplink hp hmark, hcve]
  | through =>
    simp only [run_forward, Option.some.injEq]
    refine ⟨fun htrusted => ?_, fun hinbound => ?_⟩
    · exact (if_neg htrusted).trans (if_pos hmark)
    · exact (if_pos hinbound.1).trans (if_neg hinbound.2)

/-- Over any sequence of packets, a flow gets the mark exactly when one of its packets is
inbound to an exempt port while the flow is new. From then on every packet of it passes the
filter chains; the mark of every other packet is left alone. -/
theorem exempt_flows_marked (past : List (Transit F)) :
    let rs := compileWith trackIps p uplink
    let exempt := MetWhileNew (F := F) (OpensExempt p uplink)
    (∀ f, (exempt past f → (rs.conntrack past f).mark = exemptFwmark) ∧
      (¬ exempt past f → (rs.conntrack past f).mark = 0)) ∧
    ∀ t, (exempt (past ++ [t]) t.flow →
        (t.mangled rs.afterMangle (rs.conntrack past)).mark = exemptFwmark ∧
          PassesFilter p uplink t (rs.filterDecision past t)) ∧
      (¬ exempt (past ++ [t]) t.flow →
        (t.mangled rs.afterMangle (rs.conntrack past)).mark = t.packet.mark) := by
  intro rs exempt
  refine ⟨fun f => (givesMark_compileWith trackIps p uplink).mark_trackAll past f, fun t => ?_⟩
  obtain ⟨hmet, hnot⟩ := mangled_of_metWhileNew trackIps p uplink past t
  refine ⟨fun h => ?_, hnot⟩
  obtain ⟨hp, hmark⟩ := hmet h
  exact ⟨hmark, passesFilter_of_marked trackIps p uplink past t hp hmark⟩

end Flows

def inboundSyn : Packet where
  iif := some "wan"
  oif := none
  addrs := .v4 ⟨198, 51, 100, 7⟩ ⟨192, 0, 2, 7⟩
  transport := .tcp 40000 8443
  mark := 0
  ctNew := true
  ctMark := 0
  skuid := none

def inboundSynAck : Packet where
  iif := none
  oif := some "wan"
  addrs := .v4 ⟨192, 0, 2, 7⟩ ⟨198, 51, 100, 7⟩
  transport := .tcp 8443 40000
  mark := 0
  ctNew := false
  ctMark := 0
  skuid := some 1000

theorem exempt_flows_marked_inboundSyn :
    let rs := compileWith [] (.connecting [] none false ⟨[], []⟩ [] .none .none
      [⟨.tcp, 8443, none⟩]) ⟨["wan"], fun _ => none⟩
    let syn : Transit Unit := ⟨(), false, .toRouter, inboundSyn, inboundSyn, fun _ => true,
      fun _ => true⟩
    let synAck : Transit Unit := ⟨(), true, .fromRouter, inboundSynAck, inboundSynAck,
      fun _ => true, fun _ => true⟩
    (rs.conntrack [syn] ()).mark = exemptFwmark ∧
      rs.filterDecision [syn] synAck = some .accept := by
  intro rs syn synAck
  have hopens : MetWhileNew (OpensExempt (.connecting [] none false ⟨[], []⟩ [] .none .none
      [⟨.tcp, 8443, none⟩]) ⟨["wan"], fun _ => none⟩) [syn] () :=
    ⟨[], syn, [], rfl, rfl, ⟨rfl, by simp⟩, by decide⟩
  have h := exempt_flows_marked [] (.connecting [] none false ⟨[], []⟩ [] .none .none
    [⟨.tcp, 8443, none⟩]) ⟨["wan"], fun _ => none⟩ [syn]
  have hreply := (h.2 synAck).1 ((metWhileNew_append_singleton _ [syn] synAck ()).2 (.inl hopens))
  exact ⟨(h.1 ()).1 hopens, hreply.2⟩

end NymFirewall
