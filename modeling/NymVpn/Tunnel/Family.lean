import NymVpn.Tunnel.Monitors

/-!
# Address families

Each policy is filtered by the IPv6 flag that its parameters hold, except for the resolvers
of a connected tunnel. Only an update that turns IPv6 off and asks for the policy at once
finds the parameters out of step with the settings.
-/

namespace TunnelStateMachine

open Net NymFirewall GatewayDirectory Program World ConnectedPolicyParameters TunnelSettings

/-! ## Policies and resolvers without IPv6 -/

def dnsIpv4Only (config : ResolvedDnsConfig) : Bool :=
  config.tunnelConfig.all IpAddr.isIpv4 && config.nonTunnelConfig.all IpAddr.isIpv4

def endpointsIpv4Only (endpoints : List AllowedEndpoint) : Bool :=
  endpoints.all fun e => e.endpoint.address.ip.isIpv4

def policyDns : FirewallPolicy → ResolvedDnsConfig
  | .connecting _ _ _ dnsConfig .. => dnsConfig
  | .connected _ _ _ dnsConfig .. => dnsConfig
  | .blocked _ _ dnsServers => ⟨[], dnsServers⟩

/-- No peer endpoint, allowed endpoint or resolver is an IPv6 address. -/
def policyIpv4Only (p : FirewallPolicy) : Bool :=
  endpointsIpv4Only p.peerEndpoints && endpointsIpv4Only p.allowedEndpoints &&
    dnsIpv4Only (policyDns p)

def TunnelSettings.customIpv4Only (s : TunnelSettings) : Bool :=
  match s.dns with
  | .custom addrs => addrs.all IpAddr.isIpv4
  | .default => true

section Settings

variable {s : TunnelSettings} {servers : List IpAddr}

theorem isIpv4_of_allowsAddr (h : s.enableIpv6 = false) (addrs : List IpAddr) :
    (addrs.filter s.allowsAddr).all IpAddr.isIpv4 = true := by
  simp only [List.all_filter, allowsAddr, h, Bool.and_false, Bool.or_false]
  simp

theorem dnsIps_ipv4Only (h : s.enableIpv6 = false) :
    (s.dnsIps servers).all IpAddr.isIpv4 = true := by
  unfold dnsIps
  split
  · exact isIpv4_of_allowsAddr h _
  · exact isIpv4_of_allowsAddr h _

theorem localCustomDnsIps_ipv4Only (h : s.enableIpv6 = false) :
    (s.localCustomDnsIps servers).all IpAddr.isIpv4 = true := by
  unfold localCustomDnsIps
  split
  · rw [List.all_eq_true]
    intro ip hip
    exact List.all_eq_true.1 (dnsIps_ipv4Only h) ip (List.mem_of_mem_filter hip)
  · rfl

theorem idleDnsIps_ipv4Only (h : s.enableIpv6 = false) :
    (s.idleDnsIps servers).all IpAddr.isIpv4 = true := by
  rw [idleDnsIps, List.all_append, Bool.and_eq_true]
  exact ⟨isIpv4_of_allowsAddr h _, localCustomDnsIps_ipv4Only h⟩

theorem resolvedDnsConfig_ipv4Only (h : s.enableIpv6 = false) :
    dnsIpv4Only (s.resolvedDnsConfig servers) = s.customIpv4Only := by
  have hips : (s.dnsIps servers).all IpAddr.isIpv4 = true := dnsIps_ipv4Only h
  unfold resolvedDnsConfig customIpv4Only
  cases hdns : s.dns with
  | default => simp [DnsOptions.toDnsConfig, DnsConfig.resolve, dnsIpv4Only, hips]
  | custom addrs =>
    cases addrs with
    | nil => simp [DnsOptions.toDnsConfig, DnsConfig.resolve, dnsIpv4Only, hips]
    | cons a addrs =>
      simp only [DnsOptions.toDnsConfig, List.isEmpty_cons, Bool.false_eq_true, if_false,
        List.partition_eq_filter_filter, DnsConfig.resolve, dnsIpv4Only]
      rw [Bool.eq_iff_iff]
      simp only [Bool.and_eq_true, List.all_eq_true, List.mem_filter]
      constructor
      · intro hall ip hip
        by_cases hlocal : isLocalAddress ip = true
        · exact hall.2 ip ⟨hip, hlocal⟩
        · exact hall.1 ip ⟨hip, by simpa using hlocal⟩
      · exact fun hall => ⟨fun ip hip => hall ip hip.1, fun ip hip => hall ip hip.1⟩

theorem allowedAddrs_ipv4Only {enableIpv6 : Bool} (h : enableIpv6 = false)
    {f : SocketAddr → AllowedEndpoint} (hf : ∀ a, (f a).endpoint.address = a)
    (addrs : List SocketAddr) :
    endpointsIpv4Only ((allowedAddrs enableIpv6 addrs).map f) = true := by
  simp [endpointsIpv4Only, allowedAddrs, List.all_map, Function.comp_def, hf, h]

end Settings

/-! ## The parameters of a policy -/

structure ConnectingPolicyParameters.Ipv4Only (p : ConnectingPolicyParameters) : Prop where
  flag : p.enableIpv6 = false
  dnsServers : p.dnsServers.all IpAddr.isIpv4 = true

structure ConnectedPolicyParameters.Ipv4Only (p : ConnectedPolicyParameters) : Prop where
  flag : p.enableIpv6 = false
  dnsConfig : dnsIpv4Only p.dnsConfig = true
  allowedEndpoints : p.allowedEndpoints = []

@[simp] theorem endpointsIpv4Only_nil : endpointsIpv4Only [] = true := rfl

theorem endpointsIpv4Only_append (l l' : List AllowedEndpoint) :
    endpointsIpv4Only (l ++ l') = (endpointsIpv4Only l && endpointsIpv4Only l') :=
  List.all_append

theorem ConnectingPolicyParameters.Ipv4Only.asPolicy {p : ConnectingPolicyParameters}
    (h : p.Ipv4Only) : policyIpv4Only p.asPolicy = true := by
  have haddrs (protocol) := allowedAddrs_ipv4Only h.flag (f := rootEndpoint protocol) fun _ => rfl
  simp [policyIpv4Only, ConnectingPolicyParameters.asPolicy, FirewallPolicy.peerEndpoints,
    FirewallPolicy.allowedEndpoints, policyDns, DnsConfig.resolve, dnsIpv4Only,
    endpointsIpv4Only_append, haddrs, h.dnsServers]

structure ConnectingPolicyParameters.Keeps (p q : ConnectingPolicyParameters) : Prop where
  flag : p.enableIpv6 = q.enableIpv6
  dnsServers : p.dnsServers = q.dnsServers

theorem ConnectingPolicyParameters.Keeps.ipv4Only {p q : ConnectingPolicyParameters}
    (h : p.Keeps q) (hq : q.Ipv4Only) : p.Ipv4Only :=
  ⟨h.flag.trans hq.flag, h.dnsServers ▸ hq.dnsServers⟩

theorem ConnectedPolicyParameters.Ipv4Only.asPolicy {p : ConnectedPolicyParameters}
    (h : p.Ipv4Only) : policyIpv4Only p.asPolicy = true := by
  have haddrs (protocol) := allowedAddrs_ipv4Only h.flag (f := openEndpoint protocol) fun _ => rfl
  simp [policyIpv4Only, ConnectedPolicyParameters.asPolicy, FirewallPolicy.peerEndpoints,
    FirewallPolicy.allowedEndpoints, policyDns, endpointsIpv4Only_append, haddrs, h.dnsConfig,
    h.allowedEndpoints]

variable {shared : SharedState}

theorem ConnectingPolicyParameters.ipv4Only_initial
    {g : Option SelectedGateways} (h : shared.tunnelSettings.enableIpv6 = false) :
    (ConnectingPolicyParameters.initial shared g).Ipv4Only :=
  ⟨h, idleDnsIps_ipv4Only h⟩

theorem ConnectedPolicyParameters.ipv4Only_initial
    {tunnelInterface : TunnelInterface} {tunnel : TunnelConnectionData} {g : SelectedGateways}
    (h : shared.tunnelSettings.enableIpv6 = false)
    (hcustom : shared.tunnelSettings.customIpv4Only = true) :
    (initial shared tunnelInterface tunnel g).Ipv4Only :=
  ⟨h, (resolvedDnsConfig_ipv4Only h).trans hcustom, rfl⟩

@[simp] theorem BlockedPolicyParameters.ipv4Only_asPolicy (p : BlockedPolicyParameters) :
    policyIpv4Only p.asPolicy = true := rfl

theorem idleBlockedPolicy_ipv4Only {s : TunnelSettings} {servers : List IpAddr}
    {endpoints : List SocketAddr} (h : s.enableIpv6 = false) :
    policyIpv4Only (idleBlockedPolicy s servers endpoints) = true := by
  have haddrs := allowedAddrs_ipv4Only h (f := rootEndpoint .tcp) fun _ => rfl
  simp [policyIpv4Only, idleBlockedPolicy, FirewallPolicy.peerEndpoints,
    FirewallPolicy.allowedEndpoints, policyDns, dnsIpv4Only, idleDnsIps_ipv4Only h, haddrs]

/-! ## What is asked for -/

def Effect.Ipv4Only : Effect → Prop
  | .request (.policy p) _ t _ => t.enableIpv6 = false → policyIpv4Only p = true
  | .dns (.set _ config) t _ => t.enableIpv6 = false → dnsIpv4Only config = true
  | .dns (.resetIdle idle) t _ =>
    t.enableIpv6 = false → idle.localResolvers.all IpAddr.isIpv4 = true
  | _ => True

instance : DecidablePred Effect.Ipv4Only
  | .request (.policy p) _ t _ =>
    inferInstanceAs (Decidable (t.enableIpv6 = false → policyIpv4Only p = true))
  | .dns (.set _ config) t _ =>
    inferInstanceAs (Decidable (t.enableIpv6 = false → dnsIpv4Only config = true))
  | .dns (.resetIdle idle) t _ => inferInstanceAs
      (Decidable (t.enableIpv6 = false → idle.localResolvers.all IpAddr.isIpv4 = true))
  | .request .reset _ _ _ | .dns .reset _ _ | .dns .resetBeforeInterfaceRemoval _ _
  | .spawned _ | .handled _ _ | .removedRoutes | .started _ _ | .cancelled _ | .waited _
  | .resolverOverrides _ _ | .networking _ => inferInstanceAs (Decidable True)

def World.Ipv4Only (w : World) : Prop := ∀ e ∈ w.trace, e.Ipv4Only

instance (w : World) : Decidable w.Ipv4Only :=
  inferInstanceAs (Decidable (∀ e ∈ w.trace, e.Ipv4Only))

/-- With IPv6 off, the parameters that the state holds were made with it off. -/
def State.Ipv4Only (t : TunnelSettings) : State → Prop
  | .connecting self => t.enableIpv6 = false → self.firewallPolicyParams.Ipv4Only
  | .connected self => t.enableIpv6 = false → self.firewallPolicyParams.Ipv4Only
  | _ => True

@[simp] def Target.Ipv4Only (t : TunnelSettings) : Target → Prop
  | .stays s => s.Ipv4Only t
  | .connected .. => t.enableIpv6 = false → t.customIpv4Only = true
  | _ => True

@[simp] def Act.Ipv4Only (t : TunnelSettings) : Act → Prop
  | .asked policy _ => t.enableIpv6 = false → policyIpv4Only policy = true
  | .setDns _ _ => t.enableIpv6 = false → t.customIpv4Only = true
  | .resetDns request ok => (Effect.dns request t ok).Ipv4Only
  | _ => True

section Acts

variable {reliable : Prop} {w : World} {l : List Act} {target : Target} {event : Event}
  {self : ConnectingState} {t : TunnelSettings} {s : State}

@[simp] theorem World.ipv4Only_act (a : Act) :
    (w.act a).Ipv4Only ↔ a.Ipv4Only w.shared.tunnelSettings ∧ w.Ipv4Only := by
  unfold World.Ipv4Only
  rw [trace_act]
  simp only [List.mem_append, or_imp, forall_and]
  refine and_congr_left fun _ => ?_
  have hidle : ∀ ok, (Effect.request w.shared.idleRequest w.shared.tunnelSettings.killswitch
      w.shared.tunnelSettings ok).Ipv4Only := by
    intro ok
    unfold SharedState.idleRequest
    split
    · exact idleBlockedPolicy_ipv4Only
    · trivial
  cases a with
  | idled pinned => cases pinned <;> simpa [Act.effects, Effect.Ipv4Only] using hidle _
  | resetIdleDns ok =>
    simpa [Act.effects, Effect.Ipv4Only, idleDns] using fun h => localCustomDnsIps_ipv4Only h
  | setDns interface ok =>
    simpa [Act.effects, Effect.Ipv4Only] using
      forall_congr' fun hoff => by rw [resolvedDnsConfig_ipv4Only hoff]
  | _ => simp [Act.effects, Effect.Ipv4Only]

@[simp] theorem World.ipv4Only_onlyIf (c : Bool) (a : Act) :
    (w.acts (Act.onlyIf c a)).Ipv4Only ↔
      (c = true → a.Ipv4Only w.shared.tunnelSettings) ∧ w.Ipv4Only := by
  cases c <;> simp

@[simp] theorem World.settings_onlyIf (c : Bool) (a : Act) :
    (w.acts (Act.onlyIf c a)).shared.tunnelSettings =
      if c then a.settings?.getD w.shared.tunnelSettings else w.shared.tunnelSettings := by
  cases c <;> simp

theorem World.ipv4Only_of_steady {w' : World} (h : w.Steady w') : w'.Ipv4Only ↔ w.Ipv4Only := by
  unfold World.Ipv4Only
  rw [h.trace]

theorem World.ipv4Only_of_acts (h : (w.acts l).Ipv4Only) : w.Ipv4Only := by
  induction l generalizing w with
  | nil => simpa using h
  | cons a l ih => exact ((ipv4Only_act a).1 (ih (by simpa using h))).2

theorem Enters.ipv4Only (h : Enters reliable target w l s)
    (hw : w.Ipv4Only) (htarget : target.Ipv4Only w.shared.tunnelSettings) :
    (w.acts l).Ipv4Only ∧ s.Ipv4Only w.shared.tunnelSettings := by
  have hconnecting : ∀ g, w.shared.tunnelSettings.enableIpv6 = false →
      (ConnectingPolicyParameters.initial w.shared g).Ipv4Only :=
    fun _ => ConnectingPolicyParameters.ipv4Only_initial
  have hconnected : (w.shared.tunnelSettings.enableIpv6 = false →
      w.shared.tunnelSettings.customIpv4Only = true) → ∀ i tunnel g,
      w.shared.tunnelSettings.enableIpv6 = false → (initial w.shared i tunnel g).Ipv4Only :=
    fun hcustom _ _ _ hoff => ipv4Only_initial hoff (hcustom hoff)
  cases h with
  | stays => exact ⟨by simpa using hw, htarget⟩
  | connecting =>
    exact ⟨by simpa [hw] using fun hoff => (hconnecting _ hoff).asPolicy, hconnecting _⟩
  | connectingOffline rest | disconnectedRefused refused rest =>
    cases rest; exact ⟨by simpa using hw, trivial⟩
  | connectingRefused refused acts rest =>
    cases rest
    refine ⟨?_, trivial⟩
    simpa [acts, hw] using fun hoff => (hconnecting _ hoff).asPolicy
  | connected hparams =>
    have hinitial := hconnected htarget
    refine ⟨?_, hparams ▸ hinitial _ _ _⟩
    simpa [hw, hparams] using ⟨htarget, fun hoff => (hinitial _ _ _ hoff).asPolicy⟩
  | connectedRefused refused hparams rest =>
    cases rest
    refine ⟨?_, trivial⟩
    simpa [hw, hparams] using fun hoff => (hconnected htarget _ _ _ hoff).asPolicy
  | connectedUnresolved hparams acts rest =>
    cases rest
    refine ⟨?_, trivial⟩
    simpa [acts, hw, hparams] using ⟨htarget, fun hoff => (hconnected htarget _ _ _ hoff).asPolicy⟩
  | _ => exact ⟨by simpa using hw, trivial⟩

theorem enableIpv6_of_keepsTunnel {t s : TunnelSettings} {d : TunnelSettingsDiff}
    (hd : t.diff s = some d) (h : ConnectedState.keepsTunnel d s = true) :
    t.enableIpv6 = s.enableIpv6 :=
  enableIpv6_of_unchanged hd (ConnectedState.unchanged_of_keepsTunnel h rfl nofun)

theorem PrivateActionAfterDisconnect.target_ipv4Only
    (after : PrivateActionAfterDisconnect) : after.target.Ipv4Only t := by
  cases after <;> trivial

theorem Act.settings?_of_accounts {a : Act} (h : a.accounts = true) : a.settings? = none := by
  cases a <;> first | rfl | cases h

theorem ConnectingState.target_ipv4Only {after : PrivateActionAfterDisconnect}
    {otherwise : Target} (h : otherwise.Ipv4Only t) : (self.targetOr after otherwise).Ipv4Only t :=
  targetOr_cases (P := Target.Ipv4Only t) (fun _ _ => trivial) fun _ => h

/-- The attempt admits IPv6 while it is off: the tunnel comes up with an IPv6 address among
the custom resolvers, or an update that turns IPv6 off has the policy of the attempt asked for
once more, with the addresses it was made for. -/
def ConnectingState.Admits (self : ConnectingState) (t : TunnelSettings) (event : Event) : Prop :=
  (∃ i d, event = .monitor (.up i d) ∧ self.selectedGateways.isSome = true ∧
      t.enableIpv6 = false ∧ t.customIpv4Only = false) ∨
    ∃ s d, event = .command (.setTunnelSettings s) ∧ t.diff s = some d ∧
      (d.allowLanChanged || d.inboundExemptionsChanged || d.killswitchChanged) = true ∧
      s.enableIpv6 = false ∧ policyIpv4Only self.firewallPolicyParams.asPolicy = false

theorem ConnectingState.Handles.ipv4Only
    (h : self.Handles reliable w event l target) (hw : w.Ipv4Only)
    (hself : w.shared.tunnelSettings.enableIpv6 = false → self.firewallPolicyParams.Ipv4Only)
    (hno : ¬self.Admits w.shared.tunnelSettings event) :
    (w.acts l).Ipv4Only ∧ target.Ipv4Only (w.acts l).shared.tunnelSettings := by
  have hupdate {s : TunnelSettings} {d : TunnelSettingsDiff}
      (hevent : event = .command (.setTunnelSettings s))
      (hdiff : w.shared.tunnelSettings.diff s = some d) (hreapplies : reapplies d = true)
      (hoff : s.enableIpv6 = false) :
      policyIpv4Only (self.firewallPolicyParams.hotApply d s).asPolicy = true :=
    Bool.eq_true_of_not_eq_false fun hpolicy =>
      hno (.inr ⟨s, d, hevent, hdiff, hreapplies, hoff, hpolicy⟩)
  -- The attempt goes on, and only accounts are kept besides what is asked for.
  have hgoes : ∀ {l'} {self' : ConnectingState}, (∀ a ∈ l', a.settings? = none) →
      self'.firewallPolicyParams.Keeps self.firewallPolicyParams →
      (State.connecting self').Ipv4Only (w.acts l').shared.tunnelSettings := by
    intro l' self' hsettings hkeeps
    rw [settings_acts hsettings]
    exact fun hoff => hkeeps.ipv4Only (hself hoff)
  have hasks : ∀ {p : ConnectingPolicyParameters}, p.Keeps self.firewallPolicyParams →
      w.shared.tunnelSettings.enableIpv6 = false → policyIpv4Only p.asPolicy = true :=
    fun hkeeps hoff => (hkeeps.ipv4Only (hself hoff)).asPolicy
  have hasked : ∀ {p : ConnectingPolicyParameters} {ok}, p.Keeps self.firewallPolicyParams →
      (w.acts [.asked p.asPolicy ok]).Ipv4Only := fun hkeeps => by simpa [hw] using hasks hkeeps
  have hadmitting : ∀ resolved, (self.admitting resolved).firewallPolicyParams.Keeps
    self.firewallPolicyParams := fun _ => ⟨rfl, rfl⟩
  have hadmitted : ∀ {resolved l'}, (∀ a ∈ l', a.accounts = true) →
      ∀ t, (w.acts (self.admitActs resolved t ++ l')).Ipv4Only := by
    intro resolved l' haccounts t
    rw [acts_append, ipv4Only_of_steady (steady_acts haccounts)]
    simpa [admitActs, hw] using hasks (hadmitting resolved)
  have hfails : ∀ {culpable self' l'}, Fails w.shared.entryGatewayGrace culpable self l' self' →
      (∀ a ∈ l', a.settings? = none) ∧ self'.firewallPolicyParams.Keeps self.firewallPolicyParams :=
    fun fails => ⟨fun a ha => Act.settings?_of_accounts (fails.accounts a ha),
      fails.continues.firewallPolicyParams ▸ ⟨rfl, rfl⟩⟩
  cases h with
  | delayed | registered | bandwidthFailedUnblamed | bandwidthEnded =>
    exact ⟨by simpa using hw, hgoes (by simp) ⟨rfl, rfl⟩⟩
  | resolvedRefused | unpinned => exact ⟨by simpa [hw] using hasks (hadmitting _), trivial⟩
  | starts t hsender settles =>
    refine ⟨by simpa using hadmitted settles.accounts t, hgoes ?_ ?_⟩
    · have haccounts := fun a ha => Act.settings?_of_accounts (settles.accounts a ha)
      simpa [admitActs, or_imp, forall_and] using haccounts
    · exact settles.continues.firewallPolicyParams ▸ ⟨rfl, rfl⟩
  | exhausted hsender settles => exact ⟨hadmitted settles.accounts _, trivial⟩
  | selected hparams =>
    subst hparams
    exact ⟨hasked ⟨rfl, rfl⟩, hgoes (by simp) ⟨rfl, rfl⟩⟩
  | selectedRefused hparams =>
    subst hparams
    exact ⟨hasked ⟨rfl, rfl⟩, target_ipv4Only trivial⟩
  | interfaceUp => exact ⟨hasked ⟨rfl, rfl⟩, hgoes (by simp) ⟨rfl, rfl⟩⟩
  | interfaceUpRefused => exact ⟨hasked ⟨rfl, rfl⟩, target_ipv4Only trivial⟩
  | up hgateways =>
    refine ⟨by simpa using hw, ?_⟩
    simpa using fun hoff => Bool.eq_true_of_not_eq_false fun hcustom =>
      hno (.inl ⟨_, _, rfl, by simp [hgateways], hoff, hcustom⟩)
  | connectionFailed fails | registrationFailed fails =>
    exact ⟨(ipv4Only_of_steady (steady_acts fails.accounts)).2 hw,
      hgoes (hfails fails).1 (hfails fails).2⟩
  | bandwidthFailed fails =>
    refine ⟨?_, hgoes (by simpa using (hfails fails).1) (hfails fails).2⟩
    rw [acts_cons, ipv4Only_of_steady (steady_acts fails.accounts)]
    simpa using hw
  | settingsRefused hdiff refused hreapplies =>
    exact ⟨by simpa [hw] using hupdate rfl hdiff hreapplies, trivial⟩
  | settingsKept hdiff hkeeps =>
    refine ⟨by simpa [hw] using hupdate rfl hdiff, ?_⟩
    simp only [withParams, Target.Ipv4Only, State.Ipv4Only, acts_cons,
      settings_onlyIf, settings_act, Act.settings?, Option.getD_some, Option.getD_none, ite_self,
      ← enableIpv6_of_keepsTunnel hdiff hkeeps]
    exact fun hoff => ⟨(hself hoff).flag, (hself hoff).dnsServers⟩
  | settingsLeft hdiff =>
    exact ⟨by simpa [hw] using hupdate rfl hdiff, target_ipv4Only trivial⟩
  | disconnect | shutdown | connect | offline => exact ⟨by simpa using hw, target_ipv4Only trivial⟩
  | _ => exact ⟨by simpa using hw, trivial⟩

theorem State.Handles.ipv4Only (h : s.Handles reliable w event l target)
    (hw : w.Ipv4Only) (hself : s.Ipv4Only w.shared.tunnelSettings)
    (hno : ∀ self, s = .connecting self → ¬self.Admits w.shared.tunnelSettings event) :
    (w.acts l).Ipv4Only ∧ target.Ipv4Only (w.acts l).shared.tunnelSettings := by
  have hasks : ∀ {self : ConnectedState}, s = .connected self → ∀ diff settings,
      w.shared.tunnelSettings.enableIpv6 = false →
      policyIpv4Only (self.firewallPolicyParams.hotApply diff settings).asPolicy = true := by
    rintro self rfl diff settings hoff
    obtain ⟨hflag, hdns, hallowed⟩ := hself hoff
    exact ConnectedPolicyParameters.Ipv4Only.asPolicy ⟨hflag, hdns, hallowed⟩
  cases h with
  | ignored | same => exact ⟨by simpa using hw, by simpa using hself⟩
  | disconnected handles =>
    cases handles with
    | api handles | apiRefused handles => cases handles <;> exact ⟨by simpa using hw, trivial⟩
    | _ => exact ⟨by simpa using hw, trivial⟩
  | error handles =>
    cases handles with
    | api handles | shutdown handles =>
      cases handles <;> exact ⟨by simpa [Effect.Ipv4Only] using hw, trivial⟩
    | _ => exact ⟨by simpa [Effect.Ipv4Only] using hw, trivial⟩
  | offline handles =>
    cases handles with
    | shutdown releases => cases releases <;> exact ⟨by simpa [Effect.Ipv4Only] using hw, trivial⟩
    | _ => exact ⟨by simpa [Effect.Ipv4Only] using hw, trivial⟩
  | disconnecting handles =>
    cases handles with
    | waited => exact ⟨by simpa using hw, PrivateActionAfterDisconnect.target_ipv4Only _⟩
    | _ => exact ⟨by simpa using hw, trivial⟩
  | connected handles =>
    cases handles with
    | settingsRefused hdiff => exact ⟨by simpa [hw] using hasks rfl _ _, trivial⟩
    | settingsKept hdiff hkeeps =>
      refine ⟨by simpa [hw] using fun _ => hasks rfl _ _, ?_⟩
      simp only [Target.Ipv4Only, State.Ipv4Only, acts_append, acts_cons,
        acts_nil, settings_act, Act.settings?, Option.getD_some,
        ← enableIpv6_of_keepsTunnel hdiff hkeeps]
      intro hoff
      exact ⟨(hself hoff).flag, (hself hoff).dnsConfig, (hself hoff).allowedEndpoints⟩
    | settingsLeft hdiff =>
      exact ⟨by simpa [hw, Act.cleanup, Effect.Ipv4Only] using fun _ => hasks rfl _ _, trivial⟩
    | bandwidthChecks => exact ⟨by simpa using hw, by rw [acts_nil]; exact hself⟩
    | _ => exact ⟨by simpa [Act.cleanup, Effect.Ipv4Only] using hw, trivial⟩
  | connecting handles =>
    exact handles.ipv4Only hw hself (hno _ rfl)

end Acts

/-! ## Runs -/

def AdmitsIpv6 (c : Config) (event : Event) (_ : Config) : Prop :=
  ∃ self, c.state = .connecting self ∧ self.Admits c.world.shared.tunnelSettings event

def admitsNoIpv6 (c : Config) (event : Event) (c' : Config) : Prop := ¬AdmitsIpv6 c event c'

section Runs

variable {reliable : Prop} {c c' : Config} {event : Event}

theorem ipv4Only_receive (h : c.world.Ipv4Only) (event : Event) : (c.receive event).Ipv4Only := by
  intro e hmem
  rw [c.trace_receive] at hmem
  rcases List.mem_cons.1 hmem with rfl | hmem
  · trivial
  · exact h e hmem

theorem Step.ipv4Only (h : Step reliable c event c') (hno : ¬AdmitsIpv6 c event c')
    (hw : c.world.Ipv4Only) (hself : c.state.Ipv4Only c.world.shared.tunnelSettings) :
    c'.world.Ipv4Only ∧ c'.state.Ipv4Only c'.world.shared.tunnelSettings := by
  obtain ⟨l, target, l', hhandles, henters, hworld⟩ := h.moves
  rw [← c.shared_receive event] at hself
  have hleads := hhandles.ipv4Only (ipv4Only_receive hw event) hself fun self hstate hadmits =>
    hno ⟨self, hstate, c.shared_receive event ▸ hadmits⟩
  rw [hworld, henters.settings]
  exact henters.ipv4Only hleads.1 hleads.2

theorem ipv4Only_of_reachable (h : Reachable reliable admitsNoIpv6 c) :
    c.world.Ipv4Only ∧ c.state.Ipv4Only c.world.shared.tunnelSettings := by
  refine Reachable.invariant_of_steps (I := fun c => c.world.Ipv4Only ∧
    c.state.Ipv4Only c.world.shared.tunnelSettings) ?_ ?_ h
  · rintro target w l s ⟨settings, servers, blacklist, endpoints, clock, rfl⟩ htarget henters
    rw [henters.settings]
    refine henters.ipv4Only (fun e hmem => ?_) ?_
    · obtain rfl := List.mem_singleton.1 hmem
      trivial
    · rcases htarget with rfl | rfl <;> trivial
  · exact fun c event c' _ hc hstep hno => hstep.ipv4Only hno hc.1 hc.2

/-! ### The steps that admit IPv6 -/

theorem Enters.not_ipv4Only {w : World} {l : List Act} {s : State}
    {tunnelInterface : TunnelInterface} {tunnel : TunnelConnectionData} {g : SelectedGateways}
    {monitor : ℕ} {receiver : Option ℕ}
    (h : Enters reliable (.connected tunnelInterface tunnel g monitor receiver) w l s)
    (hoff : w.shared.tunnelSettings.enableIpv6 = false)
    (hcustom : w.shared.tunnelSettings.customIpv4Only = false) : ¬(w.acts l).Ipv4Only := by
  have hpolicy : policyIpv4Only (initial w.shared tunnelInterface tunnel g).asPolicy = false := by
    have hdns : dnsIpv4Only (w.shared.tunnelSettings.resolvedDnsConfig
        w.shared.defaultDnsServers) = false := (resolvedDnsConfig_ipv4Only hoff).trans hcustom
    rw [policyIpv4Only, Bool.and_eq_false_iff]
    exact Or.inr hdns
  intro honly
  cases h with
  | connected hparams => simp [hparams, hoff, hpolicy] at honly
  | connectedRefused refused hparams rest =>
    have hasked := ipv4Only_of_acts (acts_append .. ▸ honly)
    simp [hparams, hoff, hpolicy] at hasked
  | connectedUnresolved hparams acts rest =>
    have hasked := ipv4Only_of_acts (acts_append .. ▸ honly)
    simp [acts, hparams, hoff, hpolicy] at hasked

theorem not_ipv4Only_of_admits (h : Step reliable c event c')
    (htracked : c.state.Tracked c.world.monitors) (hadmits : AdmitsIpv6 c event c') :
    ¬c'.world.Ipv4Only := by
  obtain ⟨l, target, l', hhandles, henters, hworld⟩ := h.moves
  have haccepts := h.accepts
  rw [hworld]
  obtain ⟨self, hself, ⟨i, d, rfl, hg, hoff, hcustom⟩ | ⟨s, d, rfl, hd, hchanged, hoff, hpolicy⟩⟩ :=
    hadmits
  · obtain ⟨id, phase, -, hid, -⟩ := htracked.sender haccepts
    rw [hself] at hid hhandles
    cases hhandles with
    | ignored hignores => cases hignores
    | connecting handles =>
      cases handles with
      | up hgateways hmonitor =>
        refine henters.not_ipv4Only ?_ ?_
        · simpa [c.shared_receive] using hoff
        · simpa [c.shared_receive] using hcustom
      | upPanics hmissing =>
        rcases hmissing with hmissing | hmissing
        · simp [hmissing] at hg
        · cases hmissing.symm.trans hid
  · rw [hself] at hhandles
    refine fun honly => absurd (ipv4Only_of_acts honly) ?_
    cases hhandles with
    | ignored hignores => cases hignores
    | same hcompares hdiff =>
      rw [c.shared_receive, hd] at hdiff
      cases hdiff
    | connecting handles =>
      have hreapplies : ConnectingState.reapplies d = true := hchanged
      have hasks : policyIpv4Only (self.firewallPolicyParams.hotApply d s).asPolicy = false :=
        hpolicy
      cases handles with
      | settingsRefused hdiff =>
        rw [c.shared_receive, hd] at hdiff
        obtain rfl := Option.some.inj hdiff
        simp [hoff, hasks]
      | settingsKept hdiff | settingsLeft hdiff =>
        rw [c.shared_receive, hd] at hdiff
        obtain rfl := Option.some.inj hdiff
        simp [hreapplies, hoff, hasks]

/-- With IPv6 off the resolvers between sessions have no IPv6 address, and those of a tunnel
have none exactly if no custom one is. As long as no step admits IPv6 while it is off, no
request has named an IPv6 address while it was off; the next step keeps it so exactly if it
admits none. -/
theorem ipv6_off_iff (hc : Reachable False admitsNoIpv6 c) (hstep : Step False c event c') :
    (∀ (s : TunnelSettings) servers, s.enableIpv6 = false →
      (s.idleDnsIps servers).all IpAddr.isIpv4 = true ∧
      (dnsIpv4Only (s.resolvedDnsConfig servers) = true ↔ s.customIpv4Only = true)) ∧
    c.world.Ipv4Only ∧ (c'.world.Ipv4Only ↔ ¬AdmitsIpv6 c event c') := by
  obtain ⟨hworld, hstate⟩ := ipv4Only_of_reachable hc
  refine ⟨fun s servers hoff => ⟨idleDnsIps_ipv4Only hoff, ?_⟩, hworld, ?_⟩
  · rw [resolvedDnsConfig_ipv4Only hoff]
  · by_cases hadmits : AdmitsIpv6 c event c'
    · have htracked := tracked_of_reachable hc
      exact iff_of_false (not_ipv4Only_of_admits hstep htracked hadmits) (not_not.2 hadmits)
    · exact iff_of_true (hstep.ipv4Only hadmits hworld hstate).1 hadmits

end Runs

theorem ipv6_off_iff_connected : ∃ c c', Reachable False admitsNoIpv6 c ∧
    Step False c (.monitor (.up sampleInterface .mixnet)) c' ∧
    c.world.shared.tunnelSettings.enableIpv6 = false ∧ c'.world.Ipv4Only := by
  obtain ⟨c, c', hc, hstep, hsettings⟩ := exists_step_under_of_plays (C := admitsNoIpv6)
    ((.command (.connect false), .smooth) :: startSteps ++
      [(.monitor (.selectedGateways (samplePair 0)), .smooth)])
    (.monitor (.up sampleInterface .mixnet)) .smooth False.elim
    (by simp [startSteps, admitsNoIpv6, AdmitsIpv6, ConnectingState.Admits])
    (reachable_spawnedWith False sampleSettings)
    (P := fun c _ => c.world.shared.tunnelSettings = sampleSettings) (by decide +kernel)
  refine ⟨c, c', hc, hstep, by rw [hsettings]; rfl, (ipv6_off_iff hc hstep).2.2.2 ?_⟩
  rintro ⟨self, -, ⟨i, d, -, -, -, hcustom⟩ | ⟨s, d, hevent, -⟩⟩
  · rw [hsettings] at hcustom
    cases hcustom
  · cases hevent

def ipv6Resolver : IpAddr := .v6 ⟨[0x2001, 0x4860, 0x4860, 0, 0, 0, 0, 0x8888], rfl⟩

def ipv6DnsSettings : TunnelSettings := { sampleSettings with dns := .custom [ipv6Resolver] }

/-- Both ways to admit IPv6 while it is off: a custom resolver, and an update that also
allows the LAN, in the middle of an attempt. -/
theorem ipv6_admitted_while_off :
    (∃ c c', Reachable False anyStep c ∧ Step False c (.monitor (.up sampleInterface .mixnet)) c' ∧
      ¬c'.world.Ipv4Only) ∧
    ∃ c c', Reachable False anyStep c ∧
      Step False c (.command (.setTunnelSettings { sampleSettings with allowLan := true })) c' ∧
      ¬c'.world.Ipv4Only := by
  constructor
  · exact exists_step_of_plays ((.command (.connect false), .smooth) :: startSteps ++
        [(.monitor (.selectedGateways (samplePair 0)), .smooth)]) _ .smooth
      False.elim (reachable_spawnedWith False ipv6DnsSettings)
      (by decide +kernel)
  · have hspawned : Reachable False anyStep
        (.spawned (.initial ipv6Settings [ipv6Resolver] [] [])) := reachable_spawned
    exact exists_step_of_plays [(.command (.connect false), .smooth)] _ .smooth
      False.elim hspawned (by decide +kernel)

end TunnelStateMachine
