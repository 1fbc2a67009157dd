import NymVpn.Service.Config
import NymVpn.Tunnel.Moves

/-!
# Mixnet settings under a two-hop tunnel

A change of the mixnet settings is meant to leave a two-hop tunnel alone, as a change of the
LAN access and of the exemptions does. Both at once do not, and neither does the threshold of
the gateways in the mixnet.
-/

namespace TunnelStateMachine

open TunnelSettings Program.Prog

def State.goesOn : State → State → Bool
  | .connecting s, .connecting s' =>
    s'.tunnelMonitorHandle = s.tunnelMonitorHandle ∧ s'.selectedGateways = s.selectedGateways
  | .connected s, .connected s' =>
    s'.tunnelMonitorHandle = s.tunnelMonitorHandle ∧ s'.selectedGateways = s.selectedGateways
  | _, _ => false

def State.hasTunnel : State → Bool
  | .connecting _ | .connected _ => true
  | _ => false

theorem State.goesOn_self {s : State} (h : s.hasTunnel = true) : s.goesOn s = true := by
  cases s with
  | connecting self | connected self => simp [goesOn]
  | _ => cases h

/-- The update changes nothing, or nothing that the tunnel has to be left for. -/
def TunnelSettings.spares (s t : TunnelSettings) : Bool :=
  (s.diff t).all fun d => ConnectedState.keepsTunnel d t

section Updates

variable {k k' : Config} {t : TunnelSettings}

theorem TunnelSettings.spares_eq {s : TunnelSettings} {d : TunnelSettingsDiff}
    (h : s.diff t = some d) : s.spares t = ConnectedState.keepsTunnel d t := by
  rw [spares, h]
  rfl

theorem exists_step_of_spares (hstate : k.state.hasTunnel = true)
    (hspares : k.world.shared.tunnelSettings.spares t = true) :
    ∃ k', Step True k (.command (.setTunnelSettings t)) k' := by
  obtain ⟨state, w⟩ := k
  suffices h : ∃ r, (state.handleEvent (.command (.setTunnelSettings t))).run Script.smooth.answer
      (w.log (.handled (.command (.setTunnelSettings t)) w.shared.tunnelSettings)) = some r by
    obtain ⟨r, hr⟩ := h
    refine ⟨⟨r.1, r.2⟩, step_of_play (σ := .smooth) (fun _ _ => rfl) ?_⟩
    have haccepts : Config.accepts ⟨state, w⟩ (.command (.setTunnelSettings t)) = true := by
      cases state <;> first | rfl | cases hstate
    rw [Config.play, if_pos haccepts]
    exact congrArg (Option.map _) hr
  cases state with
  | connecting self | connected self =>
    simp only [State.handleEvent, ConnectingState.handleEvent, ConnectingState.handleSettings,
      ConnectedState.handleEvent, ConnectedState.handleSettings, readShared, issue, call_bind, run,
      Script.answer, World.log]
    cases hdiff : w.shared.tunnelSettings.diff t with
    | none => simp [run]
    | some d =>
      have hkeeps := (spares_eq hdiff).symm.trans hspares
      simp only [ConnectingState.applySettings, ConnectedState.applySettings, requestIf]
      split <;> simp [ConnectingState.setFirewallPolicy, ConnectedState.setFirewallPolicy,
        setFirewallPolicy, setKillswitch, sendRequest, setTunnelSettings, modifyShared, readShared,
        issue, run, call, Script.answer, Script.smooth, ConnectingState.leaveFor,
        ConnectedState.leaveFor, hkeeps]
  | _ => cases hstate

/-- With the firewall at work an update that spares the tunnel lets it go on; with a
monitor attached no other update does. -/
theorem goesOn_of_step (hstep : Step True k (.command (.setTunnelSettings t)) k')
    (hstate : k.state.hasTunnel = true) :
    (k.world.shared.tunnelSettings.spares t = true → k.state.goesOn k'.state = true) ∧
      (k.state.holds.isSome = true → k.state.goesOn k'.state = true →
        k.world.shared.tunnelSettings.spares t = true) := by
  obtain ⟨l, target, l', hhandles, henters, -⟩ := hstep.moves
  rw [← k.shared_receive (.command (.setTunnelSettings t))]
  obtain ⟨state, w⟩ := k
  obtain ⟨state', w'⟩ := k'
  cases hhandles with
  | ignored hignores =>
    cases state with
    | connecting self | connected self => cases hignores
    | _ => cases hstate
  | same hcompares hdiff =>
    cases henters
    refine ⟨fun _ => State.goesOn_self hstate, fun _ _ => ?_⟩
    rw [spares, hdiff]
    rfl
  | disconnected handles | error handles | offline handles | disconnecting handles =>
    exact nomatch hstate
  | connected handles =>
    cases handles with
    | settingsRefused hdiff refused => exact absurd trivial refused
    | settingsKept hdiff hkeeps =>
      cases henters
      exact ⟨fun _ => by simp [State.goesOn], fun _ _ => (spares_eq hdiff).trans hkeeps⟩
    | settingsLeft hdiff hkeeps =>
      cases henters
      refine ⟨fun hspares => ?_, fun _ hgoes => nomatch hgoes⟩
      cases hkeeps.symm.trans ((spares_eq hdiff).symm.trans hspares)
  | connecting handles =>
    cases handles with
    | settingsRefused hdiff refused => exact absurd trivial refused
    | settingsKept hdiff hkeeps =>
      cases henters
      exact ⟨fun _ => by simp [State.goesOn], fun _ _ => (spares_eq hdiff).trans hkeeps⟩
    | settingsLeft hdiff hkeeps =>
      refine ⟨fun hspares => ?_, fun hmonitor hgoes => ?_⟩
      · cases hkeeps.symm.trans ((spares_eq hdiff).symm.trans hspares)
      · revert henters
        refine ConnectingState.targetOr_cases
          (P := fun target => Enters True target _ l' state' → _) (fun monitor _ henters => ?_)
          fun hnone => ?_
        · cases henters
          cases hgoes
        · simp [State.holds, hnone] at hmonitor

end Updates

end TunnelStateMachine

namespace VpnService

open TunnelStateMachine VpnServiceConfig

namespace VpnServiceConfig

/-- The configurations differ in the mixnet traffic, the LAN access and the exemptions
alone. -/
def AgreesOutsideMixnet (c d : VpnServiceConfig) : Prop :=
  d = { c with
    mixnetTraffic := d.mixnetTraffic
    allowLan := d.allowLan
    inboundExemptions := d.inboundExemptions }

/-- The threshold of the gateways is the same, and the settings of the mixnet client do not
change together with the LAN access or the exemptions. -/
def ChangesApart (c d : VpnServiceConfig) : Prop :=
  c.mixnetTraffic.minGatewayMixnetPerformance = d.mixnetTraffic.minGatewayMixnetPerformance ∧
    (mixnetClientConfig c.mixnetTraffic = mixnetClientConfig d.mixnetTraffic ∨
      c.allowLan = d.allowLan ∧
        c.inboundExemptions.map tunnelExemption = d.inboundExemptions.map tunnelExemption)

variable {c d : VpnServiceConfig}

def mixnetChanges (lan threshold client exemptions : Bool) :
    List (TunnelSettingsDiffFields × Bool) :=
  [(.enableIpv6, false), (.tunnelType, false), (.allowLan, lan), (.residentialExit, false),
    (.mixnetTunnelOptions, false), (.wireguardTunnelOptions, false), (.quic, false),
    (.gatewayPerformanceOptions, threshold), (.mixnetPerformanceOptions, threshold),
    (.mixnetPerformanceOptions, client), (.entryPoint, false), (.exitPoint, false), (.dns, false),
    (.killswitch, false), (.legacySplitTunnel, false), (.inboundExemptions, exemptions),
    (.gatewayIndependence, false)]

theorem changes_of_agreesOutsideMixnet (h : c.AgreesOutsideMixnet d) :
    c.generateTunnelSettings.changes d.generateTunnelSettings =
      mixnetChanges (c.allowLan != d.allowLan)
        (c.mixnetTraffic.minGatewayMixnetPerformance != d.mixnetTraffic.minGatewayMixnetPerformance)
        (mixnetClientConfig c.mixnetTraffic != mixnetClientConfig d.mixnetTraffic)
        (c.inboundExemptions.map tunnelExemption != d.inboundExemptions.map tunnelExemption) := by
  rw [h]
  simp [TunnelSettings.changes, generateTunnelSettings, effectiveKillswitch, mixnetChanges, bne]

theorem spares_iff_changesApart (hc : c.enableTwoHop = true) (h : c.AgreesOutsideMixnet d) :
    c.generateTunnelSettings.spares d.generateTunnelSettings = true ↔ c.ChangesApart d := by
  have htype : d.generateTunnelSettings.tunnelType = .wireguard := by
    rw [h]
    simp [generateTunnelSettings, hc]
  have hapart : c.ChangesApart d ↔
      (c.mixnetTraffic.minGatewayMixnetPerformance !=
        d.mixnetTraffic.minGatewayMixnetPerformance) = false ∧
      ((mixnetClientConfig c.mixnetTraffic != mixnetClientConfig d.mixnetTraffic) = false ∨
        (c.allowLan != d.allowLan) = false ∧ (c.inboundExemptions.map tunnelExemption !=
          d.inboundExemptions.map tunnelExemption) = false) := by
    simp [ChangesApart]
  rw [hapart, TunnelSettings.spares, TunnelSettings.diff, changes_of_agreesOutsideMixnet h]
  generalize (c.mixnetTraffic.minGatewayMixnetPerformance !=
    d.mixnetTraffic.minGatewayMixnetPerformance) = threshold
  generalize (mixnetClientConfig c.mixnetTraffic != mixnetClientConfig d.mixnetTraffic) = client
  generalize (c.allowLan != d.allowLan) = lan
  generalize (c.inboundExemptions.map tunnelExemption !=
    d.inboundExemptions.map tunnelExemption) = exemptions
  simp only [ConnectedState.keepsTunnel, htype]
  cases threshold <;> cases client <;> cases lan <;> cases exemptions <;> decide

/-- A two-hop tunnel under the settings of `c`, with the firewall at work: if the changes
to `d` come apart, the update is handled and the tunnel goes on; with a monitor attached it
goes on in no other case. -/
theorem two_hop_goes_on_iff (hc : c.enableTwoHop = true) (h : c.AgreesOutsideMixnet d)
    {k : Config} (hstate : k.state.hasTunnel = true)
    (hsettings : k.world.shared.tunnelSettings = c.generateTunnelSettings) :
    let event := Event.command (.setTunnelSettings d.generateTunnelSettings)
    (c.ChangesApart d → ∃ k', Step True k event k') ∧
    ∀ k', Step True k event k' →
      (c.ChangesApart d → k.state.goesOn k'.state = true) ∧
        (k.state.holds.isSome = true → (k.state.goesOn k'.state = true ↔ c.ChangesApart d)) := by
  intro event
  rw [← spares_iff_changesApart hc h, ← hsettings]
  refine ⟨exists_step_of_spares hstate, fun k' hstep => ?_⟩
  obtain ⟨hgoes, hspares⟩ := goesOn_of_step hstep hstate
  exact ⟨hgoes, fun hmonitor => ⟨hspares hmonitor, hgoes⟩⟩

end VpnServiceConfig

def twoHopSteps : List (Event × Script) :=
  (.command (.connect false), .smooth) :: startSteps ++
    [(.monitor (.selectedGateways (samplePair 0)), .smooth),
      (.monitor (.up (.two ⟨"nym0", [], none, none⟩ ⟨"nym1", [], none, none⟩)
        (.wireguard ⟨.v4 ⟨192, 0, 2, 1⟩, 51822⟩ none)), .smooth)]

theorem reliable_twoHopSteps : ∀ p ∈ twoHopSteps, p.2.Reliable := by
  intro p hp r
  simp only [twoHopSteps, startSteps, List.cons_append, List.nil_append, List.mem_cons,
    List.not_mem_nil, or_false] at hp
  rcases hp with rfl | rfl | rfl | rfl | rfl <;> rfl

def lanChange : VpnServiceConfig := { default with allowLan := false }

def coverChange : VpnServiceConfig :=
  { default with mixnetTraffic := { disableBackgroundCoverTraffic := true } }

def IsKeptFor (d : VpnServiceConfig) : Prop :=
  ∃ k k', Reachable True anyStep k ∧
    Step True k (.command (.setTunnelSettings d.generateTunnelSettings)) k' ∧
    k.state.holds.isSome = true ∧ k.state.goesOn k'.state = true

theorem two_hop_goes_on_iff_changesApart : IsKeptFor lanChange ∧ IsKeptFor coverChange := by
  suffices hkept : ∀ d ∈ [lanChange, coverChange], IsKeptFor d from
    ⟨hkept _ (List.mem_pair.2 (.inl rfl)), hkept _ (List.mem_pair.2 (.inr rfl))⟩
  intro d hd
  obtain ⟨k, k', hk, hstep, hstate, hmonitor, hsettings⟩ := exists_step_of_plays twoHopSteps
    (.command (.setTunnelSettings d.generateTunnelSettings)) .smooth
    (fun _ => ⟨fun _ => rfl, reliable_twoHopSteps⟩)
    (reachable_spawnedWith True default.generateTunnelSettings)
    (P := fun k _ => k.state.hasTunnel = true ∧ k.state.holds.isSome = true ∧
      k.world.shared.tunnelSettings = default.generateTunnelSettings)
    (by revert d; decide +kernel)
  have hchanges : VpnServiceConfig.default.AgreesOutsideMixnet d ∧
      VpnServiceConfig.default.ChangesApart d := by
    rcases List.mem_pair.1 hd with rfl | rfl
    · exact ⟨rfl, rfl, .inl rfl⟩
    · exact ⟨rfl, rfl, .inr ⟨rfl, rfl⟩⟩
  have hgoes := (two_hop_goes_on_iff rfl hchanges.1 hstate hsettings).2 k' hstep
  exact ⟨k, k', hk, hstep, hmonitor, hgoes.1 hchanges.2⟩

def IsLeftFor (d : VpnServiceConfig) : Prop :=
  VpnServiceConfig.default.AgreesOutsideMixnet d ∧ ∃ k k', Reachable True anyStep k ∧
    Step True k (.command (.setTunnelSettings d.generateTunnelSettings)) k' ∧
    k.world.shared.tunnelSettings = VpnServiceConfig.default.generateTunnelSettings ∧
    k.state.hasTunnel = true ∧ k.state.goesOn k'.state = false

/-- A change of the cover traffic together with the LAN access, and one of the threshold of
the gateways in the mixnet. -/
theorem two_hop_left :
    IsLeftFor { default with
      mixnetTraffic := { disableBackgroundCoverTraffic := true }, allowLan := false } ∧
    IsLeftFor { default with
      mixnetTraffic := { minGatewayMixnetPerformance := some 60 } } := by
  constructor
  all_goals
    exact ⟨rfl, exists_step_of_plays twoHopSteps _ .smooth
      (fun _ => ⟨fun _ => rfl, reliable_twoHopSteps⟩)
      (reachable_spawnedWith True default.generateTunnelSettings)
      (by decide +kernel)⟩

end VpnService
