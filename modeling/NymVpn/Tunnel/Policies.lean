import NymVpn.Tunnel.Updates

/-!
# The live policy

While the firewall does not refuse, the last request is the one that the state and the
settings call for, except while a tunnel is taken down.
-/

namespace TunnelStateMachine

open Net NymFirewall GatewayDirectory Program TunnelSettings ConnectedState

def Effect.request? : Effect → Option (Request × Bool)
  | .request r k _ _ => some (r, k)
  | _ => none

def World.lastRequest (w : World) : Option (Request × Bool) := w.trace.findSome? Effect.request?

/-! ## What each state calls for -/

def ConnectingPolicyParameters.Fits (p : ConnectingPolicyParameters) (s : TunnelSettings) : Prop :=
  p.allowLan = s.allowLan ∧ p.inboundExemptions = s.inboundExemptions

def ConnectedPolicyParameters.Fits (p : ConnectedPolicyParameters) (s : TunnelSettings) : Prop :=
  p.allowLan = s.allowLan ∧ p.inboundExemptions = s.inboundExemptions

/-- A blocked policy with the kill-switch on, no policy with it off. -/
def IdleRequest (s : TunnelSettings) (last : Option (Request × Bool)) : Prop :=
  (s.killswitch = true → ∃ eps dns, last = some (.policy (.blocked s.allowLan eps dns), true)) ∧
    (s.killswitch = false → last = some (.reset, false))

def FinalRequest (s : TunnelSettings) (last : Option (Request × Bool)) : Prop :=
  (s.killswitch = true → ∃ p, last = some (.policy p, true)) ∧
    (s.killswitch = false → ∃ k, last = some (.reset, k))

theorem IdleRequest.final {s : TunnelSettings} {last : Option (Request × Bool)}
    (h : IdleRequest s last) : FinalRequest s last := by
  refine ⟨fun hk => ?_, fun hk => ⟨false, h.2 hk⟩⟩
  obtain ⟨eps, dns, hlast⟩ := h.1 hk
  exact ⟨_, hlast⟩

/-- The last request is what the state calls for under the settings, and the
parameters that the state keeps are in step with the settings. -/
def State.Live (s : TunnelSettings) (last : Option (Request × Bool)) : State → Prop
  | .disconnected _ => IdleRequest s last
  | .error _ => IdleRequest s last
  | .offline state => state.firewallPolicyParams.allowLan = s.allowLan ∧
      last = some (.policy state.firewallPolicyParams.asPolicy, s.killswitch)
  | .connecting state => state.firewallPolicyParams.Fits s ∧
      ∃ p : ConnectingPolicyParameters, p.Fits s ∧ last = some (.policy p.asPolicy, s.killswitch)
  | .connected state => state.firewallPolicyParams.Fits s ∧
      ∃ p : ConnectedPolicyParameters, p.Fits s ∧ last = some (.policy p.asPolicy, s.killswitch)
  | .disconnecting _ => True
  | .finished => FinalRequest s last
  | .panicked => True

def State.LiveIn (state : State) (w : World) : Prop :=
  state.Live w.shared.tunnelSettings w.lastRequest

variable {w : World} {l : List Act} {C : Config → Event → Config → Prop} {target : Target}
  {state : State} {c : Config}

theorem State.LiveIn.of_eq {w' : World} (h : state.LiveIn w)
    (hsettings : w'.shared.tunnelSettings = w.shared.tunnelSettings)
    (hlast : w'.lastRequest = w.lastRequest) : state.LiveIn w' := by
  unfold State.LiveIn
  rw [hsettings, hlast]
  exact h

theorem idleRequest_of_idle (s : SharedState) :
    IdleRequest s.tunnelSettings (some (s.idleRequest, s.tunnelSettings.killswitch)) := by
  cases hk : s.tunnelSettings.killswitch with
  | true => simp [IdleRequest, SharedState.idleRequest, hk, idleBlockedPolicy]
  | false => simp [IdleRequest, SharedState.idleRequest, hk]

/-! ## Settings updates -/

section Settings

variable {s t : TunnelSettings} {d : TunnelSettingsDiff}

theorem TunnelSettings.allowLan_of_unchanged (hd : s.diff t = some d)
    (h : d.allowLanChanged = false) : s.allowLan = t.allowLan := by
  simpa [changes] using not_mem_changes hd h

theorem TunnelSettings.killswitch_of_unchanged (hd : s.diff t = some d)
    (h : d.killswitchChanged = false) : s.killswitch = t.killswitch := by
  simpa [changes] using not_mem_changes hd h

theorem TunnelSettings.inboundExemptions_of_unchanged (hd : s.diff t = some d)
    (h : d.inboundExemptionsChanged = false) : s.inboundExemptions = t.inboundExemptions := by
  simpa [changes] using not_mem_changes hd h

theorem ConnectedState.killswitch_of_keepsTunnel (hd : s.diff t = some d)
    (h : keepsTunnel d t = true) : s.killswitch = t.killswitch :=
  killswitch_of_unchanged hd (unchanged_of_keepsTunnel h rfl nofun)

theorem ConnectingPolicyParameters.fits_hotApply {p : ConnectingPolicyParameters}
    (hp : p.Fits s) (hd : s.diff t = some d) : (p.hotApply d t).Fits t := by
  have hlan := allowLan_of_unchanged hd
  have hinbound := inboundExemptions_of_unchanged hd
  unfold Fits hotApply at *
  grind

theorem ConnectedPolicyParameters.fits_hotApply {p : ConnectedPolicyParameters}
    (hp : p.Fits s) (hd : s.diff t = some d) : (p.hotApply d t).Fits t := by
  have hlan := allowLan_of_unchanged hd
  have hinbound := inboundExemptions_of_unchanged hd
  unfold Fits hotApply at *
  grind

end Settings

/-! ## Runs -/

@[simp] def Act.request? (w : World) : Act → Option (Request × Bool)
  | .asked policy _ => some (.policy policy, w.shared.tunnelSettings.killswitch)
  | .idled _ => some (w.shared.idleRequest, w.shared.tunnelSettings.killswitch)
  | .released _ => some (.reset, w.killswitch)
  | _ => none

@[simp] theorem World.lastRequest_act (a : Act) :
    (w.act a).lastRequest = (a.request? w).or w.lastRequest := by
  cases a with
  | idled pinned => cases pinned <;> rfl
  | _ => rfl

theorem ConnectingState.live_of_asked {self : ConnectingState}
    (hfits : self.firewallPolicyParams.Fits w.shared.tunnelSettings)
    (hlast : w.lastRequest = some (.policy self.firewallPolicyParams.asPolicy,
      w.shared.tunnelSettings.killswitch)) : (State.connecting self).LiveIn w :=
  ⟨hfits, _, hfits, hlast⟩

theorem ConnectedState.live_of_asked {self : ConnectedState}
    (hfits : self.firewallPolicyParams.Fits w.shared.tunnelSettings)
    (hlast : w.lastRequest = some (.policy self.firewallPolicyParams.asPolicy,
      w.shared.tunnelSettings.killswitch)) : (State.connected self).LiveIn w :=
  ⟨hfits, _, hfits, hlast⟩

attribute [local simp] State.LiveIn State.Live

theorem Enters.live {s : State} (h : Enters True target w l s)
    (hkeeps : target.Keeps fun s => s.LiveIn w) : s.LiveIn (w.acts l) := by
  induction h with
  | stays => exact World.acts_nil _ ▸ hkeeps
  | error refused => simp [idleRequest_of_idle]
  | disconnected =>
    simp only [State.LiveIn, State.Live, World.acts_cons, World.acts_nil]
    exact idleRequest_of_idle _
  | offline refused => simp
  | connecting =>
    refine ConnectingState.live_of_asked ?_ ?_
    · simp [ConnectingPolicyParameters.Fits, ConnectingState.initial,
        ConnectingPolicyParameters.initial]
    · simp [ConnectingState.initial]
  | connectingOffline rest ih | connectedUnresolved hparams acts rest ih =>
    exact World.acts_append .. ▸ ih trivial
  | disconnecting => trivial
  | connected hparams =>
    refine live_of_asked ?_ ?_
    · simp [ConnectedPolicyParameters.Fits, initial, ConnectedPolicyParameters.initial, hparams]
    · simp [initial]
  | disconnectedRefused refused | connectingRefused refused | connectedRefused refused =>
    exact absurd trivial refused

section Handles

variable {w : World} {event : Event} {l : List Act} {target : Target}

theorem IdleApiAccess.Handles.idleRequest {ok : Bool} (h : IdleApiAccess.Handles True event l ok)
    (hlive : IdleRequest w.shared.tunnelSettings w.lastRequest) :
    IdleRequest (w.acts l).shared.tunnelSettings (w.acts l).lastRequest := by
  cases h with
  | resolved =>
    simp only [World.acts_cons, World.acts_nil]
    exact idleRequest_of_idle _
  | refused refused => exact absurd trivial refused
  | unresolved => simpa using hlive

theorem Releases.final (h : Releases True w l)
    (hlive : w.shared.tunnelSettings.killswitch = true →
      ∃ p, w.lastRequest = some (.policy p, true)) :
    FinalRequest (w.acts l).shared.tunnelSettings (w.acts l).lastRequest := by
  cases h with
  | keeps hkillswitch => simp [FinalRequest, hkillswitch, hlive]
  | resets hkillswitch refused => simp [FinalRequest, hkillswitch]

theorem DisconnectedState.Handles.live (h : DisconnectedState.Handles True event l target)
    (hlive : IdleRequest w.shared.tunnelSettings w.lastRequest) :
    target.Keeps fun s => s.LiveIn (w.acts l) := by
  cases h with
  | @settings _ changed =>
    cases changed with
    | _ => simp [-State.LiveIn]; exact idleRequest_of_idle _
  | api handles => exact handles.idleRequest hlive
  | refreshTimer => simpa using hlive
  | shutdown => simpa using hlive.final
  | _ => trivial

theorem ErrorState.Handles.live {self : ErrorState} (h : self.Handles True w event l target)
    (hlive : IdleRequest w.shared.tunnelSettings w.lastRequest) :
    target.Keeps fun s => s.LiveIn (w.acts l) := by
  cases h with
  | settings hdiff hreapplies =>
    simp only [reapplies, Bool.or_eq_false_iff] at hreapplies
    have hlan := allowLan_of_unchanged hdiff hreapplies.1.1.1
    have hkillswitch := killswitch_of_unchanged hdiff hreapplies.1.1.2
    rw [IdleRequest, hlan, hkillswitch] at hlive
    simpa [IdleRequest] using hlive
  | settingsRefused hdiff refused => exact absurd trivial refused
  | settingsTaken hdiff hreapplies => simp [-State.LiveIn]; exact idleRequest_of_idle _
  | api handles => exact handles.idleRequest hlive
  | refreshTimer => simpa using hlive
  | shutdown releases => exact releases.final hlive.final.1
  | _ => trivial

theorem OfflineState.Handles.live {self : OfflineState} (h : self.Handles True w event l target)
    (hlive : (State.offline self).LiveIn w) : target.Keeps fun s => s.LiveIn (w.acts l) := by
  cases h with
  | connectStays | disconnect => simpa using hlive
  | @settings settings diff ok hdiff refused =>
    have hunchanged := allowLan_of_unchanged hdiff
    have hlan : (self.updatedParams diff settings).allowLan = settings.allowLan := by
      unfold updatedParams
      grind [State.LiveIn, State.Live]
    cases hasks : diff.allowLanChanged || diff.killswitchChanged with
    | true => simp [Target.Keeps, hlan]
    | false =>
      rw [Bool.or_eq_false_iff] at hasks
      have hkillswitch := killswitch_of_unchanged hdiff hasks.2
      have hsame : self.updatedParams diff settings = self.firewallPolicyParams := by
        simp [updatedParams, hasks.1]
      simpa [Target.Keeps, hsame, ← hkillswitch] using ⟨hsame ▸ hlan, hlive.2⟩
  | shutdown releases => exact releases.final fun hk => ⟨_, hlive.2.trans (by rw [hk])⟩
  | _ => trivial

theorem ConnectedState.Handles.live {self : ConnectedState}
    (h : self.Handles True w event l target) (hlive : (State.connected self).LiveIn w) :
    target.Keeps fun s => s.LiveIn (w.acts l) := by
  cases h with
  | @settingsKept settings diff hdiff hkeeps =>
    have hfits := ConnectedPolicyParameters.fits_hotApply hlive.1 hdiff
    have hkillswitch := killswitch_of_keepsTunnel hdiff hkeeps
    cases hasks : reapplies diff with
    | true =>
      refine live_of_asked ?_ (by simp [hkillswitch])
      simpa using hfits
    | false =>
      obtain ⟨-, p, hp, hlast⟩ := hlive
      have hp' := ConnectedPolicyParameters.fits_hotApply hp hdiff
      simp only [reapplies, Bool.or_eq_false_iff] at hasks
      refine ⟨?_, p, ?_, ?_⟩
      · simpa using hfits
      · simpa [ConnectedPolicyParameters.hotApply, hasks] using hp'
      · simpa [← hkillswitch] using hlast
  | bandwidthChecks => simpa using hlive
  | _ => trivial

theorem State.LiveIn.of_steady {state : State} {w' : World} (h : state.LiveIn w)
    (hsteady : w.Steady w') : state.LiveIn w' :=
  h.of_eq hsteady.tunnelSettings (congrArg (List.findSome? Effect.request?) hsteady.trace)

theorem ConnectingState.Handles.live {self : ConnectingState}
    (h : self.Handles True w event l target) (hlive : (State.connecting self).LiveIn w) :
    target.Keeps fun s => s.LiveIn (w.acts l) := by
  have hfails : ∀ {w grace culpable l self'}, (State.connecting self).LiveIn w →
      self.Fails grace culpable l self' → (State.connecting self').LiveIn (w.acts l) := by
    intro w grace culpable l self' hlive hfails
    have hparams : self'.firewallPolicyParams = self.firewallPolicyParams := by
      cases hfails <;> rfl
    refine State.LiveIn.of_steady ?_ (World.steady_acts hfails.accounts)
    simpa [hparams] using hlive
  cases h with
  | delayed | bandwidthFailedUnblamed | bandwidthEnded =>
    simpa using hlive
  | @starts resolved l self' t hsender settles =>
    have hparams : self'.firewallPolicyParams = (self.admitting resolved).firewallPolicyParams := by
      cases settles <;> rfl
    have hadmitted : (State.connecting self').LiveIn (w.acts (self.admitActs resolved t)) := by
      refine ConnectingState.live_of_asked ?_ ?_
      · rw [hparams]
        cases h : resolved.hasResolverOverrides <;>
          simpa [admitActs, h, ConnectingPolicyParameters.Fits, admitting] using hlive.1
      · cases h : resolved.hasResolverOverrides <;> simp [admitActs, h, hparams]
    have hsettled := hadmitted.of_steady (World.steady_acts settles.accounts)
    simpa using hsettled
  | selected hparams =>
    refine ConnectingState.live_of_asked ?_ (by simp)
    simpa [hparams, selectedParams, ConnectingPolicyParameters.Fits] using hlive.1
  | registered =>
    simp only [Target.Keeps, World.acts_nil]
    exact ⟨hlive.1, hlive.2⟩
  | interfaceUp =>
    refine ConnectingState.live_of_asked ?_ (by simp)
    simpa [interfaceParams, ConnectingPolicyParameters.Fits] using hlive.1
  | connectionFailed fails | registrationFailed fails => exact hfails hlive fails
  | bandwidthFailed fails =>
    rw [World.acts_cons]
    exact hfails (by simpa using hlive) fails
  | @settingsKept settings diff hdiff hkeeps =>
    have hfits := ConnectingPolicyParameters.fits_hotApply hlive.1 hdiff
    have hkillswitch := killswitch_of_keepsTunnel hdiff hkeeps
    cases hasks : reapplies diff with
    | true =>
      refine ConnectingState.live_of_asked ?_ (by simp)
      simpa using hfits
    | false =>
      obtain ⟨-, p, hp, hlast⟩ := hlive
      have hp' := ConnectingPolicyParameters.fits_hotApply hp hdiff
      simp only [reapplies, Bool.or_eq_false_iff] at hasks
      refine ⟨?_, p, ?_, ?_⟩
      · simpa using hfits
      · simpa [ConnectingPolicyParameters.hotApply, hasks] using hp'
      · simpa [← hkillswitch] using hlast
  | connect | disconnect | shutdown | offline | settingsLeft =>
    exact targetOr_cases (fun _ _ => trivial) fun _ => trivial
  | selectedRefused hparams refused | interfaceUpRefused refused => exact absurd trivial refused
  | _ => trivial

theorem State.Handles.live {state : State} (h : state.Handles True w event l target)
    (hlive : state.LiveIn w) : target.Keeps fun s => s.LiveIn (w.acts l) := by
  cases h with
  | ignored | same => simpa using hlive
  | disconnected handles | error handles | offline handles | connected handles
  | connecting handles => exact handles.live hlive
  | disconnecting handles =>
    cases handles with
    | waited =>
      rename_i self
      cases self.afterDisconnect <;> trivial
    | _ => trivial

end Handles

theorem Config.lastRequest_receive (c : Config) (event : Event) :
    (c.receive event).lastRequest = c.world.lastRequest := by
  rw [World.lastRequest, c.trace_receive event]
  rfl

theorem live_of_reachable (h : Reachable True C c) : c.state.LiveIn c.world := by
  refine h.invariant_of_moves (I := fun c => c.state.LiveIn c.world) ?_ ?_
  · rintro target w l s - htarget henters
    exact henters.live (by rcases htarget with rfl | rfl <;> trivial)
  · intro c event l target l' s _ hlive _ hhandles henters _
    exact henters.live (hhandles.live
      (hlive.of_eq (congrArg _ (c.shared_receive event)) (c.lastRequest_receive event)))

inductive PolicyKind where
  | blocked
  | connecting
  | connected
deriving DecidableEq

def policyKind : FirewallPolicy → PolicyKind
  | .connecting .. => .connecting
  | .connected .. => .connected
  | .blocked .. => .blocked

/-- The policy a state is protected by; none while a tunnel is taken down. -/
def State.policyKind : State → Option PolicyKind
  | .disconnected _ | .error _ | .offline _ => some .blocked
  | .connecting _ => some .connecting
  | .connected _ => some .connected
  | _ => none

/-- With the kill-switch on, the last request of a machine at rest is the policy of
its state, with the flag on, under the current settings. -/
theorem live_policy_matches_state {c : Config} {kind : PolicyKind} (h : Reachable True anyStep c)
    (hkillswitch : c.world.shared.tunnelSettings.killswitch = true)
    (hkind : c.state.policyKind = some kind) :
    ∃ p, c.world.lastRequest = some (.policy p, true) ∧ policyKind p = kind ∧
      p.allowLan = c.world.shared.tunnelSettings.allowLan ∧
      (kind ≠ .blocked →
        p.inboundExemptions = c.world.shared.tunnelSettings.inboundExemptions) := by
  have hlive := live_of_reachable h
  obtain ⟨state, w⟩ := c
  cases state with
  | disconnected self | error self =>
    obtain rfl := Option.some.inj hkind
    obtain ⟨eps, dns, hlast⟩ := hlive.1 hkillswitch
    exact ⟨_, hlast, rfl, rfl, fun hblocked => absurd rfl hblocked⟩
  | offline self =>
    obtain rfl := Option.some.inj hkind
    refine ⟨self.firewallPolicyParams.asPolicy, ?_, rfl, hlive.1,
      fun hblocked => absurd rfl hblocked⟩
    exact hlive.2.trans (congrArg (fun k => some (_, k)) hkillswitch)
  | connecting self | connected self =>
    obtain rfl := Option.some.inj hkind
    obtain ⟨p, hfits, hlast⟩ := hlive.2
    refine ⟨p.asPolicy, ?_, rfl, hfits.1, fun _ => hfits.2⟩
    exact hlast.trans (congrArg (fun k => some (_, k)) hkillswitch)
  | disconnecting self | finished | panicked => cases hkind

theorem live_policy_matches_state_connected :
    ∃ c, Reachable True anyStep c ∧ c.state.policyKind = some .connected ∧
      ∃ p, c.world.lastRequest = some (.policy p, true) ∧ policyKind p = .connected := by
  obtain ⟨c, hc, hk, hkind⟩ := exists_reachable_of_plays (connectSteps false)
    (fun _ => reliable_connectSteps false) (reachable_spawnedWith True sampleSettings)
    (P := fun c => c.world.shared.tunnelSettings.killswitch = true ∧
      c.state.policyKind = some .connected) (by decide +kernel)
  obtain ⟨p, hlast, hp, -⟩ := live_policy_matches_state hc hk hkind
  exact ⟨c, hc, hkind, p, hlast, hp⟩

/-! ## Shutdown -/

def Effect.settings? : Effect → Option TunnelSettings
  | .spawned s => some s
  | .handled (.command (.setTunnelSettings s)) _ => some s
  | _ => none

def World.received (w : World) : Option TunnelSettings := w.trace.findSome? Effect.settings?

theorem World.received_acts : (w.acts l).received = w.received := by
  induction l generalizing w with
  | nil => simp
  | cons a l ih =>
    rw [World.acts_cons, ih, World.received, World.trace_act]
    cases a with
    | idled pinned => cases pinned <;> rfl
    | _ => rfl

theorem Config.received_receive (c : Config) (event : Event) :
    (c.receive event).received = event.settings?.or c.world.received := by
  rw [World.received, c.trace_receive event, List.findSome?_cons]
  cases event with
  | command command => cases command <;> rfl
  | _ => rfl

theorem State.Handles.agrees_of_reliable {s : TunnelSettings}
    (h : state.Handles True w (.command (.setTunnelSettings s)) l target)
    (hrunning : state.running = true) : (w.acts l).shared.tunnelSettings.Agrees s := by
  by_cases hconnected : ∃ self, state = .connected self
  · obtain ⟨self, rfl⟩ := hconnected
    cases h with
    | ignored hignores => cases hignores
    | same hcompares hdiff =>
      rw [World.acts_nil]
      exact hdiff
    | connected handles =>
      refine handles.agrees_iff.1.2 ?_
      cases handles with
      | settingsRefused hdiff refused => exact absurd trivial refused
      | @settingsKept _ diff =>
        cases h : reapplies diff <;> simp [Act.refusesConnected]
      | @settingsLeft _ diff =>
        cases h : reapplies diff <;> simp [Act.refusesConnected, Act.cleanup]
  · exact h.agrees hrunning fun self hself => hconnected ⟨self, hself⟩

theorem received_killswitch (h : Reachable True C c) : ∃ s, c.world.received = some s ∧
      s.killswitch = c.world.shared.tunnelSettings.killswitch := by
  refine h.invariant_of_moves (I := fun c => ∃ s, c.world.received = some s ∧
    s.killswitch = c.world.shared.tunnelSettings.killswitch) ?_ ?_
  · rintro target w l s ⟨settings, _, _, _, _, rfl⟩ - henters
    exact ⟨settings, by rw [World.received_acts]; rfl, by rw [henters.settings]; rfl⟩
  · rintro c event l target l' s' - ⟨s, hreceived, hs⟩ haccepts hhandles henters -
    simp only [World.received_acts, henters.settings, c.received_receive]
    cases hevent : event.settings? with
    | some t =>
      obtain rfl := Event.eq_of_settings? hevent
      exact ⟨t, rfl, (hhandles.agrees_of_reliable haccepts).killswitch.symm⟩
    | none =>
      rw [World.settings_acts (hhandles.settings hevent), c.shared_receive event]
      exact ⟨s, hreceived, hs⟩

/-- A machine that has finished leaves a policy with the flag on if it was last sent
settings with the kill-switch on, and a reset otherwise. -/
theorem finished_keeps_armed_router {c : Config} (h : Reachable True anyStep c)
    (hfinished : c.state = .finished) : ∃ s, c.world.received = some s ∧
      (s.killswitch = true → ∃ p, c.world.lastRequest = some (.policy p, true)) ∧
      (s.killswitch = false → ∃ k, c.world.lastRequest = some (.reset, k)) := by
  obtain ⟨s, hreceived, hs⟩ := received_killswitch h
  have hlive := live_of_reachable h
  rw [State.LiveIn, hfinished] at hlive
  refine ⟨s, hreceived, fun hon => hlive.1 ?_, fun hoff => hlive.2 ?_⟩
  · rw [← hs, hon]
  · rw [← hs, hoff]

def shutdownSteps : List (Event × Script) :=
  connectSteps false ++ [(.shutdown, .smooth), (.monitorWaited, .smooth), (.shutdown, .smooth)]

theorem finished_keeps_armed_router_session : ∃ c, Reachable True anyStep c ∧
    c.state = .finished ∧ ∃ s, c.world.received = some s ∧
      (s.killswitch = true → ∃ p, c.world.lastRequest = some (.policy p, true)) := by
  have hreliable : ∀ p ∈ shutdownSteps, p.2.Reliable := by
    intro p hp
    rw [shutdownSteps, List.mem_append] at hp
    rcases hp with hp | hp
    · exact reliable_connectSteps false p hp
    · simp only [List.mem_cons, List.not_mem_nil, or_false] at hp
      rcases hp with rfl | rfl | rfl <;> exact fun _ => rfl
  obtain ⟨c, hc, hfinished⟩ := exists_reachable_of_plays shutdownSteps
    (fun _ => hreliable) (reachable_spawnedWith True sampleSettings)
    (P := fun c => c.state = .finished) (by decide +kernel)
  obtain ⟨s, hs, hon, -⟩ := finished_keeps_armed_router hc hfinished
  exact ⟨c, hc, hfinished, s, hs, hon⟩

end TunnelStateMachine
