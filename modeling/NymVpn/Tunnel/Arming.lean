import NymVpn.Tunnel.Policies

/-!
# Turning the kill-switch on

The firewall is armed when the last request was a policy with the flag on. An update that
turns the kill-switch on arms it in four of the states; a connected machine takes its tunnel
down without a request, and one that is taking a tunnel down only notes the settings.
-/

namespace TunnelStateMachine

open Net NymFirewall GatewayDirectory Program World

/-- The last request was a policy with the kill-switch flag on. -/
def World.Armed (w : World) : Prop := ∃ p, w.lastRequest = some (.policy p, true)

/-- Since the event was received, routes were only removed behind an armed firewall. -/
def routesGuarded : List Effect → Prop
  | [] => True
  | .handled _ _ :: _ => True
  | .removedRoutes :: rest =>
    (∃ p, rest.findSome? Effect.request? = some (.policy p, true)) ∧ routesGuarded rest
  | _ :: rest => routesGuarded rest

def World.RoutesGuarded (w : World) : Prop := routesGuarded w.trace

structure World.Covered (w : World) : Prop where
  killswitch : w.shared.tunnelSettings.killswitch = true
  armed : w.Armed
  routes : w.RoutesGuarded

@[simp] def Act.KeepsArmed (a : Act) : Prop :=
  (∀ s, a.settings? = some s → s.killswitch = true) ∧ ∀ ok, a ≠ .released ok

section Covered

variable {reliable : Prop} {w : World} {a : Act} {l : List Act} {target : Target}

theorem World.RoutesGuarded.act (h : w.RoutesGuarded)
    (harmed : a = .removedRoutes → w.Armed) : (w.act a).RoutesGuarded := by
  rw [World.RoutesGuarded, trace_act]
  cases a with
  | removedRoutes => exact ⟨harmed rfl, h⟩
  | idled pinned => cases pinned <;> exact h
  | _ => exact h

theorem World.armed_act (hon : w.shared.tunnelSettings.killswitch = true)
    (hreleased : ∀ ok, a ≠ .released ok) (h : w.Armed ∨ (a.request? w).isSome = true) :
    (w.act a).Armed := by
  have hidle : ∃ p, w.shared.idleRequest = .policy p := ⟨_, if_pos hon⟩
  unfold World.Armed at h ⊢
  rw [lastRequest_act]
  cases a <;> simp_all

theorem World.Covered.act (h : w.Covered) (ha : a.KeepsArmed) : (w.act a).Covered where
  killswitch := by
    rw [settings_act]
    cases hs : a.settings? with
    | none => exact h.killswitch
    | some s => exact ha.1 s hs
  armed := armed_act h.killswitch ha.2 (.inl h.armed)
  routes := h.routes.act fun _ => h.armed

theorem World.Covered.acts (h : w.Covered) (hl : ∀ a ∈ l, a.KeepsArmed) : (w.acts l).Covered := by
  induction l generalizing w with
  | nil => simpa using h
  | cons a l ih =>
    rw [acts_cons]
    exact ih (h.act (hl a (by simp))) fun b hb => hl b (by simp [hb])

theorem covered_request (hon : w.shared.tunnelSettings.killswitch = true)
    (hroutes : w.RoutesGuarded) (hrequest : (a.request? w).isSome = true)
    (hreleased : ∀ ok, a ≠ .released ok) : (w.act a).Covered where
  killswitch := by cases a <;> simp_all
  armed := armed_act hon hreleased (.inr hrequest)
  routes := hroutes.act (by rintro rfl; cases hrequest)

theorem Enters.keepsArmed {s : State}
    (h : Enters reliable target w l s) : ∀ a ∈ l, a.KeepsArmed := by
  intro a ha
  have hacts := h.acts a ha
  cases a <;> first | exact hacts.elim | simp

theorem State.Handles.keepsArmed {state : State} {event : Event}
    (h : state.Handles reliable w event l target)
    (hon : w.shared.tunnelSettings.killswitch = true)
    (hevent : ∀ s, event.settings? = some s → s.killswitch = true) : ∀ a ∈ l, a.KeepsArmed := by
  intro a ha
  have hacts := h.acts a ha
  cases a with
  | settings s => simpa using hevent s (by rw [hacts]; rfl)
  | released ok => cases hon.symm.trans hacts.1
  | _ => simp

end Covered

/-! ## Runs -/

section Runs

variable {w : World} {s : TunnelSettings} {c : Config} {target : Target} {state : State}
  {l : List Act}

theorem State.LiveIn.armed (h : state.LiveIn w)
    (hon : w.shared.tunnelSettings.killswitch = true) (hrunning : state.running = true)
    (hdisconnecting : ∀ self, state ≠ .disconnecting self) : w.Armed := by
  have hflag : ∀ p : FirewallPolicy,
      w.lastRequest = some (.policy p, w.shared.tunnelSettings.killswitch) → w.Armed :=
    fun p hp => ⟨p, hp.trans (congrArg (fun k => some (_, k)) hon)⟩
  cases state with
  | disconnected self | error self =>
    obtain ⟨eps, dns, hlast⟩ := h.1 hon
    exact ⟨_, hlast⟩
  | offline self => exact hflag _ h.2
  | connecting self | connected self =>
    obtain ⟨p, -, hlast⟩ := h.2
    exact hflag _ hlast
  | disconnecting self => exact absurd rfl (hdisconnecting self)
  | finished | panicked => cases hrunning

/-- An update that turns the kill-switch on finds it on already, or a state that asks
for a policy under the new settings, or an armed firewall. -/
def Config.TakesEffect (c : Config) : Prop :=
  match c.state with
  | .connected _ => c.world.shared.tunnelSettings.killswitch = true
  | .disconnecting _ => c.world.Armed
  | _ => True

theorem armed_receive (event : Event) (h : c.world.Armed) : (c.receive event).Armed := by
  rw [World.Armed, c.lastRequest_receive event]
  exact h

theorem routesGuarded_receive (event : Event) : (c.receive event).RoutesGuarded := by
  unfold World.RoutesGuarded
  rw [c.trace_receive event]
  trivial

/-- An update that turns the kill-switch on arms the firewall in a state that asks for
a policy under the new settings. -/
theorem State.Handles.covered_of_off
    (h : state.Handles True w (.command (.setTunnelSettings s)) l target)
    (hrunning : state.running = true) (hroutes : w.RoutesGuarded)
    (hoff : w.shared.tunnelSettings.killswitch = false) (hon : s.killswitch = true)
    (hconnected : ∀ self, state ≠ .connected self)
    (hdisconnecting : ∀ self, state ≠ .disconnecting self) : (w.acts l).Covered := by
  have hne : w.shared.tunnelSettings.killswitch ≠ s.killswitch := by
    rw [hoff, hon]
    decide
  have hchanged : ∀ {diff}, w.shared.tunnelSettings.diff s = some diff →
      diff.killswitchChanged = true :=
    fun hdiff => (TunnelSettings.killswitchChanged_diff hdiff).2 hne
  -- The settings come with a request, before or after a reset of the DNS.
  have hrequest : ∀ {a l}, (a.request? (w.act (.settings s))).isSome = true →
      (∀ ok, a ≠ .released ok) → (∀ b ∈ l, b.KeepsArmed) →
      (w.acts (.settings s :: a :: l)).Covered := by
    intro a l ha hreleased hl
    simp only [acts_cons]
    exact (covered_request (by simpa using hon) (hroutes.act (by simp)) ha hreleased).acts hl
  cases h with
  | ignored hignores => cases (state.hears_settings hrunning s).symm.trans hignores
  | same hcompares hdiff =>
    obtain ⟨diff, hsome, -⟩ := TunnelSettings.exists_diff_of_killswitch hne
    cases hdiff.symm.trans hsome
  | disconnected handles =>
    cases handles with
    | @settings _ changed _ ok pinned t =>
      cases changed with
      | true =>
        simp only [Act.onlyIf_true, List.cons_append, List.nil_append, acts_cons]
        rw [← acts_cons]
        refine (covered_request ?_ ?_ ?_ ?_).acts ?_
        · simpa using hon
        · exact (hroutes.act (by simp)).act (by simp)
        · simp
        · simp
        · simp
      | false => exact hrequest (by simp) (by simp) (by simp)
    | settingsRefused refused => exact absurd trivial refused
    | api handles | apiRefused handles => cases handles
  | error handles =>
    cases handles with
    | settings hdiff hreapplies =>
      have := hchanged hdiff
      simp_all [ErrorState.reapplies, TunnelSettingsDiff.killswitchChanged]
    | settingsRefused hdiff refused => exact absurd trivial refused
    | settingsTaken | settingsResolved => exact hrequest (by simp) (by simp) (by simp)
    | api handles => cases handles
  | offline handles =>
    cases handles with
    | settings hdiff =>
      rw [hchanged hdiff, Bool.or_true]
      exact hrequest (by simp) (by simp) (by simp)
  | connecting handles =>
    cases handles with
    | settingsRefused hdiff refused => exact absurd trivial refused
    | settingsKept hdiff hkeeps =>
      exact absurd (ConnectedState.killswitch_of_keepsTunnel hdiff hkeeps) hne
    | settingsLeft hdiff =>
      rw [ConnectingState.reapplies, hchanged hdiff, Bool.or_true]
      exact hrequest (by simp) (by simp) (by simp)
  | connected handles => exact absurd rfl (hconnected _)
  | disconnecting handles => exact absurd rfl (hdisconnecting _)

/-- An update that takes effect arms the firewall before it removes any routes. -/
theorem State.Handles.covered
    (h : c.state.Handles True (c.receive (.command (.setTunnelSettings s)))
      (.command (.setTunnelSettings s)) l target) (hlive : c.state.LiveIn c.world)
    (hrunning : c.state.running = true) (hon : s.killswitch = true) (heffect : c.TakesEffect) :
    ((c.receive (.command (.setTunnelSettings s))).acts l).Covered := by
  have hroutes := routesGuarded_receive (c := c) (.command (.setTunnelSettings s))
  have hreceive := c.shared_receive (.command (.setTunnelSettings s))
  by_cases hdisconnecting : ∃ self, c.state = .disconnecting self
  · obtain ⟨self, hself⟩ := hdisconnecting
    have harmed : c.world.Armed := by simpa [Config.TakesEffect, hself] using heffect
    rw [hself] at h
    cases h with
    | ignored hignores => cases hignores
    | same hcompares => cases hcompares
    | disconnecting handles =>
      cases handles with
      | settings =>
        simp only [acts_cons, acts_nil]
        exact ⟨by simpa using hon, by simpa [World.Armed] using armed_receive _ harmed,
          hroutes.act (by simp)⟩
  · have hnot := fun self hself => hdisconnecting ⟨self, hself⟩
    cases hk : c.world.shared.tunnelSettings.killswitch with
    | true =>
      have hcovered : (c.receive (.command (.setTunnelSettings s))).Covered :=
        ⟨hreceive ▸ hk, armed_receive _ (hlive.armed hk hrunning hnot), hroutes⟩
      refine hcovered.acts (h.keepsArmed hcovered.killswitch ?_)
      rintro t ⟨⟩
      exact hon
    | false =>
      refine h.covered_of_off hrunning hroutes (hreceive ▸ hk) hon ?_ hnot
      intro self hself
      rw [Config.TakesEffect, hself] at heffect
      cases hk.symm.trans heffect

/-- A connected machine asks with the old flag, if at all, and a machine that takes a
tunnel down does not ask. -/
theorem Step.not_armed {c' : Config} (h : Step True c (.command (.setTunnelSettings s)) c')
    (hlive : c.state.LiveIn c.world) (hon : s.killswitch = true) (heffect : ¬c.TakesEffect) :
    ¬c'.world.Armed := by
  obtain ⟨l, target, l', hhandles, henters, hworld⟩ := h.moves
  have hreceive := c.shared_receive (.command (.setTunnelSettings s))
  rw [hworld]
  generalize c'.state = state' at henters
  cases hstate : c.state with
  | disconnecting self =>
    have harmed : ¬c.world.Armed := by simpa [Config.TakesEffect, hstate] using heffect
    rw [hstate] at hhandles
    cases hhandles with
    | ignored hignores => cases hignores
    | same hcompares => cases hcompares
    | disconnecting handles =>
      cases handles
      cases henters
      simpa [World.Armed, c.lastRequest_receive] using harmed
  | connected self =>
    have hoff : c.world.shared.tunnelSettings.killswitch = false := by
      simpa [Config.TakesEffect, hstate] using heffect
    have hne : (c.receive (.command (.setTunnelSettings s))).shared.tunnelSettings.killswitch ≠
        s.killswitch := by
      rw [hreceive, hoff, hon]
      decide
    rw [hstate] at hhandles hlive
    obtain ⟨-, p, -, hlast⟩ := hlive
    cases hhandles with
    | ignored hignores => cases hignores
    | same hcompares hdiff =>
      obtain ⟨diff, hsome, -⟩ := TunnelSettings.exists_diff_of_killswitch hne
      cases hdiff.symm.trans hsome
    | connected handles =>
      cases handles with
      | settingsRefused hdiff refused => exact absurd trivial refused
      | settingsKept hdiff hkeeps =>
        exact absurd (ConnectedState.killswitch_of_keepsTunnel hdiff hkeeps) hne
      | @settingsLeft _ diff =>
        cases henters
        cases hasks : ConnectedState.reapplies diff <;>
          simp_all [World.Armed, Act.cleanup, c.lastRequest_receive]
  | _ => exact absurd (by simp [Config.TakesEffect, hstate]) heffect

def takesEffect (c : Config) (event : Event) (_ : Config) : Prop :=
  ∀ s, event = .command (.setTunnelSettings s) → s.killswitch = true → c.TakesEffect

theorem covered_of_reachable (h : Reachable True takesEffect c)
    (hon : c.world.shared.tunnelSettings.killswitch = true) : c.world.Covered := by
  refine h.invariant_of_moves (I := fun c =>
    c.world.shared.tunnelSettings.killswitch = true → c.world.Covered) ?_ ?_ hon
  · rintro target w l s ⟨_, _, _, _, _, rfl⟩ htarget henters hon
    rw [henters.settings] at hon
    -- The first state asks for its policy before anything else is done about the tunnel.
    rcases htarget with rfl | rfl
    · cases henters with
      | offline =>
        simp only [acts_cons, acts_nil]
        refine covered_request ?_ ?_ ?_ ?_
        · simpa using hon
        · trivial
        · simp
        · simp
    · cases henters with
      | disconnectedRefused refused => exact absurd trivial refused
      | disconnected =>
        simp only [acts_cons]
        rw [← acts_cons, ← acts_cons, ← acts_cons]
        refine (covered_request ?_ ?_ ?_ ?_).acts ?_
        · simpa using hon
        · trivial
        · simp
        · simp
        · simp
  · rintro c event l target l' s' hc hcovered haccepts hhandles henters heffect hon
    have hlive := live_of_reachable hc
    refine World.Covered.acts ?_ henters.keepsArmed
    rw [henters.settings] at hon
    cases hevent : event.settings? with
    | some t =>
      obtain rfl := Event.eq_of_settings? hevent
      have ht := (hhandles.agrees_of_reliable haccepts).killswitch.symm.trans hon
      exact hhandles.covered hlive haccepts ht (heffect t rfl ht)
    | none =>
      rw [settings_acts (hhandles.settings hevent), c.shared_receive event] at hon
      have hw := hcovered hon
      have hreceive : (c.receive event).Covered :=
        ⟨c.shared_receive event ▸ hon, armed_receive event hw.armed, routesGuarded_receive event⟩
      exact hreceive.acts (hhandles.keepsArmed hreceive.killswitch (by simp [hevent]))

/-- An update that turns the kill-switch on has armed the firewall when it is handled, before
any routes are removed, exactly when it takes effect in that state; in a run where every such
update does, the kill-switch is in force whenever it is on. -/
theorem killswitch_on_takes_effect_iff (hc : Reachable True anyStep c) :
    (∀ c' s, Step True c (.command (.setTunnelSettings s)) c' → s.killswitch = true →
      (c'.world.Armed ∧ c'.world.RoutesGuarded ↔ c.TakesEffect)) ∧
    (Reachable True takesEffect c → c.world.shared.tunnelSettings.killswitch = true →
      c.world.Armed ∧ c.world.RoutesGuarded) := by
  refine ⟨fun c' s hstep hon => ⟨fun hc' => ?_, fun heffect => ?_⟩, fun heffect hon => ?_⟩
  · by_contra hno
    exact hstep.not_armed (live_of_reachable hc) hon hno hc'.1
  · obtain ⟨l, target, l', hhandles, henters, hworld⟩ := hstep.moves
    have hcovered := (hhandles.covered (live_of_reachable hc) hstep.accepts hon heffect).acts
      henters.keepsArmed
    exact hworld ▸ ⟨hcovered.armed, hcovered.routes⟩
  · have hcovered := covered_of_reachable heffect hon
    exact ⟨hcovered.armed, hcovered.routes⟩

def killswitchOff : TunnelSettings := { sampleSettings with killswitch := false }

/-- An attempt that is told to turn the kill-switch on. -/
theorem killswitch_on_takes_effect_iff_connecting : ∃ c c', Reachable True anyStep c ∧
    c.world.shared.tunnelSettings.killswitch = false ∧
    Step True c (.command (.setTunnelSettings sampleSettings)) c' ∧
    c'.world.Armed ∧ c'.world.RoutesGuarded := by
  obtain ⟨⟨state, w⟩, c', hc, hstep, hoff, hdelayed⟩ := exists_step_of_plays
    [(.command (.connect false), .smooth)] (.command (.setTunnelSettings sampleSettings)) .smooth
    (fun _ => ⟨fun _ => rfl, by simp [Script.Reliable, Script.smooth]⟩)
    (reachable_spawnedWith True killswitchOff)
    (P := fun c _ => c.world.shared.tunnelSettings.killswitch = false ∧ c.state.delayed = true)
    (by decide +kernel)
  have heffect : Config.TakesEffect ⟨state, w⟩ := by
    cases state with
    | connecting self => trivial
    | _ => cases hdelayed
  exact ⟨_, c', hc, hoff, hstep,
    ((killswitch_on_takes_effect_iff hc).1 c' sampleSettings hstep rfl).2 heffect⟩

/-- A connected machine that is told to turn the kill-switch on removes the routes
of its tunnel with the firewall last asked for a policy with the flag off. -/
theorem killswitch_on_without_effect : ∃ c c', Reachable True anyStep c ∧
    Step True c (.command (.setTunnelSettings sampleSettings)) c' ∧
    sampleSettings.killswitch = true ∧ ¬(c'.world.Armed ∧ c'.world.RoutesGuarded) := by
  obtain ⟨c, c', hc, hstep, hflag⟩ := exists_step_of_plays (connectSteps false)
    (.command (.setTunnelSettings sampleSettings)) .smooth
    (fun _ => ⟨fun _ => rfl, reliable_connectSteps false⟩)
    (reachable_spawnedWith True killswitchOff)
    (P := fun _ c' => c'.world.lastRequest.map Prod.snd = some false) (by decide +kernel)
  refine ⟨c, c', hc, hstep, rfl, fun hcovered => ?_⟩
  obtain ⟨p, hp⟩ := hcovered.1
  rw [hp] at hflag
  cases hflag

end Runs

end TunnelStateMachine
