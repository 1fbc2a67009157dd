import NymVpn.Tunnel.Moves

/-!
# Settings updates

Every state takes the settings it is sent, whatever the firewall answers, except the
connected one: when the firewall refuses, it enters the error state with the old settings.
-/

namespace TunnelStateMachine

open Net NymFirewall GatewayDirectory Program World

namespace TunnelSettings

@[simp] theorem agrees_refl (s : TunnelSettings) : s.Agrees s :=
  diff_eq_none_iff.2 fun field => by simp [changes]

end TunnelSettings

def World.current (w : World) : List Effect :=
  w.trace.takeWhile fun e => !e.isHandled

def World.ConnectedPolicyRefused (w : World) : Prop :=
  ∃ p k t, p.isConnected = true ∧ Effect.request (.policy p) k t false ∈ w.current

section Refusals

variable {reliable : Prop} {w : World}

@[simp] def Act.refusesConnected : Act → Bool
  | .asked policy ok => policy.isConnected && !ok
  | _ => false

theorem World.current_act {a : Act} : (w.act a).current = a.effects w ++ w.current := by
  rw [current, trace_act, List.takeWhile_append_of_pos]
  · rfl
  · exact fun e he => by simp [Act.isHandled_effects he]

theorem World.refused_act {a : Act} : (w.act a).ConnectedPolicyRefused ↔
    a.refusesConnected = true ∨ w.ConnectedPolicyRefused := by
  unfold World.ConnectedPolicyRefused
  simp only [current_act, List.mem_append, and_or_left, exists_or]
  refine or_congr_left ?_
  cases a with
  | idled pinned =>
    have hidle : ∀ p, w.shared.idleRequest = .policy p → p.isConnected = false := by
      unfold SharedState.idleRequest
      grind [idleBlockedPolicy, FirewallPolicy.isConnected]
    cases pinned <;> simp [Act.effects]
    all_goals grind
  | asked policy ok => cases ok <;> simp [Act.effects]
  | _ => simp [Act.effects]

theorem World.refused_acts {l : List Act} : (w.acts l).ConnectedPolicyRefused ↔
    (∃ a ∈ l, a.refusesConnected = true) ∨ w.ConnectedPolicyRefused := by
  induction l generalizing w with
  | nil => simp
  | cons a l ih => simp [ih, refused_act, or_left_comm, or_assoc]

end Refusals

section

variable {reliable : Prop} {s : TunnelSettings} {target : Target} {w : World} {l : List Act}
  {state : State}

theorem Enters.refuses_none (h : Enters reliable target w l state)
    (htarget : target = .error .setFirewallPolicy ∨ (∃ after m, target = .disconnecting after m) ∨
      ∃ state, target = .stays state) : ∀ a ∈ l, a.refusesConnected = false := by
  rcases htarget with rfl | ⟨after, m, rfl⟩ | ⟨state, rfl⟩ <;> cases h <;> simp

theorem State.hears_settings (state : State) (h : state.running = true) (s : TunnelSettings) :
    state.ignores (.command (.setTunnelSettings s)) = false := by
  cases state <;> first | rfl | cases h

theorem State.Handles.agrees
    (h : state.Handles reliable w (.command (.setTunnelSettings s)) l target)
    (hrunning : state.running = true) (hconnected : ∀ self, state ≠ .connected self) :
    (w.acts l).shared.tunnelSettings.Agrees s := by
  cases h with
  | ignored hignores => cases (state.hears_settings hrunning s).symm.trans hignores
  | same hcompares hdiff =>
    rw [acts_nil]
    exact hdiff
  | disconnected handles =>
    cases handles with
    | @settings _ changed | @settingsRefused _ changed => cases changed <;> simp
    | api handles | apiRefused handles => cases handles
  | error handles =>
    cases handles with
    | api handles => cases handles
    | _ => simp
  | offline handles =>
    cases handles with
    | @settings _ diff =>
      cases h : diff.allowLanChanged || diff.killswitchChanged <;> simp
  | disconnecting handles =>
    cases handles with
    | settings => simp
  | connecting handles =>
    cases handles with
    | settingsRefused => simp
    | @settingsKept _ diff =>
      cases h : ConnectingState.reapplies diff <;> simp
    | @settingsLeft _ diff =>
      rename_i self _ _
      cases h : ConnectingState.reapplies diff <;>
        cases h : self.tunnelMonitorHandle.isSome <;> simp
  | connected handles => exact absurd rfl (hconnected _)

theorem ConnectedState.Handles.agrees_iff {self : ConnectedState}
    (h : self.Handles reliable w (.command (.setTunnelSettings s)) l target) :
    ((w.acts l).shared.tunnelSettings.Agrees s ↔ ∀ a ∈ l, a.refusesConnected = false) ∧
      (target = .error .setFirewallPolicy ∨ (∃ after m, target = .disconnecting after m) ∨
        ∃ state, target = .stays state) := by
  cases h with
  | settingsRefused hdiff =>
    refine ⟨?_, .inl rfl⟩
    simp [TunnelSettings.Agrees, hdiff, ConnectedPolicyParameters.asPolicy,
      FirewallPolicy.isConnected]
  | @settingsKept _ diff =>
    refine ⟨?_, .inr (.inr ⟨_, rfl⟩)⟩
    cases h : reapplies diff <;> simp
  | @settingsLeft _ diff =>
    refine ⟨?_, .inr (.inl ⟨_, _, rfl⟩)⟩
    cases h : reapplies diff <;> simp [Act.cleanup]

end

/-- After a settings update the machine runs under the new settings, unless it was
connected and the firewall refused the policy it asked for. -/
theorem setTunnelSettings_agrees_iff {s : TunnelSettings} {c c' : Config}
    (h : Step False c (.command (.setTunnelSettings s)) c') :
    c'.world.shared.tunnelSettings.Agrees s ↔
      ¬((∃ self, c.state = .connected self) ∧ c'.world.ConnectedPolicyRefused) := by
  obtain ⟨l, target, l', hhandles, henters, hworld⟩ := h.moves
  rw [hworld, henters.settings]
  by_cases hconnected : ∃ self, c.state = .connected self
  · obtain ⟨self, hself⟩ := hconnected
    rw [and_iff_right ⟨self, hself⟩, ← acts_append, refused_acts,
      or_iff_left (by rintro ⟨p, k, t, -, hmem⟩; cases hmem)]
    rw [hself] at hhandles
    cases hhandles with
    | ignored hignores => cases hignores
    | same hcompares hdiff =>
      have hnone := henters.refuses_none (.inr (.inr ⟨_, rfl⟩))
      refine iff_of_true ?_ (by grind)
      rw [acts_nil]
      exact hdiff
    | connected handles =>
      obtain ⟨hiff, htarget⟩ := handles.agrees_iff
      have hnone := henters.refuses_none htarget
      rw [hiff]
      grind
  · refine iff_of_true ?_ fun hrefused => hconnected hrefused.1
    exact hhandles.agrees h.accepts fun self hself => hconnected ⟨self, hself⟩

def allowLanSettings : TunnelSettings := { sampleSettings with allowLan := true }

def refuses : Script := { requestOk := fun _ => false }

theorem setTunnelSettings_lost_when_refused : ∃ c c', Reachable False anyStep c ∧
    Step False c (.command (.setTunnelSettings allowLanSettings)) c' ∧
    ¬c'.world.shared.tunnelSettings.Agrees allowLanSettings :=
  exists_step_of_plays (connectSteps false) _ refuses False.elim
    (reachable_spawnedWith False sampleSettings) (by decide +kernel)

theorem setTunnelSettings_agrees_iff_disconnected : ∃ c c', Reachable False anyStep c ∧
    Step False c (.command (.setTunnelSettings allowLanSettings)) c' ∧
    c'.world.shared.tunnelSettings.Agrees allowLanSettings := by
  obtain ⟨c, c', hc, hstep, hstate⟩ := exists_step_of_plays []
    (.command (.setTunnelSettings allowLanSettings)) refuses False.elim
    (reachable_spawnedWith False sampleSettings)
    (P := fun c _ => c.state.holds = none) (by decide +kernel)
  refine ⟨c, c', hc, hstep, (setTunnelSettings_agrees_iff hstep).2 ?_⟩
  rintro ⟨⟨state, hconnected⟩, -⟩
  rw [hconnected] at hstate
  cases hstate

end TunnelStateMachine
