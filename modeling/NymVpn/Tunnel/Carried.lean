import NymVpn.Tunnel.Updates

/-!
# Monitors and gateways that a state carries

The pair a state passes on is the one it has, or none, or the one its monitor has just
selected; the monitor it hears is the one it had, or none, or one started with its pair.
-/

namespace TunnelStateMachine

open Net NymFirewall GatewayDirectory Program State TunnelSettings

/-! ## The record of the monitors -/

def Effect.isRecorded : Effect → Bool
  | .started _ _ | .cancelled _ | .waited _ | .handled _ _ => true
  | _ => false

structure Monitors where
  next : ℕ
  phase : ℕ → MonitorPhase
  log : List Effect

namespace Monitors

def record (m : Monitors) (e : Effect) : Monitors := { m with log := e :: m.log }

def start (m : Monitors) (p : TunnelParameters) : Monitors :=
  { next := m.next + 1
    phase := Function.update m.phase m.next
      (if p.selectedGateways.isSome then .running else .selecting)
    log := .started m.next p :: m.log }

end Monitors

def World.monitors (w : World) : Monitors :=
  ⟨w.nextMonitor, w.phase, w.trace.filter Effect.isRecorded⟩

@[simp] def Act.onMonitors (w : World) : Act → Monitors
  | .started resolved gateways => w.monitors.start (w.shared.parameters resolved gateways)
  | .cancelled id => w.monitors.record (.cancelled id)
  | .waited id => w.monitors.record (.waited id)
  | _ => w.monitors

@[simp] theorem World.monitors_act (w : World) (a : Act) : (w.act a).monitors = a.onMonitors w := by
  cases a with
  | idled pinned => cases pinned <;> rfl
  | _ => rfl

@[simp] theorem World.monitors_onlyIf (w : World) (c : Bool) (a : Act) :
    (w.acts (Act.onlyIf c a)).monitors = if c then a.onMonitors w else w.monitors := by
  cases c <;> simp

theorem World.monitors_of_steady {w w' : World} (h : w.Steady w') : w'.monitors = w.monitors := by
  unfold World.monitors
  rw [h.nextMonitor, h.phase, h.trace]

theorem Config.running_of_accepts {event : Event} (c : Config) (h : c.accepts event = true) :
    c.state.running = true := by
  obtain ⟨state, w⟩ := c
  cases state <;> first | rfl | cases event <;> cases h

/-! ## What a state carries -/

def PrivateActionAfterDisconnect.gateways : PrivateActionAfterDisconnect → Option SelectedGateways
  | .reconnect gateways => gateways
  | .offline _ gateways => gateways
  | _ => none

def State.gateways : State → Option SelectedGateways
  | .connecting self => self.selectedGateways
  | .connected self => some self.selectedGateways
  | .disconnecting self => self.afterDisconnect.gateways
  | .offline self => self.selectedGateways
  | _ => none

namespace Target

def gateways : Target → Option SelectedGateways
  | .stays s => s.gateways
  | .offline _ gateways | .connecting _ gateways => gateways
  | .disconnecting after _ => after.gateways
  | .connected _ _ gateways _ _ => some gateways
  | _ => none

def monitor : Target → Option ℕ
  | .stays s => s.monitor
  | .connected _ _ _ _ receiver => receiver
  | _ => none

end Target

section Enters

variable {reliable : Prop} {target : Target} {w : World} {l : List Act} {s : State}

theorem Enters.carries (h : Enters reliable target w l s) :
    (s.gateways = none ∨ s.gateways = target.gateways) ∧
      (s.monitor = none ∨ s.monitor = target.monitor) := by
  induction h with
  | connectedRefused refused hparams rest | connectedUnresolved hparams acts rest
  | connectingRefused refused acts rest => cases rest; exact ⟨.inl rfl, .inl rfl⟩
  | connectingOffline rest ih | disconnectedRefused refused rest ih => exact ih
  | connecting => exact ⟨.inr rfl, .inl rfl⟩
  | _ => exact ⟨.inr rfl, .inr rfl⟩

end Enters

/-! ## Updates -/

theorem ConnectedState.affects_of_keepsTunnel {s : TunnelSettings} {d : TunnelSettingsDiff}
    (h : ConnectedState.keepsTunnel d s = true) : d.affectsGatewaySelection = false := by
  rw [TunnelSettingsDiff.affectsGatewaySelection, List.any_eq_false]
  intro field hfield hinput
  have hchanged : d.isFieldChanged field = true := by
    simpa [TunnelSettingsDiff.isFieldChanged] using hfield
  have hhot : TunnelSettingsDiff.hotAppliable field = false := by
    cases field <;> first | rfl | cases hinput
  have hne : field ≠ .mixnetPerformanceOptions := by
    rintro rfl
    cases hinput
  cases (ConnectedState.unchanged_of_keepsTunnel h hhot hne).symm.trans hchanged

def TunnelSettings.affects (t s : TunnelSettings) : Bool :=
  (t.diff s).any TunnelSettingsDiff.affectsGatewaySelection

def Event.reselects (t : TunnelSettings) : Event → Bool
  | .command (.connect _) => true
  | .command (.setTunnelSettings s) => t.affects s
  | _ => false

/-- The states in which the pair is kept all the same. -/
def State.clings : State → Event → Bool
  | .disconnecting _, _ => true
  | .offline _, .command (.connect _) => true
  | _, _ => false

/-! ## What a handler passes on -/

def State.Offers (state : State) (t : TunnelSettings) (event : Event)
    (g : Option SelectedGateways) : Prop :=
  g = none ∨
    g = state.gateways ∧ (event.reselects t = false ∨ state.clings event = true) ∨
    ∃ pair, event = .monitor (.selectedGateways pair) ∧ g = some pair

section Handles

variable {reliable : Prop} {target : Target} {w : World} {l : List Act} {s : State} {event : Event}

structure ConnectingState.GoesOn (s s' : ConnectingState) : Prop where
  tunnelMonitorHandle : s'.tunnelMonitorHandle = s.tunnelMonitorHandle
  tunnelMonitorEventReceiver : s'.tunnelMonitorEventReceiver = s.tunnelMonitorEventReceiver
  reconnectDelay : s'.reconnectDelay = s.reconnectDelay
  resolveApiAddrs : s'.resolveApiAddrs = s.resolveApiAddrs

structure ConnectingState.Continues (s s' : ConnectingState) : Prop extends s.GoesOn s' where
  firewallPolicyParams : s'.firewallPolicyParams = s.firewallPolicyParams
  selectedGateways : s'.selectedGateways = none ∨ s'.selectedGateways = s.selectedGateways

variable {self self' : ConnectingState} {suspect : Option NodeIdentity}
  {t settings : TunnelSettings} {diff : TunnelSettingsDiff} {attempt : ConnectingState}
  {resolved : ResolvedConfig}

theorem ConnectingState.Fails.continues {culpable : Bool} {grace : Option (NodeIdentity × ℕ)}
    (h : self.Fails grace culpable l self') : self.Continues self' := by
  cases h <;> exact ⟨⟨rfl, rfl, rfl, rfl⟩, rfl, by simp⟩

theorem ConnectingState.Settles.continues (h : self.Settles suspect l self') :
    self.Continues self' := by
  cases h <;> exact ⟨⟨rfl, rfl, rfl, rfl⟩, rfl, by simp⟩

theorem State.offers_kept (hdiff : t.diff settings = some diff) :
    s.Offers t (.command (.setTunnelSettings settings)) (diff.keptGateways s.gateways) := by
  unfold TunnelSettingsDiff.keptGateways
  cases haffects : diff.affectsGatewaySelection with
  | true => exact .inl rfl
  | false => exact .inr (.inl ⟨rfl, .inl (by simp [Event.reselects, affects, hdiff,
      haffects])⟩)

theorem State.offers_self (h : event.reselects t = false) : s.Offers t event s.gateways :=
  .inr (.inl ⟨rfl, .inl h⟩)

theorem State.Offers.of_eq_none_or {g g' : Option SelectedGateways} (h : s.Offers t event g)
    (hg : g' = none ∨ g' = g) : s.Offers t event g' := by
  rcases hg with rfl | rfl
  · exact .inl rfl
  · exact h

theorem TunnelSettings.affects_of_diff_eq_none (h : t.diff settings = none) :
    t.affects settings = false := by
  simp [affects, h]

theorem TunnelSettings.affects_of_keepsTunnel (hdiff : t.diff settings = some diff)
    (h : ConnectedState.keepsTunnel diff settings = true) : t.affects settings = false := by
  simp [affects, hdiff, ConnectedState.affects_of_keepsTunnel h]

theorem State.reselects_of_ignores (h : s.ignores event = true) (hrunning : s.running = true) :
    event.reselects t = false := by
  cases event with
  | command command =>
    cases command with
    | disconnect => rfl
    | _ => cases s <;> simp_all [ignores, running]
  | _ => rfl

theorem State.bare_of_not_running (h : s.running ≠ true) :
    s.gateways = none ∧ s.monitor = none := by
  cases s <;> first | exact ⟨rfl, rfl⟩ | exact absurd rfl h

theorem DisconnectingState.Handles.carries {self : DisconnectingState}
    (h : self.Handles event l target) :
    (target.gateways = none ∨ target.gateways = self.afterDisconnect.gateways) ∧
      target.monitor = none := by
  obtain ⟨after, monitor⟩ := self
  cases h <;> cases after <;> simp [Target.gateways, Target.monitor, State.gateways, State.monitor,
    PrivateActionAfterDisconnect.target, PrivateActionAfterDisconnect.gateways, afterConnect,
    afterUserDisconnect]

theorem ConnectingState.Handles.offers (h : self.Handles reliable w event l target) :
    (connecting self).Offers w.shared.tunnelSettings event target.gateways := by
  have hretry : ∀ shared t, (self.retry shared t).gateways = none ∨
      (self.retry shared t).gateways = self.selectedGateways := by
    intro shared t
    simp only [retry, Target.gateways]
    split <;> simp
  have hleaves : ∀ {after otherwise}, Target.gateways otherwise = after.gateways →
      (connecting self).Offers w.shared.tunnelSettings event after.gateways →
      (connecting self).Offers w.shared.tunnelSettings event
        (self.targetOr after otherwise).gateways := by
    intro after otherwise hsame hoffers
    refine targetOr_cases (P := fun target => State.Offers _ _ _ target.gateways)
      (fun _ _ => hoffers) fun _ => ?_
    rw [hsame]
    exact hoffers
  cases h with
  | delayed | registered | interfaceUp | bandwidthFailedUnblamed | bandwidthEnded =>
    exact offers_self rfl
  | unresolved | down | downUnmonitored => exact (offers_self rfl).of_eq_none_or (hretry _ _)
  | starts t hsender settles =>
    exact (offers_self rfl).of_eq_none_or settles.continues.selectedGateways
  | selected => exact .inr (.inr ⟨_, rfl, rfl⟩)
  | selectedRefused | interfaceUpRefused | connect | disconnect | shutdown =>
    exact hleaves rfl (.inl rfl)
  | up hgateways => exact (offers_self rfl).of_eq_none_or (.inr hgateways.symm)
  | connectionFailed fails | registrationFailed fails | bandwidthFailed fails =>
    exact (offers_self rfl).of_eq_none_or fails.continues.selectedGateways
  | offline => exact hleaves rfl (offers_self rfl)
  | settingsKept hdiff hkeeps =>
    exact offers_self (affects_of_keepsTunnel hdiff hkeeps)
  | settingsLeft hdiff => exact hleaves rfl (offers_kept hdiff)
  | _ => exact .inl rfl

theorem State.Handles.offers (h : s.Handles reliable w event l target) :
    s.Offers w.shared.tunnelSettings event target.gateways := by
  cases h with
  | ignored hignores =>
    by_cases hrunning : s.running = true
    · exact offers_self (reselects_of_ignores hignores hrunning)
    · exact .inl (bare_of_not_running hrunning).1
  | same hcompares hdiff => exact offers_self (affects_of_diff_eq_none hdiff)
  | disconnected handles | error handles => cases handles <;> exact .inl rfl
  | offline handles =>
    cases handles with
    | connectStays | connect => exact .inr (.inl ⟨rfl, .inr rfl⟩)
    | disconnect => exact offers_self rfl
    | settings hdiff => exact offers_kept hdiff
    | resumeWith hreconnect hgateways =>
      exact (offers_self rfl).of_eq_none_or (.inr hgateways.symm)
    | _ => exact .inl rfl
  | disconnecting handles =>
    exact State.Offers.of_eq_none_or (.inr (.inl ⟨rfl, .inr rfl⟩)) handles.carries.1
  | connected handles =>
    cases handles with
    | settingsKept hdiff hkeeps =>
      exact offers_self (affects_of_keepsTunnel hdiff hkeeps)
    | settingsLeft hdiff => exact offers_kept hdiff
    | bandwidthFailed ok blames t hfailure =>
      refine (offers_self rfl).of_eq_none_or ?_
      simp only [Target.gateways]
      split
      · exact .inr rfl
      · exact .inl rfl
    | offline | bandwidthChecks | dropped => exact offers_self rfl
    | _ => exact .inl rfl
  | connecting handles => exact handles.offers

/-! ## Monitors that are started -/

def Act.starts : Act → Bool
  | .started _ _ => true
  | _ => false

theorem Enters.starts (h : Enters reliable target w l s) : ∀ a ∈ l, a.starts = false := by
  intro a ha
  have hacts := h.acts a ha
  cases a <;> first | rfl | exact hacts.elim

theorem Act.starts_of_accounts {a : Act} (h : a.accounts = true) : a.starts = false := by
  cases a <;> first | rfl | cases h

theorem ConnectingState.Settles.starts {t : ℕ} (h : self.Settles suspect l self') :
    ∀ a ∈ attempt.admitActs resolved t ++ l, a.starts = false := by
  refine List.forall_mem_append.2 ⟨?_, fun a ha => Act.starts_of_accounts (h.accounts a ha)⟩
  simp [admitActs, Act.starts, or_imp, forall_and]

theorem ConnectingState.Settles.monitors {t : ℕ} (h : self.Settles suspect l self') :
    (w.acts (attempt.admitActs resolved t ++ l)).monitors = w.monitors := by
  rw [World.acts_append, World.monitors_of_steady (World.steady_acts h.accounts)]
  simp [admitActs]

theorem World.nextMonitor_acts (h : ∀ a ∈ l, a.starts = false) :
    (w.acts l).nextMonitor = w.nextMonitor := by
  induction l generalizing w with
  | nil => rw [World.acts_nil]
  | cons a l ih =>
    rw [World.acts_cons, ih fun b hb => h b (by simp [hb])]
    have ha := h a (by simp)
    cases a with
    | idled pinned => cases pinned <;> rfl
    | started resolved gateways => cases ha
    | _ => rfl

def Effect.passing : Effect → Bool
  | .started _ _ | .handled _ _ => false
  | _ => true

theorem World.apply_trace_passing {β : Type*} {f : List Effect → β}
    (hf : ∀ e trace, e.passing = true → f (e :: trace) = f trace)
    (h : ∀ a ∈ l, a.starts = false) : f (w.acts l).trace = f w.trace := by
  refine World.apply_trace_acts hf fun a ha w e he => ?_
  have hstarts := h a ha
  cases a with
  | idled pinned => cases pinned <;> simp [Act.effects] at he <;> grind [Effect.passing]
  | started resolved gateways => cases hstarts
  | _ => simp [Act.effects] at he <;> simp [he, Effect.passing]

/-- The handler starts no monitor, and the state goes on with the one it has, or without;
or it starts one, with the pair that it passes on. -/
inductive Attaches (w : World) (s : State) (event : Event) (l : List Act) (target : Target) :
    Prop where
  | passes (hacts : ∀ a ∈ l, a.starts = false)
      (hmonitor : target.monitor = none ∨
        target.monitor = s.monitor ∧ event.reselects w.shared.tunnelSettings = false)
  | starts {resolved : ResolvedConfig} {l' : List Act} (hacts : ∀ a ∈ l', a.starts = false)
      (hl : l = l' ++ [.started resolved target.gateways])
      (hevent : event = .apiResolved (some resolved))
      (hmonitor : target.monitor = some w.nextMonitor)

theorem ConnectingState.Handles.attaches (h : self.Handles reliable w event l target)
    (hquiet : (∀ resolved, event ≠ .apiResolved (some resolved)) → ∀ a ∈ l, a.starts = false) :
    Attaches w (.connecting self) event l target := by
  have hself : (∀ resolved, event ≠ .apiResolved (some resolved)) →
      target.monitor = self.tunnelMonitorEventReceiver →
      event.reselects w.shared.tunnelSettings = false →
      Attaches w (.connecting self) event l target :=
    fun hevent hmonitor hreselects => .passes (hquiet hevent) (.inr ⟨hmonitor, hreselects⟩)
  have hnone : (∀ resolved, event ≠ .apiResolved (some resolved)) → target.monitor = none →
      Attaches w (.connecting self) event l target :=
    fun hevent hmonitor => .passes (hquiet hevent) (.inl hmonitor)
  have hleaves : ∀ {after otherwise}, Target.monitor otherwise = none →
      (self.targetOr after otherwise).monitor = none :=
    fun h => targetOr_cases (P := fun target => target.monitor = none) (fun _ _ => rfl) fun _ => h
  cases h with
  | starts t hsender settles =>
    exact .starts settles.starts rfl rfl (congrArg some (World.nextMonitor_acts settles.starts))
  | resolvedRefused | unpinned => exact .passes (by simp [Act.starts]) (.inl rfl)
  | exhausted hsender settles => exact .passes settles.starts (.inl rfl)
  | unresolved => exact hnone nofun rfl
  | delayed | selected | registered | interfaceUp | bandwidthFailedUnblamed | bandwidthEnded
  | up => exact hself nofun rfl rfl
  | connectionFailed fails | registrationFailed fails | bandwidthFailed fails =>
    exact hself nofun fails.continues.tunnelMonitorEventReceiver rfl
  | settingsKept hdiff hkeeps =>
    exact hself nofun rfl (affects_of_keepsTunnel hdiff hkeeps)
  | selectedRefused | interfaceUpRefused | connect | disconnect | shutdown | offline
  | settingsLeft => exact hnone nofun (hleaves rfl)
  | _ => exact hnone nofun rfl

theorem State.Handles.attaches (h : s.Handles reliable w event l target) :
    Attaches w s event l target := by
  have hquiet : (∀ resolved, event ≠ .apiResolved (some resolved)) → ∀ a ∈ l, a.starts = false := by
    intro hevent a ha
    have hacts := h.acts a ha
    cases a with
    | started resolved gateways => exact absurd hacts (hevent resolved)
    | _ => rfl
  cases h with
  | ignored hignores =>
    by_cases hrunning : s.running = true
    · exact .passes (by simp) (.inr ⟨rfl, reselects_of_ignores hignores hrunning⟩)
    · exact .passes (by simp) (.inl (bare_of_not_running hrunning).2)
  | same hcompares hdiff =>
    exact .passes (by simp) (.inr ⟨rfl, affects_of_diff_eq_none hdiff⟩)
  | disconnected handles =>
    cases handles with
    | api handles | apiRefused handles =>
      cases handles <;> exact .passes (by simp [Act.starts]) (.inl rfl)
    | _ => exact .passes (hquiet nofun) (.inl rfl)
  | error handles =>
    cases handles with
    | api handles => cases handles <;> exact .passes (by simp [Act.starts]) (.inl rfl)
    | _ => exact .passes (hquiet nofun) (.inl rfl)
  | offline handles => cases handles <;> exact .passes (hquiet nofun) (.inl rfl)
  | disconnecting handles =>
    refine .passes (hquiet ?_) (.inl handles.carries.2)
    rintro resolved rfl
    cases handles
  | connected handles =>
    cases handles with
    | settingsKept hdiff hkeeps =>
      exact .passes (hquiet nofun) (.inr ⟨rfl, affects_of_keepsTunnel hdiff hkeeps⟩)
    | bandwidthChecks => exact .passes (hquiet nofun) (.inr ⟨rfl, rfl⟩)
    | _ => exact .passes (hquiet nofun) (.inl rfl)
  | connecting handles => exact handles.attaches hquiet

end Handles

end TunnelStateMachine
