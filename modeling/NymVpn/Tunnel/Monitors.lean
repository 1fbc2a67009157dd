import NymVpn.Tunnel.Carried

/-!
# At most one tunnel monitor

Every monitor that was started is held by the state, or was cancelled and waited for, or has
ended by itself. One handler drops the handle of a running monitor: a refused policy in the
course of a settings update leads to the error state.
-/

namespace TunnelStateMachine

open Net NymFirewall GatewayDirectory Program World Config State

/-! ## Monitors that are accounted for -/

namespace Monitors

def Settled (m : Monitors) (id : ℕ) : Prop :=
  Effect.cancelled id ∈ m.log ∧ Effect.waited id ∈ m.log ∨ m.phase id = .down

/-- Every monitor but the held one is settled, and none was cancelled before its
start. -/
structure Accounted (m : Monitors) (held : Option ℕ) : Prop where
  settled : ∀ id, id < m.next → held ≠ some id → m.Settled id
  started : ∀ id, Effect.cancelled id ∈ m.log → id < m.next

structure Alive (m : Monitors) (id : ℕ) : Prop where
  started : id < m.next
  notCancelled : Effect.cancelled id ∉ m.log
  notDown : m.phase id ≠ .down

variable {m : Monitors} {held : Option ℕ} {id : ℕ} {e : Effect}

theorem Settled.record (h : m.Settled id) : (m.record e).Settled id :=
  h.imp (fun hlog => ⟨List.mem_cons_of_mem e hlog.1, List.mem_cons_of_mem e hlog.2⟩) fun h => h

theorem Accounted.record (h : m.Accounted held) (he : ∀ id, e ≠ .cancelled id) :
    (m.record e).Accounted held :=
  ⟨fun i hi hheld => (h.settled i hi hheld).record,
    fun i hi => h.started i (List.mem_of_ne_of_mem (he i).symm hi)⟩

theorem Alive.record (h : m.Alive id) (he : ∀ id, e ≠ .cancelled id) : (m.record e).Alive id :=
  ⟨h.started, fun hmem => h.notCancelled (List.mem_of_ne_of_mem (he id).symm hmem), h.notDown⟩

theorem Accounted.release (h : m.Accounted held) (hsettled : ∀ id, held = some id → m.Settled id) :
    m.Accounted none := by
  refine ⟨fun i hi _ => ?_, h.started⟩
  by_cases hheld : held = some i
  · exact hsettled i hheld
  · exact h.settled i hi hheld

theorem Accounted.cancel (h : m.Accounted (some id)) (hid : id < m.next) :
    (m.record (.cancelled id)).Accounted (some id) := by
  refine ⟨fun i hi hheld => (h.settled i hi hheld).record, fun i hi => ?_⟩
  rcases List.mem_cons.1 hi with heq | hmem
  · cases heq
    exact hid
  · exact h.started i hmem

theorem Accounted.wait (h : m.Accounted (some id))
    (hsettled : Effect.cancelled id ∈ m.log ∨ m.phase id = .down) :
    (m.record (.waited id)).Accounted none := by
  refine ⟨fun i hi _ => ?_, fun i hi => ?_⟩
  · by_cases hheld : id = i
    · subst hheld
      exact hsettled.imp (fun hlog => ⟨List.mem_cons_of_mem _ hlog, List.mem_cons_self⟩) fun h => h
    · exact (h.settled i hi fun heq => hheld (Option.some.inj heq)).record
  · rcases List.mem_cons.1 hi with heq | hmem
    · cases heq
    · exact h.started i hmem

theorem Accounted.start (h : m.Accounted none) (p : TunnelParameters) :
    (m.start p).Accounted (some m.next) ∧ (m.start p).Alive m.next := by
  refine ⟨⟨fun i hi hheld => ?_, fun i hi => ?_⟩, Nat.lt_succ_self _, fun hmem => ?_, ?_⟩
  · have hne : i ≠ m.next := fun heq => hheld (by rw [heq])
    have hlt : i < m.next := lt_of_le_of_ne (Nat.lt_succ_iff.1 hi) hne
    rcases h.settled i hlt nofun with hlog | hdown
    · exact Or.inl ⟨List.mem_cons_of_mem _ hlog.1, List.mem_cons_of_mem _ hlog.2⟩
    · exact Or.inr (by simpa [Monitors.start, Function.update_of_ne hne] using hdown)
  · rcases List.mem_cons.1 hi with heq | hmem
    · cases heq
    · exact Nat.lt_succ_of_lt (h.started i hmem)
  · rcases List.mem_cons.1 hmem with heq | hmem
    · cases heq
    · exact absurd (h.started m.next hmem) (lt_irrefl _)
  · simp only [Monitors.start, Function.update_self]
    split <;> exact fun h => nomatch h

def advance (m : Monitors) (id : ℕ) (phase : MonitorPhase) : Monitors :=
  { m with phase := Function.update m.phase id phase }

theorem phase_advance (phase : MonitorPhase) : (m.advance id phase).phase id = phase := by
  simp [advance]

theorem Accounted.advance (h : m.Accounted (some id)) (phase : MonitorPhase) :
    (m.advance id phase).Accounted (some id) := by
  refine ⟨fun i hi hheld => ?_, h.started⟩
  have hne : i ≠ id := fun heq => hheld (by rw [heq])
  have hphase : (m.advance id phase).phase i = m.phase i := Function.update_of_ne hne _ _
  unfold Settled
  rw [hphase]
  exact h.settled i hi hheld

theorem Alive.advance {phase : MonitorPhase} (h : m.Alive id) (hphase : phase ≠ .down) :
    (m.advance id phase).Alive id := by
  refine ⟨h.started, h.notCancelled, ?_⟩
  rw [phase_advance]
  exact hphase

end Monitors

def TunnelMonitorEvent.isFailure : TunnelMonitorEvent → Bool
  | .connectionFailed | .registrationFailed _ | .bandwidthChecks _ _ => true
  | _ => false

namespace MonitorPhase

variable {phase phase' : MonitorPhase} {e : TunnelMonitorEvent}

theorem next_down {reason : Option ErrorStateReason}
    (h : phase.next (.down reason) = some phase') : phase' = .down := by
  cases phase <;> cases h <;> rfl

theorem ne_down_of_next (he : ∀ reason, e ≠ .down reason) (h : phase.next e = some phase') :
    phase' ≠ .down := by
  rintro rfl
  cases e with
  | down reason => exact he reason rfl
  | _ => cases phase <;> cases h

theorem eq_running_of_next (he : ∀ g, e ≠ .selectedGateways g)
    (h : phase.next e = some .running) : phase = .running := by
  cases e with
  | selectedGateways g => exact absurd rfl (he g)
  | _ => cases phase <;> first | rfl | cases h

theorem running_of_up {tunnelInterface : TunnelInterface} {tunnel : TunnelConnectionData}
    (h : phase.next (.up tunnelInterface tunnel) = some phase') : phase = .running := by
  cases phase <;> first | rfl | cases h

theorem ending_of_failure (he : e.isFailure = true) (h : phase.next e = some phase') :
    phase' = .ending := by
  cases e <;> cases he <;> cases phase <;> cases h <;> rfl

end MonitorPhase

/-! ## What an attempt knows of its monitor -/

/-- An attempt waits out its delay, then resolves the API hostnames, then starts its
monitor, and has the handle of the monitor that it listens to. A monitor that runs has
gateways. -/
structure ConnectingState.Tracks (m : Monitors) (s : ConnectingState) : Prop where
  receiver : s.tunnelMonitorEventReceiver = s.tunnelMonitorHandle
  resolving : s.resolveApiAddrs = true → s.reconnectDelay = none
  unstarted : s.resolveApiAddrs = true ∨ s.reconnectDelay.isSome = true →
    s.tunnelMonitorHandle = none
  running : ∀ id, s.tunnelMonitorHandle = some id → m.phase id = .running →
    s.selectedGateways.isSome = true

def State.Tracked (m : Monitors) : State → Prop
  | .connecting self => self.Tracks m
  | .connected self => self.tunnelMonitorEventReceiver = some self.tunnelMonitorHandle
  | .panicked => False
  | _ => True

@[simp] def Target.Tracked (m : Monitors) : Target → Prop
  | .stays s => s.Tracked m
  | .connected _ _ _ monitor receiver => receiver = some monitor
  | _ => True

theorem State.Tracked.holds_of_monitor {s : State} {m : Monitors} {id : ℕ} (h : s.Tracked m)
    (hid : s.monitor = some id) : s.holds = some id := by
  cases s with
  | connecting self => exact h.receiver.symm.trans hid
  | connected self => exact h.symm.trans hid
  | _ => cases hid

theorem ConnectingState.Tracks.of_goesOn {m m' : Monitors} {s s' : ConnectingState}
    (h : s.Tracks m) (hsame : s.GoesOn s')
    (hrunning : ∀ id, s.tunnelMonitorHandle = some id → m'.phase id = .running →
      s'.selectedGateways.isSome = true) : s'.Tracks m' := by
  refine ⟨?_, ?_, ?_, ?_⟩
  · rw [hsame.tunnelMonitorEventReceiver, hsame.tunnelMonitorHandle, h.receiver]
  · rw [hsame.resolveApiAddrs, hsame.reconnectDelay]
    exact h.resolving
  · rw [hsame.resolveApiAddrs, hsame.reconnectDelay, hsame.tunnelMonitorHandle]
    exact h.unstarted
  · rw [hsame.tunnelMonitorHandle]
    exact hrunning

section Receive

variable {c : Config} {event : Event}

def Config.noted (c : Config) (event : Event) : Monitors :=
  c.world.monitors.record (.handled event c.world.shared.tunnelSettings)

theorem Config.monitors_receive (hevent : ∀ e, event ≠ .monitor e) :
    (c.receive event).monitors = c.noted event := by
  unfold receive
  split
  · exact absurd rfl (hevent _)
  · rfl

/-- An event comes from the monitor that the state holds, which moves on with it. -/
theorem State.Tracked.sender {e : TunnelMonitorEvent} (h : c.state.Tracked c.world.monitors)
    (haccepts : c.accepts (.monitor e) = true) : ∃ id phase, c.state.monitor = some id ∧
      c.state.holds = some id ∧ (c.world.phase id).next e = some phase ∧
      (c.receive (.monitor e)).monitors = (c.noted (.monitor e)).advance id phase := by
  obtain ⟨id, hid, hsends⟩ := (Option.any_eq_true _ _).1 haccepts
  rw [Bool.and_eq_true] at hsends
  obtain ⟨phase, hphase⟩ := Option.isSome_iff_exists.1 hsends.1
  refine ⟨id, phase, hid, h.holds_of_monitor hid, hphase, ?_⟩
  simp only [receive, hid, monitors, log, hphase, Option.getD_some]
  rfl

theorem ConnectingState.Tracks.receive {self : ConnectingState} {w : World}
    (h : self.Tracks w.monitors) (haccepts : accepts ⟨.connecting self, w⟩ event = true)
    (hevent : ∀ g, event ≠ .monitor (.selectedGateways g)) :
    self.Tracks (receive ⟨.connecting self, w⟩ event).monitors := by
  refine h.of_goesOn ⟨rfl, rfl, rfl, rfl⟩ fun id hid hrunning => ?_
  by_cases hmonitor : ∃ e, event = .monitor e
  · obtain ⟨e, rfl⟩ := hmonitor
    obtain ⟨id', phase, -, hid', hnext, hmonitors⟩ :=
      State.Tracked.sender (c := ⟨.connecting self, w⟩) h haccepts
    obtain rfl := Option.some.inj (hid.symm.trans hid')
    rw [hmonitors, Monitors.phase_advance] at hrunning
    subst hrunning
    exact h.running id hid
      (MonitorPhase.eq_running_of_next (fun g he => hevent g (congrArg _ he)) hnext)
  · rw [monitors_receive fun e he => hmonitor ⟨e, he⟩] at hrunning
    exact h.running id hid hrunning

end Receive

section Tracked

variable {reliable : Prop} {w : World} {event : Event} {l : List Act} {target : Target}
  {self : ConnectingState} {c : Config}

theorem ConnectingState.Tracks.ends {e : TunnelMonitorEvent} (h : self.Tracks w.monitors)
    (haccepts : Config.accepts ⟨.connecting self, w⟩ (.monitor e) = true)
    (he : e.isFailure = true) (id : ℕ) (hid : self.tunnelMonitorHandle = some id) :
    (Config.receive ⟨.connecting self, w⟩ (.monitor e)).monitors.phase id ≠ .running := by
  obtain ⟨id', phase, -, hid', hnext, hmonitors⟩ :=
    State.Tracked.sender (c := ⟨.connecting self, w⟩) h haccepts
  obtain rfl := Option.some.inj (hid.symm.trans hid')
  rw [hmonitors, Monitors.phase_advance, MonitorPhase.ending_of_failure he hnext]
  decide

theorem ConnectingState.Handles.tracked
    (h : self.Handles reliable (receive ⟨.connecting self, w⟩ event) event l target)
    (htracks : self.Tracks w.monitors)
    (haccepts : accepts ⟨.connecting self, w⟩ event = true) :
    target.Tracked ((receive ⟨.connecting self, w⟩ event).acts l).monitors := by
  have hreceive := htracks.receive haccepts
  have hleaves : ∀ {m : Monitors} {after otherwise}, Target.Tracked m otherwise →
      (self.targetOr after otherwise).Tracked m :=
    fun h => targetOr_cases (P := fun target => target.Tracked _) (fun _ _ => trivial) fun _ => h
  -- The attempt goes on with its pair.
  have hgoes : ∀ {self' : ConnectingState} {v : World}, self.GoesOn self' →
      self'.selectedGateways = self.selectedGateways →
      (∀ g, event ≠ .monitor (.selectedGateways g)) →
      v.monitors = (receive ⟨.connecting self, w⟩ event).monitors →
      (connecting self').Tracked v.monitors := by
    intro self' v hsame hgateways hevent hv
    rw [hv]
    exact (hreceive hevent).of_goesOn hsame (hgateways ▸ (hreceive hevent).running)
  -- The pair may go once the monitor has reported a failure.
  have hfails : ∀ {self' : ConnectingState} {e : TunnelMonitorEvent} {v : World},
      self.Continues self' → event = .monitor e → e.isFailure = true →
      v.monitors = (receive ⟨.connecting self, w⟩ event).monitors →
      (connecting self').Tracked v.monitors := by
    rintro self' e v hsame rfl he hv
    rw [hv]
    refine htracks.of_goesOn hsame.toGoesOn fun id hid hrunning => ?_
    exact absurd hrunning (htracks.ends haccepts he id hid)
  cases h with
  | delayed =>
    have hnone := htracks.unstarted (.inr haccepts)
    simp only [acts_nil]
    exact ⟨htracks.receiver, fun _ => rfl, fun _ => hnone, by simp [hnone]⟩
  | starts t hsender settles =>
    have hresolve := settles.continues.resolveApiAddrs
    have hdelay := settles.continues.reconnectDelay.trans (htracks.resolving haccepts)
    rw [acts_append, acts_cons, acts_nil, monitors_act]
    refine ⟨rfl, fun h => ?_, fun h => ?_, fun id hid hrunning => ?_⟩
    · cases hresolve.symm.trans h
    · rw [hresolve, hdelay] at h
      rcases h with h | h <;> cases h
    · obtain rfl := Option.some.inj hid
      by_contra hnone
      simp [Monitors.start, monitors, SharedState.parameters, hnone] at hrunning
  | selected =>
    simp only [acts_cons, acts_nil, monitors_act]
    exact ⟨htracks.receiver, htracks.resolving, htracks.unstarted, fun _ _ _ => rfl⟩
  | registered | interfaceUp | bandwidthFailedUnblamed | bandwidthEnded
  | settingsKept hdiff hkeeps => exact hgoes ⟨rfl, rfl, rfl, rfl⟩ rfl (by simp) (by simp)
  | up hgateways hmonitor => exact htracks.receiver.trans hmonitor
  | upPanics hmissing =>
    obtain ⟨id, phase, -, hid, hnext, -⟩ :=
      State.Tracked.sender (c := ⟨.connecting self, w⟩) htracks haccepts
    have hsome := htracks.running id hid (MonitorPhase.running_of_up hnext)
    rcases hmissing with hnone | hnone
    · rw [hnone] at hsome
      cases hsome
    · cases hnone.symm.trans hid
  | failedPanics hmonitor =>
    obtain ⟨id, phase, -, hid, -⟩ :=
      State.Tracked.sender (c := ⟨.connecting self, w⟩) htracks haccepts
    cases hmonitor.symm.trans hid
  | connectionFailed fails | registrationFailed fails =>
    exact hfails fails.continues rfl rfl (monitors_of_steady (steady_acts fails.accounts))
  | bandwidthFailed fails =>
    refine hfails fails.continues rfl rfl (monitors_of_steady (steady_acts ?_))
    exact List.forall_mem_cons.2 ⟨rfl, fails.accounts⟩
  | selectedRefused | interfaceUpRefused | connect | disconnect | shutdown | offline
  | settingsLeft => exact hleaves trivial
  | _ => trivial

theorem Enters.tracked {s : State} (h : Enters reliable target w l s)
    (htarget : target.Tracked w.monitors) : s.Tracked (w.acts l).monitors := by
  induction h with
  | stays => simpa using htarget
  | connecting =>
    refine ⟨rfl, fun h => ?_, fun _ => rfl, fun id hid => ?_⟩
    · cases h
    · cases hid
  | connected => exact htarget
  | disconnectedRefused refused rest | connectingOffline rest
  | connectingRefused refused acts rest | connectedRefused refused hparams rest
  | connectedUnresolved hparams acts rest => cases rest; trivial
  | _ => trivial

theorem State.Handles.tracked (h : c.state.Handles reliable (c.receive event) event l target)
    (htracks : c.state.Tracked c.world.monitors) (haccepts : c.accepts event = true) :
    target.Tracked ((c.receive event).acts l).monitors := by
  obtain ⟨state, w⟩ := c
  have hstays : (∀ g, event ≠ .monitor (.selectedGateways g)) →
      state.Tracked ((receive ⟨state, w⟩ event).acts []).monitors := by
    intro hevent
    rw [acts_nil]
    cases state with
    | connecting self => exact htracks.receive haccepts hevent
    | panicked => exact htracks
    | _ => trivial
  cases h with
  | ignored hignores =>
    by_cases hselected : ∃ g, event = .monitor (.selectedGateways g)
    · obtain ⟨g, rfl⟩ := hselected
      cases state with
      | connecting self => cases hignores
      | panicked => exact htracks
      | _ => trivial
    · exact hstays fun g he => hselected ⟨g, he⟩
  | same => exact hstays (by simp)
  | connecting handles => exact handles.tracked htracks haccepts
  | disconnecting handles =>
    cases handles with
    | waited =>
      rename_i self
      cases self.afterDisconnect <;> trivial
    | _ => trivial
  | disconnected handles | error handles | offline handles | connected handles =>
    cases handles <;> trivial

/-- No `expect` fails, in any run. -/
theorem tracked_of_reachable {C : Config → Event → Config → Prop}
    (h : Reachable reliable C c) : c.state.Tracked c.world.monitors := by
  refine h.invariant_of_moves (I := fun c => c.state.Tracked c.world.monitors) ?_ ?_
  · rintro target w l s - htarget henters
    exact henters.tracked (by rcases htarget with rfl | rfl <;> trivial)
  · rintro c event l target l' s - hc haccepts hhandles henters -
    exact henters.tracked (hhandles.tracked hc haccepts)

/-- In every run an attempt whose tunnel comes up has a pair and the handle of its
monitor, one that is told to fail has the handle, and no `expect` fails. -/
theorem connecting_expects_hold {c : Config} {self : ConnectingState}
    (hc : Reachable reliable anyStep c) (hself : c.state = .connecting self)
    (haccepts : c.accepts event = true) :
    (∀ i d, event = .monitor (.up i d) →
      self.selectedGateways.isSome = true ∧ self.tunnelMonitorHandle.isSome = true) ∧
    (∀ reason, event = .monitor (.down (some reason)) → self.tunnelMonitorHandle.isSome = true) ∧
    ∀ c', Step reliable c event c' → c'.state ≠ .panicked := by
  have htracked := tracked_of_reachable hc
  have hmonitor : ∀ e, event = .monitor e → ∃ id phase, self.tunnelMonitorHandle = some id ∧
      (c.world.phase id).next e = some phase := by
    rintro e rfl
    obtain ⟨id, phase, -, hid, hnext, -⟩ := htracked.sender haccepts
    rw [hself] at hid
    exact ⟨id, phase, hid, hnext⟩
  refine ⟨fun i d he => ?_, fun reason he => ?_, fun c' hstep hpanicked => ?_⟩
  · obtain ⟨id, phase, hid, hnext⟩ := hmonitor _ he
    rw [hself] at htracked
    exact ⟨htracked.running id hid (MonitorPhase.running_of_up hnext), by rw [hid]; rfl⟩
  · obtain ⟨id, phase, hid, -⟩ := hmonitor _ he
    rw [hid]
    rfl
  · have htracked := tracked_of_reachable (hc.step hstep trivial)
    rw [hpanicked] at htracked
    exact htracked

end Tracked

theorem connecting_expects_hold_up : ∃ (c : Config) (self : ConnectingState),
    c.state = .connecting self ∧ c.accepts (.monitor (.up sampleInterface .mixnet)) = true ∧
      self.selectedGateways.isSome = true ∧ self.tunnelMonitorHandle.isSome = true := by
  obtain ⟨⟨state, w⟩, hc, haccepts, hwaits⟩ := exists_reachable_of_plays
    ((connectSteps false).take 4) (fun _ p hp => reliable_connectSteps false p
      (List.mem_of_mem_take hp)) (reachable_spawnedWith True sampleSettings)
    (P := fun c => c.accepts (.monitor (.up sampleInterface .mixnet)) = true ∧
      c.state.ignores .reconnectDelay = false) (by decide +kernel)
  cases state with
  | connecting self =>
    exact ⟨_, self, rfl, haccepts, (connecting_expects_hold hc rfl haccepts).1 _ _ rfl⟩
  | connected self => cases hwaits
  | _ => cases haccepts

/-! ## What a state knows of its monitor -/

/-- The monitors are accounted for, the one that the state listens to is alive, and the
one that it waits for was cancelled. -/
structure State.Monitored (m : Monitors) (s : State) : Prop where
  accounted : m.Accounted s.holds
  alive : ∀ id, s.monitor = some id → m.Alive id
  cancelled : ∀ self, s = .disconnecting self → Effect.cancelled self.tunnelMonitor ∈ m.log

@[simp] def Target.Monitored (m : Monitors) : Target → Prop
  | .stays s => s.Monitored m
  | .disconnecting _ id => m.Accounted (some id) ∧ id < m.next
  | .connected _ _ _ id receiver => m.Accounted (some id) ∧ m.Alive id ∧ receiver = some id
  | _ => m.Accounted none

section Monitored

variable {reliable : Prop} {w : World} {event : Event} {l : List Act} {target : Target}
  {m : Monitors} {s s' : State} {c : Config}

theorem State.monitored_of_unheld (h : m.Accounted none) (hs : s.holds = none)
    (hmonitor : s.monitor = none) : s.Monitored m := by
  refine ⟨hs ▸ h, fun id hid => ?_, fun self hself => ?_⟩
  · cases hmonitor.symm.trans hid
  · rw [hself] at hs
    cases hs

theorem State.Monitored.of_same (h : s.Monitored m) (hholds : s'.holds = s.holds)
    (hmonitor : s'.monitor = s.monitor) (hs : ∀ self, s' ≠ .disconnecting self) : s'.Monitored m :=
  ⟨hholds ▸ h.accounted, hmonitor ▸ h.alive, fun self hself => absurd hself (hs self)⟩

theorem Enters.monitored (h : Enters reliable target w l s) (hm : target.Monitored w.monitors) :
    s.Monitored (w.acts l).monitors := by
  induction h with
  | stays => simpa using hm
  | disconnecting =>
    simp only [acts_cons, acts_nil, monitors_act, Act.onMonitors]
    refine ⟨hm.1.cancel hm.2, nofun, ?_⟩
    rintro _ ⟨⟩
    exact List.mem_cons_self
  | connected =>
    simp only [acts_cons, acts_nil, monitors_act, Act.onMonitors]
    refine ⟨hm.1, fun id hid => ?_, by simp⟩
    obtain rfl := Option.some.inj (hm.2.2.symm.trans hid)
    exact hm.2.1
  | connectedRefused refused hparams rest ih =>
    rw [acts_append]
    exact ih (by simpa using ⟨hm.1, hm.2.1.started⟩)
  | connectedUnresolved hparams acts rest ih =>
    rw [acts_append]
    exact ih (by simpa [acts] using ⟨hm.1, hm.2.1.started⟩)
  | disconnectedRefused refused rest ih | connectingOffline rest ih =>
    rw [acts_append]
    exact ih (by simpa using hm)
  | connectingRefused refused acts rest ih =>
    rw [acts_append]
    exact ih (by simpa [acts] using hm)
  | _ => exact monitored_of_unheld (by simpa using hm) rfl rfl

theorem State.Monitored.receive (h : c.state.Monitored c.world.monitors)
    (htracked : c.state.Tracked c.world.monitors) (haccepts : c.accepts event = true)
    (hdown : ∀ reason, event ≠ .monitor (.down reason)) :
    c.state.Monitored (c.receive event).monitors := by
  have hnoted : c.state.Monitored (c.noted event) :=
    ⟨h.accounted.record (by simp), fun id hid => (h.alive id hid).record (by simp),
      fun self hself => List.mem_cons_of_mem _ (h.cancelled self hself)⟩
  by_cases hmonitor : ∃ e, event = .monitor e
  · obtain ⟨e, rfl⟩ := hmonitor
    obtain ⟨id, phase, hid, hholds, hnext, hmonitors⟩ := htracked.sender haccepts
    have hne := MonitorPhase.ne_down_of_next (fun reason he => hdown reason (congrArg _ he)) hnext
    rw [hmonitors]
    refine ⟨?_, fun i hi => ?_, hnoted.cancelled⟩
    · rw [hholds]
      exact (hholds ▸ hnoted.accounted).advance phase
    · obtain rfl := Option.some.inj (hid.symm.trans hi)
      exact (hnoted.alive id hid).advance hne
  · rw [monitors_receive fun e he => hmonitor ⟨e, he⟩]
    exact hnoted

theorem State.Monitored.receive_down {reason : Option ErrorStateReason}
    (h : c.state.Monitored c.world.monitors) (htracked : c.state.Tracked c.world.monitors)
    (haccepts : c.accepts (.monitor (.down reason)) = true) :
    ∃ id, c.state.holds = some id ∧
      (c.receive (.monitor (.down reason))).monitors.Accounted (some id) ∧
      id < (c.receive (.monitor (.down reason))).monitors.next ∧
      (c.receive (.monitor (.down reason))).monitors.phase id = .down := by
  obtain ⟨id, phase, hid, hholds, hnext, hmonitors⟩ := htracked.sender haccepts
  obtain rfl := MonitorPhase.next_down hnext
  have haccounted := (hholds ▸ h.accounted).record
    (e := .handled (.monitor (.down reason)) c.world.shared.tunnelSettings) (by simp)
  rw [hmonitors]
  exact ⟨id, hholds, haccounted.advance .down, (h.alive id hid).started,
    Monitors.phase_advance .down⟩

theorem ConnectingState.Handles.monitored {self : ConnectingState}
    (h : self.Handles reliable (receive ⟨.connecting self, w⟩ event) event l target)
    (htracks : self.Tracks w.monitors) (hm : (connecting self).Monitored w.monitors)
    (haccepts : accepts ⟨.connecting self, w⟩ event = true)
    (hkept : event.settings?.isSome = true → self.tunnelMonitorHandle.isSome = true →
      target ≠ .error .setFirewallPolicy) :
    target.Monitored ((receive ⟨.connecting self, w⟩ event).acts l).monitors := by
  have hdown : ∀ reason, event = .monitor (.down reason) → ∃ id,
      self.tunnelMonitorHandle = some id ∧
      (receive ⟨.connecting self, w⟩ event).monitors.Accounted (some id) ∧
      id < (receive ⟨.connecting self, w⟩ event).monitors.next ∧
      (receive ⟨.connecting self, w⟩ event).monitors.phase id = .down := by
    rintro reason rfl
    exact State.Monitored.receive_down (c := ⟨.connecting self, w⟩) hm htracks haccepts
  have hreceive := State.Monitored.receive (c := ⟨.connecting self, w⟩) hm htracks haccepts
  have htracked := h.tracked htracks haccepts
  generalize receive ⟨.connecting self, w⟩ event = v at h hdown hreceive htracked ⊢
  -- Before the start there is no monitor.
  have hunstarted : (∀ reason, event ≠ .monitor (.down reason)) →
      self.tunnelMonitorHandle = none → v.monitors.Accounted none := fun hevent hnone => by
    have := (hreceive hevent).accounted
    rwa [holds, hnone] at this
  have hleaves : ∀ {after otherwise} {u : World}, (∀ reason, event ≠ .monitor (.down reason)) →
      u.monitors = v.monitors → (v.monitors.Accounted none → otherwise.Monitored v.monitors) →
      (self.targetOr after otherwise).Monitored u.monitors := by
    intro after otherwise u hevent hu hotherwise
    rw [hu]
    refine targetOr_cases (P := fun target => target.Monitored v.monitors)
      (fun id hid => ?_) fun hnone => hotherwise (hunstarted hevent hnone)
    have := (hreceive hevent).accounted
    rw [holds, hid] at this
    exact ⟨this, ((hreceive hevent).alive id (htracks.receiver.trans hid)).started⟩
  have hgoes : ∀ {self' : ConnectingState} {u : World},
      (∀ reason, event ≠ .monitor (.down reason)) → u.monitors = v.monitors →
      self'.tunnelMonitorHandle = self.tunnelMonitorHandle →
      self'.tunnelMonitorEventReceiver = self.tunnelMonitorEventReceiver →
      (connecting self').Monitored u.monitors := fun hevent hu hhandle hreceiver =>
    hu ▸ (hreceive hevent).of_same hhandle hreceiver (by simp)
  cases h with
  | delayed | selected | registered | interfaceUp | bandwidthFailedUnblamed | bandwidthEnded
  | settingsKept => exact hgoes (by simp) (by simp) rfl rfl
  | unresolved | resolvedRefused | unpinned =>
    simpa [retry] using hunstarted (by simp) (htracks.unstarted (.inl haccepts))
  | exhausted hsender settles =>
    have haccounted := hunstarted (by simp) (htracks.unstarted (.inl haccepts))
    rw [settles.monitors]
    exact haccounted
  | starts t hsender settles =>
    rename_i resolved l self'
    have haccounted : (v.acts (self.admitActs resolved t ++ l)).monitors.Accounted none := by
      rw [settles.monitors]
      exact hunstarted (by simp) (htracks.unstarted (.inl haccepts))
    rw [acts_append, acts_cons, acts_nil, monitors_act]
    refine ⟨(haccounted.start _).1, fun id hid => ?_, by simp⟩
    obtain rfl := Option.some.inj hid
    exact (haccounted.start _).2
  | selectedRefused | interfaceUpRefused | connect | disconnect | shutdown | offline
  | settingsLeft => exact hleaves (by simp) (by simp) (by simp)
  | up hgateways hmonitor =>
    have haccounted := (hreceive (by simp)).accounted
    have hreceiver := htracks.receiver.trans hmonitor
    have halive := (hreceive (by simp)).alive _ hreceiver
    rw [holds, hmonitor] at haccounted
    simpa using ⟨haccounted, halive, hreceiver⟩
  | upPanics | failedPanics => exact htracked.elim
  | failed hmonitor =>
    obtain ⟨id, hid, haccounted, hstarted, -⟩ := hdown _ rfl
    obtain rfl := Option.some.inj (hmonitor.symm.trans hid)
    simpa using ⟨haccounted, hstarted⟩
  | down hmonitor =>
    obtain ⟨id, hid, haccounted, -, hphase⟩ := hdown _ rfl
    obtain rfl := Option.some.inj (hmonitor.symm.trans hid)
    simpa [retry] using haccounted.wait (.inr hphase)
  | downUnmonitored hmonitor =>
    obtain ⟨id, hid, -⟩ := hdown _ rfl
    cases hmonitor.symm.trans hid
  | connectionFailed fails | registrationFailed fails =>
    exact hgoes (by simp) (monitors_of_steady (steady_acts fails.accounts))
      fails.continues.tunnelMonitorHandle fails.continues.tunnelMonitorEventReceiver
  | bandwidthFailed fails =>
    refine hgoes (by simp) (monitors_of_steady (steady_acts ?_)) fails.continues.tunnelMonitorHandle
      fails.continues.tunnelMonitorEventReceiver
    exact List.forall_mem_cons.2 ⟨rfl, fails.accounts⟩
  | settingsRefused =>
    have hnone : self.tunnelMonitorHandle = none := by
      by_contra hsome
      exact hkept rfl (Option.isSome_iff_ne_none.2 hsome) rfl
    simpa using hunstarted (by simp) hnone

theorem ConnectedState.Handles.monitored {self : ConnectedState}
    (h : self.Handles reliable (receive ⟨.connected self, w⟩ event) event l target)
    (htracked : (connected self).Tracked w.monitors) (hm : (connected self).Monitored w.monitors)
    (haccepts : accepts ⟨.connected self, w⟩ event = true)
    (hkept : event.settings?.isSome = true → target ≠ .error .setFirewallPolicy) :
    target.Monitored ((receive ⟨.connected self, w⟩ event).acts l).monitors := by
  have hdown : ∀ reason, event = .monitor (.down reason) →
      (receive ⟨.connected self, w⟩ event).monitors.Accounted none := by
    rintro reason rfl
    obtain ⟨id, hid, haccounted, -, hphase⟩ :=
      State.Monitored.receive_down (c := ⟨.connected self, w⟩) hm htracked haccepts
    refine haccounted.release fun i hi => ?_
    obtain rfl := Option.some.inj hi
    exact .inr hphase
  have hreceive := State.Monitored.receive (c := ⟨.connected self, w⟩) hm htracked haccepts
  have hleaves : (∀ reason, event ≠ .monitor (.down reason)) →
      (receive ⟨.connected self, w⟩ event).monitors.Accounted (some self.tunnelMonitorHandle) ∧
      self.tunnelMonitorHandle < (receive ⟨.connected self, w⟩ event).monitors.next :=
    fun hevent => ⟨(hreceive hevent).accounted, ((hreceive hevent).alive _ htracked).started⟩
  generalize receive ⟨.connected self, w⟩ event = v at h hdown hreceive hleaves ⊢
  cases h with
  | settingsRefused => exact absurd rfl (hkept rfl)
  | settingsKept =>
    have hv := hreceive (by simp)
    simp only [acts_append, acts_cons, acts_nil, monitors_act,
      Act.onMonitors, monitors_onlyIf, ite_self]
    exact hv.of_same rfl rfl (by simp)
  | bandwidthChecks =>
    rw [acts_nil]
    exact (hreceive (by simp)).of_same rfl rfl (by simp)
  | failed | bandwidthFailed | dropped => simpa [Act.cleanup] using hdown _ rfl
  | _ => simpa [Act.cleanup] using hleaves (by simp)

theorem State.Handles.monitored (h : c.state.Handles reliable (c.receive event) event l target)
    (htracked : c.state.Tracked c.world.monitors) (hm : c.state.Monitored c.world.monitors)
    (haccepts : c.accepts event = true)
    (hkept : event.settings?.isSome = true → c.state.monitor.isSome = true →
      target ≠ .error .setFirewallPolicy) :
    target.Monitored ((c.receive event).acts l).monitors := by
  obtain ⟨state, w⟩ := c
  have hreceive := hm.receive htracked haccepts
  -- Without a monitor there is nothing to account for but the earlier ones.
  have hidle : state.holds = none → (receive ⟨state, w⟩ event).monitors.Accounted none := by
    intro hholds
    refine hholds ▸ (hreceive fun reason he => ?_).accounted
    subst he
    obtain ⟨id, hid, -⟩ := hm.receive_down htracked haccepts
    cases hholds.symm.trans hid
  cases h with
  | ignored hignores =>
    by_cases hdown : ∃ reason, event = .monitor (.down reason)
    · obtain ⟨reason, rfl⟩ := hdown
      cases state with
      | connecting self | connected self => cases hignores
      | _ => cases haccepts
    · simpa using hreceive fun reason he => hdown ⟨reason, he⟩
  | same => simpa using hreceive (by simp)
  | connecting handles =>
    exact handles.monitored htracked hm haccepts fun hs hhandle =>
      hkept hs ((congrArg Option.isSome htracked.receiver).trans hhandle)
  | connected handles =>
    exact handles.monitored htracked hm haccepts fun hs => hkept hs (congrArg Option.isSome htracked)
  | disconnecting handles =>
    rename_i self
    have hv := hreceive (by rintro reason rfl; cases handles)
    cases handles with
    | waited =>
      have hwaited := hv.accounted.wait (.inl (hv.cancelled self rfl))
      cases self.afterDisconnect <;> simpa [PrivateActionAfterDisconnect.target] using hwaited
    | shutdown => simpa using hv.accounted.wait (.inl (hv.cancelled _ rfl))
    | _ =>
      simp only [acts_cons, acts_nil, monitors_act, Act.onMonitors]
      refine ⟨hv.accounted, by rintro _ ⟨⟩, ?_⟩
      rintro _ ⟨⟩
      exact hv.cancelled self rfl
  | disconnected handles =>
    have hv := hidle rfl
    cases handles with
    | api handles => cases handles <;> simpa using monitored_of_unheld hv rfl rfl
    | apiRefused handles => cases handles; simpa using hv
    | settings | refreshTimer | shutdown => simpa using monitored_of_unheld hv rfl rfl
    | _ => simpa using hv
  | error handles =>
    have hv := hidle rfl
    cases handles with
    | api handles | shutdown handles => cases handles <;> simpa using monitored_of_unheld hv rfl rfl
    | settings | settingsRefused | settingsTaken | refreshTimer =>
      simpa using monitored_of_unheld hv rfl rfl
    | _ => simpa using hv
  | offline handles =>
    have hv := hidle rfl
    cases handles with
    | shutdown releases => cases releases <;> simpa using monitored_of_unheld hv rfl rfl
    | connectStays | disconnect | settings => simpa using monitored_of_unheld hv rfl rfl
    | _ => simpa using hv

end Monitored

/-- The firewall refused a policy since the event was received. -/
def World.PolicyRefused (w : World) : Prop :=
  ∃ p k t, Effect.request (.policy p) k t false ∈ w.current

/-- The handle of a running monitor is dropped: the firewall refuses a policy while the
settings are updated. -/
def DropsHandle (c : Config) (event : Event) (c' : Config) : Prop :=
  (∃ s, event = .command (.setTunnelSettings s)) ∧ c.state.monitor.isSome = true ∧
    c'.world.PolicyRefused

/-! ## Runs -/

section Runs

variable {reliable : Prop} {c c' : Config} {event : Event}

section Refused

variable {w : World} {l : List Act}

theorem World.policyRefused_act {a : Act} (ha : a ≠ .idled none) :
    (w.act a).PolicyRefused ↔ (∃ p, a = .asked p false) ∨ w.PolicyRefused := by
  unfold World.PolicyRefused
  simp only [current_act, List.mem_append, exists_or]
  refine or_congr_left ?_
  cases a with
  | idled pinned =>
    cases pinned with
    | none => exact absurd rfl ha
    | some pinned => simp [Act.effects]
  | asked policy ok => cases ok <;> simp [Act.effects]
  | _ => simp [Act.effects]

theorem World.policyRefused_acts (hl : Act.idled none ∉ l) :
    (w.acts l).PolicyRefused ↔ (∃ p, Act.asked p false ∈ l) ∨ w.PolicyRefused := by
  induction l generalizing w with
  | nil => simp
  | cons a l ih =>
    rw [List.mem_cons, not_or] at hl
    rw [acts_cons, ih hl.2, policyRefused_act (Ne.symm hl.1)]
    simp only [List.mem_cons, exists_or, ← or_assoc, or_comm, eq_comm]

theorem World.PolicyRefused.acts (h : w.PolicyRefused) : (w.acts l).PolicyRefused := by
  induction l generalizing w with
  | nil => simpa using h
  | cons a l ih =>
    obtain ⟨p, k, t, hmem⟩ := h
    rw [acts_cons]
    exact ih ⟨p, k, t, current_act ▸ List.mem_append_right _ hmem⟩

theorem Config.not_policyRefused_receive (c : Config) (event : Event) :
    ¬(c.receive event).PolicyRefused := by
  rintro ⟨p, k, t, hmem⟩
  rw [current, c.trace_receive event] at hmem
  cases hmem

/-- An update of the settings, handled while a monitor is attached, leads to the error
state if the policy is refused, and otherwise stays or takes the tunnel down. -/
theorem State.Handles.refused_or {state : State} {target : Target} {s : TunnelSettings}
    {m : Monitors} (h : state.Handles reliable w (.command (.setTunnelSettings s)) l target)
    (htracked : state.Tracked m) (hmonitor : state.monitor.isSome = true) : Act.idled none ∉ l ∧
      (target = .error .setFirewallPolicy ∧ (∃ p, Act.asked p false ∈ l) ∧
          (w.acts l).monitors = w.monitors ∨
        (∀ p, Act.asked p false ∉ l) ∧
          ((∃ after id, target = .disconnecting after id) ∨ ∃ s', target = .stays s')) := by
  cases h with
  | ignored | same => exact ⟨by simp, .inr ⟨by simp, .inr ⟨_, rfl⟩⟩⟩
  | connected handles =>
    cases handles with
    | settingsRefused => exact ⟨by simp, .inl ⟨rfl, by simp, by simp⟩⟩
    | settingsKept => exact ⟨by simp, .inr ⟨by simp, .inr ⟨_, rfl⟩⟩⟩
    | settingsLeft =>
      exact ⟨by simp [Act.cleanup], .inr ⟨by simp [Act.cleanup], .inl ⟨_, _, rfl⟩⟩⟩
  | connecting handles =>
    cases handles with
    | settingsRefused => exact ⟨by simp, .inl ⟨rfl, by simp, by simp⟩⟩
    | settingsKept => exact ⟨by simp, .inr ⟨by simp, .inr ⟨_, rfl⟩⟩⟩
    | settingsLeft =>
      refine ⟨by simp, .inr ⟨by simp, .inl ?_⟩⟩
      obtain ⟨id, hid⟩ := Option.isSome_iff_exists.1 hmonitor
      exact ⟨_, id, congrArg (Option.elim · _ _) (htracked.receiver.symm.trans hid)⟩
  | _ => cases hmonitor

end Refused

/-- Every monitor that was started is held, or was cancelled and waited for, or is
down. -/
def Config.AccountsForMonitors (c : Config) : Prop :=
  ∀ id, id < c.world.nextMonitor → c.state.holds = some id ∨ c.world.monitors.Settled id

theorem State.Monitored.accounts (h : c.state.Monitored c.world.monitors) :
    c.AccountsForMonitors := by
  intro id hid
  by_cases hheld : c.state.holds = some id
  · exact .inl hheld
  · exact .inr (h.accounted.settled id hid hheld)

theorem Monitors.Alive.not_accounts {id : ℕ} (h : c.world.monitors.Alive id)
    (hholds : c.state.holds = none) : ¬c.AccountsForMonitors := by
  intro haccounts
  rcases haccounts id h.started with hheld | hsettled
  · cases hholds.symm.trans hheld
  · exact hsettled.elim (fun hcancelled => h.notCancelled hcancelled.1) h.notDown

theorem Step.monitored (hstep : Step reliable c event c')
    (hm : c.state.Monitored c.world.monitors) (htracked : c.state.Tracked c.world.monitors)
    (hkeeps : ¬DropsHandle c event c') : c'.state.Monitored c'.world.monitors := by
  obtain ⟨l, target, l', hhandles, henters, hworld⟩ := hstep.moves
  rw [hworld]
  refine henters.monitored (hhandles.monitored htracked hm hstep.accepts ?_)
  intro hsettings hmonitor htarget
  obtain ⟨s, hs⟩ := Option.isSome_iff_exists.1 hsettings
  obtain rfl := Event.eq_of_settings? hs
  obtain ⟨hidled, ⟨-, hasked, -⟩ | ⟨-, ⟨after, id, hleft⟩ | ⟨s', hstays⟩⟩⟩ :=
    hhandles.refused_or htracked hmonitor
  · refine hkeeps ⟨⟨s, rfl⟩, hmonitor, ?_⟩
    rw [hworld]
    exact ((policyRefused_acts hidled).2 (.inl hasked)).acts
  · cases htarget.symm.trans hleft
  · cases htarget.symm.trans hstays

/-- The handle of the monitor goes, and the monitor goes on. -/
theorem Step.not_accounts (hstep : Step reliable c event c')
    (hm : c.state.Monitored c.world.monitors) (htracked : c.state.Tracked c.world.monitors)
    (hdrops : DropsHandle c event c') :
    ¬c'.AccountsForMonitors := by
  obtain ⟨⟨s, rfl⟩, hmonitor, hrefused⟩ := hdrops
  obtain ⟨id, hid⟩ := Option.isSome_iff_exists.1 hmonitor
  obtain ⟨l, target, l', hhandles, henters, hworld⟩ := hstep.moves
  have halive := (hm.receive htracked hstep.accepts (by simp)).alive id hid
  obtain ⟨state, w⟩ := c'
  obtain rfl : w = _ := hworld
  obtain ⟨hidled, ⟨rfl, -, hmonitors⟩ | ⟨hasked, htarget⟩⟩ :=
    hhandles.refused_or htracked hmonitor
  · cases henters
    exact Monitors.Alive.not_accounts (by simpa [hmonitors] using halive) rfl
  · -- Nothing was refused by the handler, and leaving the tunnel asks for nothing.
    have hnone : ¬((c.receive (.command (.setTunnelSettings s))).acts l).PolicyRefused := by
      rw [policyRefused_acts hidled, not_or]
      exact ⟨fun ⟨p, hp⟩ => hasked p hp, c.not_policyRefused_receive _⟩
    refine absurd hrefused ?_
    rcases htarget with ⟨after, id, rfl⟩ | ⟨s', rfl⟩
    · cases henters
      rw [policyRefused_acts (by simp)]
      simpa using hnone
    · cases henters
      simpa using hnone

theorem Step.settled (hstep : Step reliable c event c')
    (hm : c.state.Monitored c.world.monitors) (htracked : c.state.Tracked c.world.monitors)
    (hlt : c.world.nextMonitor < c'.world.nextMonitor) (id : ℕ) (hid : id < c.world.nextMonitor) :
    c.world.monitors.Settled id := by
  obtain ⟨l, target, l', hhandles, henters, hworld⟩ := hstep.moves
  have hnext : (c.receive event).nextMonitor = c.world.nextMonitor := by
    unfold receive
    split <;> rfl
  cases hhandles.attaches with
  | passes hacts =>
    rw [hworld, nextMonitor_acts henters.starts, nextMonitor_acts hacts, hnext] at hlt
    exact absurd hlt (lt_irrefl _)
  | starts hacts hl hevent hmonitor =>
    subst hevent
    have hholds : c.state.holds = none := by
      have haccepts := hstep.accepts
      obtain ⟨state, w⟩ := c
      cases state with
      | connecting self => exact htracked.unstarted (.inl haccepts)
      | connected self | disconnecting self => cases haccepts
      | _ => rfl
    exact hm.accounted.settled id hid (by simp [hholds])

def keepsHandle (c : Config) (event : Event) (c' : Config) : Prop := ¬DropsHandle c event c'

theorem monitored_of_reachable (h : Reachable reliable keepsHandle c) :
    c.state.Monitored c.world.monitors := by
  refine h.invariant_of_steps (I := fun c => c.state.Monitored c.world.monitors) ?_ ?_
  · rintro target w l s ⟨_, _, _, _, _, rfl⟩ htarget henters
    refine henters.monitored ?_
    rcases htarget with rfl | rfl <;>
      exact ⟨by simp [monitors, initial], by simp [monitors, initial, Effect.isRecorded]⟩
  · intro c event c' hc hm hstep hkeeps
    exact hstep.monitored hm (tracked_of_reachable hc) hkeeps

/-- As long as no handle is dropped every monitor is accounted for, and one is started only when
all others are settled. The next step keeps it so exactly if it does not drop the handle. -/
theorem monitors_accounted_iff (hc : Reachable False keepsHandle c)
    (hstep : Step False c event c') :
    c.AccountsForMonitors ∧ (c'.AccountsForMonitors ↔ ¬DropsHandle c event c') ∧
      (c.world.nextMonitor < c'.world.nextMonitor →
        ∀ id, id < c.world.nextMonitor → c.world.monitors.Settled id) := by
  have hm := monitored_of_reachable hc
  have htracked := tracked_of_reachable hc
  refine ⟨hm.accounts, ?_, fun hlt id hid => hstep.settled hm htracked hlt id hid⟩
  by_cases hdrops : DropsHandle c event c'
  · exact iff_of_false (hstep.not_accounts hm htracked hdrops) (not_not.2 hdrops)
  · exact iff_of_true (hstep.monitored hm htracked hdrops).accounts hdrops

end Runs

theorem monitors_accounted_iff_start : ∃ c c', Reachable False keepsHandle c ∧
    Step False c (.apiResolved (some noApi)) c' ∧ c.world.nextMonitor < c'.world.nextMonitor ∧
    c'.AccountsForMonitors := by
  obtain ⟨c, c', hc, hstep, hnext⟩ := exists_step_under_of_plays (C := keepsHandle)
    [(.command (.connect false), .smooth), (.reconnectDelay, .smooth)]
    (.apiResolved (some noApi)) .smooth False.elim
    (by simp [keepsHandle, DropsHandle]) (reachable_spawnedWith False sampleSettings)
    (P := fun c c' => c.world.nextMonitor < c'.world.nextMonitor) (by decide +kernel)
  refine ⟨c, c', hc, hstep, hnext, (monitors_accounted_iff hc hstep).2.1.2 ?_⟩
  rintro ⟨⟨s, hs⟩, -⟩
  cases hs

def Effect.isCancelled : Effect → Bool
  | .cancelled _ => true
  | _ => false

/-- The handle is dropped: the LAN is allowed while connected, and the firewall
refuses. -/
theorem handle_dropped_when_refused : ∃ c c', Reachable False anyStep c ∧
    Step False c (.command (.setTunnelSettings allowLanSettings)) c' ∧
    ¬c'.AccountsForMonitors := by
  obtain ⟨c, c', hc, hstep, hholds, hnext, hlog, hphase⟩ := exists_step_of_plays
    (connectSteps false) (.command (.setTunnelSettings allowLanSettings)) refuses
    False.elim (reachable_spawnedWith False sampleSettings)
    (P := fun _ c' => c'.state.holds = none ∧ 0 < c'.world.nextMonitor ∧
      c'.world.monitors.log.any Effect.isCancelled = false ∧ c'.world.phase 0 ≠ .down)
    (by decide +kernel)
  have halive : c'.world.monitors.Alive 0 :=
    ⟨hnext, fun hmem => List.any_eq_false.1 hlog _ hmem rfl, hphase⟩
  exact ⟨c, c', hc, hstep, halive.not_accounts hholds⟩

end TunnelStateMachine
