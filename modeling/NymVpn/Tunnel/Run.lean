import NymVpn.Tunnel.Handlers

/-!
# Runs of the tunnel state machine

A state waits for some events only: a timer or a resolution that it started, the events of
the monitor that it gave the sender of its channel, in the order that monitor can send them.
A script answers the commands of a run, so that a run can be computed.
-/

namespace TunnelStateMachine

open Net NymFirewall GatewayDirectory Program

structure Config where
  state : State
  world : World

def State.monitor : State → Option ℕ
  | .connecting state => state.tunnelMonitorEventReceiver
  | .connected state => state.tunnelMonitorEventReceiver
  | _ => none

def State.holds : State → Option ℕ
  | .connecting self => self.tunnelMonitorHandle
  | .connected self => some self.tunnelMonitorHandle
  | .disconnecting self => some self.tunnelMonitor
  | _ => none

def State.running : State → Bool
  | .finished | .panicked => false
  | _ => true

def State.watchesConnectivity : State → Bool
  | .disconnected _ | .connecting _ | .connected _ | .offline _ => true
  | _ => false

def State.resolving : State → Bool
  | .disconnected state => state.apiAccess.resolving
  | .error state => state.apiAccess.resolving
  | .connecting state => state.resolveApiAddrs
  | _ => false

def State.timerArmed : State → Bool
  | .disconnected state => state.apiAccess.timer.isSome
  | .error state => state.apiAccess.timer.isSome
  | _ => false

def State.delayed : State → Bool
  | .connecting state => state.reconnectDelay.isSome
  | _ => false

def State.disconnects : State → Bool
  | .disconnecting _ => true
  | _ => false

/-- A pair is selected by the monitor that reports it. -/
def TunnelMonitorEvent.sentBy (monitor : ℕ) : TunnelMonitorEvent → Bool
  | .selectedGateways gateways => gateways.selectedBy == monitor
  | _ => true

namespace Config

def sends (c : Config) (event : TunnelMonitorEvent) : Bool :=
  c.state.monitor.any fun monitor =>
    ((c.world.phase monitor).next event).isSome && event.sentBy monitor

def accepts (c : Config) : Event → Bool
  | .command _ => c.state.running
  | .monitor event => c.sends event
  | .connectivity _ => c.state.watchesConnectivity
  | .apiResolved _ => c.state.resolving
  | .refreshTimer => c.state.timerArmed
  | .reconnectDelay => c.state.delayed
  | .monitorWaited => c.state.disconnects
  | .shutdown => c.state.running

def receive (c : Config) (event : Event) : World :=
  let w := c.world.log (.handled event c.world.shared.tunnelSettings)
  match event, c.state.monitor with
  | .monitor e, some monitor =>
    { w with phase := Function.update w.phase monitor (((w.phase monitor).next e).getD .down) }
  | _, _ => w

theorem shared_receive (c : Config) (event : Event) :
    (c.receive event).shared = c.world.shared := by
  unfold receive
  split <;> rfl

theorem trace_receive (c : Config) (event : Event) :
    (c.receive event).trace = .handled event c.world.shared.tunnelSettings :: c.world.trace := by
  unfold receive
  split <;> rfl

end Config

inductive Step (reliable : Prop) : Config → Event → Config → Prop where
  | mk {c : Config} {event : Event} {s : State} {w : World} (accepts : c.accepts event = true)
      (returns : Prog.Returns (Outcome reliable) (c.state.handleEvent event) (c.receive event)
        s w) : Step reliable c event ⟨s, w⟩

def spawn : Machine State := do
  if ← isOffline then OfflineState.enter false none else DisconnectedState.enter

def SharedState.initial (settings : TunnelSettings) (defaultDnsServers : List IpAddr)
    (blacklist : List NodeIdentity) (apiEndpoints : List SocketAddr) : SharedState :=
  { tunnelSettings := settings
    defaultDnsServers
    blacklistedEntryGateways := blacklist
    entryGatewayGrace := none
    shortSessionStrikes := .reset
    entryGatewaySuspect := none
    bandwidthFailureStreak := ⟨0⟩
    relaxIndependence := false
    apiEndpoints
    apiResolution := none
    apiEndpointsResolvedAt := none }

def World.initial (shared : SharedState) (clock : ℕ) : World :=
  { shared
    killswitch := shared.tunnelSettings.killswitch
    clock
    nextMonitor := 0
    phase := fun _ => .down
    trace := [.spawned shared.tunnelSettings] }

/-- The configurations of the runs in which every step satisfies `C`. -/
inductive Reachable (reliable : Prop) (C : Config → Event → Config → Prop) : Config → Prop where
  | spawn {settings : TunnelSettings} {defaultDnsServers : List IpAddr}
      {blacklist : List NodeIdentity} {apiEndpoints : List SocketAddr} {clock : ℕ} {s : State}
      {w : World}
      (returns : Prog.Returns (Outcome reliable) TunnelStateMachine.spawn
        (.initial (.initial settings defaultDnsServers blacklist apiEndpoints) clock) s w) :
      Reachable reliable C ⟨s, w⟩
  | step {c c' : Config} {event : Event} (reached : Reachable reliable C c)
      (step : Step reliable c event c') (condition : C c event c') : Reachable reliable C c'

def anyStep : Config → Event → Config → Prop := fun _ _ _ => True

section Invariants

variable {reliable : Prop} {C : Config → Event → Config → Prop} {I : Config → Prop} {c c' : Config}
  {event : Event}

theorem Step.ensures {Q : State → World → Prop} (h : Step reliable c event c')
    (hQ : Ensures reliable Q (c.state.handleEvent event) (c.receive event)) :
    Q c'.state c'.world := by
  cases h with
  | mk accepts returns => exact Prog.Holds.of_returns hQ returns

theorem Step.accepts (h : Step reliable c event c') : c.accepts event = true := by
  cases h with
  | mk accepts returns => exact accepts

end Invariants

/-! ## Computed runs -/

structure Script where
  requestOk : Request → Bool := fun _ => true
  offline : Bool := false
  dnsOk : Bool := true
  overridesOk : Bool := true
  apiReachable : Bool := true
  lockOk : Bool := true

namespace Script

def smooth : Script := {}

def answer (σ : Script) : (c : Cmd) → World → c.Answer × World
  | .shared, w => (w.shared, w)
  | .modifyShared f, w => ((), { w with shared := f w.shared })
  | .setKillswitch b, w => ((), { w with killswitch := b })
  | .request r, w => (σ.requestOk r,
      w.log (.request r w.killswitch w.shared.tunnelSettings (σ.requestOk r)))
  | .connectivity, w => (σ.offline, w)
  | .removeRoutes, w => ((), w.log .removedRoutes)
  | .startMonitor p, w => (w.nextMonitor, w.start p)
  | .cancelMonitor id, w => ((), w.log (.cancelled id))
  | .waitMonitor id, w => ((), w.log (.waited id))
  | .dns r, w => (σ.dnsOk, w.log (.dns r w.shared.tunnelSettings σ.dnsOk))
  | .resolverOverrides o, w => (σ.overridesOk, w.log (.resolverOverrides o σ.overridesOk))
  | .networking allowed, w => ((), w.log (.networking allowed))
  | .probeApi _, w => (σ.apiReachable, w)
  | .now, w => (w.clock, w)
  | .lockBlacklist, w => (σ.lockOk, w)

def Reliable (σ : Script) : Prop := ∀ r, σ.requestOk r = true

theorem outcome_answer {reliable : Prop} {σ : Script} (h : reliable → σ.Reliable) (c : Cmd)
    (w : World) : Outcome reliable c w (σ.answer c w).1 (σ.answer c w).2 := by
  cases c with
  | shared | startMonitor p => exact ⟨rfl, rfl⟩
  | request r => exact ⟨fun hr => h hr r, rfl⟩
  | now => exact ⟨le_refl _, rfl⟩
  | _ => rfl

end Script

def Config.play (c : Config) (event : Event) (σ : Script) : Option Config :=
  if c.accepts event then
    ((c.state.handleEvent event).run σ.answer (c.receive event)).map fun r => ⟨r.1, r.2⟩
  else none

def Config.plays (c : Config) : List (Event × Script) → Option Config
  | [] => some c
  | (event, σ) :: rest => (c.play event σ).bind fun c' => c'.plays rest

def Config.spawned (shared : SharedState) : Config :=
  match (spawn.run Script.smooth.answer (.initial shared 0) : Option (State × World)) with
  | some (s, w) => ⟨s, w⟩
  | none => ⟨.panicked, .initial shared 0⟩

section Computed

variable {reliable : Prop} {c c' : Config}

theorem step_of_play {event : Event} {σ : Script} (hσ : reliable → σ.Reliable)
    (h : c.play event σ = some c') : Step reliable c event c' := by
  unfold Config.play at h
  split at h
  · next haccepts =>
      obtain ⟨⟨s, w⟩, hrun, rfl⟩ := Option.map_eq_some_iff.1 h
      exact ⟨haccepts, Prog.returns_of_run (Script.outcome_answer hσ) hrun⟩
  · cases h

variable {C : Config → Event → Config → Prop} {P : Config → Config → Prop}

theorem reachable_of_plays {steps : List (Event × Script)}
    (hσ : reliable → ∀ p ∈ steps, p.2.Reliable) (hC : ∀ p ∈ steps, ∀ c c', C c p.1 c')
    (hc : Reachable reliable C c) (h : c.plays steps = some c') : Reachable reliable C c' := by
  induction steps generalizing c with
  | nil =>
    obtain rfl : c = c' := by simpa [Config.plays] using h
    exact hc
  | cons p steps ih =>
    obtain ⟨c₁, hplay, hrest⟩ := Option.bind_eq_some_iff.1 h
    have hstep := step_of_play (fun h => hσ h p (by simp)) hplay
    have hreached := Reachable.step hc hstep (hC p (by simp) c c₁)
    exact ih (fun h q hq => hσ h q (by simp [hq])) (fun q hq => hC q (by simp [hq])) hreached hrest

theorem reachable_spawned {settings : TunnelSettings} {defaultDnsServers : List IpAddr}
    {blacklist : List NodeIdentity} {apiEndpoints : List SocketAddr} :
    Reachable reliable C
      (.spawned (.initial settings defaultDnsServers blacklist apiEndpoints)) := by
  have hσ : reliable → Script.smooth.Reliable := fun _ _ => rfl
  unfold Config.spawned
  split
  · next s w hrun => exact .spawn (Prog.returns_of_run (Script.outcome_answer hσ) hrun)
  · next hrun => cases hrun

theorem exists_reachable_of_plays (steps : List (Event × Script))
    (hσ : reliable → ∀ p ∈ steps, p.2.Reliable) (hc : Reachable reliable anyStep c)
    {P : Config → Prop} [DecidablePred P] (h : ((c.plays steps).any fun c₁ => P c₁) = true) :
    ∃ c₁, Reachable reliable anyStep c₁ ∧ P c₁ := by
  obtain ⟨c₁, hplays, hP⟩ := (Option.any_eq_true _ _).1 h
  have hreached := reachable_of_plays hσ (fun _ _ _ _ => trivial) hc hplays
  exact ⟨c₁, hreached, of_decide_eq_true hP⟩

theorem exists_step_under_of_plays (steps : List (Event × Script)) (event : Event) (σ : Script)
    (hσ : reliable → σ.Reliable ∧ ∀ p ∈ steps, p.2.Reliable)
    (hC : ∀ p ∈ steps, ∀ c c', C c p.1 c') (hc : Reachable reliable C c) [∀ c, DecidablePred (P c)]
    (h : ((c.plays steps).any fun c₁ => (c₁.play event σ).any fun c₂ => P c₁ c₂) = true) :
    ∃ c₁ c₂, Reachable reliable C c₁ ∧ Step reliable c₁ event c₂ ∧ P c₁ c₂ := by
  obtain ⟨c₁, hplays, hrest⟩ := (Option.any_eq_true _ _).1 h
  obtain ⟨c₂, hplay, hP⟩ := (Option.any_eq_true _ _).1 hrest
  have hreached := reachable_of_plays (fun h => (hσ h).2) hC hc hplays
  exact ⟨c₁, c₂, hreached, step_of_play (fun h => (hσ h).1) hplay, of_decide_eq_true hP⟩

theorem exists_step_of_plays (steps : List (Event × Script)) (event : Event) (σ : Script)
    (hσ : reliable → σ.Reliable ∧ ∀ p ∈ steps, p.2.Reliable)
    (hc : Reachable reliable anyStep c) [∀ c, DecidablePred (P c)]
    (h : ((c.plays steps).any fun c₁ => (c₁.play event σ).any fun c₂ => P c₁ c₂) = true) :
    ∃ c₁ c₂, Reachable reliable anyStep c₁ ∧ Step reliable c₁ event c₂ ∧ P c₁ c₂ :=
  exists_step_under_of_plays steps event σ hσ (fun _ _ _ _ => trivial) hc h

end Computed

/-! ## A session -/

def sampleSettings : TunnelSettings :=
  { enableIpv6 := false, tunnelType := .mixnet, allowLan := false, residentialExit := false
    mixnetTunnelOptions := ⟨none⟩, wireguardTunnelOptions := ⟨.tunTun, false⟩
    gatewayPerformanceOptions := ⟨none, none⟩, mixnetClientConfig := none
    entryPoint := .random, exitPoint := .random, dns := .default, killswitch := true
    legacySplitTunnel := false, inboundExemptions := [], gatewayIndependence := .disabled }

def ipv6Settings : TunnelSettings := { sampleSettings with enableIpv6 := true }

def plainGateway (identity : NodeIdentity) : Gateway :=
  { identity, location := none, iprAddress := none, authenticatorAddress := none
    bridgeParams := none, socks5Score := none, ips := [], clientsWsPort := none
    clientsWssPort := none, performance := none, lpControlPort := none, familyId := none }

def samplePair (selectedBy : ℕ) : SelectedGateways := ⟨plainGateway 1, plainGateway 2, selectedBy⟩

def sampleInterface : TunnelInterface := .one ⟨"nym0", [], none, none⟩

def noApi : ResolvedConfig := ⟨[], ⟨[]⟩, ⟨[]⟩⟩

def startSteps : List (Event × Script) :=
  [(.reconnectDelay, .smooth), (.apiResolved (some noApi), .smooth)]

def connectSteps (relaxIndependence : Bool) : List (Event × Script) :=
  (.command (.connect relaxIndependence), .smooth) :: startSteps ++
    [(.monitor (.selectedGateways (samplePair 0)), .smooth),
      (.monitor (.up sampleInterface .mixnet), .smooth)]

def spawnedWith (settings : TunnelSettings) : Config := .spawned (.initial settings [] [] [])

theorem reachable_spawnedWith (reliable : Prop) {C : Config → Event → Config → Prop}
    (settings : TunnelSettings) : Reachable reliable C (spawnedWith settings) := reachable_spawned

theorem reliable_connectSteps (relaxIndependence : Bool) :
    ∀ p ∈ connectSteps relaxIndependence, p.2.Reliable := by
  intro p hp r
  simp only [connectSteps, startSteps, List.cons_append, List.nil_append, List.mem_cons,
    List.not_mem_nil, or_false] at hp
  rcases hp with rfl | rfl | rfl | rfl | rfl <;> rfl

end TunnelStateMachine
