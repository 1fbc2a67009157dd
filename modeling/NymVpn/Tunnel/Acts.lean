import NymVpn.Tunnel.Run

/-!
# The acts of a handler

What a handler can do to the world, as data. Entering a state has acts of its own, and a
state that cannot be entered is replaced by another one.
-/

namespace TunnelStateMachine

open Net NymFirewall GatewayDirectory Program

/-! ## Acts -/

inductive Act where
  | tick (clock : ℕ)
  | probed (reached : Bool)
  | settings (settings : TunnelSettings)
  | relaxed (relaxIndependence : Bool)
  | adopted (resolved : ResolvedConfig)
  | endedSession
  | clearedStrikes
  | clearedGrace
  | clearedSuspect
  | settledSuspect
  | granted (entry : NodeIdentity)
  | dropped (entry : NodeIdentity) (lifetime : ℕ) (worked : Bool)
  | countedFailure (worked : Bool)
  | countedOtherEnd (worked : Bool)
  | blacklisted (entry : NodeIdentity)
  | clearedBlacklist
  /-- A policy is asked for, the firewall told the current flag before. -/
  | asked (policy : FirewallPolicy) (ok : Bool)
  /-- The idle policy is asked for; when it is taken the resolver is pinned. -/
  | idled (pinned : Option Bool)
  | released (ok : Bool)
  | removedRoutes
  | started (resolved : ResolvedConfig) (gateways : Option SelectedGateways)
  | cancelled (monitor : ℕ)
  | waited (monitor : ℕ)
  | resetDns (request : DnsRequest) (ok : Bool)
  | resetIdleDns (ok : Bool)
  | setDns (interface : String) (ok : Bool)
  | overrode (overrides : Option ResolverOverrides) (ok : Bool)
  | networking (allowed : Bool)

def Act.onlyIf (c : Bool) (a : Act) : List Act := if c then [a] else []

variable (a : Act) {reliable : Prop} {target : Target}

@[simp] theorem Act.onlyIf_true : Act.onlyIf true a = [a] := rfl

@[simp] theorem Act.onlyIf_false : Act.onlyIf false a = [] := rfl

@[simp] theorem Act.mem_onlyIf {a b : Act} {c : Bool} : a ∈ Act.onlyIf c b ↔ c = true ∧ a = b := by
  cases c <;> simp

namespace SharedState

def adopt (s : SharedState) (resolved : ResolvedConfig) (resolvedAt : ℕ) : SharedState :=
  { s with
    apiEndpoints := sortedAddrs resolved.allSocketAddrs
    apiResolution := some resolved
    apiEndpointsResolvedAt := some resolvedAt }

def recordDrop (s : SharedState) (entry : NodeIdentity) (lifetime : ℕ) (worked : Bool)
    (graceFrom : ℕ) : SharedState :=
  let (strikes, struckOut) :=
    s.shortSessionStrikes.record entry lifetime s.tunnelSettings.tunnelType
  { s with
    bandwidthFailureStreak := s.bandwidthFailureStreak.recordOtherEnd worked
    entryGatewayGrace := some (entry, graceFrom + gatewayBlameGrace)
    shortSessionStrikes := strikes
    entryGatewaySuspect := if struckOut then some entry else s.entryGatewaySuspect }

def parameters (s : SharedState) (resolved : ResolvedConfig)
    (gateways : Option SelectedGateways) : TunnelParameters :=
  { resolvedGatewayConfig := some resolved
    tunnelSettings := s.tunnelSettings
    selectedGateways := gateways
    blacklistedEntryGateways := s.blacklistedEntryGateways
    relaxIndependence := s.relaxIndependence
    bandwidthFailuresEndSession := s.bandwidthFailureStreak.endsSessions }

end SharedState

def SharedState.act (s : SharedState) (clock : ℕ) : Act → SharedState
  | .settings settings => { s with tunnelSettings := settings }
  | .relaxed relax => { s with relaxIndependence := relax }
  | .adopted resolved => s.adopt resolved clock
  | .endedSession => s.endSession
  | .clearedStrikes => s.clearShortSessionStrikes
  | .clearedGrace => { s with entryGatewayGrace := none }
  | .clearedSuspect => { s with entryGatewaySuspect := none }
  | .settledSuspect => { s.clearShortSessionStrikes with entryGatewayGrace := none }
  | .granted entry => { s with entryGatewayGrace := some (entry, clock + gatewayBlameGrace) }
  | .dropped entry lifetime worked => s.recordDrop entry lifetime worked clock
  | .countedFailure worked =>
    { s with bandwidthFailureStreak := (s.bandwidthFailureStreak.recordFailure worked).1 }
  | .countedOtherEnd worked =>
    { s with bandwidthFailureStreak := s.bandwidthFailureStreak.recordOtherEnd worked }
  | .blacklisted entry =>
    { s with blacklistedEntryGateways := s.blacklistedEntryGateways.insert entry }
  | .clearedBlacklist => { s with blacklistedEntryGateways := [] }
  | _ => s

namespace World

def idled (w : World) : Option Bool → World
  | none => w.asked w.shared.idleRequest false
  | some pinned => (w.asked w.shared.idleRequest true).log (.resolverOverrides
      (idleResolverPins w.shared.tunnelSettings.killswitch w.shared.apiResolution) pinned)

def act (w : World) : Act → World
  | .tick clock => { w with clock }
  | .probed _ => w
  | .asked policy ok => w.asked (.policy policy) ok
  | .idled pinned => w.idled pinned
  | .released ok => w.log (.request .reset w.killswitch w.shared.tunnelSettings ok)
  | .removedRoutes => w.log .removedRoutes
  | .started resolved gateways => w.start (w.shared.parameters resolved gateways)
  | .cancelled monitor => w.log (.cancelled monitor)
  | .waited monitor => w.log (.waited monitor)
  | .resetDns request ok => w.log (.dns request w.shared.tunnelSettings ok)
  | .resetIdleDns ok => w.log (.dns
      (.resetIdle (w.shared.tunnelSettings.idleDns w.shared.defaultDnsServers))
      w.shared.tunnelSettings ok)
  | .setDns interface ok => w.log (.dns (.set interface
      (w.shared.tunnelSettings.resolvedDnsConfig w.shared.defaultDnsServers))
      w.shared.tunnelSettings ok)
  | .overrode overrides ok => w.log (.resolverOverrides overrides ok)
  | .networking allowed => w.log (.networking allowed)
  | a => { w with shared := w.shared.act w.clock a }

def acts (w : World) (l : List Act) : World := l.foldl act w

@[simp] theorem acts_nil (w : World) : w.acts [] = w := rfl

@[simp] theorem acts_cons (w : World) (a : Act) (l : List Act) :
    w.acts (a :: l) = (w.act a).acts l := rfl

@[simp] theorem acts_append (w : World) (l l' : List Act) :
    w.acts (l ++ l') = (w.acts l).acts l' := List.foldl_append

end World

/-! ## Targets -/

inductive Target where
  | stays (state : State)
  | disconnected
  | error (reason : ErrorStateReason)
  | offline (reconnect : Bool) (gateways : Option SelectedGateways)
  | connecting (retryAttempt : ℕ) (gateways : Option SelectedGateways)
  | disconnecting (afterDisconnect : PrivateActionAfterDisconnect) (monitor : ℕ)
  | connected (tunnelInterface : TunnelInterface) (tunnel : TunnelConnectionData)
      (gateways : SelectedGateways) (monitor : ℕ) (receiver : Option ℕ)

def Target.enter : Target → Machine State
  | .stays state => return state
  | .disconnected => DisconnectedState.enter
  | .error reason => ErrorState.enter reason
  | .offline reconnect gateways => OfflineState.enter reconnect gateways
  | .connecting retryAttempt gateways => ConnectingState.enter retryAttempt gateways
  | .disconnecting afterDisconnect monitor => DisconnectingState.enter afterDisconnect monitor
  | .connected tunnelInterface tunnel gateways monitor receiver =>
    ConnectedState.enter tunnelInterface tunnel gateways monitor receiver

def ConnectingState.initial (shared : SharedState) (retryAttempt : ℕ)
    (gateways : Option SelectedGateways) : ConnectingState :=
  { retryAttempt
    tunnelMonitorHandle := none
    tunnelMonitorEventSender := true
    tunnelMonitorEventReceiver := none
    selectedGateways := gateways
    firewallPolicyParams := ConnectingPolicyParameters.initial shared gateways
    resolveApiAddrs := false
    reconnectDelay := some (if retryAttempt > 0 then waitDelay retryAttempt else 0)
    finalRetryOwed := false }

def ConnectedState.initial (params : ConnectedPolicyParameters) (tunnelInterface : TunnelInterface)
    (gateways : SelectedGateways) (monitor : ℕ) (receiver : Option ℕ) (connectedAt : ℕ) :
    ConnectedState :=
  { tunnelMonitorHandle := monitor
    tunnelMonitorEventReceiver := receiver
    selectedGateways := gateways
    tunnelInterface
    firewallPolicyParams := params
    bandwidthFailure := none
    bandwidthChecksWorked := false
    connectedAt }

/-- The acts of entering a target, and the state that is entered. A refused request
enters another target. -/
inductive Enters (reliable : Prop) : Target → World → List Act → State → Prop where
  | stays : Enters reliable (.stays state) w [] state
  | error (refused : pinned = none → ¬reliable) :
      Enters reliable (.error reason) w [.idled pinned, .networking true, .tick t]
        (.error ⟨reason, access⟩)
  | disconnected : Enters reliable .disconnected w
      [.endedSession, .idled (some pinned), .networking true, .resetIdleDns ok, .tick t]
      (.disconnected ⟨access⟩)
  | disconnectedRefused (refused : ¬reliable)
      (rest : Enters reliable (.error .setFirewallPolicy) (w.acts [.endedSession, .idled none])
        l s) :
      Enters reliable .disconnected w ([.endedSession, .idled none] ++ l) s
  | offline (refused : ok = false → ¬reliable) :
      Enters reliable (.offline reconnect gateways) w
        [.networking false, .clearedStrikes,
          .asked (BlockedPolicyParameters.asPolicy ⟨w.shared.tunnelSettings.allowLan⟩) ok]
        (.offline ⟨reconnect, gateways, ⟨w.shared.tunnelSettings.allowLan⟩⟩)
  | connecting : Enters reliable (.connecting retryAttempt gateways) w
      [.networking false,
        .asked (ConnectingPolicyParameters.initial w.shared gateways).asPolicy true]
      (.connecting (.initial w.shared retryAttempt gateways))
  | connectingOffline
      (rest : Enters reliable (.offline true gateways) (w.acts [.networking false]) l s) :
      Enters reliable (.connecting retryAttempt gateways) w ([.networking false] ++ l) s
  | connectingRefused (refused : ¬reliable) (acts : l = [.networking false,
        .asked (ConnectingPolicyParameters.initial w.shared gateways).asPolicy false])
      (rest : Enters reliable (.error .setFirewallPolicy) (w.acts l) l' s) :
      Enters reliable (.connecting retryAttempt gateways) w (l ++ l') s
  | disconnecting : Enters reliable (.disconnecting after monitor) w
      [.networking false, .cancelled monitor] (.disconnecting ⟨after, monitor⟩)
  | connected (hparams : params =
        ConnectedPolicyParameters.initial w.shared tunnelInterface tunnel gateways) :
      Enters reliable (.connected tunnelInterface tunnel gateways monitor receiver) w
        [.tick t, .asked params.asPolicy true,
          .setDns tunnelInterface.exitMetadata.interface true, .overrode none ok]
        (.connected (.initial params tunnelInterface gateways monitor receiver t))
  | connectedRefused (refused : ¬reliable) (hparams : params =
        ConnectedPolicyParameters.initial w.shared tunnelInterface tunnel gateways)
      (rest : Enters reliable (.disconnecting (.error .setFirewallPolicy) monitor)
        (w.acts [.tick t, .asked params.asPolicy false]) l s) :
      Enters reliable (.connected tunnelInterface tunnel gateways monitor receiver) w
        ([.tick t, .asked params.asPolicy false] ++ l) s
  | connectedUnresolved (hparams : params =
        ConnectedPolicyParameters.initial w.shared tunnelInterface tunnel gateways)
      (acts : l = [.tick t, .asked params.asPolicy true,
        .setDns tunnelInterface.exitMetadata.interface false])
      (rest : Enters reliable (.disconnecting (.error .setDns) monitor) (w.acts l) l' s) :
      Enters reliable (.connected tunnelInterface tunnel gateways monitor receiver) w (l ++ l') s

section Enters

variable {reliable : Prop} {w : World} {Q : State → World → Prop}

theorem ensures_idled {Q : Bool → World → Prop} :
    Ensures reliable Q enterIdleFirewall w ↔
      ∀ pinned : Option Bool, (pinned = none → ¬reliable) → Q pinned.isSome (w.idled pinned) := by
  rw [ensures_enterIdleFirewall]
  constructor
  · rintro ⟨htaken, hrefused⟩ pinned hr
    cases pinned with
    | none => exact hrefused (hr rfl)
    | some pinned => exact htaken pinned
  · exact fun h => ⟨fun pinned => h (some pinned) (nomatch ·), fun hr => h none fun _ => hr⟩

theorem Target.ensures_enter {target : Target}
    (h : ∀ l s, Enters reliable target w l s → Q s (w.acts l)) :
    Ensures reliable Q target.enter w := by
  have herror : ∀ {w : World} {reason : ErrorStateReason} {Q : State → World → Prop},
      (∀ l s, Enters reliable (.error reason) w l s → Q s (w.acts l)) →
        Ensures reliable Q (ErrorState.enter reason) w := by
    intro w reason Q h
    refine ensures_bind.2 (ensures_idled.2 fun pinned hr => ?_)
    rw [ensures_bind, ensures_setNetworking, ensures_bind]
    exact IdleApiAccess.ensures_schedule fun access t => h _ _ (.error hr)
  have hoffline : ∀ {w : World} {reconnect : Bool} {gateways : Option SelectedGateways}
      {Q : State → World → Prop},
      (∀ l s, Enters reliable (.offline reconnect gateways) w l s → Q s (w.acts l)) →
        Ensures reliable Q (OfflineState.enter reconnect gateways) w := by
    intro w reconnect gateways Q h
    simp only [OfflineState.enter, OfflineState.setFirewallPolicy, ensures_bind,
      ensures_setNetworking, ensures_modifyShared, ensures_readShared, ensures_setFirewallPolicy]
    exact ⟨h _ _ (.offline fun hok => absurd hok (by simp)), fun hr => h _ _ (.offline fun _ => hr)⟩
  have hdisconnecting : ∀ {w : World} {after : PrivateActionAfterDisconnect} {monitor : ℕ}
      {Q : State → World → Prop},
      (∀ l s, Enters reliable (.disconnecting after monitor) w l s → Q s (w.acts l)) →
        Ensures reliable Q (DisconnectingState.enter after monitor) w := by
    intro w after monitor Q h
    simp only [DisconnectingState.enter, ensures_bind, ensures_setNetworking, ensures_cancelMonitor]
    exact h _ _ .disconnecting
  cases target with
  | stays state => exact h _ _ .stays
  | error reason => exact herror h
  | offline reconnect gateways => exact hoffline h
  | disconnecting after monitor => exact hdisconnecting h
  | disconnected =>
    refine ensures_bind.2 (ensures_modifyShared.2 (ensures_bind.2
      (ensures_idled.2 fun pinned hr => ?_)))
    cases pinned with
    | none => exact herror fun l s hrest => h _ _ (.disconnectedRefused (hr rfl) hrest)
    | some pinned =>
      simp only [Option.isSome_some, if_true, ensures_bind, ensures_setNetworking,
        DisconnectedState.resetDns, ensures_readShared, ensures_discard, ensures_sendDns]
      exact fun ok => IdleApiAccess.ensures_schedule fun access t => h _ _ .disconnected
  | connecting retryAttempt gateways =>
    refine ensures_bind.2 (ensures_setNetworking.2 (ensures_bind.2
      (ensures_isOffline.2 fun offline => ?_)))
    cases offline with
    | true => exact hoffline fun l s hrest => h _ _ (.connectingOffline hrest)
    | false =>
      simp only [Bool.false_eq_true, if_false, ensures_bind, ensures_readShared,
        ConnectingState.setFirewallPolicy, ensures_setFirewallPolicy]
      exact ⟨h _ _ .connecting,
        fun hr => herror fun l s hrest => h _ _ (.connectingRefused hr rfl hrest)⟩
  | connected tunnelInterface tunnel gateways monitor receiver =>
    refine ensures_bind.2 (ensures_readShared.2 (ensures_bind.2 (ensures_now.2 fun t _ => ?_)))
    simp only [ensures_bind, ConnectedState.setFirewallPolicy, ensures_setFirewallPolicy]
    refine ⟨?_, fun hr => ?_⟩
    · simp only [if_true, ensures_bind, ConnectedState.setDns, ensures_readShared, ensures_sendDns]
      intro ok
      cases ok with
      | true => exact ensures_bind.2 (ensures_useOverrides.2 fun ok => h _ _ (.connected rfl))
      | false => exact hdisconnecting fun l s hrest => h _ _ (.connectedUnresolved rfl rfl hrest)
    · exact hdisconnecting fun l s hrest => h _ _ (.connectedRefused hr rfl hrest)

end Enters

@[simp] def Target.Keeps (P : State → Prop) : Target → Prop
  | .stays s => P s
  | _ => True

/-! ## The record -/

def Act.effects (w : World) : Act → List Effect
  | .asked policy ok => [.request (.policy policy) w.shared.tunnelSettings.killswitch
      w.shared.tunnelSettings ok]
  | .idled none => [.request w.shared.idleRequest w.shared.tunnelSettings.killswitch
      w.shared.tunnelSettings false]
  | .idled (some pinned) =>
    [.resolverOverrides
      (idleResolverPins w.shared.tunnelSettings.killswitch w.shared.apiResolution) pinned,
    .request w.shared.idleRequest w.shared.tunnelSettings.killswitch w.shared.tunnelSettings true]
  | .released ok => [.request .reset w.killswitch w.shared.tunnelSettings ok]
  | .removedRoutes => [.removedRoutes]
  | .started resolved gateways =>
    [.started w.nextMonitor (w.shared.parameters resolved gateways)]
  | .cancelled monitor => [.cancelled monitor]
  | .waited monitor => [.waited monitor]
  | .resetDns request ok => [.dns request w.shared.tunnelSettings ok]
  | .resetIdleDns ok => [.dns (.resetIdle (w.shared.tunnelSettings.idleDns
      w.shared.defaultDnsServers)) w.shared.tunnelSettings ok]
  | .setDns interface ok => [.dns (.set interface (w.shared.tunnelSettings.resolvedDnsConfig
      w.shared.defaultDnsServers)) w.shared.tunnelSettings ok]
  | .overrode overrides ok => [.resolverOverrides overrides ok]
  | .networking allowed => [.networking allowed]
  | _ => []

theorem World.trace_act (w : World) : (w.act a).trace = a.effects w ++ w.trace := by
  cases a with
  | idled pinned => cases pinned <;> rfl
  | _ => rfl

theorem Act.isHandled_effects {w : World} {a : Act} {e : Effect} (h : e ∈ a.effects w) :
    e.isHandled = false := by
  cases a with
  | idled pinned => cases pinned <;> simp [Act.effects] at h <;> grind [Effect.isHandled]
  | _ => simp [Act.effects] at h <;> simp [h, Effect.isHandled]

theorem World.apply_trace_acts {β : Type*} {f : List Effect → β} {skips : Effect → Prop}
    (hf : ∀ e trace, skips e → f (e :: trace) = f trace) {w : World} {l : List Act}
    (h : ∀ a ∈ l, ∀ w, ∀ e ∈ a.effects w, skips e) : f (w.acts l).trace = f w.trace := by
  have happend : ∀ es : List Effect, (∀ e ∈ es, skips e) → ∀ trace, f (es ++ trace) = f trace := by
    intro es hes trace
    induction es with
    | nil => rfl
    | cons e es ih =>
      exact (hf e _ (hes e (by simp))).trans (ih fun e he => hes e (by simp [he]))
  induction l generalizing w with
  | nil => rw [World.acts_nil]
  | cons a l ih =>
    rw [World.acts_cons, ih fun b hb => h b (by simp [hb]), World.trace_act]
    exact happend _ (h a (by simp) w) _

/-! ## The settings -/

@[simp] def Act.settings? : Act → Option TunnelSettings
  | .settings s => some s
  | _ => none

@[simp] theorem World.settings_act (w : World) :
    (w.act a).shared.tunnelSettings = a.settings?.getD w.shared.tunnelSettings := by
  cases a with
  | idled pinned => cases pinned <;> rfl
  | _ => rfl

theorem World.settings_acts {w : World} {l : List Act} (h : ∀ a ∈ l, a.settings? = none) :
    (w.acts l).shared.tunnelSettings = w.shared.tunnelSettings := by
  induction l generalizing w with
  | nil => rfl
  | cons a l ih =>
    rw [World.acts_cons, ih fun b hb => h b (by simp [hb]), World.settings_act, h a (by simp)]
    rfl

@[simp] def Act.Enters (reliable : Prop) : Act → Prop
  | .asked _ ok => ok = false → ¬reliable
  | .idled pinned => pinned = none → ¬reliable
  | .tick _ | .networking _ | .endedSession | .clearedStrikes | .resetIdleDns _ | .cancelled _
  | .setDns _ _ | .overrode _ _ => True
  | _ => False

theorem Enters.acts {w : World} {l : List Act} {s : State}
    (h : Enters reliable target w l s) : ∀ a ∈ l, a.Enters reliable := by
  induction h with
  | error refused | offline refused => simpa using refused
  | connectingOffline rest ih => simpa [or_imp, forall_and] using ih
  | connectingRefused refused acts rest ih =>
    simpa [acts, or_imp, forall_and, refused] using ih
  | disconnectedRefused refused rest ih | connectedRefused refused hparams rest ih =>
    simpa [or_imp, forall_and, refused] using ih
  | connectedUnresolved hparams acts rest ih =>
    simpa [acts, or_imp, forall_and] using ih
  | _ => simp

theorem Enters.settings {w : World} {l : List Act} {s : State} (h : Enters reliable target w l s) :
    (w.acts l).shared.tunnelSettings = w.shared.tunnelSettings := by
  refine World.settings_acts fun a ha => ?_
  have := h.acts a ha
  cases a <;> first | rfl | exact this.elim

/-! ## Acts that only keep accounts -/

/-- Nothing was recorded, and neither the settings nor the monitors changed. -/
structure World.Steady (w w' : World) : Prop where
  trace : w'.trace = w.trace
  phase : w'.phase = w.phase
  nextMonitor : w'.nextMonitor = w.nextMonitor
  tunnelSettings : w'.shared.tunnelSettings = w.shared.tunnelSettings
  defaultDnsServers : w'.shared.defaultDnsServers = w.shared.defaultDnsServers
  relaxIndependence : w'.shared.relaxIndependence = w.shared.relaxIndependence

theorem World.Steady.trans {w v u : World} (h : w.Steady v) (h' : v.Steady u) : w.Steady u :=
  ⟨h'.trace.trans h.trace, h'.phase.trans h.phase, h'.nextMonitor.trans h.nextMonitor,
    h'.tunnelSettings.trans h.tunnelSettings, h'.defaultDnsServers.trans h.defaultDnsServers,
    h'.relaxIndependence.trans h.relaxIndependence⟩

def Act.accounts : Act → Bool
  | .tick _ | .probed _ | .clearedStrikes | .clearedGrace | .clearedSuspect | .settledSuspect
  | .granted _ | .dropped _ _ _ | .countedFailure _ | .countedOtherEnd _ | .blacklisted _
  | .clearedBlacklist => true
  | _ => false

theorem World.steady_acts {w : World} {l : List Act} (h : ∀ a ∈ l, a.accounts = true) :
    w.Steady (w.acts l) := by
  induction l generalizing w with
  | nil => exact ⟨rfl, rfl, rfl, rfl, rfl, rfl⟩
  | cons a l ih =>
    have hact : w.Steady (w.act a) := by
      have ha := h a (by simp)
      cases a with
      | tick t => exact ⟨rfl, rfl, rfl, rfl, rfl, rfl⟩
      | _ => first | exact ⟨rfl, rfl, rfl, rfl, rfl, rfl⟩ | cases ha
    exact hact.trans (ih fun b hb => h b (by simp [hb]))

-- A list of acts is taken apart by its lemmas only.
attribute [irreducible] World.acts

end TunnelStateMachine
