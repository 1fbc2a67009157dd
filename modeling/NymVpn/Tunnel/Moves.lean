import NymVpn.Tunnel.Acts

/-!
# What a handler can do

For each state and each event, the acts of the handler and the state it then enters, so that
an invariant is checked once for each way to handle an event.
-/

namespace TunnelStateMachine

open Net NymFirewall GatewayDirectory Program IdleApiAccess

unseal World.acts

/-- The acts of an idle state that keeps the API reachable, with whether the firewall
took them. -/
inductive IdleApiAccess.Handles (reliable : Prop) : Event → List Act → Bool → Prop where
  | resolved : Handles reliable (.apiResolved (some resolved))
      [.tick t, .adopted resolved, .idled (some pinned), .tick t'] true
  | refused (refused : ¬reliable) : Handles reliable (.apiResolved (some resolved))
      [.tick t, .adopted resolved, .idled none] false
  | unresolved : Handles reliable (.apiResolved none) [.tick t] true

variable {reliable : Prop} {w : World}

theorem IdleApiAccess.ensures_handleResolved
    {Q : IdleApiAccess × Bool → World → Prop} {access : IdleApiAccess}
    {result : Option ResolvedConfig}
    (h : ∀ l ok access', Handles reliable (.apiResolved result) l ok →
      Q (access', ok) (w.acts l)) : Ensures reliable Q (access.handleResolved result) w := by
  cases result with
  | none => exact ensures_bind.2 (ensures_now.2 fun t _ => h [.tick t] _ _ .unresolved)
  | some resolved =>
    simp only [handleResolved, installIdleApiAccess, adoptResolvedApiEndpoints, ensures_bind,
      ensures_now, ensures_modifyShared, ensures_idled]
    intro t _ pinned hr
    cases pinned with
    | none => exact h [.tick t, .adopted resolved, .idled none] _ _ (.refused (hr rfl))
    | some pinned =>
      refine ensures_bind.2 (ensures_readShared.2 (ensures_bind.2 (ensures_now.2 ?_)))
      exact fun t' _ =>
        h [.tick t, .adopted resolved, .idled (some pinned), .tick t'] _ _ .resolved

section

variable (reliable : Prop) (w : World)

inductive DisconnectedState.Handles : Event → List Act → Target → Prop where
  | connect : Handles (.command (.connect relax)) [.relaxed relax] (.connecting 0 none)
  | settings : Handles (.command (.setTunnelSettings settings))
      (.settings settings :: Act.onlyIf changed (.resetIdleDns ok) ++
        [.idled (some pinned), .tick t]) (.stays (.disconnected ⟨access⟩))
  | settingsRefused (refused : ¬reliable) : Handles (.command (.setTunnelSettings settings))
      (.settings settings :: Act.onlyIf changed (.resetIdleDns ok) ++ [.idled none])
      (.error .setFirewallPolicy)
  | api (handles : IdleApiAccess.Handles reliable event l true) :
      Handles event l (.stays (.disconnected ⟨access⟩))
  | apiRefused (handles : IdleApiAccess.Handles reliable event l false) :
      Handles event l (.error .setFirewallPolicy)
  | refreshTimer : Handles .refreshTimer [.tick t] (.stays (.disconnected ⟨access⟩))
  | offline : Handles (.connectivity true) [] (.offline false none)
  | shutdown : Handles .shutdown [.resetIdleDns ok] (.stays .finished)

/-- The acts of a shutdown with the kill-switch policy in place: without the
kill-switch it is reset. -/
inductive Releases : List Act → Prop where
  | keeps (hkillswitch : w.shared.tunnelSettings.killswitch = true) :
      Releases [.resetDns .reset ok]
  | resets (hkillswitch : w.shared.tunnelSettings.killswitch = false)
      (refused : released = false → ¬reliable) :
      Releases [.resetDns .reset ok, .released released]

def ErrorState.reapplies (diff : TunnelSettingsDiff) : Bool :=
  diff.isFieldChanged .allowLan || diff.isFieldChanged .killswitch ||
    diff.isFieldChanged .enableIpv6 || diff.isFieldChanged .dns

inductive ErrorState.Handles (self : ErrorState) : Event → List Act → Target → Prop where
  | connectOffline : Handles self (.command (.connect relax))
      [.relaxed relax, .resetDns .reset ok] (.offline true none)
  | connect : Handles self (.command (.connect relax)) [.relaxed relax, .resetDns .reset ok]
      (.connecting 0 none)
  | disconnectOffline : Handles self (.command .disconnect) [.resetDns .reset ok]
      (.offline false none)
  | disconnect : Handles self (.command .disconnect) [.resetDns .reset ok] .disconnected
  | settings (hdiff : w.shared.tunnelSettings.diff settings = some diff)
      (hreapplies : ErrorState.reapplies diff = false) :
      Handles self (.command (.setTunnelSettings settings)) [.settings settings]
        (.stays (.error self))
  | settingsRefused (hdiff : w.shared.tunnelSettings.diff settings = some diff)
      (refused : ¬reliable) (hreapplies : ErrorState.reapplies diff = true) :
      Handles self (.command (.setTunnelSettings settings)) [.settings settings, .idled none]
        (.stays (.error self))
  | settingsTaken (hdiff : w.shared.tunnelSettings.diff settings = some diff)
      (hreapplies : ErrorState.reapplies diff = true) :
      Handles self (.command (.setTunnelSettings settings))
        [.settings settings, .idled (some pinned), .tick t]
        (.stays (.error { self with apiAccess := access }))
  | settingsResolved (hdiff : w.shared.tunnelSettings.diff settings = some diff)
      (hreapplies : ErrorState.reapplies diff = true) :
      Handles self (.command (.setTunnelSettings settings))
        [.settings settings, .idled (some pinned)] .disconnected
  | api (handles : IdleApiAccess.Handles reliable event l ok) :
      Handles self event l (.stays (.error { self with apiAccess := access }))
  | refreshTimer : Handles self .refreshTimer [.tick t]
      (.stays (.error { self with apiAccess := access }))
  | shutdown (releases : Releases reliable w l) : Handles self .shutdown l (.stays .finished)

def TunnelSettingsDiff.keptGateways (diff : TunnelSettingsDiff)
    (gateways : Option SelectedGateways) : Option SelectedGateways :=
  if diff.affectsGatewaySelection then none else gateways

def OfflineState.updatedParams (self : OfflineState) (diff : TunnelSettingsDiff)
    (settings : TunnelSettings) : BlockedPolicyParameters :=
  if diff.allowLanChanged then ⟨settings.allowLan⟩ else self.firewallPolicyParams

inductive OfflineState.Handles (self : OfflineState) : Event → List Act → Target → Prop where
  | connectStays (hreconnect : self.reconnect = true) :
      Handles self (.command (.connect relax)) [.relaxed relax] (.stays (.offline self))
  | connect (hreconnect : self.reconnect = false) :
      Handles self (.command (.connect relax)) [.relaxed relax]
        (.offline true self.selectedGateways)
  | disconnect : Handles self (.command .disconnect) []
      (.stays (.offline { self with reconnect := false }))
  | settings (hdiff : w.shared.tunnelSettings.diff settings = some diff)
      (refused : ok = false → ¬reliable) :
      Handles self (.command (.setTunnelSettings settings))
        (.settings settings :: Act.onlyIf (diff.allowLanChanged || diff.killswitchChanged)
          (.asked (self.updatedParams diff settings).asPolicy ok))
        (.stays (.offline { self with
          selectedGateways := diff.keptGateways self.selectedGateways
          firewallPolicyParams := self.updatedParams diff settings }))
  | resume (hreconnect : self.reconnect = true) (hgateways : self.selectedGateways = none) :
      Handles self (.connectivity false) [.resetDns .reset ok] (.connecting 0 none)
  | resumeWith (hreconnect : self.reconnect = true)
      (hgateways : self.selectedGateways = some gateways) :
      Handles self (.connectivity false)
        [.resetDns .reset ok, .tick t, .granted gateways.entryGateway.identity]
        (.connecting 0 (some gateways))
  | online (hreconnect : self.reconnect = false) :
      Handles self (.connectivity false) [.resetDns .reset ok] .disconnected
  | shutdown (releases : Releases reliable w l) : Handles self .shutdown l (.stays .finished)

def PrivateActionAfterDisconnect.target : PrivateActionAfterDisconnect → Target
  | .nothing => .disconnected
  | .error reason => .error reason
  | .reconnect gateways => .connecting 0 gateways
  | .offline again gateways => .offline again gateways

inductive DisconnectingState.Handles (self : DisconnectingState) :
    Event → List Act → Target → Prop where
  | waited : Handles self .monitorWaited [.waited self.tunnelMonitor] self.afterDisconnect.target
  | connect : Handles self (.command (.connect relax)) [.relaxed relax]
      (.stays (.disconnecting { self with
        afterDisconnect := DisconnectingState.afterConnect self.afterDisconnect }))
  | disconnect : Handles self (.command .disconnect) []
      (.stays (.disconnecting { self with
        afterDisconnect := DisconnectingState.afterUserDisconnect self.afterDisconnect }))
  | settings : Handles self (.command (.setTunnelSettings settings)) [.settings settings]
      (.stays (.disconnecting self))
  | shutdown : Handles self .shutdown [.waited self.tunnelMonitor] .disconnected

def Act.cleanup (ok : Bool) : List Act :=
  [.resetDns .resetBeforeInterfaceRemoval ok, .removedRoutes]

def ConnectedState.reapplies (diff : TunnelSettingsDiff) : Bool :=
  diff.allowLanChanged || diff.inboundExemptionsChanged

inductive ConnectedState.Handles (self : ConnectedState) : Event → List Act → Target → Prop where
  | connect : Handles self (.command (.connect relax)) (.relaxed relax :: Act.cleanup ok)
      (.disconnecting (.reconnect none) self.tunnelMonitorHandle)
  | disconnect : Handles self (.command .disconnect) (Act.cleanup ok)
      (.disconnecting .nothing self.tunnelMonitorHandle)
  | shutdown : Handles self .shutdown (Act.cleanup ok)
      (.disconnecting .nothing self.tunnelMonitorHandle)
  | offline : Handles self (.connectivity true) (Act.cleanup ok)
      (.disconnecting (.offline true (some self.selectedGateways)) self.tunnelMonitorHandle)
  | settingsRefused (hdiff : w.shared.tunnelSettings.diff settings = some diff)
      (refused : ¬reliable) (hreapplies : ConnectedState.reapplies diff = true) :
      Handles self (.command (.setTunnelSettings settings))
        [.asked (self.firewallPolicyParams.hotApply diff settings).asPolicy false]
        (.error .setFirewallPolicy)
  | settingsKept (hdiff : w.shared.tunnelSettings.diff settings = some diff)
      (hkeeps : ConnectedState.keepsTunnel diff settings = true) :
      Handles self (.command (.setTunnelSettings settings))
        (Act.onlyIf (ConnectedState.reapplies diff)
          (.asked (self.firewallPolicyParams.hotApply diff settings).asPolicy true) ++
            [.settings settings])
        (.stays (.connected { self with
          firewallPolicyParams := self.firewallPolicyParams.hotApply diff settings }))
  | settingsLeft (hdiff : w.shared.tunnelSettings.diff settings = some diff)
      (hkeeps : ConnectedState.keepsTunnel diff settings = false) :
      Handles self (.command (.setTunnelSettings settings))
        (Act.onlyIf (ConnectedState.reapplies diff)
          (.asked (self.firewallPolicyParams.hotApply diff settings).asPolicy true) ++
            .settings settings :: Act.cleanup ok)
        (.disconnecting (.reconnect (diff.keptGateways (some self.selectedGateways)))
          self.tunnelMonitorHandle)
  | bandwidthChecks : Handles self (.monitor (.bandwidthChecks found worked)) []
      (.stays (.connected { self with
        bandwidthFailure := found, bandwidthChecksWorked := worked }))
  | failed : Handles self (.monitor (.down (some reason))) (Act.cleanup ok ++ [.tick t])
      (.error reason)
  | bandwidthFailed (ok blames : Bool) (t : ℕ) (hfailure : self.bandwidthFailure = some culpable)
      (hblames : blames = true → culpable = some true) :
      Handles self (.monitor (.down none))
        (Act.cleanup ok ++ .tick t :: .clearedGrace :: .countedFailure self.bandwidthChecksWorked ::
          Act.onlyIf blames (.blacklisted self.selectedGateways.entryGateway.identity))
        (.connecting (w.shared.bandwidthFailureStreak.recordFailure self.bandwidthChecksWorked).2
          (if culpable = none then some self.selectedGateways else none))
  | dropped (ok : Bool) (t t' : ℕ) (hfailure : self.bandwidthFailure = none)
      (hstruck : struckOut = (w.shared.shortSessionStrikes.record
        self.selectedGateways.entryGateway.identity (t - self.connectedAt)
        w.shared.tunnelSettings.tunnelType).2) :
      Handles self (.monitor (.down none))
        (Act.cleanup ok ++ [.tick t, .tick t', .dropped self.selectedGateways.entryGateway.identity
          (t - self.connectedAt) self.bandwidthChecksWorked])
        (.connecting (if struckOut then 1 else 0) (some self.selectedGateways))

namespace ConnectingState

def targetOr (self : ConnectingState) (after : PrivateActionAfterDisconnect)
    (otherwise : Target) : Target :=
  self.tunnelMonitorHandle.elim otherwise fun monitor => .disconnecting after monitor

theorem targetOr_cases {P : Target → Prop} {self : ConnectingState}
    {after : PrivateActionAfterDisconnect} {otherwise : Target}
    (hsome : ∀ monitor, self.tunnelMonitorHandle = some monitor → P (.disconnecting after monitor))
    (hnone : self.tunnelMonitorHandle = none → P otherwise) :
    P (self.targetOr after otherwise) := by
  unfold targetOr
  cases hmonitor : self.tunnelMonitorHandle with
  | none => exact hnone hmonitor
  | some monitor => exact hsome monitor hmonitor

def retry (self : ConnectingState) (shared : SharedState) (t : ℕ) : Target :=
  let nextAttempt := saturatingSucc self.retryAttempt
  .connecting nextAttempt
    (if keepGateways nextAttempt (self.graceRetryPending shared t) self.finalRetryOwed then
      self.selectedGateways
    else none)

inductive Fails (grace : Option (NodeIdentity × ℕ)) (culpable : Bool) (self : ConnectingState) :
    List Act → ConnectingState → Prop where
  | unselected (hgateways : self.selectedGateways = none) : Fails grace culpable self [] self
  | forgiven (probed reached : Bool) (hgateways : self.selectedGateways = some gateways)
      (hgrace : graceCovers gateways.entryGateway.identity grace t = true) :
      Fails grace culpable self (.tick t :: Act.onlyIf probed (.probed reached) ++
        Act.onlyIf (probed && reached) .clearedGrace) { self with finalRetryOwed := true }
  | charged (blames : Bool) (hgateways : self.selectedGateways = some gateways)
      (hgrace : graceCovers gateways.entryGateway.identity grace t = false)
      (hblames : blames = true → culpable = true) :
      Fails grace culpable self (.tick t :: .clearedGrace ::
        Act.onlyIf blames (.blacklisted gateways.entryGateway.identity))
        { self with selectedGateways := none }

inductive Settles (suspect : Option NodeIdentity) (self : ConnectingState) :
    List Act → ConnectingState → Prop where
  | unsuspected (hsuspect : suspect = none) : Settles suspect self [] self
  | dismissed (probed : Bool) (hsuspect : suspect.isSome = true) :
      Settles suspect self (.clearedSuspect :: Act.onlyIf probed (.probed false)) self
  | replaced (hgateways : self.selectedGateways = some gateways)
      (hsuspect : suspect = some gateways.entryGateway.identity) :
      Settles suspect self (.clearedSuspect :: .probed true :: .settledSuspect ::
        Act.onlyIf locked (.blacklisted gateways.entryGateway.identity))
        { self with selectedGateways := none }

theorem Fails.accounts {grace : Option (NodeIdentity × ℕ)} {culpable : Bool}
    {self self' : ConnectingState} {l : List Act} (h : self.Fails grace culpable l self') :
    ∀ a ∈ l, a.accounts = true := by
  cases h with
  | unselected => simp
  | forgiven probed reached => cases probed <;> cases reached <;> simp [Act.accounts]
  | charged blames => cases blames <;> simp [Act.accounts]

theorem Settles.accounts {suspect : Option NodeIdentity} {self self' : ConnectingState}
    {l : List Act} (h : self.Settles suspect l self') : ∀ a ∈ l, a.accounts = true := by
  cases h with
  | unsuspected => simp
  | dismissed probed => cases probed <;> simp [Act.accounts]
  | @replaced _ locked => cases locked <;> simp [Act.accounts]

@[simp] def withParams (self : ConnectingState) (params : ConnectingPolicyParameters) :
    ConnectingState :=
  { self with firewallPolicyParams := params }

def admitting (self : ConnectingState) (resolved : ResolvedConfig) : ConnectingState :=
  { self with
    resolveApiAddrs := false
    firewallPolicyParams :=
      { self.firewallPolicyParams with apiEndpoints := sortedAddrs resolved.allSocketAddrs } }

def selectedParams (self : ConnectingState) (settings : TunnelSettings)
    (gateways : SelectedGateways) : ConnectingPolicyParameters :=
  { self.firewallPolicyParams with
    bridgeEndpoints :=
      if settings.bridgesEnabled && gateways.entryGateway.bridgeParams.isSome then
        bridgeAddrs gateways.entryGateway
      else self.firewallPolicyParams.bridgeEndpoints
    wsEntryEndpoints := endpoints gateways.entryGateway
    lpEntryEndpoints := lpEndpoints gateways.entryGateway }

def registeredParams (self : ConnectingState) (settings : TunnelSettings)
    (tunnel : Option TunnelConnectionData) : ConnectingPolicyParameters :=
  { self.firewallPolicyParams with
    wgEntryEndpoint := match tunnel with
      | some (.wireguard entryEndpoint _) =>
        if settings.bridgesEnabled then none else some entryEndpoint
      | _ => none }

def interfaceParams (self : ConnectingState) (tunnelInterface : TunnelInterface) :
    ConnectingPolicyParameters :=
  { self.firewallPolicyParams with tunnelInterface := some tunnelInterface }

def reapplies (diff : TunnelSettingsDiff) : Bool :=
  diff.allowLanChanged || diff.inboundExemptionsChanged || diff.killswitchChanged

/-- The acts before a monitor is started: the endpoints just resolved are admitted. -/
def admitActs (self : ConnectingState) (resolved : ResolvedConfig) (t : ℕ) : List Act :=
  [.tick t, .adopted resolved,
    .asked (self.admitting resolved).firewallPolicyParams.asPolicy true] ++
    Act.onlyIf resolved.hasResolverOverrides
      (.overrode (some resolved.nymVpnApiResolverOverrides) true) ++ [.networking true]

inductive Handles (self : ConnectingState) : Event → List Act → Target → Prop where
  | delayed : Handles self .reconnectDelay []
      (.stays (.connecting { self with reconnectDelay := none, resolveApiAddrs := true }))
  | unresolved : Handles self (.apiResolved none) [.tick t] (self.retry w.shared t)
  | resolvedRefused (refused : ¬reliable) : Handles self (.apiResolved (some resolved))
      [.tick t, .adopted resolved,
        .asked (self.admitting resolved).firewallPolicyParams.asPolicy false]
      (.error .setFirewallPolicy)
  | unpinned : Handles self (.apiResolved (some resolved))
      [.tick t, .adopted resolved,
        .asked (self.admitting resolved).firewallPolicyParams.asPolicy true,
        .overrode (some resolved.nymVpnApiResolverOverrides) false]
      (.error (.internal "Failed to set resolver overrides"))
  | starts (t : ℕ) (hsender : self.tunnelMonitorEventSender = true)
      (settles : Settles w.shared.entryGatewaySuspect (self.admitting resolved) l self') :
      Handles self (.apiResolved (some resolved))
        (self.admitActs resolved t ++ l ++ [.started resolved self'.selectedGateways])
        (.stays (.connecting { self' with
          tunnelMonitorEventSender := false
          tunnelMonitorEventReceiver :=
            some (w.acts (self.admitActs resolved t ++ l)).nextMonitor
          tunnelMonitorHandle := some (w.acts (self.admitActs resolved t ++ l)).nextMonitor }))
  | exhausted (hsender : self.tunnelMonitorEventSender = false)
      (settles : Settles w.shared.entryGatewaySuspect (self.admitting resolved) l self') :
      Handles self (.apiResolved (some resolved)) (self.admitActs resolved t ++ l)
        (.error (.internal "Monitor event sender is not set. This is a logical error."))
  | selected (hparams : params = self.selectedParams w.shared.tunnelSettings gateways) :
      Handles self (.monitor (.selectedGateways gateways)) [.asked params.asPolicy true]
        (.stays (.connecting { self with
          firewallPolicyParams := params, selectedGateways := some gateways }))
  | selectedRefused (hparams : params = self.selectedParams w.shared.tunnelSettings gateways)
      (refused : ¬reliable) :
      Handles self (.monitor (.selectedGateways gateways)) [.asked params.asPolicy false]
        (self.targetOr (.error .setFirewallPolicy) (.error .setFirewallPolicy))
  | registered : Handles self (.monitor (.registeredWithGateways tunnel)) []
      (.stays (.connecting
        (self.withParams (self.registeredParams w.shared.tunnelSettings tunnel))))
  | interfaceUp : Handles self (.monitor (.interfaceUp tunnelInterface))
      [.asked (self.interfaceParams tunnelInterface).asPolicy true]
      (.stays (.connecting (self.withParams (self.interfaceParams tunnelInterface))))
  | interfaceUpRefused (refused : ¬reliable) :
      Handles self (.monitor (.interfaceUp tunnelInterface))
      [.asked (self.interfaceParams tunnelInterface).asPolicy false]
      (self.targetOr (.error .setFirewallPolicy) (.error .setFirewallPolicy))
  | up (hgateways : self.selectedGateways = some gateways)
      (hmonitor : self.tunnelMonitorHandle = some monitor) :
      Handles self (.monitor (.up tunnelInterface tunnel))
        (.clearedGrace :: Act.onlyIf locked .clearedBlacklist)
        (.connected tunnelInterface tunnel gateways monitor self.tunnelMonitorEventReceiver)
  | upPanics (hmissing : self.selectedGateways = none ∨ self.tunnelMonitorHandle = none) :
      Handles self (.monitor (.up tunnelInterface tunnel))
        (.clearedGrace :: Act.onlyIf locked .clearedBlacklist) (.stays .panicked)
  | failed (hmonitor : self.tunnelMonitorHandle = some monitor) :
      Handles self (.monitor (.down (some reason))) [] (.disconnecting (.error reason) monitor)
  | failedPanics (hmonitor : self.tunnelMonitorHandle = none) :
      Handles self (.monitor (.down (some reason))) [] (.stays .panicked)
  | down (hmonitor : self.tunnelMonitorHandle = some monitor) :
      Handles self (.monitor (.down none)) [.waited monitor, .removedRoutes, .tick t]
        (self.retry w.shared t)
  | downUnmonitored (hmonitor : self.tunnelMonitorHandle = none) :
      Handles self (.monitor (.down none)) [.tick t] (self.retry w.shared t)
  | connectionFailed (fails : Fails w.shared.entryGatewayGrace true self l self') :
      Handles self (.monitor .connectionFailed) l (.stays (.connecting self'))
  | registrationFailed (fails : Fails w.shared.entryGatewayGrace culpable self l self') :
      Handles self (.monitor (.registrationFailed culpable)) l (.stays (.connecting self'))
  | bandwidthFailed (fails : Fails w.shared.entryGatewayGrace culpable self l self') :
      Handles self (.monitor (.bandwidthChecks (some (some culpable)) worked))
        (.countedFailure worked :: l) (.stays (.connecting self'))
  | bandwidthFailedUnblamed : Handles self (.monitor (.bandwidthChecks (some none) worked))
      [.countedFailure worked] (.stays (.connecting self))
  | bandwidthEnded : Handles self (.monitor (.bandwidthChecks none worked))
      [.countedOtherEnd worked] (.stays (.connecting self))
  | connect : Handles self (.command (.connect relax))
      (.relaxed relax :: Act.onlyIf self.tunnelMonitorHandle.isSome .removedRoutes)
      (self.targetOr (.reconnect none) (.connecting self.retryAttempt none))
  | disconnect : Handles self (.command .disconnect) [.removedRoutes]
      (self.targetOr .nothing .disconnected)
  | shutdown : Handles self .shutdown [.removedRoutes] (self.targetOr .nothing .disconnected)
  | offline : Handles self (.connectivity true)
      (Act.onlyIf self.tunnelMonitorHandle.isSome .removedRoutes)
      (self.targetOr (.offline true self.selectedGateways) (.offline true self.selectedGateways))
  | settingsRefused (hdiff : w.shared.tunnelSettings.diff settings = some diff)
      (refused : ¬reliable) (hreapplies : reapplies diff = true) :
      Handles self (.command (.setTunnelSettings settings))
        [.settings settings,
          .asked (self.firewallPolicyParams.hotApply diff settings).asPolicy false]
        (.error .setFirewallPolicy)
  | settingsKept (hdiff : w.shared.tunnelSettings.diff settings = some diff)
      (hkeeps : ConnectedState.keepsTunnel diff settings = true) :
      Handles self (.command (.setTunnelSettings settings))
        (.settings settings :: Act.onlyIf (reapplies diff)
          (.asked (self.firewallPolicyParams.hotApply diff settings).asPolicy true))
        (.stays (.connecting (self.withParams (self.firewallPolicyParams.hotApply diff settings))))
  | settingsLeft (hdiff : w.shared.tunnelSettings.diff settings = some diff)
      (hkeeps : ConnectedState.keepsTunnel diff settings = false) :
      Handles self (.command (.setTunnelSettings settings))
        (.settings settings :: Act.onlyIf (reapplies diff)
          (.asked (self.firewallPolicyParams.hotApply diff settings).asPolicy true) ++
            Act.onlyIf self.tunnelMonitorHandle.isSome .removedRoutes)
        (self.targetOr (.reconnect (diff.keptGateways self.selectedGateways))
          (.connecting self.retryAttempt (diff.keptGateways self.selectedGateways)))

end ConnectingState

def State.ignores : State → Event → Bool
  | .disconnected _, .command .disconnect | .disconnected _, .connectivity false
  | .disconnected _, .monitor _ | .disconnected _, .reconnectDelay
  | .disconnected _, .monitorWaited => true
  | .error _, .connectivity _ | .error _, .monitor _ | .error _, .reconnectDelay
  | .error _, .monitorWaited => true
  | .offline _, .connectivity true | .offline _, .monitor _ | .offline _, .apiResolved _
  | .offline _, .refreshTimer | .offline _, .reconnectDelay | .offline _, .monitorWaited => true
  | .disconnecting _, .connectivity _ | .disconnecting _, .monitor _
  | .disconnecting _, .apiResolved _ | .disconnecting _, .refreshTimer
  | .disconnecting _, .reconnectDelay => true
  | .connected _, .monitor (.down _) | .connected _, .monitor (.bandwidthChecks _ _) => false
  | .connected _, .connectivity false | .connected _, .monitor _ | .connected _, .apiResolved _
  | .connected _, .refreshTimer | .connected _, .reconnectDelay
  | .connected _, .monitorWaited => true
  | .connecting _, .connectivity false | .connecting _, .monitor .awaitingAccountReadiness
  | .connecting _, .monitor .refreshingGateways | .connecting _, .monitor .selectingGateways
  | .connecting _, .monitor .registeringWithGateways | .connecting _, .refreshTimer
  | .connecting _, .monitorWaited => true
  | .finished, _ | .panicked, _ => true
  | _, _ => false

def State.compares : State → Bool
  | .error _ | .offline _ | .connected _ | .connecting _ => true
  | _ => false

/-- What a state does with an event, up to entering the target. -/
inductive State.Handles : State → Event → List Act → Target → Prop where
  | ignored (hignores : s.ignores event = true) : Handles s event [] (.stays s)
  | same (hcompares : s.compares = true) (hdiff : w.shared.tunnelSettings.diff settings = none) :
      Handles s (.command (.setTunnelSettings settings)) [] (.stays s)
  | disconnected (handles : DisconnectedState.Handles reliable event l target) :
      Handles (.disconnected self) event l target
  | error (handles : ErrorState.Handles reliable w self event l target) :
      Handles (.error self) event l target
  | offline (handles : OfflineState.Handles reliable w self event l target) :
      Handles (.offline self) event l target
  | disconnecting (handles : DisconnectingState.Handles self event l target) :
      Handles (.disconnecting self) event l target
  | connected (handles : ConnectedState.Handles reliable w self event l target) :
      Handles (.connected self) event l target
  | connecting (handles : ConnectingState.Handles reliable w self event l target) :
      Handles (.connecting self) event l target

end

/-! ## Every run of a handler is one of these -/

section

variable {reliable : Prop} {w : World} {Q : State → World → Prop}

def EnsuresAll (reliable : Prop) (Q : State → World → Prop) (w : World) (s : State)
    (event : Event) : Prop :=
  ∀ l target, s.Handles reliable w event l target → Ensures reliable Q target.enter (w.acts l)

variable {s : State} {event : Event} {l₁ l₂ : List Act} {target : Target} {self : ConnectedState}

theorem EnsuresAll.ignored (h : EnsuresAll reliable Q w s event)
    (hignores : s.ignores event = true) : Q s w :=
  h [] (.stays s) (.ignored hignores)

theorem EnsuresAll.same {settings : TunnelSettings}
    (h : EnsuresAll reliable Q w s (.command (.setTunnelSettings settings)))
    (hcompares : s.compares = true) (hdiff : w.shared.tunnelSettings.diff settings = none) :
    Q s w :=
  h [] (.stays s) (.same hcompares hdiff)

theorem EnsuresAll.append (h : EnsuresAll reliable Q w s event)
    (hhandles : s.Handles reliable w event (l₁ ++ l₂) target) :
    Ensures reliable Q target.enter ((w.acts l₁).acts l₂) :=
  World.acts_append w l₁ l₂ ▸ h _ _ hhandles

theorem ensures_release (h : ∀ l, Releases reliable w l → Q .finished (w.acts l)) :
    Ensures reliable Q (do
      discard (sendDns .reset)
      releaseFirewallOnShutdown
      return .finished) w := by
  simp only [releaseFirewallOnShutdown, ensures_bind, ensures_readShared, ensures_onlyIf,
    ensures_discard, ensures_sendDns, ensures_sendRequest, Bool.not_eq_true', Bool.not_eq_false']
  refine fun ok => ⟨fun hk released hr => ?_, fun hk => h _ (.keeps hk)⟩
  refine h _ (.resets hk fun hok hreliable => ?_)
  cases hok.symm.trans (hr hreliable)

theorem DisconnectedState.ensures_handleEvent {self : DisconnectedState}
    (h : EnsuresAll reliable Q w (.disconnected self) event) :
    Ensures reliable Q (self.handleEvent event) w := by
  cases event with
  | command command =>
    cases command with
    | connect relax =>
      exact ensures_bind.2 (ensures_modifyShared.2 (h _ _ (.disconnected .connect)))
    | disconnect => exact h.ignored rfl
    | setTunnelSettings settings =>
      simp only [handleEvent, handleSettings, setTunnelSettings, ensures_bind,
        ensures_readShared, ensures_modifyShared, ensures_onlyIf, resetDns, ensures_discard,
        ensures_sendDns]
      have hafter : ∀ changed ok, Ensures reliable Q (do
          if ← enterIdleFirewall then do
            let apiAccess ← self.apiAccess.schedule
            return .disconnected ⟨apiAccess⟩
          else ErrorState.enter .setFirewallPolicy)
          (w.acts (.settings settings :: Act.onlyIf changed (.resetIdleDns ok))) := by
        intro changed ok
        refine ensures_bind.2 (ensures_idled.2 fun pinned hr => ?_)
        cases pinned with
        | none =>
          have hhandles : Handles reliable _ ((.settings settings :: Act.onlyIf changed
              (.resetIdleDns ok)) ++ [.idled none]) _ := .settingsRefused (hr rfl)
          exact h.append (.disconnected hhandles)
        | some pinned =>
          refine ensures_bind.2 (ensures_schedule fun access t => ?_)
          have hhandles : Handles reliable _ ((.settings settings :: Act.onlyIf changed
              (.resetIdleDns ok)) ++ [.idled (some pinned), .tick t])
              (.stays (.disconnected ⟨access⟩)) := .settings
          exact h.append (.disconnected hhandles)
      exact ⟨fun _ ok => ensures_bind.1 (hafter true ok),
        fun _ => ensures_bind.1 (hafter false true)⟩
  | apiResolved result =>
    refine ensures_bind.2 (ensures_handleResolved fun l ok access hhandles => ?_)
    cases ok with
    | true => exact h _ _ (.disconnected (.api hhandles))
    | false => exact h _ _ (.disconnected (.apiRefused hhandles))
  | refreshTimer =>
    refine ensures_bind.2 (ensures_schedule fun access t => ?_)
    exact h _ _ (.disconnected .refreshTimer)
  | connectivity offline =>
    cases offline with
    | true => exact h _ _ (.disconnected .offline)
    | false => exact h.ignored rfl
  | shutdown =>
    simp only [handleEvent, resetDns, ensures_bind, ensures_readShared, ensures_discard,
      ensures_sendDns]
    exact fun ok => h _ _ (.disconnected .shutdown)
  | monitor event | reconnectDelay | monitorWaited => exact h.ignored rfl

theorem ErrorState.ensures_handleEvent {self : ErrorState}
    (h : EnsuresAll reliable Q w (.error self) event) :
    Ensures reliable Q (self.handleEvent event) w := by
  cases event with
  | command command =>
    cases command with
    | connect relax =>
      simp only [handleEvent, setRelaxIndependence, resetDns, ensures_bind,
        ensures_modifyShared, ensures_discard, ensures_sendDns, ensures_isOffline]
      intro ok offline
      cases offline with
      | true => exact h _ _ (.error .connectOffline)
      | false => exact h _ _ (.error .connect)
    | disconnect =>
      simp only [handleEvent, resetDns, ensures_bind, ensures_discard, ensures_sendDns,
        ensures_isOffline]
      intro ok offline
      cases offline with
      | true => exact h _ _ (.error .disconnectOffline)
      | false => exact h _ _ (.error .disconnect)
    | setTunnelSettings settings =>
      refine ensures_bind.2 (ensures_readShared.2 ?_)
      split
      · next hdiff => exact h.same rfl hdiff
      · next diff hdiff =>
          refine ensures_bind.2 (ensures_modifyShared.2 ?_)
          cases hreapplies : ErrorState.reapplies diff with
          | false =>
            rw [if_neg (by simpa [reapplies] using hreapplies)]
            exact h _ _ (.error (.settings hdiff hreapplies))
          | true =>
            rw [if_pos (by simpa [reapplies] using hreapplies)]
            refine ensures_bind.2 (ensures_idled.2 fun pinned hr => ?_)
            cases pinned with
            | none => exact h _ _ (.error (.settingsRefused hdiff (hr rfl) hreapplies))
            | some pinned =>
              refine ensures_ite.2 ⟨fun _ => ensures_ite.2 ⟨fun _ => ?_, fun _ => ?_⟩,
                fun hnone => absurd rfl hnone⟩
              · exact h _ _ (.error (.settingsResolved hdiff hreapplies))
              · refine ensures_bind.2 (ensures_schedule fun access t => ?_)
                exact h _ _ (.error (.settingsTaken hdiff hreapplies))
  | apiResolved result =>
    refine ensures_bind.2 (ensures_handleResolved fun l ok access hhandles => ?_)
    exact h _ _ (.error (.api hhandles))
  | refreshTimer =>
    refine ensures_bind.2 (ensures_schedule fun access t => ?_)
    exact h _ _ (.error .refreshTimer)
  | shutdown =>
    exact ensures_release fun l hl => h _ _ (.error (.shutdown hl))
  | connectivity offline | monitor event | reconnectDelay | monitorWaited => exact h.ignored rfl

theorem OfflineState.ensures_handleEvent {self : OfflineState}
    (h : EnsuresAll reliable Q w (.offline self) event) :
    Ensures reliable Q (self.handleEvent event) w := by
  cases event with
  | command command =>
    cases command with
    | connect relax =>
      refine ensures_bind.2 (ensures_modifyShared.2 ?_)
      cases hreconnect : self.reconnect with
      | true => exact h _ _ (.offline (.connectStays hreconnect))
      | false => exact h _ _ (.offline (.connect hreconnect))
    | disconnect => exact h _ _ (.offline .disconnect)
    | setTunnelSettings settings =>
      refine ensures_bind.2 (ensures_readShared.2 ?_)
      split
      · next hdiff => exact h.same rfl hdiff
      · next diff hdiff =>
          refine ensures_bind.2 (ensures_modifyShared.2 (ensures_bind.2 ?_))
          rw [ensures_onlyIf]
          have hafter := fun (ok : Bool) (hr : ok = false → ¬reliable) =>
            h _ _ (.offline (.settings hdiff hr))
          refine ⟨fun hasks => ?_, fun hasks => ?_⟩
          · simp only [hasks, Act.onlyIf] at hafter
            rw [ensures_discard, OfflineState.setFirewallPolicy, ensures_setFirewallPolicy]
            exact ⟨hafter true (by simp), fun hr => hafter false fun _ => hr⟩
          · simp only [hasks, Act.onlyIf] at hafter
            exact hafter true (by simp)
  | connectivity offline =>
    cases offline with
    | true => exact h.ignored rfl
    | false =>
      refine ensures_bind.2 (ensures_discard.2 (ensures_sendDns.2 fun ok => ?_))
      cases hreconnect : self.reconnect with
      | false => exact h _ _ (.offline (.online hreconnect))
      | true =>
        rw [if_pos rfl, resume]
        split
        · next hgateways => exact h _ _ (.offline (.resume hreconnect hgateways))
        · next gateways hgateways =>
            refine ensures_bind.2 (ensures_now.2 fun t _ => ?_)
            refine ensures_bind.2 (ensures_modifyShared.2 ?_)
            exact h _ _ (.offline (.resumeWith hreconnect hgateways))
  | shutdown =>
    exact ensures_release fun l hl => h _ _ (.offline (.shutdown hl))
  | apiResolved result | refreshTimer | monitor event | reconnectDelay | monitorWaited =>
    exact h.ignored rfl

theorem DisconnectingState.ensures_handleEvent {self : DisconnectingState}
    (h : EnsuresAll reliable Q w (.disconnecting self) event) :
    Ensures reliable Q (self.handleEvent event) w := by
  cases event with
  | command command =>
    cases command with
    | connect relax =>
      exact ensures_bind.2 (ensures_modifyShared.2 (h _ _ (.disconnecting .connect)))
    | disconnect => exact h _ _ (.disconnecting .disconnect)
    | setTunnelSettings settings =>
      exact ensures_bind.2 (ensures_modifyShared.2 (h _ _ (.disconnecting .settings)))
  | monitorWaited =>
    refine ensures_bind.2 (ensures_waitMonitor.2 ?_)
    have hproceed : proceed self.afterDisconnect = self.afterDisconnect.target.enter := by
      cases self.afterDisconnect <;> rfl
    rw [hproceed]
    exact h _ _ (.disconnecting .waited)
  | shutdown => exact ensures_bind.2 (ensures_waitMonitor.2 (h _ _ (.disconnecting .shutdown)))
  | connectivity offline | apiResolved result | refreshTimer | monitor event | reconnectDelay =>
    exact h.ignored rfl

theorem ensures_requestIf_policy {Q : Bool → World → Prop} {c : Bool} {policy : FirewallPolicy}
    (htaken : Q true (w.acts (Act.onlyIf c (.asked policy true))))
    (hrefused : c = true → ¬reliable → Q false (w.acts [.asked policy false])) :
    Ensures reliable Q (requestIf c (setFirewallPolicy policy)) w := by
  rw [ensures_requestIf]
  cases c with
  | false => exact ⟨nofun, fun _ => htaken⟩
  | true => exact ⟨fun _ => ensures_setFirewallPolicy.2 ⟨htaken, hrefused rfl⟩, nofun⟩

theorem ConnectedState.ensures_disconnect
    {after : PrivateActionAfterDisconnect}
    (h : ∀ ok, Ensures reliable Q (Target.disconnecting after self.tunnelMonitorHandle).enter
      (w.acts (Act.cleanup ok))) : Ensures reliable Q (self.disconnect after) w := by
  simp only [disconnect, resetDns, ensures_bind, ensures_discard, ensures_sendDns,
    ensures_removeRoutes]
  exact h

theorem ensures_blacklistEntryGateway {Q : Unit → World → Prop} {entry : NodeIdentity}
    (h : ∀ locked, Q () (w.acts (Act.onlyIf locked (.blacklisted entry)))) :
    Ensures reliable Q (blacklistEntryGateway entry) w := by
  simp only [blacklistEntryGateway, ensures_bind, ensures_lockBlacklist, ensures_onlyIf,
    ensures_modifyShared]
  exact fun _ => ⟨fun _ => h true, fun _ => h false⟩

theorem ConnectedState.ensures_handleTunnelDown {reason : Option ErrorStateReason}
    (h : EnsuresAll reliable Q w (.connected self) (.monitor (.down reason))) :
    Ensures reliable Q (self.handleTunnelDown reason) w := by
  simp only [handleTunnelDown, resetDns, ensures_bind, ensures_discard, ensures_sendDns,
    ensures_removeRoutes, ensures_now]
  intro ok t _
  split
  · exact h _ _ (.connected .failed)
  · next culpable hfailure =>
      refine ensures_bind.2 (ensures_readShared.2 (ensures_bind.2 (ensures_modifyShared.2 ?_)))
      have hafter := fun (blames : Bool) (hblames : blames = true → culpable = some true) =>
        h _ _ (.connected (.bandwidthFailed ok blames t hfailure hblames))
      rcases culpable with _ | _ | _
      · exact hafter false (by simp)
      · exact hafter false (by simp)
      · refine ensures_bind.2 (ensures_blacklistEntryGateway fun locked => ?_)
        exact hafter locked fun _ => rfl
  · next hfailure =>
      refine ensures_bind.2 (ensures_readShared.2 (ensures_bind.2 (ensures_now.2 fun t' _ => ?_)))
      refine ensures_bind.2 (ensures_modifyShared.2 ?_)
      exact h _ _ (.connected (.dropped ok t t' hfailure rfl))

theorem ConnectedState.ensures_handleEvent (h : EnsuresAll reliable Q w (.connected self) event) :
    Ensures reliable Q (self.handleEvent event) w := by
  cases event with
  | command command =>
    cases command with
    | connect relax =>
      refine ensures_bind.2 (ensures_modifyShared.2 (ensures_disconnect fun ok => ?_))
      exact h _ _ (.connected .connect)
    | disconnect => exact ensures_disconnect fun ok => h _ _ (.connected .disconnect)
    | setTunnelSettings settings =>
      refine ensures_bind.2 (ensures_readShared.2 ?_)
      split
      · next hdiff => exact h.same rfl hdiff
      · next diff hdiff =>
          refine ensures_bind.2 (ensures_requestIf_policy ?_ fun hasks hr => ?_)
          · refine ensures_bind.2 (ensures_modifyShared.2 ?_)
            rw [leaveFor]
            cases hkeeps : keepsTunnel diff settings with
            | true => exact h.append (.connected (.settingsKept hdiff hkeeps))
            | false =>
              refine ensures_disconnect fun ok => ?_
              exact h.append (.connected (.settingsLeft hdiff hkeeps))
          · exact h _ _ (.connected (.settingsRefused hdiff hr hasks))
  | monitor event =>
    cases event with
    | down reason => exact ensures_handleTunnelDown h
    | bandwidthChecks failure worked => exact h _ _ (.connected .bandwidthChecks)
    | _ => exact h.ignored rfl
  | connectivity offline =>
    cases offline with
    | true => exact ensures_disconnect fun ok => h _ _ (.connected .offline)
    | false => exact h.ignored rfl
  | shutdown => exact ensures_disconnect fun ok => h _ _ (.connected .shutdown)
  | apiResolved result | refreshTimer | reconnectDelay | monitorWaited => exact h.ignored rfl

theorem ensures_anyApiEndpointReachable {Q : Bool → World → Prop}
    (hprobed : ∀ reached, Q reached (w.act (.probed reached))) (hunknown : Q false w) :
    Ensures reliable Q anyApiEndpointReachable w := by
  refine ensures_bind.2 (ensures_readShared.2 (ensures_ite.2 ⟨fun _ => hunknown, fun _ => ?_⟩))
  exact ensures_probeApi.2 hprobed

namespace ConnectingState

variable {self : ConnectingState}

theorem ensures_handleGatewayFailure {Q : ConnectingState → World → Prop} {culpable : Bool}
    (h : ∀ l self', Fails w.shared.entryGatewayGrace culpable self l self' → Q self' (w.acts l)) :
    Ensures reliable Q (self.handleGatewayFailure culpable) w := by
  unfold handleGatewayFailure
  split
  · next hgateways => exact h _ _ (.unselected hgateways)
  · next gateways hgateways =>
      refine ensures_bind.2 (ensures_readShared.2 (ensures_bind.2 (ensures_now.2 fun t _ => ?_)))
      have hpending : self.graceRetryPending w.shared t =
          graceCovers gateways.entryGateway.identity w.shared.entryGatewayGrace t := by
        rw [graceRetryPending, hgateways]
        rfl
      rw [hpending]
      cases hgrace : graceCovers gateways.entryGateway.identity w.shared.entryGatewayGrace t with
      | true =>
        have hafter := fun (probed reached : Bool) =>
          h _ _ (.forgiven probed reached hgateways hgrace)
        refine ensures_bind.2 (ensures_anyApiEndpointReachable (fun reached => ?_) ?_)
        · cases reached with
          | true => exact ensures_bind.2 (ensures_modifyShared.2 (hafter true true))
          | false => exact hafter true false
        · exact hafter false false
      | false =>
        refine ensures_bind.2 (ensures_modifyShared.2 (ensures_bind.2 (ensures_onlyIf.2 ?_)))
        refine ⟨fun hculpable => ?_, fun _ => ?_⟩
        · refine ensures_blacklistEntryGateway fun locked => ?_
          exact h _ _ (.charged locked hgateways hgrace fun _ => hculpable)
        · exact h _ _ (.charged false hgateways hgrace nofun)

theorem ensures_settleEntryGatewaySuspect {Q : ConnectingState → World → Prop}
    (h : ∀ l self', Settles w.shared.entryGatewaySuspect self l self' → Q self' (w.acts l)) :
    Ensures reliable Q self.settleEntryGatewaySuspect w := by
  refine ensures_bind.2 (ensures_readShared.2 ?_)
  split
  · next hsuspect => exact h _ _ (.unsuspected hsuspect)
  · next suspect hsuspect =>
      have hdismissed := fun (probed : Bool) => h _ _ (.dismissed probed (hsuspect ▸ rfl))
      refine ensures_bind.2 (ensures_modifyShared.2 (ensures_ite.2 ⟨fun hany => ?_, fun _ => ?_⟩))
      · obtain ⟨gateways, hgateways, heq⟩ := (Option.any_eq_true _ _).1 hany
        obtain rfl : gateways.entryGateway.identity = suspect := by simpa using heq
        refine ensures_bind.2 (ensures_anyApiEndpointReachable (fun reached => ?_) ?_)
        · cases reached with
          | true =>
            refine ensures_bind.2 (ensures_modifyShared.2 (ensures_bind.2 ?_))
            refine ensures_blacklistEntryGateway fun locked => ?_
            exact h _ _ (.replaced hgateways hsuspect)
          | false => exact hdismissed true
        · exact hdismissed false
      · exact hdismissed false

theorem ensures_disconnectOr {after : PrivateActionAfterDisconnect} (otherwise : Target)
    (h : Ensures reliable Q (self.targetOr after otherwise).enter
      (w.acts (Act.onlyIf self.tunnelMonitorHandle.isSome .removedRoutes))) :
    Ensures reliable Q (self.disconnectOr after otherwise.enter) w := by
  unfold disconnectOr
  unfold targetOr at h
  split <;> rename_i hmonitor <;> rw [hmonitor] at h
  · exact ensures_bind.2 (ensures_removeRoutes.2 h)
  · exact h

theorem ensures_disconnectIdle
    (h : Ensures reliable Q (self.targetOr .nothing .disconnected).enter
      (w.acts [.removedRoutes])) :
    Ensures reliable Q (self.disconnectOr .nothing disconnectIdle) w := by
  unfold disconnectOr
  unfold targetOr at h
  split <;> rename_i hmonitor <;> rw [hmonitor] at h <;>
    exact ensures_bind.2 (ensures_removeRoutes.2 h)

theorem ensures_failPolicy {policy : FirewallPolicy}
    (h : Ensures reliable Q (self.targetOr (.error .setFirewallPolicy)
      (.error .setFirewallPolicy)).enter (w.acts [.asked policy false])) :
    Ensures reliable Q self.failPolicy (w.asked (.policy policy) false) := by
  unfold failPolicy
  unfold targetOr at h
  split <;> rename_i hmonitor <;> rwa [hmonitor] at h

theorem ensures_reconnect
    (h : ∀ t, Ensures reliable Q (self.retry w.shared t).enter (w.act (.tick t))) :
    Ensures reliable Q self.reconnect w :=
  ensures_bind.2 (ensures_readShared.2 (ensures_bind.2 (ensures_now.2 fun t _ => h t)))

theorem ensures_startWith {resolved : ResolvedConfig} {t : ℕ}
    (hl : self.admitActs resolved t = l₁ ++ [.networking true])
    (h : EnsuresAll reliable Q w (.connecting self) (.apiResolved (some resolved))) :
    Ensures reliable Q ((self.admitting resolved).startWith resolved) (w.acts l₁) := by
  refine ensures_bind.2 (ensures_setNetworking.2 (ensures_bind.2 ?_))
  refine ensures_settleEntryGatewaySuspect fun l self' hsettles => ?_
  have hsuspect : (w.acts (self.admitActs resolved t)).shared.entryGatewaySuspect =
      w.shared.entryGatewaySuspect := by
    unfold admitActs
    cases resolved.hasResolverOverrides <;> rfl
  have hadmits : World.log (w.acts l₁) (.networking true) = w.acts (self.admitActs resolved t) := by
    rw [hl, World.acts_append]
    rfl
  rw [hadmits] at hsettles ⊢
  rw [hsuspect] at hsettles
  have hsender : self'.tunnelMonitorEventSender = self.tunnelMonitorEventSender := by
    cases hsettles <;> rfl
  unfold startTunnelMonitor
  rw [hsender, ← World.acts_append]
  refine ensures_ite.2 ⟨fun hsome => ?_, fun hnone => ?_⟩
  · refine ensures_bind.2 (ensures_readShared.2 (ensures_bind.2 (ensures_startMonitor.2 ?_)))
    exact h.append (.connecting (.starts t hsome hsettles))
  · exact h _ _ (.connecting (.exhausted (by simpa using hnone) hsettles))

theorem ensures_handleResolved {result : Option ResolvedConfig}
    (h : EnsuresAll reliable Q w (.connecting self) (.apiResolved result)) :
    Ensures reliable Q (self.handleResolvedGatewayConfig result) w := by
  cases result with
  | none => exact ensures_reconnect fun t => h _ _ (.connecting .unresolved)
  | some resolved =>
    simp only [handleResolvedGatewayConfig, adoptResolvedApiEndpoints, ensures_bind, ensures_now,
      ensures_modifyShared, ensures_readShared, setFirewallPolicy, ensures_setFirewallPolicy]
    intro t _
    have hstart := ensures_startWith (t := t) rfl h
    refine ⟨?_, fun hr => h [.tick t, _, _] _ (.connecting (.resolvedRefused hr))⟩
    rw [if_true]
    cases hoverrides : resolved.hasResolverOverrides with
    | false =>
      rw [hoverrides] at hstart
      exact hstart
    | true =>
      rw [hoverrides] at hstart
      refine ensures_bind.2 (ensures_useOverrides.2 fun ok => ?_)
      cases ok with
      | true => exact hstart
      | false => exact h [.tick t, _, _, _] _ (.connecting .unpinned)

theorem missing_of_not {gateways : Option SelectedGateways} {monitor : Option ℕ}
    (h : ∀ g m, gateways = some g → monitor = some m → False) :
    gateways = none ∨ monitor = none := by
  cases gateways with
  | none => exact .inl rfl
  | some g =>
    cases monitor with
    | none => exact .inr rfl
    | some m => exact (h g m rfl rfl).elim

theorem ensures_handleMonitorEvent {event : TunnelMonitorEvent}
    (h : EnsuresAll reliable Q w (.connecting self) (.monitor event)) :
    Ensures reliable Q (self.handleMonitorEvent event) w := by
  cases event with
  | selectedGateways gateways =>
    refine ensures_bind.2 (ensures_readShared.2 (ensures_bind.2 ?_))
    refine ensures_setFirewallPolicy.2 ⟨h _ _ (.connecting (.selected rfl)), fun hr => ?_⟩
    exact ensures_failPolicy (h _ _ (.connecting (.selectedRefused rfl hr)))
  | registeredWithGateways tunnel =>
    refine ensures_bind.2 (ensures_readShared.2 ?_)
    exact h _ _ (.connecting .registered)
  | interfaceUp tunnelInterface =>
    refine ensures_bind.2 ?_
    refine ensures_setFirewallPolicy.2 ⟨h _ _ (.connecting .interfaceUp), fun hr => ?_⟩
    exact ensures_failPolicy (h _ _ (.connecting (.interfaceUpRefused hr)))
  | up tunnelInterface tunnel =>
    simp only [handleMonitorEvent, handleUp, ensures_bind, ensures_modifyShared,
      ensures_lockBlacklist, ensures_onlyIf]
    intro readable writable
    have hafter := fun locked => h (.clearedGrace :: Act.onlyIf locked .clearedBlacklist)
    refine ⟨fun _ => ?_, fun _ => ?_⟩ <;> split
    · next hgateways hmonitor => exact hafter true _ (.connecting (.up hgateways hmonitor))
    · next hmissing => exact hafter true _ (.connecting (.upPanics (missing_of_not hmissing)))
    · next hgateways hmonitor => exact hafter false _ (.connecting (.up hgateways hmonitor))
    · next hmissing => exact hafter false _ (.connecting (.upPanics (missing_of_not hmissing)))
  | down reason =>
    simp only [handleMonitorEvent, handleDown]
    split
    · next hmonitor => exact h _ _ (.connecting (.failed hmonitor))
    · next hmonitor => exact h _ _ (.connecting (.failedPanics hmonitor))
    · next hmonitor =>
        refine ensures_bind.2 (ensures_waitMonitor.2 (ensures_bind.2 (ensures_removeRoutes.2 ?_)))
        exact ensures_reconnect fun t => h _ _ (.connecting (.down hmonitor))
    · next hmonitor =>
        exact ensures_reconnect fun t => h _ _ (.connecting (.downUnmonitored hmonitor))
  | connectionFailed =>
    refine ensures_bind.2 (ensures_handleGatewayFailure fun l self' hfails => ?_)
    exact h _ _ (.connecting (.connectionFailed hfails))
  | registrationFailed culpable =>
    refine ensures_bind.2 (ensures_handleGatewayFailure fun l self' hfails => ?_)
    exact h _ _ (.connecting (.registrationFailed hfails))
  | bandwidthChecks failure worked =>
    rcases failure with _ | _ | culpable
    · exact ensures_bind.2 (ensures_modifyShared.2 (h _ _ (.connecting .bandwidthEnded)))
    · exact ensures_bind.2 (ensures_modifyShared.2 (h _ _ (.connecting .bandwidthFailedUnblamed)))
    · refine ensures_bind.2 (ensures_modifyShared.2 (ensures_bind.2 ?_))
      refine ensures_handleGatewayFailure fun l self' hfails => ?_
      exact h _ _ (.connecting (.bandwidthFailed hfails))
  | _ => exact h.ignored rfl

theorem ensures_handleEvent (h : EnsuresAll reliable Q w (.connecting self) event) :
    Ensures reliable Q (self.handleEvent event) w := by
  cases event with
  | command command =>
    cases command with
    | connect relax =>
      refine ensures_bind.2 (ensures_modifyShared.2
        (ensures_disconnectOr (.connecting self.retryAttempt none) ?_))
      exact h _ _ (.connecting .connect)
    | disconnect => exact ensures_disconnectIdle (h _ _ (.connecting .disconnect))
    | setTunnelSettings settings =>
      refine ensures_bind.2 (ensures_readShared.2 ?_)
      split
      · next hdiff => exact h.same rfl hdiff
      · next diff hdiff =>
          refine ensures_bind.2 (ensures_modifyShared.2 (ensures_bind.2 ?_))
          refine ensures_requestIf_policy ?_ fun hasks hr => ?_
          · rw [if_pos rfl, leaveFor]
            cases hkeeps : ConnectedState.keepsTunnel diff settings with
            | true => exact h _ _ (.connecting (.settingsKept hdiff hkeeps))
            | false =>
              refine ensures_disconnectOr (.connecting self.retryAttempt _) ?_
              exact h.append (.connecting (.settingsLeft hdiff hkeeps))
          · exact h _ _ (.connecting (.settingsRefused hdiff hr hasks))
  | monitor event => exact ensures_handleMonitorEvent h
  | apiResolved result => exact ensures_handleResolved h
  | connectivity offline =>
    cases offline with
    | true => exact ensures_disconnectOr (.offline _ _) (h _ _ (.connecting .offline))
    | false => exact h.ignored rfl
  | reconnectDelay => exact h _ _ (.connecting .delayed)
  | shutdown => exact ensures_disconnectIdle (h _ _ (.connecting .shutdown))
  | refreshTimer | monitorWaited => exact h.ignored rfl

end ConnectingState

/-- Every run of a handler does the acts that lead to a target, and enters it. -/
theorem State.ensures_handleEvent (h : EnsuresAll reliable Q w s event) :
    Ensures reliable Q (s.handleEvent event) w := by
  cases s with
  | disconnected self | connecting self | connected self | disconnecting self | error self
  | offline self => exact self.ensures_handleEvent h
  | finished | panicked => exact h.ignored rfl

/-- A step is a way to handle its event, followed by entering the target. -/
theorem Step.moves {c c' : Config} (h : Step reliable c event c') :
    ∃ l target l', c.state.Handles reliable (c.receive event) event l target ∧
      Enters reliable target ((c.receive event).acts l) l' c'.state ∧
      c'.world = ((c.receive event).acts l).acts l' := by
  refine h.ensures (Q := fun s w => ∃ l target l',
    c.state.Handles reliable (c.receive event) event l target ∧
      Enters reliable target ((c.receive event).acts l) l' s ∧
      w = ((c.receive event).acts l).acts l') (State.ensures_handleEvent ?_)
  intro l target hhandles
  exact Target.ensures_enter fun l' s henters => ⟨l, target, l', hhandles, henters, rfl⟩

def World.IsInitial (w : World) : Prop :=
  ∃ settings defaultDnsServers blacklist apiEndpoints clock,
    w = .initial (.initial settings defaultDnsServers blacklist apiEndpoints) clock

section Invariant

variable {C : Config → Event → Config → Prop} {I : Config → Prop} {c : Config}
  (hspawn : ∀ target w l s, w.IsInitial → target = .offline false none ∨ target = .disconnected →
    Enters reliable target w l s → I ⟨s, w.acts l⟩)

include hspawn

/-- What holds once the first state is entered, and is kept by every step, holds in
every run. -/
theorem Reachable.invariant_of_steps
    (hstep : ∀ c event c', Reachable reliable C c → I c → Step reliable c event c' →
      C c event c' → I c') (h : Reachable reliable C c) : I c := by
  induction h with
  | @spawn settings dns blacklist api clock s w returns =>
    have henter : ∀ target : Target, target = .offline false none ∨ target = .disconnected →
        Ensures reliable (fun s w => I ⟨s, w⟩) target.enter
          (.initial (.initial settings dns blacklist api) clock) := fun target htarget =>
      Target.ensures_enter fun l s => hspawn target _ l s ⟨_, _, _, _, _, rfl⟩ htarget
    refine Prog.Holds.of_returns (Q := fun s w => I ⟨s, w⟩) (ensures_bind.2
      (ensures_isOffline.2 fun offline => ?_)) returns
    cases offline with
    | true => exact henter (.offline false none) (.inl rfl)
    | false => exact henter .disconnected (.inr rfl)
  | @step c c' event reached step condition ih => exact hstep c event c' reached ih step condition

/-- The same, with the step taken apart. -/
theorem Reachable.invariant_of_moves
    (hstep : ∀ c event l target l' s, Reachable reliable C c → I c → c.accepts event = true →
      c.state.Handles reliable (c.receive event) event l target →
      Enters reliable target ((c.receive event).acts l) l' s →
      C c event ⟨s, ((c.receive event).acts l).acts l'⟩ →
      I ⟨s, ((c.receive event).acts l).acts l'⟩)
    (h : Reachable reliable C c) : I c := by
  refine h.invariant_of_steps hspawn fun c event c' hc hI step condition => ?_
  obtain ⟨l, target, l', hhandles, henters, hworld⟩ := step.moves
  obtain ⟨s, w⟩ := c'
  obtain rfl : w = _ := hworld
  exact hstep c event l target l' s hc hI step.accepts hhandles henters condition

end Invariant

end

/-! ## Settings -/

def Event.settings? : Event → Option TunnelSettings
  | .command (.setTunnelSettings s) => some s
  | _ => none

theorem Event.eq_of_settings? {event : Event} {s : TunnelSettings} (h : event.settings? = some s) :
    event = .command (.setTunnelSettings s) := by
  cases event with
  | command command =>
    cases command with
    | setTunnelSettings t => exact congrArg _ (congrArg _ (Option.some.inj h))
    | _ => cases h
  | _ => cases h

@[simp] def Act.Handles (reliable : Prop) (w : World) (event : Event) : Act → Prop
  | .settings s => event = .command (.setTunnelSettings s)
  | .relaxed relax => event = .command (.connect relax)
  | .adopted resolved | .started resolved _ => event = .apiResolved (some resolved)
  | .released _ => w.shared.tunnelSettings.killswitch = false ∧ event = .shutdown
  | .asked _ ok => ok = false → ¬reliable
  | .idled pinned => pinned = none → ¬reliable
  | .resetDns request _ => request = .reset ∨ request = .resetBeforeInterfaceRemoval
  | .cancelled _ | .endedSession | .setDns _ _ => False
  | _ => True

theorem State.Handles.acts {s : State} {event : Event} {l : List Act} {target : Target}
    (h : s.Handles reliable w event l target) : ∀ a ∈ l, a.Handles reliable w event := by
  have haccounts : ∀ a : Act, a.accounts = true → a.Handles reliable w event := by
    intro a ha
    cases a <;> simp_all [Act.accounts]
  cases h with
  | ignored | same => simp
  | disconnected handles =>
    cases handles with
    | api handles => cases handles <;> simp
    | apiRefused handles => cases handles; simp_all
    | _ => simp_all [or_imp]
  | error handles =>
    cases handles with
    | api handles => cases handles <;> simp_all
    | shutdown releases => cases releases <;> simp_all
    | _ => simp_all
  | offline handles =>
    cases handles with
    | shutdown releases => cases releases <;> simp_all
    | _ => simp_all
  | disconnecting handles => cases handles <;> simp
  | connected handles =>
    cases handles <;> simp_all [Act.cleanup, or_imp]
  | connecting handles =>
    cases handles with
    | starts t hsender settles | exhausted hsender settles =>
      have := fun a ha => haccounts a (settles.accounts a ha)
      simpa [ConnectingState.admitActs, or_imp, forall_and] using this
    | connectionFailed fails | registrationFailed fails =>
      exact fun a ha => haccounts a (fails.accounts a ha)
    | bandwidthFailed fails =>
      exact List.forall_mem_cons.2 ⟨trivial, fun a ha => haccounts a (fails.accounts a ha)⟩
    | _ => simp_all [or_imp]

theorem State.Handles.settings {s : State} {event : Event}
    {l : List Act} {target : Target} (h : s.Handles reliable w event l target)
    (hevent : event.settings? = none) : ∀ a ∈ l, a.settings? = none := by
  intro a ha
  have hacts := h.acts a ha
  cases a with
  | settings s =>
    cases hacts
    cases hevent
  | _ => rfl

/-! ## A tunnel that stays -/

theorem ConnectedState.unchanged_of_keepsTunnel {d : TunnelSettingsDiff} {t : TunnelSettings}
    {field : TunnelSettingsDiffFields} (h : ConnectedState.keepsTunnel d t = true)
    (hhot : TunnelSettingsDiff.hotAppliable field = false)
    (hne : field ≠ .mixnetPerformanceOptions) : d.isFieldChanged field = false := by
  rw [ConnectedState.keepsTunnel, Bool.or_eq_true, Bool.and_eq_true] at h
  by_contra hchanged
  rw [Bool.not_eq_false] at hchanged
  rcases h with hall | ⟨honly, -⟩
  · have hmem : field ∈ d.fields := by
      simpa [TunnelSettingsDiff.isFieldChanged] using hchanged
    rw [TunnelSettingsDiff.onlyHotAppliableChanged, Bool.and_eq_true, List.all_eq_true] at hall
    cases hhot.symm.trans (hall.2 field hmem)
  · exact hne (TunnelSettingsDiff.eq_of_onlyFieldChanged honly hchanged)

end TunnelStateMachine
