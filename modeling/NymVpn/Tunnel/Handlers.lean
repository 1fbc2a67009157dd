import NymVpn.Tunnel.States

/-!
# The handlers of the tunnel state machine

What each state does with each event. An event that a state does not wait for
leaves it as it is.
-/

namespace TunnelStateMachine

open Net NymFirewall GatewayDirectory

def setRelaxIndependence (relaxIndependence : Bool) : Machine Unit :=
  modifyShared fun s => { s with relaxIndependence }

def setTunnelSettings (settings : TunnelSettings) : Machine Unit :=
  modifyShared fun s => { s with tunnelSettings := settings }

/-! ## Disconnected -/

namespace DisconnectedState

def handleSettings (self : DisconnectedState) (settings : TunnelSettings) : Machine State := do
  let shared ← readShared
  let idleDnsChanged := shared.tunnelSettings.idleDns shared.defaultDnsServers !=
    settings.idleDns shared.defaultDnsServers
  setTunnelSettings settings
  onlyIf idleDnsChanged resetDns
  if ← enterIdleFirewall then do
    let apiAccess ← self.apiAccess.schedule
    return .disconnected ⟨apiAccess⟩
  else ErrorState.enter .setFirewallPolicy

def handleEvent (self : DisconnectedState) : Event → Machine State
  | .command (.connect relaxIndependence) => do
    setRelaxIndependence relaxIndependence
    ConnectingState.enter 0 none
  | .command (.setTunnelSettings settings) => self.handleSettings settings
  | .apiResolved result => do
    let (apiAccess, ok) ← self.apiAccess.handleResolved result
    if ok then return .disconnected ⟨apiAccess⟩ else ErrorState.enter .setFirewallPolicy
  | .refreshTimer => do
    let apiAccess ← { self.apiAccess with timer := none }.schedule
    return .disconnected ⟨apiAccess⟩
  | .connectivity offline =>
    if offline then OfflineState.enter false none else return .disconnected self
  | .shutdown => do
    resetDns
    return .finished
  | _ => return .disconnected self

end DisconnectedState

/-! ## Error -/

namespace ErrorState

/-- A policy that is taken at last ends the error that it was refused. -/
def handleSettings (self : ErrorState) (settings : TunnelSettings) : Machine State := do
  let shared ← readShared
  match shared.tunnelSettings.diff settings with
  | none => return .error self
  | some diff => do
    setTunnelSettings settings
    if diff.isFieldChanged .allowLan || diff.isFieldChanged .killswitch ||
        diff.isFieldChanged .enableIpv6 || diff.isFieldChanged .dns then do
      if ← enterIdleFirewall then
        if self.reason = .setFirewallPolicy then DisconnectedState.enter
        else do
          let apiAccess ← self.apiAccess.schedule
          return .error { self with apiAccess }
      else return .error self
    else return .error self

def handleEvent (self : ErrorState) : Event → Machine State
  | .command (.connect relaxIndependence) => do
    setRelaxIndependence relaxIndependence
    resetDns
    if ← isOffline then OfflineState.enter true none else ConnectingState.enter 0 none
  | .command .disconnect => do
    resetDns
    if ← isOffline then OfflineState.enter false none else DisconnectedState.enter
  | .command (.setTunnelSettings settings) => self.handleSettings settings
  | .apiResolved result => do
    let (apiAccess, _) ← self.apiAccess.handleResolved result
    return .error { self with apiAccess }
  | .refreshTimer => do
    let apiAccess ← { self.apiAccess with timer := none }.schedule
    return .error { self with apiAccess }
  | .shutdown => do
    resetDns
    releaseFirewallOnShutdown
    return .finished
  | _ => return .error self

end ErrorState

/-! ## Offline -/

namespace OfflineState

def handleSettings (self : OfflineState) (settings : TunnelSettings) : Machine State := do
  let shared ← readShared
  match shared.tunnelSettings.diff settings with
  | none => return .offline self
  | some diff => do
    let gateways := if diff.affectsGatewaySelection then none else self.selectedGateways
    -- The request reads the flag of the new settings.
    setTunnelSettings settings
    let params : BlockedPolicyParameters :=
      if diff.allowLanChanged then ⟨settings.allowLan⟩ else self.firewallPolicyParams
    onlyIf (diff.allowLanChanged || diff.killswitchChanged)
      (discard (OfflineState.setFirewallPolicy params))
    return .offline { self with selectedGateways := gateways, firewallPolicyParams := params }

/-- A reconnect once online; the grace starts when it does. -/
def resume (self : OfflineState) : Machine State := do
  match self.selectedGateways with
  | none => ConnectingState.enter 0 none
  | some gateways => do
    let resumedAt ← now
    modifyShared fun s =>
      { s with
        entryGatewayGrace :=
          some (gateways.entryGateway.identity, resumedAt + gatewayBlameGrace) }
    ConnectingState.enter 0 (some gateways)

def handleEvent (self : OfflineState) : Event → Machine State
  | .command (.connect relaxIndependence) => do
    setRelaxIndependence relaxIndependence
    if self.reconnect then return .offline self
    else OfflineState.enter true self.selectedGateways
  | .command .disconnect => return .offline { self with reconnect := false }
  | .command (.setTunnelSettings settings) => self.handleSettings settings
  | .connectivity offline =>
    if offline then return .offline self
    else do
      resetDns
      if self.reconnect then self.resume else DisconnectedState.enter
  | .shutdown => do
    resetDns
    releaseFirewallOnShutdown
    return .finished
  | _ => return .offline self

end OfflineState

/-! ## Disconnecting -/

namespace DisconnectingState

def proceed : PrivateActionAfterDisconnect → Machine State
  | .nothing => DisconnectedState.enter
  | .error reason => ErrorState.enter reason
  | .reconnect gateways => ConnectingState.enter 0 gateways
  | .offline reconnect gateways => OfflineState.enter reconnect gateways

/-- A pending reconnect keeps the gateways it carries. -/
def afterConnect : PrivateActionAfterDisconnect → PrivateActionAfterDisconnect
  | .offline _ gateways => .offline true gateways
  | .reconnect gateways => .reconnect gateways
  | _ => .reconnect none

def afterUserDisconnect : PrivateActionAfterDisconnect → PrivateActionAfterDisconnect
  | .offline _ gateways => .offline false gateways
  | _ => .nothing

def handleEvent (self : DisconnectingState) : Event → Machine State
  | .monitorWaited => do
    waitMonitor self.tunnelMonitor
    proceed self.afterDisconnect
  | .command (.connect relaxIndependence) => do
    setRelaxIndependence relaxIndependence
    return .disconnecting { self with afterDisconnect := afterConnect self.afterDisconnect }
  | .command .disconnect =>
    return .disconnecting { self with afterDisconnect := afterUserDisconnect self.afterDisconnect }
  | .command (.setTunnelSettings settings) => do
    setTunnelSettings settings
    return .disconnecting self
  | .shutdown => do
    -- The end of the monitor is waited for anyway.
    waitMonitor self.tunnelMonitor
    DisconnectedState.enter
  | _ => return .disconnecting self

end DisconnectingState

/-! ## Connected -/

def blacklistEntryGateway (entry : NodeIdentity) : Machine Unit := do
  let ok ← lockBlacklist
  onlyIf ok (modifyShared fun s =>
    { s with blacklistedEntryGateways := s.blacklistedEntryGateways.insert entry })

namespace ConnectedState

def resetDns : Machine Unit := discard (sendDns .resetBeforeInterfaceRemoval)

def disconnect (self : ConnectedState) (afterDisconnect : PrivateActionAfterDisconnect) :
    Machine State := do
  resetDns
  removeRoutes
  DisconnectingState.enter afterDisconnect self.tunnelMonitorHandle

/-- A bandwidth failure is not the local network's fault: no grace, and a backoff
that grows with the streak. -/
def reconnectAfterBandwidthFailure (self : ConnectedState) (entryCulpable : Option Bool) :
    Machine State := do
  let shared ← readShared
  let (streak, retryAttempt) :=
    shared.bandwidthFailureStreak.recordFailure self.bandwidthChecksWorked
  modifyShared fun s => { s with entryGatewayGrace := none, bandwidthFailureStreak := streak }
  match entryCulpable with
  | some true => do
    blacklistEntryGateway self.selectedGateways.entryGateway.identity
    ConnectingState.enter retryAttempt none
  | some false => ConnectingState.enter retryAttempt none
  | none => ConnectingState.enter retryAttempt (some self.selectedGateways)

/-- The session worked moments ago, so its gateway is given a grace, unless its
sessions never last. -/
def reconnectAfterDrop (self : ConnectedState) (endedAt : ℕ) : Machine State := do
  let shared ← readShared
  let entry := self.selectedGateways.entryGateway.identity
  let (strikes, struckOut) := shared.shortSessionStrikes.record entry
    (endedAt - self.connectedAt) shared.tunnelSettings.tunnelType
  let graceFrom ← now
  modifyShared fun s =>
    { s with
      bandwidthFailureStreak :=
        s.bandwidthFailureStreak.recordOtherEnd self.bandwidthChecksWorked
      entryGatewayGrace := some (entry, graceFrom + gatewayBlameGrace)
      shortSessionStrikes := strikes
      entryGatewaySuspect := if struckOut then some entry else s.entryGatewaySuspect }
  ConnectingState.enter (if struckOut then 1 else 0) (some self.selectedGateways)

def handleTunnelDown (self : ConnectedState) (errorStateReason : Option ErrorStateReason) :
    Machine State := do
  resetDns
  removeRoutes
  let endedAt ← now
  match errorStateReason, self.bandwidthFailure with
  | some blockReason, _ => ErrorState.enter blockReason
  | none, some entryCulpable => self.reconnectAfterBandwidthFailure entryCulpable
  | none, none => self.reconnectAfterDrop endedAt

def keepsTunnel (diff : TunnelSettingsDiff) (settings : TunnelSettings) : Bool :=
  diff.onlyHotAppliableChanged ||
    (diff.onlyMixnetPerformanceOptionsChanged && settings.tunnelType == .wireguard)

/-- The pair is kept unless the selection depends on the change. -/
def leaveFor (self : ConnectedState) (diff : TunnelSettingsDiff) (settings : TunnelSettings) :
    Machine State :=
  if keepsTunnel diff settings then return .connected self
  else self.disconnect
    (.reconnect (if diff.affectsGatewaySelection then none else some self.selectedGateways))

/-- The parameters are changed in place and the policy is asked for once, before
the new settings are the current ones. -/
def applySettings (self : ConnectedState) (diff : TunnelSettingsDiff)
    (settings : TunnelSettings) : Machine State := do
  let params := self.firewallPolicyParams.hotApply diff settings
  if ← requestIf (diff.allowLanChanged || diff.inboundExemptionsChanged)
      (ConnectedState.setFirewallPolicy params) then do
    setTunnelSettings settings
    ConnectedState.leaveFor { self with firewallPolicyParams := params } diff settings
  else ErrorState.enter .setFirewallPolicy

def handleSettings (self : ConnectedState) (settings : TunnelSettings) : Machine State := do
  let shared ← readShared
  match shared.tunnelSettings.diff settings with
  | none => return .connected self
  | some diff => self.applySettings diff settings

def handleMonitorEvent (self : ConnectedState) : TunnelMonitorEvent → Machine State
  | .down errorStateReason => self.handleTunnelDown errorStateReason
  | .bandwidthChecks failure worked =>
    return .connected { self with bandwidthFailure := failure, bandwidthChecksWorked := worked }
  | _ => return .connected self

def handleEvent (self : ConnectedState) : Event → Machine State
  | .command (.connect relaxIndependence) => do
    setRelaxIndependence relaxIndependence
    self.disconnect (.reconnect none)
  | .command .disconnect => self.disconnect .nothing
  | .command (.setTunnelSettings settings) => self.handleSettings settings
  | .monitor event => self.handleMonitorEvent event
  | .connectivity offline =>
    if offline then self.disconnect (.offline true (some self.selectedGateways))
    else return .connected self
  | .shutdown => self.disconnect .nothing
  | _ => return .connected self

end ConnectedState

/-! ## Connecting -/

def graceCovers (entry : NodeIdentity) (grace : Option (NodeIdentity × ℕ)) (now : ℕ) : Bool :=
  grace.any fun g => g.1 == entry && decide (now < g.2)

/-- The gateways are selected anew on every other attempt. -/
def keepGateways (nextAttempt : ℕ) (gracePending finalRetryOwed : Bool) : Bool :=
  nextAttempt % 2 != 0 || gracePending || finalRetryOwed

def apiProbeTargets (addrs : List SocketAddr) (enableIpv6 : Bool) : List SocketAddr :=
  (allowedAddrs enableIpv6 addrs).take 2

/-- Without a known endpoint the API counts as unreachable. -/
def anyApiEndpointReachable : Machine Bool := do
  let shared ← readShared
  let targets := apiProbeTargets shared.apiEndpoints shared.tunnelSettings.enableIpv6
  if targets.isEmpty then return false else probeApi targets

namespace ConnectingState

def graceRetryPending (self : ConnectingState) (shared : SharedState) (now : ℕ) : Bool :=
  self.selectedGateways.any fun gateways =>
    graceCovers gateways.entryGateway.identity shared.entryGatewayGrace now

def reconnect (self : ConnectingState) : Machine State := do
  let shared ← readShared
  let askedAt ← now
  let nextAttempt := saturatingSucc self.retryAttempt
  let nextGateways :=
    if keepGateways nextAttempt (self.graceRetryPending shared askedAt) self.finalRetryOwed then
      self.selectedGateways
    else none
  ConnectingState.enter nextAttempt nextGateways

def disconnect (afterDisconnect : PrivateActionAfterDisconnect) (monitor : ℕ) : Machine State := do
  removeRoutes
  DisconnectingState.enter afterDisconnect monitor

/-- With no monitor there is nothing to wait for. -/
def disconnectOr (self : ConnectingState) (afterDisconnect : PrivateActionAfterDisconnect)
    (otherwise : Machine State) : Machine State :=
  match self.tunnelMonitorHandle with
  | some monitor => disconnect afterDisconnect monitor
  | none => otherwise

def failPolicy (self : ConnectingState) : Machine State :=
  match self.tunnelMonitorHandle with
  | some monitor => DisconnectingState.enter (.error .setFirewallPolicy) monitor
  | none => ErrorState.enter .setFirewallPolicy

/-- A failure within the grace is forgiven, and the gateway is owed a retry; once
the API answers the grace ends. -/
def handleGatewayFailure (self : ConnectingState) (entryCulpable : Bool) :
    Machine ConnectingState :=
  match self.selectedGateways with
  | none => return self
  | some selectedGateways => do
    let shared ← readShared
    let failedAt ← now
    if self.graceRetryPending shared failedAt then do
      let reachable ← anyApiEndpointReachable
      onlyIf reachable (modifyShared fun s => { s with entryGatewayGrace := none })
      return { self with finalRetryOwed := true }
    else do
      modifyShared fun s => { s with entryGatewayGrace := none }
      onlyIf entryCulpable (blacklistEntryGateway selectedGateways.entryGateway.identity)
      return { self with selectedGateways := none }

/-- A gateway whose sessions keep ending early is replaced once the API answers. -/
def settleEntryGatewaySuspect (self : ConnectingState) : Machine ConnectingState := do
  let shared ← readShared
  match shared.entryGatewaySuspect with
  | none => return self
  | some suspect => do
    modifyShared fun s => { s with entryGatewaySuspect := none }
    if self.selectedGateways.any fun g => g.entryGateway.identity == suspect then do
      if ← anyApiEndpointReachable then do
        modifyShared fun s =>
          { s.clearShortSessionStrikes with entryGatewayGrace := none }
        blacklistEntryGateway suspect
        return { self with selectedGateways := none }
      else return self
    else return self

def startTunnelMonitor (self : ConnectingState) (resolvedGatewayConfig : Option ResolvedConfig) :
    Machine State := do
  if self.tunnelMonitorEventSender then do
    let shared ← readShared
    let monitor ← startMonitor
      { resolvedGatewayConfig
        tunnelSettings := shared.tunnelSettings
        selectedGateways := self.selectedGateways
        blacklistedEntryGateways := shared.blacklistedEntryGateways
        relaxIndependence := shared.relaxIndependence
        bandwidthFailuresEndSession := shared.bandwidthFailureStreak.endsSessions }
    return .connecting
      { self with
        tunnelMonitorEventSender := false
        tunnelMonitorEventReceiver := some monitor
        tunnelMonitorHandle := some monitor }
  else
    ErrorState.enter (.internal "Monitor event sender is not set. This is a logical error.")

def startWith (self : ConnectingState) (resolved : ResolvedConfig) : Machine State := do
  setNetworking true
  let self ← self.settleEntryGatewaySuspect
  self.startTunnelMonitor (some resolved)

def handleResolvedGatewayConfig (self : ConnectingState) (result : Option ResolvedConfig) :
    Machine State :=
  let self := { self with resolveApiAddrs := false }
  match result with
  | none => self.reconnect
  | some resolved => do
    adoptResolvedApiEndpoints resolved
    let shared ← readShared
    let params := { self.firewallPolicyParams with apiEndpoints := shared.apiEndpoints }
    let self := { self with firewallPolicyParams := params }
    if ← ConnectingState.setFirewallPolicy params then
      if resolved.hasResolverOverrides then do
        -- The clients are pinned to the addresses the firewall admits.
        if ← useOverrides (some resolved.nymVpnApiResolverOverrides) then
          self.startWith resolved
        else ErrorState.enter (.internal "Failed to set resolver overrides")
      else self.startWith resolved
    else ErrorState.enter .setFirewallPolicy

def handleSelectedGateways (self : ConnectingState) (gateways : SelectedGateways) :
    Machine State := do
  let shared ← readShared
  let params := self.firewallPolicyParams
  let bridgeEndpoints :=
    if shared.tunnelSettings.bridgesEnabled && gateways.entryGateway.bridgeParams.isSome then
      bridgeAddrs gateways.entryGateway
    else params.bridgeEndpoints
  let params :=
    { params with
      bridgeEndpoints
      wsEntryEndpoints := endpoints gateways.entryGateway
      lpEntryEndpoints := lpEndpoints gateways.entryGateway }
  let self := { self with firewallPolicyParams := params, selectedGateways := some gateways }
  if ← ConnectingState.setFirewallPolicy params then return .connecting self else self.failPolicy

def handleRegisteredWithGateways (self : ConnectingState) (tunnel : Option TunnelConnectionData) :
    Machine State := do
  let shared ← readShared
  let endpoint := match tunnel with
    | some (.wireguard entryEndpoint _) =>
      if shared.tunnelSettings.bridgesEnabled then none else some entryEndpoint
    | _ => none
  return .connecting { self with
      firewallPolicyParams := { self.firewallPolicyParams with wgEntryEndpoint := endpoint } }

def handleInterfaceUp (self : ConnectingState) (tunnelInterface : TunnelInterface) :
    Machine State := do
  let params := { self.firewallPolicyParams with tunnelInterface := some tunnelInterface }
  let self := { self with firewallPolicyParams := params }
  if ← ConnectingState.setFirewallPolicy params then return .connecting self else self.failPolicy

/-- A working tunnel clears the blacklist. -/
def handleUp (self : ConnectingState) (tunnelInterface : TunnelInterface)
    (tunnel : TunnelConnectionData) : Machine State := do
  modifyShared fun s => { s with entryGatewayGrace := none }
  let readable ← lockBlacklist
  let writable ← lockBlacklist
  onlyIf (readable && writable) (modifyShared fun s => { s with blacklistedEntryGateways := [] })
  match self.selectedGateways, self.tunnelMonitorHandle with
  | some gateways, some monitor =>
    ConnectedState.enter tunnelInterface tunnel gateways monitor self.tunnelMonitorEventReceiver
  | _, _ => return .panicked

def handleDown (self : ConnectingState) (errorStateReason : Option ErrorStateReason) :
    Machine State :=
  match errorStateReason, self.tunnelMonitorHandle with
  | some reason, some monitor => DisconnectingState.enter (.error reason) monitor
  | some _, none => return .panicked
  | none, some monitor => do
    waitMonitor monitor
    removeRoutes
    { self with tunnelMonitorHandle := none }.reconnect
  | none, none => self.reconnect

def handleBandwidthChecks (self : ConnectingState) (failure : Option (Option Bool))
    (worked : Bool) : Machine State := do
  match failure with
  | some entryCulpable => do
    modifyShared fun s =>
      { s with bandwidthFailureStreak := (s.bandwidthFailureStreak.recordFailure worked).1 }
    match entryCulpable with
    | some culpable => do
      let self ← self.handleGatewayFailure culpable
      return .connecting self
    | none => return .connecting self
  | none => do
    modifyShared fun s =>
      { s with bandwidthFailureStreak := s.bandwidthFailureStreak.recordOtherEnd worked }
    return .connecting self

def handleMonitorEvent (self : ConnectingState) : TunnelMonitorEvent → Machine State
  | .selectedGateways gateways => self.handleSelectedGateways gateways
  | .registeredWithGateways tunnel => self.handleRegisteredWithGateways tunnel
  | .interfaceUp tunnelInterface => self.handleInterfaceUp tunnelInterface
  | .up tunnelInterface tunnel => self.handleUp tunnelInterface tunnel
  | .down errorStateReason => self.handleDown errorStateReason
  | .connectionFailed => do
    let self ← self.handleGatewayFailure true
    return .connecting self
  | .registrationFailed entryCulpable => do
    let self ← self.handleGatewayFailure entryCulpable
    return .connecting self
  | .bandwidthChecks failure worked => self.handleBandwidthChecks failure worked
  | _ => return .connecting self

def leaveFor (self : ConnectingState) (diff : TunnelSettingsDiff) (settings : TunnelSettings) :
    Machine State :=
  if ConnectedState.keepsTunnel diff settings then return .connecting self
  else
    let nextGateways := if diff.affectsGatewaySelection then none else self.selectedGateways
    self.disconnectOr (.reconnect nextGateways)
      (ConnectingState.enter self.retryAttempt nextGateways)

/-- The policy that is asked for is still the one of the running attempt. -/
def applySettings (self : ConnectingState) (diff : TunnelSettingsDiff)
    (settings : TunnelSettings) : Machine State := do
  let params := self.firewallPolicyParams.hotApply diff settings
  if ← requestIf (diff.allowLanChanged || diff.inboundExemptionsChanged ||
      diff.killswitchChanged) (ConnectingState.setFirewallPolicy params) then
    ConnectingState.leaveFor { self with firewallPolicyParams := params } diff settings
  else ErrorState.enter .setFirewallPolicy

/-- The settings are the current ones before the policy is asked for. -/
def handleSettings (self : ConnectingState) (settings : TunnelSettings) : Machine State := do
  let shared ← readShared
  match shared.tunnelSettings.diff settings with
  | none => return .connecting self
  | some diff => do
    setTunnelSettings settings
    self.applySettings diff settings

def disconnectIdle : Machine State := do
  removeRoutes
  DisconnectedState.enter

def handleEvent (self : ConnectingState) : Event → Machine State
  | .reconnectDelay =>
    return .connecting { self with reconnectDelay := none, resolveApiAddrs := true }
  | .apiResolved result => self.handleResolvedGatewayConfig result
  | .monitor event => self.handleMonitorEvent event
  | .command (.connect relaxIndependence) => do
    setRelaxIndependence relaxIndependence
    self.disconnectOr (.reconnect none) (ConnectingState.enter self.retryAttempt none)
  | .command .disconnect => self.disconnectOr .nothing disconnectIdle
  | .command (.setTunnelSettings settings) => self.handleSettings settings
  | .connectivity offline =>
    if offline then
      self.disconnectOr (.offline true self.selectedGateways)
        (OfflineState.enter true self.selectedGateways)
    else return .connecting self
  | .shutdown => self.disconnectOr .nothing disconnectIdle
  | _ => return .connecting self

end ConnectingState

def State.handleEvent : State → Event → Machine State
  | .disconnected state, event => state.handleEvent event
  | .connecting state, event => state.handleEvent event
  | .connected state, event => state.handleEvent event
  | .disconnecting state, event => state.handleEvent event
  | .error state, event => state.handleEvent event
  | .offline state, event => state.handleEvent event
  | .finished, _ => return .finished
  | .panicked, _ => return .panicked

end TunnelStateMachine
