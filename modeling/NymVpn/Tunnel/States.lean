import Mathlib.Data.List.Destutter
import NymVpn.Tunnel.World

/-!
# The states of the tunnel state machine

A state that cannot be entered is entered as another one: the host is offline, or the
firewall or the DNS handler refused.
-/

namespace TunnelStateMachine

open Net NymFirewall GatewayDirectory Program

def onlyIf (c : Bool) (p : Machine Unit) : Machine Unit := if c then p else pure ()

variable {reliable : Prop} {w : World} {Q : Bool → World → Prop}

@[simp] theorem ensures_onlyIf {Q : Unit → World → Prop} {c : Bool} {p : Machine Unit} :
    Ensures reliable Q (onlyIf c p) w ↔
      (c = true → Ensures reliable Q p w) ∧ (c = false → Q () w) := by
  cases c <;> simp [onlyIf]

/-- A request that is only made when the condition holds; without it nothing is
refused. -/
def requestIf (c : Bool) (p : Machine Bool) : Machine Bool := if c then p else pure true

@[simp] theorem ensures_requestIf {c : Bool} {p : Machine Bool} :
    Ensures reliable Q (requestIf c p) w ↔
      (c = true → Ensures reliable Q p w) ∧ (c = false → Q true w) := by
  cases c <;> simp [requestIf]

/-! ## The endpoints of a gateway -/

def defaultWsPort : UInt16 := 80

def endpoints (g : Gateway) : List SocketAddr :=
  let announced := g.clientsWsPort.toList ++ g.clientsWssPort.toList
  let ports := if announced.isEmpty then [defaultWsPort] else announced
  g.ips.flatMap fun ip => ports.map fun port => ⟨ip, port⟩

def lpEndpoints (g : Gateway) : List SocketAddr :=
  match g.lpControlPort with
  | none => []
  | some port => g.ips.map fun ip => ⟨ip, port⟩

def bridgeAddrs (g : Gateway) : List SocketAddr :=
  g.bridgeParams.elim [] BridgeInformation.getAddrs

/-! ## Policy parameters -/

structure ConnectingPolicyParameters where
  enableIpv6 : Bool
  allowLan : Bool
  wgEntryEndpoint : Option SocketAddr
  bridgeEndpoints : List SocketAddr
  wsEntryEndpoints : List SocketAddr
  lpEntryEndpoints : List SocketAddr
  apiEndpoints : List SocketAddr
  dnsServers : List IpAddr
  tunnelInterface : Option TunnelInterface
  inboundExemptions : List InboundExemption
deriving DecidableEq

def ConnectingPolicyParameters.asPolicy (p : ConnectingPolicyParameters) : FirewallPolicy :=
  let peerEndpoints :=
    (allowedAddrs p.enableIpv6 p.wsEntryEndpoints).map (rootEndpoint .tcp) ++
      (allowedAddrs p.enableIpv6 p.wgEntryEndpoint.toList).map (rootEndpoint .udp) ++
      (allowedAddrs p.enableIpv6 p.bridgeEndpoints).map (rootEndpoint .udp)
  let allowedEndpoints :=
    (allowedAddrs p.enableIpv6 p.apiEndpoints).map (rootEndpoint .tcp) ++
      (allowedAddrs p.enableIpv6 p.lpEntryEndpoints).map (rootEndpoint .tcp)
  .connecting peerEndpoints p.tunnelInterface p.allowLan
    ((DnsConfig.override [] p.dnsServers).resolve []) allowedEndpoints .all .all
    p.inboundExemptions

def ConnectingPolicyParameters.hotApply (p : ConnectingPolicyParameters)
    (diff : TunnelSettingsDiff) (settings : TunnelSettings) : ConnectingPolicyParameters :=
  { p with
    allowLan := if diff.allowLanChanged then settings.allowLan else p.allowLan
    inboundExemptions :=
      if diff.inboundExemptionsChanged then settings.inboundExemptions else p.inboundExemptions }

structure ConnectedPolicyParameters where
  enableIpv6 : Bool
  allowLan : Bool
  wgEntryEndpoint : Option SocketAddr
  wsEntryEndpoints : List SocketAddr
  dnsConfig : ResolvedDnsConfig
  tunnelInterface : TunnelInterface
  allowedEndpoints : List AllowedEndpoint
  inboundExemptions : List InboundExemption
deriving DecidableEq

def openEndpoint (protocol : TransportProtocol) (addr : SocketAddr) : AllowedEndpoint :=
  ⟨⟨addr, protocol⟩, .all⟩

def ConnectedPolicyParameters.asPolicy (p : ConnectedPolicyParameters) : FirewallPolicy :=
  let peerEndpoints :=
    (allowedAddrs p.enableIpv6 p.wsEntryEndpoints).map (openEndpoint .tcp) ++
      (allowedAddrs p.enableIpv6 p.wgEntryEndpoint.toList).map (openEndpoint .udp)
  .connected peerEndpoints p.tunnelInterface p.allowLan p.dnsConfig p.allowedEndpoints
    p.inboundExemptions

def ConnectedPolicyParameters.hotApply (p : ConnectedPolicyParameters)
    (diff : TunnelSettingsDiff) (settings : TunnelSettings) : ConnectedPolicyParameters :=
  { p with
    allowLan := if diff.allowLanChanged then settings.allowLan else p.allowLan
    inboundExemptions :=
      if diff.inboundExemptionsChanged then settings.inboundExemptions else p.inboundExemptions }

structure BlockedPolicyParameters where
  allowLan : Bool
deriving DecidableEq

/-- Nothing is worth admitting while offline. -/
def BlockedPolicyParameters.asPolicy (p : BlockedPolicyParameters) : FirewallPolicy :=
  .blocked p.allowLan [] []

/-! ## The states -/

/-- What the idle states do to keep the API reachable: a resolution in flight, or
the time of the next one. -/
structure IdleApiAccess where
  resolving : Bool
  timer : Option ℕ
deriving DecidableEq

inductive PrivateActionAfterDisconnect where
  | nothing
  | reconnect (gateways : Option SelectedGateways)
  | offline (reconnect : Bool) (gateways : Option SelectedGateways)
  | error (reason : ErrorStateReason)
deriving DecidableEq

structure DisconnectedState where
  apiAccess : IdleApiAccess
deriving DecidableEq

structure ErrorState where
  reason : ErrorStateReason
  apiAccess : IdleApiAccess
deriving DecidableEq

structure OfflineState where
  reconnect : Bool
  selectedGateways : Option SelectedGateways
  firewallPolicyParams : BlockedPolicyParameters
deriving DecidableEq

structure ConnectingState where
  retryAttempt : ℕ
  tunnelMonitorHandle : Option ℕ
  /-- Whether the sender for the monitor's events has not been given away. -/
  tunnelMonitorEventSender : Bool
  /-- The monitor that was given the sender. -/
  tunnelMonitorEventReceiver : Option ℕ
  selectedGateways : Option SelectedGateways
  firewallPolicyParams : ConnectingPolicyParameters
  resolveApiAddrs : Bool
  reconnectDelay : Option ℕ
  finalRetryOwed : Bool
deriving DecidableEq

structure ConnectedState where
  tunnelMonitorHandle : ℕ
  tunnelMonitorEventReceiver : Option ℕ
  selectedGateways : SelectedGateways
  tunnelInterface : TunnelInterface
  firewallPolicyParams : ConnectedPolicyParameters
  bandwidthFailure : Option (Option Bool)
  bandwidthChecksWorked : Bool
  connectedAt : ℕ
deriving DecidableEq

structure DisconnectingState where
  afterDisconnect : PrivateActionAfterDisconnect
  tunnelMonitor : ℕ
deriving DecidableEq

inductive State where
  | disconnected (state : DisconnectedState)
  | connecting (state : ConnectingState)
  | connected (state : ConnectedState)
  | disconnecting (state : DisconnectingState)
  | error (state : ErrorState)
  | offline (state : OfflineState)
  | finished
  /-- An `expect` of the source failed. -/
  | panicked
deriving DecidableEq

/-! ## API access between sessions -/

/-- Milliseconds. -/
def apiEndpointRefreshInterval : ℕ := 3600000

def apiEndpointRetryDelay : ℕ := 60000

def apiEndpointsNeedRefresh (killswitch endpointsKnown : Bool) (resolvedAt : Option ℕ)
    (now : ℕ) : Bool :=
  killswitch && match resolvedAt with
    | none => true
    | some at_ => !endpointsKnown || decide (now - at_ ≥ apiEndpointRefreshInterval)

def SharedState.needRefresh (s : SharedState) (now : ℕ) : Bool :=
  apiEndpointsNeedRefresh s.tunnelSettings.killswitch (!s.apiEndpoints.isEmpty)
    s.apiEndpointsResolvedAt now

def SharedState.refreshDue (s : SharedState) (now : ℕ) : ℕ :=
  match s.apiEndpointsResolvedAt with
  | some at_ => if s.apiEndpoints.isEmpty then now else at_ + apiEndpointRefreshInterval
  | none => now

namespace IdleApiAccess

def new : IdleApiAccess := ⟨false, none⟩

def armTimer (access : IdleApiAccess) (due : ℕ) : IdleApiAccess :=
  { access with timer := some due }

/-- A settings change does not restart a resolution in flight. -/
def plan (access : IdleApiAccess) (killswitch needRefresh : Bool) (due : ℕ) : IdleApiAccess :=
  if !killswitch then ⟨false, none⟩
  else if needRefresh then ⟨true, none⟩
  else access.armTimer due

def schedule (access : IdleApiAccess) : Machine IdleApiAccess := do
  let shared ← readShared
  let needAt ← now
  let dueAt ← now
  return access.plan shared.tunnelSettings.killswitch (shared.needRefresh needAt)
    (shared.refreshDue dueAt)

def start : Machine IdleApiAccess := new.schedule

theorem ensures_schedule {Q : IdleApiAccess → World → Prop} {access : IdleApiAccess}
    (h : ∀ access t, Q access { w with clock := t }) : Ensures reliable Q access.schedule w := by
  simp only [schedule, ensures_bind, ensures_readShared, ensures_now, Prog.pure_eq, ensures_ret]
  exact fun _ _ _ _ => h _ _

end IdleApiAccess

/-- The idle policy, and the pins that go with it. Answers whether the firewall
took it. -/
def enterIdleFirewall : Machine Bool := do
  let shared ← readShared
  let settings := shared.tunnelSettings
  -- The firewall caches the flag.
  setKillswitch settings.killswitch
  let ok ← sendRequest (if settings.killswitch then
      .policy (idleBlockedPolicy settings shared.defaultDnsServers shared.apiEndpoints)
    else .reset)
  if ok then do
    let _ ← useOverrides (idleResolverPins settings.killswitch shared.apiResolution)
    return true
  else return false

def World.asked (w : World) (r : Request) (ok : Bool) : World :=
  World.log { w with killswitch := w.shared.tunnelSettings.killswitch }
    (.request r w.shared.tunnelSettings.killswitch w.shared.tunnelSettings ok)

def SharedState.idleRequest (s : SharedState) : Request :=
  if s.tunnelSettings.killswitch then
    .policy (idleBlockedPolicy s.tunnelSettings s.defaultDnsServers s.apiEndpoints)
  else .reset

theorem ensures_enterIdleFirewall :
    Ensures reliable Q enterIdleFirewall w ↔
      (∀ pinned, Q true ((w.asked w.shared.idleRequest true).log (.resolverOverrides
        (idleResolverPins w.shared.tunnelSettings.killswitch w.shared.apiResolution) pinned))) ∧
      (¬reliable → Q false (w.asked w.shared.idleRequest false)) := by
  simp only [enterIdleFirewall, ensures_bind, ensures_readShared, ensures_setKillswitch,
    ensures_sendRequest, ensures_ite, ensures_useOverrides, Prog.pure_eq, ensures_ret]
  constructor
  · exact fun h => ⟨fun pinned => (h true fun _ => rfl).1 rfl pinned,
      fun hr => (h false fun hreliable => absurd hreliable hr).2 Bool.false_ne_true⟩
  · rintro ⟨htrue, hfalse⟩ ok hok
    cases ok with
    | true => exact ⟨fun _ pinned => htrue pinned, fun h => absurd rfl h⟩
    | false => exact ⟨fun h => absurd h Bool.false_ne_true,
        fun _ => hfalse fun hr => Bool.false_ne_true (hok hr)⟩

/-- The sort makes an unchanged set compile to the same rules. -/
def SocketAddr.key (a : SocketAddr) : ℕ :=
  match a.ip with
  | .v4 ip => ip.toNat * 2 ^ 16 + a.port.toNat
  | .v6 ip => 2 ^ 48 + ip.toNat * 2 ^ 16 + a.port.toNat

def sortedAddrs (addrs : List SocketAddr) : List SocketAddr :=
  (addrs.insertionSort fun a b => SocketAddr.key a ≤ SocketAddr.key b).destutter (· ≠ ·)

def adoptResolvedApiEndpoints (resolved : ResolvedConfig) : Machine Unit := do
  let resolvedAt ← now
  modifyShared fun s =>
    { s with
      apiEndpoints := sortedAddrs resolved.allSocketAddrs
      apiResolution := some resolved
      apiEndpointsResolvedAt := some resolvedAt }

def installIdleApiAccess (resolved : ResolvedConfig) : Machine Bool := do
  adoptResolvedApiEndpoints resolved
  enterIdleFirewall

/-- The resolution that was in flight has ended. Fails only when the firewall
refuses the new endpoints. -/
def IdleApiAccess.handleResolved (access : IdleApiAccess) (result : Option ResolvedConfig) :
    Machine (IdleApiAccess × Bool) :=
  let access := { access with resolving := false }
  match result with
  | some resolved => do
    if ← installIdleApiAccess resolved then do
      let shared ← readShared
      let dueAt ← now
      return (access.armTimer (shared.refreshDue dueAt), true)
    else return (access, false)
  | none => do
    let failedAt ← now
    return (access.armTimer (failedAt + apiEndpointRetryDelay), true)

/-- With the kill-switch on the policy outlives the daemon. -/
def releaseFirewallOnShutdown : Machine Unit := do
  let shared ← readShared
  onlyIf (!shared.tunnelSettings.killswitch) (discard (sendRequest .reset))

def setFirewallPolicy (policy : FirewallPolicy) : Machine Bool := do
  let shared ← readShared
  setKillswitch shared.tunnelSettings.killswitch
  sendRequest (.policy policy)

theorem ensures_setFirewallPolicy {policy : FirewallPolicy} :
    Ensures reliable Q (setFirewallPolicy policy) w ↔
      Q true (w.asked (.policy policy) true) ∧
      (¬reliable → Q false (w.asked (.policy policy) false)) := by
  simp only [setFirewallPolicy, ensures_bind, ensures_readShared, ensures_setKillswitch,
    ensures_sendRequest]
  constructor
  · exact fun h => ⟨h true fun _ => rfl, fun hr => h false fun hreliable => absurd hreliable hr⟩
  · rintro ⟨htrue, hfalse⟩ ok hok
    cases ok with
    | true => exact htrue
    | false => exact hfalse fun hr => Bool.false_ne_true (hok hr)

/-! ## Entering a state -/

/-- Already the error path: a refused policy can only be logged. -/
def ErrorState.enter (reason : ErrorStateReason) : Machine State := do
  let _ ← enterIdleFirewall
  setNetworking true
  let apiAccess ← IdleApiAccess.start
  return .error ⟨reason, apiAccess⟩

def ErrorState.resetDns : Machine Unit := discard (sendDns .reset)

def DisconnectedState.resetDns : Machine Unit := do
  let shared ← readShared
  discard (sendDns (.resetIdle (shared.tunnelSettings.idleDns shared.defaultDnsServers)))

/-- The grace, the strikes and the relaxation belong to a session. -/
def SharedState.endSession (s : SharedState) : SharedState :=
  { s.clearShortSessionStrikes with
    entryGatewayGrace := none
    bandwidthFailureStreak := ⟨0⟩
    relaxIndependence := false }

def DisconnectedState.enter : Machine State := do
  modifyShared SharedState.endSession
  if ← enterIdleFirewall then do
    setNetworking true
    DisconnectedState.resetDns
    let apiAccess ← IdleApiAccess.start
    return .disconnected ⟨apiAccess⟩
  else ErrorState.enter .setFirewallPolicy

def OfflineState.setFirewallPolicy (params : BlockedPolicyParameters) : Machine Bool :=
  TunnelStateMachine.setFirewallPolicy params.asPolicy

def OfflineState.resetDns : Machine Unit := discard (sendDns .reset)

def OfflineState.enter (reconnect : Bool) (selectedGateways : Option SelectedGateways) :
    Machine State := do
  setNetworking false
  modifyShared SharedState.clearShortSessionStrikes
  let shared ← readShared
  let params : BlockedPolicyParameters := ⟨shared.tunnelSettings.allowLan⟩
  let _ ← OfflineState.setFirewallPolicy params
  return .offline ⟨reconnect, selectedGateways, params⟩

/-- Milliseconds. -/
def initialWaitDelay : ℕ := 2000

def delayMultiplier : ℕ := 2

def maxWaitDelay : ℕ := 15000

def fastRetryAttempts : ℕ := 2

def networkRecoveryDelay : ℕ := 500

/-- The saturation of the source is past the maximum. -/
def waitDelay (retryAttempt : ℕ) : ℕ :=
  if retryAttempt ≤ fastRetryAttempts then networkRecoveryDelay
  else min (initialWaitDelay * ((retryAttempt - fastRetryAttempts) * delayMultiplier)) maxWaitDelay

def ConnectingState.setFirewallPolicy (params : ConnectingPolicyParameters) : Machine Bool :=
  TunnelStateMachine.setFirewallPolicy params.asPolicy

def ConnectingPolicyParameters.initial (shared : SharedState)
    (selectedGateways : Option SelectedGateways) : ConnectingPolicyParameters :=
  let settings := shared.tunnelSettings
  { enableIpv6 := settings.enableIpv6
    allowLan := settings.allowLan
    wgEntryEndpoint := none
    bridgeEndpoints :=
      if settings.bridgesEnabled then
        selectedGateways.elim [] fun g => bridgeAddrs g.entryGateway
      else []
    wsEntryEndpoints := selectedGateways.elim [] fun g => endpoints g.entryGateway
    lpEntryEndpoints := selectedGateways.elim [] fun g => lpEndpoints g.entryGateway
    apiEndpoints := shared.apiEndpoints
    dnsServers := settings.idleDnsIps shared.defaultDnsServers
    tunnelInterface := none
    inboundExemptions := settings.inboundExemptions }

def ConnectingState.enter (retryAttempt : ℕ) (selectedGateways : Option SelectedGateways) :
    Machine State := do
  setNetworking false
  if ← isOffline then OfflineState.enter true selectedGateways
  else do
    let shared ← readShared
    let params := ConnectingPolicyParameters.initial shared selectedGateways
    if ← ConnectingState.setFirewallPolicy params then
      return .connecting
        { retryAttempt
          tunnelMonitorHandle := none
          tunnelMonitorEventSender := true
          tunnelMonitorEventReceiver := none
          selectedGateways
          firewallPolicyParams := params
          resolveApiAddrs := false
          reconnectDelay := some (if retryAttempt > 0 then waitDelay retryAttempt else 0)
          finalRetryOwed := false }
    else ErrorState.enter .setFirewallPolicy

def DisconnectingState.enter (afterDisconnect : PrivateActionAfterDisconnect) (monitor : ℕ) :
    Machine State := do
  setNetworking false
  cancelMonitor monitor
  return .disconnecting ⟨afterDisconnect, monitor⟩

def ConnectedState.setFirewallPolicy (params : ConnectedPolicyParameters) : Machine Bool :=
  TunnelStateMachine.setFirewallPolicy params.asPolicy

def ConnectedState.setDns (tunnelInterface : TunnelInterface) : Machine Bool := do
  let shared ← readShared
  sendDns (.set tunnelInterface.exitMetadata.interface
    (shared.tunnelSettings.resolvedDnsConfig shared.defaultDnsServers))

def entryEndpointOf (settings : TunnelSettings) : TunnelConnectionData → Option SocketAddr
  | .mixnet => none
  | .wireguard entryEndpoint entryBridgeRemoteAddr =>
    if settings.bridgesEnabled then entryBridgeRemoteAddr else some entryEndpoint

def ConnectedPolicyParameters.initial (shared : SharedState) (tunnelInterface : TunnelInterface)
    (tunnel : TunnelConnectionData) (selectedGateways : SelectedGateways) :
    ConnectedPolicyParameters :=
  let settings := shared.tunnelSettings
  { enableIpv6 := settings.enableIpv6
    allowLan := settings.allowLan
    wgEntryEndpoint := entryEndpointOf settings tunnel
    wsEntryEndpoints :=
      endpoints selectedGateways.entryGateway ++ endpoints selectedGateways.exitGateway
    dnsConfig := settings.resolvedDnsConfig shared.defaultDnsServers
    tunnelInterface
    allowedEndpoints := []
    inboundExemptions := settings.inboundExemptions }

def ConnectedState.enter (tunnelInterface : TunnelInterface) (tunnel : TunnelConnectionData)
    (selectedGateways : SelectedGateways) (monitor : ℕ) (receiver : Option ℕ) :
    Machine State := do
  let shared ← readShared
  let params := ConnectedPolicyParameters.initial shared tunnelInterface tunnel selectedGateways
  let connectedAt ← now
  if ← ConnectedState.setFirewallPolicy params then
    if ← ConnectedState.setDns tunnelInterface then do
      -- The tunnel can be used to resolve.
      let _ ← useOverrides none
      return .connected
        { tunnelMonitorHandle := monitor
          tunnelMonitorEventReceiver := receiver
          selectedGateways
          tunnelInterface
          firewallPolicyParams := params
          bandwidthFailure := none
          bandwidthChecksWorked := false
          connectedAt }
    else DisconnectingState.enter (.error .setDns) monitor
  else DisconnectingState.enter (.error .setFirewallPolicy) monitor

end TunnelStateMachine
