import NymVpn.Program.Prog
import NymVpn.Tunnel.Settings

/-!
# What the tunnel state machine acts on

Every command that the outside can observe is recorded, the latest first, a firewall request
with the kill-switch flag and the settings of that moment. A command may fail where the
source has a failure for it. Monitors are numbered in the order they are started; a pair of
gateways keeps the number of its monitor, which the source does not record.
-/

namespace TunnelStateMachine

open Net NymFirewall GatewayDirectory Program

/-! ## Events -/

inductive ErrorStateReason where
  | setFirewallPolicy
  | setRouting
  | setDns
  | tunDevice
  | tunnelProvider
  | ipv6Unavailable
  | sameEntryAndExitGateway
  | needsRelaxedIndependenceCriteria
  | performantEntryGatewayUnavailable
  | performantExitGatewayUnavailable
  | invalidEntryGatewayIdentity
  | invalidExitGatewayIdentity
  | invalidEntryGatewayCountry
  | invalidExitGatewayCountry
  | credentialWastedOnEntryGateway
  | credentialWastedOnExitGateway
  | bandwidthExceeded
  | inactiveAccount
  | inactiveSubscription
  | maxDevicesReached
  | deviceTimeOutOfSync
  | deviceLoggedOut
  | internal (message : String)
deriving DecidableEq

/-- A pair of gateways, and the number of the monitor that selected it. -/
structure SelectedGateways where
  entryGateway : Gateway
  exitGateway : Gateway
  selectedBy : ℕ
deriving DecidableEq

inductive TunnelConnectionData where
  | mixnet
  | wireguard (entryEndpoint : SocketAddr) (entryBridgeRemoteAddr : Option SocketAddr)

inductive TunnelCommand where
  | connect (relaxIndependence : Bool)
  | disconnect
  | setTunnelSettings (settings : TunnelSettings)

inductive TunnelMonitorEvent where
  | awaitingAccountReadiness
  | refreshingGateways
  | selectingGateways
  | selectedGateways (gateways : SelectedGateways)
  | registeringWithGateways
  | registeredWithGateways (tunnel : Option TunnelConnectionData)
  | interfaceUp (tunnelInterface : TunnelInterface)
  | up (tunnelInterface : TunnelInterface) (tunnel : TunnelConnectionData)
  | down (errorStateReason : Option ErrorStateReason)
  | connectionFailed
  | registrationFailed (entryCulpable : Bool)
  /-- The failure, with the gateway to blame where there is one. -/
  | bandwidthChecks (failure : Option (Option Bool)) (worked : Bool)

inductive Event where
  | command (command : TunnelCommand)
  | monitor (event : TunnelMonitorEvent)
  | connectivity (offline : Bool)
  | apiResolved (result : Option ResolvedConfig)
  | refreshTimer
  | reconnectDelay
  | monitorWaited
  | shutdown

/-! ## The order of a monitor's events -/

/-- A monitor selects gateways unless it was given some, then runs; a failure ends
it, and `Down` is its last event. -/
inductive MonitorPhase where
  | selecting
  | running
  | up
  | ending
  | down
deriving DecidableEq

def MonitorPhase.next : MonitorPhase → TunnelMonitorEvent → Option MonitorPhase
  | .down, _ => none
  | _, .down _ => some .down
  | .selecting, .awaitingAccountReadiness => some .selecting
  | .selecting, .refreshingGateways => some .selecting
  | .selecting, .selectingGateways => some .selecting
  | .selecting, .selectedGateways _ => some .running
  | .running, .awaitingAccountReadiness => some .running
  | .running, .refreshingGateways => some .running
  | .running, .registeringWithGateways => some .running
  | .running, .registeredWithGateways _ => some .running
  | .running, .interfaceUp _ => some .running
  | .running, .up _ _ => some .up
  | .running, .connectionFailed => some .ending
  | .running, .registrationFailed _ => some .ending
  | .running, .bandwidthChecks _ _ => some .ending
  | .up, .connectionFailed => some .ending
  | .up, .bandwidthChecks _ _ => some .ending
  | .ending, .bandwidthChecks _ _ => some .ending
  | _, _ => none

/-! ## Shared state -/

def saturatingSucc (n : ℕ) : ℕ := min (n + 1) (2 ^ 32 - 1)

/-- Milliseconds. -/
def gatewayBlameGrace : ℕ := 120000

def shortSession : TunnelType → ℕ
  | .wireguard => 60000
  | .mixnet => 180000

def shortSessionStrikesLimit : ℕ := 3

structure ShortSessionStrikes where
  entry : Option NodeIdentity
  count : ℕ

namespace ShortSessionStrikes

def reset : ShortSessionStrikes := ⟨none, 0⟩

def record (s : ShortSessionStrikes) (entry : NodeIdentity) (lifetime : ℕ)
    (tunnelType : TunnelType) : ShortSessionStrikes × Bool :=
  if lifetime ≥ shortSession tunnelType then (reset, false)
  else
    let s := if s.entry = some entry then s else ⟨some entry, 0⟩
    let s := { s with count := saturatingSucc s.count }
    (s, decide (s.count ≥ shortSessionStrikesLimit))

end ShortSessionStrikes

def bandwidthFailureSessions : ℕ := 3

structure BandwidthFailureStreak where
  count : ℕ

namespace BandwidthFailureStreak

def endsSessions (s : BandwidthFailureStreak) : Bool := decide (s.count < bandwidthFailureSessions)

def recordFailure (s : BandwidthFailureStreak) (worked : Bool) : BandwidthFailureStreak × ℕ :=
  let count := saturatingSucc (if worked then 0 else s.count)
  (⟨count⟩, count)

def recordOtherEnd (s : BandwidthFailureStreak) (worked : Bool) : BandwidthFailureStreak :=
  if worked then ⟨0⟩ else s

end BandwidthFailureStreak

structure SharedState where
  tunnelSettings : TunnelSettings
  /-- A constant of the binary. -/
  defaultDnsServers : List IpAddr
  blacklistedEntryGateways : List NodeIdentity
  /-- The entry gateway that a drop shields from blame, and until when. -/
  entryGatewayGrace : Option (NodeIdentity × ℕ)
  shortSessionStrikes : ShortSessionStrikes
  entryGatewaySuspect : Option NodeIdentity
  bandwidthFailureStreak : BandwidthFailureStreak
  relaxIndependence : Bool
  apiEndpoints : List SocketAddr
  apiResolution : Option ResolvedConfig
  apiEndpointsResolvedAt : Option ℕ

def SharedState.clearShortSessionStrikes (s : SharedState) : SharedState :=
  { s with shortSessionStrikes := .reset, entryGatewaySuspect := none }

/-! ## Commands -/

inductive Request where
  | policy (policy : FirewallPolicy)
  | reset
deriving DecidableEq

structure TunnelParameters where
  resolvedGatewayConfig : Option ResolvedConfig
  tunnelSettings : TunnelSettings
  selectedGateways : Option SelectedGateways
  blacklistedEntryGateways : List NodeIdentity
  relaxIndependence : Bool
  bandwidthFailuresEndSession : Bool

inductive DnsRequest where
  | set (interface : String) (config : ResolvedDnsConfig)
  | reset
  | resetIdle (idle : TunnelSettings.IdleDns)
  | resetBeforeInterfaceRemoval

inductive Cmd where
  | shared
  | modifyShared (f : SharedState → SharedState)
  | setKillswitch (killswitch : Bool)
  | request (request : Request)
  | connectivity
  | removeRoutes
  | startMonitor (parameters : TunnelParameters)
  | cancelMonitor (monitor : ℕ)
  | waitMonitor (monitor : ℕ)
  | dns (request : DnsRequest)
  | resolverOverrides (overrides : Option ResolverOverrides)
  | networking (allowed : Bool)
  | probeApi (targets : List SocketAddr)
  | now
  /-- The lock of the blacklist, which may be poisoned. -/
  | lockBlacklist

/-- Requests answer whether they succeeded, `connectivity` whether the host is
offline. -/
@[reducible] def Cmd.Answer : Cmd → Type
  | .shared => SharedState
  | .request _ => Bool
  | .connectivity => Bool
  | .startMonitor _ => ℕ
  | .dns _ => Bool
  | .resolverOverrides _ => Bool
  | .probeApi _ => Bool
  | .now => ℕ
  | .lockBlacklist => Bool
  | _ => Unit

inductive Effect where
  | spawned (settings : TunnelSettings)
  | handled (event : Event) (settings : TunnelSettings)
  | request (request : Request) (killswitch : Bool) (settings : TunnelSettings) (ok : Bool)
  | removedRoutes
  | started (monitor : ℕ) (parameters : TunnelParameters)
  | cancelled (monitor : ℕ)
  | waited (monitor : ℕ)
  | dns (request : DnsRequest) (settings : TunnelSettings) (ok : Bool)
  | resolverOverrides (overrides : Option ResolverOverrides) (ok : Bool)
  | networking (allowed : Bool)

def Effect.isHandled : Effect → Bool
  | .handled _ _ => true
  | _ => false

structure World where
  shared : SharedState
  /-- The flag that the firewall caches. -/
  killswitch : Bool
  clock : ℕ
  nextMonitor : ℕ
  phase : ℕ → MonitorPhase
  trace : List Effect

namespace World

def log (w : World) (e : Effect) : World := { w with trace := e :: w.trace }

def start (w : World) (parameters : TunnelParameters) : World :=
  { w.log (.started w.nextMonitor parameters) with
    nextMonitor := w.nextMonitor + 1
    phase := Function.update w.phase w.nextMonitor
      (if parameters.selectedGateways.isSome then .running else .selecting) }

end World

section

variable (reliable : Prop)

/-- What a command may answer and what it does. With `reliable` every firewall
request succeeds. -/
@[grind =] def Outcome : (c : Cmd) → World → c.Answer → World → Prop
  | .shared, w, s, w' => s = w.shared ∧ w' = w
  | .modifyShared f, w, _, w' => w' = { w with shared := f w.shared }
  | .setKillswitch b, w, _, w' => w' = { w with killswitch := b }
  | .request r, w, ok, w' => (reliable → ok = true) ∧
      w' = w.log (.request r w.killswitch w.shared.tunnelSettings ok)
  | .connectivity, w, _, w' => w' = w
  | .removeRoutes, w, _, w' => w' = w.log .removedRoutes
  | .startMonitor p, w, id, w' => id = w.nextMonitor ∧ w' = w.start p
  | .cancelMonitor id, w, _, w' => w' = w.log (.cancelled id)
  | .waitMonitor id, w, _, w' => w' = w.log (.waited id)
  | .dns r, w, ok, w' => w' = w.log (.dns r w.shared.tunnelSettings ok)
  | .resolverOverrides o, w, ok, w' => w' = w.log (.resolverOverrides o ok)
  | .networking allowed, w, _, w' => w' = w.log (.networking allowed)
  | .probeApi _, w, _, w' => w' = w
  | .now, w, t, w' => w.clock ≤ t ∧ w' = { w with clock := t }
  | .lockBlacklist, w, _, w' => w' = w

variable {reliable} in
abbrev Machine := Prog Cmd Cmd.Answer

def Ensures {α : Type} (Q : α → World → Prop) (p : Machine α) (w : World) : Prop :=
  Prog.Ends (Outcome reliable) Q p w

end

def issue (c : Cmd) : Machine c.Answer := Prog.call c

def readShared : Machine SharedState := issue .shared

def modifyShared (f : SharedState → SharedState) : Machine Unit := issue (.modifyShared f)

def setKillswitch (killswitch : Bool) : Machine Unit := issue (.setKillswitch killswitch)

def sendRequest (r : Request) : Machine Bool := issue (.request r)

def isOffline : Machine Bool := issue .connectivity

def removeRoutes : Machine Unit := issue .removeRoutes

def startMonitor (p : TunnelParameters) : Machine ℕ := issue (.startMonitor p)

def cancelMonitor (monitor : ℕ) : Machine Unit := issue (.cancelMonitor monitor)

def waitMonitor (monitor : ℕ) : Machine Unit := issue (.waitMonitor monitor)

def sendDns (r : DnsRequest) : Machine Bool := issue (.dns r)

def useOverrides (o : Option ResolverOverrides) : Machine Bool := issue (.resolverOverrides o)

def setNetworking (allowed : Bool) : Machine Unit := issue (.networking allowed)

def probeApi (targets : List SocketAddr) : Machine Bool := issue (.probeApi targets)

def now : Machine ℕ := issue .now

def lockBlacklist : Machine Bool := issue .lockBlacklist

section Ensures

variable {reliable : Prop} {α β : Type} {Q : α → World → Prop} {w : World} {p : Machine α}

@[simp] theorem ensures_ret {a : α} : Ensures reliable Q (Prog.ret a) w ↔ Q a w := Iff.rfl

@[simp] theorem ensures_bind {f : α → Machine β} {Q : β → World → Prop} :
    Ensures reliable Q (p >>= f) w ↔ Ensures reliable (fun a w => Ensures reliable Q (f a) w) p w :=
  Prog.holds_bind

theorem ensures_issue {c : Cmd} {Q : c.Answer → World → Prop} :
    Ensures reliable Q (issue c) w ↔ ∀ r w', Outcome reliable c w r w' → Q r w' := by
  constructor
  · exact fun h r w' hout => (h r w' hout).2
  · exact fun h r w' hout => ⟨trivial, h r w' hout⟩

@[simp] theorem ensures_readShared {Q : SharedState → World → Prop} :
    Ensures reliable Q readShared w ↔ Q w.shared w := by
  refine (ensures_issue (c := .shared)).trans ?_
  simp [Outcome]

@[simp] theorem ensures_startMonitor {p : TunnelParameters} {Q : ℕ → World → Prop} :
    Ensures reliable Q (startMonitor p) w ↔ Q w.nextMonitor (w.start p) := by
  refine (ensures_issue (c := .startMonitor p)).trans ?_
  simp [Outcome]

@[simp] theorem ensures_now {Q : ℕ → World → Prop} :
    Ensures reliable Q now w ↔ ∀ t, w.clock ≤ t → Q t { w with clock := t } := by
  refine (ensures_issue (c := .now)).trans ?_
  simp [Outcome]

section

variable {Q : Unit → World → Prop}

@[simp] theorem ensures_modifyShared {f : SharedState → SharedState} :
    Ensures reliable Q (modifyShared f) w ↔ Q () { w with shared := f w.shared } := by
  refine (ensures_issue (c := .modifyShared f)).trans ?_
  exact ⟨fun h => h () _ rfl, fun h _ _ hw => hw ▸ h⟩

@[simp] theorem ensures_setKillswitch {b : Bool} :
    Ensures reliable Q (setKillswitch b) w ↔ Q () { w with killswitch := b } := by
  refine (ensures_issue (c := .setKillswitch b)).trans ?_
  exact ⟨fun h => h () _ rfl, fun h _ _ hw => hw ▸ h⟩

@[simp] theorem ensures_removeRoutes :
    Ensures reliable Q removeRoutes w ↔ Q () (w.log .removedRoutes) := by
  refine (ensures_issue (c := .removeRoutes)).trans ?_
  exact ⟨fun h => h () _ rfl, fun h _ _ hw => hw ▸ h⟩

@[simp] theorem ensures_cancelMonitor {id : ℕ} :
    Ensures reliable Q (cancelMonitor id) w ↔ Q () (w.log (.cancelled id)) := by
  refine (ensures_issue (c := .cancelMonitor id)).trans ?_
  exact ⟨fun h => h () _ rfl, fun h _ _ hw => hw ▸ h⟩

@[simp] theorem ensures_waitMonitor {id : ℕ} :
    Ensures reliable Q (waitMonitor id) w ↔ Q () (w.log (.waited id)) := by
  refine (ensures_issue (c := .waitMonitor id)).trans ?_
  exact ⟨fun h => h () _ rfl, fun h _ _ hw => hw ▸ h⟩

@[simp] theorem ensures_setNetworking {allowed : Bool} :
    Ensures reliable Q (setNetworking allowed) w ↔ Q () (w.log (.networking allowed)) := by
  refine (ensures_issue (c := .networking allowed)).trans ?_
  exact ⟨fun h => h () _ rfl, fun h _ _ hw => hw ▸ h⟩

end

section

variable {Q : Bool → World → Prop}

@[simp] theorem ensures_sendRequest {r : Request} :
    Ensures reliable Q (sendRequest r) w ↔ ∀ ok, (reliable → ok = true) →
      Q ok (w.log (.request r w.killswitch w.shared.tunnelSettings ok)) := by
  refine (ensures_issue (c := .request r)).trans ?_
  simp [Outcome]

@[simp] theorem ensures_isOffline :
    Ensures reliable Q isOffline w ↔ ∀ offline, Q offline w := by
  refine (ensures_issue (c := .connectivity)).trans ?_
  simp [Outcome]

@[simp] theorem ensures_sendDns {r : DnsRequest} :
    Ensures reliable Q (sendDns r) w ↔ ∀ ok, Q ok (w.log (.dns r w.shared.tunnelSettings ok)) := by
  refine (ensures_issue (c := .dns r)).trans ?_
  simp [Outcome]

@[simp] theorem ensures_useOverrides {o : Option ResolverOverrides} :
    Ensures reliable Q (useOverrides o) w ↔ ∀ ok, Q ok (w.log (.resolverOverrides o ok)) := by
  refine (ensures_issue (c := .resolverOverrides o)).trans ?_
  simp [Outcome]

@[simp] theorem ensures_probeApi {targets : List SocketAddr} :
    Ensures reliable Q (probeApi targets) w ↔ ∀ reached, Q reached w := by
  refine (ensures_issue (c := .probeApi targets)).trans ?_
  simp [Outcome]

@[simp] theorem ensures_lockBlacklist :
    Ensures reliable Q lockBlacklist w ↔ ∀ ok, Q ok w := by
  refine (ensures_issue (c := .lockBlacklist)).trans ?_
  simp [Outcome]

end

@[simp] theorem ensures_discard {Q : PUnit → World → Prop} :
    Ensures reliable Q (discard p) w ↔ Ensures reliable (fun _ w => Q ⟨⟩ w) p w :=
  Prog.holds_bind

@[simp] theorem ensures_ite {c : Prop} [Decidable c] {p q : Machine α} :
    Ensures reliable Q (if c then p else q) w ↔
      (c → Ensures reliable Q p w) ∧ (¬c → Ensures reliable Q q w) := by
  by_cases h : c <;> simp [h]

end Ensures

end TunnelStateMachine
