import Mathlib
import NymVpn.Service.AlwaysOn
import NymVpn.Service.Manager

/-!
# The service loop

The daemon answers commands, follows the tunnel and the account, and serves two timers. How a
write ends, the time and the jitter of a retry are inputs. Commands that touch neither the
settings nor the tunnel are one input.
-/

namespace VpnService

open TunnelStateMachine (TunnelCommand TunnelSettings)

structure SentCommand where
  command : TunnelCommand
  config : VpnServiceConfig

structure NymVpnService where
  configManager : VpnServiceConfigManager
  targetState : TargetState
  relaxIndependence : Bool
  tunnelState : TunnelState
  /-- A throttled update of the settings is pending. -/
  settingsTimer : Bool
  alwaysOn : AlwaysOn
  alwaysOnTimer : Option ℕ
  idle : Bool
  /-- The settings the state machine was started with. -/
  startedWith : TunnelSettings
  sent : List SentCommand
  exited : Option ℤ

namespace NymVpnService

def send (command : TunnelCommand) (s : NymVpnService) : NymVpnService :=
  { s with sent := s.sent ++ [⟨command, s.configManager.config⟩] }

def generateTunnelSettings (s : NymVpnService) : TunnelSettings :=
  s.configManager.config.generateTunnelSettings

def updateTunnelSettings (s : NymVpnService) : NymVpnService :=
  s.send (.setTunnelSettings s.generateTunnelSettings)

def flushTunnelSettings (s : NymVpnService) : NymVpnService :=
  if s.settingsTimer then updateTunnelSettings { s with settingsTimer := false } else s

def rearmAlwaysOnTimer (s : NymVpnService) : NymVpnService :=
  { s with alwaysOnTimer := s.alwaysOn.nextDeadline }

/-- A decision to exit leaves the process, with the firewall as it is. -/
def applyAlwaysOn (action : Action) (s : NymVpnService) : NymVpnService :=
  match action with
  | .nothing => s.rearmAlwaysOnTimer
  | .exit code => { s with exited := some code }
  | .connect =>
    (s.flushTunnelSettings.send (.connect s.relaxIndependence)).rearmAlwaysOnTimer

def superviseChange (s : NymVpnService) : NymVpnService :=
  let decision := s.alwaysOn.onConfigOrAccountChanged
  applyAlwaysOn decision.1 { s with alwaysOn := decision.2 }

/-- An update is sent at once while the tunnel is down, and after a delay otherwise. -/
def throttleTunnelSettings (s : NymVpnService) : NymVpnService :=
  match s.targetState with
  | .secured => { s with settingsTimer := true }
  | .unsecured => s.updateTunnelSettings

def updateTunnelSettingsWithThrottle (s : NymVpnService) : NymVpnService :=
  s.throttleTunnelSettings.superviseChange

def tunnelDown : TunnelState → Bool
  | .disconnected | .error _ | .offline _ => true
  | _ => false

def updateIdleHint (state : TunnelState) (s : NymVpnService) : NymVpnService :=
  { s with idle := tunnelDown state && s.targetState == .unsecured }

def adoptTargetState (target : TargetState) (relaxIndependence : Bool) (s : NymVpnService) :
    NymVpnService :=
  let s :=
    updateIdleHint s.tunnelState { s with
        targetState := target
        relaxIndependence := relaxIndependence && target == .secured }
  rearmAlwaysOnTimer { s with alwaysOn := s.alwaysOn.onTargetState target }

def setTargetState (target : TargetState) (relaxIndependence : Bool) (s : NymVpnService) :
    Bool × NymVpnService :=
  if s.targetState ≠ target ∨ s.tunnelState.isErrorState = true then
    let s := s.adoptTargetState target relaxIndependence
    match target with
    | .secured => (true, s.send (.connect relaxIndependence))
    | .unsecured => (true, s.send .disconnect)
  else (false, s)

def reconnectTunnel (s : NymVpnService) : Bool × NymVpnService :=
  match s.targetState with
  | .secured => (true, s.flushTunnelSettings.send (.connect s.relaxIndependence))
  | .unsecured => (false, s)

/-! ## Events -/

section Events

variable (jitter : ℕ → ℕ) (now : ℕ)

def superviseTunnelState (state : TunnelState) (s : NymVpnService) : NymVpnService :=
  let decision := s.alwaysOn.onTunnelState jitter now state
  applyAlwaysOn decision.1 { s with alwaysOn := decision.2 }

def handleTunnelState (state : TunnelState) (s : NymVpnService) : NymVpnService :=
  superviseTunnelState jitter now state (updateIdleHint state { s with tunnelState := state })

def handleAccountStateChange (readyToConnect : Bool) (s : NymVpnService) : NymVpnService :=
  if readyToConnect then s.superviseChange else s

def handleSettingsTimer (s : NymVpnService) : NymVpnService :=
  if s.settingsTimer then updateTunnelSettings { s with settingsTimer := false } else s

def handleAlwaysOnTimer (s : NymVpnService) : NymVpnService :=
  if s.alwaysOnTimer.any (· ≤ now) then
    let decision := s.alwaysOn.poll now
    applyAlwaysOn decision.1 { s with alwaysOn := decision.2, alwaysOnTimer := none }
  else s

end Events

/-! ## Setting commands -/

section Setters

variable (t : TextForms) (outcome : WriteOutcome)

/-- A setting is applied to the tunnel whether or not it could be saved. -/
def applySetting (saved : Except String Unit × VpnServiceConfigManager) (s : NymVpnService) :
    Except String Unit × NymVpnService :=
  (saved.1, updateTunnelSettingsWithThrottle { s with configManager := saved.2 })

def handleSetEntryPoint (entryPoint : GatewayDirectory.EntryPoint) (s : NymVpnService) :=
  s.applySetting (s.configManager.setEntryPoint t outcome entryPoint)

def handleSetExitPoint (exitPoint : GatewayDirectory.ExitPoint) (s : NymVpnService) :=
  s.applySetting (s.configManager.setExitPoint t outcome exitPoint)

def handleSetDisableIpv6 (disableIpv6 : Bool) (s : NymVpnService) :=
  s.applySetting (s.configManager.setDisableIpv6 t outcome disableIpv6)

def handleSetEnableTwoHop (enableTwoHop : Bool) (s : NymVpnService) :=
  s.applySetting (s.configManager.setEnableTwoHop t outcome enableTwoHop)

def handleSetEnableLewesProtocol (enableLewesProtocol : Bool) (s : NymVpnService) :=
  s.applySetting (s.configManager.setEnableLewesProtocol t outcome enableLewesProtocol)

def handleSetNetstack (netstack : Bool) (s : NymVpnService) :=
  s.applySetting (s.configManager.setNetstack t outcome netstack)

def handleSetAllowLan (allowLan : Bool) (s : NymVpnService) :=
  s.applySetting (s.configManager.setAllowLan t outcome allowLan)

def handleSetKillswitch (killswitch : Bool) (s : NymVpnService) :=
  s.applySetting (s.configManager.setKillswitch t outcome killswitch)

def handleSetLegacySplitTunnel (legacySplitTunnel : Bool) (s : NymVpnService) :=
  s.applySetting (s.configManager.setLegacySplitTunnel t outcome legacySplitTunnel)

def handleSetEnableGatewayIndependence (enabled : Bool) (s : NymVpnService) :=
  s.applySetting (s.configManager.setGatewayIndependenceEnabled t outcome enabled)

def handleSetInboundExemptions (exemptions : List InboundExemption) (s : NymVpnService) :=
  s.applySetting (s.configManager.setInboundExemptions t outcome exemptions)

def handleSetEnableBridges (enableBridges : Bool) (s : NymVpnService) :=
  s.applySetting (s.configManager.setEnableBridges t outcome enableBridges)

def handleSetResidentialExit (residentialExit : Bool) (s : NymVpnService) :=
  s.applySetting (s.configManager.setResidentialExit t outcome residentialExit)

def keepSetting (saved : Except String Unit × VpnServiceConfigManager) (s : NymVpnService) :
    Except String Unit × NymVpnService :=
  (saved.1, { s with configManager := saved.2 })

def handleSetStealthApi (stealthApi : Bool) (s : NymVpnService) :=
  s.keepSetting (s.configManager.setStealthApi t outcome stealthApi)

def handleSetGatewayIndependenceNotifications (enabled : Bool) (s : NymVpnService) :=
  s.keepSetting (s.configManager.setGatewayIndependenceNotifications t outcome enabled)

def handleSetEnableAdBlocking (enable : Bool) (s : NymVpnService) :=
  s.keepSetting (s.configManager.setEnableAdBlocking t outcome enable)

/-- The policy is told; switched on, it connects at once, or takes over the state the
tunnel is in. -/
def adoptAlwaysOn (jitter : ℕ → ℕ) (now : ℕ) (wasOn alwaysOn : Bool) (s : NymVpnService) :
    NymVpnService :=
  let s := { s with alwaysOn := s.alwaysOn.setEnabled alwaysOn }
  let s :=
    if alwaysOn && !wasOn then
      match s.targetState with
      | .unsecured => (s.setTargetState .secured false).2
      | .secured => s.superviseTunnelState jitter now s.tunnelState
    else s
  s.rearmAlwaysOnTimer

/-- A save that fails ends the handler before the policy is told. -/
def handleSetAlwaysOn (jitter : ℕ → ℕ) (now : ℕ) (alwaysOn : Bool) (s : NymVpnService) :
    Except String Unit × NymVpnService :=
  let saved := s.configManager.setAlwaysOn t outcome alwaysOn
  let s' := { s with configManager := saved.2 }
  match saved.1 with
  | .error e => (.error e, s')
  | .ok () => (.ok (), s'.adoptAlwaysOn jitter now s.configManager.config.alwaysOn alwaysOn)

def handleSetEnableCustomDns (enableCustomDns : Bool) (s : NymVpnService) :
    Except String Unit × NymVpnService :=
  let saved := s.configManager.setEnableCustomDns t outcome enableCustomDns
  let s := { s with configManager := saved.2 }
  let result := saved.1.map fun _ => ()
  if saved.1 ≠ .ok false ∧
      (enableCustomDns = false ∨ s.configManager.config.customDns.isEmpty = false) then
    (result, s.updateTunnelSettingsWithThrottle)
  else (result, s)

def maxCustomDnsServers : ℕ := 5

def handleSetCustomDns (customDns : List Net.IpAddr) (s : NymVpnService) :
    Except String Unit × NymVpnService :=
  let saved := s.configManager.setCustomDns t outcome (customDns.take maxCustomDnsServers)
  let s := { s with configManager := saved.2 }
  let result := saved.1.map fun _ => ()
  if saved.1 ≠ .ok false ∧ s.configManager.config.enableCustomDns = true then
    (result, s.updateTunnelSettingsWithThrottle)
  else (result, s)

/-- The update is sent only when the setting was saved. -/
def handleSetMixnetTrafficConfig (mixnetTraffic : MixnetTrafficConfig) (s : NymVpnService) :
    Except String Unit × NymVpnService :=
  let saved := s.configManager.setMixnetTrafficConfig t outcome mixnetTraffic
  let s := { s with configManager := saved.2 }
  match saved.1 with
  | .ok () => (.ok (), s.updateTunnelSettingsWithThrottle)
  | .error e => (.error e, s)

end Setters

end NymVpnService

/-! ## Inputs -/

inductive SetCommand where
  | entryPoint (entryPoint : GatewayDirectory.EntryPoint)
  | exitPoint (exitPoint : GatewayDirectory.ExitPoint)
  | disableIpv6 (disableIpv6 : Bool)
  | enableTwoHop (enableTwoHop : Bool)
  | enableLewesProtocol (enableLewesProtocol : Bool)
  | netstack (netstack : Bool)
  | allowLan (allowLan : Bool)
  | killswitch (killswitch : Bool)
  | legacySplitTunnel (legacySplitTunnel : Bool)
  | stealthApi (stealthApi : Bool)
  | alwaysOn (alwaysOn : Bool)
  | enableGatewayIndependence (enabled : Bool)
  | gatewayIndependenceNotifications (enabled : Bool)
  | inboundExemptions (exemptions : List InboundExemption)
  | enableBridges (enableBridges : Bool)
  | residentialExit (residentialExit : Bool)
  | enableCustomDns (enableCustomDns : Bool)
  | customDns (customDns : List Net.IpAddr)
  | enableAdBlocking (enable : Bool)
  | mixnetTrafficConfig (mixnetTraffic : MixnetTrafficConfig)
deriving DecidableEq

inductive LoopInput where
  | set (outcome : WriteOutcome) (command : SetCommand)
  | setTargetState (target : TargetState)
  | connectTunnel (relaxIndependence : Bool)
  | reconnect
  /-- A command, or an event, that touches neither the settings nor the tunnel. -/
  | other
  | tunnelState (state : TunnelState)
  | accountState (readyToConnect : Bool)
  | settingsTimer
  | alwaysOnTimer

/-- An input with the time it is handled at and the jitter of a retry it schedules. -/
structure LoopStep where
  input : LoopInput
  now : ℕ
  jitter : ℕ → ℕ

namespace NymVpnService

variable (t : TextForms)

def handleSet (jitter : ℕ → ℕ) (now : ℕ) (outcome : WriteOutcome) (s : NymVpnService) :
    SetCommand → Except String Unit × NymVpnService
  | .entryPoint v => s.handleSetEntryPoint t outcome v
  | .exitPoint v => s.handleSetExitPoint t outcome v
  | .disableIpv6 v => s.handleSetDisableIpv6 t outcome v
  | .enableTwoHop v => s.handleSetEnableTwoHop t outcome v
  | .enableLewesProtocol v => s.handleSetEnableLewesProtocol t outcome v
  | .netstack v => s.handleSetNetstack t outcome v
  | .allowLan v => s.handleSetAllowLan t outcome v
  | .killswitch v => s.handleSetKillswitch t outcome v
  | .legacySplitTunnel v => s.handleSetLegacySplitTunnel t outcome v
  | .stealthApi v => s.handleSetStealthApi t outcome v
  | .alwaysOn v => s.handleSetAlwaysOn t outcome jitter now v
  | .enableGatewayIndependence v => s.handleSetEnableGatewayIndependence t outcome v
  | .gatewayIndependenceNotifications v =>
    s.handleSetGatewayIndependenceNotifications t outcome v
  | .inboundExemptions v => s.handleSetInboundExemptions t outcome v
  | .enableBridges v => s.handleSetEnableBridges t outcome v
  | .residentialExit v => s.handleSetResidentialExit t outcome v
  | .enableCustomDns v => s.handleSetEnableCustomDns t outcome v
  | .customDns v => s.handleSetCustomDns t outcome v
  | .enableAdBlocking v => s.handleSetEnableAdBlocking t outcome v
  | .mixnetTrafficConfig v => s.handleSetMixnetTrafficConfig t outcome v

def handle (jitter : ℕ → ℕ) (now : ℕ) (s : NymVpnService) : LoopInput → NymVpnService
  | .set outcome command => (s.handleSet t jitter now outcome command).2
  | .setTargetState target => (s.setTargetState target false).2
  | .connectTunnel relaxIndependence => (s.setTargetState .secured relaxIndependence).2
  | .reconnect => s.reconnectTunnel.2
  | .other => s
  | .tunnelState state => s.handleTunnelState jitter now state
  | .accountState readyToConnect => s.handleAccountStateChange readyToConnect
  | .settingsTimer => s.handleSettingsTimer
  | .alwaysOnTimer => s.handleAlwaysOnTimer now

def step (s : NymVpnService) (i : LoopStep) : NymVpnService :=
  if s.exited.isSome then s else s.handle t i.jitter i.now i.input

def new (m : VpnServiceConfigManager) : NymVpnService where
  configManager := m
  targetState := .unsecured
  relaxIndependence := false
  tunnelState := .disconnected
  settingsTimer := false
  alwaysOn := .new m.config.alwaysOn
  alwaysOnTimer := none
  idle := false
  startedWith := m.config.generateTunnelSettings
  sent := []
  exited := none

def start (m : VpnServiceConfigManager) : NymVpnService :=
  let s := (new m).updateIdleHint .disconnected
  if s.alwaysOn.enabled then (s.setTargetState .secured false).2 else s

def run (s : NymVpnService) (steps : List LoopStep) : NymVpnService :=
  steps.foldl (step t) s

end NymVpnService

end VpnService
