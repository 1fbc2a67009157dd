import NymVpn.Tunnel.World

/-!
# Always On

The policy that keeps the tunnel up while the daemon runs: it decides when the service
connects again. Times are in milliseconds.
-/

namespace VpnService

open TunnelStateMachine (ErrorStateReason)

inductive TargetState where
  | unsecured
  | secured
deriving DecidableEq

inductive TunnelState where
  | disconnected
  | connecting
  | connected
  | disconnecting
  | error (reason : ErrorStateReason)
  | offline (reconnect : Bool)
deriving DecidableEq

def TunnelState.isErrorState : TunnelState → Bool
  | .error _ => true
  | _ => false

namespace AlwaysOn

def backoffBase : ℕ := 5000

def backoffCap : ℕ := 300000

def jitterPercent : ℕ := 20

def environmentalFirstRetry : ℕ := 60000

def environmentalRetry : ℕ := 300000

def longConnecting : ℕ := 600000

def maxInfrastructureErrors : ℕ := 6

def exitCodeInfrastructure : ℤ := 3

end AlwaysOn

inductive Action where
  | nothing
  | connect
  | exit (code : ℤ)
deriving DecidableEq

inductive ErrorClass where
  | infrastructure
  | environmental
  | terminal
deriving DecidableEq

def classify : ErrorStateReason → ErrorClass
  | .setFirewallPolicy | .setRouting | .setDns | .tunDevice | .tunnelProvider | .internal _ =>
    .infrastructure
  | .performantEntryGatewayUnavailable | .performantExitGatewayUnavailable
  | .deviceTimeOutOfSync | .bandwidthExceeded | .credentialWastedOnEntryGateway
  | .credentialWastedOnExitGateway => .environmental
  | .sameEntryAndExitGateway | .needsRelaxedIndependenceCriteria | .invalidEntryGatewayIdentity
  | .invalidExitGatewayIdentity | .invalidEntryGatewayCountry | .invalidExitGatewayCountry
  | .ipv6Unavailable | .inactiveAccount | .inactiveSubscription | .maxDevicesReached
  | .deviceLoggedOut => .terminal

def reasonIdent : ErrorStateReason → String
  | .setFirewallPolicy => "SetFirewallPolicy"
  | .setRouting => "SetRouting"
  | .setDns => "SetDns"
  | .tunDevice => "TunDevice"
  | .tunnelProvider => "TunnelProvider"
  | .ipv6Unavailable => "Ipv6Unavailable"
  | .sameEntryAndExitGateway => "SameEntryAndExitGateway"
  | .needsRelaxedIndependenceCriteria => "NeedsRelaxedIndependenceCriteria"
  | .performantEntryGatewayUnavailable => "PerformantEntryGatewayUnavailable"
  | .performantExitGatewayUnavailable => "PerformantExitGatewayUnavailable"
  | .invalidEntryGatewayIdentity => "InvalidEntryGatewayIdentity"
  | .invalidExitGatewayIdentity => "InvalidExitGatewayIdentity"
  | .invalidEntryGatewayCountry => "InvalidEntryGatewayCountry"
  | .invalidExitGatewayCountry => "InvalidExitGatewayCountry"
  | .credentialWastedOnEntryGateway => "CredentialWastedOnEntryGateway"
  | .credentialWastedOnExitGateway => "CredentialWastedOnExitGateway"
  | .bandwidthExceeded => "BandwidthExceeded"
  | .inactiveAccount => "InactiveAccount"
  | .inactiveSubscription => "InactiveSubscription"
  | .maxDevicesReached => "MaxDevicesReached"
  | .deviceTimeOutOfSync => "DeviceTimeOutOfSync"
  | .deviceLoggedOut => "DeviceLoggedOut"
  | .internal _ => "Internal"

structure AlwaysOnStatus where
  enabled : Bool
  active : Bool
  paused : Bool
  attempt : ℕ
  nextRetryIn : Option ℕ
  lastError : Option ErrorStateReason
  latchedReason : Option String

inductive Seen where
  | disconnected
  | connecting
  | connected
  | disconnecting
  | error
  | offline
deriving DecidableEq

structure AlwaysOn where
  enabled : Bool
  target : TargetState
  lastSeen : Seen
  infrastructureStreak : ℕ
  environmentalStreak : ℕ
  attempt : ℕ
  nextRetryAt : Option ℕ
  connectingSince : Option ℕ
  lastError : Option ErrorStateReason
  latched : Bool

namespace AlwaysOn

def new (enabled : Bool) : AlwaysOn where
  enabled
  target := .unsecured
  lastSeen := .disconnected
  infrastructureStreak := 0
  environmentalStreak := 0
  attempt := 0
  nextRetryAt := none
  connectingSince := none
  lastError := none
  latched := false

def resetSeries (a : AlwaysOn) : AlwaysOn :=
  { a with infrastructureStreak := 0, environmentalStreak := 0, attempt := 0, nextRetryAt := none }

def setEnabled (enabled : Bool) (a : AlwaysOn) : AlwaysOn :=
  if a.enabled = enabled then a
  else
    { a.resetSeries with
      enabled
      latched := false
      connectingSince := none
      lastError := if enabled then a.lastError else none }

def onTargetState (target : TargetState) (a : AlwaysOn) : AlwaysOn :=
  { a.resetSeries with target, latched := false, connectingSince := none }

def supervising (a : AlwaysOn) : Bool := a.enabled && a.target == .secured

/-- The delay before a retry; `jitter` picks an offset in the span it is given. A shift
by the width of the word or more counts as the largest factor. -/
def backoff (jitter : ℕ → ℕ) (exponent : ℕ) : ℕ :=
  let base := min (backoffBase * if exponent < 32 then 2 ^ exponent else 2 ^ 32 - 1) backoffCap
  let low := base - base * jitterPercent / 100
  let span := base * jitterPercent / 100 * 2
  low + min (jitter span) span

def schedule (delay now : ℕ) (a : AlwaysOn) : AlwaysOn :=
  { a with attempt := a.attempt + 1, nextRetryAt := some (now + delay) }

def onError (jitter : ℕ → ℕ) (now : ℕ) (reason : ErrorStateReason) (a : AlwaysOn) :
    Action × AlwaysOn :=
  match classify reason with
  | .infrastructure =>
    let streak := a.infrastructureStreak + 1
    let a := { a with environmentalStreak := 0, infrastructureStreak := streak }
    if streak ≥ maxInfrastructureErrors then (.exit exitCodeInfrastructure, a)
    else (.nothing, a.schedule (backoff jitter (streak - 1)) now)
  | .environmental =>
    let delay := if a.environmentalStreak = 0 then environmentalFirstRetry else environmentalRetry
    let a :=
      { a with infrastructureStreak := 0, environmentalStreak := a.environmentalStreak + 1 }
    (.nothing, a.schedule delay now)
  | .terminal => (.nothing, { a.resetSeries with latched := true })

def onTunnelState (jitter : ℕ → ℕ) (now : ℕ) (state : TunnelState) (a : AlwaysOn) :
    Action × AlwaysOn :=
  match state with
  | .connected =>
    (.nothing, { a.resetSeries with
      lastSeen := .connected, connectingSince := none, lastError := none, latched := false })
  | .connecting =>
    -- A route that came back is no retry of ours.
    let b := if a.lastSeen = .offline then a.resetSeries else a
    (.nothing, { b with
      lastSeen := .connecting
      nextRetryAt := none
      connectingSince := some (a.connectingSince.getD now) })
  | .disconnecting => (.nothing, { a with lastSeen := .disconnecting })
  | .offline reconnect =>
    let a := { a with lastSeen := .offline, nextRetryAt := none, connectingSince := none }
    if a.supervising && !reconnect && !a.latched then (.connect, a) else (.nothing, a)
  | .error reason =>
    let a := { a with lastSeen := .error, connectingSince := none, lastError := some reason }
    if a.supervising then a.onError jitter now reason
    else (.nothing, { a with nextRetryAt := none })
  | .disconnected =>
    let a := { a with lastSeen := .disconnected, connectingSince := none }
    if a.supervising && !a.latched then
      (.nothing, a.schedule (backoff jitter a.infrastructureStreak) now)
    else (.nothing, a)

def onConfigOrAccountChanged (a : AlwaysOn) : Action × AlwaysOn :=
  if !a.supervising || !(a.lastSeen == .error || a.lastSeen == .disconnected) then (.nothing, a)
  else if a.latched || a.nextRetryAt.isSome then
    (.connect, { a.resetSeries with latched := false })
  else (.nothing, a)

def nextDeadline (a : AlwaysOn) : Option ℕ :=
  if a.supervising then
    let connecting :=
      if a.lastSeen = .connecting then a.connectingSince.map (· + longConnecting) else none
    match a.nextRetryAt, connecting with
    | some x, some y => some (min x y)
    | x, y => x.or y
  else none

def poll (now : ℕ) (a : AlwaysOn) : Action × AlwaysOn :=
  if a.supervising then
    if a.nextRetryAt.any (· ≤ now) then
      (if a.lastSeen = .error ∨ a.lastSeen = .disconnected then .connect else .nothing,
        { a with nextRetryAt := none })
    else if a.lastSeen = .connecting ∧ a.connectingSince.any (· + longConnecting ≤ now) then
      (.connect, { a with connectingSince := some now })
    else (.nothing, a)
  else (.nothing, a)

def status (now : ℕ) (a : AlwaysOn) : AlwaysOnStatus :=
  let active := a.supervising
  { enabled := a.enabled
    active
    paused := a.enabled && a.target == .unsecured
    attempt := if active then a.attempt else 0
    nextRetryIn := if active then a.nextRetryAt.map (· - now) else none
    lastError := a.lastError
    latchedReason := if active && a.latched then a.lastError.map reasonIdent else none }

/-! ## What the policy never changes -/

section Kept

variable {jitter : ℕ → ℕ} {now : ℕ} {a : AlwaysOn}

@[simp]
theorem enabled_setEnabled (enabled : Bool) : (a.setEnabled enabled).enabled = enabled := by
  unfold setEnabled
  split
  · next h => exact h
  · rfl

theorem onError_spec (reason : ErrorStateReason) :
    let r := a.onError jitter now reason
    r.2.enabled = a.enabled ∧ r.2.lastSeen = a.lastSeen ∧
      (r.2.latched = if classify reason = .terminal then true else a.latched) ∧
      (r.2.infrastructureStreak =
        if classify reason = .infrastructure then a.infrastructureStreak + 1 else 0) ∧
      r.1 = if classify reason = .infrastructure ∧
          maxInfrastructureErrors ≤ a.infrastructureStreak + 1 then .exit exitCodeInfrastructure
        else .nothing := by
  unfold onError
  cases classify reason with
  | infrastructure =>
    simp only [ge_iff_le, true_and]
    split <;> exact ⟨rfl, rfl, rfl, rfl, rfl⟩
  | environmental | terminal => exact ⟨rfl, rfl, rfl, rfl, rfl⟩

@[simp]
theorem enabled_onTunnelState (state : TunnelState) :
    (a.onTunnelState jitter now state).2.enabled = a.enabled := by
  unfold onTunnelState
  cases state with
  | connecting | offline reconnect | disconnected => simp only; split <;> rfl
  | error reason =>
    simp only
    split
    · exact (onError_spec reason).1
    · rfl
  | _ => rfl

theorem onConfigOrAccountChanged_spec :
    let r := a.onConfigOrAccountChanged
    r.2.enabled = a.enabled ∧ r.2.lastSeen = a.lastSeen ∧
      (r.2.infrastructureStreak = if r.1 = .connect then 0 else a.infrastructureStreak) ∧
      ∀ code, r.1 ≠ .exit code := by
  unfold onConfigOrAccountChanged
  split
  · exact ⟨rfl, rfl, rfl, nofun⟩
  · split <;> exact ⟨rfl, rfl, rfl, nofun⟩

theorem poll_spec :
    let r := a.poll now
    r.2.enabled = a.enabled ∧ r.2.lastSeen = a.lastSeen ∧
      r.2.infrastructureStreak = a.infrastructureStreak ∧ ∀ code, r.1 ≠ .exit code := by
  unfold poll
  split
  · split
    · exact ⟨rfl, rfl, rfl, fun code => by dsimp only; split <;> nofun⟩
    · split <;> exact ⟨rfl, rfl, rfl, nofun⟩
  · exact ⟨rfl, rfl, rfl, nofun⟩

end Kept

end AlwaysOn

end VpnService
