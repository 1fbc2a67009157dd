import NymVpn.Account.Controller
import NymVpn.Service.Pending

/-!
# Always On and the refresh of the account

The service follows the account through a channel that keeps the latest state, which every
turn that enters a state publishes. This is an interval of the two running side by side in
which the service handles no command.
-/

namespace VpnService

open AccountController (Controller ControllerState)

structure Composed where
  service : NymVpnService
  account : Controller
  /-- A state has been published that the service has not handled. -/
  unseen : Bool

inductive IntervalEvent where
  | accountTurn (input : AccountController.Input)
  | accountState
  | tunnelState (state : TunnelState)
  | settingsTimer
  | alwaysOnTimer

structure IntervalStep where
  event : IntervalEvent
  now : ℕ
  jitter : ℕ → ℕ

def IntervalStep.isTunnelState (i : IntervalStep) : Bool :=
  match i.event with
  | .tunnelState _ => true
  | _ => false

def publishes (c : Controller) (i : AccountController.Input) : Bool :=
  !c.finished && match (c.state.handleEvent i c.shared).next with
    | .newState _ => true
    | _ => false

namespace Composed

def step (t : TextForms) (c : Composed) (i : IntervalStep) : Composed :=
  match i.event with
  | .accountTurn input =>
    { c with
      account := c.account.step input
      unseen := c.unseen || publishes c.account input }
  | .accountState =>
    if c.unseen then
      { c with
        service :=
          c.service.step t ⟨.accountState (c.account.published == .readyToConnect), i.now, i.jitter⟩
        unseen := false }
    else c
  | .tunnelState state =>
    { c with service := c.service.step t ⟨.tunnelState state, i.now, i.jitter⟩ }
  | .settingsTimer => { c with service := c.service.step t ⟨.settingsTimer, i.now, i.jitter⟩ }
  | .alwaysOnTimer => { c with service := c.service.step t ⟨.alwaysOnTimer, i.now, i.jitter⟩ }

def run (t : TextForms) (c : Composed) (steps : List IntervalStep) : Composed :=
  steps.foldl (step t) c

end Composed

namespace NymVpnService

def connects (s : NymVpnService) : ℕ :=
  s.sent.countP fun e =>
    match e.command with
    | .connect _ => true
    | _ => false

/-- A latch is kept, nothing is sent to connect behind it, and the errors of the
infrastructure stay counted unless the tunnel says otherwise. -/
structure Undisturbed (fromTunnel : Bool) (before after : NymVpnService) : Prop where
  latched : before.alwaysOn.latched = true → after.alwaysOn.latched = true
  connects : before.alwaysOn.latched = true → after.connects = before.connects
  streak : fromTunnel = false →
    after.alwaysOn.infrastructureStreak = before.alwaysOn.infrastructureStreak

end NymVpnService

namespace AlwaysOn

/-- A change that is reported now cuts a wait short: a latch, or a backoff after errors of
the infrastructure. -/
def Interrupted (a : AlwaysOn) : Prop :=
  a.supervising = true ∧ (a.lastSeen = .error ∨ a.lastSeen = .disconnected) ∧
    (a.latched = true ∨ (a.nextRetryAt.isSome = true ∧ a.infrastructureStreak ≠ 0))

/-- The timer connects when it fires: a retry is due, or the tunnel has been connecting for
too long. -/
def DueAt (now : ℕ) (a : AlwaysOn) : Prop :=
  a.supervising = true ∧
    if a.nextRetryAt.any (· ≤ now) then a.lastSeen = .error ∨ a.lastSeen = .disconnected
    else a.lastSeen = .connecting ∧ a.connectingSince.any (· + longConnecting ≤ now) = true

end AlwaysOn

/-- The step touches a latch or the count of the errors: the account is reported ready while
Always On waits, its timer is due behind a latch, or the tunnel comes up behind a latch. -/
def Composed.Disturbs (c : Composed) (i : IntervalStep) : Prop :=
  match i.event with
  | .accountState =>
    c.unseen = true ∧ c.account.published = .readyToConnect ∧ c.service.alwaysOn.Interrupted
  | .alwaysOnTimer =>
    c.service.alwaysOn.latched = true ∧ c.service.alwaysOnTimer.any (· ≤ i.now) = true ∧
      c.service.alwaysOn.DueAt i.now
  | .tunnelState .connected => c.service.alwaysOn.latched = true
  | _ => False

namespace NymVpnService

variable {s : NymVpnService} {t : TextForms}

/-! ## Connects that are sent -/

@[simp]
theorem connects_send_connect (relax : Bool) :
    (s.send (.connect relax)).connects = s.connects + 1 := by
  simp [connects, send]

@[simp]
theorem connects_updateTunnelSettings : s.updateTunnelSettings.connects = s.connects := by
  simp [connects, send, updateTunnelSettings]

@[simp]
theorem connects_flushTunnelSettings : s.flushTunnelSettings.connects = s.connects := by
  unfold flushTunnelSettings
  split
  · rw [connects_updateTunnelSettings]
    rfl
  · rfl

@[simp]
theorem connects_applyAlwaysOn (action : Action) :
    (s.applyAlwaysOn action).connects = s.connects + if action = .connect then 1 else 0 := by
  cases action with
  | nothing | exit code => rfl
  | connect =>
    change ((s.flushTunnelSettings.send _).connects) = _
    simp

@[simp]
theorem alwaysOn_flushTunnelSettings (s : NymVpnService) :
    s.flushTunnelSettings.alwaysOn = s.alwaysOn := by
  unfold flushTunnelSettings
  split <;> rfl

@[simp]
theorem alwaysOn_applyAlwaysOn (action : Action) :
    (s.applyAlwaysOn action).alwaysOn = s.alwaysOn := by
  cases action with
  | nothing | exit code => rfl
  | connect => exact alwaysOn_flushTunnelSettings s

end NymVpnService

/-! ## What a call of the policy keeps -/

namespace AlwaysOn

variable {a : AlwaysOn}

/-- A latch stays and no connect is asked for behind it, and the errors of the infrastructure
stay counted unless the tunnel says otherwise. -/
structure Kept (fromTunnel : Bool) (a : AlwaysOn) (decision : Action × AlwaysOn) : Prop where
  latched : a.latched = true → decision.2.latched = true
  connects : a.latched = true → decision.1 ≠ .connect
  streak : fromTunnel = false → decision.2.infrastructureStreak = a.infrastructureStreak

theorem kept_nothing (fromTunnel : Bool) (a : AlwaysOn) : a.Kept fromTunnel (.nothing, a) :=
  ⟨id, nofun, fun _ => rfl⟩

theorem kept_onConfigOrAccountChanged_iff :
    a.Kept false a.onConfigOrAccountChanged ↔ ¬a.Interrupted := by
  unfold onConfigOrAccountChanged
  split
  next hidle =>
    refine ⟨fun _ hinterrupted => ?_, fun _ => kept_nothing false a⟩
    obtain ⟨hsupervising, hdown, _⟩ := hinterrupted
    simp only [hsupervising, Bool.not_true, Bool.false_or, Bool.not_eq_true', Bool.or_eq_false_iff,
      beq_eq_false_iff_ne] at hidle
    exact hdown.elim hidle.1 hidle.2
  next hbusy =>
    have hdown : a.supervising = true ∧ (a.lastSeen = .error ∨ a.lastSeen = .disconnected) := by
      simpa [or_iff_not_imp_left] using hbusy
    split
    next hwaits =>
      -- the wait is cut short, which shows unless there was nothing to lose
      constructor
      · rintro hkept ⟨_, _, hlatched | ⟨_, hstreak⟩⟩
        · cases hkept.latched hlatched
        · exact hstreak (hkept.streak rfl).symm
      · intro hnot
        have hunlatched : a.latched = false := by
          by_contra hlatched
          exact hnot ⟨hdown.1, hdown.2, Or.inl (by simpa using hlatched)⟩
        have hretry : a.nextRetryAt.isSome = true := by simpa [hunlatched] using hwaits
        refine ⟨by simp [hunlatched], by simp [hunlatched], fun _ => ?_⟩
        by_contra hstreak
        exact hnot ⟨hdown.1, hdown.2, Or.inr ⟨hretry, fun hzero => hstreak hzero.symm⟩⟩
    next hrests =>
      refine ⟨fun _ hinterrupted => ?_, fun _ => kept_nothing false a⟩
      obtain ⟨_, _, hlatched | ⟨hretry, _⟩⟩ := hinterrupted
      · simp [hlatched] at hrests
      · simp [hretry] at hrests

theorem kept_poll_iff {now : ℕ} :
    a.Kept false (a.poll now) ↔ ¬(a.latched = true ∧ a.DueAt now) := by
  unfold poll DueAt
  cases hsupervising : a.supervising with
  | false => simpa using kept_nothing false a
  | true =>
    simp only [if_true, true_and]
    split
    next hretry =>
      constructor
      · rintro hkept ⟨hlatched, hdown⟩
        exact hkept.connects hlatched (if_pos hdown)
      · intro hnot
        refine ⟨id, fun hlatched hconnect => ?_, fun _ => rfl⟩
        have hup : ¬(a.lastSeen = .error ∨ a.lastSeen = .disconnected) := fun hdown =>
          hnot ⟨hlatched, hdown⟩
        simp only [if_neg hup] at hconnect
        cases hconnect
    next hretry =>
      split
      next hconnecting =>
        constructor
        · rintro hkept ⟨hlatched, _⟩
          exact hkept.connects hlatched rfl
        · intro hnot
          exact ⟨id, fun hlatched _ => hnot ⟨hlatched, hconnecting⟩, fun _ => rfl⟩
      next hconnecting =>
        exact ⟨fun _ hdue => hconnecting hdue.2, fun _ => kept_nothing false a⟩

theorem kept_onError {b : AlwaysOn} (hb : b.latched = a.latched) (now : ℕ) (jitter : ℕ → ℕ)
    (reason : TunnelStateMachine.ErrorStateReason) : a.Kept true (b.onError jitter now reason) := by
  unfold onError
  split
  · dsimp only
    split <;> exact ⟨hb.trans, nofun, nofun⟩
  · exact ⟨hb.trans, nofun, nofun⟩
  · exact ⟨fun _ => rfl, nofun, nofun⟩

theorem kept_onTunnelState_iff (now : ℕ) (jitter : ℕ → ℕ) (state : TunnelState) :
    a.Kept true (a.onTunnelState jitter now state) ↔ ¬(state = .connected ∧ a.latched = true) := by
  by_cases hstate : state = .connected
  · subst hstate
    exact ⟨fun hkept h => (nomatch hkept.latched h.2),
      fun hnot => ⟨fun hlatched => absurd ⟨rfl, hlatched⟩ hnot, nofun, nofun⟩⟩
  refine iff_of_true ?_ fun h => hstate h.1
  unfold onTunnelState
  cases state with
  | connected => exact absurd rfl hstate
  | disconnecting => exact ⟨id, nofun, nofun⟩
  | connecting | disconnected =>
    dsimp only
    split <;> exact ⟨id, nofun, nofun⟩
  | offline reconnect =>
    dsimp only
    split
    next hreconnects =>
      refine ⟨id, fun hlatched => ?_, nofun⟩
      simp [hlatched] at hreconnects
    · exact ⟨id, nofun, nofun⟩
  | error reason =>
    dsimp only
    split
    · exact kept_onError (by rfl) now jitter reason
    · exact ⟨id, nofun, nofun⟩

end AlwaysOn

/-! ## What a step of the interval keeps -/

namespace NymVpnService

variable {s : NymVpnService} {t : TextForms} {now : ℕ}

theorem undisturbed_refl (fromTunnel : Bool) (s : NymVpnService) : Undisturbed fromTunnel s s :=
  ⟨id, fun _ => rfl, fun _ => rfl⟩

theorem undisturbed_applyAlwaysOn_iff {fromTunnel : Bool} {decision : Action × AlwaysOn}
    {after : NymVpnService} (hconnects : after.connects = s.connects)
    (halwaysOn : after.alwaysOn = decision.2) :
    Undisturbed fromTunnel s (after.applyAlwaysOn decision.1) ↔
      s.alwaysOn.Kept fromTunnel decision := by
  constructor
  · rintro ⟨hlatched, hsent, hstreak⟩
    rw [alwaysOn_applyAlwaysOn, halwaysOn] at hlatched hstreak
    refine ⟨hlatched, fun hbefore hconnect => ?_, hstreak⟩
    have hcount := hsent hbefore
    rw [connects_applyAlwaysOn, hconnects, if_pos hconnect] at hcount
    omega
  · rintro ⟨hlatched, hsent, hstreak⟩
    refine ⟨?_, fun hbefore => ?_, ?_⟩
    · rwa [alwaysOn_applyAlwaysOn, halwaysOn]
    · rw [connects_applyAlwaysOn, hconnects, if_neg (hsent hbefore), Nat.add_zero]
    · rwa [alwaysOn_applyAlwaysOn, halwaysOn]

theorem undisturbed_accountState_iff (ready : Bool) :
    Undisturbed false s (s.handleAccountStateChange ready) ↔
      ¬(ready = true ∧ s.alwaysOn.Interrupted) := by
  unfold handleAccountStateChange
  cases ready with
  | false => simpa using undisturbed_refl false s
  | true =>
    simp only [if_true, true_and]
    rw [← AlwaysOn.kept_onConfigOrAccountChanged_iff]
    exact undisturbed_applyAlwaysOn_iff rfl rfl

theorem undisturbed_tunnelState_iff {jitter : ℕ → ℕ} (state : TunnelState) :
    Undisturbed true s (s.handleTunnelState jitter now state) ↔
      ¬(state = .connected ∧ s.alwaysOn.latched = true) := by
  rw [← AlwaysOn.kept_onTunnelState_iff now jitter state]
  exact undisturbed_applyAlwaysOn_iff rfl rfl

theorem undisturbed_settingsTimer : Undisturbed false s s.handleSettingsTimer := by
  unfold handleSettingsTimer
  split
  · refine ⟨id, fun _ => ?_, fun _ => rfl⟩
    rw [connects_updateTunnelSettings]
    rfl
  · exact undisturbed_refl false s

theorem undisturbed_alwaysOnTimer_iff :
    Undisturbed false s (s.handleAlwaysOnTimer now) ↔
      ¬(s.alwaysOn.latched = true ∧ s.alwaysOnTimer.any (· ≤ now) = true ∧
        s.alwaysOn.DueAt now) := by
  unfold handleAlwaysOnTimer
  split
  next hfires =>
    simp only [hfires, true_and]
    rw [← AlwaysOn.kept_poll_iff]
    exact undisturbed_applyAlwaysOn_iff rfl rfl
  next hrests => simpa [hrests] using undisturbed_refl false s

end NymVpnService

namespace Composed

open NymVpnService

variable {t : TextForms} {c : Composed}

def Undisturbed (t : TextForms) (c : Composed) (i : IntervalStep) : Prop :=
  NymVpnService.Undisturbed i.isTunnelState c.service (c.step t i).service

theorem undisturbed_iff (i : IntervalStep) :
    c.Undisturbed t i ↔ (c.service.exited = none → ¬c.Disturbs i) := by
  obtain ⟨event, now, jitter⟩ := i
  cases hexited : c.service.exited with
  | some code =>
    have hservice : (c.step t ⟨event, now, jitter⟩).service = c.service := by
      unfold Composed.step
      cases event <;> simp [step_of_exited hexited]
      split <;> rfl
    rw [Undisturbed, hservice]
    exact iff_of_true (undisturbed_refl _ _) nofun
  | none =>
    have hstep (input : LoopInput) := step_of_running (t := t) (i := ⟨input, now, jitter⟩) hexited
    simp only [forall_const]
    cases event with
    | accountTurn input => exact ⟨fun _ h => h, fun _ => undisturbed_refl _ _⟩
    | accountState =>
      change NymVpnService.Undisturbed false c.service (if _ then _ else c : Composed).service ↔
        ¬(c.unseen = true ∧ c.account.published = .readyToConnect ∧ _)
      cases hunseen : c.unseen with
      | false => simpa using undisturbed_refl false c.service
      | true =>
        simp only [if_true, true_and, hstep]
        rw [← beq_iff_eq (a := c.account.published)]
        exact undisturbed_accountState_iff (c.account.published == .readyToConnect)
    | tunnelState state =>
      change NymVpnService.Undisturbed true c.service (c.service.step t _) ↔ _
      rw [hstep]
      refine (undisturbed_tunnelState_iff state).trans (not_congr ?_)
      cases state <;> simp [Disturbs]
    | settingsTimer =>
      change NymVpnService.Undisturbed false c.service (c.service.step t _) ↔ _
      rw [hstep]
      exact ⟨fun _ h => h, fun _ => undisturbed_settingsTimer⟩
    | alwaysOnTimer =>
      change NymVpnService.Undisturbed false c.service (c.service.step t _) ↔ _
      rw [hstep]
      exact undisturbed_alwaysOnTimer_iff

/-- In an interval without commands, Always On keeps its latch, connects to nothing behind it
and forgets no error of the infrastructure, exactly when no step disturbs it. -/
theorem undisturbed_throughout_iff (t : TextForms) (c : Composed) (steps : List IntervalStep) :
    (∀ past i, past ++ [i] <+: steps → (c.run t past).Undisturbed t i) ↔
      ∀ past i, past ++ [i] <+: steps →
        (c.run t past).service.exited = none → ¬(c.run t past).Disturbs i :=
  forall₂_congr fun _ i => imp_congr_right fun _ => undisturbed_iff i

def accountAnswers : AccountController.Answers where
  generateNew := .ok ⟨"n1new", false⟩
  existsOnChain := .ok true
  registerAccount := .ok ()
  decentralisedZkNym := .ok ()
  storeAccount := .ok ⟨"device"⟩
  resetKeys := .ok ⟨"device"⟩
  forgetAccount := .ok ()
  resetCredentials := .ok ()
  clearKeys := .ok ()
  removeFiles := .ok ()
  overrideResolver := .ok ()
  allAboveMinimalThreshold := .ok true
  allNonEmpty := .ok true
  upgradeModeJwt := .ok none
  removeUpgradeModeJwts := .ok ()

def synced (now : ℕ) : List AccountController.Input :=
  [⟨.synced (some ⟨some ⟨none, 0, 0, none⟩, .ok ()⟩), accountAnswers, now⟩,
    ⟨.fetched (some (.ok .sufficientBandwidth)), accountAnswers, now⟩]

/-- The account becomes ready, Always On is switched on, the tunnel connects, and the exit
gateway is none that exists. -/
def latched : Composed :=
  let ready := (Composed.mk firstService
      (.new (some ⟨"n1account", false⟩) (some ⟨"device"⟩) false 0) false).run plainForms
    ((synced 0).map (fun i => ⟨.accountTurn i, i.now, id⟩) ++ [⟨.accountState, 0, id⟩])
  let service := ready.service.run plainForms
    [atOnce (.set .written (.alwaysOn true)), atOnce (.connectTunnel false)]
  { ready with service }.run plainForms [⟨.tunnelState .connecting, 0, id⟩,
    ⟨.tunnelState (.error .invalidExitGatewayIdentity), 0, id⟩]

def timedRecheck : List IntervalStep :=
  ((⟨.timer, accountAnswers, 120000⟩ :: synced 120000).map fun i => ⟨.accountTurn i, i.now, id⟩) ++
    [⟨.accountState, 120000, id⟩]

/-- The re-check finds the account as it was, and Always On connects from behind its latch. -/
theorem recheck_lifts_latch :
    let c := latched
    let after := c.run plainForms timedRecheck
    after.account.shared.vpnApiAccount = c.account.shared.vpnApiAccount ∧
      after.account.shared.device = c.account.shared.device ∧
      after.account.shared.vpnAccountSummary = c.account.shared.vpnAccountSummary ∧
      c.account.published = .readyToConnect ∧ after.account.published = .readyToConnect ∧
      c.service.alwaysOn.latched = true ∧ after.service.alwaysOn.latched = false ∧
      after.service.connects = c.service.connects + 1 := by
  decide

end Composed

end VpnService
