import NymVpn.Service.AlwaysOn

/-!
# Always On over every sequence of calls

The policy hands over to procd after six infrastructure errors in a row, and at no other
time. While it is in charge and the tunnel is down, a retry is due or it has answered.
-/

namespace VpnService

open TunnelStateMachine (ErrorStateReason)

namespace AlwaysOn

inductive Call where
  | setEnabled (enabled : Bool)
  | targetState (target : TargetState)
  | tunnelState (jitter : ℕ → ℕ) (state : TunnelState) (now : ℕ)
  | configOrAccountChanged
  | poll (now : ℕ)

/-- A call that returns nothing counts as the action `nothing`. -/
def handle (a : AlwaysOn) : Call → Action × AlwaysOn
  | .setEnabled enabled => (.nothing, a.setEnabled enabled)
  | .targetState target => (.nothing, a.onTargetState target)
  | .tunnelState jitter state now => a.onTunnelState jitter now state
  | .configOrAccountChanged => a.onConfigOrAccountChanged
  | .poll now => a.poll now

def after (enabled : Bool) : List Call → AlwaysOn
  | [] => .new enabled
  | c :: past => ((after enabled past).handle c).2

structure Entry where
  before : AlwaysOn
  call : Call
  action : Action

def history (enabled : Bool) : List Call → List Entry
  | [] => []
  | c :: past =>
    ⟨after enabled past, c, ((after enabled past).handle c).1⟩ :: history enabled past

/-! ## Escalation -/

@[simp] def Call.isInfrastructureError : Call → Bool
  | .tunnelState _ (.error reason) _ => classify reason == .infrastructure
  | _ => false

@[simp] def Entry.counts (e : Entry) : Bool := e.call.isInfrastructureError && e.before.supervising

def lastTunnelState : List Entry → Option TunnelState
  | [] => none
  | ⟨_, .tunnelState _ state _, _⟩ :: _ => some state
  | _ :: past => lastTunnelState past

def isOffline : TunnelState → Bool
  | .offline _ => true
  | _ => false

/-- Whether the call breaks a series of errors, after the earlier calls. -/
def Entry.isBreak (e : Entry) (past : List Entry) : Bool :=
  match e.call with
  | .setEnabled enabled => e.before.enabled != enabled
  | .targetState _ => true
  | .tunnelState _ .connected _ => true
  | .tunnelState _ .connecting _ => (lastTunnelState past).any isOffline
  | .tunnelState _ (.error reason) _ =>
    e.before.supervising && classify reason != .infrastructure
  | .configOrAccountChanged => e.action == .connect
  | _ => false

def errorsSinceBreak : List Entry → ℕ
  | [] => 0
  | e :: past =>
    if e.isBreak past then 0 else errorsSinceBreak past + if e.counts then 1 else 0

section Streak

variable {jitter : ℕ → ℕ} {now : ℕ} {a : AlwaysOn} {enabled : Bool} {past : List Call}

theorem supervising_iff : a.supervising = true ↔ a.enabled = true ∧ a.target = .secured := by
  simp [supervising]

def seen : TunnelState → Seen
  | .disconnected => .disconnected
  | .connecting => .connecting
  | .connected => .connected
  | .disconnecting => .disconnecting
  | .error _ => .error
  | .offline _ => .offline

variable (reason : ErrorStateReason) (calls : List Call) (state : TunnelState) {es : List Entry}
  {code : ℤ}

theorem lastSeen_onTunnelState : (a.onTunnelState jitter now state).2.lastSeen = seen state := by
  unfold onTunnelState
  cases state with
  | error reason =>
    simp only
    split
    · exact (onError_spec reason).2.1
    · rfl
  | offline reconnect | disconnected => simp only; split <;> rfl
  | _ => rfl

theorem lastSeen_after : (after enabled calls).lastSeen =
    ((lastTunnelState (history enabled calls)).map seen).getD .disconnected := by
  induction calls with
  | nil => rfl
  | cons c past ih =>
    cases c with
    | setEnabled b =>
      refine Eq.trans ?_ ih
      simp only [after, handle, setEnabled]
      split <;> rfl
    | targetState target => exact ih
    | tunnelState jitter state now => exact lastSeen_onTunnelState state
    | configOrAccountChanged => exact onConfigOrAccountChanged_spec.2.1.trans ih
    | poll now => exact poll_spec.2.1.trans ih

theorem lastSeen_eq_offline_iff : (after enabled calls).lastSeen = .offline ↔
    (lastTunnelState (history enabled calls)).any isOffline = true := by
  rw [lastSeen_after]
  cases lastTunnelState (history enabled calls) with
  | none => simp
  | some state => cases state <;> simp [seen, isOffline]

theorem infrastructureStreak_error :
    (a.onTunnelState jitter now (.error reason)).2.infrastructureStreak = if a.supervising then
        if classify reason = .infrastructure then a.infrastructureStreak + 1 else 0
      else a.infrastructureStreak := by
  unfold onTunnelState
  simp only
  change (if a.supervising = true then _ else _ : Action × AlwaysOn).2.infrastructureStreak = _
  split
  · exact (onError_spec reason).2.2.2.1
  · rfl

theorem infrastructureStreak_handle
    (hoffline : a.lastSeen = .offline ↔ (lastTunnelState es).any isOffline = true) (c : Call) :
    (a.handle c).2.infrastructureStreak =
      if (⟨a, c, (a.handle c).1⟩ : Entry).isBreak es then 0
      else a.infrastructureStreak + if (⟨a, c, (a.handle c).1⟩ : Entry).counts then 1 else 0 := by
  cases c with
  | setEnabled b =>
    by_cases h : a.enabled = b <;> simp [handle, setEnabled, resetSeries, Entry.isBreak, h]
  | targetState target => rfl
  | configOrAccountChanged =>
    refine onConfigOrAccountChanged_spec.2.2.1.trans ?_
    simp [Entry.isBreak, handle]
  | poll now => exact poll_spec.2.2.1
  | tunnelState jitter state now =>
    cases state with
    | connected | disconnecting => rfl
    | connecting =>
      have hstreak : (a.onTunnelState jitter now .connecting).2.infrastructureStreak =
          if a.lastSeen = .offline then 0 else a.infrastructureStreak := by
        unfold onTunnelState
        simp only
        split <;> rfl
      refine hstreak.trans ?_
      simp [Entry.isBreak, hoffline]
    | error reason =>
      refine (infrastructureStreak_error reason).trans ?_
      simp only [Entry.isBreak, Entry.counts, Call.isInfrastructureError]
      by_cases hsup : a.supervising = true <;>
        by_cases hclass : classify reason = .infrastructure <;> simp [hsup, hclass]
    | disconnected | offline reconnect =>
      change (a.onTunnelState jitter now _).2.infrastructureStreak = a.infrastructureStreak
      unfold onTunnelState
      simp only
      split <;> rfl

theorem infrastructureStreak_after :
    (after enabled calls).infrastructureStreak = errorsSinceBreak (history enabled calls) := by
  induction calls with
  | nil => rfl
  | cons c past ih =>
    rw [history, errorsSinceBreak, ← ih]
    exact infrastructureStreak_handle (lastSeen_eq_offline_iff past) c

/-! Where the actions come from. -/

theorem action_onTunnelState_eq_exit_iff :
    (a.onTunnelState jitter now state).1 = .exit code ↔ ∃ reason, state = .error reason ∧
      a.supervising = true ∧ classify reason = .infrastructure ∧
        maxInfrastructureErrors ≤ a.infrastructureStreak + 1 ∧ code = exitCodeInfrastructure := by
  unfold onTunnelState
  cases state with
  | error reason =>
    simp only [TunnelState.error.injEq, exists_eq_left']
    change (if a.supervising = true then _ else _ : Action × AlwaysOn).1 = _ ↔ _
    split
    · next hsup =>
        rw [(onError_spec _).2.2.2.2]
        simp only [hsup, true_and]
        split
        · next h => simp [h, eq_comm]
        · next h => simp [← and_assoc, h]
    · next hsup => simp [hsup]
  | offline reconnect | disconnected => simp only; split <;> simp
  | _ => simp

theorem action_handle_eq_exit_iff (c : Call) : (a.handle c).1 = .exit code ↔
    c.isInfrastructureError = true ∧ a.supervising = true ∧
      maxInfrastructureErrors ≤ a.infrastructureStreak + 1 ∧ code = exitCodeInfrastructure := by
  cases c with
  | setEnabled b | targetState target => simp [handle]
  | configOrAccountChanged => simp [handle, onConfigOrAccountChanged_spec.2.2.2]
  | poll now => simp [handle, poll_spec.2.2.2]
  | tunnelState jitter state now =>
    rw [handle, action_onTunnelState_eq_exit_iff]
    cases state with
    | error reason =>
      simp only [TunnelState.error.injEq, exists_eq_left', Call.isInfrastructureError, beq_iff_eq]
      tauto
    | _ => simp

theorem action_handle_of_not_supervising (h : a.supervising = false) (c : Call) :
    (a.handle c).1 = .nothing := by
  cases c with
  | setEnabled b | targetState target => rfl
  | configOrAccountChanged => simp [handle, onConfigOrAccountChanged, h]
  | poll now => simp [handle, poll, h]
  | tunnelState jitter state now =>
    have hsup (b : AlwaysOn) (henabled : b.enabled = a.enabled) (htarget : b.target = a.target) :
        b.supervising = false := by
      rw [supervising, henabled, htarget]
      exact h
    cases state with
    | error reason | offline reconnect | disconnected => simp [handle, onTunnelState, hsup]
    | _ => rfl

theorem isBreak_of_isInfrastructureError {c : Call} {action : Action}
    (h : c.isInfrastructureError = true) : (⟨a, c, action⟩ : Entry).isBreak es = false := by
  cases c with
  | tunnelState jitter state now =>
    cases state with
    | error reason =>
      have hclass : classify reason = .infrastructure := by
        simpa using h
      simp [Entry.isBreak, hclass]
    | _ => cases h
  | _ => cases h

end Streak

/-- The policy hands over exactly at the sixth infrastructure error since the last break, and
does nothing while it is off or the tunnel is not wanted. -/
theorem exits_iff_six_errors (enabled : Bool) (past : List Call) (c : Call) :
    let a := after enabled past
    ((∃ code, (a.handle c).1 = .exit code) ↔ c.isInfrastructureError = true ∧ a.enabled = true ∧
      a.target = .secured ∧ 6 ≤ errorsSinceBreak (history enabled (c :: past))) ∧
    (a.enabled = false ∨ a.target = .unsecured →
      (a.handle c).1 = .nothing ∧ a.nextDeadline = none) := by
  intro a
  have hstreak : a.infrastructureStreak = errorsSinceBreak (history enabled past) :=
    infrastructureStreak_after past
  refine ⟨?_, fun h => ?_⟩
  · have hcount (herror : c.isInfrastructureError = true) (hsup : a.supervising = true) :
        errorsSinceBreak (history enabled (c :: past)) = a.infrastructureStreak + 1 := by
      rw [history, errorsSinceBreak, isBreak_of_isInfrastructureError herror, hstreak]
      simp [-Call.isInfrastructureError, herror, hsup, a]
    simp only [action_handle_eq_exit_iff, exists_and_left, exists_eq, and_true]
    rw [← and_assoc (a := a.enabled = true), ← supervising_iff]
    refine and_congr_right fun herror => and_congr_right fun hsup => ?_
    rw [hcount herror hsup]
    rfl
  · have hsup : a.supervising = false := by
      rcases h with h | h <;> simp [supervising, h]
    exact ⟨action_handle_of_not_supervising hsup c, by simp [nextDeadline, hsup]⟩

/-! ## No silence -/

def Call.isTunnelState : Call → Bool
  | .tunnelState _ _ _ => true
  | _ => false

/-- Since the last tunnel state the policy connected or handed over, or the user asked for
the tunnel. -/
def Answered : List Entry → Prop
  | [] => False
  | e :: past => e.action ≠ .nothing ∨ e.call = .targetState .secured ∨
      e.call.isTunnelState = false ∧ Answered past

/-- The tunnel is down, the policy is in charge, and nothing holds it back. -/
structure Due (a : AlwaysOn) : Prop where
  enabled : a.enabled = true
  secured : a.target = .secured
  down : a.lastSeen = .error ∨ a.lastSeen = .disconnected
  unlatched : a.latched = false

/-- A retry is set, and the timer fires by then. -/
def Armed (a : AlwaysOn) : Prop :=
  ∃ retry deadline, a.nextRetryAt = some retry ∧ a.nextDeadline = some deadline ∧ deadline ≤ retry

/-- A call that switches the policy on while the tunnel is wanted is followed by one with the
state the tunnel is in. -/
def Adopts (enabled : Bool) (calls : List Call) : Prop :=
  ∀ later earlier, calls = later ++ .setEnabled true :: earlier →
    (after enabled earlier).enabled = false → (after enabled earlier).target = .secured →
      ∃ next rest, later = rest ++ [next] ∧ next.isTunnelState = true

section Silence

variable {jitter : ℕ → ℕ} {now : ℕ} {a : AlwaysOn} {enabled : Bool}

theorem armed_of_nextRetryAt {retry : ℕ} (hsup : a.supervising = true)
    (h : a.nextRetryAt = some retry) : a.Armed := by
  unfold Armed nextDeadline
  rw [if_pos hsup, h]
  cases (if a.lastSeen = .connecting then a.connectingSince.map (· + longConnecting) else none) with
  | none => exact ⟨retry, retry, rfl, rfl, Nat.le_refl _⟩
  | some since => exact ⟨retry, min retry since, rfl, rfl, Nat.min_le_left _ _⟩

theorem Due.supervising (h : a.Due) : a.supervising = true :=
  supervising_iff.2 ⟨h.enabled, h.secured⟩

theorem armed_or_exit_of_onError (reason : ErrorStateReason)
    (h : (a.onError jitter now reason).2.Due) :
    (a.onError jitter now reason).2.Armed ∨ (a.onError jitter now reason).1 ≠ .nothing := by
  have hsup := h.supervising
  revert h hsup
  unfold onError
  cases classify reason with
  | infrastructure =>
    simp only
    split
    · exact fun _ _ => Or.inr (by simp)
    · exact fun _ hsup => Or.inl (armed_of_nextRetryAt hsup rfl)
  | environmental => exact fun _ hsup => Or.inl (armed_of_nextRetryAt hsup rfl)
  | terminal =>
    intro h
    cases h.unlatched

/-- A state in which the tunnel is down is answered at once, or a retry is set. -/
theorem armed_or_answers_of_onTunnelState (state : TunnelState)
    (h : (a.onTunnelState jitter now state).2.Due) :
    (a.onTunnelState jitter now state).2.Armed ∨
      (a.onTunnelState jitter now state).1 ≠ .nothing := by
  have hdown := h.down
  rw [lastSeen_onTunnelState] at hdown
  have hsup := h.supervising
  revert h hsup
  unfold onTunnelState
  cases state with
  | error reason =>
    simp only
    split
    · exact fun h _ => armed_or_exit_of_onError reason h
    · next hidle => exact fun _ hsup => absurd hsup hidle
  | disconnected =>
    simp only
    split
    · exact fun _ hsup => Or.inl (armed_of_nextRetryAt hsup rfl)
    · next hidle =>
        intro h hsup
        refine absurd ?_ hidle
        rw [hsup, h.unlatched]
        rfl
  | _ => simp [seen] at hdown

theorem poll_eq_of_due (h : (a.poll now).2.Due) :
    (a.poll now).1 ≠ .nothing ∨ (a.poll now).2 = a := by
  have hdown := h.down
  rw [poll_spec.2.1] at hdown
  unfold poll
  split
  · split
    · exact Or.inl (by simp)
    · split
      · next hconnecting => simp [hconnecting.1] at hdown
      · exact Or.inr rfl
  · exact Or.inr rfl

theorem onConfigOrAccountChanged_eq :
    a.onConfigOrAccountChanged.1 ≠ .nothing ∨ a.onConfigOrAccountChanged.2 = a := by
  unfold onConfigOrAccountChanged
  split
  · exact Or.inr rfl
  · split
    · exact Or.inl (by simp)
    · exact Or.inr rfl

theorem Adopts.tail {c : Call} {past : List Call} (h : Adopts enabled (c :: past))
    (hc : c.isTunnelState = false) : Adopts enabled past := by
  intro later earlier heq hoff hsecured
  obtain ⟨next, rest, hlater, hnext⟩ := h (c :: later) earlier (by rw [heq]; rfl) hoff hsecured
  cases rest with
  | nil =>
    obtain ⟨rfl, -⟩ := List.cons.inj hlater
    rw [hc] at hnext
    cases hnext
  | cons d rest => exact ⟨next, rest, (List.cons.inj hlater).2, hnext⟩

/-- While the policy is in charge of a tunnel that is down and does not hold back, a retry is
set with its timer, or the policy has answered, or the user asked for the tunnel. -/
theorem armed_or_answered {enabled : Bool} {calls : List Call} (hadopts : Adopts enabled calls)
    (hdue : (after enabled calls).Due) :
    (after enabled calls).Armed ∨ Answered (history enabled calls) := by
  induction calls with
  | nil => cases hdue.secured
  | cons c past ih =>
    -- A call that leaves the policy as it was leaves what was answered before it.
    have hkeep (hc : c.isTunnelState = false)
        (hsame : ((after enabled past).handle c).2 = after enabled past) :
        (after enabled (c :: past)).Armed ∨ Answered (history enabled (c :: past)) := by
      have hafter : after enabled (c :: past) = after enabled past := hsame
      rw [hafter] at hdue ⊢
      exact (ih (hadopts.tail hc) hdue).imp_right fun h => Or.inr (Or.inr ⟨hc, h⟩)
    cases c with
    | tunnelState jitter state now =>
      exact (armed_or_answers_of_onTunnelState state hdue).imp_right Or.inl
    | targetState target =>
      have hsecured : target = .secured := hdue.secured
      exact Or.inr (Or.inr (Or.inl (by rw [hsecured])))
    | configOrAccountChanged =>
      rcases onConfigOrAccountChanged_eq with hanswers | hsame
      · exact Or.inr (Or.inl hanswers)
      · exact hkeep rfl hsame
    | poll now =>
      rcases poll_eq_of_due hdue with hanswers | hsame
      · exact Or.inr (Or.inl hanswers)
      · exact hkeep rfl hsame
    | setEnabled b =>
      by_cases hchange : (after enabled past).enabled = b
      · exact hkeep rfl (if_pos hchange)
      · have hafter : after enabled (.setEnabled b :: past) = _ := if_neg hchange
        rw [hafter] at hdue
        obtain rfl : b = true := hdue.enabled
        have hoff : (after enabled past).enabled = false := by simpa using hchange
        obtain ⟨next, rest, hnil, -⟩ := hadopts [] past rfl hoff hdue.secured
        simp at hnil

def switchedOn : List Call :=
  [.tunnelState (fun _ => 0) (.error .setDns) 9000, .setEnabled true,
    .tunnelState (fun _ => 0) (.error .setDns) 5000, .targetState .secured]

theorem armed_or_answered_example : (after false switchedOn).Due ∧
    ((after false switchedOn).Armed ∨ Answered (history false switchedOn)) := by
  have hadopts : Adopts false switchedOn := by
    intro later earlier heq _ _
    rcases later with _ | ⟨first, _ | ⟨second, later⟩⟩
    · cases heq
    · obtain ⟨rfl, -⟩ := List.cons.inj heq
      exact ⟨_, [], rfl, rfl⟩
    · have hmem : Call.setEnabled true ∈ switchedOn.drop 2 := by
        rw [heq]
        simp
      simp [switchedOn] at hmem
  have hdue : (after false switchedOn).Due := ⟨rfl, rfl, Or.inl rfl, rfl⟩
  exact ⟨hdue, armed_or_answered hadopts hdue⟩

end Silence

/-! ## Retry delays -/

/-- The result of an operation on words of `w` bits, unless it overflows. -/
def checked (w n : ℕ) : Option ℕ := if n < 2 ^ w then some n else none

def checkedSub (m n : ℕ) : Option ℕ := if n ≤ m then some (m - n) else none

/-- The delay with each operation in its own width; `none` where one overflows or goes below
zero. The product is one of whole seconds, and its own overflow is caught by the cap. -/
def checkedBackoff (jitter : ℕ → ℕ) (exponent : ℕ) : Option ℕ := do
  let factor := if exponent < 32 then (1 <<< exponent) % 2 ^ 32 else 2 ^ 32 - 1
  let product := (checked 64 (backoffBase / 1000 * factor)).map (· * 1000)
  let base := min (product.getD backoffCap) backoffCap % 2 ^ 64
  let scaled ← checked 64 (base * jitterPercent)
  let low ← checkedSub base (scaled / 100)
  let span ← checked 64 (scaled / 100 * 2)
  checked 64 (low + min (jitter span) span)

section Delays

variable {jitter : ℕ → ℕ} {a : AlwaysOn}

theorem checkedBackoff_eq_backoff (jitter : ℕ → ℕ) (exponent : ℕ) :
    checkedBackoff jitter exponent = some (backoff jitter exponent) := by
  have hshift (h : exponent < 32) : (1 <<< exponent) % 2 ^ 32 = 2 ^ exponent := by
    rw [Nat.one_shiftLeft, Nat.mod_eq_of_lt (Nat.pow_lt_pow_right (by decide) h)]
  have hfactor : (if exponent < 32 then (1 <<< exponent) % 2 ^ 32 else 2 ^ 32 - 1) =
      if exponent < 32 then 2 ^ exponent else 2 ^ 32 - 1 := by
    split
    · next h => exact hshift h
    · rfl
  have hle : (if exponent < 32 then 2 ^ exponent else 2 ^ 32 - 1) < 2 ^ 32 := by
    split
    · next h => exact Nat.pow_lt_pow_right (by decide) h
    · decide
  unfold checkedBackoff backoff
  rw [hfactor]
  dsimp only
  generalize (if exponent < 32 then 2 ^ exponent else 2 ^ 32 - 1) = factor at hle ⊢
  have hproduct : (checked 64 (backoffBase / 1000 * factor)).map (· * 1000) =
      some (backoffBase * factor) := by
    rw [checked, if_pos (by unfold backoffBase; omega), Option.map_some]
    congr 1
    unfold backoffBase
    omega
  have hbase : min (backoffBase * factor) backoffCap ≤ 300000 := Nat.min_le_right _ _
  rw [hproduct, Option.getD_some, Nat.mod_eq_of_lt (by omega)]
  generalize min (backoffBase * factor) backoffCap = base at hbase ⊢
  have hscaled : base * jitterPercent < 2 ^ 64 := by unfold jitterPercent; omega
  have hshare : base * jitterPercent / 100 ≤ base := by unfold jitterPercent; omega
  have hspan := Nat.min_le_right (jitter (base * jitterPercent / 100 * 2))
    (base * jitterPercent / 100 * 2)
  simp only [checked, checkedSub, bind, Option.bind, if_pos hscaled, if_pos hshare]
  rw [if_pos (by omega)]
  exact if_pos (by omega)

theorem backoff_mem_range (jitter : ℕ → ℕ) (n : ℕ) :
    80 * min (5000 * 2 ^ n) 300000 ≤ 100 * backoff jitter n ∧
      100 * backoff jitter n ≤ 120 * min (5000 * 2 ^ n) 300000 := by
  -- From the sixth doubling on the cap is in force, whatever the factor is.
  have hbase : min (backoffBase * if n < 32 then 2 ^ n else 2 ^ 32 - 1) backoffCap =
      5000 * min (2 ^ n) 60 := by
    unfold backoffBase backoffCap
    split
    · omega
    · next h =>
        have hlarge : 2 ^ 32 ≤ 2 ^ n := Nat.pow_le_pow_right (by decide) (Nat.not_lt.1 h)
        omega
  have hspan := Nat.min_le_right (jitter (5000 * min (2 ^ n) 60 * jitterPercent / 100 * 2))
    (5000 * min (2 ^ n) 60 * jitterPercent / 100 * 2)
  unfold backoff
  rw [hbase]
  dsimp only
  unfold jitterPercent at hspan ⊢
  omega

/-- A tunnel that is down by an infrastructure error or by being disconnected sets a retry with
the delay of the errors before, or none. -/
theorem schedules_of_down {state : TunnelState} (now : ℕ) (hdown : state = .disconnected ∨
      ∃ reason, state = .error reason ∧ classify reason = .infrastructure) :
    let b := (a.onTunnelState jitter now state).2
    b.attempt = a.attempt ∧ (b.nextRetryAt = none ∨ b.nextRetryAt = a.nextRetryAt) ∨
      b.attempt = a.attempt + 1 ∧
        b.nextRetryAt = some (now + backoff jitter a.infrastructureStreak) := by
  rcases hdown with rfl | ⟨reason, rfl, hclass⟩
  · simp only [onTunnelState]
    split
    · exact .inr ⟨rfl, rfl⟩
    · exact .inl ⟨rfl, .inr rfl⟩
  · simp only [onTunnelState, onError, hclass]
    split
    · split
      · exact .inl ⟨rfl, .inr rfl⟩
      · exact .inr ⟨rfl, rfl⟩
    · exact .inl ⟨rfl, .inl rfl⟩

end Delays

/-- A retry that is set after an infrastructure error or a disconnection is due within a fifth
of five seconds, doubled for each error before and capped at five minutes. Nothing overflows. -/
theorem retries_in_range :
    (∀ enabled past jitter state now, state = .disconnected ∨
        (∃ reason, state = .error reason ∧ classify reason = .infrastructure) →
      let a := after enabled past
      let b := after enabled (.tunnelState jitter state now :: past)
      let base := min (5000 * 2 ^ errorsSinceBreak (history enabled past)) 300000
      b.attempt = a.attempt ∧ (b.nextRetryAt = none ∨ b.nextRetryAt = a.nextRetryAt) ∨
        b.attempt = a.attempt + 1 ∧ ∃ delay, b.nextRetryAt = some (now + delay) ∧
          80 * base ≤ 100 * delay ∧ 100 * delay ≤ 120 * base) ∧
    ∀ jitter exponent, checkedBackoff jitter exponent = some (backoff jitter exponent) := by
  refine ⟨fun enabled past jitter state now hdown => ?_, checkedBackoff_eq_backoff⟩
  refine (schedules_of_down now hdown).imp_right fun h => ⟨h.1, _, h.2, ?_⟩
  rw [infrastructureStreak_after]
  exact backoff_mem_range jitter _

theorem retries_in_range_second_error : ∃ delay,
    (after true [.tunnelState (fun _ => 700) (.error .setDns) 9000,
      .tunnelState (fun _ => 0) (.error .tunDevice) 2000, .targetState .secured]).nextRetryAt =
        some (9000 + delay) ∧ 8000 ≤ delay ∧ delay ≤ 12000 := by
  rcases retries_in_range.1 true
      [.tunnelState (fun _ => 0) (.error .tunDevice) 2000, .targetState .secured] (fun _ => 700)
      (.error .setDns) 9000 (.inr ⟨_, rfl, rfl⟩) with hnone | ⟨-, delay, hretry, hlow, hhigh⟩
  · exact absurd hnone.1 (by decide)
  · have hstreak : errorsSinceBreak (history true
        [.tunnelState (fun _ => 0) (.error .tunDevice) 2000, .targetState .secured]) = 1 := by
      decide
    rw [hstreak] at hlow hhigh
    exact ⟨delay, hretry, by omega, by omega⟩

end AlwaysOn

end VpnService
