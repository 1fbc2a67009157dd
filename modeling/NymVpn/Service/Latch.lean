import NymVpn.Service.Supervision

/-!
# The latch and the status

A terminal error latches the policy: nothing is retried until the user, the account or the
configuration changes something. A user who reconnects runs another attempt under the latch,
and an error of another class then schedules a retry.
-/

namespace VpnService

open TunnelStateMachine (ErrorStateReason)

namespace AlwaysOn

def Entry.latches (e : Entry) : Option ErrorStateReason :=
  match e.call with
  | .tunnelState _ (.error reason) _ =>
    if e.before.supervising && classify reason == .terminal then some reason else none
  | _ => none

def latchedBy (es : List Entry) : Option ErrorStateReason := es.findSome? Entry.latches

/-- The status reports no retry beside a latch and names the error that set it, and a
retry that is due under a latch does not connect. -/
structure Consistent (latch : Option ErrorStateReason) (a : AlwaysOn) : Prop where
  exclusive : ∀ now, (a.status now).latchedReason = none ∨ (a.status now).nextRetryIn = none
  named : ∀ now name, (a.status now).latchedReason = some name →
    ∃ reason, latch = some reason ∧ classify reason = .terminal ∧ name = reasonIdent reason
  quiet : ∀ now, a.latched = true → a.nextRetryAt.any (· ≤ now) = true → (a.poll now).1 ≠ .connect

def disturbsLatch (a : AlwaysOn) : Call → Bool
  | .tunnelState _ (.error reason) _ => a.latched && classify reason != .terminal
  | _ => false

def LatchRespected (es : List Entry) : Prop := ∀ e ∈ es, e.before.disturbsLatch e.call = false

section Latched

variable {latch : Option ErrorStateReason} {a b : AlwaysOn} {jitter : ℕ → ℕ} {now : ℕ}
  {reason : ErrorStateReason} {es : List Entry}

/-- A policy that is latched is in charge and waits for nothing; its last error is the
one that set the latch. -/
structure Latched (latch : Option ErrorStateReason) (a : AlwaysOn) : Prop where
  supervising : a.supervising = true
  nextRetryAt : a.nextRetryAt = none
  infrastructureStreak : a.infrastructureStreak = 0
  reason : ∃ reason, latch = some reason ∧ classify reason = .terminal ∧ a.lastError = some reason

theorem consistent_of_latched (h : a.latched = true → a.Latched latch) : a.Consistent latch := by
  by_cases hlatched : a.latched = true
  · obtain ⟨hsupervising, hretry, -, reason, hlatch, hterminal, herror⟩ := h hlatched
    refine ⟨fun now => Or.inr ?_, fun now name hname => ⟨reason, hlatch, hterminal, ?_⟩, ?_⟩
    · simp [status, hretry]
    · have hreason : some (reasonIdent reason) = some name := by
        simpa [status, hsupervising, hlatched, herror] using hname
      exact (Option.some.inj hreason).symm
    · simp [hretry]
  · have hnone : ∀ now, (a.status now).latchedReason = none := fun now => by
      simp [status, hlatched]
    refine ⟨fun now => Or.inl (hnone now), fun now name hname => ?_, fun now h => ?_⟩
    · cases (hnone now).symm.trans hname
    · exact absurd h hlatched

theorem Latched.of_eq (h : a.Latched latch) (hsupervising : b.supervising = a.supervising)
    (hretry : b.nextRetryAt = none ∨ b.nextRetryAt = a.nextRetryAt)
    (hstreak : b.infrastructureStreak = 0 ∨ b.infrastructureStreak = a.infrastructureStreak)
    (herror : b.lastError = a.lastError) : b.Latched latch := by
  rw [h.nextRetryAt, or_self] at hretry
  rw [h.infrastructureStreak, or_self] at hstreak
  exact ⟨hsupervising.trans h.supervising, hretry, hstreak, herror ▸ h.reason⟩

theorem not_consistent (hlatched : a.latched = true) (hsupervising : a.supervising = true)
    (hretry : a.nextRetryAt.isSome = true) (herror : a.lastError.isSome = true) :
    ¬a.Consistent latch := by
  intro h
  obtain ⟨due, hdue⟩ := Option.isSome_iff_exists.1 hretry
  obtain ⟨reason, hreason⟩ := Option.isSome_iff_exists.1 herror
  have hexclusive := h.exclusive 0
  simp [status, hlatched, hsupervising, hdue, hreason] at hexclusive

def noteError (a : AlwaysOn) (reason : ErrorStateReason) : AlwaysOn :=
  { a with lastSeen := .error, connectingSince := none, lastError := some reason }

theorem onTunnelState_error (reason : ErrorStateReason) :
    a.onTunnelState jitter now (.error reason) =
      if a.supervising then (a.noteError reason).onError jitter now reason
      else (.nothing, { a.noteError reason with nextRetryAt := none }) := rfl

theorem retries_onError (h : classify reason ≠ .terminal)
    (hstreak : a.infrastructureStreak = 0) :
    (a.onError jitter now reason).2.nextRetryAt.isSome = true ∧
      (a.onError jitter now reason).2.lastError = a.lastError ∧
      (a.onError jitter now reason).2.supervising = a.supervising := by
  unfold onError
  cases hclass : classify reason with
  | infrastructure => simp [hstreak, maxInfrastructureErrors, schedule, supervising]
  | environmental => exact ⟨rfl, rfl, rfl⟩
  | terminal => exact absurd hclass h

theorem latched_error {action : Action}
    (h : a.latched = true → a.Latched (latchedBy es))
    (hc : a.disturbsLatch (.tunnelState jitter (.error reason) now) = false)
    (hlatched : (a.onTunnelState jitter now (.error reason)).2.latched = true) :
    (a.onTunnelState jitter now (.error reason)).2.Latched
      (latchedBy (⟨a, .tunnelState jitter (.error reason) now, action⟩ :: es)) := by
  rw [onTunnelState_error] at hlatched ⊢
  by_cases hsupervising : a.supervising = true
  · rw [if_pos hsupervising] at hlatched ⊢
    by_cases hclass : classify reason = .terminal
    · have hlatch : latchedBy (⟨a, .tunnelState jitter (.error reason) now, action⟩ :: es) =
          some reason := by
        simp [latchedBy, Entry.latches, hsupervising, hclass]
      rw [hlatch]
      simp only [onError, hclass]
      exact ⟨hsupervising, rfl, rfl, reason, rfl, hclass, rfl⟩
    · rw [(onError_spec _).2.2.1, if_neg hclass] at hlatched
      have hlatched : a.latched = true := hlatched
      simp [disturbsLatch, hlatched, hclass] at hc
  · rw [if_neg hsupervising] at hlatched
    exact absurd (h hlatched).supervising hsupervising

/-- What a call keeps of a latch: it clears it, or sets it anew, or leaves it. -/
theorem Latched.handle (h : a.latched = true → a.Latched (latchedBy es))
    (c : Call) (hc : a.disturbsLatch c = false) :
    (a.handle c).2.latched = true →
      (a.handle c).2.Latched (latchedBy (⟨a, c, (a.handle c).1⟩ :: es)) := by
  cases c with
  | setEnabled enabled =>
    simp only [AlwaysOn.handle, setEnabled]
    split
    · exact h
    · rintro ⟨⟩
  | targetState target => rintro ⟨⟩
  | configOrAccountChanged =>
    simp only [AlwaysOn.handle, onConfigOrAccountChanged]
    split
    · exact h
    · split
      · rintro ⟨⟩
      · exact h
  | poll now =>
    simp only [AlwaysOn.handle, poll]
    split
    · split
      · exact fun hlatched => (h hlatched).of_eq rfl (.inl rfl) (.inr rfl) rfl
      · split
        · exact fun hlatched => (h hlatched).of_eq rfl (.inr rfl) (.inr rfl) rfl
        · exact h
    · exact h
  | tunnelState jitter state now =>
    cases state with
    | connected => rintro ⟨⟩
    | connecting =>
      simp only [AlwaysOn.handle, onTunnelState]
      split
      · exact fun hlatched => (h hlatched).of_eq rfl (.inl rfl) (.inl rfl) rfl
      · exact fun hlatched => (h hlatched).of_eq rfl (.inl rfl) (.inr rfl) rfl
    | disconnecting => exact fun hlatched => (h hlatched).of_eq rfl (.inr rfl) (.inr rfl) rfl
    | offline reconnect =>
      simp only [AlwaysOn.handle, onTunnelState]
      split <;> exact fun hlatched => (h hlatched).of_eq rfl (.inl rfl) (.inr rfl) rfl
    | disconnected =>
      simp only [AlwaysOn.handle, onTunnelState]
      split
      · next hfree =>
          intro (hlatched : a.latched = true)
          simp [hlatched] at hfree
      · exact fun hlatched => (h hlatched).of_eq rfl (.inr rfl) (.inr rfl) rfl
    | error reason => exact latched_error h hc

/-- An error that is not terminal schedules a retry under the latch, and the status names
it as the reason. -/
theorem not_consistent_of_disturbs {c : Call} (h : a.Latched latch)
    (hc : a.disturbsLatch c = true) {latch' : Option ErrorStateReason} :
    ¬(a.handle c).2.Consistent latch' := by
  cases c with
  | tunnelState jitter state now =>
    cases state with
    | error reason =>
      obtain ⟨hlatched, hclass⟩ : a.latched = true ∧ classify reason ≠ .terminal := by
        simpa [disturbsLatch] using hc
      have hstreak : (a.noteError reason).infrastructureStreak = 0 := h.infrastructureStreak
      obtain ⟨hretry, herror, hsupervising⟩ := retries_onError hclass hstreak
      rw [AlwaysOn.handle, onTunnelState_error, if_pos h.supervising]
      refine not_consistent (((onError_spec _).2.2.1.trans (if_neg hclass)).trans hlatched)
        (hsupervising.trans h.supervising) hretry ?_
      rw [herror]
      rfl
    | _ => cases hc
  | _ => cases hc

end Latched

section Runs

variable {enabled : Bool} {past : List Call}

theorem latched_after (h : LatchRespected (history enabled past)) :
    (after enabled past).latched = true →
      (after enabled past).Latched (latchedBy (history enabled past)) := by
  induction past with
  | nil => exact nofun
  | cons c past ih =>
    have hkept := ih fun e he => h e (List.mem_cons_of_mem _ he)
    exact Latched.handle hkept c (h _ List.mem_cons_self)

/-- As long as no other error is reported under a latch the status is consistent; the next
call keeps it so exactly if it is not such an error. -/
theorem status_consistent_iff (h : LatchRespected (history enabled past)) (c : Call) :
    (after enabled past).Consistent (latchedBy (history enabled past)) ∧
      ((after enabled (c :: past)).Consistent (latchedBy (history enabled (c :: past))) ↔
        (after enabled past).disturbsLatch c = false) := by
  have hlatched := latched_after h
  refine ⟨consistent_of_latched hlatched, ?_⟩
  cases hc : (after enabled past).disturbsLatch c with
  | false =>
    refine iff_of_true (consistent_of_latched ?_) rfl
    exact Latched.handle hlatched c hc
  | true =>
    refine iff_of_false (not_consistent_of_disturbs (hlatched ?_) hc) nofun
    cases c with
    | tunnelState jitter state now =>
      cases state with
      | error reason => exact (Bool.and_eq_true _ _ ▸ hc).1
      | _ => cases hc
    | _ => cases hc

end Runs

def reconnectCalls : List Call :=
  [.tunnelState (fun _ => 0) .connecting 1000,
    .tunnelState (fun _ => 0) (.error .inactiveSubscription) 0, .targetState .secured]

theorem status_consistent_iff_reconnect : LatchRespected (history true reconnectCalls) ∧
    (after true (.poll 2000 :: reconnectCalls)).Consistent
      (latchedBy (history true (.poll 2000 :: reconnectCalls))) := by
  have h : LatchRespected (history true reconnectCalls) := by
    simp [LatchRespected, history, reconnectCalls, disturbsLatch, after, handle, onTargetState, new,
      resetSeries]
  exact ⟨h, (status_consistent_iff h (.poll 2000)).2.2 rfl⟩

/-- The resolver cannot be set up after the reconnect: the status names that error as the
one that stopped the retries, beside a retry that is due, and connects when it is. -/
theorem retry_under_latch :
    let a := after true (.tunnelState (fun _ => 0) (.error .setDns) 2000 :: reconnectCalls)
    (a.status 2000).latchedReason = some "SetDns" ∧ (a.status 2000).nextRetryIn = some 4000 ∧
      classify .setDns = .infrastructure ∧ a.latched = true ∧ (a.poll 6000).1 = .connect := by
  decide

end AlwaysOn

end VpnService
