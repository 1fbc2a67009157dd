import Mathlib.Algebra.Group.Nat.Defs
import Mathlib.Data.Nat.Basic

/-!
# The connection monitor

Each result of a probe becomes an event, which the loop of the tunnel monitor turns into what
it reports. When the probes are sent is left out. Histories have the latest result first.
-/

namespace ConnectionMonitor

inductive ConnectionStatusEvent where
  | viable
  | intermittentFailure (retry : ℕ)
  | failed
deriving DecidableEq

inductive Phase where
  | initial
  | monitoring

structure TimingConfig where
  initialProbeRetryCount : ℕ
  monitoringProbeRetryCount : ℕ

structure State where
  phase : Phase := .initial
  retry : ℕ := 0

def State.incrementRetry (s : State) : State :=
  if s.retry + 1 < 2 ^ 32 then { s with retry := s.retry + 1 } else s

def State.maxRetryCount (t : TimingConfig) (s : State) : ℕ :=
  match s.phase with
  | .initial => t.initialProbeRetryCount
  | .monitoring => t.monitoringProbeRetryCount

def State.probed (t : TimingConfig) (s : State) (ok : Bool) : ConnectionStatusEvent × State :=
  if ok then (.viable, { phase := .monitoring, retry := 0 })
  else
    let s := s.incrementRetry
    if s.maxRetryCount t < s.retry then (.failed, s) else (.intermittentFailure s.retry, s)

inductive Sent where
  | up
  | connectionFailed

structure Loop where
  lastConnectionStatus : Option ConnectionStatusEvent := none
  hasSentUpEvent : Bool := false
  exited : Bool := false

/-- A status that is repeated is passed over. -/
def Loop.handle (l : Loop) (event : ConnectionStatusEvent) : Option Sent × Loop :=
  if l.exited || l.lastConnectionStatus == some event then (none, l)
  else
    let l := { l with lastConnectionStatus := some event }
    match event with
    | .viable =>
      if l.hasSentUpEvent then (none, l) else (some .up, { l with hasSentUpEvent := true })
    | .intermittentFailure _ => (none, l)
    | .failed => (some .connectionFailed, { l with exited := true })

section

variable (t : TimingConfig)

def after : List Bool → State
  | [] => {}
  | ok :: past => ((after past).probed t ok).2

def event (ok : Bool) (past : List Bool) : ConnectionStatusEvent := ((after t past).probed t ok).1

def events : List Bool → List ConnectionStatusEvent
  | [] => []
  | ok :: past => event t ok past :: events past

end

/-- The failures in a row that end a history, as far as they are counted. -/
def failuresInRow (past : List Bool) : ℕ := min (past.takeWhile (!·)).length (2 ^ 32 - 1)

def retryCount (t : TimingConfig) (past : List Bool) : ℕ :=
  if true ∈ past then t.monitoringProbeRetryCount else t.initialProbeRetryCount

variable {t : TimingConfig}

theorem incrementRetry_eq {s : State} (h : s.retry < 2 ^ 32) :
    s.incrementRetry = { s with retry := min (s.retry + 1) (2 ^ 32 - 1) } := by
  unfold State.incrementRetry
  split
  · rw [Nat.min_eq_left (by omega)]
  · have hlast : min (s.retry + 1) (2 ^ 32 - 1) = s.retry := by omega
    rw [hlast]

theorem after_eq (past : List Bool) : after t past =
    { phase := if true ∈ past then .monitoring else .initial, retry := failuresInRow past } := by
  induction past with
  | nil => rfl
  | cons ok past ih =>
    cases ok with
    | true => simp [after, State.probed, failuresInRow]
    | false =>
      have hlt : failuresInRow past < 2 ^ 32 := by
        unfold failuresInRow
        omega
      have hrow : min (failuresInRow past + 1) (2 ^ 32 - 1) = failuresInRow (false :: past) := by
        simp only [failuresInRow, List.takeWhile_cons, Bool.not_false, if_true, List.length_cons]
        omega
      have hnext : ((after t past).probed t false).2 = (after t past).incrementRetry := by
        simp only [State.probed, Bool.false_eq_true, if_false]
        split <;> rfl
      rw [after, hnext, ih, incrementRetry_eq hlt, hrow]
      simp

theorem event_eq (ok : Bool) (past : List Bool) : event t ok past =
    if ok then .viable
    else if retryCount t past < failuresInRow (false :: past) then .failed
    else .intermittentFailure (failuresInRow (false :: past)) := by
  cases ok with
  | true => rfl
  | false =>
    have hstate : (after t past).incrementRetry =
        ⟨if true ∈ past then .monitoring else .initial, failuresInRow (false :: past)⟩ := by
      have hnext := after_eq (t := t) (false :: past)
      simp only [after, State.probed, Bool.false_eq_true, if_false] at hnext
      split at hnext <;> simpa using hnext
    have hcount : State.maxRetryCount t
        ⟨if true ∈ past then .monitoring else .initial, failuresInRow (false :: past)⟩ =
          retryCount t past := by
      unfold State.maxRetryCount retryCount
      split_ifs <;> rfl
    simp only [event, State.probed, Bool.false_eq_true, if_false, hstate, hcount]
    split <;> rfl

/-! ## The loop -/

def Loop.after : List ConnectionStatusEvent → Loop
  | [] => {}
  | event :: past => ((Loop.after past).handle event).2

theorem Loop.after_eq (past : List ConnectionStatusEvent) :
    ((Loop.after past).exited = true ↔ .failed ∈ past) ∧
      (.failed ∉ past → (Loop.after past).hasSentUpEvent = decide (.viable ∈ past) ∧
        (Loop.after past).lastConnectionStatus = past.head?) := by
  induction past with
  | nil => simp [Loop.after]
  | cons event past ih =>
    obtain ⟨hexited, hbefore⟩ := ih
    by_cases hfailed : .failed ∈ past
    · have hleft : (Loop.after past).exited = true := hexited.2 hfailed
      simp [Loop.after, Loop.handle, hleft, hfailed]
    · obtain ⟨hup, hlast⟩ := hbefore hfailed
      have hstays : (Loop.after past).exited = false := by
        simpa [hfailed] using hexited
      by_cases hrepeated : past.head? = some event
      · have hmem : event ∈ past := List.mem_of_head? hrepeated
        have hother : event ≠ .failed := fun h => hfailed (h ▸ hmem)
        simp only [Loop.after, Loop.handle, hstays, hlast, hrepeated, hup]
        cases event <;> simp_all
      · cases event <;> simp [Loop.after, Loop.handle, hstays, hlast, hrepeated, hup, hfailed]
        by_cases hviable : ConnectionStatusEvent.viable ∈ past <;> simp [hviable]

theorem Loop.sent_eq (event : ConnectionStatusEvent) (past : List ConnectionStatusEvent) :
    ((Loop.after past).handle event).1 =
      if .failed ∈ past then none
      else match event with
        | .viable => if .viable ∈ past then none else some .up
        | .intermittentFailure _ => none
        | .failed => some .connectionFailed := by
  obtain ⟨hexited, hbefore⟩ := Loop.after_eq past
  by_cases hfailed : .failed ∈ past
  · simp [Loop.handle, hexited.2 hfailed, hfailed]
  · obtain ⟨hup, hlast⟩ := hbefore hfailed
    have hstays : (Loop.after past).exited = false := by
      simpa [hfailed] using hexited
    by_cases hrepeated : past.head? = some event
    · have hmem : event ∈ past := List.mem_of_head? hrepeated
      cases event with
      | failed => exact absurd hmem hfailed
      | viable => simp [Loop.handle, hstays, hlast, hrepeated, hfailed, hmem]
      | intermittentFailure retry => simp [Loop.handle, hstays, hlast, hrepeated, hfailed]
    · cases event with
      | viable => by_cases hviable : .viable ∈ past <;>
          simp [Loop.handle, hstays, hlast, hrepeated, hfailed, hup, hviable]
      | _ => simp [Loop.handle, hstays, hlast, hrepeated, hfailed]

theorem viable_mem_events {past : List Bool} : .viable ∈ events t past ↔ true ∈ past := by
  induction past with
  | nil => simp [events]
  | cons ok past ih =>
    have hviable : .viable = event t ok past ↔ ok = true := by
      rw [event_eq]
      cases ok
      · simp only [Bool.false_eq_true, if_false]
        split <;> simp
      · simp
    rw [events, List.mem_cons, List.mem_cons, ih, hviable, eq_comm (a := true)]

/-- Each event follows from the results so far. The loop reports the first success unless a
failure came before it, the first failure, and nothing after that. -/
theorem verdicts_follow_probes (t : TimingConfig) (ok : Bool) (past : List Bool) :
    (event t ok past =
      if ok then .viable
      else if retryCount t past < failuresInRow (false :: past) then .failed
      else .intermittentFailure (failuresInRow (false :: past))) ∧
    ((Loop.after (events t past)).handle (event t ok past)).1 =
      if .failed ∈ events t past then none
      else if ok then (if true ∈ past then none else some .up)
      else if event t ok past = .failed then some .connectionFailed
      else none := by
  refine ⟨event_eq ok past, ?_⟩
  rw [Loop.sent_eq]
  refine if_congr Iff.rfl rfl ?_
  cases ok with
  | true =>
    rw [if_pos rfl]
    exact if_congr viable_mem_events rfl rfl
  | false =>
    rw [event_eq, if_neg Bool.false_ne_true]
    by_cases hcount : retryCount t past < failuresInRow (false :: past) <;> simp [hcount]

/-- A count of retries that is the last of its type is never exceeded. -/
theorem last_retry_never_fails : ∃ (t : TimingConfig) (past : List Bool),
    t.initialProbeRetryCount < 2 ^ 32 ∧ true ∉ past ∧
      t.initialProbeRetryCount < (List.takeWhile (!·) (false :: past)).length ∧
      event t false past ≠ .failed := by
  -- The number of probes stays a variable: the history is too long to be written out.
  obtain ⟨n, hn⟩ : ∃ n, n = 2 ^ 32 - 1 := ⟨_, rfl⟩
  have hnever : true ∉ List.replicate n false := by simp
  have hcount : retryCount ⟨n, 0⟩ (List.replicate n false) = n := if_neg hnever
  have hrow : failuresInRow (false :: List.replicate n false) ≤ n := by
    rw [failuresInRow, hn]
    exact Nat.min_le_right _ _
  have hlast : n < 2 ^ 32 := by omega
  refine ⟨⟨n, 0⟩, List.replicate n false, hlast, hnever, by simp, ?_⟩
  rw [event_eq, hcount, if_neg Bool.false_ne_true, if_neg (not_lt.2 hrow)]
  nofun

end ConnectionMonitor
