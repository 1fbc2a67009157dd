import Mathlib.Algebra.Group.Int.Defs
import Mathlib.Algebra.Group.Nat.Defs
import Mathlib.Order.MinMax

/-!
# The bandwidth controller

The controller asks both gateways how much bandwidth is left, tops up what runs low, and puts
the next check off where little is used. Amounts are in bytes, periods in whole seconds and
times in nanoseconds.
-/

namespace Bandwidth

/-- Without the gateways' names and the errors below them. -/
inductive SpecificGatewayError where
  | requestCredential
  | deprecatedTopUpWireguard
  | topUpWireguard
  | deprecatedQueryBandwidth
  | queryBandwidth
  | gatewayTimeout
  | internal (reason : String)
deriving DecidableEq

inductive Error where
  | entryGateway (err : SpecificGatewayError)
  | exitGateway (err : SpecificGatewayError)
  | internal (message : String)

def Error.gateway (entry : Bool) (err : SpecificGatewayError) : Error :=
  if entry then .entryGateway err else .exitGateway err

def queryFailuresToEscalate : ℕ := 2

def firstAnswerGrace : ℕ := 60 * 10 ^ 9

structure QueryHealth where
  answered : Bool := false
  toppedUp : Bool := false
  consecutiveFailures : ℕ := 0
  failingSince : Option ℕ := none

namespace QueryHealth

def recordSuccess (h : QueryHealth) : QueryHealth :=
  { h with answered := true, consecutiveFailures := 0, failingSince := none }

/-- The failure is counted in a `u32`. The answer is whether it ends the session. -/
def recordFailure (h : QueryHealth) (now : ℕ) : Bool × QueryHealth :=
  let failures := min (h.consecutiveFailures + 1) (2 ^ 32 - 1)
  let since := h.failingSince.getD now
  (decide (queryFailuresToEscalate ≤ failures) &&
      (h.answered || decide (firstAnswerGrace ≤ now - since)),
    { h with consecutiveFailures := failures, failingSince := some since })

end QueryHealth

structure AvailableBandwidth where
  bandwidthBytes : Int64
  upgradeMode : Option Bool

def asU64 (bytes : Int64) : ℕ := (bytes.toInt % 2 ^ 64).toNat

def defaultBandwidthDepletionRate : ℕ := 1024 * 1024

def minimumRemainingBandwidth : ℕ := 500 * 1024 * 1024

def checkedDiv (a b : ℕ) : Option ℕ := if b = 0 then none else some (a / b)

structure DepletionRate where
  currentDepletionRate : ℕ := defaultBandwidthDepletionRate
  availableBandwidth : ℕ := 0

section

-- The period `DEFAULT_PEER_TIMEOUT_CHECK`.
variable (P : ℕ)

/-- The period to go on with, or nothing where the gateway should be topped up. -/
def DepletionRate.updateDynamicCheckInterval (d : DepletionRate)
    (currentPeriod remainingBandwidth : ℕ) :
    Except SpecificGatewayError (Option ℕ) × DepletionRate :=
  match checkedDiv (d.availableBandwidth - remainingBandwidth) currentPeriod with
  | none => (.error (.internal "check interval shouldn't be 0"), d)
  | some newDepletionRate =>
    let d := { d with availableBandwidth := remainingBandwidth }
    if newDepletionRate = 0 then (.ok (some P), d)
    else
      let d := { d with currentDepletionRate := newDepletionRate }
      match checkedDiv remainingBandwidth d.currentDepletionRate with
      | none => (.error (.internal "depletion rate shouldn't be 0"), d)
      | some estimatedDepletionSecs =>
        let checks := (checkedDiv estimatedDepletionSecs currentPeriod).getD 0
        if checks < 10 then (.ok none, d)
        else if d.availableBandwidth < minimumRemainingBandwidth then (.ok none, d)
        else if 6 * P < estimatedDepletionSecs then (.ok (some (6 * P)), d)
        else if estimatedDepletionSecs < P then (.ok (some P), d)
        else (.ok (some checks), d)

inductive Call where
  | upgradeModeRecheck
  | disableUpgradeMode
  | topUp
deriving DecidableEq

structure Found where
  now : ℕ
  query : Except SpecificGatewayError AvailableBandwidth
  /-- The account controller holds an attestation of the upgrade mode. -/
  attested : Bool
  /-- What comes of reporting the end of the upgrade mode. -/
  disabled : Except String Unit
  topUp : Except SpecificGatewayError AvailableBandwidth

/-- The two gateways are told apart by whether they are the entry. -/
structure BandwidthController where
  depletionRate : Bool → DepletionRate := fun _ => {}
  queryHealth : Bool → QueryHealth := fun _ => {}
  endSessionOnFailure : Bool
  shutdown : Bool := false
  stopped : Bool := false
  failure : Option Error := none
  failureHadWorked : Option Bool := none
  upgradeModeEnabledOnLastCheck : Bool := false

structure BandwidthOutcome where
  failure : Option Error
  worked : Bool

namespace BandwidthController

variable (c : BandwidthController) (entry : Bool)

def setHealth (h : QueryHealth) : BandwidthController :=
  { c with queryHealth := Function.update c.queryHealth entry h }

def fail (err : Error) (hadWorked : Bool) : BandwidthController :=
  let c := { c with failureHadWorked := some (c.failureHadWorked.getD hadWorked), stopped := true }
  if c.endSessionOnFailure then
    { c with failure := some (c.failure.getD err), shutdown := true }
  else c

def handleBandwidthQueryError (now : ℕ) (err : SpecificGatewayError) : BandwidthController :=
  let (ends, health) := (c.queryHealth entry).recordFailure now
  let c := c.setHealth entry health
  if ends then c.fail (.gateway entry err) health.answered else c

def topUpBandwidth (topUp : Except SpecificGatewayError AvailableBandwidth) : BandwidthController :=
  match topUp with
  | .ok _ => c.setHealth entry { c.queryHealth entry with toppedUp := true }
  | .error .requestCredential => c
  | .error err => c.fail (.gateway entry err) (c.queryHealth entry).toppedUp

/-- An answer that asks for more bandwidth, or for the upgrade mode to be settled. -/
def handleDueQuery (found : Found) : Option Bool → List Call × BandwidthController
  | none => ([.topUp], c.topUpBandwidth entry found.topUp)
  | some true => ([], { c with upgradeModeEnabledOnLastCheck := true })
  | some false =>
    if found.attested && !c.upgradeModeEnabledOnLastCheck then
      ([.upgradeModeRecheck, .topUp], c.topUpBandwidth entry found.topUp)
    else if found.attested && c.upgradeModeEnabledOnLastCheck then
      match found.disabled with
      | .error err =>
        ([.disableUpgradeMode],
          c.fail (.internal ("failed to report the end of upgrade mode: " ++ err)) false)
      | .ok () => ([.disableUpgradeMode, .topUp], c.topUpBandwidth entry found.topUp)
    else ([.topUp], c.topUpBandwidth entry found.topUp)

def handleBandwidthQuery (currentPeriod : ℕ) (found : Found) (answer : AvailableBandwidth) :
    Option ℕ × List Call × BandwidthController :=
  let c := c.setHealth entry (c.queryHealth entry).recordSuccess
  let (updated, rate) := (c.depletionRate entry).updateDynamicCheckInterval P currentPeriod
    (asU64 answer.bandwidthBytes)
  let c := { c with depletionRate := Function.update c.depletionRate entry rate }
  match updated with
  | .error _ => (none, [], c)
  | .ok (some duration) => (some duration, [], c)
  | .ok none => (none, c.handleDueQuery entry found answer.upgradeMode)

def checkBandwidth (currentPeriod : ℕ) (found : Found) :
    Option ℕ × List Call × BandwidthController :=
  match found.query with
  | .ok answer => c.handleBandwidthQuery P entry currentPeriod found answer
  | .error err => (none, [], c.handleBandwidthQueryError entry found.now err)

def checkBoth (currentPeriod : ℕ) (foundEntry foundExit : Found) : Option ℕ × BandwidthController :=
  let (entryDuration, _, c) := c.checkBandwidth P true currentPeriod foundEntry
  let (exitDuration, _, c) := c.checkBandwidth P false currentPeriod foundExit
  match entryDuration, exitDuration with
  | some d₁, some d₂ => (some (min d₁ d₂), c)
  | d₁, d₂ => (d₁.or d₂, c)

def outcome : BandwidthOutcome where
  failure := c.failure
  worked := c.failureHadWorked.getD
    ((c.queryHealth true).answered && (c.queryHealth false).answered)

end BandwidthController

/-! ## Putting a check off -/

namespace DepletionRate

variable {d : DepletionRate} {s r : ℕ}

def measured (d : DepletionRate) (s r : ℕ) : ℕ := (d.availableBandwidth - r) / s

/-- Something was used up, and little is left: for less than ten checks, or at all. -/
def Due (d : DepletionRate) (s r : ℕ) : Prop :=
  0 < d.measured s r ∧ (r < 10 * s * d.measured s r ∨ r < minimumRemainingBandwidth)

variable {P}

theorem checks_lt_iff {rate : ℕ} (hs : 0 < s) (hrate : 0 < rate) :
    r / rate / s < 10 ↔ r < 10 * s * rate := by
  rw [Nat.div_lt_iff_lt_mul hs, Nat.div_lt_iff_lt_mul hrate]

theorem update_of_pos (hs : 0 < s) : (d.updateDynamicCheckInterval P s r).1 = .ok
    (if d.measured s r = 0 then some P
      else if r < 10 * s * d.measured s r ∨ r < minimumRemainingBandwidth then none
      else if 6 * P < r / d.measured s r then some (6 * P)
      else if r / d.measured s r < P then some P
      else some (r / d.measured s r / s)) := by
  have hrate : checkedDiv (d.availableBandwidth - r) s = some (d.measured s r) :=
    if_neg hs.ne'
  rw [updateDynamicCheckInterval, hrate]
  by_cases hzero : d.measured s r = 0
  · simp [hzero]
  · have hchecks := checks_lt_iff (r := r) hs (Nat.pos_of_ne_zero hzero)
    simp only [hzero, if_false, checkedDiv, hs.ne', Option.getD_some, hchecks, ite_or]
    split_ifs <;> rfl

theorem update_eq_none_iff : (d.updateDynamicCheckInterval P s r).1 = .ok none ↔ d.Due s r := by
  rcases Nat.eq_zero_or_pos s with rfl | hs
  · simp [updateDynamicCheckInterval, checkedDiv, Due, measured]
  · rw [update_of_pos hs, Due, Nat.pos_iff_ne_zero]
    split_ifs <;> simp_all

theorem update_of_period (hs : P ≤ s) (hP : 0 < P) :
    (d.updateDynamicCheckInterval P s r).1 = .ok
      (if d.measured s r = 0 then some P
        else if r < 10 * s * d.measured s r ∨ r < minimumRemainingBandwidth then none
        else some (6 * P)) := by
  rw [update_of_pos (hP.trans_le hs)]
  split_ifs with hzero hlow hlong
  · rfl
  · rfl
  · rfl
  all_goals
    -- Ten checks are longer than the longest period.
    refine absurd ?_ hlong
    obtain ⟨hten, -⟩ := not_or.1 hlow
    have hchecks : 10 * s ≤ r / d.measured s r :=
      (Nat.le_div_iff_mul_le (Nat.pos_of_ne_zero hzero)).2 (not_lt.1 hten)
    omega

theorem update_lasts {duration : ℕ} (hs : P ≤ s) (hP : 0 < P)
    (h : (d.updateDynamicCheckInterval P s r).1 = .ok (some duration))
    (hrate : d.measured s r ≠ 0) :
    duration * d.measured s r ≤ r ∧ minimumRemainingBandwidth ≤ r := by
  rw [update_of_period hs hP, if_neg hrate] at h
  split_ifs at h with hlow
  · cases h
  · cases h
    obtain ⟨hten, hleft⟩ := not_or.1 hlow
    refine ⟨le_trans (Nat.mul_le_mul_right _ ?_) (not_lt.1 hten), not_lt.1 hleft⟩
    omega

end DepletionRate

namespace BandwidthController

open DepletionRate

variable {P} {c : BandwidthController} {entry : Bool} {s : ℕ} {found : Found} {duration : ℕ}

theorem checkBandwidth_fst (h : (c.checkBandwidth P entry s found).1 = some duration) :
    ∃ r, ((c.depletionRate entry).updateDynamicCheckInterval P s r).1 = .ok (some duration) := by
  unfold checkBandwidth at h
  split at h
  next answer _ =>
    refine ⟨asU64 answer.bandwidthBytes, ?_⟩
    unfold handleBandwidthQuery at h
    dsimp only [setHealth] at h
    split at h
    · cases h
    · next hupdated =>
        cases h
        exact hupdated
    · cases h
  · cases h

def pass (P : ℕ) (s : ℕ × BandwidthController) (found : Found × Found) : ℕ × BandwidthController :=
  let (next, c) := s.2.checkBoth P s.1 found.1 found.2
  (next.getD s.1, c)

theorem checkBoth_fst {foundEntry foundExit : Found}
    (h : (c.checkBoth P s foundEntry foundExit).1 = some duration) :
    ∃ d r, (updateDynamicCheckInterval P d s r).1 = .ok (some duration) := by
  unfold checkBoth at h
  dsimp only at h
  split at h
  · next d₁ d₂ hentry hexit =>
      obtain ⟨r₁, h₁⟩ := checkBandwidth_fst hentry
      obtain ⟨r₂, h₂⟩ := checkBandwidth_fst hexit
      cases h
      rcases min_choice d₁ d₂ with hmin | hmin
      · exact ⟨_, r₁, hmin ▸ h₁⟩
      · exact ⟨_, r₂, hmin ▸ h₂⟩
  · rcases Option.or_eq_some_iff.1 h with hentry | ⟨-, hexit⟩
    · exact ⟨_, checkBandwidth_fst hentry⟩
    · exact ⟨_, checkBandwidth_fst hexit⟩

theorem pass_fst (hP : 0 < P) {s : ℕ × BandwidthController} (found : Found × Found)
    (hs : s.1 = P ∨ s.1 = 6 * P) : (pass P s found).1 = P ∨ (pass P s found).1 = 6 * P := by
  unfold pass
  dsimp only
  cases hnext : (s.2.checkBoth P s.1 found.1 found.2).1 with
  | none => exact hs
  | some duration =>
    obtain ⟨d, r, hupdate⟩ := checkBoth_fst hnext
    rw [update_of_period (by omega) hP] at hupdate
    split_ifs at hupdate <;> cases hupdate
    · exact .inl rfl
    · exact .inr rfl

/-- Over any number of checks the period is one of two, no update fails, and a check that is
put off on a measured rate leaves enough bandwidth to last. -/
theorem postponed_check_lasts (hP : 1 ≤ P) (ends : Bool) (founds : List (Found × Found)) :
    let s := founds.foldl (pass P) (P, { endSessionOnFailure := ends })
    (s.1 = P ∨ s.1 = 6 * P) ∧ ∀ (d : DepletionRate) (r : ℕ), ∃ updated,
      (d.updateDynamicCheckInterval P s.1 r).1 = .ok updated ∧
      ∀ duration, updated = some duration → d.measured s.1 r ≠ 0 →
        duration * d.measured s.1 r ≤ r ∧ minimumRemainingBandwidth ≤ r := by
  intro s
  have hs : s.1 = P ∨ s.1 = 6 * P := by
    refine List.foldlRecOn founds (pass P)
      (motive := fun s => s.1 = P ∨ s.1 = 6 * P) ?_ fun s hs found _ => pass_fst hP found hs
    exact .inl rfl
  have hperiod : P ≤ s.1 := by omega
  refine ⟨hs, fun d r => ⟨_, update_of_period hperiod hP, ?_⟩⟩
  rintro duration hduration hrate
  refine update_lasts hperiod hP ?_ hrate
  rw [update_of_period hperiod hP, hduration]

def answers (bytes : Int64) : Found × Found :=
  let found : Found := ⟨0, .ok ⟨bytes, none⟩, false, .ok (), .error .requestCredential⟩
  (found, found)

/-- The second of two checks is answered by the longer period, and so is the next. -/
theorem postponed_check_lasts_answers :
    let s := [answers (2 ^ 30), answers (2 ^ 30 - 5)].foldl (pass 5)
      (5, { endSessionOnFailure := true })
    let d := s.2.depletionRate true
    s.1 = 30 ∧ (d.updateDynamicCheckInterval 5 s.1 (2 ^ 30 - 65)).1 = .ok (some 30) ∧
      d.measured s.1 (2 ^ 30 - 65) = 2 ∧ 30 * d.measured s.1 (2 ^ 30 - 65) ≤ 2 ^ 30 - 65 := by
  intro s d
  obtain ⟨hperiod, hlasts⟩ := postponed_check_lasts (P := 5) (by decide) true
    [answers (2 ^ 30), answers (2 ^ 30 - 5)]
  obtain ⟨updated, hupdated, hlasts⟩ := hlasts d (2 ^ 30 - 65)
  have h : (d.updateDynamicCheckInterval 5 s.1 (2 ^ 30 - 65)).1 = .ok (some 30) := by decide
  exact ⟨hperiod.resolve_left (by decide), h, by decide,
    (hlasts 30 (by cases hupdated.symm.trans h; rfl) (by decide)).1⟩

/-! ## Topping up -/

theorem topUp_mem_handleDueQuery {mode : Option Bool} (hmode : mode ≠ some true)
    (hreport : .disableUpgradeMode ∈ (c.handleDueQuery entry found mode).1 →
      found.disabled = .ok ()) :
    .topUp ∈ (c.handleDueQuery entry found mode).1 := by
  rcases mode with _ | _ | _
  · simp [handleDueQuery]
  · rw [handleDueQuery] at hreport ⊢
    split_ifs at hreport ⊢
    · simp
    · cases hdisabled : found.disabled with
      | ok _ => simp
      | error err => simp [hdisabled] at hreport
    · simp
  · exact absurd rfl hmode

theorem asU64_of_nonpos {bytes : Int64} (h : bytes.toInt ≤ 0) :
    asU64 bytes = 0 ∨ minimumRemainingBandwidth ≤ asU64 bytes := by
  have hlow := bytes.le_toInt
  unfold asU64 minimumRemainingBandwidth
  omega

structure Check where
  entry : Bool
  period : ℕ
  found : Found

def after (P : ℕ) (ends : Bool) : List Check → BandwidthController
  | [] => { endSessionOnFailure := ends }
  | k :: past => ((after P ends past).checkBandwidth P k.entry k.period k.found).2.2

def calls (P : ℕ) (ends : Bool) (past : List Check) (k : Check) : List Call :=
  ((after P ends past).checkBandwidth P k.entry k.period k.found).2.1

/-- Where nothing is left, a gateway outside the upgrade mode is topped up exactly if at least a
byte a second went since its last answer, and what is left, read as unsigned, would be gone
within ten checks. -/
theorem topUp_iff_depleting {ends : Bool} (past : List Check) (k : Check)
    {answer : AvailableBandwidth} (hanswer : k.found.query = .ok answer)
    (hbytes : answer.bandwidthBytes.toInt ≤ 0) (hmode : answer.upgradeMode ≠ some true)
    (hreport : .disableUpgradeMode ∈ calls P ends past k → k.found.disabled = .ok ()) :
    let rate := (((after P ends past).depletionRate k.entry).availableBandwidth -
      asU64 answer.bandwidthBytes) / k.period
    .topUp ∈ calls P ends past k ↔
      0 < rate ∧ asU64 answer.bandwidthBytes < 10 * k.period * rate := by
  intro rate
  have hdue : ((after P ends past).depletionRate k.entry).Due k.period
      (asU64 answer.bandwidthBytes) ↔
        0 < rate ∧ asU64 answer.bandwidthBytes < 10 * k.period * rate := by
    refine and_congr_right fun hrate => or_iff_left_of_imp fun hleft => ?_
    have hperiod : 0 < k.period := by
      by_contra hzero
      simp [measured, Nat.eq_zero_of_not_pos hzero] at hrate
    rcases asU64_of_nonpos hbytes with hzero | hmuch
    · exact hzero.trans_lt (Nat.mul_pos (Nat.mul_pos (by decide) hperiod) hrate)
    · omega
  rw [← hdue, ← update_eq_none_iff (P := P)]
  rw [calls, checkBandwidth, hanswer] at hreport ⊢
  dsimp only [handleBandwidthQuery, setHealth] at hreport ⊢
  split at hreport
  · next h => simp [h]
  · next h => simp [h]
  · next h => simpa [h] using topUp_mem_handleDueQuery hmode hreport

def Check.answer (entry : Bool) (bytes : Int64) (mode : Option Bool) (attested : Bool) : Check where
  entry
  period := 5
  found := ⟨0, .ok ⟨bytes, mode⟩, attested, .ok (), .error .requestCredential⟩

abbrev Check.left (bytes : Int64) : Check := .answer true bytes (some false) false

theorem topUp_iff_depleting_drop : .topUp ∈ calls 5 true [.left 1000] (.left 0) :=
  (topUp_iff_depleting [.left 1000] (.left 0) rfl (by decide) (by decide) fun _ => rfl).2
    (by decide)

/-- A gateway with nothing left at first is not topped up, nor is one with nothing left still
after a check without a ticket, nor one with less than nothing. -/
theorem depleted_not_toppedUp :
    .topUp ∉ calls 5 true [] (.left 0) ∧
    .topUp ∉ calls 5 true [.left 0, .left 1000] (.left 0) ∧
    .topUp ∉ calls 5 true [.left 1000] (.left (-1)) := by
  decide

end BandwidthController

end

end Bandwidth
