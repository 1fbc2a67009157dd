import NymVpn.Bandwidth.Controller

/-!
# The sessions of the bandwidth controller

What the controller makes of a session is compared with the history of its checks. Histories
have the latest check first.
-/

namespace Bandwidth.BandwidthController

variable {P : ℕ} {ends : Bool} {past : List Check}

/-! ## The end of the upgrade mode -/

def Check.reportsUpgradeMode (k : Check) : Bool :=
  match k.found.query with
  | .ok answer => answer.upgradeMode == some true
  | .error _ => false

def inUpgradeMode (P : ℕ) (ends entry : Bool) : List Check → Bool
  | [] => false
  | k :: past =>
    if .disableUpgradeMode ∈ calls P ends past k then false
    else (k.entry == entry && k.reportsUpgradeMode) || inUpgradeMode P ends entry past

def SaysAtDue (c : BandwidthController) (k : Check) (mode : Bool) : Prop :=
  ∃ answer, k.found.query = .ok answer ∧ answer.upgradeMode = some mode ∧
    (c.depletionRate k.entry).Due k.period (asU64 answer.bandwidthBytes)

def SawUpgradeMode (P : ℕ) (ends : Bool) : List Check → Prop
  | [] => False
  | k :: past => SaysAtDue (after P ends past) k true ∨ SawUpgradeMode P ends past

section

variable {c : BandwidthController} {entry : Bool} {found : Found} {mode : Option Bool}

theorem upgradeMode_fail {err : Error} {hadWorked : Bool} :
    (c.fail err hadWorked).upgradeModeEnabledOnLastCheck = c.upgradeModeEnabledOnLastCheck := by
  unfold fail
  dsimp only
  split <;> rfl

theorem upgradeMode_topUpBandwidth {topUp : Except SpecificGatewayError AvailableBandwidth} :
    (c.topUpBandwidth entry topUp).upgradeModeEnabledOnLastCheck =
      c.upgradeModeEnabledOnLastCheck := by
  unfold topUpBandwidth
  split
  · rfl
  · rfl
  · exact upgradeMode_fail

theorem upgradeMode_handleDueQuery : let r := c.handleDueQuery entry found mode
    (r.2.upgradeModeEnabledOnLastCheck = true ↔
      mode = some true ∨ c.upgradeModeEnabledOnLastCheck = true) ∧
    (.disableUpgradeMode ∈ r.1 ↔
      mode = some false ∧ found.attested = true ∧ c.upgradeModeEnabledOnLastCheck = true) := by
  rcases mode with _ | _ | _
  · simp [handleDueQuery, upgradeMode_topUpBandwidth]
  · rw [handleDueQuery]
    split_ifs with hunaware hover
    · simp_all [upgradeMode_topUpBandwidth]
    · cases found.disabled <;> simp_all [upgradeMode_topUpBandwidth, upgradeMode_fail]
    · simpa [upgradeMode_topUpBandwidth] using hover
  · simp [handleDueQuery]

theorem upgradeMode_checkBandwidth {k : Check} :
    let r := (c.checkBandwidth P k.entry k.period k.found).2
    (r.2.upgradeModeEnabledOnLastCheck = true ↔
      SaysAtDue c k true ∨ c.upgradeModeEnabledOnLastCheck = true) ∧
    (.disableUpgradeMode ∈ r.1 ↔ SaysAtDue c k false ∧ k.found.attested = true ∧
      c.upgradeModeEnabledOnLastCheck = true) := by
  simp only [checkBandwidth, SaysAtDue]
  cases k.found.query with
  | error err =>
    dsimp only [handleBandwidthQueryError]
    split_ifs <;> simp [upgradeMode_fail, setHealth]
  | ok answer =>
    simp only [Except.ok.injEq, exists_eq_left', ← DepletionRate.update_eq_none_iff (P := P)]
    dsimp only [handleBandwidthQuery, setHealth]
    split
    · next h => simp [h]
    · next h => simp [h]
    · next h => simp [h, upgradeMode_handleDueQuery]

end

theorem upgradeMode_after :
    (after P ends past).upgradeModeEnabledOnLastCheck = true ↔ SawUpgradeMode P ends past := by
  induction past with
  | nil => simp [after, SawUpgradeMode]
  | cons k past ih => rw [after, upgradeMode_checkBandwidth.1, ih, SawUpgradeMode]

/-- The end of the upgrade mode is reported for a gateway that was in it exactly if a gateway
that is found out of the mode, while it is attested and was seen in this session, was in it. -/
theorem end_reported_by_its_gateway_iff (past : List Check) (k : Check) :
    (.disableUpgradeMode ∈ calls P ends past k → inUpgradeMode P ends k.entry past = true) ↔
      (SaysAtDue (after P ends past) k false → k.found.attested = true →
        SawUpgradeMode P ends past → inUpgradeMode P ends k.entry past = true) := by
  rw [calls, upgradeMode_checkBandwidth.2, upgradeMode_after]
  constructor
  · intro h hsaid hattested hsaw
    exact h ⟨hsaid, hattested, hsaw⟩
  · rintro h ⟨hsaid, hattested, hsaw⟩
    exact h hsaid hattested hsaw

/-- The entry is in the upgrade mode and the exit is not; and the entry leaves the mode, which
is then reported twice. -/
theorem end_reported_by_another :
    let entered : List Check := [.answer true 0 (some true) true, .answer true 1000 none true,
      .answer false 1000 none true]
    let ended : List Check := .answer true 0 (some false) true ::
      .answer true 1000 none true :: entered
    let exitSays : Check := .answer false 0 (some false) true
    let entrySays : Check := .answer true 0 (some false) true
    (.disableUpgradeMode ∈ calls 5 true entered exitSays ∧
      inUpgradeMode 5 true false entered = false) ∧
    .disableUpgradeMode ∈ calls 5 true (.answer true 1000 none true :: ended) entrySays ∧
      inUpgradeMode 5 true true (.answer true 1000 none true :: ended) = false := by
  decide

end Bandwidth.BandwidthController
