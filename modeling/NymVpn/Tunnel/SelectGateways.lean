import NymVpn.Gateway.Cache
import NymVpn.Tunnel.Run

/-!
# What a selection reads of the settings

A monitor points the gateway cache at a client with the thresholds of the settings, and
selects a pair from the lists that the tunnel type calls for.
-/

namespace GatewayDirectory

def percentFromValue (value : ℕ) : Option ℕ := if value > 100 then none else some value

def GatewayMinPerformance.fromPercentageValues
    (mixnetMinPerformance vpnMinPerformance : Option ℕ) : Option GatewayMinPerformance := do
  let mixnetMinPerformance ← mixnetMinPerformance.mapM percentFromValue
  let vpnMinPerformance ← vpnMinPerformance.mapM percentFromValue
  return ⟨mixnetMinPerformance, vpnMinPerformance⟩

def GatewayConfig.withMinGatewayPerformance (config : GatewayConfig)
    (minGatewayPerformance : GatewayMinPerformance) : GatewayConfig :=
  { config with minGatewayPerformance := withoutEmptyThresholds (some minGatewayPerformance) }

end GatewayDirectory

namespace TunnelStateMachine

open GatewayDirectory PairSelection TunnelSettings

/-- The configuration of the client that a monitor hands to the cache. Thresholds that
are no percentages leave it as it was. -/
def gatewayClientConfig (config : GatewayConfig) (settings : TunnelSettings) : GatewayConfig :=
  let options := settings.gatewayPerformanceOptions
  match GatewayMinPerformance.fromPercentageValues
    (options.mixnetMinPerformance.map UInt8.toNat) (options.vpnMinPerformance.map UInt8.toNat) with
  | some minGatewayPerformance => config.withMinGatewayPerformance minGatewayPerformance
  | none => config

def PairSelection.new (settings : TunnelSettings) (blacklist : List NodeIdentity) : PairSelection :=
  { entryPoint := settings.entryPoint
    exitPoint := settings.exitPoint
    entryFilters := blacklistFilters blacklist
    exitFilters := if settings.residentialExit then [.residential, .exit] else [] }

inductive SelectGatewaysError where
  | sameEntryAndExitGateway (identity : NodeIdentity)
  | lookupGateways (source : CacheError)
  | selection (source : GatewayDirectoryError)

abbrev Lookup := GatewayType → Except CacheError GatewayList

/-- The entry and the exit candidates. With bridges on, an entry has to announce some. -/
def candidateLists (lookup : Lookup) (settings : TunnelSettings) :
    Except CacheError (GatewayList × GatewayList) :=
  match settings.tunnelType with
  | .wireguard => do
    let allGateways ← lookup .wg
    let entryGateways :=
      if settings.bridgesEnabled then
        { allGateways with
          gateways := allGateways.gateways.filter fun gw => gw.bridgeParams.isSome }
      else allGateways
    return (entryGateways, allGateways)
  | .mixnet => do
    let exitGateways ← lookup .mixnetExit
    let entryGateways ← lookup .mixnetEntry
    return (entryGateways, exitGateways)

def PairSelection.sameGateway (selection : PairSelection) : Option NodeIdentity :=
  match selection.entryPoint, selection.exitPoint with
  | .gateway entry, .gateway exit => if entry = exit then some entry else none
  | _, _ => none

/-- The strict and the relaxed attempt use random numbers of their own. -/
def selectGatewayPair (lookup : Lookup) (blacklist : List NodeIdentity)
    (settings : TunnelSettings) (criteria : GatewayIndependence) (rand relaxedRand : ℕ → ℕ) :
    Except SelectGatewaysError (Gateway × Gateway) := do
  let selection := PairSelection.new settings blacklist
  if let some identity := PairSelection.sameGateway selection then
    throw (.sameEntryAndExitGateway identity)
  let (entryGateways, exitGateways) ← (candidateLists lookup settings).mapError .lookupGateways
  (selection.select entryGateways exitGateways criteria rand relaxedRand).mapError .selection

/-! ## The switch for notifications -/

section Criteria

variable {selection : PairSelection} {entries exits : GatewayList}
  {criteria : GatewayIndependence} {rand relaxedRand : ℕ → ℕ}

theorem selectLoop_criteriaOf (round : ℕ) (exits : GatewayList)
    (entryError : Option GatewayDirectoryError) :
    selection.selectLoop entries (criteriaOf criteria) rand round exits
      entryError = selection.selectLoop entries criteria rand round exits entryError := by
  fun_induction selectLoop selection entries criteria rand round exits entryError with
  | case1 round exits entryError err herr => rw [selectLoop, herr]
  | case2 round exits entryError exit hexit entries entry hentry =>
    rw [selectLoop, hexit]
    dsimp only
    rw [show entryCandidates _ exit (criteriaOf criteria) = entries from rfl, hentry]
  | case3 round exits entryError exit hexit entries err herr ih =>
    rw [selectLoop, hexit]
    dsimp only
    rw [show entryCandidates _ exit (criteriaOf criteria) = entries from rfl, herr]
    exact ih

theorem select_criteriaOf :
    selection.select entries exits (criteriaOf criteria) rand
      relaxedRand = selection.select entries exits criteria rand relaxedRand := by
  have hstrict : ∀ s : PairSelection,
      s.selectWithCriteria entries exits (criteriaOf criteria) rand =
        s.selectWithCriteria entries exits criteria rand := by
    intro s
    simp only [selectWithCriteria, selectLoop_criteriaOf]
  simp only [select, hstrict]
  rfl

end Criteria

/-! ## Settings that differ in nothing a selection reads -/

/-- The change between the settings, if there is one, is not counted as affecting the
selection. -/
def TunnelSettings.Unaffected (s t : TunnelSettings) : Prop :=
  ∀ d, s.diff t = some d → d.affectsGatewaySelection = false

section Unaffected

variable {s t : TunnelSettings}

theorem TunnelSettings.Unaffected.not_mem_changes (h : s.Unaffected t)
    (field : TunnelSettingsDiffFields) (hfield : TunnelSettingsDiff.selectionInput field = true) :
    (field, true) ∉ s.changes t := by
  cases hdiff : s.diff t with
  | none => exact diff_eq_none_iff.1 hdiff field
  | some d =>
    intro hmem
    have hchanged := (isFieldChanged_diff hdiff field).2 hmem
    rw [TunnelSettingsDiff.isFieldChanged, List.contains_iff_mem] at hchanged
    exact List.any_eq_false.1 (h d hdiff) field hchanged hfield

/-- The settings agree in what a selection reads. -/
structure TunnelSettings.SelectsAlike (s t : TunnelSettings) : Prop where
  entryPoint : s.entryPoint = t.entryPoint
  exitPoint : s.exitPoint = t.exitPoint
  tunnelType : s.tunnelType = t.tunnelType
  enableBridges : s.wireguardTunnelOptions.enableBridges = t.wireguardTunnelOptions.enableBridges
  residentialExit : s.residentialExit = t.residentialExit
  gatewayPerformanceOptions : s.gatewayPerformanceOptions = t.gatewayPerformanceOptions
  criteria : criteriaOf s.gatewayIndependence = criteriaOf t.gatewayIndependence

theorem TunnelSettings.Unaffected.selectsAlike (h : s.Unaffected t) : s.SelectsAlike t where
  entryPoint := by simpa [changes] using h.not_mem_changes .entryPoint rfl
  exitPoint := by simpa [changes] using h.not_mem_changes .exitPoint rfl
  tunnelType := by simpa [changes] using h.not_mem_changes .tunnelType rfl
  enableBridges := by
    by_contra hne
    have hquic := h.not_mem_changes .quic rfl
    simp [changes, hne] at hquic
    exact hne (congrArg _ hquic)
  residentialExit := by simpa [changes] using h.not_mem_changes .residentialExit rfl
  gatewayPerformanceOptions := by
    simpa [changes] using h.not_mem_changes .gatewayPerformanceOptions rfl
  criteria := by simpa [changes] using h.not_mem_changes .gatewayIndependence rfl

/-- Settings that differ in nothing counted as affecting the selection give the same client,
candidates, constraints, criteria and outcome, whatever the directory answers and whatever is
drawn. -/
theorem selection_eq_of_unaffected (h : s.Unaffected t) (config : GatewayConfig)
    (directory : GatewayConfig → Lookup) (blacklist : List NodeIdentity)
    (relaxIndependence : Bool) (rand relaxedRand : ℕ → ℕ) :
    gatewayClientConfig config s = gatewayClientConfig config t ∧
    (∀ lookup, candidateLists lookup s = candidateLists lookup t) ∧
    PairSelection.new s blacklist = PairSelection.new t blacklist ∧
    criteriaOf (s.independenceCriteria relaxIndependence) =
      criteriaOf (t.independenceCriteria relaxIndependence) ∧
    selectGatewayPair (directory (gatewayClientConfig config s)) blacklist s
        (s.independenceCriteria relaxIndependence) rand relaxedRand =
      selectGatewayPair (directory (gatewayClientConfig config t)) blacklist t
        (t.independenceCriteria relaxIndependence) rand relaxedRand := by
  have halike := h.selectsAlike
  have hconfig : gatewayClientConfig config s = gatewayClientConfig config t := by
    simp only [gatewayClientConfig, halike.gatewayPerformanceOptions]
  have hlists : ∀ lookup, candidateLists lookup s = candidateLists lookup t := by
    intro lookup
    have hbridges : s.bridgesEnabled = t.bridgesEnabled := by
      simp only [bridgesEnabled, halike.tunnelType, halike.enableBridges]
    rw [candidateLists, candidateLists, halike.tunnelType, hbridges]
  have hselection : PairSelection.new s blacklist = PairSelection.new t blacklist := by
    simp only [PairSelection.new, halike.entryPoint, halike.exitPoint, halike.residentialExit]
  have hcriteria : criteriaOf (s.independenceCriteria relaxIndependence) =
      criteriaOf (t.independenceCriteria relaxIndependence) := by
    unfold independenceCriteria
    split
    · rfl
    · exact halike.criteria
  refine ⟨hconfig, hlists, hselection, hcriteria, ?_⟩
  have hselect : ∀ (selection : PairSelection) entryGateways exitGateways,
      selection.select entryGateways exitGateways (s.independenceCriteria relaxIndependence) rand
        relaxedRand = selection.select entryGateways exitGateways
          (t.independenceCriteria relaxIndependence) rand relaxedRand := by
    intro selection entryGateways exitGateways
    rw [← select_criteriaOf, hcriteria, select_criteriaOf]
  simp only [selectGatewayPair, hconfig, hlists, hselection, hselect]

end Unaffected

/-- The LAN is allowed and the notifications are switched. -/
theorem selection_eq_of_unaffected_lan :
    let t := { sampleSettings with
      allowLan := true
      gatewayIndependence := { sampleSettings.gatewayIndependence with
        enableNotifications := false } }
    sampleSettings.Unaffected t ∧ gatewayClientConfig ⟨"", [], [], none⟩ sampleSettings =
      gatewayClientConfig ⟨"", [], [], none⟩ t := by
  intro t
  have hdiff : sampleSettings.diff t = some ⟨[.allowLan]⟩ := by decide
  have h : sampleSettings.Unaffected t := by
    intro d hd
    obtain rfl := Option.some.inj (hdiff.symm.trans hd)
    rfl
  exact ⟨h, (selection_eq_of_unaffected h _ (fun _ _ => .error .offline) [] false (fun _ => 0)
    fun _ => 0).1⟩

end TunnelStateMachine
