import NymVpn.Gateway.Selector

/-!
# What a selection returns

The loop returns an acceptable pair of the best tiers, or an error when there is none: every
exit it drops is one that no entry can be paired with.
-/

namespace GatewayDirectory

/-- An identity stands for one gateway: two entries of the list that share it are
the same. -/
def GatewayList.Keyed (l : GatewayList) : Prop :=
  ∀ x ∈ l.gateways, ∀ y ∈ l.gateways, x.identity = y.identity → x = y

theorem GatewayList.Keyed.removeGateway {l : GatewayList} (h : l.Keyed) (g : Gateway) :
    (l.removeGateway g).Keyed :=
  fun x hx y hy => h x (List.mem_of_mem_filter hx) y (List.mem_of_mem_filter hy)

variable {criteria : GatewayIndependence} {gw₁ gw₂ : Gateway}

theorem identity_ne_of_independent
    (h : gatewaysAreIndependent gw₁ gw₂ criteria = true) : gw₁.identity ≠ gw₂.identity := by
  intro hid
  simp [gatewaysAreIndependent, independenceViolations, hid] at h

theorem independent_of_not_active (h : criteria.active = false) :
    gatewaysAreIndependent gw₁ gw₂ criteria = (gw₁.identity != gw₂.identity) := by
  obtain ⟨hfamily, hasn, hsubnet⟩ : criteria.differentNodeFamily = false ∧
      criteria.differentAsn = false ∧ criteria.differentSubnet = false := by
    simpa [GatewayIndependence.active, and_assoc] using h
  simp only [gatewaysAreIndependent, independenceViolations, asnViolations, familyViolations,
    subnetViolations, hfamily, hasn, hsubnet, bne]
  cases gw₁.identity == gw₂.identity <;> rfl

namespace PairSelection

structure Eligible (selection : PairSelection) (entryGateways exitGateways : GatewayList)
    (e x : Gateway) : Prop where
  entry_mem : e ∈ entryGateways.gateways
  entry_admits : selection.entryPoint.sought.Admits selection.entryFilters entryGateways.gwType e
  exit_mem : ∃ g ∈ exitGateways.gateways, x = selection.exitPoint.adjust g
  exit_admits : selection.exitPoint.sought.Admits selection.exitFilters exitGateways.gwType x

structure Acceptable (selection : PairSelection) (entryGateways exitGateways : GatewayList)
    (criteria : GatewayIndependence) (e x : Gateway) : Prop
    extends selection.Eligible entryGateways exitGateways e x where
  independent : gatewaysAreIndependent e x criteria = true

variable {selection : PairSelection} {entries exits : GatewayList}
  {criteria : GatewayIndependence} {rand : ℕ → ℕ}

def HasEntry (selection : PairSelection) (entryGateways : GatewayList)
    (criteria : GatewayIndependence) (x : Gateway) : Prop :=
  ∃ e ∈ entryGateways.gateways, gatewaysAreIndependent e x criteria = true ∧
    selection.entryPoint.sought.Admits selection.entryFilters entryGateways.gwType e

/-- The pair of a round that ends the loop: an entry of the best tier among those of
the exit, and, as far as identities tell the candidates apart, an exit of the best
tier among those that have an entry. -/
structure IsPair (selection : PairSelection) (entryGateways : GatewayList)
    (criteria : GatewayIndependence) (candidates : GatewayList) (e x : Gateway) : Prop where
  exit : ∃ g ∈ candidates.gateways, x = selection.exitPoint.adjust g ∧
    selection.exitPoint.sought.Admits selection.exitFilters candidates.gwType g ∧
    (candidates.Keyed → ¬selection.exitPoint.sought.NamesGateway → ∀ h ∈ candidates.gateways,
      selection.exitPoint.sought.Admits selection.exitFilters candidates.gwType h →
      selection.HasEntry entryGateways criteria (selection.exitPoint.adjust h) →
      h.tier candidates.gwType ≤ g.tier candidates.gwType)
  entry : selection.entryPoint.sought.IsChoice selection.entryFilters
    (entryCandidates entryGateways x criteria) e

def Hopeless (selection : PairSelection) (entryGateways : GatewayList)
    (criteria : GatewayIndependence) (candidates : GatewayList) : Prop :=
  ∀ g ∈ candidates.gateways,
    selection.exitPoint.sought.Admits selection.exitFilters candidates.gwType g →
    ¬selection.HasEntry entryGateways criteria (selection.exitPoint.adjust g)

theorem not_hasEntry_of_error {x : Gateway} {r : ℕ} {e : Error}
    (h : (entryCandidates entries x criteria).findBestEntryGateway selection.entryPoint
      selection.entryFilters r = .error e) :
    ¬selection.HasEntry entries criteria x := by
  rintro ⟨g, hg, hindependent, hadmits⟩
  have hsearch := searches_findBestEntryGateway (entryCandidates entries x criteria)
    selection.entryFilters r selection.entryPoint
  exact hsearch.missing e h g (List.mem_filter.2 ⟨hg, hindependent⟩) hadmits

theorem eq_or_mem_removeGateway {candidates : GatewayList} (hkeyed : candidates.Keyed)
    {g h : Gateway} (hg : g ∈ candidates.gateways) (hh : h ∈ candidates.gateways) {x : Gateway}
    (hx : x.identity = g.identity) : h = g ∨ h ∈ (candidates.removeGateway x).gateways := by
  by_cases hid : h.identity = g.identity
  · exact Or.inl (hkeyed h hh g hg hid)
  · refine Or.inr (List.mem_filter.2 ⟨hh, ?_⟩)
    simp [hx, hid]

variable (round : ℕ) (candidates : GatewayList) (entryError : Option GatewayDirectoryError)
  {relaxedRand : ℕ → ℕ} {e x : Gateway}

/-- Each round returns a pair, fails for want of an exit, or drops an exit that
has no entry. -/
theorem selectLoop_spec :
    (∀ e x, selection.selectLoop entries criteria rand round candidates entryError =
        .ok (e, x) → selection.IsPair entries criteria candidates e x) ∧
    (∀ err, selection.selectLoop entries criteria rand round candidates entryError =
        .error err → candidates.Keyed → selection.Hopeless entries criteria candidates) := by
  fun_induction selectLoop selection entries criteria rand round candidates entryError with
  | case1 round candidates entryError err herr =>
    refine ⟨fun e x hok => (by cases hok), fun err' _ _ g hg hadmits => ?_⟩
    exact absurd hadmits (findBestExitGateway_error herr g hg)
  | case2 round candidates entryError x hx _ e he =>
    refine ⟨fun e' x' hok => ?_, fun err herr => (by cases herr)⟩
    obtain ⟨rfl, rfl⟩ : e = e' ∧ x = x' := by simpa using hok
    obtain ⟨g, rfl, hchoice⟩ := findBestExitGateway_ok hx
    refine ⟨⟨g, hchoice.mem, rfl, hchoice.admits, ?_⟩, ?_⟩
    · exact fun _ hnamed h hh hadmits _ => hchoice.best hnamed h hh hadmits
    · exact (searches_findBestEntryGateway _ _ _ selection.entryPoint).found e he
  | case3 round candidates entryError x hx _ err herr ih =>
    obtain ⟨g, rfl, hchoice⟩ := findBestExitGateway_ok hx
    have hnone := not_hasEntry_of_error herr
    have hsplit (hkeyed : candidates.Keyed) {h : Gateway} (hh : h ∈ candidates.gateways) :=
      eq_or_mem_removeGateway hkeyed hchoice.mem hh (selection.exitPoint.identity_adjust g)
    obtain ⟨ihok, iherr⟩ := ih
    constructor
    · intro e x' hok
      obtain ⟨⟨g', hg', hx', hadmits', hbest⟩, hentry⟩ := ihok e x' hok
      refine ⟨⟨g', List.mem_of_mem_filter hg', hx', hadmits', ?_⟩, hentry⟩
      intro hkeyed hnamed h hh hadmits hhas
      rcases hsplit hkeyed hh with rfl | hmem
      · exact absurd hhas hnone
      · exact hbest (hkeyed.removeGateway _) hnamed h hmem hadmits hhas
    · intro err' herr' hkeyed h hh hadmits hhas
      rcases hsplit hkeyed hh with rfl | hmem
      · exact hnone hhas
      · exact iherr err' herr' (hkeyed.removeGateway _) h hmem hadmits hhas

theorem acceptable_iff :
    selection.Acceptable entries exits criteria e x ↔
      (∃ g ∈ exits.gateways, x = selection.exitPoint.adjust g ∧
        selection.exitPoint.sought.Admits selection.exitFilters exits.gwType g) ∧
      e ∈ (entryCandidates entries x criteria).gateways ∧
      selection.entryPoint.sought.Admits selection.entryFilters entries.gwType e := by
  constructor
  · rintro ⟨⟨hmem, hadmits, ⟨g, hg, rfl⟩, hexit⟩, hindependent⟩
    exact ⟨⟨g, hg, rfl, ExitPoint.admits_adjust.1 hexit⟩,
      List.mem_filter.2 ⟨hmem, hindependent⟩, hadmits⟩
  · rintro ⟨⟨g, hg, rfl, hexit⟩, he, hadmits⟩
    obtain ⟨hmem, hindependent⟩ := List.mem_filter.1 he
    exact ⟨⟨hmem, hadmits, ⟨g, hg, rfl⟩, ExitPoint.admits_adjust.2 hexit⟩, hindependent⟩

theorem acceptable_of_not_active (h : criteria.active = false) :
    selection.Acceptable entries exits criteria e x ↔
      selection.Eligible entries exits e x ∧ e.identity ≠ x.identity := by
  have hindependent : gatewaysAreIndependent e x criteria = true ↔ e.identity ≠ x.identity := by
    rw [independent_of_not_active h, bne_iff_ne]
  constructor
  · rintro ⟨heligible, hi⟩
    exact ⟨heligible, hindependent.1 hi⟩
  · rintro ⟨heligible, hne⟩
    exact ⟨heligible, hindependent.2 hne⟩

theorem Hopeless.not_acceptable (h : selection.Hopeless entries criteria exits) :
    ¬∃ e x, selection.Acceptable entries exits criteria e x := by
  rintro ⟨e, x, hpair⟩
  obtain ⟨⟨g, hg, rfl, hexit⟩, -⟩ := acceptable_iff.1 hpair
  exact h g hg hexit ⟨e, hpair.entry_mem, hpair.independent, hpair.entry_admits⟩

section Criteria

variable {e x e' x' : Gateway}

theorem isPair_of_ok
    (h : selection.selectWithCriteria entries exits criteria rand = .ok (e, x)) :
    selection.IsPair entries criteria exits e x := by
  unfold selectWithCriteria at h
  split at h
  · cases h
  · exact (selectLoop_spec 0 exits none).1 e x h

theorem acceptable_of_ok
    (h : selection.selectWithCriteria entries exits criteria rand = .ok (e, x)) :
    selection.Acceptable entries exits criteria e x := by
  obtain ⟨⟨g, hg, hx, hadmits, -⟩, hentry⟩ := isPair_of_ok h
  exact acceptable_iff.2 ⟨⟨g, hg, hx, hadmits⟩, hentry.mem, hentry.admits⟩

variable (hkeyed : exits.Keyed)

include hkeyed

theorem exit_tier_le_of_ok
    (h : selection.selectWithCriteria entries exits criteria rand = .ok (e, x))
    (hnamed : ¬selection.exitPoint.sought.NamesGateway)
    (hpair : selection.Acceptable entries exits criteria e' x') :
    x'.tier exits.gwType ≤ x.tier exits.gwType := by
  obtain ⟨⟨g, -, rfl, -, hbest⟩, -⟩ := isPair_of_ok h
  obtain ⟨⟨g', hg', rfl, hadmits'⟩, -⟩ := acceptable_iff.1 hpair
  have hhas : selection.HasEntry entries criteria (selection.exitPoint.adjust g') :=
    ⟨e', hpair.entry_mem, hpair.independent, hpair.entry_admits⟩
  rw [ExitPoint.tier_adjust, ExitPoint.tier_adjust]
  exact hbest hkeyed hnamed g' hg' hadmits' hhas

theorem not_acceptable_of_error {err : GatewayDirectoryError}
    (h : selection.selectWithCriteria entries exits criteria rand = .error err) :
    ¬∃ e x, selection.Acceptable entries exits criteria e x := by
  unfold selectWithCriteria at h
  split at h
  · next _ hnone =>
      rintro ⟨e, x, hpair⟩
      have hsearch := searches_findBestEntryGateway entries selection.entryFilters 0
        selection.entryPoint
      exact hsearch.missing _ hnone e hpair.entry_mem hpair.entry_admits
  · exact ((selectLoop_spec 0 exits none).2 err h hkeyed).not_acceptable

theorem exists_error_iff :
    (∃ err, selection.selectWithCriteria entries exits criteria rand = .error err) ↔
      ¬∃ e x, selection.Acceptable entries exits criteria e x := by
  constructor
  · rintro ⟨err, herr⟩
    exact not_acceptable_of_error hkeyed herr
  · intro hnone
    cases h : selection.selectWithCriteria entries exits criteria rand with
    | error err => exact ⟨err, rfl⟩
    | ok pair => exact absurd ⟨pair.1, pair.2, acceptable_of_ok h⟩ hnone

theorem exists_ok_iff :
    (∃ e x, selection.selectWithCriteria entries exits criteria rand = .ok (e, x)) ↔
      ∃ e x, selection.Acceptable entries exits criteria e x := by
  constructor
  · rintro ⟨e, x, hok⟩
    exact ⟨e, x, acceptable_of_ok hok⟩
  · intro hpair
    cases h : selection.selectWithCriteria entries exits criteria rand with
    | error err => exact absurd hpair (not_acceptable_of_error hkeyed h)
    | ok pair => exact ⟨pair.1, pair.2, rfl⟩

end Criteria

theorem selectLoop_ne_needsRelaxed
    (hentry : ∀ v, entryError ≠ some (.needsRelaxedIndependenceCriteria v)) (v : String) :
    selection.selectLoop entries criteria rand round candidates entryError ≠
      .error (.needsRelaxedIndependenceCriteria v) := by
  fun_induction selectLoop selection entries criteria rand round candidates entryError with
  | case1 round candidates entryError err herr =>
    intro h
    cases entryError with
    | none => simp at h
    | some e => exact hentry v (by simpa using h)
  | case2 round candidates entryError x hx _ e he => simp
  | case3 round candidates entryError x hx _ err herr ih => exact ih (by simp)

theorem effective_of_entryFilters_nil (h : selection.entryFilters = []) :
    selection.effective entries = selection := by
  simp [effective, blacklistRulesOutEveryEntry, h]

theorem select_ok_iff {pair : Gateway × Gateway} :
    selection.select entries exits criteria rand relaxedRand = .ok pair ↔
      (selection.effective entries).selectWithCriteria entries exits criteria
        rand = .ok pair := by
  unfold select
  dsimp only
  cases (selection.effective entries).selectWithCriteria entries exits
      criteria rand with
  | ok pair' => rfl
  | error err =>
    cases criteria.active with
    | false => simp
    | true =>
      cases (selection.effective entries).selectWithCriteria entries exits
        .disabled relaxedRand <;> simp

theorem exists_needsRelaxed_iff_attempts :
    (∃ violated, selection.select entries exits criteria rand relaxedRand =
        .error (.needsRelaxedIndependenceCriteria violated)) ↔
      (∃ err, (selection.effective entries).selectWithCriteria entries exits
        criteria rand = .error err) ∧ criteria.active = true ∧
      ∃ e x, (selection.effective entries).selectWithCriteria entries exits
        .disabled relaxedRand = .ok (e, x) := by
  unfold select
  dsimp only
  cases hstrict : (selection.effective entries).selectWithCriteria entries
      exits criteria rand with
  | ok pair => simp
  | error err =>
    have herr (v : String) : err ≠ .needsRelaxedIndependenceCriteria v := by
      rintro rfl
      unfold selectWithCriteria at hstrict
      split at hstrict
      · simp at hstrict
      · exact selectLoop_ne_needsRelaxed 0 exits none (by simp) v hstrict
    cases criteria.active with
    | false => simp [herr]
    | true =>
      cases (selection.effective entries).selectWithCriteria entries exits
          .disabled relaxedRand with
      | ok pair =>
        obtain ⟨e, x⟩ := pair
        simp
      | error err' => simp [herr]

theorem exists_needsRelaxed_iff (hkeyed : exits.Keyed)
    (hfilters : selection.entryFilters = []) :
    (∃ violated, selection.select entries exits criteria rand relaxedRand =
        .error (.needsRelaxedIndependenceCriteria violated)) ↔
      (¬∃ e x, selection.Acceptable entries exits criteria e x) ∧
        ∃ e x, selection.Eligible entries exits e x ∧ e.identity ≠ x.identity := by
  rw [exists_needsRelaxed_iff_attempts, effective_of_entryFilters_nil hfilters,
    exists_error_iff hkeyed, exists_ok_iff hkeyed]
  simp only [acceptable_of_not_active (rfl : GatewayIndependence.disabled.active = false)]
  constructor
  · rintro ⟨hnone, -, hpair⟩
    exact ⟨hnone, hpair⟩
  · rintro ⟨hnone, e, x, hpair⟩
    refine ⟨hnone, ?_, e, x, hpair⟩
    -- With no criterion on the strict attempt would have taken the same pair.
    cases hactive : criteria.active with
    | true => rfl
    | false => exact absurd ⟨e, x, (acceptable_of_not_active hactive).2 hpair⟩ hnone

/-- The selection is sound and its entry is the best for the exit. As far as identities tell the
exits apart it is also complete, the exit is the best that has an entry, and the user is asked
to relax the criteria exactly when they alone rule every pair out. -/
theorem selectWithCriteria_sound_complete_optimal (selection : PairSelection)
    (entryGateways exitGateways : GatewayList) (criteria : GatewayIndependence)
    (rand relaxedRand : ℕ → ℕ) :
    (∀ e x, selection.selectWithCriteria entryGateways exitGateways criteria rand = .ok (e, x) →
      selection.Acceptable entryGateways exitGateways criteria e x ∧ e.identity ≠ x.identity ∧
      (¬selection.entryPoint.sought.NamesGateway →
        ∀ e', selection.Acceptable entryGateways exitGateways criteria e' x →
          e'.tier entryGateways.gwType ≤ e.tier entryGateways.gwType)) ∧
    (exitGateways.Keyed →
      (∀ e x, selection.selectWithCriteria entryGateways exitGateways criteria rand = .ok (e, x) →
        ¬selection.exitPoint.sought.NamesGateway →
        ∀ e' x', selection.Acceptable entryGateways exitGateways criteria e' x' →
          x'.tier exitGateways.gwType ≤ x.tier exitGateways.gwType) ∧
      ((∃ err, selection.selectWithCriteria entryGateways exitGateways criteria rand =
          .error err) ↔
        ¬∃ e x, selection.Acceptable entryGateways exitGateways criteria e x) ∧
      (selection.entryFilters = [] →
        ((∃ violated, selection.select entryGateways exitGateways criteria rand relaxedRand =
            .error (.needsRelaxedIndependenceCriteria violated)) ↔
          (¬∃ e x, selection.Acceptable entryGateways exitGateways criteria e x) ∧
          ∃ e x, selection.Eligible entryGateways exitGateways e x ∧
            e.identity ≠ x.identity))) := by
  constructor
  · intro e x hok
    have hpair := acceptable_of_ok hok
    refine ⟨hpair, identity_ne_of_independent hpair.independent, fun hnamed e' hpair' => ?_⟩
    obtain ⟨-, he', hadmits'⟩ := acceptable_iff.1 hpair'
    exact (isPair_of_ok hok).entry.best hnamed e' he' hadmits'
  · intro hkeyed
    refine ⟨fun e x hok hnamed e' x' hpair => ?_, exists_error_iff hkeyed, fun hfilters => ?_⟩
    · exact exit_tier_le_of_ok hkeyed hok hnamed hpair
    · exact exists_needsRelaxed_iff hkeyed hfilters

/-! ## Two gateways of one identity -/

def sampleGateway (identity : NodeIdentity) (asn : String) : Gateway :=
  { identity
    location := some ⟨"CH", "Zurich", some ⟨asn, none, .other⟩⟩
    iprAddress := none, authenticatorAddress := none, bridgeParams := none
    socks5Score := none, ips := [], clientsWsPort := none, clientsWssPort := none
    performance := some ⟨.high, .high⟩, lpControlPort := none, familyId := none }

def anyPair : PairSelection := ⟨.random, .random, [], []⟩

def differentAsnOnly : GatewayIndependence := ⟨true, false, true, false⟩

theorem keyed_singleton (gwType : Option GatewayType) (g : Gateway) :
    GatewayList.Keyed ⟨gwType, [g]⟩ := by
  intro x hx y hy _
  rw [List.mem_singleton.1 hx, List.mem_singleton.1 hy]

def soleEntry : GatewayList := ⟨some .wg, [sampleGateway 1 "AS1"]⟩

def dependentExit : GatewayList := ⟨some .wg, [sampleGateway 2 "AS1"]⟩

def namesakeExits : GatewayList := ⟨some .wg, [sampleGateway 2 "AS1", sampleGateway 2 "AS2"]⟩

theorem soleEntry_admits :
    anyPair.entryPoint.sought.Admits anyPair.entryFilters soleEntry.gwType
      (sampleGateway 1 "AS1") :=
  ⟨⟨rfl, rfl⟩, rfl⟩

/-- One entry and one exit in the same autonomous system: the selection fails,
and the user is asked. -/
theorem selectWithCriteria_sound_complete_optimal_sameAsn :
    ∃ violated, anyPair.select soleEntry dependentExit differentAsnOnly (fun _ => 0)
      (fun _ => 0) = .error (.needsRelaxedIndependenceCriteria violated) := by
  have hkeyed := (selectWithCriteria_sound_complete_optimal anyPair soleEntry dependentExit
    differentAsnOnly (fun _ => 0) (fun _ => 0)).2 (keyed_singleton _ _)
  refine (hkeyed.2.2 rfl).2 ⟨?_, sampleGateway 1 "AS1", sampleGateway 2 "AS1", ?_, by decide⟩
  · rintro ⟨e, x, hpair⟩
    obtain ⟨g, hg, hx⟩ := hpair.exit_mem
    obtain rfl : e = sampleGateway 1 "AS1" := List.mem_singleton.1 hpair.entry_mem
    obtain rfl : x = sampleGateway 2 "AS1" := hx.trans (List.mem_singleton.1 hg)
    exact absurd hpair.independent (by decide)
  · exact ⟨List.mem_singleton_self _, soleEntry_admits, ⟨_, List.mem_singleton_self _, rfl⟩,
      ⟨rfl, rfl⟩, rfl⟩

/-- With two exits of one identity the loop drops both, although one of them has an
entry. -/
theorem selectWithCriteria_drops_namesake :
    anyPair.Acceptable soleEntry namesakeExits differentAsnOnly (sampleGateway 1 "AS1")
        (sampleGateway 2 "AS2") ∧
      anyPair.selectWithCriteria soleEntry namesakeExits differentAsnOnly (fun _ => 0) =
        .error (.entryGatewayUnavailable .failedToSelectGatewayRandomly) := by
  constructor
  · have hexit : sampleGateway 2 "AS2" ∈ namesakeExits.gateways := by decide
    exact ⟨⟨List.mem_singleton_self _, soleEntry_admits, ⟨_, hexit, rfl⟩, ⟨rfl, rfl⟩, rfl⟩,
      by decide⟩
  · have hfirst : anyPair.selectWithCriteria soleEntry namesakeExits differentAsnOnly
        (fun _ => 0) = anyPair.selectLoop soleEntry differentAsnOnly (fun _ => 0) 0
          namesakeExits none := rfl
    have hdrop : namesakeExits.findBestExitGateway anyPair.exitPoint anyPair.exitFilters 0 =
        .ok (sampleGateway 2 "AS1") := by decide
    have hnone : (entryCandidates soleEntry (sampleGateway 2 "AS1")
        differentAsnOnly).findBestEntryGateway anyPair.entryPoint anyPair.entryFilters 0 =
        .error .failedToSelectGatewayRandomly := by decide
    have hempty : (namesakeExits.removeGateway (sampleGateway 2 "AS1")).findBestExitGateway
        anyPair.exitPoint anyPair.exitFilters 0 = .error .failedToSelectGatewayRandomly := by
      decide
    rw [hfirst]
    unfold selectLoop
    split <;> simp_all
    unfold selectLoop
    split <;> simp_all

end PairSelection

end GatewayDirectory
