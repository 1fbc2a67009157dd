import NymVpn.Gateway.Selection

/-!
# The exits a selection can come to

The loop drops all exits of an identity together, after it tried one of them; the random
numbers decide which one of the best tier. A selection can succeed exactly when one of these
has an entry, and always succeeds exactly when, for some identity, all of them have one.
-/

namespace GatewayDirectory

/-- An exit that some round can try: the first of the identity that was named, or one
of the best tier among the exits of its own identity. -/
structure ExitPoint.Tries (point : ExitPoint) (filters : GatewayFilters) (l : GatewayList)
    (g : Gateway) : Prop where
  mem : g ∈ l.gateways
  admits : point.sought.Admits filters l.gwType g
  best : ¬point.sought.NamesGateway → ∀ h ∈ l.gateways, h.identity = g.identity →
    point.sought.Admits filters l.gwType h → h.tier l.gwType ≤ g.tier l.gwType
  first : point.sought.NamesGateway → l.gatewayWithIdentity g.identity = some g

section Search

variable {point : ExitPoint} {filters : GatewayFilters} {l : GatewayList} {g x : Gateway} {r : ℕ}

theorem tries_of_findBestExitGateway (h : l.findBestExitGateway point filters r = .ok x) :
    ∃ g, x = point.adjust g ∧ point.Tries filters l g := by
  obtain ⟨g, hx, hchoice⟩ := findBestExitGateway_ok h
  exact ⟨g, hx, hchoice.mem, hchoice.admits, fun hnames h hh _ => hchoice.best hnames h hh,
    hchoice.first⟩

theorem ExitPoint.Tries.exists_findBestExitGateway (hg : point.Tries filters l g)
    (hx : l.findBestExitGateway point filters r = .ok x) (hid : g.identity = x.identity) :
    ∃ r', l.findBestExitGateway point filters r' = .ok (point.adjust g) := by
  obtain ⟨g₀, rfl, hchoice⟩ := findBestExitGateway_ok hx
  rw [ExitPoint.identity_adjust] at hid
  by_cases hnames : point.sought.NamesGateway
  · have hfirst := hg.first hnames
    rw [hid, hchoice.first hnames] at hfirst
    obtain rfl : g₀ = g := Option.some.inj hfirst
    exact ⟨r, hx⟩
  · refine exists_findBestExitGateway_eq hnames ⟨hg.mem, hg.admits, fun _ h hh hadmits => ?_,
      hg.first⟩
    exact Nat.le_trans (hchoice.best hnames h hh hadmits)
      (hg.best hnames g₀ hchoice.mem hid.symm hchoice.admits)

theorem tries_removeGateway_iff :
    point.Tries filters (l.removeGateway x) g ↔
      point.Tries filters l g ∧ g.identity ≠ x.identity := by
  have hmem (h : Gateway) : h ∈ (l.removeGateway x).gateways ↔
      h ∈ l.gateways ∧ h.identity ≠ x.identity := by
    rw [GatewayList.removeGateway, List.mem_filter, bne_iff_ne]
  have hfind (hne : g.identity ≠ x.identity) : (l.removeGateway x).gatewayWithIdentity g.identity =
      l.gatewayWithIdentity g.identity := by
    simp only [GatewayList.gatewayWithIdentity, GatewayList.removeGateway, List.find?_filter]
    congr 1
    funext h
    by_cases hid : h.identity = g.identity <;> simp [hid, hne]
  constructor
  · rintro ⟨hg, hadmits, hbest, hfirst⟩
    obtain ⟨hg, hne⟩ := (hmem g).1 hg
    refine ⟨⟨hg, hadmits, fun hnames h hh hid => ?_, fun hnames => hfind hne ▸ hfirst hnames⟩, hne⟩
    exact hbest hnames h ((hmem h).2 ⟨hh, hid ▸ hne⟩) hid
  · rintro ⟨⟨hg, hadmits, hbest, hfirst⟩, hne⟩
    refine ⟨(hmem g).2 ⟨hg, hne⟩, hadmits, fun hnames h hh => ?_, fun hnames => ?_⟩
    · exact hbest hnames h ((hmem h).1 hh).1
    · rw [hfind hne]
      exact hfirst hnames

end Search

namespace PairSelection

abbrev Tries (selection : PairSelection) (exits : GatewayList) (g : Gateway) : Prop :=
  selection.exitPoint.Tries selection.exitFilters exits g

abbrev Pairs (selection : PairSelection) (entries : GatewayList) (criteria : GatewayIndependence)
    (g : Gateway) : Prop :=
  selection.HasEntry entries criteria (selection.exitPoint.adjust g)

variable {selection : PairSelection} {entries exits candidates : GatewayList}
  {criteria : GatewayIndependence} {rand : ℕ → ℕ} {round : ℕ}
  {entryError : Option GatewayDirectoryError} {e x g : Gateway}

/-! ## One round -/

theorem exists_entry (h : selection.HasEntry entries criteria x) (r : ℕ) :
    ∃ e, (entryCandidates entries x criteria).findBestEntryGateway selection.entryPoint
      selection.entryFilters r = .ok e := by
  cases hentry : (entryCandidates entries x criteria).findBestEntryGateway selection.entryPoint
      selection.entryFilters r with
  | ok e => exact ⟨e, rfl⟩
  | error err => exact absurd h (not_hasEntry_of_error hentry)

theorem hasEntry_of_entry {r : ℕ}
    (h : (entryCandidates entries x criteria).findBestEntryGateway selection.entryPoint
      selection.entryFilters r = .ok e) : selection.HasEntry entries criteria x := by
  have hchoice := (searches_findBestEntryGateway _ _ r selection.entryPoint).found e h
  obtain ⟨hmem, hindependent⟩ := List.mem_filter.1 hchoice.mem
  exact ⟨e, hmem, hindependent, hchoice.admits⟩

theorem selectLoop_of_error {err : Error} (h : candidates.findBestExitGateway selection.exitPoint
      selection.exitFilters (rand (2 * round)) = .error err) :
    selection.selectLoop entries criteria rand round candidates entryError =
      .error (entryError.getD (.exitGatewayUnavailable err)) := by
  rw [selectLoop]
  split <;> simp_all

theorem selectLoop_of_entry (hx : candidates.findBestExitGateway selection.exitPoint
      selection.exitFilters (rand (2 * round)) = .ok x)
    (he : (entryCandidates entries x criteria).findBestEntryGateway selection.entryPoint
      selection.entryFilters (rand (2 * round + 1)) = .ok e) :
    selection.selectLoop entries criteria rand round candidates entryError = .ok (e, x) := by
  rw [selectLoop]
  split <;> simp_all

theorem selectLoop_of_drop {err : Error} (hx : candidates.findBestExitGateway selection.exitPoint
      selection.exitFilters (rand (2 * round)) = .ok x)
    (he : (entryCandidates entries x criteria).findBestEntryGateway selection.entryPoint
      selection.entryFilters (rand (2 * round + 1)) = .error err) :
    selection.selectLoop entries criteria rand round candidates entryError =
      selection.selectLoop entries criteria rand (round + 1) (candidates.removeGateway x)
        (some (.entryGatewayUnavailable err)) := by
  rw [selectLoop]
  split <;> simp_all

theorem selectLoop_congr (rand' : ℕ → ℕ) (h : ∀ i, 2 * round ≤ i → rand i = rand' i) :
    selection.selectLoop entries criteria rand round candidates entryError =
      selection.selectLoop entries criteria rand' round candidates entryError := by
  fun_induction selectLoop selection entries criteria rand round candidates entryError with
  | case1 round candidates entryError err herr =>
    rw [h _ (Nat.le_refl _)] at herr
    exact (selectLoop_of_error herr).symm
  | case2 round candidates entryError x hx _ e he =>
    rw [h _ (Nat.le_refl _)] at hx
    rw [h _ (Nat.le_succ _)] at he
    exact (selectLoop_of_entry hx he).symm
  | case3 round candidates entryError x hx _ err herr ih =>
    rw [h _ (Nat.le_refl _)] at hx
    rw [h _ (Nat.le_succ _)] at herr
    rw [selectLoop_of_drop hx herr]
    exact ih fun i hi => h i (by omega)

/-- A run that tries an exit with an entry first. -/
theorem exists_rand_of_hasEntry {r : ℕ}
    (hx : candidates.findBestExitGateway selection.exitPoint selection.exitFilters r = .ok x)
    (h : selection.HasEntry entries criteria x) :
    ∃ rand e x, selection.selectLoop entries criteria rand round candidates entryError =
      .ok (e, x) := by
  obtain ⟨e, he⟩ := exists_entry h r
  exact ⟨fun _ => r, e, x, selectLoop_of_entry hx he⟩

/-- A run that drops an exit first goes on as any run without that exit does. -/
theorem exists_rand_of_drop {r : ℕ} {P : Except GatewayDirectoryError (Gateway × Gateway) → Prop}
    (hx : candidates.findBestExitGateway selection.exitPoint selection.exitFilters r = .ok x)
    (h : ¬selection.HasEntry entries criteria x)
    (hrest : ∀ entryError, ∃ rand, P (selection.selectLoop entries criteria rand (round + 1)
      (candidates.removeGateway x) entryError)) :
    ∃ rand, P (selection.selectLoop entries criteria rand round candidates entryError) := by
  cases he : (entryCandidates entries x criteria).findBestEntryGateway selection.entryPoint
      selection.entryFilters r with
  | ok e => exact absurd (hasEntry_of_entry he) h
  | error err =>
    obtain ⟨rand, hrand⟩ := hrest (some (.entryGatewayUnavailable err))
    refine ⟨fun i => if i < 2 * (round + 1) then r else rand i, ?_⟩
    rw [selectLoop_of_drop (by rwa [if_pos (by omega)]) (by rwa [if_pos (by omega)]),
      selectLoop_congr rand fun i hi => if_neg (by omega)]
    exact hrand

/-! ## The whole loop -/

theorem tries_of_selectLoop
    (h : selection.selectLoop entries criteria rand round candidates entryError = .ok (e, x)) :
    ∃ g, selection.Tries candidates g ∧ selection.Pairs entries criteria g := by
  fun_induction selectLoop selection entries criteria rand round candidates entryError with
  | case1 round candidates entryError err herr => cases h
  | case2 round candidates entryError x hx _ e he =>
    obtain ⟨g, rfl, hg⟩ := tries_of_findBestExitGateway hx
    exact ⟨g, hg, hasEntry_of_entry he⟩
  | case3 round candidates entryError x hx _ err herr ih =>
    obtain ⟨g, hg, hpairs⟩ := ih h
    exact ⟨g, (tries_removeGateway_iff.1 hg).1, hpairs⟩

theorem selectLoop_ok_of_forall (rand : ℕ → ℕ) (round : ℕ)
    (entryError : Option GatewayDirectoryError) (hg : selection.Tries candidates g)
    (hall : ∀ g', selection.Tries candidates g' → g'.identity = g.identity →
      selection.Pairs entries criteria g') :
    ∃ e x, selection.selectLoop entries criteria rand round candidates entryError =
      .ok (e, x) := by
  fun_induction selectLoop selection entries criteria rand round candidates entryError with
  | case1 round candidates entryError err herr =>
    exact absurd hg.admits (findBestExitGateway_error herr g hg.mem)
  | case2 round candidates entryError x hx _ e he => exact ⟨e, x, rfl⟩
  | case3 round candidates entryError x hx _ err herr ih =>
    obtain ⟨g₀, rfl, hg₀⟩ := tries_of_findBestExitGateway hx
    have hne : g.identity ≠ (selection.exitPoint.adjust g₀).identity := by
      intro hid
      rw [ExitPoint.identity_adjust] at hid
      exact not_hasEntry_of_error herr (hall g₀ hg₀ hid.symm)
    refine ih (tries_removeGateway_iff.2 ⟨hg, hne⟩) fun g' hg' => ?_
    exact hall g' (tries_removeGateway_iff.1 hg').1

/-- Random numbers that lead to an exit with an entry, unless another one comes first. -/
theorem exists_selectLoop_ok (hg : selection.Tries candidates g)
    (hpairs : selection.Pairs entries criteria g) :
    ∃ rand e x, selection.selectLoop entries criteria rand round candidates entryError =
      .ok (e, x) := by
  induction hn : candidates.gateways.length using Nat.strongRecOn
    generalizing round candidates entryError with
  | _ n ih =>
  cases hx : candidates.findBestExitGateway selection.exitPoint selection.exitFilters 0 with
  | error err => exact absurd hg.admits (findBestExitGateway_error hx g hg.mem)
  | ok x =>
    by_cases hhas : selection.HasEntry entries criteria x
    · exact exists_rand_of_hasEntry hx hhas
    by_cases hid : g.identity = x.identity
    · obtain ⟨r, hr⟩ := hg.exists_findBestExitGateway hx hid
      exact exists_rand_of_hasEntry hr hpairs
    · refine exists_rand_of_drop (P := fun result => ∃ e x, result = .ok (e, x)) hx hhas
        fun entryError => ih _ ?_ (tries_removeGateway_iff.2 ⟨hg, hid⟩) rfl
      rw [← hn]
      exact length_removeGateway_lt (exists_of_findBestExitGateway hx)

/-- Random numbers that drop every identity, by an exit of it that has no entry. -/
theorem exists_selectLoop_error (round : ℕ) (entryError : Option GatewayDirectoryError)
    (hnone : ∀ g, selection.Tries candidates g → ∃ g', selection.Tries candidates g' ∧
      g'.identity = g.identity ∧ ¬selection.Pairs entries criteria g') :
    ∃ rand err, selection.selectLoop entries criteria rand round candidates entryError =
      .error err := by
  induction hn : candidates.gateways.length using Nat.strongRecOn
    generalizing round candidates entryError with
  | _ n ih =>
  cases hx : candidates.findBestExitGateway selection.exitPoint selection.exitFilters 0 with
  | error err => exact ⟨fun _ => 0, _, selectLoop_of_error hx⟩
  | ok x =>
    obtain ⟨g, rfl, hg⟩ := tries_of_findBestExitGateway hx
    obtain ⟨g', hg', hid, hpairs⟩ := hnone g hg
    obtain ⟨r, hr⟩ := hg'.exists_findBestExitGateway hx
      (hid.trans (selection.exitPoint.identity_adjust g).symm)
    refine exists_rand_of_drop (P := fun result => ∃ err, result = .error err) hr hpairs
      fun entryError => ih _ ?_ _ entryError (fun h hh => ?_) rfl
    · rw [← hn]
      exact length_removeGateway_lt (exists_of_findBestExitGateway hr)
    · obtain ⟨hh, hne⟩ := tries_removeGateway_iff.1 hh
      obtain ⟨h', hh', hid', hpairs'⟩ := hnone h hh
      exact ⟨h', tries_removeGateway_iff.2 ⟨hh', hid' ▸ hne⟩, hid', hpairs'⟩

/-! ## The selection -/

theorem selectWithCriteria_of_hasEntry (h : selection.HasEntry entries criteria x) :
    selection.selectWithCriteria entries exits criteria rand =
      selection.selectLoop entries criteria rand 0 exits none := by
  unfold selectWithCriteria
  split
  · next err herr =>
      obtain ⟨e, he, -, hadmits⟩ := h
      exact absurd hadmits ((searches_findBestEntryGateway entries selection.entryFilters 0
        selection.entryPoint).missing err herr e he)
  · rfl

theorem exists_selectWithCriteria_ok_iff :
    (∃ rand e x, selection.selectWithCriteria entries exits criteria rand = .ok (e, x)) ↔
      ∃ g, selection.Tries exits g ∧ selection.Pairs entries criteria g := by
  constructor
  · rintro ⟨rand, e, x, hok⟩
    unfold selectWithCriteria at hok
    split at hok
    · cases hok
    · exact tries_of_selectLoop hok
  · rintro ⟨g, hg, hpairs⟩
    obtain ⟨rand, e, x, hok⟩ := exists_selectLoop_ok hg hpairs
    exact ⟨rand, e, x, (selectWithCriteria_of_hasEntry hpairs).trans hok⟩

theorem forall_selectWithCriteria_ok_iff :
    (∀ rand, ∃ e x, selection.selectWithCriteria entries exits criteria rand = .ok (e, x)) ↔
      ∃ g, selection.Tries exits g ∧ ∀ g', selection.Tries exits g' →
        g'.identity = g.identity → selection.Pairs entries criteria g' := by
  constructor
  · intro hok
    by_contra hnone
    push Not at hnone
    obtain ⟨rand, err, herr⟩ := exists_selectLoop_error 0 none hnone
    obtain ⟨e, x, hpair⟩ := hok rand
    unfold selectWithCriteria at hpair
    split at hpair
    · cases hpair
    · rw [herr] at hpair
      cases hpair
  · rintro ⟨g, hg, hall⟩ rand
    obtain ⟨e, x, hok⟩ := selectLoop_ok_of_forall rand 0 none hg hall
    exact ⟨e, x, (selectWithCriteria_of_hasEntry (hall g hg rfl)).trans hok⟩

end PairSelection

end GatewayDirectory
