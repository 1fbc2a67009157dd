import NymVpn.Gateway.Tried

/-!
# What the blacklist does to a selection

A blacklist is ignored where it leaves no entry at all. An entry that is left may still be
one that no exit can be paired with, and then the selection fails.
-/

namespace GatewayDirectory

theorem Sought.admits_blacklistFilters {s : Sought} {blacklist : List NodeIdentity}
    {gwType : Option GatewayType} {g : Gateway} :
    s.Admits (blacklistFilters blacklist) gwType g ↔
      s.Admits [] gwType g ∧ (s.NamesGateway ∨ g.identity ∉ blacklist) := by
  have hmatch : g.matchesAllFilters gwType (blacklistFilters blacklist) = true ↔
      g.identity ∉ blacklist := by
    cases blacklist with
    | nil => simp [blacklistFilters, Gateway.matchesAllFilters]
    | cons b bs =>
      simp [blacklistFilters, Gateway.matchesAllFilters, Gateway.matchesFilter,
        Gateway.isWhitelisted]
  cases s with
  | named identity => simp [Admits, NamesGateway]
  | anyOf own =>
    simp only [Admits, NamesGateway, hmatch, false_or]
    constructor
    · rintro ⟨⟨hlisted, hown⟩, hscore⟩
      exact ⟨⟨⟨rfl, hown⟩, hscore⟩, hlisted⟩
    · rintro ⟨⟨⟨-, hown⟩, hscore⟩, hlisted⟩
      exact ⟨⟨hlisted, hown⟩, hscore⟩

namespace PairSelection

def withBlacklist (selection : PairSelection) (blacklist : List NodeIdentity) : PairSelection :=
  { selection with entryFilters := blacklistFilters blacklist }

variable {selection : PairSelection} {entries exits : GatewayList}
  {criteria : GatewayIndependence} {blacklist : List NodeIdentity} {e x : Gateway}

theorem isOk_findBestEntryGateway {point : EntryPoint} {filters : GatewayFilters} {r : ℕ} :
    (entries.findBestEntryGateway point filters r).isOk = true ↔
      ∃ e ∈ entries.gateways, point.sought.Admits filters entries.gwType e := by
  have hsearch := searches_findBestEntryGateway entries filters r point
  cases hresult : entries.findBestEntryGateway point filters r with
  | ok g =>
    have hchoice := hsearch.found g hresult
    exact ⟨fun _ => ⟨g, hchoice.mem, hchoice.admits⟩, fun _ => rfl⟩
  | error err =>
    constructor
    · intro h
      cases h
    · rintro ⟨e, he, hadmits⟩
      exact absurd hadmits (hsearch.missing err hresult e he)

theorem blacklistRulesOutEveryEntry_iff :
    (selection.withBlacklist blacklist).blacklistRulesOutEveryEntry entries = true ↔
      ¬selection.entryPoint.sought.NamesGateway ∧
      (∃ e ∈ entries.gateways, selection.entryPoint.sought.Admits [] entries.gwType e) ∧
      ∀ e ∈ entries.gateways,
        selection.entryPoint.sought.Admits [] entries.gwType e → e.identity ∈ blacklist := by
  have hhead : (selection.withBlacklist blacklist).entryFilters.head?.isSome = true ↔
      blacklist ≠ [] := by
    cases blacklist <;> simp [withBlacklist, blacklistFilters]
  rw [blacklistRulesOutEveryEntry, Bool.and_eq_true, Bool.and_eq_true, Bool.not_eq_true',
    ← Bool.not_eq_true, isOk_findBestEntryGateway, isOk_findBestEntryGateway, hhead]
  simp only [withBlacklist, Sought.admits_blacklistFilters]
  constructor
  · rintro ⟨⟨-, hnone⟩, e, he, hadmits⟩
    refine ⟨fun hnames => hnone ⟨e, he, hadmits, Or.inl hnames⟩, ⟨e, he, hadmits⟩, ?_⟩
    intro e' he' hadmits'
    by_contra hlisted
    exact hnone ⟨e', he', hadmits', Or.inr hlisted⟩
  · rintro ⟨hnames, ⟨e, he, hadmits⟩, hall⟩
    refine ⟨⟨List.ne_nil_of_mem (hall e he hadmits), ?_⟩, e, he, hadmits⟩
    rintro ⟨e', he', hadmits', h | h⟩
    · exact hnames h
    · exact h (hall e' he' hadmits')

theorem effective_exit : ((selection.withBlacklist blacklist).effective entries).exitPoint =
      selection.exitPoint ∧
    ((selection.withBlacklist blacklist).effective entries).exitFilters = selection.exitFilters := by
  unfold effective
  split <;> exact ⟨rfl, rfl⟩

/-- The entry point admits the entry, and the blacklist leaves it: it names none, does
not list this one, or lists all and is then ignored. -/
def Leaves (selection : PairSelection) (entries : GatewayList) (blacklist : List NodeIdentity)
    (e : Gateway) : Prop :=
  selection.entryPoint.sought.Admits [] entries.gwType e ∧
    (selection.entryPoint.sought.NamesGateway ∨ e.identity ∉ blacklist ∨
      ∀ e' ∈ entries.gateways,
        selection.entryPoint.sought.Admits [] entries.gwType e' → e'.identity ∈ blacklist)

theorem admits_effective_iff (he : e ∈ entries.gateways) :
    ((selection.withBlacklist blacklist).effective entries).entryPoint.sought.Admits
        ((selection.withBlacklist blacklist).effective entries).entryFilters entries.gwType e ↔
      selection.Leaves entries blacklist e := by
  unfold effective Leaves
  by_cases hout : (selection.withBlacklist blacklist).blacklistRulesOutEveryEntry entries
  · obtain ⟨-, -, hall⟩ := blacklistRulesOutEveryEntry_iff.1 hout
    rw [if_pos hout]
    exact ⟨fun h => ⟨h, Or.inr (Or.inr hall)⟩, And.left⟩
  · rw [if_neg hout]
    change selection.entryPoint.sought.Admits (blacklistFilters blacklist) _ e ↔ _
    rw [Sought.admits_blacklistFilters, ← or_assoc]
    refine and_congr_right fun hadmits => ⟨Or.inl, fun h => ?_⟩
    rcases h with h | hall
    · exact h
    · -- A blacklist that lists every entry is ignored unless the point names one.
      by_contra hnot
      exact hout (blacklistRulesOutEveryEntry_iff.2
        ⟨fun hnames => hnot (Or.inl hnames), ⟨e, he, hadmits⟩, hall⟩)

theorem pairs_effective_iff {g : Gateway} :
    ((selection.withBlacklist blacklist).effective entries).Pairs entries criteria g ↔
      ∃ e ∈ entries.gateways, selection.Leaves entries blacklist e ∧
        gatewaysAreIndependent e (selection.exitPoint.adjust g) criteria = true := by
  unfold Pairs HasEntry
  rw [effective_exit.1]
  constructor
  · rintro ⟨e, he, hindependent, hadmits⟩
    exact ⟨e, he, (admits_effective_iff he).1 hadmits, hindependent⟩
  · rintro ⟨e, he, hleaves, hindependent⟩
    exact ⟨e, he, hindependent, (admits_effective_iff he).2 hleaves⟩

theorem tries_effective_iff {g : Gateway} :
    ((selection.withBlacklist blacklist).effective entries).Tries exits g ↔
      selection.Tries exits g := by
  unfold Tries
  rw [effective_exit.1, effective_exit.2]

theorem exists_select_ok_iff :
    (∃ rand relaxedRand e x, (selection.withBlacklist blacklist).select entries exits criteria
        rand relaxedRand = .ok (e, x)) ↔
      ∃ g, selection.Tries exits g ∧ ∃ e ∈ entries.gateways,
        selection.Leaves entries blacklist e ∧
        gatewaysAreIndependent e (selection.exitPoint.adjust g) criteria = true := by
  simp only [select_ok_iff, exists_const, exists_selectWithCriteria_ok_iff, tries_effective_iff,
    pairs_effective_iff]

theorem forall_select_ok_iff :
    (∀ rand relaxedRand, ∃ e x, (selection.withBlacklist blacklist).select entries exits criteria
        rand relaxedRand = .ok (e, x)) ↔
      ∃ g, selection.Tries exits g ∧
        ∀ g', selection.Tries exits g' → g'.identity = g.identity →
          ∃ e ∈ entries.gateways, selection.Leaves entries blacklist e ∧
            gatewaysAreIndependent e (selection.exitPoint.adjust g') criteria = true := by
  simp only [select_ok_iff, forall_const, forall_selectWithCriteria_ok_iff, tries_effective_iff,
    pairs_effective_iff]

theorem leaves_of_select_ok {rand relaxedRand : ℕ → ℕ}
    (h : (selection.withBlacklist blacklist).select entries exits criteria rand relaxedRand =
      .ok (e, x)) : selection.Leaves entries blacklist e := by
  have hpair := acceptable_of_ok (select_ok_iff.1 h)
  exact (admits_effective_iff hpair.entry_mem).1 hpair.entry_admits

theorem leaves_nil_iff :
    selection.Leaves entries [] e ↔
      selection.entryPoint.sought.Admits [] entries.gwType e := by
  simp [Leaves]

/-- A blacklist makes a selection that can succeed fail, for some random numbers, exactly when
each identity has an exit to try with which no entry that is left can be paired. Where an entry
is left that some exit can be paired with, no entry returned is blacklisted. -/
theorem blacklist_only_steers_iff (selection : PairSelection)
    (entryGateways exitGateways : GatewayList) (criteria : GatewayIndependence)
    (blacklist : List NodeIdentity) :
    (((∃ rand relaxedRand e x, (selection.withBlacklist []).select entryGateways exitGateways
        criteria rand relaxedRand = .ok (e, x)) →
      ∀ rand relaxedRand, ∃ e x, (selection.withBlacklist blacklist).select entryGateways
        exitGateways criteria rand relaxedRand = .ok (e, x)) ↔
      ((∃ g, selection.Tries exitGateways g ∧ ∃ e ∈ entryGateways.gateways,
          selection.entryPoint.sought.Admits [] entryGateways.gwType e ∧
          gatewaysAreIndependent e (selection.exitPoint.adjust g) criteria = true) →
        ∃ g, selection.Tries exitGateways g ∧
          ∀ g', selection.Tries exitGateways g' → g'.identity = g.identity →
            ∃ e ∈ entryGateways.gateways, selection.Leaves entryGateways blacklist e ∧
              gatewaysAreIndependent e (selection.exitPoint.adjust g') criteria = true)) ∧
    ((∃ e x, (selection.withBlacklist []).Acceptable entryGateways exitGateways criteria e x ∧
        e.identity ∉ blacklist) →
      ∀ rand relaxedRand e x, (selection.withBlacklist blacklist).select entryGateways
        exitGateways criteria rand relaxedRand = .ok (e, x) →
          ¬selection.entryPoint.sought.NamesGateway → e.identity ∉ blacklist) := by
  constructor
  · rw [exists_select_ok_iff, forall_select_ok_iff]
    simp only [leaves_nil_iff]
  · rintro ⟨e', x', hpair, hlisted⟩ rand relaxedRand e x hok hnames
    obtain ⟨-, h | h | hall⟩ := leaves_of_select_ok hok
    · exact absurd h hnames
    · exact h
    · exact absurd (hall e' hpair.entry_mem hpair.entry_admits) hlisted

/-! ## An entry that is left but of no use -/

def twoEntries : GatewayList := ⟨some .wg, [sampleGateway 1 "AS1", sampleGateway 2 "AS2"]⟩

def soleExit : GatewayList := ⟨some .wg, [sampleGateway 3 "AS2"]⟩

theorem tries_soleExit_iff {g : Gateway} :
    anyPair.Tries soleExit g ↔ g = sampleGateway 3 "AS2" := by
  constructor
  · intro h
    exact List.mem_singleton.1 h.mem
  · rintro rfl
    refine ⟨List.mem_singleton_self _, ⟨⟨rfl, rfl⟩, rfl⟩, fun _ h hh _ _ => ?_, False.elim⟩
    obtain rfl := List.mem_singleton.1 hh
    exact Nat.le_refl _

theorem can_select_twoEntries :
    ∃ rand relaxedRand e x, (anyPair.withBlacklist []).select twoEntries soleExit
      differentAsnOnly rand relaxedRand = .ok (e, x) :=
  exists_select_ok_iff.2 ⟨_, tries_soleExit_iff.2 rfl, sampleGateway 1 "AS1", by decide,
    leaves_nil_iff.2 ⟨⟨rfl, rfl⟩, rfl⟩, by decide⟩

/-- Blacklisting the second entry leaves the first, which is then the one returned. -/
theorem blacklist_only_steers_iff_twoEntries :
    ∃ e x, (anyPair.withBlacklist [2]).select twoEntries soleExit differentAsnOnly (fun _ => 0)
      (fun _ => 0) = .ok (e, x) ∧ e.identity ∉ [(2 : NodeIdentity)] := by
  obtain ⟨hsteers, hlisted⟩ := blacklist_only_steers_iff anyPair twoEntries soleExit
    differentAsnOnly [2]
  have hfirst : sampleGateway 1 "AS1" ∈ twoEntries.gateways := by decide
  have hadmits : anyPair.entryPoint.sought.Admits [] twoEntries.gwType (sampleGateway 1 "AS1") :=
    ⟨⟨rfl, rfl⟩, rfl⟩
  have hindependent : gatewaysAreIndependent (sampleGateway 1 "AS1") (sampleGateway 3 "AS2")
      differentAsnOnly = true := by decide
  obtain ⟨e, x, hok⟩ := hsteers.2 (fun _ => ⟨_, tries_soleExit_iff.2 rfl, fun g' hg' _ =>
    ⟨_, hfirst, ⟨hadmits, Or.inr (Or.inl (by decide))⟩, tries_soleExit_iff.1 hg' ▸ hindependent⟩⟩)
    can_select_twoEntries (fun _ => 0) (fun _ => 0)
  have hexit := List.mem_singleton_self (sampleGateway 3 "AS2")
  exact ⟨e, x, hok, hlisted ⟨_, _, ⟨⟨hfirst, hadmits, ⟨_, hexit, rfl⟩, ⟨rfl, rfl⟩, rfl⟩,
    hindependent⟩, by decide⟩ _ _ e x hok id⟩

/-- Blacklisting the first entry makes every selection fail, although it can succeed
without the blacklist. -/
theorem blacklist_fails_selection :
    (∃ rand relaxedRand e x, (anyPair.withBlacklist []).select twoEntries soleExit
        differentAsnOnly rand relaxedRand = .ok (e, x)) ∧
      ¬∃ rand relaxedRand e x, (anyPair.withBlacklist [1]).select twoEntries soleExit
        differentAsnOnly rand relaxedRand = .ok (e, x) := by
  refine ⟨can_select_twoEntries, ?_⟩
  rw [exists_select_ok_iff]
  rintro ⟨g, hg, e, he, hleaves, hindependent⟩
  obtain rfl := tries_soleExit_iff.1 hg
  have hentries : e = sampleGateway 1 "AS1" ∨ e = sampleGateway 2 "AS2" := by
    simpa [twoEntries] using he
  rcases hentries with rfl | rfl
  · -- The second entry is left, so the blacklist is not ignored.
    rcases hleaves.2 with h | h | hall
    · exact h
    · exact h (by decide)
    · have hsecond := hall (sampleGateway 2 "AS2") (by decide) ⟨⟨rfl, rfl⟩, rfl⟩
      exact absurd hsecond (by decide)
  · exact absurd hindependent (by decide)

end PairSelection

end GatewayDirectory
