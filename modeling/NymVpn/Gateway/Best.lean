import NymVpn.Gateway.Directory

/-!
# The best gateway of a list

A point that names a gateway takes the first one of that identity; any other point takes a
gateway of the highest tier among those it admits, whatever the random number.
-/

namespace GatewayDirectory

open GatewayList

/-! ## The tiers -/

def Gateway.tier (g : Gateway) (gwType : Option GatewayType) : ℕ :=
  (g.scoreFor gwType).elim 0 ScoreValue.priority

theorem Gateway.meetsScore_iff {g : Gateway} {gwType : Option GatewayType} {s : ScoreValue}
    (hs : 0 < s.priority) : g.meetsScore gwType s = true ↔ s.priority ≤ g.tier gwType := by
  unfold meetsScore tier
  cases g.scoreFor gwType with
  | none =>
    rw [Option.any_none, Option.elim_none]
    constructor
    · intro h
      cases h
    · intro h
      omega
  | some score => exact decide_eq_true_iff

theorem Gateway.tier_le_high (g : Gateway) (gwType : Option GatewayType) :
    g.tier gwType ≤ ScoreValue.high.priority := by
  unfold tier
  cases g.scoreFor gwType with
  | none => exact Nat.zero_le _
  | some score => cases score <;> decide

theorem chooseRandom_eq_none_iff {l : GatewayList} {filters : GatewayFilters} {r : ℕ} :
    l.chooseRandom filters r = none ↔ ∀ g ∈ l.gateways, ¬g.matchesAllFilters l.gwType filters := by
  have hlen : l.chooseRandom filters r = none ↔ l.filter filters = [] := by
    unfold chooseRandom
    rw [List.getElem?_eq_none_iff]
    constructor
    · intro h
      by_contra hne
      exact absurd (Nat.mod_lt r (List.length_pos_of_ne_nil hne)) (by omega)
    · intro h
      simp [h]
  rw [hlen, GatewayList.filter, List.filter_eq_nil_iff]

/-- What a search by tiers promises: the best gateway that satisfies `P`. -/
structure IsBest (l : GatewayList) (P : Gateway → Prop) (g : Gateway) : Prop where
  mem : g ∈ l.gateways
  holds : P g
  best : ∀ h ∈ l.gateways, P h → h.tier l.gwType ≤ g.tier l.gwType

section Tiers

variable {l : GatewayList} {P : Gateway → Prop} {search : ScoreValue → Except Error Gateway}

/-- A search at one tier: any gateway of the tier or above that satisfies `P`. -/
structure TierSearch (l : GatewayList) (P : Gateway → Prop)
    (search : ScoreValue → Except Error Gateway) : Prop where
  found : ∀ s g, search s = .ok g → g ∈ l.gateways ∧ P g ∧ g.meetsScore l.gwType s
  missing : ∀ s e, search s = .error e → e.isUnmatchedNonSpecificGateway = true ∧
    ∀ g ∈ l.gateways, P g → ¬g.meetsScore l.gwType s

variable {g : Gateway} {e : Error} {s : ScoreValue}

/-- A gateway found at a tier is the best when no tier above has one. -/
theorem TierSearch.isBest (h : TierSearch l P search) (hs : 0 < s.priority)
    (hfound : search s = .ok g) (habove : ∀ h ∈ l.gateways, P h → h.tier l.gwType ≤ s.priority) :
    IsBest l (fun g => P g ∧ g.meetsScore l.gwType .low) g := by
  obtain ⟨hmem, hP, hscore⟩ := h.found s g hfound
  have htier := (Gateway.meetsScore_iff hs).1 hscore
  refine ⟨hmem, ⟨hP, (Gateway.meetsScore_iff (by decide)).2 ?_⟩, fun h hh hhP => ?_⟩
  · exact Nat.le_trans hs htier
  · exact Nat.le_trans (habove h hh hhP.1) htier

theorem TierSearch.tier_lt (h : TierSearch l P search) (hs : 0 < s.priority)
    (hmissing : search s = .error e) (hg : g ∈ l.gateways) (hP : P g) :
    g.tier l.gwType < s.priority := by
  have hscore := (h.missing s e hmissing).2 g hg hP
  rw [Gateway.meetsScore_iff hs] at hscore
  omega

theorem TierSearch.firstTier_spec (h : TierSearch l P search) (last : Error) (tiers : List ScoreValue)
    (htiers : tiers.map ScoreValue.priority = (List.range' 1 tiers.length).reverse)
    (hbound : ∀ g ∈ l.gateways, P g → g.tier l.gwType ≤ tiers.length) :
    match firstTier search last tiers with
    | .ok g => IsBest l (fun g => P g ∧ g.meetsScore l.gwType .low) g
    | .error _ => ∀ g ∈ l.gateways, P g → ¬g.meetsScore l.gwType .low := by
  induction tiers with
  | nil =>
    intro g hg hP hscore
    exact absurd ((Gateway.meetsScore_iff (by decide)).1 hscore) (Nat.not_lt.2 (hbound g hg hP))
  | cons s tiers ih =>
    obtain ⟨hs, htiers⟩ : s.priority = tiers.length + 1 ∧
        tiers.map ScoreValue.priority = (List.range' 1 tiers.length).reverse := by
      simpa [List.range'_1_concat, Nat.add_comm] using htiers
    cases hsearch : search s with
    | ok g =>
      simp only [firstTier, hsearch]
      exact h.isBest (by omega) hsearch fun g hg hP => hs ▸ hbound g hg hP
    | error e =>
      simp only [firstTier, hsearch, (h.missing _ _ hsearch).1, if_true]
      refine ih htiers fun g hg hP => ?_
      have := h.tier_lt (by omega) hsearch hg hP
      omega

theorem tierSearch_chooseRandom {filters : ScoreValue → GatewayFilters} {r : ℕ}
    (he : e.isUnmatchedNonSpecificGateway = true)
    (hfilters : ∀ g s, g.matchesAllFilters l.gwType (filters s) = true ↔
      P g ∧ g.meetsScore l.gwType s = true) :
    TierSearch l P fun s => (l.chooseRandom (filters s) r).elim (.error e) .ok := by
  constructor
  · intro s g hok
    cases hchoice : l.chooseRandom (filters s) r with
    | none => simp [hchoice] at hok
    | some g' =>
      obtain rfl : g' = g := by simpa [hchoice] using hok
      have hmem : g' ∈ l.filter (filters s) := List.mem_of_getElem? hchoice
      exact ⟨(List.mem_filter.1 hmem).1, (hfilters g' s).1 (List.mem_filter.1 hmem).2⟩
  · intro s err herr
    cases hchoice : l.chooseRandom (filters s) r with
    | some g' => simp [hchoice] at herr
    | none =>
      obtain rfl : e = err := by simpa [hchoice] using herr
      refine ⟨he, fun g hg hP hscore => ?_⟩
      exact chooseRandom_eq_none_iff.1 hchoice g hg ((hfilters g s).2 ⟨hP, hscore⟩)

theorem exists_chooseRandom_eq {filters : GatewayFilters} (hg : g ∈ l.gateways)
    (hmatch : g.matchesAllFilters l.gwType filters = true) :
    ∃ r, l.chooseRandom filters r = some g := by
  have hmem : g ∈ l.filter filters := List.mem_filter.2 ⟨hg, hmatch⟩
  obtain ⟨r, hr, heq⟩ := List.getElem_of_mem hmem
  refine ⟨r, ?_⟩
  simp only [chooseRandom, Nat.mod_eq_of_lt hr]
  exact List.getElem?_eq_some_iff.2 ⟨hr, heq⟩

theorem exists_firstTier_eq {search : ℕ → ScoreValue → Except Error Gateway}
    (h : ∀ r, TierSearch l P (search r))
    (hreach : ∀ s, g.meetsScore l.gwType s = true → ∃ r, search r s = .ok g)
    (hbest : IsBest l (fun g => P g ∧ g.meetsScore l.gwType .low) g) (last : Error)
    (tiers : List ScoreValue)
    (htiers : tiers.map ScoreValue.priority = (List.range' 1 tiers.length).reverse)
    (hbound : g.tier l.gwType ≤ tiers.length) :
    ∃ r, firstTier (search r) last tiers = .ok g := by
  have hlow := (Gateway.meetsScore_iff (by decide)).1 hbest.holds.2
  induction tiers with
  | nil => exact absurd hlow (Nat.not_lt.2 hbound)
  | cons s tiers ih =>
    obtain ⟨hs, htiers⟩ : s.priority = tiers.length + 1 ∧
        tiers.map ScoreValue.priority = (List.range' 1 tiers.length).reverse := by
      simpa [List.range'_1_concat, Nat.add_comm] using htiers
    by_cases hscore : g.meetsScore l.gwType s = true
    · obtain ⟨r, hr⟩ := hreach s hscore
      exact ⟨r, by simp only [firstTier, hr]⟩
    · rw [Gateway.meetsScore_iff (by omega)] at hscore
      obtain ⟨r, hr⟩ := ih htiers (by omega)
      refine ⟨r, ?_⟩
      cases hsearch : search r s with
      | ok g' =>
        -- A gateway above the tier of the best one is not admitted.
        obtain ⟨hmem, hP, hscore'⟩ := (h r).found s g' hsearch
        have htier := (Gateway.meetsScore_iff (by omega)).1 hscore'
        have hlow' : g'.meetsScore l.gwType .low = true :=
          (Gateway.meetsScore_iff (by decide)).2 (Nat.le_trans (hs ▸ Nat.le_add_left 1 _) htier)
        exact absurd (hbest.best g' hmem ⟨hP, hlow'⟩) (by omega)
      | error e =>
        simp only [firstTier, hsearch, ((h r).missing _ _ hsearch).1, if_true]
        exact hr

end Tiers

/-! ## Entry and exit points -/

inductive Sought where
  | named (identity : NodeIdentity)
  | anyOf (filters : GatewayFilters)

def EntryPoint.sought : EntryPoint → Sought
  | .gateway identity => .named identity
  | .country code => .anyOf [.country code]
  | .region name => .anyOf [.country countryWithRegionSelector, .region name]
  | .random => .anyOf []

def ExitPoint.sought : ExitPoint → Sought
  | .address recipient => .named recipient.gateway
  | .gateway identity => .named identity
  | .country code => .anyOf [.country code]
  | .region name => .anyOf [.country countryWithRegionSelector, .region name]
  | .random => .anyOf []

def ExitPoint.adjust : ExitPoint → Gateway → Gateway
  | .address recipient, g => { g with iprAddress := some recipient }
  | _, g => g

def Sought.NamesGateway : Sought → Prop
  | .named _ => True
  | .anyOf _ => False

/-- The gateway is the named one, or passes the filters with a score of at least
low. -/
def Sought.Admits (filters : GatewayFilters) (gwType : Option GatewayType) (g : Gateway) :
    Sought → Prop
  | .named identity => g.identity = identity
  | .anyOf own => (g.matchesAllFilters gwType filters = true ∧
      g.matchesAllFilters gwType own = true) ∧ g.meetsScore gwType .low = true

/-- A gateway that a search may return: the first of the identity that was named, or
one of the best tier among those admitted. -/
structure Sought.IsChoice (s : Sought) (filters : GatewayFilters) (l : GatewayList)
    (g : Gateway) : Prop where
  mem : g ∈ l.gateways
  admits : s.Admits filters l.gwType g
  best : ¬s.NamesGateway → ∀ h ∈ l.gateways, s.Admits filters l.gwType h →
    h.tier l.gwType ≤ g.tier l.gwType
  first : s.NamesGateway → l.gatewayWithIdentity g.identity = some g

structure Sought.Searches (s : Sought) (filters : GatewayFilters) (l : GatewayList)
    (result : Except Error Gateway) : Prop where
  found : ∀ g, result = .ok g → s.IsChoice filters l g
  missing : ∀ e, result = .error e → ∀ g ∈ l.gateways, ¬s.Admits filters l.gwType g

section Search

variable {l : GatewayList} {filters : GatewayFilters} {r : ℕ}

variable {last e : Error} {point : ExitPoint} {x : Gateway}

theorem firstTier_const {result : Except Error Gateway}
    (h : ∀ e, result = .error e → e.isUnmatchedNonSpecificGateway = false) :
    firstTier (fun _ => result) last scoreTiers = result := by
  cases result with
  | ok g => rfl
  | error e => simp [scoreTiers, firstTier, h e rfl]

def lookup (l : GatewayList) (identity : NodeIdentity) : Except Error Gateway :=
  (l.gatewayWithIdentity identity).elim (.error (.noMatchingGateway identity)) .ok

theorem lookup_error {identity : NodeIdentity} (h : lookup l identity = .error e) :
    e.isUnmatchedNonSpecificGateway = false := by
  unfold lookup at h
  cases hfind : l.gatewayWithIdentity identity with
  | none =>
    obtain rfl : .noMatchingGateway identity = e := by simpa [hfind] using h
    rfl
  | some g => simp [hfind] at h

theorem searches_lookup (identity : NodeIdentity) :
    (Sought.named identity).Searches filters l (lookup l identity) := by
  unfold lookup
  cases hfind : l.gatewayWithIdentity identity with
  | none =>
    refine ⟨fun g hok => by simp at hok, fun _ _ g hg hid => ?_⟩
    exact List.find?_eq_none.1 hfind g hg (beq_iff_eq.2 hid)
  | some g' =>
    refine ⟨fun g hok => ?_, fun e herr => by simp at herr⟩
    obtain rfl : g' = g := by simpa using hok
    have hid : g'.identity = identity := by simpa using List.find?_some hfind
    exact ⟨List.mem_of_find?_eq_some hfind, hid, fun hn => absurd trivial hn, fun _ => hid ▸ hfind⟩

theorem matchesAllFilters_anyOf (filters own : GatewayFilters) (g : Gateway) (s : ScoreValue) :
    g.matchesAllFilters l.gwType ((filters.with [.minScore s]).with own) = true ↔
      (g.matchesAllFilters l.gwType filters = true ∧ g.matchesAllFilters l.gwType own = true) ∧
        g.meetsScore l.gwType s = true := by
  have hscore : g.matchesAllFilters l.gwType [.minScore s] = g.meetsScore l.gwType s := by
    simp [Gateway.matchesAllFilters, Gateway.matchesFilter]
  rw [Gateway.matchesAllFilters_with, Gateway.matchesAllFilters_with, hscore,
    Bool.and_eq_true, Bool.and_eq_true]
  tauto

theorem searches_anyOf {own : GatewayFilters} (he : e.isUnmatchedNonSpecificGateway = true) :
    (Sought.anyOf own).Searches filters l
      (firstTier (fun s => (l.chooseRandom ((filters.with [.minScore s]).with own) r).elim
        (.error e) .ok) last scoreTiers) := by
  have htier := tierSearch_chooseRandom (l := l) (r := r) he (matchesAllFilters_anyOf filters own)
  have hspec := htier.firstTier_spec last scoreTiers rfl fun g _ _ => g.tier_le_high _
  refine ⟨fun g hok => ?_, fun err herr g hg hadmits => ?_⟩
  · rw [hok] at hspec
    exact ⟨hspec.mem, hspec.holds, fun _ => hspec.best, False.elim⟩
  · rw [herr] at hspec
    exact hspec g hg hadmits.1 hadmits.2

theorem searches_random :
    (Sought.anyOf []).Searches filters l
      (firstTier (fun s => (l.chooseRandom (filters.with [.minScore s]) r).elim
        (.error .failedToSelectGatewayRandomly) .ok) last scoreTiers) := by
  have hspec : (Sought.anyOf []).Searches filters l
      (firstTier (fun s => (l.chooseRandom ((filters.with [.minScore s]).with []) r).elim
        (.error .failedToSelectGatewayRandomly) .ok) last scoreTiers) := searches_anyOf rfl
  simpa only [GatewayFilters.with, List.append_nil] using hspec

theorem searches_findBestEntryGateway (l : GatewayList) (filters : GatewayFilters) (r : ℕ)
    (point : EntryPoint) :
    point.sought.Searches filters l (l.findBestEntryGateway point filters r) := by
  cases point with
  | gateway identity =>
    have hconst : l.findBestEntryGateway (.gateway identity) filters r = lookup l identity :=
      firstTier_const fun _ => lookup_error
    rw [hconst]
    exact searches_lookup identity
  | country code | region name => exact searches_anyOf rfl
  | random => exact searches_random

theorem searches_findBestExitGateway (l : GatewayList) (filters : GatewayFilters) (r : ℕ)
    (point : ExitPoint) :
    ∃ result, point.sought.Searches filters l result ∧
      l.findBestExitGateway point filters r = result.map point.adjust := by
  have hid {result : Except Error Gateway} (point : ExitPoint) (h : point.adjust = id) :
      result = result.map point.adjust := by
    rw [h]
    cases result <;> rfl
  cases point with
  | address recipient =>
    refine ⟨lookup l recipient.gateway, searches_lookup _, ?_⟩
    have hmap : (fun _ : ScoreValue => l.findExitGateway (.address recipient) filters r) =
        fun _ => (lookup l recipient.gateway).map (ExitPoint.address recipient).adjust := by
      funext s
      simp only [findExitGateway, lookup]
      cases l.gatewayWithIdentity recipient.gateway <;> rfl
    have hconst : l.findBestExitGateway (.address recipient) filters r =
        firstTier (fun _ => l.findExitGateway (.address recipient) filters r)
          (.noMatchingGateway recipient.gateway) scoreTiers := rfl
    rw [hconst, hmap]
    refine firstTier_const fun e herr => ?_
    cases hlookup : lookup l recipient.gateway with
    | ok g => simp [hlookup, Except.map] at herr
    | error e' =>
      obtain rfl : e' = e := by simpa [hlookup, Except.map] using herr
      exact lookup_error hlookup
  | gateway identity =>
    refine ⟨lookup l identity, searches_lookup _, ?_⟩
    have hconst : l.findBestExitGateway (.gateway identity) filters r = lookup l identity :=
      firstTier_const fun _ => lookup_error
    exact hconst.trans (hid _ rfl)
  | country code | region name => exact ⟨_, searches_anyOf rfl, hid _ rfl⟩
  | random => exact ⟨_, searches_random, hid _ rfl⟩

theorem ExitPoint.identity_adjust (point : ExitPoint) (g : Gateway) :
    (point.adjust g).identity = g.identity := by
  cases point <;> rfl

theorem ExitPoint.tier_adjust (g : Gateway) (gwType : Option GatewayType) :
    (point.adjust g).tier gwType = g.tier gwType := by
  cases point <;> rfl

theorem ExitPoint.admits_adjust {g : Gateway} {gwType : Option GatewayType} :
    point.sought.Admits filters gwType (point.adjust g) ↔ point.sought.Admits filters gwType g := by
  cases point <;> rfl

theorem findBestExitGateway_ok (h : l.findBestExitGateway point filters r = .ok x) :
    ∃ g, x = point.adjust g ∧ point.sought.IsChoice filters l g := by
  obtain ⟨result, hsearch, heq⟩ := searches_findBestExitGateway l filters r point
  rw [heq] at h
  cases result with
  | error e => cases h
  | ok g =>
    obtain rfl : point.adjust g = x := by simpa [Except.map] using h
    exact ⟨g, rfl, hsearch.found g rfl⟩

theorem findBestExitGateway_error (h : l.findBestExitGateway point filters r = .error e) :
    ∀ g ∈ l.gateways, ¬point.sought.Admits filters l.gwType g := by
  obtain ⟨result, hsearch, heq⟩ := searches_findBestExitGateway l filters r point
  rw [heq] at h
  cases result with
  | error e' => exact hsearch.missing e' rfl
  | ok g => cases h

theorem exists_firstTier_anyOf {own : GatewayFilters} {g : Gateway}
    (he : e.isUnmatchedNonSpecificGateway = true) (last : Error)
    (h : (Sought.anyOf own).IsChoice filters l g) :
    ∃ r, firstTier (fun s => (l.chooseRandom ((filters.with [.minScore s]).with own) r).elim
      (.error e) .ok) last scoreTiers = .ok g := by
  have hmatch := matchesAllFilters_anyOf (l := l) filters own
  refine exists_firstTier_eq (fun r => tierSearch_chooseRandom he hmatch) (fun s hscore => ?_)
    ⟨h.mem, h.admits, h.best id⟩ last scoreTiers rfl (g.tier_le_high _)
  obtain ⟨r, hr⟩ := exists_chooseRandom_eq h.mem ((hmatch g s).2 ⟨h.admits.1, hscore⟩)
  exact ⟨r, by rw [hr]; rfl⟩

theorem exists_findBestExitGateway_eq {g : Gateway} (hnames : ¬point.sought.NamesGateway)
    (h : point.sought.IsChoice filters l g) :
    ∃ r, l.findBestExitGateway point filters r = .ok (point.adjust g) := by
  cases point with
  | address recipient | gateway identity => exact absurd trivial hnames
  | country code | region name => exact exists_firstTier_anyOf rfl _ h
  | random =>
    obtain ⟨r, hr⟩ := exists_firstTier_anyOf (e := .failedToSelectGatewayRandomly) rfl
      .failedToSelectGatewayRandomly h
    simp only [GatewayFilters.with, List.append_nil] at hr
    exact ⟨r, hr⟩

theorem exists_of_findBestExitGateway (h : l.findBestExitGateway point filters r = .ok x) :
    ∃ g ∈ l.gateways, g.identity = x.identity := by
  obtain ⟨g, rfl, hchoice⟩ := findBestExitGateway_ok h
  exact ⟨g, hchoice.mem, (point.identity_adjust g).symm⟩

end Search

end GatewayDirectory
