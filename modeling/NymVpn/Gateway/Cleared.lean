import Mathlib.Data.List.Nodup
import NymVpn.Gateway.Cache

/-!
# A cleared gateway cache

After the cache was cleared no list of before is served. Histories have the latest input
first; the number of inputs handled so far dates a fetch.
-/

namespace GatewayDirectory.GatewayCache

variable {w : CacheWorld} {c : GatewayCache}

def after (client : GatewayConfig) : List (CacheWorld × CacheInput) → GatewayCache
  | [] => spawn client
  | (w, input) :: past => ((after client past).step w input).2

def clears (c : GatewayCache) : CacheInput → Bool
  | .command .clearCache => true
  | .command (.replaceGatewayClient client) =>
    client.minGatewayPerformance != c.gatewayClient.minGatewayPerformance
  | _ => false

theorem fetchedBy_of_clears {P : GatewayConfig → ℕ → Prop} {input : CacheInput}
    (h : c.clears input = true) : (c.step w input).2.FetchedBy P := by
  cases input with
  | command command =>
    cases command with
    | clearCache => exact ⟨nofun, nofun⟩
    | replaceGatewayClient client =>
      have hchanged : client.minGatewayPerformance ≠ c.gatewayClient.minGatewayPerformance := by
        simpa [clears] using h
      simp only [step, handle, replaceGatewayClient, if_pos hchanged]
      exact ⟨nofun, nofun⟩
    | _ => cases h
  | _ => cases h

/-! ## What is tracked -/

variable (gwTypes : List GatewayType)

theorem refreshing_refresh : (c.refresh w gwTypes).refreshing = c.refreshing := by
  unfold refresh
  split
  · refine List.foldlRecOn gwTypes (refreshOne w)
      (motive := fun c' => c'.refreshing = c.refreshing) rfl fun c' hc' gwType _ => ?_
    unfold refreshOne
    split <;> exact hc'
  · rfl

theorem refreshing_fetchGatewaysInline (gwType : GatewayType) :
    (c.fetchGatewaysInline w gwType).2.refreshing = c.refreshing := by
  unfold fetchGatewaysInline
  split
  · split <;> rfl
  · rfl

theorem refreshing_foldl_spawnOne :
    (gwTypes.foldl spawnOne c).refreshing.map (·.gwType) =
      c.refreshing.map (·.gwType) ++ gwTypes := by
  induction gwTypes generalizing c with
  | nil => simp
  | cons gwType gwTypes ih =>
    rw [List.foldl_cons, ih]
    simp [spawnOne]

def Tracked (c : GatewayCache) : Prop := (c.refreshing.map (·.gwType)).Nodup

theorem Tracked.spawnBackgroundRefreshes (h : c.Tracked) {gwTypes : List GatewayType}
    (hnodup : gwTypes.Nodup) : (c.spawnBackgroundRefreshes w gwTypes).Tracked := by
  unfold GatewayCache.spawnBackgroundRefreshes
  split
  · rw [Tracked, refreshing_foldl_spawnOne, List.nodup_append']
    refine ⟨h, hnodup.filter _, fun gwType hrunning hstarted => ?_⟩
    obtain ⟨task, htask, rfl⟩ := List.mem_map.1 hrunning
    have hidle := (List.mem_filter.1 hstarted).2
    simp only [Bool.not_eq_true', List.any_eq_false, beq_iff_eq] at hidle
    exact hidle task htask rfl
  · exact h

theorem Tracked.lookupGateways (h : c.Tracked) (gwType : GatewayType) :
    (c.lookupGateways w gwType).2.Tracked := by
  have hrefreshed : ((c.noteInterest w gwType).refreshGateways w gwType).2.Tracked := by
    have hnoted : (c.noteInterest w gwType).Tracked := h
    unfold refreshGateways
    split
    · rwa [Tracked, refreshing_fetchGatewaysInline]
    · split
      · exact h
      · exact hnoted.spawnBackgroundRefreshes (List.nodup_singleton gwType)
      · rwa [Tracked, refreshing_fetchGatewaysInline]
  unfold GatewayCache.lookupGateways
  dsimp only
  split <;> exact hrefreshed

theorem Tracked.step (h : c.Tracked) (input : CacheInput) : (c.step w input).2.Tracked := by
  change (c.handle w input).2.Tracked
  have hrefresh {c' : GatewayCache} (gwTypes : List GatewayType) (h : c'.Tracked) :
      (c'.refresh w gwTypes).Tracked := by
    rwa [Tracked, refreshing_refresh]
  cases input with
  | tick =>
    have hnodup : GatewayType.iter.Nodup := by decide
    exact h.spawnBackgroundRefreshes ((hnodup.filter _).filter _)
  | joined id result =>
    have hrest : Tracked { c with refreshing := c.refreshing.filter (·.id != id) } :=
      List.Nodup.sublist (List.filter_sublist.map _) h
    change (c.storeBackgroundRefresh w id result).Tracked
    unfold storeBackgroundRefresh
    split
    · exact h
    · split <;> exact hrest
  | connectivity isOnline =>
    cases isOnline with
    | false => exact h
    | true =>
      change (c.performInitialFetchOnce w).Tracked
      unfold performInitialFetchOnce
      split
      · exact h
      · exact hrefresh _ h
  | command command =>
    cases command with
    | refreshAll => exact hrefresh _ h
    | lookupGateways gwType | lookupFilteredGateways gwType filters => exact h.lookupGateways gwType
    | clearCache => exact List.nodup_nil
    | replaceGatewayClient client =>
      change (c.replaceGatewayClient client).Tracked
      unfold replaceGatewayClient
      split
      · exact List.nodup_nil
      · exact h

/-! ## Runs -/

section Runs

variable {first : GatewayConfig} {past : List (CacheWorld × CacheInput)}

theorem handled_after : (after first past).handled = past.length := by
  induction past with
  | nil => rfl
  | cons entry past ih => rw [after, (handled_and_client_step ..).1, ih, List.length_cons]

theorem tracked_after : (after first past).Tracked := by
  induction past with
  | nil => exact List.nodup_nil
  | cons entry past ih => exact ih.step entry.2

/-- A fetch that was started within a history, after some part of it, with the client of its
time. -/
def StartedWithin (first : GatewayConfig) (since past : List (CacheWorld × CacheInput))
    (client : GatewayConfig) (started : ℕ) : Prop :=
  ∃ before, since <:+ before ∧ before <:+ past ∧ before.length = started ∧
    (after first before).gatewayClient = client

theorem startedWithin_self {since before : List (CacheWorld × CacheInput)}
    (hsince : since <:+ before) (hbefore : before <:+ past) :
    StartedWithin first since past (after first before).gatewayClient
      (after first before).handled :=
  ⟨before, hsince, hbefore, handled_after.symm, rfl⟩

theorem fetchedBy_after {input : CacheInput} (hclears : (after first past).clears input = true)
    {later total : List (CacheWorld × CacheInput)}
    (hsuffix : later ++ (w, input) :: past <:+ total) :
    (after first (later ++ (w, input) :: past)).FetchedBy
      (StartedWithin first ((w, input) :: past) total) := by
  induction later with
  | nil => exact fetchedBy_of_clears hclears
  | cons entry later ih =>
    have hsuffix := (List.suffix_cons entry _).trans hsuffix
    refine ((ih hsuffix).step fun _ => ?_).1
    exact startedWithin_self (List.suffix_append later _) hsuffix

/-- At any time one fetch is tracked for a type at most; and a list that is returned after the
cache was emptied comes from a fetch that was started since, with the client of its time. -/
theorem cleared_serves_nothing_old (first : GatewayConfig)
    (total : List (CacheWorld × CacheInput)) :
    ((after first total).refreshing.map (·.gwType)).Nodup ∧
    ∀ later w input past, total = later ++ (w, input) :: past →
      (after first past).clears input = true →
      ∀ w' input' list, ((after first total).step w' input').1 = some (.ok list) →
        StartedWithin first ((w, input) :: past) total list.client list.started := by
  refine ⟨tracked_after, ?_⟩
  rintro later w input past rfl hclears w' input' list hlist
  refine ((fetchedBy_after hclears (List.suffix_refl _)).step fun _ => ?_).2 list hlist
  exact startedWithin_self (List.suffix_append later _) (List.suffix_refl _)

end Runs

/-- A list is looked up, the cache is cleared, and the list is looked up again. -/
theorem cleared_serves_nothing_old_lookup : let w : CacheWorld := ⟨0, true, fun _ => .ok []⟩
    let client : GatewayConfig := ⟨"", [], [], none⟩
    let past : List (CacheWorld × CacheInput) := [(w, .command (.lookupGateways .wg))]
    let total := (w, .command .clearCache) :: past
    ((after client total).step w (.command (.lookupGateways .wg))).1 =
        some (.ok ⟨⟨some .wg, []⟩, client, 2⟩) ∧
      StartedWithin client total total client 2 := by
  intro w client past total
  have hreply : ((after client total).step w (.command (.lookupGateways .wg))).1 =
      some (.ok ⟨⟨some .wg, []⟩, client, 2⟩) := rfl
  exact ⟨hreply, (cleared_serves_nothing_old client total).2 [] w (.command .clearCache) past rfl rfl
    w _ _ hreply⟩

end GatewayDirectory.GatewayCache
