import NymVpn.Firewall.Emitted

/-!
# The fallbacks of the firewall

A kernel without the owner match gets a policy without the rules that need it, one without
`CONNMARK` a policy without the mangle rules. Only accepts for root on OUTPUT go.
-/

namespace NymFirewall

open Net Netfilter

variable {p : FirewallPolicy} {uplink : Uplink} {c : ChainId} {r : Rule} {rs : RuleSet}
  {k : Packet}

theorem Emitted.of_skuid (h : Emitted p uplink c r) (hr : r.matches_.skuid.isNone = false) :
    c = .filterOutput ∧ r.verdict = .accept ∧ r.matches_.skuid = some rootUid := by
  cases h with
  | resolver dns hiface huid hpair =>
    rename_i iface uid pair
    cases uid with
    | none => cases iface <;> simp [dnsServerRule] at hr
    | some u => cases iface <;> simp [dnsServerRule, huid u rfl]
  | rootEndpoint | dnsHatch => simp
  | _ => simp at hr

/-- What is left without the owner match, without the `CONNMARK` target or without both. -/
def RuleSet.fallback (rs : RuleSet) (noOwner noConnmark : Bool) : RuleSet :=
  let rs := if noOwner then rs.withoutSkuidRules else rs
  if noConnmark then rs.withoutMangleRules else rs

def Chain.fallbackLimits (c : Chain) (noOwner : Bool) (ω : ℕ → Bool) : ℕ → Bool :=
  if noOwner then keptLimits (Option.guard fun r => r.matches_.skuid.isNone) c ω else ω

def filterChainIds : List ChainId := [.filterInput, .filterOutput, .filterForward]

theorem RuleSet.chain_fallback (rs : RuleSet) (noOwner noConnmark : Bool)
    (hc : c ∈ filterChainIds) : (rs.fallback noOwner noConnmark).chain c =
      if noOwner then (rs.chain c).filter fun r => r.matches_.skuid.isNone else rs.chain c := by
  cases c <;> simp [filterChainIds] at hc <;> cases noOwner <;> cases noConnmark <;> rfl

theorem RuleSet.ends_fallback (rs : RuleSet) (noOwner noConnmark : Bool)
    (hc : c ∈ filterChainIds) (h : ∃ l, rs.chain c = l ++ [Rule.reject .inet]) :
    ∃ l, (rs.fallback noOwner noConnmark).chain c = l ++ [Rule.reject .inet] := by
  obtain ⟨l, hl⟩ := h
  rw [rs.chain_fallback noOwner noConnmark hc, hl]
  cases noOwner with
  | false => exact ⟨l, rfl⟩
  | true => exact ⟨l.filter fun r => r.matches_.skuid.isNone, by simp⟩

theorem Rule.skuid_of_step {ok : Bool} {k' : Packet} (h : r.step ok k = .inr k') :
    k'.skuid = k.skuid := by
  unfold Rule.step at h
  split at h
  · cases hv : r.verdict <;> simp [hv, Verdict.effect] at h <;> rw [← h]
  · rw [Sum.inr.inj h]

variable (trackIps : List IpAddr) (p uplink) (noOwner noConnmark : Bool) (ω : ℕ → Bool) (k)

theorem run_fallback_or (hc : c ∈ filterChainIds) :
    let c₀ := (compileWith trackIps p uplink).chain c
    (((compileWith trackIps p uplink).fallback noOwner noConnmark).chain c).run
        (c₀.fallbackLimits noOwner ω) k = c₀.run ω k ∨ (c₀.run ω k).1 = some .accept := by
  intro c₀
  rw [RuleSet.chain_fallback _ _ _ hc]
  cases noOwner with
  | false => exact .inl rfl
  | true =>
    refine traverse_filter (fun r hr hskuid ok k => ?_) ω k
    have haccept := ((emitted_compileWith trackIps p uplink c r hr).of_skuid hskuid).2.1
    unfold Rule.step
    split
    · exact .inr (by rw [haccept]; rfl)
    · exact .inl rfl

theorem run_fallback_eq (hc : c ∈ filterChainIds) (h : c = .filterOutput → k.skuid ≠ some rootUid) :
    let c₀ := (compileWith trackIps p uplink).chain c
    (((compileWith trackIps p uplink).fallback noOwner noConnmark).chain c).run
        (c₀.fallbackLimits noOwner ω) k = c₀.run ω k := by
  intro c₀
  rw [RuleSet.chain_fallback _ _ _ hc]
  cases noOwner with
  | false => rfl
  | true =>
    rw [if_pos rfl, ← List.filterMap_eq_filter]
    refine traverse_filterMap (P := fun k' => k'.skuid = k.skuid) (fun r _ s hs ok k' _ => ?_)
      (fun r hr hnone ok k' hk' => ?_) (fun r _ ok k' k'' hk' hstep => ?_) ω rfl
    · rw [(Option.guard_eq_some_iff.1 hs).1]
    · have hskuid : r.matches_.skuid.isNone = false := by
        simpa [Option.guard, Option.isSome_iff_ne_none] using hnone
      obtain ⟨hout, -, hroot⟩ := (emitted_compileWith trackIps p uplink c r hr).of_skuid hskuid
      refine if_neg fun happlies => h hout ?_
      rw [← hk']
      exact happlies.2.skuid _ hroot
    · rw [Rule.skuid_of_step hstep, hk']

/-- A fallback never widens a policy: what it accepts was accepted, what was rejected or dropped
still is, and for packets that are not of root, on INPUT and on FORWARD it changes nothing. -/
theorem fallback_never_widens (p : FirewallPolicy) (uplink : Uplink) (k : Packet) :
    let rs := compileWith trackIps p uplink
    let rs' := rs.fallback noOwner noConnmark
    let before (c : ChainId) := ((rs.chain c).run ω k).1
    let after (c : ChainId) := ((rs'.chain c).run ((rs.chain c).fallbackLimits noOwner ω) k).1
    (∀ c ∈ filterChainIds,
      (after c = some .accept → before c = some .accept) ∧
      (∀ d, d = .reject ∨ d = .drop_ → before c = some d → after c = some d) ∧
      (k.skuid ≠ some rootUid → after c = before c)) ∧
    after .filterInput = before .filterInput ∧ after .filterForward = before .filterForward ∧
    (∃ c, rs'.filter.output = c ++ [Rule.reject .inet]) ∧
    ∃ c, rs'.filter.forward = c ++ [Rule.reject .inet] := by
  intro rs rs' before after
  have heq {c : ChainId} (hc : c ∈ filterChainIds)
      (h : c = .filterOutput → k.skuid ≠ some rootUid) : after c = before c :=
    congrArg Prod.fst (run_fallback_eq p uplink k trackIps noOwner noConnmark ω hc h)
  have hor {c : ChainId} (hc : c ∈ filterChainIds) : after c = before c ∨ before c = some .accept :=
    (run_fallback_or p uplink k trackIps noOwner noConnmark ω hc).imp_left (congrArg Prod.fst)
  refine ⟨fun c hc => ⟨fun h => ?_, fun d hd h => ?_, fun h => heq hc fun _ => h⟩,
    heq (by decide) nofun, heq (by decide) nofun, ?_, ?_⟩
  · exact (hor hc).elim (fun hsame => hsame ▸ h) id
  · refine (hor hc).elim (fun hsame => hsame.trans h) fun haccept => ?_
    rw [h] at haccept
    rcases hd with rfl | rfl <;> cases haccept
  · exact rs.ends_fallback noOwner noConnmark (c := .filterOutput) (by decide) ⟨_, rfl⟩
  · exact rs.ends_fallback noOwner noConnmark (c := .filterForward) (by decide) ⟨_, rfl⟩

end NymFirewall
