import NymVpn.Firewall.FaithfulNft

/-!
# The renderers preserve the meaning of the rule set

Both texts of a compiled policy are read back with the meaning of their own language: every
chain decides every packet as the compiled chain does.
-/

namespace NymFirewall

open Net Netfilter Text RenderIptables

/-! ## No part of the other family -/

theorem RenderIptables.target_family (rule : Rule) (family : AddrFamily) :
    ∀ f ∈ (target rule family).family?, f = family := by
  intro f hf
  cases hv : rule.verdict with
  | reject =>
    have htarget : target rule family = .reject (rejectKind rule family) := by
      simp [target, hv]
    rw [htarget] at hf
    unfold rejectKind at hf
    by_cases htcp : rule.matches_.proto = some .tcp
    · rw [if_pos htcp] at hf
      cases hf
    · rw [if_neg htcp] at hf
      cases family <;> exact (Option.some.inj hf).symm
  | _ => simp [target, hv, Iptables.Target.family?] at hf

/-! ## The assertions -/

theorem RenderIptables.chainAsserts_of_placed {c : ChainId} {rules : Chain}
    (h : ∀ r ∈ rules, Placed c r) (family : AddrFamily) :
    chainAsserts (chainName c) rules family = true := by
  have hrule (r : Rule) (hr : r ∈ rules) : renderRuleAssert r = true := by
    have hwf := (h r hr).1
    unfold renderRuleAssert
    cases h4 : r.matches_.icmpv4Type with
    | some t => simp [(hwf.icmpv4Type t h4).2]
    | none =>
      cases h6 : r.matches_.icmpv6Type with
      | some t => simp [(hwf.icmpv6Type t h6).2]
      | none => simp
  simp only [chainAsserts, Bool.and_eq_true, List.all_eq_true]
  refine ⟨?_, fun r hr => hrule r (List.mem_filter.1 hr).1⟩
  unfold renderChainAssert
  by_cases hc : c = .filterOutput
  · rw [hc]
    simp [chainName]
  · have hall : (rules.all fun r => r.matches_.skuid.isNone) = true :=
      List.all_eq_true.2 fun r hr => (h r hr).skuid_isNone hc
    rw [hall, Bool.or_true]

theorem RenderIptables.renderAsserts_of_placed {rs : RuleSet} (h : RuleSet.All Placed rs)
    (family : AddrFamily) : renderAsserts rs family = true := by
  have hchain (c : ChainId) : chainAsserts (chainName c) (rs.chain c) family = true :=
    chainAsserts_of_placed (h c) family
  have hpre := hchain .manglePrerouting
  have hmout := hchain .mangleOutput
  have hin := hchain .filterInput
  have hout := hchain .filterOutput
  have hfwd := hchain .filterForward
  simp only [chainName, RuleSet.chain] at hpre hmout hin hout hfwd
  simp [renderAsserts, hpre, hmout, hin, hout, hfwd]

theorem RenderNft.renderAsserts_of_placed {rs : RuleSet} (h : RuleSet.All Placed rs) :
    renderAsserts rs = true := by
  have hskuid {c : ChainId} (hc : c ≠ .filterOutput) :
      ((rs.chain c).all fun r => r.matches_.skuid.isNone) = true :=
    List.all_eq_true.2 fun r hr => (h c r hr).skuid_isNone hc
  have hpre := hskuid (c := .manglePrerouting) (by decide)
  have hin := hskuid (c := .filterInput) (by decide)
  have hfwd := hskuid (c := .filterForward) (by decide)
  simp only [RuleSet.chain] at hpre hin hfwd
  simp only [renderAsserts, renderChainAssert, hpre, hin, hfwd]
  simp

/-! ## The theorem -/

def rulesFor (family : AddrFamily) (c : Chain) : Chain :=
  c.filter fun r => r.family.covers family

theorem forall₂_kept {family : AddrFamily} {c : Chain} (h : ∀ r ∈ c, r.WellFormed) :
    List.Forall₂ (fun r s => (∀ ok k, k.family = family → s.step ok k = r.step ok k) ∧
        s.OfFamily family)
      (rulesFor family c) (c.filterMap (kept family)) := by
  simp only [rulesFor, filterMap_kept, familyMatches_iff, List.forall₂_map_right_iff,
    List.forall₂_same]
  intro r hr
  obtain ⟨hmem, hm⟩ := List.mem_filter.1 hr
  rw [← familyMatches_iff] at hm
  exact ⟨fun ok k hk => toIptables_step hm ok hk,
    forall_of_forall₂ (states_matchParts (h r hmem) hm) fun _ _ hs => hs.2,
    target_family r family⟩

/-- For every policy with proper interface names, the script of each family loads, and its
chains decide the packets of the family as the compiled chains do, rule by rule and in order. So
does the `nft` script, which replaces the table `inet nym` of any ruleset, for both families. No
assertion of a renderer fires. -/
theorem renderers_preserve_meaning (trackIps : List IpAddr) (p : FirewallPolicy)
    (uplink : Uplink) (hnames : ProperNames p uplink) :
    (∀ family, ∃ tables,
      Iptables.load (render (compileWith trackIps p uplink) family)
        (fun _ _ => none) = some tables ∧
      ∀ c, ∃ rules,
        ((tables (tableName c) (chainName c)).getD []).mapM
          (Iptables.readRule family) = some rules ∧
        (∀ ω k, k.family = family →
          Iptables.run rules (keptLimits (kept family)
            ((compileWith trackIps p uplink).chain c) ω) k =
              Chain.run ((compileWith trackIps p uplink).chain c) ω k) ∧
        List.Forall₂ (fun r s => (∀ ok k, k.family = family → s.step ok k = r.step ok k) ∧
            s.OfFamily family)
          (rulesFor family ((compileWith trackIps p uplink).chain c)) rules) ∧
    (∀ ruleset, ∃ table,
      Nft.load (RenderNft.render (compileWith trackIps p uplink)) ruleset =
        some (Function.update ruleset RenderNft.nymTable (some table)) ∧
      ∀ c,
        (∀ ω k, Nft.run (RenderNft.rules table c) ω k =
          Chain.run ((compileWith trackIps p uplink).chain c) ω k) ∧
        List.Forall₂ (fun r s => (∀ ok k, s.step ok k = r.step ok k) ∧
            ∀ cl ∈ s.clauses, ∀ f ∈ cl.family?, r.family = .ofAddr f)
          ((compileWith trackIps p uplink).chain c) (RenderNft.rules table c)) ∧
    (∀ family, renderAsserts (compileWith trackIps p uplink) family = true) ∧
    RenderNft.renderAsserts (compileWith trackIps p uplink) = true := by
  have hplaced := placed_compileWith trackIps hnames
  have hwf : RuleSet.All (fun _ r => r.WellFormed) (compileWith trackIps p uplink) :=
    fun c r hr => (hplaced c r hr).1
  refine ⟨fun family => ?_, fun ruleset => ?_, ?_, ?_⟩
  · refine ⟨_, (load_render hwf family _).trans
      (runBlocks_blocks _ family _), fun c => ⟨_, ?_, ?_, forall₂_kept (hwf c)⟩⟩
    · rw [loaded_of_empty, mapM_readRule_specs (hwf c)]
    · exact fun ω k hk => run_filterMap_kept family _ ω hk
  · refine ⟨_, RenderNft.load_render hwf ruleset, fun c => ?_⟩
    rw [RenderNft.rules_chains]
    refine ⟨fun ω k => RenderNft.run_map_toNft (hwf c) ω k, ?_⟩
    rw [List.forall₂_map_right_iff, List.forall₂_same]
    exact fun r hr => ⟨RenderNft.toNft_step (hwf c r hr),
      forall_of_forall₂ (RenderNft.states_matchParts (hwf c r hr)) fun _ _ hs => hs.family⟩
  · exact renderAsserts_of_placed hplaced
  · exact RenderNft.renderAsserts_of_placed hplaced

theorem renderers_preserve_meaning_blocked :
    ProperNames (.blocked true [] []) ⟨["eth0.2"], fun _ => none⟩ ∧
      ∃ tables, Iptables.load (render
        (compileWith [] (.blocked true [] []) ⟨["eth0.2"], fun _ => none⟩) .v4)
          (fun _ _ => none) = some tables := by
  have hnames : ProperNames (.blocked true [] []) ⟨["eth0.2"], fun _ => none⟩ := by
    constructor
    · decide
    · decide
    · intro ip d hd
      cases hd
  obtain ⟨hiptables, -⟩ := renderers_preserve_meaning [] _ _ hnames
  obtain ⟨tables, hread, -⟩ := hiptables .v4
  exact ⟨hnames, tables, hread⟩

end NymFirewall
