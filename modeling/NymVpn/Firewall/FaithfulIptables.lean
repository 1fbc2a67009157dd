import NymVpn.Firewall.RenderIptables
import NymVpn.Firewall.WellFormed
import NymVpn.Netfilter.Iptables
import NymVpn.Netfilter.Restore

/-!
# The iptables text means what the rules mean

A well-formed rule reads back as `toIptables`, which acts on packets of the rendered
family as the rule does; the rules that are left out act on no such packet.
-/

namespace NymFirewall

open Net Netfilter Text

def AddrMatch.toPattern : AddrMatch → IpPattern
  | .ip a => .host a
  | .net n => .net n

def Family.ofAddr : AddrFamily → Family
  | .v4 => .v4
  | .v6 => .v6

theorem ruleFamily_eq_ofAddr (a : AddrMatch) : a.ruleFamily = .ofAddr a.toPattern.family := by
  rcases a with ⟨_ | _⟩ | ⟨_ | _⟩ <;> rfl

def Proto.toIptables : Proto → Iptables.Protocol
  | .tcp => .tcp
  | .udp => .udp
  | .icmp => .icmp
  | .icmpV6 => .icmpv6

namespace RenderIptables

open Iptables

open Iptables (Clause Target)

def headClauses (m : Match) : List Clause :=
  (m.iif.map .inIface).toList ++ (m.oif.map .outIface).toList ++
  (m.iifNot.map .notInIface).toList ++
  (m.saddr.map fun a => .source a.toPattern).toList ++
  (m.daddr.map fun a => .destination a.toPattern).toList

def tailClauses (m : Match) : List Clause :=
  (m.icmpv4Type.map fun t => .icmpType t.number).toList ++
  (m.icmpv6Type.map fun t => .icmpv6Type t.number).toList ++
  (m.sport.map .sport).toList ++ (m.dport.map .dport).toList ++
  (m.ctState.map fun _ => .ctNew).toList ++
  (m.mark.map .mark).toList ++ (m.ctMark.map .connmark).toList ++
  (m.skuid.map .uidOwner).toList ++
  (m.rateLimit.map fun rl => .limit rl.perMinute rl.burst).toList

def clauses (m : Match) : List Clause :=
  headClauses m ++ ((m.proto.map fun p => .protocol p.toIptables).toList ++ tailClauses m)

def rejectKind (rule : Rule) (family : AddrFamily) : Iptables.RejectKind :=
  if rule.matches_.proto = some .tcp then .tcpReset
  else
    match family with
    | .v4 => .icmpPortUnreachable
    | .v6 => .icmp6PortUnreachable

def target (rule : Rule) (family : AddrFamily) : Target :=
  match rule.verdict with
  | .accept => .accept
  | .return_ => .return_
  | .drop_ => .drop_
  | .reject => .reject (rejectKind rule family)
  | .setCtMark n => .setConnmark n
  | .restoreMark => .restoreMark

def toIptables (rule : Rule) (family : AddrFamily) : Iptables.Rule :=
  ⟨clauses rule.matches_, target rule family⟩

/-! ## Acting alike -/

theorem all_toList_map {α β : Type*} (o : Option α) (f : α → β) (p : β → Bool) :
    (o.map f).toList.all p = true ↔ ∀ a ∈ o, p (f a) = true := by
  cases o <;> simp

theorem toPattern_matches (a : AddrMatch) (ip : IpAddr) : a.toPattern.matches ip = a.holds ip := by
  cases a <;> rfl

theorem toIptables_proto_holds (p : Proto) (t : Transport) : p.toIptables.holds t = p.holds t := by
  cases p <;> cases t <;> rfl

theorem clauses_all_holds (m : Match) (ok : Bool) (k : Packet) :
    (clauses m).all (Clause.holds ok k) = true ↔ m.Holds ok k := by
  simp only [clauses, headClauses, tailClauses, List.all_append, Bool.and_eq_true,
    all_toList_map, Clause.holds, toPattern_matches, toIptables_proto_holds,
    Match.holds_iff, beq_iff_eq, bne_iff_ne]
  tauto

theorem familyMatches_iff (f : Family) (a : AddrFamily) : familyMatches f a = f.covers a := by
  cases f <;> cases a <;> rfl

variable {rule : Rule} {family : AddrFamily} {k : Packet} {rs : RuleSet}
  {chains : List (String × Chain)} {c : String × Chain}

theorem toIptables_step (h : familyMatches rule.family family = true) (ok : Bool)
    (hk : k.family = family) : (toIptables rule family).step ok k = rule.step ok k := by
  have hcovers : rule.family.covers k.family = true := by
    rw [hk, ← familyMatches_iff, h]
  have hiff : (toIptables rule family).clauses.all (Clause.holds ok k) = true ↔
      rule.Applies ok k := by
    rw [Rule.Applies, hcovers]
    exact (clauses_all_holds rule.matches_ ok k).trans (by simp)
  exact if_congr hiff (by simp only [toIptables, target]; cases rule.verdict <;> rfl) rfl

theorem step_of_not_familyMatches (h : familyMatches rule.family family = false) (ok : Bool)
    (hk : k.family = family) : rule.step ok k = .inr k := by
  refine if_neg fun happ => ?_
  rw [Rule.Applies, hk, ← familyMatches_iff, h] at happ
  exact absurd happ.1 (by decide)

theorem family_of_step {ok : Bool} {k' : Packet} (h : rule.step ok k = .inr k') :
    k'.family = k.family := by
  unfold Rule.step at h
  split at h
  · cases hv : rule.verdict <;> rw [hv] at h <;> simp [Verdict.effect] at h <;> subst h <;> rfl
  · simp only [Sum.inr.injEq] at h
    rw [h]

def kept (family : AddrFamily) (rule : Rule) : Option Iptables.Rule :=
  if familyMatches rule.family family then some (toIptables rule family) else none

theorem filterMap_kept (c : Chain) : c.filterMap (kept family) =
    (c.filter fun r => familyMatches r.family family).map fun r => toIptables r family := by
  induction c with
  | nil => rfl
  | cons r c ih => cases hm : familyMatches r.family family <;> simp [kept, hm, ih]

theorem run_filterMap_kept (family : AddrFamily) (c : Chain) (ω : ℕ → Bool)
    (hk : k.family = family) :
    run (c.filterMap (kept family)) (keptLimits (kept family) c ω) k = c.run ω k := by
  refine traverse_filterMap (P := fun k => k.family = family) ?_ ?_ ?_ ω hk
  · intro r _ s hs ok k hk
    unfold kept at hs
    split at hs
    · next hm =>
        obtain rfl := Option.some.inj hs
        exact toIptables_step hm ok hk
    · exact absurd hs (by simp)
  · intro r _ hs ok k hk
    unfold kept at hs
    split at hs
    · exact absurd hs (by simp)
    · next hm => exact step_of_not_familyMatches (by simpa using hm) ok hk
  · intro r _ ok k k' hk hstep
    rw [family_of_step hstep, hk]

/-! ## The words of a rule -/

theorem family_eq (hm : familyMatches rule.family family = true) {f : AddrFamily}
    (hf : rule.family = .ofAddr f) : f = family := by
  rw [hf] at hm
  cases f <;> cases family <;> first | rfl | cases hm

theorem toPattern_display (a : AddrMatch) : a.toPattern.display = renderAddr a := by
  cases a <;> rfl

theorem isWord_minute (n : ℕ) :
    IsWord (decimal n ++ "/minute") ∧ IsLine (decimal n ++ "/minute") := by
  have hblank := (isWord_decimal n).1.2
  exact ⟨by simpa [IsWord] using hblank, (isWord_decimal n).2.append (by decide)⟩

theorem says_limit (rl : RateLimit) :
    Says ("-m limit --limit " ++ (decimal rl.perMinute.toNat ++ "/minute --limit-burst ") ++
      decimal rl.burst.toNat) (Clause.limit rl.perMinute rl.burst).words := by
  have htext : "-m limit --limit " ++ (decimal rl.perMinute.toNat ++ "/minute --limit-burst ") ++
      decimal rl.burst.toNat = "-m limit --limit " ++ (decimal rl.perMinute.toNat ++ "/minute") ++
        " " ++ ("--limit-burst " ++ decimal rl.burst.toNat) := by
    have hconst : "/minute --limit-burst " = "/minute" ++ " " ++ "--limit-burst " := by decide
    rw [hconst]
    simp only [String.append_assoc]
  rw [htext]
  exact (says_option (by decide) (isWord_minute _)).blank
    (says_option (by decide) (isWord_decimal _))

theorem says_addr (a : AddrMatch) {opt : String}
    (hopt : IsLine opt ∧ opt.toList.getLast? = some ' ') :
    Says (opt ++ renderAddr a) (words opt ++ [a.toPattern.display]) := by
  rw [← toPattern_display]
  exact says_option hopt a.toPattern.isWord_display

def States (family : AddrFamily) (text : String) (c : Clause) : Prop :=
  Says text c.words ∧ ∀ f ∈ c.family?, f = family

theorem states_matchParts (h : rule.WellFormed) (hm : familyMatches rule.family family = true) :
    List.Forall₂ (States family) (matchParts rule.matches_) (clauses rule.matches_) := by
  have haddr {a : AddrMatch} (ha : rule.family = a.ruleFamily) :
      ∀ f ∈ some a.toPattern.family, f = family := fun f hf =>
    Option.some.inj hf ▸ family_eq hm (ha.trans (ruleFamily_eq_ofAddr a))
  simp only [matchParts, clauses, headClauses, tailClauses, List.append_assoc]
  repeat' refine List.rel_append ?_ ?_
  · exact forall₂_toList fun d hd => ⟨says_option (by decide) (h.iif d hd).isWord, nofun⟩
  · exact forall₂_toList fun d hd => ⟨says_option (by decide) (h.oif d hd).isWord, nofun⟩
  · exact forall₂_toList fun d hd => ⟨says_option (by decide) (h.iifNot d hd).isWord, nofun⟩
  · exact forall₂_toList fun a ha => ⟨says_addr a (by decide), haddr (h.saddr a ha)⟩
  · exact forall₂_toList fun a ha => ⟨says_addr a (by decide), haddr (h.daddr a ha)⟩
  · exact forall₂_toList fun p _ => ⟨by cases p <;> exact ⟨by decide, by decide⟩, nofun⟩
  · exact forall₂_toList fun t ht => ⟨by cases t; exact ⟨by decide, by decide⟩,
      fun f hf => Option.some.inj hf ▸ family_eq hm (h.icmpv4Type t ht).1⟩
  · exact forall₂_toList fun t ht => ⟨by cases t <;> exact ⟨by decide, by decide⟩,
      fun f hf => Option.some.inj hf ▸ family_eq hm (h.icmpv6Type t ht).1⟩
  · exact forall₂_toList fun n _ => ⟨says_option (by decide) (isWord_decimal _), nofun⟩
  · exact forall₂_toList fun n _ => ⟨says_option (by decide) (isWord_decimal _), nofun⟩
  · exact forall₂_toList fun t _ => ⟨by cases t; exact ⟨by decide, by decide⟩, nofun⟩
  · exact forall₂_toList fun n _ => ⟨says_option (by decide) (isWord_hexMarked _), nofun⟩
  · exact forall₂_toList fun n _ => ⟨says_option (by decide) (isWord_hexMarked _), nofun⟩
  · exact forall₂_toList fun n _ => ⟨says_option (by decide) (isWord_decimal _), nofun⟩
  · exact forall₂_toList fun rl _ => ⟨says_limit rl, nofun⟩

theorem rejectKind_name : (rejectKind rule family).name = rejectWith rule family := by
  unfold rejectKind rejectWith
  split
  · rfl
  · cases family <;> rfl

theorem says_renderVerdict (rule : Rule) (family : AddrFamily) :
    Says (renderVerdict rule family) ("-j" :: (target rule family).words) := by
  unfold renderVerdict target
  cases rule.verdict with
  | setCtMark n => exact says_option (by decide) (isWord_hexMarked _)
  | reject =>
    simp only [← rejectKind_name]
    exact says_option (by decide) (by cases rejectKind rule family <;> decide)
  | _ =>
    dsimp only
    exact ⟨by decide, by decide⟩

theorem says_renderRule (h : rule.WellFormed) (hm : familyMatches rule.family family = true) :
    Says (renderRule rule family) (toIptables rule family).words := by
  have hparts : List.Forall₂ Says (matchParts rule.matches_)
      ((clauses rule.matches_).map Clause.words) :=
    List.forall₂_map_right_iff.2 ((states_matchParts h hm).imp fun _ _ hs => hs.1)
  have hrule := says_intercalate
    (List.rel_append hparts (.cons (says_renderVerdict rule family) .nil))
  simpa [renderRule, Iptables.Rule.words, toIptables, List.flatMap] using hrule

/-! ## The rule can be read -/

theorem validFrom_append {proto : Option Iptables.Protocol} {cs ds : List Clause}
    (hcs : ∀ c ∈ cs, c.Valid family proto ∧ c.protocolAfter proto = proto)
    (hds : Iptables.ValidFrom family proto ds) : Iptables.ValidFrom family proto (cs ++ ds) := by
  induction cs with
  | nil => exact hds
  | cons c cs ih =>
    obtain ⟨hvalid, hproto⟩ := hcs c (by simp)
    refine ⟨hvalid, ?_⟩
    rw [hproto]
    exact ih fun d hd => hcs d (by simp [hd])

theorem headClauses_valid (h : rule.WellFormed) (hm : familyMatches rule.family family = true) :
    ∀ c ∈ headClauses rule.matches_, c.Valid family none ∧ c.protocolAfter none = none := by
  intro c hc
  simp only [headClauses, List.mem_append, Option.mem_toList, Option.map_eq_some_iff] at hc
  rcases hc with (((⟨d, _, rfl⟩ | ⟨d, _, rfl⟩) | ⟨d, _, rfl⟩) | ⟨a, ha, rfl⟩) | ⟨a, ha, rfl⟩
  · exact ⟨trivial, rfl⟩
  · exact ⟨trivial, rfl⟩
  · exact ⟨trivial, rfl⟩
  · exact ⟨family_eq hm ((h.saddr a ha).trans (ruleFamily_eq_ofAddr a)), rfl⟩
  · exact ⟨family_eq hm ((h.daddr a ha).trans (ruleFamily_eq_ofAddr a)), rfl⟩

theorem tailClauses_valid (h : rule.WellFormed) (family : AddrFamily) :
    ∀ c ∈ tailClauses rule.matches_,
      c.Valid family (rule.matches_.proto.map Proto.toIptables) ∧
        c.protocolAfter (rule.matches_.proto.map Proto.toIptables) =
          rule.matches_.proto.map Proto.toIptables := by
  intro c hc
  simp only [tailClauses, List.mem_append, Option.mem_toList, Option.map_eq_some_iff,
    or_assoc] at hc
  rcases hc with ⟨t, ht, rfl⟩ | ⟨t, ht, rfl⟩ | ⟨p, hp, rfl⟩ | ⟨p, hp, rfl⟩ | ⟨_, _, rfl⟩ |
    ⟨_, _, rfl⟩ | ⟨_, _, rfl⟩ | ⟨_, _, rfl⟩ | ⟨_, _, rfl⟩
  · rw [(h.icmpv4Type t ht).2]
    exact ⟨⟨rfl, by cases t; decide⟩, rfl⟩
  · rw [(h.icmpv6Type t ht).2]
    exact ⟨⟨rfl, by cases t <;> decide⟩, rfl⟩
  · rcases h.sport p hp with hproto | hproto <;> rw [hproto]
    · exact ⟨Or.inl rfl, rfl⟩
    · exact ⟨Or.inr rfl, rfl⟩
  · rcases h.dport p hp with hproto | hproto <;> rw [hproto]
    · exact ⟨Or.inl rfl, rfl⟩
    · exact ⟨Or.inr rfl, rfl⟩
  all_goals exact ⟨trivial, rfl⟩

theorem toIptables_valid (h : rule.WellFormed) (hm : familyMatches rule.family family = true) :
    (toIptables rule family).Valid family := by
  have htail : Iptables.ValidFrom family (rule.matches_.proto.map Proto.toIptables)
      (tailClauses rule.matches_) := by
    rw [← List.append_nil (tailClauses rule.matches_)]
    exact validFrom_append (tailClauses_valid h family) trivial
  refine validFrom_append (headClauses_valid h hm) ?_
  cases hproto : rule.matches_.proto with
  | none =>
    rw [hproto] at htail
    exact htail
  | some p =>
    rw [hproto] at htail
    exact ⟨trivial, htail⟩

/-! ## The script -/

def ruleTexts (family : AddrFamily) (c : Chain) : List String :=
  (c.filter fun r => familyMatches r.family family).map fun r => renderRule r family

def specs (family : AddrFamily) (c : Chain) : List Iptables.Spec :=
  (c.filterMap (kept family)).map Iptables.Rule.words

theorem forall₂_ruleTexts {c : Chain} (h : ∀ r ∈ c, r.WellFormed) :
    List.Forall₂ Says (ruleTexts family c) (specs family c) := by
  rw [ruleTexts, specs, filterMap_kept, List.map_map, List.forall₂_map_left_iff,
    List.forall₂_map_right_iff, List.forall₂_same]
  intro r hr
  obtain ⟨hmem, hm⟩ := List.mem_filter.1 hr
  exact says_renderRule (h r hmem) hm

theorem mapM_readRule_specs {c : Chain} (h : ∀ r ∈ c, r.WellFormed) :
    (specs family c).mapM (readRule family) = some (c.filterMap (kept family)) := by
  rw [specs, filterMap_kept, List.map_map, List.mapM_map]
  refine mapM_eq_map fun r hr => ?_
  obtain ⟨hmem, hm⟩ := List.mem_filter.1 hr
  exact readRule_words (toIptables_valid (h r hmem) hm)

theorem writeln_unlines (ls : List String) (l : String) :
    writeln (unlines ls) l = unlines (ls ++ [l]) := by
  rw [unlines_append, unlines_singleton, writeln, String.append_assoc]

theorem renderChain_unlines (ls : List String) (chain : String) (c : Chain) :
    renderChain (unlines ls) chain c family =
      unlines (ls ++ (ruleTexts family c).map fun r => "-A " ++ chain ++ " " ++ r) := by
  induction c generalizing ls with
  | nil => simp [renderChain, ruleTexts]
  | cons r c ih =>
    have hcons : renderChain (unlines ls) chain (r :: c) family =
        renderChain (if familyMatches r.family family then
          writeln (unlines ls) ("-A " ++ chain ++ " " ++ renderRule r family)
          else unlines ls) chain c family := rfl
    rw [hcons]
    by_cases hm : familyMatches r.family family = true
    · rw [if_pos hm, writeln_unlines, ih]
      simp [ruleTexts, hm]
    · rw [if_neg hm, ih]
      simp [ruleTexts, hm]

def entries (family : AddrFamily) (chains : List (String × Chain)) :
    List (String × Iptables.Spec) :=
  chains.flatMap fun c => (specs family c.2).map fun s => (c.1, s)

def entryTexts (family : AddrFamily) (chains : List (String × Chain)) : List (String × String) :=
  chains.flatMap fun c => (ruleTexts family c.2).map fun t => (c.1, t)

def mangleChains (rs : RuleSet) : List (String × Chain) :=
  [(chainManglePrerouting, rs.mangle.prerouting), (chainMangleOutput, rs.mangle.output)]

def filterChains (rs : RuleSet) : List (String × Chain) :=
  [(chainInput, rs.filter.input), (chainOutput, rs.filter.output),
    (chainForward, rs.filter.forward)]

def block (table : String) (chains : List (String × Chain)) (family : AddrFamily) :
    Iptables.Block :=
  { table, chains := chains.map Prod.fst, appends := entries family chains }

def blockTexts (table : String) (chains : List (String × Chain)) (family : AddrFamily) :
    List String :=
  Iptables.blockText table (chains.map Prod.fst) (entryTexts family chains) []

def blocks (rs : RuleSet) (family : AddrFamily) : List Iptables.Block :=
  (if !rs.mangle.isEmpty then [block "mangle" (mangleChains rs) family] else []) ++
    [block "filter" (filterChains rs) family]

theorem render_eq_unlines :
    render rs family = unlines ((if !rs.mangle.isEmpty then
      blockTexts "mangle" (mangleChains rs) family else []) ++
        blockTexts "filter" (filterChains rs) family) := by
  have hempty : ("" : String) = unlines [] := rfl
  unfold render
  simp only [hempty, writeln_unlines, renderChain_unlines]
  split <;>
    simp [writeln_unlines, renderChain_unlines, blockTexts, blockText, mangleChains,
      filterChains, entryTexts, List.append_assoc, Function.comp_def]

theorem reads_blockTexts {table : String} (ht : Iptables.IsChainName table)
    (chains : List (String × Chain)) (family : AddrFamily)
    (h : ∀ c ∈ chains, Iptables.IsChainName c.1 ∧ ∀ r ∈ c.2, r.WellFormed) :
    List.Forall₂ (Reads readLine) (blockTexts table chains family)
      (block table chains family).lines := by
  have hentries : List.Forall₂ Iptables.EntryReads (entryTexts family chains)
      (entries family chains) := by
    induction chains with
    | nil => exact .nil
    | cons c chains ih =>
      obtain ⟨hname, hwf⟩ := h c (by simp)
      refine List.rel_append ?_ (ih fun d hd => h d (by simp [hd]))
      rw [List.forall₂_map_left_iff, List.forall₂_map_right_iff]
      exact (forall₂_ruleTexts hwf).imp fun t s ht => ⟨rfl, hname, ht.isLine, ht.words_eq⟩
  refine reads_blockText (b := block table chains family) ht ?_ hentries .nil
  intro c hc
  obtain ⟨d, hd, rfl⟩ := List.mem_map.1 hc
  exact (h d hd).1

theorem reads_render (h : RuleSet.All (fun _ r => r.WellFormed) rs) (family : AddrFamily) :
    List.Forall₂ (Reads readLine)
      ((if !rs.mangle.isEmpty then blockTexts "mangle" (mangleChains rs) family else []) ++
        blockTexts "filter" (filterChains rs) family)
      ((blocks rs family).flatMap Iptables.Block.lines) := by
  have hmangle := reads_blockTexts (show Iptables.IsChainName "mangle" by decide)
    (mangleChains rs) family (by
      simp only [mangleChains, List.forall_mem_cons]
      exact ⟨⟨by decide, h .manglePrerouting⟩, ⟨by decide, h .mangleOutput⟩, by simp⟩)
  have hfilter := reads_blockTexts (show Iptables.IsChainName "filter" by decide)
    (filterChains rs) family (by
      simp only [filterChains, List.forall_mem_cons]
      exact ⟨⟨by decide, h .filterInput⟩, ⟨by decide, h .filterOutput⟩,
        ⟨by decide, h .filterForward⟩, by simp⟩)
  rw [blocks, List.flatMap_append, List.flatMap_singleton]
  refine List.rel_append ?_ hfilter
  split
  · rwa [List.flatMap_singleton]
  · exact .nil

theorem readLines_render (h : RuleSet.All (fun _ r => r.WellFormed) rs) (family : AddrFamily) :
    readLines readLine (render rs family) =
      some ((blocks rs family).flatMap Iptables.Block.lines) := by
  have hreads := reads_render h family
  rw [render_eq_unlines]
  exact readLines_unlines (isLine_of_forall₂ hreads) (readStatements_of_forall₂ hreads)

theorem load_render (h : RuleSet.All (fun _ r => r.WellFormed) rs) (family : AddrFamily)
    (T : Iptables.Tables) : load (render rs family) T = runBlocks (blocks rs family) T :=
  load_of_readLines (readLines_render h family) T

/-! ## The loaded chains -/

theorem block_fits (table : String) (chains : List (String × Chain)) (family : AddrFamily)
    (t : Iptables.Chains) : (block table chains family).Fits t := by
  refine ⟨fun e he => ?_, by simp [block]⟩
  obtain ⟨c, hc, he⟩ := List.mem_flatMap.1 he
  obtain ⟨s, -, rfl⟩ := List.mem_map.1 he
  have hmem : c.1 ∈ chains.map Prod.fst := List.mem_map_of_mem hc
  simp [declared, block, hmem]

theorem specsFor_entries_of_notMem (family : AddrFamily) {c : String}
    (h : c ∉ chains.map Prod.fst) : specsFor (entries family chains) c = [] := by
  induction chains with
  | nil => rfl
  | cons d chains ih =>
    have hd : d.1 ≠ c := fun heq => h (by simp [heq])
    have htail := ih fun hmem => h (by simp [hmem])
    have hcons : entries family (d :: chains) =
      ((specs family d.2).map fun s => (d.1, s)) ++ entries family chains := rfl
    rw [hcons, specsFor_append, specsFor_map, if_neg hd, htail]
    rfl

theorem specsFor_entries (family : AddrFamily) (hnodup : (chains.map Prod.fst).Nodup)
    (hc : c ∈ chains) :
    specsFor (entries family chains) c.1 = specs family c.2 := by
  induction chains with
  | nil => exact absurd hc (by simp)
  | cons d chains ih =>
    obtain ⟨hd, hnodup'⟩ := List.nodup_cons.1 hnodup
    have hcons : entries family (d :: chains) =
      ((specs family d.2).map fun s => (d.1, s)) ++ entries family chains := rfl
    rw [hcons, specsFor_append, specsFor_map]
    rcases List.mem_cons.1 hc with rfl | hc
    · rw [if_pos rfl, specsFor_entries_of_notMem family hd, List.append_nil]
    · have hne : d.1 ≠ c.1 := fun heq => hd (List.mem_map.2 ⟨c, hc, heq.symm⟩)
      rw [if_neg hne, ih hnodup' hc, List.nil_append]

theorem block_result (hnodup : (chains.map Prod.fst).Nodup) (hc : c ∈ chains)
    (table : String) (family : AddrFamily) (t : Iptables.Chains) :
    (block table chains family).result t c.1 = some (specs family c.2) := by
  have hmem : c.1 ∈ chains.map Prod.fst := List.mem_map_of_mem hc
  have hspecs := specsFor_entries family hnodup hc
  simp [Iptables.Block.result, declared, block, hmem, hspecs]

theorem block_result_of_notMem {c : String} (hc : c ∉ chains.map Prod.fst) (table : String)
    (family : AddrFamily) (t : Iptables.Chains) : (block table chains family).result t c = t c := by
  have hspecs := specsFor_entries_of_notMem family hc
  simp [Iptables.Block.result, declared, block, hc, hspecs]

def loaded (rs : RuleSet) (family : AddrFamily) (T : Iptables.Tables) : Iptables.Tables :=
  let T := if !rs.mangle.isEmpty then
    Function.update T "mangle" ((block "mangle" (mangleChains rs) family).result (T "mangle"))
  else T
  Function.update T "filter" ((block "filter" (filterChains rs) family).result (T "filter"))

theorem runBlocks_blocks (rs : RuleSet) (family : AddrFamily) (T : Iptables.Tables) :
    runBlocks (blocks rs family) T = some (loaded rs family T) := by
  have hfilter (T : Iptables.Tables) := runLines_of_fits (T := T)
    (block_fits "filter" (filterChains rs) family (T "filter"))
  have hmangle := runLines_of_fits (T := T)
    (block_fits "mangle" (mangleChains rs) family (T "mangle"))
  unfold blocks loaded runBlocks
  split <;> simp only [List.foldlM_append, List.foldlM_cons, List.foldlM_nil, hmangle, hfilter,
    Option.bind_eq_bind, Option.bind_some, Option.pure_def] <;> rfl

def tableName : ChainId → String
  | .filterInput | .filterOutput | .filterForward => "filter"
  | .manglePrerouting | .mangleOutput => "mangle"

def chainName : ChainId → String
  | .filterInput => chainInput
  | .filterOutput => chainOutput
  | .filterForward => chainForward
  | .manglePrerouting => chainManglePrerouting
  | .mangleOutput => chainMangleOutput

theorem loaded_filter (T : Iptables.Tables) :
    loaded rs family T "filter" =
      (block "filter" (filterChains rs) family).result (T "filter") := by
  unfold loaded
  split <;> simp

theorem loaded_mangle (T : Iptables.Tables) :
    loaded rs family T "mangle" = if rs.mangle.isEmpty then T "mangle"
      else (block "mangle" (mangleChains rs) family).result (T "mangle") := by
  unfold loaded
  cases rs.mangle.isEmpty <;> simp

theorem nodup_filterChains (rs : RuleSet) : ((filterChains rs).map Prod.fst).Nodup :=
  show [chainInput, chainOutput, chainForward].Nodup by decide

theorem nodup_mangleChains (rs : RuleSet) : ((mangleChains rs).map Prod.fst).Nodup :=
  show [chainManglePrerouting, chainMangleOutput].Nodup by decide

theorem loaded_chain (rs : RuleSet) (family : AddrFamily) (T : Iptables.Tables) (c : ChainId)
    (h : tableName c = "filter" ∨ rs.mangle.isEmpty = false) :
    loaded rs family T (tableName c) (chainName c) = some (specs family (rs.chain c)) := by
  have hfilter {c : String × Chain} (hc : c ∈ filterChains rs) :
      loaded rs family T "filter" c.1 = some (specs family c.2) := by
    rw [loaded_filter, block_result (nodup_filterChains rs) hc]
  have hmangle (hm : rs.mangle.isEmpty = false) {c : String × Chain}
      (hc : c ∈ mangleChains rs) : loaded rs family T "mangle" c.1 = some (specs family c.2) := by
    rw [loaded_mangle, hm, if_neg (by decide), block_result (nodup_mangleChains rs) hc]
  have hm (hc : tableName c ≠ "filter") : rs.mangle.isEmpty = false := h.resolve_left hc
  cases c with
  | filterInput => exact hfilter (c := (chainInput, rs.filter.input)) (by simp [filterChains])
  | filterOutput => exact hfilter (c := (chainOutput, rs.filter.output)) (by simp [filterChains])
  | filterForward =>
    exact hfilter (c := (chainForward, rs.filter.forward)) (by simp [filterChains])
  | manglePrerouting =>
    exact hmangle (hm (by decide)) (c := (chainManglePrerouting, rs.mangle.prerouting))
      (by simp [mangleChains])
  | mangleOutput =>
    exact hmangle (hm (by decide)) (c := (chainMangleOutput, rs.mangle.output))
      (by simp [mangleChains])

theorem loaded_of_empty (c : ChainId) :
    (loaded rs family (fun _ _ => none) (tableName c) (chainName c)).getD [] =
      specs family (rs.chain c) := by
  by_cases hm : rs.mangle.isEmpty = true
  · have hnil : rs.mangle.prerouting = [] ∧ rs.mangle.output = [] := by
      simpa [MangleRules.isEmpty] using hm
    by_cases hc : tableName c = "filter"
    · rw [loaded_chain _ _ _ _ (Or.inl hc)]
      rfl
    · cases c with
      | manglePrerouting | mangleOutput =>
        simp [tableName, loaded_mangle, hm, RuleSet.chain, hnil, specs]
      | _ => exact absurd rfl hc
  · rw [loaded_chain _ _ _ _ (Or.inr (by simpa using hm))]
    rfl

end RenderIptables

end NymFirewall
