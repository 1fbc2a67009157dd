import NymVpn.Firewall.RenderNft

/-!
# The nft text means what the rules mean

The text of a well-formed rule reads back as `toNft`, which acts on the packets
of both families as the rule does.
-/

namespace NymFirewall

open Net Netfilter Text

namespace RenderNft

open Nft

open Nft (Clause Action PortProto)
open RenderIptables (renderAddr writeln all_toList_map)

def familyClauses (rule : Rule) : List Clause :=
  if !impliesFamily rule.matches_ then
    match rule.family with
    | .v4 => [.nfproto .v4]
    | .v6 => [.nfproto .v6]
    | .inet => []
  else []

def portClauses (m : Match) (proto : PortProto) : List Clause :=
  (m.sport.map (Clause.sport proto)).toList ++ (m.dport.map (Clause.dport proto)).toList ++
  if m.sport.isNone && m.dport.isNone then [.l4proto proto] else []

def protoClauses (m : Match) : List Clause :=
  match m.proto with
  | some .tcp => portClauses m .tcp
  | some .udp => portClauses m .udp
  | some .icmp | some .icmpV6 | none => []

def clauses (rule : Rule) : List Clause :=
  let m := rule.matches_
  familyClauses rule ++
  (m.iif.map .iifname).toList ++ (m.oif.map .oifname).toList ++
  (m.iifNot.map .iifnameNot).toList ++
  (m.ctState.map fun _ => .ctNew).toList ++
  (m.mark.map .mark).toList ++ (m.ctMark.map .ctMark).toList ++
  (m.skuid.map .skuid).toList ++
  (m.saddr.map fun a => .saddr a.toPattern).toList ++
  (m.daddr.map fun a => .daddr a.toPattern).toList ++
  (m.icmpv4Type.map fun t => .icmpType t.number).toList ++
  (m.icmpv6Type.map fun t => .icmpv6Type t.number).toList ++
  protoClauses m ++
  (m.rateLimit.map fun rl => .limit rl.perMinute rl.burst).toList

def action : Verdict → Action
  | .accept => .accept
  | .return_ => .return_
  | .drop_ => .drop_
  | .reject => .reject
  | .setCtMark n => .setCtMark n
  | .restoreMark => .restoreMark

def toNft (rule : Rule) : Nft.Rule := ⟨clauses rule, action rule.verdict⟩

/-! ## Acting alike -/

theorem covers_of_holds {a : AddrMatch} {ip : IpAddr} (h : a.holds ip = true) :
    a.ruleFamily.covers ip.family = true := by
  cases a with
  | ip b =>
    obtain rfl : ip = b := by simpa [AddrMatch.holds] using h
    cases ip <;> rfl
  | net n =>
    have hfamily := IpNetwork.family_of_contains h
    cases n <;> rw [hfamily] <;> rfl

variable {rule : Rule} {rs : RuleSet}

theorem covers_of_impliesFamily (h : rule.WellFormed)
    (himplied : impliesFamily rule.matches_ = true) {k : Packet}
    (hsaddr : ∀ a ∈ rule.matches_.saddr, a.holds k.saddr = true)
    (hdaddr : ∀ a ∈ rule.matches_.daddr, a.holds k.daddr = true)
    (hicmp : ∀ _t ∈ rule.matches_.icmpv4Type, k.family = .v4)
    (hicmpv6 : ∀ _t ∈ rule.matches_.icmpv6Type, k.family = .v6) :
    rule.family.covers k.family = true := by
  simp only [impliesFamily, Bool.or_eq_true, Option.isSome_iff_exists] at himplied
  rcases himplied with ((⟨a, ha⟩ | ⟨a, ha⟩) | ⟨t, ht⟩) | ⟨t, ht⟩
  · rw [h.saddr a ha, ← k.family_saddr]
    exact covers_of_holds (hsaddr a ha)
  · rw [h.daddr a ha, ← k.family_daddr]
    exact covers_of_holds (hdaddr a ha)
  · rw [(h.icmpv4Type t ht).1, hicmp t ht]
    rfl
  · rw [(h.icmpv6Type t ht).1, hicmpv6 t ht]
    rfl

theorem familyClauses_all_holds (ok : Bool) (k : Packet) :
    (familyClauses rule).all (Clause.holds ok k) = true ↔
      (impliesFamily rule.matches_ = false → rule.family.covers k.family = true) := by
  unfold familyClauses
  cases impliesFamily rule.matches_ <;> cases rule.family <;> simp [Clause.holds]

variable (ls : List String) (m : Match) (p : PortProto) (name hook : String) {d : String}
  {c : Chain}

theorem portClauses_all_holds (ok : Bool) (k : Packet) :
    (portClauses m p).all (Clause.holds ok k) = true ↔
      p.holds k.transport = true ∧ (∀ n ∈ m.sport, k.transport.sport? = some n) ∧
        ∀ n ∈ m.dport, k.transport.dport? = some n := by
  unfold portClauses
  cases m.sport <;> cases m.dport <;> simp [Clause.holds]
  tauto

theorem protoClauses_all_holds (h : rule.WellFormed) (ok : Bool) (k : Packet) :
    (protoClauses rule.matches_).all (Clause.holds ok k) = true ↔
      (∀ p ∈ rule.matches_.proto, p = .tcp ∨ p = .udp → p.holds k.transport = true) ∧
        (∀ n ∈ rule.matches_.sport, k.transport.sport? = some n) ∧
          ∀ n ∈ rule.matches_.dport, k.transport.dport? = some n := by
  have htcp : PortProto.tcp.holds k.transport = Proto.tcp.holds k.transport := by
    cases k.transport <;> rfl
  have hudp : PortProto.udp.holds k.transport = Proto.udp.holds k.transport := by
    cases k.transport <;> rfl
  -- Without a protocol that has ports there are no ports.
  have hports (hp : rule.matches_.proto ≠ some .tcp) (hp' : rule.matches_.proto ≠ some .udp) :
      rule.matches_.sport = none ∧ rule.matches_.dport = none := by
    refine ⟨Option.eq_none_iff_forall_not_mem.2 fun n hn => ?_,
      Option.eq_none_iff_forall_not_mem.2 fun n hn => ?_⟩
    · exact (h.sport n hn).elim hp hp'
    · exact (h.dport n hn).elim hp hp'
  unfold protoClauses
  cases hproto : rule.matches_.proto with
  | none => simp [hports (by simp [hproto]) (by simp [hproto])]
  | some p =>
    cases p with
    | tcp =>
      rw [portClauses_all_holds, htcp]
      simp
    | udp =>
      rw [portClauses_all_holds, hudp]
      simp
    | icmp | icmpV6 => simp [hports (by simp [hproto]) (by simp [hproto])]

theorem getD_eq_iff {o : Option String} (h : IsIfName d) : o.getD "" = d ↔ o = some d := by
  have hne : d ≠ "" := by
    rintro rfl
    exact h.1 rfl
  cases o with
  | none => simpa using hne.symm
  | some e => simp

theorem clauses_all_holds (h : rule.WellFormed) (ok : Bool) (k : Packet) :
    (clauses rule).all (Clause.holds ok k) = true ↔ rule.Applies ok k := by
  have hiif : (∀ d ∈ rule.matches_.iif, k.iif.getD "" = d) ↔
      ∀ d ∈ rule.matches_.iif, k.iif = some d :=
    forall₂_congr fun d hd => getD_eq_iff (h.iif d hd)
  have hoif : (∀ d ∈ rule.matches_.oif, k.oif.getD "" = d) ↔
      ∀ d ∈ rule.matches_.oif, k.oif = some d :=
    forall₂_congr fun d hd => getD_eq_iff (h.oif d hd)
  have hiifNot : (∀ d ∈ rule.matches_.iifNot, k.iif.getD "" ≠ d) ↔
      ∀ d ∈ rule.matches_.iifNot, k.iif ≠ some d :=
    forall₂_congr fun d hd => not_congr (getD_eq_iff (h.iifNot d hd))
  simp only [clauses, List.all_append, Bool.and_eq_true, all_toList_map,
    familyClauses_all_holds, protoClauses_all_holds h, Clause.holds,
    RenderIptables.toPattern_matches, beq_iff_eq, bne_iff_ne, hiif, hoif, hiifNot]
  constructor
  · rintro ⟨⟨⟨⟨⟨⟨⟨⟨⟨⟨⟨⟨⟨hfam, h1⟩, h2⟩, h3⟩, h4⟩, h5⟩, h6⟩, h7⟩, hs⟩, hd⟩, h4t⟩, h6t⟩,
      hp, hsp, hdp⟩, hl⟩
    have hcovers : rule.family.covers k.family = true := by
      by_cases himplied : impliesFamily rule.matches_ = true
      · exact covers_of_impliesFamily h himplied hs hd (fun t ht => (h4t t ht).1)
          fun t ht => (h6t t ht).1
      · exact hfam (by simpa using himplied)
    have hproto : ∀ p ∈ rule.matches_.proto, p.holds k.transport = true := by
      intro p hpm
      cases p with
      | tcp => exact hp _ hpm (Or.inl rfl)
      | udp => exact hp _ hpm (Or.inr rfl)
      | icmp =>
        obtain ⟨t, ht⟩ := Option.isSome_iff_exists.1 (h.icmp hpm)
        rw [(h4t t ht).2]
        rfl
      | icmpV6 =>
        obtain ⟨t, ht⟩ := Option.isSome_iff_exists.1 (h.icmpV6 hpm)
        rw [(h6t t ht).2]
        rfl
    exact ⟨hcovers, h1, h2, h3, hs, hd, hproto, hsp, hdp, h4, fun t ht => (h4t t ht).2,
      fun t ht => (h6t t ht).2, hl, h5, h6, h7⟩
  · rintro ⟨hcovers, h1, h2, h3, hs, hd, hp, hsp, hdp, h4, h4t, h6t, hl, h5, h6, h7⟩
    have hv4 : ∀ t ∈ rule.matches_.icmpv4Type, k.family = .v4 := by
      intro t ht
      simpa [(h.icmpv4Type t ht).1] using hcovers
    have hv6 : ∀ t ∈ rule.matches_.icmpv6Type, k.family = .v6 := by
      intro t ht
      simpa [(h.icmpv6Type t ht).1] using hcovers
    exact ⟨⟨⟨⟨⟨⟨⟨⟨⟨⟨⟨⟨⟨fun _ => hcovers, h1⟩, h2⟩, h3⟩, h4⟩, h5⟩, h6⟩, h7⟩, hs⟩, hd⟩,
      fun t ht => ⟨hv4 t ht, h4t t ht⟩⟩, fun t ht => ⟨hv6 t ht, h6t t ht⟩⟩,
      fun p hpm _ => hp p hpm, hsp, hdp⟩, hl⟩

theorem toNft_step (h : rule.WellFormed) (ok : Bool) (k : Packet) :
    (toNft rule).step ok k = rule.step ok k :=
  if_congr (clauses_all_holds h ok k) (by simp only [toNft]; cases rule.verdict <;> rfl) rfl

theorem run_map_toNft (h : ∀ r ∈ c, r.WellFormed) (ω : ℕ → Bool) (k : Packet) :
    run (c.map toNft) ω k = c.run ω k := by
  induction c generalizing ω k with
  | nil => rfl
  | cons r c ih =>
    have hstep := toNft_step (h r (by simp))
    have ih := ih fun s hs => h s (by simp [hs])
    simp only [run, Chain.run] at ih ⊢
    cases hs : r.step (ω 0) k with
    | inl d =>
      rw [List.map_cons, traverse_cons_inl _ hs, traverse_cons_inl _ ((hstep (ω 0) k).trans hs)]
    | inr k' =>
      rw [List.map_cons, traverse_cons_inr _ hs, traverse_cons_inr _ ((hstep (ω 0) k).trans hs)]
      exact ih _ k'

/-! ## The words of a rule -/

open RenderIptables (isWord_minute)

structure States (rule : Rule) (text : String) (c : Clause) : Prop where
  text : Says text c.words
  valid : c.Valid
  family : ∀ f ∈ c.family?, rule.family = .ofAddr f

theorem states_familyParts (rule : Rule) :
    List.Forall₂ (States rule) (familyParts rule) (familyClauses rule) := by
  unfold familyParts familyClauses
  cases impliesFamily rule.matches_ with
  | true => exact .nil
  | false =>
    cases rule.family with
    | inet => exact .nil
    | _ => exact .cons ⟨⟨by decide, by decide⟩, trivial, nofun⟩ .nil

theorem says_quoted (opt : String) (hopt : IsLine opt ∧ opt.toList.getLast? = some ' ')
    (h : IsIfName d) : Says (opt ++ "\"" ++ d ++ "\"") (words opt ++ [quoted d]) := by
  have hword : IsWord (quoted d) ∧ IsLine (quoted d) := by
    obtain ⟨⟨-, hblank⟩, hline⟩ := h.isWord
    simp only [IsLine] at hline
    simpa [quoted, IsWord, IsLine] using ⟨hblank, hline⟩
  have htext : opt ++ "\"" ++ d ++ "\"" = opt ++ quoted d := by
    simp only [quoted, String.append_assoc]
  rw [htext]
  exact says_option hopt hword

theorem states_portParts : List.Forall₂ (States rule) (portParts m p.name) (portClauses m p) := by
  have hsport (n : UInt16) : Says (p.name ++ " sport " ++ decimal n.toNat)
      (Clause.sport p n).words := by
    cases p <;> exact says_option (by decide) (isWord_decimal _)
  have hdport (n : UInt16) : Says (p.name ++ " dport " ++ decimal n.toNat)
      (Clause.dport p n).words := by
    cases p <;> exact says_option (by decide) (isWord_decimal _)
  refine List.rel_append (List.rel_append
    (forall₂_toList fun n _ => ⟨hsport n, trivial, nofun⟩)
    (forall₂_toList fun n _ => ⟨hdport n, trivial, nofun⟩)) ?_
  split
  · exact .cons ⟨by cases p <;> exact ⟨by decide, by decide⟩, trivial, nofun⟩ .nil
  · exact .nil

theorem states_protoParts (m : Match) :
    List.Forall₂ (States rule) (protoParts m) (protoClauses m) := by
  unfold protoParts protoClauses
  cases m.proto with
  | none => exact .nil
  | some p =>
    cases p with
    | tcp => exact states_portParts m .tcp
    | udp => exact states_portParts m .udp
    | icmp | icmpV6 => exact .nil

theorem addrFamily_ruleFamily (a : AddrMatch) :
    addrFamily a.ruleFamily = headerName a.toPattern.family := by
  rcases a with ⟨_ | _⟩ | ⟨_ | _⟩ <;> rfl

theorem says_addr {a : AddrMatch} (h : rule.family = a.ruleFamily) {side : String}
    (hside : ∀ f, (IsLine (headerName f ++ side) ∧
      (headerName f ++ side).toList.getLast? = some ' ') ∧
        words (headerName f ++ side) = headerName f :: words side) :
    Says (addrFamily rule.family ++ side ++ renderAddr a)
      (headerName a.toPattern.family :: words side ++ [a.toPattern.display]) := by
  rw [h, addrFamily_ruleFamily, ← (hside _).2]
  exact RenderIptables.says_addr a (hside _).1

theorem says_limit (rl : RateLimit) :
    Says ("limit rate " ++ (decimal rl.perMinute.toNat ++ "/minute burst ") ++
      (decimal rl.burst.toNat ++ " packets")) (Clause.limit rl.perMinute rl.burst).words := by
  have htext : "limit rate " ++ (decimal rl.perMinute.toNat ++ "/minute burst ") ++
      (decimal rl.burst.toNat ++ " packets") =
        "limit rate " ++ (decimal rl.perMinute.toNat ++ "/minute") ++ " " ++
          ("burst " ++ decimal rl.burst.toNat ++ " " ++ "packets") := by
    have hminute : "/minute burst " = "/minute" ++ " " ++ "burst " := by decide
    have hpackets : " packets" = " " ++ "packets" := by decide
    rw [hminute, hpackets]
    simp only [String.append_assoc]
  rw [htext]
  exact (says_option (by decide) (isWord_minute _)).blank
    ((says_option (by decide) (isWord_decimal _)).blank ⟨by decide, by decide⟩)

theorem states_matchParts (h : rule.WellFormed) :
    List.Forall₂ (States rule) (matchParts rule) (clauses rule) := by
  have hside : ∀ side ∈ [" saddr ", " daddr "], ∀ f, (IsLine (headerName f ++ side) ∧
      (headerName f ++ side).toList.getLast? = some ' ') ∧
        words (headerName f ++ side) = headerName f :: words side := by
    intro side hside f
    cases f <;> revert side <;> decide
  have haddr {a : AddrMatch} (ha : rule.family = a.ruleFamily) :
      ∀ f ∈ some a.toPattern.family, rule.family = .ofAddr f := fun f hf =>
    Option.some.inj hf ▸ ha.trans (ruleFamily_eq_ofAddr a)
  have hname {d : String} (hd : IsIfName d) : '"' ∉ d.toList := hd.not_mem (by decide)
  simp only [matchParts, clauses, List.append_assoc]
  repeat' refine List.rel_append ?_ ?_
  · exact states_familyParts rule
  · exact forall₂_toList fun d hd =>
      ⟨says_quoted "iifname " (by decide) (h.iif d hd), hname (h.iif d hd), nofun⟩
  · exact forall₂_toList fun d hd =>
      ⟨says_quoted "oifname " (by decide) (h.oif d hd), hname (h.oif d hd), nofun⟩
  · exact forall₂_toList fun d hd =>
      ⟨says_quoted "iifname != " (by decide) (h.iifNot d hd), hname (h.iifNot d hd), nofun⟩
  · exact forall₂_toList fun t _ => ⟨by cases t; exact ⟨by decide, by decide⟩, trivial, nofun⟩
  · exact forall₂_toList fun n _ => ⟨says_option (by decide) (isWord_hexMarked _), trivial, nofun⟩
  · exact forall₂_toList fun n _ => ⟨says_option (by decide) (isWord_hexMarked _), trivial, nofun⟩
  · exact forall₂_toList fun n _ => ⟨says_option (by decide) (isWord_decimal _), trivial, nofun⟩
  · exact forall₂_toList fun a ha =>
      ⟨says_addr (h.saddr a ha) (hside _ (by simp)), trivial, haddr (h.saddr a ha)⟩
  · exact forall₂_toList fun a ha =>
      ⟨says_addr (h.daddr a ha) (hside _ (by simp)), trivial, haddr (h.daddr a ha)⟩
  · refine forall₂_toList fun t ht => ⟨?_, ?_, fun f hf => ?_⟩
    · cases t; exact ⟨by decide, by decide⟩
    · cases t; exact show (8 : UInt8) ∈ icmpTypes.map Prod.snd by decide
    · exact Option.some.inj hf ▸ (h.icmpv4Type t ht).1
  · have hall (t : IcmpV6Type) : t.number ∈ icmpv6Types.map Prod.snd := by cases t <;> decide
    refine forall₂_toList fun t ht => ⟨?_, hall t, fun f hf => ?_⟩
    · cases t <;> exact ⟨by decide, by decide⟩
    · exact Option.some.inj hf ▸ (h.icmpv6Type t ht).1
  · exact states_protoParts rule.matches_
  · exact forall₂_toList fun rl _ => ⟨says_limit rl, trivial, nofun⟩

theorem says_renderVerdict (v : Verdict) : Says (renderVerdict v) (action v).words := by
  cases v with
  | setCtMark n => exact says_option (by decide) (isWord_hexMarked _)
  | _ => exact ⟨by decide, by decide⟩

theorem prints_renderRule (h : rule.WellFormed) :
    Nft.Rule.Prints (renderRule rule) (toNft rule) := by
  have hstates := states_matchParts h
  have hparts : List.Forall₂ Says (matchParts rule) ((clauses rule).map Clause.words) :=
    List.forall₂_map_right_iff.2 (hstates.imp fun _ _ hs => hs.text)
  obtain ⟨hline, hwords⟩ := says_intercalate
    (List.rel_append hparts (.cons (says_renderVerdict rule.verdict) .nil))
  refine ⟨hline, hwords.trans ?_, forall_of_forall₂ hstates fun _ _ hs => hs.valid⟩
  simp [Nft.Rule.words, toNft, List.flatMap]

theorem forall₂_renderRule (h : ∀ r ∈ c, r.WellFormed) :
    List.Forall₂ Nft.Rule.Prints (c.map renderRule) (c.map toNft) := by
  rw [List.forall₂_map_left_iff, List.forall₂_map_right_iff, List.forall₂_same]
  exact fun r hr => prints_renderRule (h r hr)

open RenderIptables (writeln_unlines)

theorem renderRules_unlines (c : Chain) :
    renderRules (unlines ls) c =
      unlines (ls ++ (c.map renderRule).map fun r => "        " ++ r) := by
  induction c generalizing ls with
  | nil => simp [renderRules]
  | cons r c ih =>
    have hcons : renderRules (unlines ls) (r :: c) =
      renderRules (writeln (unlines ls) ("        " ++ renderRule r)) c := rfl
    rw [hcons, writeln_unlines, ih]
    simp

def baseText (hook priority offset rest : String) : String :=
  "type filter hook " ++ hook ++ priority ++ offset ++ rest

abbrev filterBase (hook : String) : String :=
  baseText hook " priority filter " (offsetText filterPriorityOffset) "; policy accept;"

abbrev mangleBase (hook : String) : String :=
  baseText hook " priority mangle " (offsetText manglePriorityOffset) ";"

theorem indent_baseText (priority offset rest : String) :
    "        type filter hook " ++ hook ++ priority ++ offset ++ rest =
      "        " ++ baseText hook priority offset rest := by
  unfold baseText
  apply String.toList_inj.1
  simp

theorem renderChain_unlines (c : Chain) :
    renderChain (unlines ls) name hook c =
      unlines (ls ++ chainText name (filterBase hook) (c.map renderRule)) := by
  simp only [renderChain, indent_baseText, writeln_unlines, renderRules_unlines]
  simp [chainText]

theorem renderMangleChain_unlines (c : Chain) :
    renderMangleChain (unlines ls) name hook c =
      unlines (ls ++ chainText name (mangleBase hook) (c.map renderRule)) := by
  simp only [renderMangleChain, indent_baseText, writeln_unlines, renderRules_unlines]
  simp [chainText]

theorem prints_filterBase (hook : Nft.Hook) :
    Nft.Base.Prints (filterBase hook.name) ⟨hook, -10⟩ := by
  refine ⟨by cases hook <;> decide, ["filter", "hook", hook.name, "priority", "filter", "-",
    "10;", "policy", "accept;"], ?_, ?_⟩
  · cases hook <;> decide
  · cases hook <;> decide

theorem prints_mangleBase (hook : Nft.Hook) :
    Nft.Base.Prints (mangleBase hook.name) ⟨hook, -160⟩ := by
  refine ⟨by cases hook <;> decide, ["filter", "hook", hook.name, "priority", "mangle", "-",
    "10;"], ?_, ?_⟩
  · cases hook <;> decide
  · cases hook <;> decide

def chainTexts (rs : RuleSet) : List (String × String × List String) :=
  (if !rs.mangle.isEmpty then
    [("mangle_prerouting", mangleBase "prerouting", rs.mangle.prerouting.map renderRule),
      ("mangle_output", mangleBase "output", rs.mangle.output.map renderRule)] else []) ++
  [("input", filterBase "input", rs.filter.input.map renderRule),
    ("output", filterBase "output", rs.filter.output.map renderRule),
    ("forward", filterBase "forward", rs.filter.forward.map renderRule)]

def chains (rs : RuleSet) : Nft.Chains :=
  (if !rs.mangle.isEmpty then
    [("mangle_prerouting", ⟨.prerouting, -160⟩, rs.mangle.prerouting.map toNft),
      ("mangle_output", ⟨.output, -160⟩, rs.mangle.output.map toNft)] else []) ++
  [("input", ⟨.input, -10⟩, rs.filter.input.map toNft),
    ("output", ⟨.output, -10⟩, rs.filter.output.map toNft),
    ("forward", ⟨.forward, -10⟩, rs.filter.forward.map toNft)]

theorem deleteTable_eq_unlines (table : String) :
    deleteTable table = unlines (deleteText table) := by
  apply String.toList_inj.1
  simp [deleteTable, unlines, deleteText]

theorem render_eq_unlines :
    render rs = unlines (["#!/usr/sbin/nft -f", ""] ++ deleteText nymTable ++ [""] ++
      tableText nymTable (chainTexts rs)) := by
  have hhead : writeln (writeln "" "#!/usr/sbin/nft -f") "" ++ deleteTable nymTable =
      unlines (["#!/usr/sbin/nft -f", ""] ++ deleteText nymTable) := by
    rw [deleteTable_eq_unlines, unlines_append]
    rfl
  simp only [render, hhead, writeln_unlines]
  split <;>
    simp only [renderMangleChain_unlines, renderChain_unlines, writeln_unlines] <;>
    simp [tableText, chainTexts, *]

theorem reads_chainTexts (h : RuleSet.All (fun _ r => r.WellFormed) rs) :
    List.Forall₂ (Reads readLine) (tableText nymTable (chainTexts rs))
      (tableLines nymTable (chains rs)) := by
  have hname : Nft.IsName "mangle_prerouting" ∧ Nft.IsName "mangle_output" ∧
    Nft.IsName "input" ∧ Nft.IsName "output" ∧ Nft.IsName "forward" := by decide
  obtain ⟨hpre, hmout, hin, hout, hfwd⟩ := hname
  refine reads_tableText (by decide) (List.rel_append ?_ ?_)
  · split
    · refine .cons ⟨rfl, hpre, prints_mangleBase .prerouting, ?_⟩
        (.cons ⟨rfl, hmout, prints_mangleBase .output, ?_⟩ .nil)
      · exact forall₂_renderRule (h .manglePrerouting)
      · exact forall₂_renderRule (h .mangleOutput)
    · exact .nil
  · refine .cons ⟨rfl, hin, prints_filterBase .input, ?_⟩
      (.cons ⟨rfl, hout, prints_filterBase .output, ?_⟩
        (.cons ⟨rfl, hfwd, prints_filterBase .forward, ?_⟩ .nil))
    · exact forall₂_renderRule (h .filterInput)
    · exact forall₂_renderRule (h .filterOutput)
    · exact forall₂_renderRule (h .filterForward)

theorem nodup_chains (rs : RuleSet) : ((chains rs).map Prod.fst).Nodup := by
  unfold chains
  cases rs.mangle.isEmpty
  · exact show ["mangle_prerouting", "mangle_output", "input", "output", "forward"].Nodup by
      decide
  · exact show ["input", "output", "forward"].Nodup by decide

theorem readLines_render (h : RuleSet.All (fun _ r => r.WellFormed) rs) :
    readLines readLine (render rs) = some ([.addTable nymTable, .deleteTable nymTable] ++
      tableLines nymTable (chains rs)) := by
  have hdelete := reads_deleteText (show Nft.IsName nymTable by decide)
  have htable := reads_chainTexts h
  have hhead : readStatements readLine ["#!/usr/sbin/nft -f", ""] = some [] := rfl
  have hblank : readStatements readLine [""] = some [] := rfl
  rw [render_eq_unlines]
  refine readLines_unlines ?_ ?_
  · simp only [List.forall_mem_append]
    exact ⟨⟨⟨by decide, isLine_of_forall₂ hdelete⟩, by decide⟩, isLine_of_forall₂ htable⟩
  · have hstart := readStatements_append
      (readStatements_append hhead (readStatements_of_forall₂ hdelete)) hblank
    exact readStatements_append hstart (readStatements_of_forall₂ htable)

theorem load_render (h : RuleSet.All (fun _ r => r.WellFormed) rs) (ruleset : Nft.Ruleset) :
    load (render rs) ruleset =
      some (Function.update ruleset nymTable (some (chains rs).table)) := by
  have hgone : Function.update ruleset nymTable none nymTable = none := by simp
  have htable := foldlM_exec_tableLines hgone (nodup_chains rs)
  rw [load, readLines_render h]
  simp only [Option.bind_eq_bind, Option.bind_some, List.foldlM_append, foldlM_exec_delete, htable]
  simp

def chainName : ChainId → String
  | .filterInput => "input"
  | .filterOutput => "output"
  | .filterForward => "forward"
  | .manglePrerouting => "mangle_prerouting"
  | .mangleOutput => "mangle_output"

def rules (t : Nft.Table) (c : ChainId) : List Nft.Rule :=
  ((t (chainName c)).map Nft.Chain.rules).getD []

theorem rules_chains (c : ChainId) : rules (chains rs).table c = (rs.chain c).map toNft := by
  by_cases hm : rs.mangle.isEmpty = true
  · have hnil : rs.mangle.prerouting = [] ∧ rs.mangle.output = [] := by
      simpa [MangleRules.isEmpty] using hm
    cases c <;> simp [rules, Nft.Chains.table, chains, hm, chainName, RuleSet.chain, hnil] <;> rfl
  · cases c <;> simp [rules, Nft.Chains.table, chains, hm, chainName, RuleSet.chain] <;> rfl

end RenderNft

end NymFirewall
