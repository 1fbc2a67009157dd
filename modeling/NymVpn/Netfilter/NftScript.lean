import NymVpn.Netfilter.Nft
import NymVpn.Text.Script

/-!
# The scripts of `nft -f`

A script is one transaction over the tables of the `inet` family. `load` gives the ruleset
after it, or nothing when a statement fails.
-/

namespace Netfilter.Nft

open Net Text

inductive Hook where
  | prerouting
  | input
  | forward
  | output
deriving DecidableEq

/-- The hook of a base chain and its priority there; the policy is `accept`. -/
structure Base where
  hook : Hook
  priority : ℤ
deriving DecidableEq

structure Chain where
  base : Option Base := none
  rules : List Rule := []

abbrev Table := String → Option Chain

abbrev Ruleset := String → Option Table

inductive Line where
  | addTable (name : String)
  | deleteTable (name : String)
  | openTable (name : String)
  | openChain (name : String)
  | base (b : Base)
  | rule (r : Rule)
  | close
deriving DecidableEq

/-- The place of the reader: outside, in a table, or in a chain of it. -/
inductive Cursor where
  | top
  | table (name : String) (t : Table)
  | chain (name : String) (t : Table) (chain : String) (c : Chain)

structure Load where
  ruleset : Ruleset
  cursor : Cursor := .top

def Load.exec (s : Load) : Line → Option Load
  | .addTable n =>
    match s.cursor with
    | .top =>
      some { s with
        ruleset := Function.update s.ruleset n (some ((s.ruleset n).getD fun _ => none)) }
    | _ => none
  | .deleteTable n =>
    match s.cursor with
    | .top => do
      let _ ← s.ruleset n
      return { s with ruleset := Function.update s.ruleset n none }
    | _ => none
  | .openTable n =>
    match s.cursor with
    | .top => some { s with cursor := .table n ((s.ruleset n).getD fun _ => none) }
    | _ => none
  | .openChain c =>
    match s.cursor with
    | .table n t => some { s with cursor := .chain n t c ((t c).getD {}) }
    | _ => none
  | .base b =>
    match s.cursor with
    | .chain n t c ch => some { s with cursor := .chain n t c { ch with base := some b } }
    | _ => none
  | .rule r =>
    match s.cursor with
    | .chain n t c ch =>
      some { s with cursor := .chain n t c { ch with rules := ch.rules ++ [r] } }
    | _ => none
  | .close =>
    match s.cursor with
    | .chain n t c ch => some { s with cursor := .table n (Function.update t c (some ch)) }
    | .table n t => some { ruleset := Function.update s.ruleset n (some t) }
    | .top => none

/-! ## Text -/

def Hook.name : Hook → String
  | .prerouting => "prerouting"
  | .input => "input"
  | .forward => "forward"
  | .output => "output"

def readHook (s : String) : Option Hook :=
  [Hook.prerouting, .input, .forward, .output].find? fun h => h.name == s

def priorities : List (String × ℤ) := [("mangle", -150), ("filter", 0)]

def readEnded (s : String) : Option ℕ :=
  match s.toList.splitOn ';' with
  | [n, []] => readDecimal (.ofList n)
  | _ => none

def readBase : List String → Option Base
  | "filter" :: "hook" :: h :: "priority" :: p :: "-" :: n :: policy => do
    let h ← readHook h
    let p ← priorities.lookup p
    let n ← readEnded n
    if policy = [] ∨ policy = ["policy", "accept;"] then return ⟨h, p - n⟩ else none
  | _ => none

def readLine : List String → Option Line
  | ["table", "inet", n] => some (.addTable n)
  | ["delete", "table", "inet", n] => some (.deleteTable n)
  | ["table", "inet", n, "\x7b"] => some (.openTable n)
  | ["chain", c, "\x7b"] => some (.openChain c)
  | ["\x7d"] => some .close
  | "type" :: ws => (readBase ws).map .base
  | ws => (readRule ws).map .rule

def load (s : String) (ruleset : Ruleset) : Option Ruleset := do
  let ls ← readLines readLine s
  let s ← ls.foldlM Load.exec { ruleset }
  match s.cursor with
  | .top => return s.ruleset
  | _ => none

/-! ## Loading a table -/

def chainLines (name : String) (b : Base) (rules : List Rule) : List Line :=
  .openChain name :: .base b :: (rules.map .rule ++ [.close])

abbrev Chains := List (String × Base × List Rule)

def tableLines (name : String) (chains : Chains) : List Line :=
  .openTable name :: (chains.flatMap (fun c => chainLines c.1 c.2.1 c.2.2) ++ [.close])

def Chains.table (chains : Chains) : Table := fun c =>
  (chains.lookup c).map fun e => ⟨some e.1, e.2⟩

variable (rs : Ruleset) (n : String) (t : Table) (r : Rule) {name : String} {chains : Chains}
  {text : String}

theorem foldlM_exec_rules (c : String) (ch : Chain) (rules : List Rule) :
    (rules.map Line.rule).foldlM Load.exec ⟨rs, .chain n t c ch⟩ =
      some ⟨rs, .chain n t c { ch with rules := ch.rules ++ rules }⟩ := by
  induction rules generalizing ch with
  | nil => simp
  | cons r rules ih =>
    rw [List.map_cons, List.foldlM_cons]
    simpa [Load.exec] using ih { ch with rules := ch.rules ++ [r] }

theorem foldlM_exec_chainLines {c : String} (hc : t c = none) (b : Base) (rules : List Rule) :
    (chainLines c b rules).foldlM Load.exec ⟨rs, .table n t⟩ =
      some ⟨rs, .table n (Function.update t c (some ⟨some b, rules⟩))⟩ := by
  have hopen : Load.exec ⟨rs, .table n t⟩ (.openChain c) = some ⟨rs, .chain n t c {}⟩ := by
    simp [Load.exec, hc]
  have hbase : Load.exec ⟨rs, .chain n t c {}⟩ (.base b) =
    some ⟨rs, .chain n t c ⟨some b, []⟩⟩ := rfl
  rw [chainLines, List.foldlM_cons, hopen]
  simp only [Option.bind_eq_bind, Option.bind_some, List.foldlM_cons, hbase,
    List.foldlM_append, foldlM_exec_rules]
  rfl

theorem foldlM_exec_chains (hnodup : (chains.map Prod.fst).Nodup)
    (h : ∀ c ∈ chains, t c.1 = none) :
    (chains.flatMap fun c => chainLines c.1 c.2.1 c.2.2).foldlM Load.exec ⟨rs, .table n t⟩ =
      some ⟨rs, .table n fun d => (chains.table d).or (t d)⟩ := by
  induction chains generalizing t with
  | nil => simp [Chains.table]
  | cons c chains ih =>
    obtain ⟨c, b, rules⟩ := c
    obtain ⟨hc, hnodup'⟩ := List.nodup_cons.1 hnodup
    have hother : ∀ d ∈ chains, Function.update t c (some ⟨some b, rules⟩) d.1 = none := by
      intro d hd
      have hne : d.1 ≠ c := fun heq => hc (List.mem_map.2 ⟨d, hd, heq⟩)
      rw [Function.update_of_ne hne, h d (by simp [hd])]
    rw [List.flatMap_cons, List.foldlM_append,
      foldlM_exec_chainLines rs n t (h _ List.mem_cons_self)]
    simp only [Option.bind_eq_bind, Option.bind_some]
    rw [ih _ hnodup' hother]
    have htable : (fun d => (Chains.table chains d).or
        (Function.update t c (some ⟨some b, rules⟩) d)) =
        fun d => (Chains.table ((c, b, rules) :: chains) d).or (t d) := by
      funext d
      unfold Chains.table
      rw [List.lookup_cons]
      by_cases hd : d = c
      · subst hd
        have hnone : chains.lookup d = none := by
          rw [List.lookup_eq_none_iff]
          intro e he
          have hne : d ≠ e.1 := fun heq => hc (List.mem_map.2 ⟨e, he, heq.symm⟩)
          simpa using hne
        simp [hnone]
      · have hbeq : (d == c) = false := by simpa using hd
        rw [Function.update_of_ne hd, hbeq]
    rw [htable]

theorem foldlM_exec_tableLines {rs : Ruleset} {n : String} (hn : rs n = none)
    (hnodup : (chains.map Prod.fst).Nodup) :
    (tableLines n chains).foldlM Load.exec ⟨rs, .top⟩ =
      some ⟨Function.update rs n (some chains.table), .top⟩ := by
  have hopen : Load.exec ⟨rs, .top⟩ (.openTable n) = some ⟨rs, .table n fun _ => none⟩ := by
    simp [Load.exec, hn]
  rw [tableLines, List.foldlM_cons, hopen]
  simp only [Option.bind_eq_bind, Option.bind_some, List.foldlM_append]
  rw [foldlM_exec_chains _ _ _ hnodup (by simp)]
  simp [Load.exec]

theorem foldlM_exec_delete :
    [Line.addTable n, .deleteTable n].foldlM Load.exec ⟨rs, .top⟩ =
      some ⟨Function.update rs n none, .top⟩ := by
  simp [Load.exec]

/-! ## Reading a table -/

def keywords : List String :=
  ["meta", "iifname", "oifname", "ct", "ip", "ip6", "icmp", "icmpv6", "tcp", "udp", "limit",
    "accept", "return", "drop", "reject"]

theorem Rule.words_eq_cons : ∃ w ws, r.words = w :: ws ∧ w ∈ keywords := by
  obtain ⟨_ | ⟨c, cs⟩, a⟩ := r
  · cases a <;> exact ⟨_, _, rfl, by decide⟩
  · cases c with
    | saddr p | daddr p =>
      refine ⟨_, _, rfl, ?_⟩
      cases p.family <;> decide
    | sport p n | dport p n => cases p <;> exact ⟨_, _, rfl, by decide⟩
    | _ => exact ⟨_, _, rfl, by decide⟩

theorem readLine_words {r : Rule} (h : r.Valid) : readLine r.words = some (.rule r) := by
  have hread := readRule_words h
  obtain ⟨w, ws, hwords, hmem⟩ := r.words_eq_cons
  rw [hwords] at hread ⊢
  unfold readLine
  split
  case h_7 => simp [hread]
  all_goals
    rename_i heq
    obtain ⟨rfl, -⟩ := List.cons.inj heq
    exact absurd hmem (by decide)

theorem isStatement_words : isStatement r.words = true := by
  obtain ⟨w, ws, hwords, hmem⟩ := r.words_eq_cons
  have hall : ∀ w ∈ keywords, (w.toList.head? != some '#') = true := by decide
  rw [hwords]
  exact hall w hmem

structure Rule.Prints (text : String) (r : Rule) : Prop where
  isLine : IsLine text
  words : Text.words text = r.words
  valid : r.Valid

structure Base.Prints (text : String) (b : Base) : Prop where
  isLine : IsLine text
  words : ∃ ws, Text.words text = "type" :: ws ∧ readBase ws = some b

def IsName (s : String) : Prop := IsWord s ∧ IsLine s

instance (s : String) : Decidable (IsName s) := inferInstanceAs (Decidable (_ ∧ _))

def chainText (name base : String) (rules : List String) : List String :=
  ("    chain " ++ name ++ " \x7b") :: ("        " ++ base) ::
    (rules.map (fun r => "        " ++ r) ++ ["    \x7d"])

def tableText (name : String) (chains : List (String × String × List String)) : List String :=
  ("table inet " ++ name ++ " \x7b") ::
    (chains.flatMap (fun c => chainText c.1 c.2.1 c.2.2) ++ ["\x7d"])

theorem says_indent {ws : List String} (h : Says text ws) : Says ("        " ++ text) ws := by
  refine ⟨IsLine.append (by decide) h.isLine, ?_⟩
  rw [words_append_of_blank (by decide), h.words_eq]
  rfl

theorem reads_rule {r : Rule} (h : Rule.Prints text r) :
    Reads readLine ("        " ++ text) (.rule r) :=
  (says_indent ⟨h.isLine, h.words⟩).reads (isStatement_words r) (readLine_words h.valid)

theorem reads_base {b : Base} (h : Base.Prints text b) :
    Reads readLine ("        " ++ text) (.base b) := by
  obtain ⟨ws, hwords, hread⟩ := h.words
  exact (says_indent ⟨h.isLine, hwords⟩).reads rfl (by simp [readLine, hread])

theorem says_open (head : String) (hhead : IsLine head ∧ head.toList.getLast? = some ' ')
    (h : IsName name) : Says (head ++ name ++ " \x7b") (words head ++ [name] ++ ["\x7b"]) := by
  have htext : head ++ name ++ " \x7b" = (head ++ name) ++ " " ++ "\x7b" := by
    have hbrace : " \x7b" = " " ++ "\x7b" := by decide
    rw [hbrace, ← String.append_assoc]
  rw [htext]
  exact (says_option hhead h).blank ⟨by decide, by decide⟩

theorem reads_openChain (h : IsName name) :
    Reads readLine ("    chain " ++ name ++ " \x7b") (.openChain name) :=
  (says_open "    chain " (by decide) h).reads (by rfl) (by rfl)

theorem reads_openTable (h : IsName name) :
    Reads readLine ("table inet " ++ name ++ " \x7b") (.openTable name) :=
  (says_open "table inet " (by decide) h).reads (by rfl) (by rfl)

theorem reads_chainText {name base : String} {b : Base} {texts : List String}
    {rules : List Rule} (hname : IsName name) (hbase : Base.Prints base b)
    (hrules : List.Forall₂ Rule.Prints texts rules) :
    List.Forall₂ (Reads readLine) (chainText name base texts) (chainLines name b rules) := by
  refine .cons (reads_openChain hname) (.cons (reads_base hbase) ?_)
  refine List.rel_append ?_ (.cons ⟨by decide, by decide, by decide⟩ .nil)
  rw [List.forall₂_map_left_iff, List.forall₂_map_right_iff]
  exact hrules.imp fun _ _ h => reads_rule h

theorem reads_tableText (hname : IsName name)
    {texts : List (String × String × List String)}
    (h : List.Forall₂ (fun t c => t.1 = c.1 ∧ IsName c.1 ∧ Base.Prints t.2.1 c.2.1 ∧
      List.Forall₂ Rule.Prints t.2.2 c.2.2) texts chains) :
    List.Forall₂ (Reads readLine) (tableText name texts) (tableLines name chains) := by
  refine .cons (reads_openTable hname) ?_
  refine List.rel_append ?_ (.cons ⟨by decide, by decide, by decide⟩ .nil)
  induction h with
  | nil => exact .nil
  | cons hc _ ih =>
    refine List.rel_append ?_ ih
    have hchain := reads_chainText hc.2.1 hc.2.2.1 hc.2.2.2
    simpa only [hc.1] using hchain

def deleteText (name : String) : List String :=
  ["table inet " ++ name, "delete table inet " ++ name]

theorem reads_deleteText (h : IsName name) :
    List.Forall₂ (Reads readLine) (deleteText name) [.addTable name, .deleteTable name] := by
  refine .cons ?_ (.cons ?_ .nil)
  · exact (says_option (by decide) h).reads (by rfl) (by rfl)
  · exact (says_option (by decide) h).reads (by rfl) (by rfl)

end Netfilter.Nft
