import NymVpn.Net.Display
import NymVpn.Netfilter.Chain
import NymVpn.Netfilter.Values

/-!
# The rules of `nft`

A rule of an `inet` table sees the packets of both families. Its statements are read from
left to right: conditions, then one verdict or mark statement.
-/

namespace Netfilter.Nft

open Net Text

inductive PortProto where
  | tcp
  | udp
deriving DecidableEq

inductive Clause where
  | nfproto (family : AddrFamily)
  | iifname (name : String)
  | iifnameNot (name : String)
  | oifname (name : String)
  | ctNew
  | mark (m : UInt32)
  | ctMark (m : UInt32)
  | skuid (uid : UInt32)
  | saddr (p : IpPattern)
  | daddr (p : IpPattern)
  | icmpType (t : UInt8)
  | icmpv6Type (t : UInt8)
  | sport (p : PortProto) (port : UInt16)
  | dport (p : PortProto) (port : UInt16)
  | l4proto (p : PortProto)
  | limit (perMinute burst : UInt32)
deriving DecidableEq

inductive Action where
  | accept
  | return_
  | drop_
  | reject
  | setCtMark (m : UInt32)
  | restoreMark
deriving DecidableEq

structure Rule where
  clauses : List Clause
  action : Action
deriving DecidableEq

/-! ## Meaning -/

def PortProto.holds : PortProto → Transport → Bool
  | .tcp, .tcp _ _ => true
  | .udp, .udp _ _ => true
  | _, _ => false

def Clause.holds (ok : Bool) (k : Packet) : Clause → Bool
  | .nfproto f => k.family == f
  | .iifname name => k.iif.getD "" == name
  | .iifnameNot name => k.iif.getD "" != name
  | .oifname name => k.oif.getD "" == name
  | .ctNew => k.ctNew
  | .mark m => k.mark == m
  | .ctMark m => k.ctMark == m
  | .skuid uid => k.skuid == some uid
  | .saddr p => p.matches k.saddr
  | .daddr p => p.matches k.daddr
  | .icmpType t => k.family == .v4 && k.transport == .icmp t
  | .icmpv6Type t => k.family == .v6 && k.transport == .icmpv6 t
  | .sport p port => p.holds k.transport && k.transport.sport? == some port
  | .dport p port => p.holds k.transport && k.transport.dport? == some port
  | .l4proto p => p.holds k.transport
  | .limit _ _ => ok

def Action.effect : Action → Packet → Decision ⊕ Packet
  | .accept, _ => .inl .accept
  | .return_, _ => .inl .return_
  | .drop_, _ => .inl .drop_
  | .reject, _ => .inl .reject
  | .setCtMark m, k => .inr { k with ctMark := m }
  | .restoreMark, k => .inr { k with mark := k.ctMark }

def Rule.step (r : Rule) (ok : Bool) (k : Packet) : Decision ⊕ Packet :=
  if r.clauses.all (Clause.holds ok k) then r.action.effect k else .inr k

def run (c : List Rule) (ω : ℕ → Bool) (k : Packet) : Option Decision × Packet :=
  traverse Rule.step ω c k

def Clause.family? : Clause → Option AddrFamily
  | .saddr p => some p.family
  | .daddr p => some p.family
  | .icmpType _ => some .v4
  | .icmpv6Type _ => some .v6
  | _ => none

/-! ## Text -/

def PortProto.name : PortProto → String
  | .tcp => "tcp"
  | .udp => "udp"

def headerName : AddrFamily → String
  | .v4 => "ip"
  | .v6 => "ip6"

def familyName : AddrFamily → String
  | .v4 => "ipv4"
  | .v6 => "ipv6"

def icmpTypes : List (String × UInt8) := [("echo-reply", 0), ("echo-request", 8)]

def icmpv6Types : List (String × UInt8) :=
  [("echo-request", 128), ("echo-reply", 129), ("nd-router-solicit", 133),
    ("nd-router-advert", 134), ("nd-neighbor-solicit", 135), ("nd-neighbor-advert", 136)]

def quoted (name : String) : String := "\"" ++ name ++ "\""

def readQuoted (s : String) : Option String :=
  match s.toList.splitOn '"' with
  | [[], name, []] => some (.ofList name)
  | _ => none

def readPortProto (s : String) : Option PortProto :=
  [PortProto.tcp, .udp].find? fun p => p.name == s

def readPortClause (p : PortProto) : List String → Option (Clause × List String)
  | "sport" :: n :: ws => (readPort n).map fun n => (.sport p n, ws)
  | "dport" :: n :: ws => (readPort n).map fun n => (.dport p n, ws)
  | _ => none

def readAddrClause (family : AddrFamily) : List String → Option (Clause × List String)
  | "saddr" :: a :: ws => (readPattern family a).map fun p => (.saddr p, ws)
  | "daddr" :: a :: ws => (readPattern family a).map fun p => (.daddr p, ws)
  | _ => none

def readClause (w : String) (ws : List String) : Option (Clause × List String) :=
  if w = "meta" then
    match ws with
    | "nfproto" :: "ipv4" :: ws => some (.nfproto .v4, ws)
    | "nfproto" :: "ipv6" :: ws => some (.nfproto .v6, ws)
    | "mark" :: m :: ws => (readU32 m).map fun m => (.mark m, ws)
    | "skuid" :: u :: ws => (readU32 u).map fun u => (.skuid u, ws)
    | "l4proto" :: p :: ws => (readPortProto p).map fun p => (.l4proto p, ws)
    | _ => none
  else if w = "iifname" then
    match ws with
    | "!=" :: d :: ws => (readQuoted d).map fun d => (.iifnameNot d, ws)
    | d :: ws => (readQuoted d).map fun d => (.iifname d, ws)
    | _ => none
  else if w = "oifname" then
    match ws with
    | d :: ws => (readQuoted d).map fun d => (.oifname d, ws)
    | _ => none
  else if w = "ct" then
    match ws with
    | "state" :: "new" :: ws => some (.ctNew, ws)
    | "mark" :: m :: ws => (readU32 m).map fun m => (.ctMark m, ws)
    | _ => none
  else if w = "ip" then readAddrClause .v4 ws
  else if w = "ip6" then readAddrClause .v6 ws
  else if w = "icmp" then
    match ws with
    | "type" :: t :: ws => (icmpTypes.lookup t).map fun t => (.icmpType t, ws)
    | _ => none
  else if w = "icmpv6" then
    match ws with
    | "type" :: t :: ws => (icmpv6Types.lookup t).map fun t => (.icmpv6Type t, ws)
    | _ => none
  else if w = "tcp" then readPortClause .tcp ws
  else if w = "udp" then readPortClause .udp ws
  else if w = "limit" then
    match ws with
    | "rate" :: r :: "burst" :: b :: "packets" :: ws => do
      return (.limit (← readRate r) (← readU32 b), ws)
    | _ => none
  else none

def readAction : List String → Option Action
  | ["accept"] => some .accept
  | ["return"] => some .return_
  | ["drop"] => some .drop_
  | ["reject"] => some .reject
  | ["ct", "mark", "set", m] => (readU32 m).map .setCtMark
  | ["meta", "mark", "set", "ct", "mark"] => some .restoreMark
  | _ => none

def readRuleFrom : ℕ → List String → Option Rule
  | 0, _ => none
  | _, [] => none
  | n + 1, w :: ws =>
    match readAction (w :: ws) with
    | some a => some ⟨[], a⟩
    | none => do
      let (c, ws) ← readClause w ws
      let r ← readRuleFrom n ws
      return ⟨c :: r.clauses, r.action⟩

def readRule (ws : List String) : Option Rule := readRuleFrom (ws.length + 1) ws

def Clause.words : Clause → List String
  | .nfproto f => ["meta", "nfproto", familyName f]
  | .iifname name => ["iifname", quoted name]
  | .iifnameNot name => ["iifname", "!=", quoted name]
  | .oifname name => ["oifname", quoted name]
  | .ctNew => ["ct", "state", "new"]
  | .mark m => ["meta", "mark", hexMarked m.toNat]
  | .ctMark m => ["ct", "mark", hexMarked m.toNat]
  | .skuid uid => ["meta", "skuid", decimal uid.toNat]
  | .saddr p => [headerName p.family, "saddr", p.display]
  | .daddr p => [headerName p.family, "daddr", p.display]
  | .icmpType t => ["icmp", "type", nameOf icmpTypes t]
  | .icmpv6Type t => ["icmpv6", "type", nameOf icmpv6Types t]
  | .sport p port => [p.name, "sport", decimal port.toNat]
  | .dport p port => [p.name, "dport", decimal port.toNat]
  | .l4proto p => ["meta", "l4proto", p.name]
  | .limit r b =>
    ["limit", "rate", decimal r.toNat ++ "/minute", "burst", decimal b.toNat, "packets"]

def Action.words : Action → List String
  | .accept => ["accept"]
  | .return_ => ["return"]
  | .drop_ => ["drop"]
  | .reject => ["reject"]
  | .setCtMark m => ["ct", "mark", "set", hexMarked m.toNat]
  | .restoreMark => ["meta", "mark", "set", "ct", "mark"]

def Rule.words (r : Rule) : List String := r.clauses.flatMap Clause.words ++ r.action.words

def Clause.Valid : Clause → Prop
  | .iifname name | .iifnameNot name | .oifname name => '"' ∉ name.toList
  | .icmpType t => t ∈ icmpTypes.map Prod.snd
  | .icmpv6Type t => t ∈ icmpv6Types.map Prod.snd
  | _ => True

def Rule.Valid (r : Rule) : Prop := ∀ c ∈ r.clauses, c.Valid

/-! ## Reading is inverse to printing -/

theorem readQuoted_quoted {name : String} (h : '"' ∉ name.toList) :
    readQuoted (quoted name) = some name := by
  have htext : (quoted name).toList = [] ++ '"' :: (name.toList ++ '"' :: []) := by
    simp [quoted]
  rw [readQuoted, htext, List.splitOn_append_cons_self, List.splitOn_append_cons_self,
    List.splitOn_eq_singleton h]
  simp

@[simp] theorem readPortProto_name (p : PortProto) : readPortProto p.name = some p := by
  cases p <;> decide

theorem readAction_words (a : Action) : readAction a.words = some a := by
  cases a <;> simp [Action.words, readAction]

theorem quoted_ne (name : String) : quoted name ≠ "!=" := by
  intro h
  have hhead := congrArg (fun s : String => s.toList.head?) h
  simp [quoted] at hhead

theorem hexMarked_ne_set (n : ℕ) : hexMarked n ≠ "set" := by
  intro h
  have hhead := congrArg (fun s : String => s.toList.head?) h
  simp [hexMarked] at hhead

theorem readClause_words {c : Clause} (h : c.Valid) (rest : List String) :
    ∃ w ws, c.words ++ rest = w :: ws ∧ readAction (w :: ws) = none ∧
      readClause w ws = some (c, rest) := by
  cases c with
  | nfproto f =>
    cases f <;> exact ⟨_, _, rfl, by simp [readAction], by simp [readClause, familyName]⟩
  | iifname d =>
    exact ⟨_, _, rfl, by simp [readAction], by
      simp [readClause, readQuoted_quoted h, quoted_ne]⟩
  | iifnameNot d | oifname d =>
    exact ⟨_, _, rfl, by simp [readAction], by simp [readClause, readQuoted_quoted h]⟩
  | ctNew | skuid u | l4proto p | limit r b =>
    exact ⟨_, _, rfl, by simp [readAction], by simp [readClause]⟩
  | mark m | ctMark m =>
    exact ⟨_, _, rfl, by simp [readAction, hexMarked_ne_set], by simp [readClause]⟩
  | saddr p | daddr p =>
    have hread := readPattern_display p
    cases hf : p.family <;> rw [hf] at hread <;> simp only [Clause.words, hf, headerName] <;>
      exact ⟨_, _, rfl, by simp [readAction], by simp [readClause, readAddrClause, hread]⟩
  | icmpType t =>
    have hname := lookup_nameOf (l := icmpTypes) (by decide) h
    exact ⟨_, _, rfl, by simp [readAction], by simp [readClause, hname]⟩
  | icmpv6Type t =>
    have hname := lookup_nameOf (l := icmpv6Types) (by decide) h
    exact ⟨_, _, rfl, by simp [readAction], by simp [readClause, hname]⟩
  | sport p n | dport p n =>
    cases p <;> exact ⟨_, _, rfl, by simp [readAction, PortProto.name], by
      simp [readClause, readPortClause, PortProto.name]⟩

theorem readRuleFrom_words {cs : List Clause} (a : Action) (h : ∀ c ∈ cs, c.Valid) {n : ℕ}
    (hn : cs.length < n) : readRuleFrom n (cs.flatMap Clause.words ++ a.words) = some ⟨cs, a⟩ := by
  induction cs generalizing n with
  | nil =>
    obtain ⟨n, rfl⟩ : ∃ m, n = m + 1 := ⟨n - 1, by simp at hn; omega⟩
    obtain ⟨w, ws, hw⟩ : ∃ w ws, a.words = w :: ws := by cases a <;> exact ⟨_, _, rfl⟩
    have hread := readAction_words a
    rw [hw] at hread
    simp [readRuleFrom, hw, hread]
  | cons c cs ih =>
    obtain ⟨n, rfl⟩ : ∃ m, n = m + 1 := ⟨n - 1, by simp at hn; omega⟩
    obtain ⟨w, ws, htext, hnone, hread⟩ :=
      readClause_words (h c (by simp)) (cs.flatMap Clause.words ++ a.words)
    have htail := ih (fun d hd => h d (by simp [hd])) (n := n) (by simp at hn; omega)
    rw [List.flatMap_cons, List.append_assoc, htext, readRuleFrom, hnone]
    simp [hread, htail]

theorem readRule_words {r : Rule} (h : r.Valid) : readRule r.words = some r := by
  have hlen := length_le_length_flatMap (f := Clause.words)
    (fun c => by cases c <;> simp [Clause.words]) r.clauses
  have hfuel : r.clauses.length < r.words.length + 1 := by
    simp only [Rule.words, List.length_append]
    omega
  exact readRuleFrom_words r.action h hfuel

end Netfilter.Nft
