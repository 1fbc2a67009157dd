import NymVpn.Net.Display
import NymVpn.Netfilter.Chain
import NymVpn.Netfilter.Values

/-!
# The rules of `iptables-restore`

A rule text is a sequence of options, each of which states one condition, and a target.
`readRule` reads its words back; some options are known only after their protocol.
-/

namespace Netfilter.Iptables

open Net Text

inductive Protocol where
  | tcp
  | udp
  | icmp
  | icmpv6
deriving DecidableEq

inductive Clause where
  | inIface (name : String)
  | notInIface (name : String)
  | outIface (name : String)
  | source (p : IpPattern)
  | destination (p : IpPattern)
  | protocol (p : Protocol)
  | icmpType (t : UInt8)
  | icmpv6Type (t : UInt8)
  | sport (port : UInt16)
  | dport (port : UInt16)
  | ctNew
  | mark (m : UInt32)
  | connmark (m : UInt32)
  | uidOwner (uid : UInt32)
  | limit (perMinute burst : UInt32)

inductive RejectKind where
  | tcpReset
  | icmpPortUnreachable
  | icmp6PortUnreachable
deriving DecidableEq

inductive Target where
  | accept
  | return_
  | drop_
  | reject (kind : RejectKind)
  | setConnmark (m : UInt32)
  | restoreMark

structure Rule where
  clauses : List Clause
  target : Target

/-! ## Meaning -/

def Protocol.holds : Protocol → Transport → Bool
  | .tcp, .tcp _ _ => true
  | .udp, .udp _ _ => true
  | .icmp, .icmp _ => true
  | .icmpv6, .icmpv6 _ => true
  | _, _ => false

def Clause.holds (ok : Bool) (k : Packet) : Clause → Bool
  | .inIface name => k.iif == some name
  | .notInIface name => k.iif != some name
  | .outIface name => k.oif == some name
  | .source p => p.matches k.saddr
  | .destination p => p.matches k.daddr
  | .protocol p => p.holds k.transport
  | .icmpType t => k.transport == .icmp t
  | .icmpv6Type t => k.transport == .icmpv6 t
  | .sport port => k.transport.sport? == some port
  | .dport port => k.transport.dport? == some port
  | .ctNew => k.ctNew
  | .mark m => k.mark == m
  | .connmark m => k.ctMark == m
  | .uidOwner uid => k.skuid == some uid
  | .limit _ _ => ok

def Target.effect : Target → Packet → Decision ⊕ Packet
  | .accept, _ => .inl .accept
  | .return_, _ => .inl .return_
  | .drop_, _ => .inl .drop_
  | .reject _, _ => .inl .reject
  | .setConnmark m, k => .inr { k with ctMark := m }
  | .restoreMark, k => .inr { k with mark := k.ctMark }

def Rule.step (r : Rule) (ok : Bool) (k : Packet) : Decision ⊕ Packet :=
  if r.clauses.all (Clause.holds ok k) then r.target.effect k else .inr k

def run (c : List Rule) (ω : ℕ → Bool) (k : Packet) : Option Decision × Packet :=
  traverse Rule.step ω c k

def Clause.family? : Clause → Option AddrFamily
  | .source p => some p.family
  | .destination p => some p.family
  | .icmpType _ => some .v4
  | .icmpv6Type _ => some .v6
  | _ => none

def Target.family? : Target → Option AddrFamily
  | .reject .icmpPortUnreachable => some .v4
  | .reject .icmp6PortUnreachable => some .v6
  | _ => none

def Rule.OfFamily (family : AddrFamily) (r : Rule) : Prop :=
  (∀ c ∈ r.clauses, ∀ f ∈ c.family?, f = family) ∧ ∀ f ∈ r.target.family?, f = family

/-! ## Text -/

def Protocol.name : Protocol → String
  | .tcp => "tcp"
  | .udp => "udp"
  | .icmp => "icmp"
  | .icmpv6 => "icmpv6"

def icmpTypes : List (String × UInt8) := [("echo-reply", 0), ("echo-request", 8)]

def icmpv6Types : List (String × UInt8) :=
  [("echo-request", 128), ("echo-reply", 129), ("router-solicitation", 133),
    ("router-advertisement", 134), ("neighbour-solicitation", 135),
    ("neighbour-advertisement", 136)]

def RejectKind.name : RejectKind → String
  | .tcpReset => "tcp-reset"
  | .icmpPortUnreachable => "icmp-port-unreachable"
  | .icmp6PortUnreachable => "icmp6-port-unreachable"

def readProtocol (s : String) : Option Protocol :=
  [Protocol.tcp, .udp, .icmp, .icmpv6].find? fun p => p.name == s

def readRejectKind (s : String) : Option RejectKind :=
  [RejectKind.tcpReset, .icmpPortUnreachable, .icmp6PortUnreachable].find? fun r => r.name == s

def readClause (family : AddrFamily) (proto : Option Protocol) (w : String)
    (ws : List String) : Option (Clause × List String) :=
  if w = "-i" then
    match ws with
    | d :: ws => some (.inIface d, ws)
    | _ => none
  else if w = "!" then
    match ws with
    | "-i" :: d :: ws => some (.notInIface d, ws)
    | _ => none
  else if w = "-o" then
    match ws with
    | d :: ws => some (.outIface d, ws)
    | _ => none
  else if w = "-s" then
    match ws with
    | a :: ws => (readPattern family a).map fun p => (.source p, ws)
    | _ => none
  else if w = "-d" then
    match ws with
    | a :: ws => (readPattern family a).map fun p => (.destination p, ws)
    | _ => none
  else if w = "-p" then
    match ws with
    | p :: ws => (readProtocol p).map fun p => (.protocol p, ws)
    | _ => none
  else if w = "--icmp-type" ∧ proto = some .icmp then
    match ws with
    | t :: ws => (icmpTypes.lookup t).map fun t => (.icmpType t, ws)
    | _ => none
  else if w = "--icmpv6-type" ∧ proto = some .icmpv6 then
    match ws with
    | t :: ws => (icmpv6Types.lookup t).map fun t => (.icmpv6Type t, ws)
    | _ => none
  else if w = "--sport" ∧ (proto = some .tcp ∨ proto = some .udp) then
    match ws with
    | p :: ws => (readPort p).map fun p => (.sport p, ws)
    | _ => none
  else if w = "--dport" ∧ (proto = some .tcp ∨ proto = some .udp) then
    match ws with
    | p :: ws => (readPort p).map fun p => (.dport p, ws)
    | _ => none
  else if w = "-m" then
    match ws with
    | "conntrack" :: "--ctstate" :: "NEW" :: ws => some (.ctNew, ws)
    | "mark" :: "--mark" :: m :: ws => (readU32 m).map fun m => (.mark m, ws)
    | "connmark" :: "--mark" :: m :: ws => (readU32 m).map fun m => (.connmark m, ws)
    | "owner" :: "--uid-owner" :: u :: ws => (readU32 u).map fun u => (.uidOwner u, ws)
    | "limit" :: "--limit" :: r :: "--limit-burst" :: b :: ws => do
      return (.limit (← readRate r) (← readU32 b), ws)
    | _ => none
  else none

def readTarget : List String → Option Target
  | ["ACCEPT"] => some .accept
  | ["RETURN"] => some .return_
  | ["DROP"] => some .drop_
  | ["REJECT", "--reject-with", r] => (readRejectKind r).map .reject
  | ["CONNMARK", "--set-mark", m] => (readU32 m).map .setConnmark
  | ["CONNMARK", "--restore-mark"] => some .restoreMark
  | _ => none

def Clause.protocolAfter (proto : Option Protocol) : Clause → Option Protocol
  | .protocol p => some p
  | _ => proto

def readRuleFrom (family : AddrFamily) : ℕ → Option Protocol → List String → Option Rule
  | 0, _, _ => none
  | _, _, [] => none
  | n + 1, proto, w :: ws =>
    if w = "-j" then (readTarget ws).map fun t => ⟨[], t⟩
    else do
      let (c, ws) ← readClause family proto w ws
      let r ← readRuleFrom family n (c.protocolAfter proto) ws
      return ⟨c :: r.clauses, r.target⟩

def readRule (family : AddrFamily) (ws : List String) : Option Rule :=
  readRuleFrom family (ws.length + 1) none ws

def Clause.words : Clause → List String
  | .inIface name => ["-i", name]
  | .notInIface name => ["!", "-i", name]
  | .outIface name => ["-o", name]
  | .source p => ["-s", p.display]
  | .destination p => ["-d", p.display]
  | .protocol p => ["-p", p.name]
  | .icmpType t => ["--icmp-type", nameOf icmpTypes t]
  | .icmpv6Type t => ["--icmpv6-type", nameOf icmpv6Types t]
  | .sport port => ["--sport", decimal port.toNat]
  | .dport port => ["--dport", decimal port.toNat]
  | .ctNew => ["-m", "conntrack", "--ctstate", "NEW"]
  | .mark m => ["-m", "mark", "--mark", hexMarked m.toNat]
  | .connmark m => ["-m", "connmark", "--mark", hexMarked m.toNat]
  | .uidOwner uid => ["-m", "owner", "--uid-owner", decimal uid.toNat]
  | .limit r b =>
    ["-m", "limit", "--limit", decimal r.toNat ++ "/minute", "--limit-burst",
      decimal b.toNat]

def Target.words : Target → List String
  | .accept => ["ACCEPT"]
  | .return_ => ["RETURN"]
  | .drop_ => ["DROP"]
  | .reject kind => ["REJECT", "--reject-with", kind.name]
  | .setConnmark m => ["CONNMARK", "--set-mark", hexMarked m.toNat]
  | .restoreMark => ["CONNMARK", "--restore-mark"]

def Rule.words (r : Rule) : List String :=
  r.clauses.flatMap Clause.words ++ "-j" :: r.target.words

def Clause.Valid (family : AddrFamily) (proto : Option Protocol) : Clause → Prop
  | .source p => p.family = family
  | .destination p => p.family = family
  | .icmpType t => proto = some .icmp ∧ t ∈ icmpTypes.map Prod.snd
  | .icmpv6Type t => proto = some .icmpv6 ∧ t ∈ icmpv6Types.map Prod.snd
  | .sport _ => proto = some .tcp ∨ proto = some .udp
  | .dport _ => proto = some .tcp ∨ proto = some .udp
  | _ => True

def ValidFrom (family : AddrFamily) : Option Protocol → List Clause → Prop
  | _, [] => True
  | proto, c :: cs => c.Valid family proto ∧ ValidFrom family (c.protocolAfter proto) cs

def Rule.Valid (family : AddrFamily) (r : Rule) : Prop := ValidFrom family none r.clauses

/-! ## Reading is inverse to printing -/

@[simp] theorem readProtocol_name (p : Protocol) : readProtocol p.name = some p := by
  cases p <;> decide

@[simp] theorem readRejectKind_name (r : RejectKind) : readRejectKind r.name = some r := by
  cases r <;> decide

theorem readTarget_words (t : Target) : readTarget t.words = some t := by
  cases t <;> simp [Target.words, readTarget]

variable {family : AddrFamily} {proto : Option Protocol}

theorem readClause_words {c : Clause}
    (h : c.Valid family proto) (rest : List String) :
    ∃ w ws, c.words ++ rest = w :: ws ∧ w ≠ "-j" ∧
      readClause family proto w ws = some (c, rest) := by
  cases c with
  | source p | destination p =>
    obtain rfl : p.family = family := h
    exact ⟨_, _, rfl, by decide, by simp [readClause, readPattern_display]⟩
  | icmpType t =>
    have hname := lookup_nameOf (l := icmpTypes) (by decide) h.2
    exact ⟨_, _, rfl, by decide, by simp [readClause, h.1, hname]⟩
  | icmpv6Type t =>
    have hname := lookup_nameOf (l := icmpv6Types) (by decide) h.2
    exact ⟨_, _, rfl, by decide, by simp [readClause, h.1, hname]⟩
  | sport p | dport p =>
    exact ⟨_, _, rfl, by decide, by
      simp [readClause, show proto = some .tcp ∨ proto = some .udp from h]⟩
  | inIface d | notInIface d | outIface d | protocol p | ctNew | mark m | connmark m | uidOwner u
  | limit r b => exact ⟨_, _, rfl, by decide, by simp [readClause]⟩

theorem readRuleFrom_words {cs : List Clause} (t : Target) (h : ValidFrom family proto cs) {n : ℕ}
    (hn : cs.length < n) :
    readRuleFrom family n proto (cs.flatMap Clause.words ++ "-j" :: t.words) = some ⟨cs, t⟩ := by
  induction cs generalizing proto n with
  | nil =>
    obtain ⟨n, rfl⟩ : ∃ m, n = m + 1 := ⟨n - 1, by simp at hn; omega⟩
    simp [readRuleFrom, readTarget_words]
  | cons c cs ih =>
    obtain ⟨n, rfl⟩ : ∃ m, n = m + 1 := ⟨n - 1, by simp at hn; omega⟩
    obtain ⟨w, ws, htext, hne, hread⟩ :=
      readClause_words h.1 (cs.flatMap Clause.words ++ "-j" :: t.words)
    rw [List.flatMap_cons, List.append_assoc, htext, readRuleFrom, if_neg hne, hread]
    have htail := ih h.2 (n := n) (by simp at hn; omega)
    simp [htail]

theorem readRule_words {r : Rule} (h : r.Valid family) : readRule family r.words = some r := by
  have hlen := length_le_length_flatMap (f := Clause.words)
    (fun c => by cases c <;> simp [Clause.words]) r.clauses
  have hfuel : r.clauses.length < r.words.length + 1 := by
    simp only [Rule.words, List.length_append]
    omega
  exact readRuleFrom_words r.target h hfuel

end Netfilter.Iptables
