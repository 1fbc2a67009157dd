import Mathlib.Data.FinEnum
import NymVpn.Netfilter.Chain

/-!
# The rule syntax

The backend-neutral rules, and what a rule means for a packet. An absent match holds of
every packet. Two verdicts are not terminal: they change a mark and the chain goes on.
-/

namespace NymFirewall

open Net Netfilter

inductive Family where
  | v4
  | v6
  | inet
deriving DecidableEq

inductive Verdict where
  | accept
  | return_
  | drop_
  | reject
  | setCtMark (mark : UInt32)
  | restoreMark
deriving DecidableEq

inductive Proto where
  | tcp
  | udp
  | icmp
  | icmpV6
deriving DecidableEq

inductive CtState where
  | new
deriving DecidableEq

inductive IcmpV4Type where
  | echoRequest
deriving DecidableEq

inductive IcmpV6Type where
  | routerSolicit
  | neighborSolicit
  | neighborAdvert
  | echoRequest
deriving DecidableEq

structure RateLimit where
  perMinute : UInt32
  burst : UInt32
deriving DecidableEq

inductive AddrMatch where
  | ip (addr : IpAddr)
  | net (net : IpNetwork)
deriving DecidableEq

instance : Coe IpAddr AddrMatch := ⟨AddrMatch.ip⟩

instance : Coe IpNetwork AddrMatch := ⟨AddrMatch.net⟩

structure Match where
  iif : Option String := none
  oif : Option String := none
  iifNot : Option String := none
  saddr : Option AddrMatch := none
  daddr : Option AddrMatch := none
  proto : Option Proto := none
  sport : Option UInt16 := none
  dport : Option UInt16 := none
  ctState : Option CtState := none
  icmpv4Type : Option IcmpV4Type := none
  icmpv6Type : Option IcmpV6Type := none
  rateLimit : Option RateLimit := none
  mark : Option UInt32 := none
  ctMark : Option UInt32 := none
  /-- Owning socket uid. OUTPUT only. -/
  skuid : Option UInt32 := none
deriving DecidableEq

structure Rule where
  family : Family
  matches_ : Match
  verdict : Verdict
deriving DecidableEq

namespace Rule

@[simp] def new (family : Family) (verdict : Verdict) : Rule := ⟨family, {}, verdict⟩

@[simp] def accept (family : Family) : Rule := new family .accept

@[simp] def return_ (family : Family) : Rule := new family .return_

@[simp] def drop_ (family : Family) : Rule := new family .drop_

@[simp] def reject (family : Family) : Rule := new family .reject

@[simp] def setCtMark (family : Family) (mark : UInt32) : Rule := new family (.setCtMark mark)

@[simp] def restoreMark (family : Family) : Rule := new family .restoreMark

@[simp] def iif (r : Rule) (iface : String) : Rule :=
  { r with matches_ := { r.matches_ with iif := some iface } }

@[simp] def oif (r : Rule) (iface : String) : Rule :=
  { r with matches_ := { r.matches_ with oif := some iface } }

@[simp] def iifNot (r : Rule) (iface : String) : Rule :=
  { r with matches_ := { r.matches_ with iifNot := some iface } }

@[simp] def daddr (r : Rule) (addr : AddrMatch) : Rule :=
  { r with matches_ := { r.matches_ with daddr := some addr } }

@[simp] def proto (r : Rule) (proto : Proto) : Rule :=
  { r with matches_ := { r.matches_ with proto := some proto } }

@[simp] def sport (r : Rule) (port : UInt16) : Rule :=
  { r with matches_ := { r.matches_ with sport := some port } }

@[simp] def dport (r : Rule) (port : UInt16) : Rule :=
  { r with matches_ := { r.matches_ with dport := some port } }

@[simp] def ctNew (r : Rule) : Rule :=
  { r with matches_ := { r.matches_ with ctState := some .new } }

@[simp] def markEq (r : Rule) (mark : UInt32) : Rule :=
  { r with matches_ := { r.matches_ with mark := some mark } }

@[simp] def ctMarkEq (r : Rule) (mark : UInt32) : Rule :=
  { r with matches_ := { r.matches_ with ctMark := some mark } }

@[simp] def skuid (r : Rule) (uid : UInt32) : Rule :=
  { r with matches_ := { r.matches_ with skuid := some uid } }

/-- Sets the protocol too: `iptables-restore` rejects `--icmp-type` without
`-p icmp` on the same line. -/
@[simp] def icmpv4Type (r : Rule) (t : IcmpV4Type) : Rule :=
  { r with matches_ := { r.matches_ with proto := some .icmp, icmpv4Type := some t } }

/-- Sets the protocol too, as `icmpv4Type` does. -/
@[simp] def icmpv6Type (r : Rule) (t : IcmpV6Type) : Rule :=
  { r with matches_ := { r.matches_ with proto := some .icmpV6, icmpv6Type := some t } }

@[simp] def rateLimit (r : Rule) (perMinute burst : UInt32) : Rule :=
  { r with matches_ := { r.matches_ with rateLimit := some ⟨perMinute, burst⟩ } }

end Rule

/-! ## Rule sets -/

abbrev Chain := List Rule

structure FilterRules where
  input : Chain := []
  output : Chain := []
  forward : Chain := []
deriving DecidableEq

structure MangleRules where
  prerouting : Chain := []
  output : Chain := []
deriving DecidableEq

def MangleRules.isEmpty (m : MangleRules) : Bool :=
  m.prerouting.isEmpty && m.output.isEmpty

structure RuleSet where
  filter : FilterRules := {}
  mangle : MangleRules := {}
deriving DecidableEq

namespace RuleSet

def allChains (rs : RuleSet) : List Chain :=
  [rs.filter.input, rs.filter.output, rs.filter.forward, rs.mangle.prerouting, rs.mangle.output]

def hasSkuid (rs : RuleSet) : Bool :=
  rs.allChains.any fun c => c.any fun r => r.matches_.skuid.isSome

/-- The fallback of a kernel without the owner match: the scoped exceptions are
dropped, never widened into unscoped accepts. -/
def withoutSkuidRules (rs : RuleSet) : RuleSet :=
  let retain (c : Chain) : Chain := c.filter fun r => r.matches_.skuid.isNone
  { filter :=
      { input := retain rs.filter.input
        output := retain rs.filter.output
        forward := retain rs.filter.forward }
    mangle :=
      { prerouting := retain rs.mangle.prerouting
        output := retain rs.mangle.output } }

def withoutMangleRules (rs : RuleSet) : RuleSet := { rs with mangle := {} }

end RuleSet

/-! ## The meaning of a rule -/

@[simp] def Family.covers : Family → AddrFamily → Bool
  | .v4, f => f == .v4
  | .v6, f => f == .v6
  | .inet, _ => true

def AddrMatch.holds : AddrMatch → IpAddr → Bool
  | .ip a, b => b == a
  | .net n, b => n.contains b

def Proto.holds : Proto → Transport → Bool
  | .tcp, .tcp _ _ => true
  | .udp, .udp _ _ => true
  | .icmp, .icmp _ => true
  | .icmpV6, .icmpv6 _ => true
  | _, _ => false

def IcmpV4Type.number : IcmpV4Type → UInt8
  | .echoRequest => 8

def IcmpV6Type.number : IcmpV6Type → UInt8
  | .routerSolicit => 133
  | .neighborSolicit => 135
  | .neighborAdvert => 136
  | .echoRequest => 128

/-- The packet meets every match that is set. `ok` is the answer of the rate
limit, asked only of a match that has one. -/
@[mk_iff]
structure Match.Holds (m : Match) (ok : Bool) (k : Packet) : Prop where
  iif : ∀ d ∈ m.iif, k.iif = some d
  oif : ∀ d ∈ m.oif, k.oif = some d
  iifNot : ∀ d ∈ m.iifNot, k.iif ≠ some d
  saddr : ∀ a ∈ m.saddr, a.holds k.saddr = true
  daddr : ∀ a ∈ m.daddr, a.holds k.daddr = true
  proto : ∀ p ∈ m.proto, p.holds k.transport = true
  sport : ∀ p ∈ m.sport, k.transport.sport? = some p
  dport : ∀ p ∈ m.dport, k.transport.dport? = some p
  ctState : ∀ _s ∈ m.ctState, k.ctNew = true
  icmpv4Type : ∀ t ∈ m.icmpv4Type, k.transport = .icmp t.number
  icmpv6Type : ∀ t ∈ m.icmpv6Type, k.transport = .icmpv6 t.number
  rateLimit : ∀ _l ∈ m.rateLimit, ok = true
  mark : ∀ x ∈ m.mark, k.mark = x
  ctMark : ∀ x ∈ m.ctMark, k.ctMark = x
  skuid : ∀ u ∈ m.skuid, k.skuid = some u

instance (m : Match) (ok : Bool) (k : Packet) : Decidable (m.Holds ok k) :=
  decidable_of_iff' _ (Match.holds_iff m ok k)

def Rule.Applies (r : Rule) (ok : Bool) (k : Packet) : Prop :=
  r.family.covers k.family = true ∧ r.matches_.Holds ok k

instance (r : Rule) (ok : Bool) (k : Packet) : Decidable (r.Applies ok k) :=
  inferInstanceAs (Decidable (_ ∧ _))

def Verdict.effect : Verdict → Packet → Decision ⊕ Packet
  | .accept, _ => .inl .accept
  | .return_, _ => .inl .return_
  | .drop_, _ => .inl .drop_
  | .reject, _ => .inl .reject
  | .setCtMark mark, k => .inr { k with ctMark := mark }
  | .restoreMark, k => .inr { k with mark := k.ctMark }

def Rule.step (r : Rule) (ok : Bool) (k : Packet) : Decision ⊕ Packet :=
  if r.Applies ok k then r.verdict.effect k else .inr k

def Chain.run (c : Chain) (ω : ℕ → Bool) (k : Packet) : Option Decision × Packet :=
  traverse Rule.step ω c k

end NymFirewall
