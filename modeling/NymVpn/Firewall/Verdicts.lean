import NymVpn.Firewall.Sections

/-!
# Reading a chain section by section

A section of one terminal verdict that asks no rate limit acts as one rule. Chains are then
read from their sections, as nested conditionals.
-/

namespace NymFirewall

open Net Netfilter

def Rule.Plain (r : Rule) (v : Verdict) : Prop :=
  r.verdict = v ∧ r.matches_.rateLimit = none

theorem Rule.applies_of_rateLimit_none {r : Rule} (h : r.matches_.rateLimit = none)
    (ok : Bool) (k : Packet) : r.Applies ok k ↔ r.Applies true k := by
  simp only [Rule.Applies, Match.holds_iff, h]
  simp

variable {v : Verdict} {d : Decision} {k : Packet} {c c' : Chain} {p : Prop}

theorem Rule.step_of_plain {r : Rule} (hr : r.Plain v) (hv : v.effect k = .inl d) (ok : Bool) :
    r.step ok k = if r.Applies true k then .inl d else .inr k := by
  have happ := Rule.applies_of_rateLimit_none hr.2 ok k
  by_cases h : r.Applies true k
  · rw [Rule.step, if_pos (happ.2 h), if_pos h, hr.1, hv]
  · rw [Rule.step, if_neg (fun ha => h (happ.1 ha)), if_neg h]

/-- A section that acts as one rule, with the condition it decides on. -/
def Chain.DecidesIf (c : Chain) (k : Packet) (d : Decision) (p : Prop) : Prop :=
  ∀ ω, (p → c.run ω k = (some d, k)) ∧ (¬ p → c.run ω k = (none, k))

theorem Chain.decidesIf_of_plain (hc : ∀ r ∈ c, r.Plain v) (hv : v.effect k = .inl d)
    (hp : (∃ r ∈ c, r.Applies true k) ↔ p) : c.DecidesIf k d p := by
  intro ω
  rw [Chain.run, traverse_of_forall (fun r hr ok => Rule.step_of_plain (hc r hr) hv ok) ω]
  exact ⟨fun h => if_pos (hp.2 h), fun h => if_neg fun h' => h (hp.1 h')⟩

theorem Chain.decidesIf_congr {q : Prop} (h : c.DecidesIf k d p) (hpq : p ↔ q) :
    c.DecidesIf k d q :=
  fun ω => ⟨fun hq => (h ω).1 (hpq.2 hq), fun hq => (h ω).2 fun hp => hq (hpq.1 hp)⟩

theorem Chain.decidesIf_nil (k : Packet) (d : Decision) (hp : ¬ p) : Chain.DecidesIf [] k d p :=
  fun _ => ⟨fun h => absurd h hp, fun _ => rfl⟩

theorem Chain.DecidesIf.append_or {q : Prop} (h : c.DecidesIf k d p) (h' : c'.DecidesIf k d q) :
    (c ++ c').DecidesIf k d (p ∨ q) := by
  intro ω
  by_cases hp : p
  · exact ⟨fun _ => traverse_append_of_some c' ((h ω).1 hp), fun hno => absurd (.inl hp) hno⟩
  · have hstep : (c ++ c').run ω k = c'.run (fun i => ω (c.length + i)) k :=
      traverse_append_of_none c' ((h ω).2 hp)
    rw [hstep, or_iff_right hp]
    exact h' _

/-- A section ahead of a chain whose verdict hangs on one rate limit, the one at
the position `n` of that chain. -/
theorem Chain.DecidesIf.append_at {e : Bool → Decision} {n : ℕ} [Decidable p]
    (h : c.DecidesIf k d p) (h' : ∀ ω, c'.run ω k = (some (e (ω n)), k)) (ω : ℕ → Bool) :
    (c ++ c').run ω k = (some (if p then d else e (ω (c.length + n))), k) := by
  by_cases hp : p
  · rw [if_pos hp]
    exact traverse_append_of_some c' ((h ω).1 hp)
  · rw [if_neg hp]
    exact (traverse_append_of_none c' ((h ω).2 hp)).trans (h' _)

theorem Chain.DecidesIf.append {d' : Decision} [Decidable p] (h : c.DecidesIf k d p)
    (h' : ∀ ω, c'.run ω k = (some d', k)) (ω : ℕ → Bool) :
    (c ++ c').run ω k = (some (if p then d else d'), k) :=
  h.append_at (e := fun _ => d') (n := 0) h' ω

theorem Chain.decidesIf_false (d : Decision) (h : ∀ r ∈ c, ∀ ok, ¬ r.Applies ok k) :
    c.DecidesIf k d False :=
  fun ω => ⟨False.elim, fun _ =>
    traverse_of_pass (fun r hr ok => if_neg (h r hr ok)) ω⟩

theorem Chain.decidesIf_flatMap {α : Type*} {f : α → Chain} {p : α → Prop} (l : List α)
    (h : ∀ a ∈ l, (f a).DecidesIf k d (p a)) :
    Chain.DecidesIf (l.flatMap f) k d (∃ a ∈ l, p a) := by
  induction l with
  | nil => exact Chain.decidesIf_nil k d (by simp)
  | cons a l ih =>
    have hl := ih fun b hb => h b (by simp [hb])
    rw [List.flatMap_cons]
    exact Chain.decidesIf_congr ((h a (by simp)).append_or hl) (by simp)

theorem Chain.run_reject_inet (k : Packet) (ω : ℕ → Bool) :
    Chain.run [Rule.reject .inet] ω k = (some .reject, k) := by
  have happ : (Rule.reject .inet).Applies (ω 0) k := by
    simp [Rule.Applies, Match.holds_iff]
  exact traverse_cons_inl [] (if_pos happ)

/-! ## The conditions of the emitted rules -/

theorem familyOf_covers (ip : IpAddr) (f : AddrFamily) :
    (familyOf ip).covers f = true ↔ ip.family = f := by
  cases ip <;> cases f <;> simp [familyOf, Family.covers, IpAddr.family]

/-- A packet to the address `ip` is of its family, so the family of a rule with
a destination match adds nothing. -/
theorem familyOf_covers_of_daddr {ip : IpAddr} (h : k.daddr = ip) :
    (familyOf ip).covers k.family = true := by
  rw [familyOf_covers, ← h, k.family_daddr]

def ToDns (k : Packet) : Prop := k.transport.dport? = some dnsPort

instance (k : Packet) : Decidable (ToDns k) := inferInstanceAs (Decidable (_ = _))

theorem dport?_eq_some_iff (t : Transport) (port : UInt16) :
    t.dport? = some port ↔
      (Proto.udp.holds t = true ∧ t.dport? = some port) ∨
        (Proto.tcp.holds t = true ∧ t.dport? = some port) := by
  cases t <;> simp [Transport.dport?, Proto.holds]

end NymFirewall
