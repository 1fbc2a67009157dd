import Mathlib.Data.List.Induction
import NymVpn.Netfilter.Packet

/-!
# Connection tracking

What is known of a flow is whether a reply was seen and the mark the rules gave it.
`mark_trackAll` is the rule for mangle chains that only ever give one mark: a flow has it
exactly when one of its packets met the condition while the flow was new.
-/

namespace Netfilter

/-- Where a packet goes. A packet from a device meets the prerouting hook, then the input or the
forward hook; a packet of the router itself meets the output hook. -/
inductive PacketPath where
  | toRouter
  | fromRouter
  | through
deriving DecidableEq

structure Transit (F : Type*) where
  flow : F
  /-- The packet goes against the direction the flow was opened in. -/
  reply : Bool
  path : PacketPath
  /-- The packet as it meets the mangle chain, but for the state of its flow. -/
  packet : Packet
  /-- The packet as it meets the filter chain, but for the marks and the state of its flow: address
  translation and routing are in between. -/
  routed : Packet
  mangleLimits : ℕ → Bool
  filterLimits : ℕ → Bool

structure FlowEntry where
  mark : UInt32 := 0
  replied : Bool := false

abbrev Conntrack (F : Type*) := F → FlowEntry

def FlowEntry.attach (e : FlowEntry) (reply : Bool) (k : Packet) : Packet :=
  { k with ctMark := e.mark, ctNew := !(e.replied || reply) }

section Track

variable {F : Type*} [DecidableEq F] (mangle : Transit F → Packet → Packet)

def Transit.entering (t : Transit F) (table : Conntrack F) : Packet :=
  (table t.flow).attach t.reply t.packet

def Transit.mangled (t : Transit F) (table : Conntrack F) : Packet :=
  mangle t (t.entering table)

def track (table : Conntrack F) (t : Transit F) : Conntrack F :=
  Function.update table t.flow ⟨(t.mangled mangle table).ctMark, (table t.flow).replied || t.reply⟩

def trackAll (past : List (Transit F)) : Conntrack F :=
  past.foldl (track mangle) fun _ => {}

/-- The flow of the packet is new, its own direction included. -/
def Transit.Fresh (past : List (Transit F)) (t : Transit F) : Prop :=
  t.reply = false ∧ ∀ s ∈ past, s.flow = t.flow → s.reply = false

/-- One of the packets met the condition while its flow, which is `f`, was new. -/
def MetWhileNew (P : Transit F → Prop) (past : List (Transit F)) (f : F) : Prop :=
  ∃ before t after, past = before ++ t :: after ∧ t.flow = f ∧ t.Fresh before ∧ P t

@[simp]
theorem trackAll_append_singleton (past : List (Transit F)) (t : Transit F) :
    trackAll mangle (past ++ [t]) = track mangle (trackAll mangle past) t := by
  simp [trackAll]

theorem replied_trackAll (past : List (Transit F)) (f : F) :
    (trackAll mangle past f).replied = true ↔ ∃ t ∈ past, t.flow = f ∧ t.reply = true := by
  induction past using List.reverseRecOn with
  | nil => simp [trackAll]
  | append_singleton past t ih =>
    rw [trackAll_append_singleton, track]
    by_cases hf : f = t.flow
    · subst hf
      rw [Function.update_self]
      simp [ih, or_and_right, exists_or]
    · rw [Function.update_of_ne hf, ih]
      simp [or_and_right, exists_or, Ne.symm hf]

theorem ctNew_entering (past : List (Transit F)) (t : Transit F) :
    (t.entering (trackAll mangle past)).ctNew = true ↔ t.Fresh past := by
  have hreplied := replied_trackAll mangle past t.flow
  simp only [Transit.entering, FlowEntry.attach, Bool.not_eq_true', Bool.or_eq_false_iff,
    Transit.Fresh]
  rw [and_comm, ← Bool.not_eq_true (trackAll _ _ _).replied, hreplied]
  simp

omit [DecidableEq F] in
theorem metWhileNew_append_singleton (P : Transit F → Prop) (past : List (Transit F))
    (t : Transit F) (f : F) :
    MetWhileNew P (past ++ [t]) f ↔ MetWhileNew P past f ∨ (t.flow = f ∧ t.Fresh past ∧ P t) := by
  constructor
  · rintro ⟨before, s, after, hpast, hs⟩
    obtain rfl | ⟨after, u, rfl⟩ := List.eq_nil_or_concat' after
    · obtain ⟨rfl, hts⟩ := List.append_inj' hpast rfl
      obtain rfl := List.head_eq_of_cons_eq hts
      exact .inr hs
    · rw [← List.cons_append, ← List.append_assoc] at hpast
      exact .inl ⟨before, s, after, (List.append_inj' hpast rfl).1, hs⟩
  · rintro (⟨before, s, after, rfl, hs⟩ | ht)
    · exact ⟨before, s, after ++ [t], by simp, hs⟩
    · exact ⟨past, t, [], rfl, ht⟩

variable {mangle} {x : UInt32} {P : Transit F → Prop} [DecidablePred P]

/-- The chains give the mark `x`, and only to the new flow of a packet that meets the condition. -/
def GivesMark (mangle : Transit F → Packet → Packet) (x : UInt32) (P : Transit F → Prop)
    [DecidablePred P] : Prop :=
  ∀ (t : Transit F) (table : Conntrack F), (t.mangled mangle table).ctMark =
    if (t.entering table).ctNew = true ∧ P t then x else (table t.flow).mark

theorem GivesMark.mark_trackAll (h : GivesMark mangle x P) (past : List (Transit F)) (f : F) :
    (MetWhileNew P past f → (trackAll mangle past f).mark = x) ∧
      (¬ MetWhileNew P past f → (trackAll mangle past f).mark = 0) := by
  induction past using List.reverseRecOn with
  | nil => simp [MetWhileNew, trackAll]
  | append_singleton past t ih =>
    rw [metWhileNew_append_singleton, trackAll_append_singleton, track]
    by_cases hf : f = t.flow
    · subst hf
      rw [Function.update_self, ← ctNew_entering mangle past t, h t]
      by_cases hnew : (t.entering (trackAll mangle past)).ctNew = true ∧ P t
      · simp [hnew]
      · simpa [hnew] using ih
    · rw [Function.update_of_ne hf]
      simpa [Ne.symm hf] using ih

end Track

end Netfilter
