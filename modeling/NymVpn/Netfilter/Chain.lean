import NymVpn.Netfilter.Packet

/-!
# Traversing a chain

A rule either decides the packet or hands it to the next rule, possibly changed. What a rate
limit answers is not a function of the packet, so the traversal takes one answer per
position, as a stream `ω`. `traverse_filterMap` is the simulation rule between two chains,
when a translation keeps some of the rules.
-/

namespace Netfilter

/-- Reads a chain. `step r ok k` is what the rule `r` does to `k` when its rate
limit answers `ok`: a verdict, or the packet for the next rule. The result is
the verdict, if any, and the packet as it leaves the chain. -/
def traverse {ρ V K : Type*} (step : ρ → Bool → K → V ⊕ K) :
    (ℕ → Bool) → List ρ → K → Option V × K
  | _, [], k => (none, k)
  | ω, r :: rs, k =>
    match step r (ω 0) k with
    | .inl v => (some v, k)
    | .inr k' => traverse step (fun i => ω (i + 1)) rs k'

variable {ρ V K : Type*} {ω : ℕ → Bool} {step : ρ → Bool → K → V ⊕ K} {l : List ρ} {r : ρ}
  {k k' : K} {v : V}

@[simp] theorem traverse_nil : traverse step ω [] k = (none, k) := rfl

theorem traverse_cons_inl (rs : List ρ) (h : step r (ω 0) k = .inl v) :
    traverse step ω (r :: rs) k = (some v, k) := by
  simp [traverse, h]

theorem traverse_cons_inr (rs : List ρ) (h : step r (ω 0) k = .inr k') :
    traverse step ω (r :: rs) k = traverse step (fun i => ω (i + 1)) rs k' := by
  simp [traverse, h]

/-- A chain in two parts: the second is read only when the first has not
decided, on the packet the first leaves. -/
theorem traverse_append (l m : List ρ) :
    traverse step ω (l ++ m) k = match traverse step ω l k with
      | (some v, k') => (some v, k')
      | (none, k') => traverse step (fun i => ω (l.length + i)) m k' := by
  induction l generalizing ω k with
  | nil => simp
  | cons r l ih =>
    cases h : step r (ω 0) k with
    | inl v => simp [traverse, h]
    | inr k' =>
      have hω : (fun i => ω (l.length + i + 1)) = fun i => ω ((r :: l).length + i) := by
        funext i
        congr 1
        simp only [List.length_cons]
        omega
      rw [List.cons_append, traverse_cons_inr _ h, traverse_cons_inr _ h, ih, hω]

theorem traverse_append_of_some (m : List ρ) (h : traverse step ω l k = (some v, k')) :
    traverse step ω (l ++ m) k = (some v, k') := by
  rw [traverse_append, h]

theorem traverse_append_of_none (m : List ρ) (h : traverse step ω l k = (none, k')) :
    traverse step ω (l ++ m) k = traverse step (fun i => ω (l.length + i)) m k' := by
  rw [traverse_append, h]

/-- Rules that all carry the verdict `v`, and decide by a condition that asks
no rate limit, act as one rule. -/
theorem traverse_of_forall {p : ρ → Prop} [DecidablePred p]
    (h : ∀ r ∈ l, ∀ ok, step r ok k = if p r then .inl v else .inr k)
    (ω : ℕ → Bool) : traverse step ω l k = if ∃ r ∈ l, p r then (some v, k) else (none, k) := by
  induction l generalizing ω with
  | nil => simp
  | cons r l ih =>
    have hr := h r (by simp) (ω 0)
    by_cases hp : p r
    · rw [if_pos hp] at hr
      rw [traverse_cons_inl _ hr, if_pos ⟨r, by simp, hp⟩]
    · rw [if_neg hp] at hr
      rw [traverse_cons_inr _ hr, ih (fun s hs => h s (by simp [hs]))]
      simp [hp]

/-- Rules that all hand the packet on hand it on together. -/
theorem traverse_of_pass (h : ∀ r ∈ l, ∀ ok, step r ok k = .inr k) (ω : ℕ → Bool) :
    traverse step ω l k = (none, k) := by
  induction l generalizing ω with
  | nil => rfl
  | cons r l ih =>
    rw [traverse_cons_inr _ (h r (by simp) (ω 0)), ih (fun s hs => h s (by simp [hs]))]

/-- Rules that all make the change `g`, by a condition that asks no rate limit, act as one rule: the
change is made once at most. -/
theorem traverse_of_change {p : ρ → K → Prop} [∀ r k, Decidable (p r k)] {g : K → K}
    (h : ∀ r ∈ l, ∀ ok k, step r ok k = .inr (if p r k then g k else k)) (hg : ∀ k, g (g k) = g k)
    (ω : ℕ → Bool) (k : K) : traverse step ω l k = (none, if ∃ r ∈ l, p r k then g k else k) := by
  induction l generalizing ω k with
  | nil => simp
  | cons r l ih =>
    rw [traverse_cons_inr _ (h r (by simp) (ω 0) k), ih fun s hs => h s (by simp [hs])]
    by_cases hr : p r k
    · rw [if_pos hr, hg, ite_self, if_pos ⟨r, by simp, hr⟩]
    · simp [hr]

def keptLimits {ρ σ : Type*} (f : ρ → Option σ) :
    List ρ → (ℕ → Bool) → ℕ → Bool
  | [], ω => ω
  | r :: rs, ω =>
    match f r with
    | none => keptLimits f rs (fun i => ω (i + 1))
    | some _ => fun
        | 0 => ω 0
        | n + 1 => keptLimits f rs (fun i => ω (i + 1)) n

/-- Simulation of chains. When every kept rule acts as its translation on the
packets that satisfy `P`, every dropped rule hands such packets on, and a
change of the packet keeps `P`, the two chains decide such packets alike. -/
theorem traverse_filterMap {σ : Type*} {step' : σ → Bool → K → V ⊕ K} {f : ρ → Option σ}
    {P : K → Prop} (hkept : ∀ r ∈ l, ∀ s, f r = some s → ∀ ok k, P k → step' s ok k = step r ok k)
    (hdrop : ∀ r ∈ l, f r = none → ∀ ok k, P k → step r ok k = .inr k)
    (hP : ∀ r ∈ l, ∀ ok k k', P k → step r ok k = .inr k' → P k') (ω : ℕ → Bool) (hk : P k) :
    traverse step' (keptLimits f l ω) (l.filterMap f) k = traverse step ω l k := by
  induction l generalizing ω k with
  | nil => rfl
  | cons r l ih =>
    obtain ⟨hkept, hkept'⟩ := List.forall_mem_cons.1 hkept
    obtain ⟨hdrop, hdrop'⟩ := List.forall_mem_cons.1 hdrop
    obtain ⟨hP, hP'⟩ := List.forall_mem_cons.1 hP
    cases hf : f r with
    | none =>
      have hr := hdrop hf (ω 0) k hk
      rw [List.filterMap_cons_none hf, traverse_cons_inr _ hr]
      simp only [keptLimits, hf]
      exact ih hkept' hdrop' hP' _ hk
    | some s =>
      have hs := hkept s hf (ω 0) k hk
      rw [List.filterMap_cons_some hf]
      simp only [keptLimits, hf]
      cases hr : step r (ω 0) k with
      | inl v => simp [traverse, hr, hs]
      | inr k' =>
        simp only [traverse, hs, hr]
        exact ih hkept' hdrop' hP' _ (hP _ _ _ hk hr)

/-- Leaving out rules that decide `v`, if anything, leaves a packet to the verdict it had, unless
that was `v`. -/
theorem traverse_filter {p : ρ → Bool}
    (h : ∀ r ∈ l, p r = false → ∀ ok k, step r ok k = .inr k ∨ step r ok k = .inl v)
    (ω : ℕ → Bool) (k : K) :
    traverse step (keptLimits (Option.guard p) l ω) (l.filter p) k = traverse step ω l k ∨
      (traverse step ω l k).1 = some v := by
  induction l generalizing ω k with
  | nil => exact .inl rfl
  | cons r l ih =>
    obtain ⟨hr, hl⟩ := List.forall_mem_cons.1 h
    cases hp : p r with
    | false =>
      rcases hr hp (ω 0) k with hpass | hdecide
      · simpa [keptLimits, Option.guard, hp, traverse, hpass] using ih hl _ k
      · simp [traverse, hdecide]
    | true =>
      cases hstep : step r (ω 0) k with
      | inl d => simp [keptLimits, Option.guard, hp, traverse, hstep]
      | inr k' => simpa [keptLimits, Option.guard, hp, traverse, hstep] using ih hl _ k'

end Netfilter
