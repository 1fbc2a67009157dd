import NymVpn.Program.Prog

/-!
# Programs that issue the same commands

Two programs are the same up to their results when they issue the same commands, as long as
the answers are the same and as expected.
-/

namespace Program

namespace Prog

variable {C : Type} {R : C → Type} {W α β γ δ ε : Type}

/-- The same commands for the same answers in `A`, and results related by `rel`. -/
inductive Same (A : (c : C) → R c → Prop) (rel : α → β → Prop) :
    Prog C R α → Prog C R β → Prop where
  | ret {a : α} {b : β} (h : rel a b) : Same A rel (.ret a) (.ret b)
  | hang : Same A rel .hang .hang
  | cmd {c : C} {k : R c → Prog C R α} {k' : R c → Prog C R β}
      (h : ∀ r, A c r → Same A rel (k r) (k' r)) : Same A rel (.cmd c k) (.cmd c k')

variable {A : (c : C) → R c → Prop} {rel : α → β → Prop} {rel' : γ → δ → Prop}
  {p : Prog C R α} {q : Prog C R β}

theorem Same.bind {f : α → Prog C R γ} {g : β → Prog C R δ} (h : Same A rel p q)
    (hfg : ∀ a b, rel a b → Same A rel' (f a) (g b)) : Same A rel' (p >>= f) (q >>= g) := by
  induction h with
  | ret h => exact hfg _ _ h
  | hang => exact .hang
  | cmd _ ih => exact .cmd fun r hr => ih r hr

theorem Same.foldlM {f : α → ε → Prog C R α} {g : β → ε → Prog C R β} {l : List ε}
    (hfg : ∀ a b, rel a b → ∀ x ∈ l, Same A rel (f a x) (g b x)) {a : α} {b : β} (h : rel a b) :
    Same A rel (l.foldlM f a) (l.foldlM g b) := by
  induction l generalizing a b with
  | nil => exact .ret h
  | cons x l ih =>
    rw [List.foldlM_cons, List.foldlM_cons]
    refine (hfg a b h x (by simp)).bind fun a b h => ?_
    exact ih (fun a b h y hy => hfg a b h y (by simp [hy])) h

theorem same_refl (p : Prog C R α) : Same A Eq p p := by
  induction p with
  | ret a => exact .ret rfl
  | hang => exact .hang
  | cmd c k ih => exact .cmd fun r _ => ih r

def issued (answer : List C → (c : C) → R c) : Prog C R α → List C → List C
  | .ret _, _ => []
  | .hang, _ => []
  | .cmd c k, past => c :: issued answer (k (answer past c)) (past ++ [c])

theorem Same.issued_eq {answer : List C → (c : C) → R c} (hA : ∀ past c, A c (answer past c))
    (h : Same A rel p q) (past : List C) : issued answer p past = issued answer q past := by
  induction h generalizing past with
  | ret h | hang => rfl
  | cmd _ ih => exact congrArg _ (ih _ (hA past _) _)

/-- What every run of the first keeps, every run of the second keeps. -/
theorem Same.holds {out : (c : C) → W → R c → W → Prop} {I : W → Prop} {Q : α → W → Prop} {w : W}
    (h : Same A rel p q) (hout : ∀ c w r w', out c w r w' → A c r) (hp : Holds out I Q p w) :
    Holds out I (fun b w => ∃ a, rel a b ∧ Q a w) q w := by
  induction h generalizing w with
  | ret h => exact ⟨_, h, hp⟩
  | hang => trivial
  | cmd _ ih =>
    intro r w' hr
    obtain ⟨hw', hk⟩ := hp r w' hr
    exact ⟨hw', ih r (hout _ _ _ _ hr) hk⟩

end Prog

end Program
