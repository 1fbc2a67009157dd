import Mathlib.Logic.Relation

/-!
# Machines

A machine goes from state to state by actions, each of which may be open in some states only.
A condition on the actions singles out the runs all of whose actions meet it.
-/

namespace Program

structure Machine (S A : Type*) where
  Enabled : S → A → Prop
  act : S → A → S

namespace Machine

variable {S A : Type*} (m : Machine S A) (P : S → A → Prop)

def Step (s s' : S) : Prop := ∃ a, P s a ∧ m.Enabled s a ∧ m.act s a = s'

abbrev Reaches : S → S → Prop := Relation.ReflTransGen (m.Step P)

/-- The actions are open one after the other, and meet the condition. -/
def Takes : S → List A → Prop
  | _, [] => True
  | s, a :: acts => (P s a ∧ m.Enabled s a) ∧ Takes (m.act s a) acts

variable {m P} {s s' : S}

theorem Takes.reaches {acts : List A} (h : m.Takes P s acts) :
    m.Reaches P s (acts.foldl m.act s) := by
  induction acts generalizing s with
  | nil => exact .refl
  | cons a acts ih => exact .head ⟨a, h.1.1, h.1.2, rfl⟩ (ih h.2)

theorem Reaches.mono {Q : S → A → Prop} (h : m.Reaches P s s') (hPQ : ∀ s a, P s a → Q s a) :
    m.Reaches Q s s' := by
  induction h with
  | refl => exact .refl
  | tail _ hstep ih =>
    obtain ⟨a, hP, hstep⟩ := hstep
    exact ih.tail ⟨a, hPQ _ a hP, hstep⟩

/-- What holds at first and is kept by every action holds in every state reached. -/
theorem Reaches.keeps {I : S → Prop} (h : m.Reaches P s s')
    (hI : ∀ s a, I s → P s a → m.Enabled s a → I (m.act s a)) (hs : I s) : I s' := by
  induction h with
  | refl => exact hs
  | tail _ hstep ih =>
    obtain ⟨a, hP, henabled, rfl⟩ := hstep
    exact hI _ a ih hP henabled

end Machine

end Program
