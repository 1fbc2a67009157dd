import Mathlib.Data.List.Nodup

/-!
# Messages on the wire

A value is written as a message and read back, perhaps with a loss. The loss is a function of
the value; an optional or a repeated field loses what its elements lose.
-/

namespace Wire

universe u

variable {α β μ ε : Type*} {loss : α → α}

/-! ## Enumerations -/

/-- An enumeration whose values have different numbers. -/
class Enumeration (α : Type*) where
  number : α → Int32
  values : List α
  mem_values (a : α) : a ∈ values
  nodup : (values.map number).Nodup

export Enumeration (number)

theorem number_injective [Enumeration α] : Function.Injective (number : α → Int32) :=
  fun a b h => List.inj_on_of_nodup_map Enumeration.nodup (Enumeration.mem_values a)
    (Enumeration.mem_values b) h

def tryFromNumber (α : Type*) [Enumeration α] (n : Int32) : Option α :=
  Enumeration.values.find? fun a => number a = n

@[simp]
theorem tryFromNumber_number [Enumeration α] (a : α) : tryFromNumber α (number a) = some a := by
  have hsome : (tryFromNumber α (number a)).isSome := by
    rw [tryFromNumber, List.find?_isSome]
    exact ⟨a, Enumeration.mem_values a, by simp⟩
  obtain ⟨b, hb⟩ := Option.isSome_iff_exists.1 hsome
  have hnumber : number b = number a := by simpa using List.find?_some hb
  rw [hb, number_injective hnumber]

/-! ## Fields -/

def okOr (o : Option α) (e : ε) : Except ε α :=
  match o with
  | some a => .ok a
  | none => .error e

@[simp]
theorem okOr_some (a : α) (e : ε) : okOr (some a) e = .ok a := rfl

@[simp]
theorem okOr_none (e : ε) : okOr (none : Option α) e = .error e := rfl

@[simp]
theorem ok_bind {α β : Type u} (a : α) (f : α → Except ε β) : (Except.ok a >>= f) = f a := rfl

@[simp]
theorem pure_eq_ok (a : α) : (pure a : Except ε α) = .ok a := rfl

@[simp]
theorem mapError_ok {ε' : Type*} (f : ε → ε') (a : α) : (Except.ok a).mapError f = .ok a := rfl

theorem bind_eq_ok_iff {α β : Type u} {x : Except ε α} {f : α → Except ε β} {b : β} :
    x >>= f = .ok b ↔ ∃ a, x = .ok a ∧ f a = .ok b := by
  cases x with
  | error e =>
    constructor
    · intro h
      cases h
    · rintro ⟨a, h, -⟩
      cases h
  | ok a => simp

section Loss

variable {write : α → μ} {read : μ → Except ε β} {loss : α → β} {o : Option α}

theorem mapM_map_option (h : ∀ a, o = some a → read (write a) = .ok (loss a)) :
    (o.map write).mapM read = .ok (o.map loss) := by
  cases o with
  | none => rfl
  | some a =>
    change some <$> read (write a) = .ok (some (loss a))
    rw [h a rfl]
    rfl

theorem mapM_map_list {as : List α} (h : ∀ a ∈ as, read (write a) = .ok (loss a)) :
    (as.map write).mapM read = .ok (as.map loss) := by
  induction as with
  | nil => rfl
  | cons a as ih =>
    obtain ⟨ha, has⟩ := List.forall_mem_cons.1 h
    rw [List.map_cons, List.mapM_cons, ha, ih has]
    rfl

theorem mapM_map_option_eq_ok_iff {o' : Option β} :
    (o.map write).mapM read = .ok o' ↔ Option.Rel (fun a b => read (write a) = .ok b) o o' := by
  cases o with
  | none =>
    constructor
    · rintro ⟨⟩
      exact .none
    · rintro ⟨⟩
      rfl
  | some a =>
    change some <$> read (write a) = .ok o' ↔ _
    constructor
    · intro h
      cases hread : read (write a) with
      | error e =>
        rw [hread] at h
        cases h
      | ok b =>
        rw [hread] at h
        cases h
        exact .some hread
    · rintro ⟨⟩
      next b hread =>
        rw [hread]
        rfl

theorem mapM_map_option_eq_self_iff {read : μ → Except ε α} :
    (o.map write).mapM read = .ok o ↔ ∀ a, o = some a → read (write a) = .ok a := by
  rw [mapM_map_option_eq_ok_iff]
  cases o with
  | none => exact ⟨fun _ _ h => (nomatch h), fun _ => .none⟩
  | some a =>
    constructor
    · rintro ⟨⟩ _ ⟨⟩
      assumption
    · exact fun h => .some (h a rfl)

end Loss

theorem map_option_eq_self_iff {o : Option α} : o.map loss = o ↔ ∀ a, o = some a → loss a = a := by
  cases o <;> simp

theorem map_eq_self_iff {as : List α} : as.map loss = as ↔ ∀ a ∈ as, loss a = a := by
  induction as with
  | nil => simp
  | cons a as ih => simp [ih]

end Wire
