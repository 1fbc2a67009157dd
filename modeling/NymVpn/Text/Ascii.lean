import NymVpn.Text.Words

/-!
# Characters of ASCII

The classes of characters that validators use, by code point, the lower case of a string,
and its length in bytes.
-/

namespace Text

def isHexDigit (c : Char) : Bool := c.isDigit || ('a' ≤ c && c ≤ 'f') || ('A' ≤ c && c ≤ 'F')

def asciiLowercase (s : String) : String := .ofList (s.toList.map Char.toLower)

def byteLength (cs : List Char) : ℕ := (String.ofList cs).utf8ByteSize

section Chars

variable {c x : Char}

theorem isAlpha_iff : c.isAlpha = true ↔
    65 ≤ c.toNat ∧ c.toNat ≤ 90 ∨ 97 ≤ c.toNat ∧ c.toNat ≤ 122 := by
  delta Char.isAlpha Char.isUpper Char.isLower
  simp only [Bool.or_eq_true, Bool.and_eq_true, decide_eq_true_eq, ge_iff_le,
    UInt32.le_iff_toNat_le]
  rfl

theorem isDigit_iff : c.isDigit = true ↔ 48 ≤ c.toNat ∧ c.toNat ≤ 57 := by
  simp only [Char.isDigit, Bool.and_eq_true, decide_eq_true_eq, ge_iff_le, UInt32.le_iff_toNat_le]
  rfl

theorem isHexDigit_iff : isHexDigit c = true ↔ 48 ≤ c.toNat ∧ c.toNat ≤ 57 ∨
    97 ≤ c.toNat ∧ c.toNat ≤ 102 ∨ 65 ≤ c.toNat ∧ c.toNat ≤ 70 := by
  simp only [isHexDigit, Bool.or_eq_true, Bool.and_eq_true, decide_eq_true_eq, isDigit_iff,
    Char.le_def, UInt32.le_iff_toNat_le, or_assoc]
  rfl

theorem toNat_toLower : c.toLower.toNat =
    if 65 ≤ c.toNat ∧ c.toNat ≤ 90 then c.toNat + 32 else c.toNat := by
  unfold Char.toLower
  split
  · next h =>
      simp only [ge_iff_le, UInt32.le_iff_toNat_le] at h
      change 65 ≤ c.toNat ∧ c.toNat ≤ 90 at h
      rw [if_pos h]
      change (c.val + 32).toNat = c.toNat + 32
      rw [UInt32.toNat_add]
      change (c.toNat + 32) % 4294967296 = c.toNat + 32
      omega
  · next h =>
      simp only [ge_iff_le, UInt32.le_iff_toNat_le] at h
      change ¬ (65 ≤ c.toNat ∧ c.toNat ≤ 90) at h
      rw [if_neg h]

theorem toLower_eq_iff (hx : x.isAlpha = false) : c.toLower = x ↔ c = x := by
  rw [← Bool.not_eq_true, isAlpha_iff] at hx
  rw [← Char.toNat_inj, ← Char.toNat_inj, toNat_toLower]
  split <;> omega

theorem isHexDigit_toLower (h : isHexDigit c = true) : isHexDigit c.toLower = true := by
  rw [isHexDigit_iff] at h ⊢
  rw [toNat_toLower]
  split <;> omega

end Chars

theorem mem_intercalate {c x : Char} {ls : List (List Char)} (h : c ∈ [x].intercalate ls) :
    c = x ∨ ∃ l ∈ ls, c ∈ l := by
  induction ls with
  | nil => cases h
  | cons l ls ih =>
    cases ls with
    | nil => exact Or.inr ⟨l, by simp, by simpa using h⟩
    | cons m ls =>
      rw [List.intercalate_cons_cons, List.mem_append, List.mem_append, List.mem_singleton] at h
      rcases h with (h | h) | h
      · exact Or.inr ⟨l, by simp, h⟩
      · exact Or.inl h
      · rcases ih h with h | ⟨n, hn, h⟩
        · exact Or.inl h
        · exact Or.inr ⟨n, by simp [hn], h⟩

theorem eq_or_mem_splitOn {c x : Char} {cs : List Char} (h : c ∈ cs) :
    c = x ∨ ∃ l ∈ cs.splitOn x, c ∈ l := by
  apply mem_intercalate
  rwa [List.intercalate_splitOn]

theorem map_intercalate {f : Char → Char} {x : Char} (ls : List (List Char)) :
    ([x].intercalate ls).map f = [f x].intercalate (ls.map (List.map f)) := by
  induction ls with
  | nil => rfl
  | cons l ls ih =>
    cases ls with
    | nil => simp
    | cons m ls =>
      simp only [List.map_cons] at ih ⊢
      rw [List.intercalate_cons_cons, List.intercalate_cons_cons, List.map_append,
        List.map_append, ih, List.map_singleton]

theorem splitOn_map {f : Char → Char} {x : Char} (hf : ∀ c, f c = x ↔ c = x) (cs : List Char) :
    (cs.map f).splitOn x = (cs.splitOn x).map (List.map f) := by
  have hjoin : cs.map f = [x].intercalate ((cs.splitOn x).map (List.map f)) := by
    have hcs := congrArg (List.map f) (@List.intercalate_splitOn _ cs _ _ x)
    rw [map_intercalate, (hf x).2 rfl] at hcs
    exact hcs.symm
  rw [hjoin, List.splitOn_intercalate]
  · intro l hl
    obtain ⟨part, hpart, rfl⟩ := List.mem_map.1 hl
    rw [List.mem_map]
    rintro ⟨c, hc, hx⟩
    exact (mem_splitOn hpart).1 ((hf c).1 hx ▸ hc)
  · simp

end Text
