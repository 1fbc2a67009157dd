import Mathlib.Algebra.Group.Nat.Defs
import Mathlib.Data.Nat.Basic
import NymVpn.Text.Words

/-!
# Numerals

`readDigits b` reads a numeral of base `b`, up to 16, and is inverse to `Nat.toDigits b`.
-/

namespace Text

def digitValue (c : Char) : Option ℕ :=
  if '0' ≤ c ∧ c ≤ '9' then some (c.toNat - '0'.toNat)
  else if 'a' ≤ c ∧ c ≤ 'f' then some (c.toNat - 'a'.toNat + 10)
  else none

def pushDigit (b : ℕ) (n : ℕ) (c : Char) : Option ℕ :=
  (digitValue c).bind fun d => if d < b then some (n * b + d) else none

def readDigits (b : ℕ) (cs : List Char) : Option ℕ :=
  if cs = [] then none else cs.foldlM (pushDigit b) 0

theorem digitValue_digitChar {d : ℕ} (h : d < 16) : digitValue d.digitChar = some d := by
  have hall : ∀ d : Fin 16, digitValue (d : ℕ).digitChar = some (d : ℕ) := by decide
  exact hall ⟨d, h⟩

theorem pushDigit_digitChar {b n d : ℕ} (hb : b ≤ 16) (hd : d < b) :
    pushDigit b n d.digitChar = some (n * b + d) := by
  simp [pushDigit, digitValue_digitChar (Nat.lt_of_lt_of_le hd hb), hd]

theorem foldlM_pushDigit_toDigits {b : ℕ} (hb : 1 < b) (hb' : b ≤ 16) (n : ℕ) :
    (Nat.toDigits b n).foldlM (pushDigit b) 0 = some n := by
  induction n using Nat.strong_induction_on with
  | _ n ih =>
    by_cases hn : n < b
    · rw [Nat.toDigits_of_lt_base hn]
      simp [pushDigit_digitChar hb' hn]
    · have hle : b ≤ n := Nat.le_of_not_lt hn
      have hlt : n / b < n := Nat.div_lt_self (by omega) hb
      have hmod : n % b < b := Nat.mod_lt n (by omega)
      rw [Nat.toDigits_of_base_le hb hle, List.foldlM_append, ih _ hlt]
      simp [pushDigit_digitChar hb' hmod, Nat.div_add_mod']

theorem readDigits_toDigits {b : ℕ} (hb : 1 < b) (hb' : b ≤ 16) (n : ℕ) :
    readDigits b (Nat.toDigits b n) = some n := by
  rw [readDigits, if_neg Nat.toDigits_ne_nil, foldlM_pushDigit_toDigits hb hb']

theorem isSome_digitValue_of_mem_toDigits {b n : ℕ} (hb : 1 < b) (hb' : b ≤ 16)
    {c : Char} (hc : c ∈ Nat.toDigits b n) : (digitValue c).isSome = true := by
  induction n using Nat.strong_induction_on with
  | _ n ih =>
    by_cases hn : n < b
    · rw [Nat.toDigits_of_lt_base hn, List.mem_singleton] at hc
      rw [hc, digitValue_digitChar (by omega)]
      rfl
    · have hlt : n / b < n := Nat.div_lt_self (by omega) hb
      have hmod : n % b < b := Nat.mod_lt n (by omega)
      rw [Nat.toDigits_of_base_le hb (by omega), List.mem_append, List.mem_singleton] at hc
      rcases hc with hc | rfl
      · exact ih _ hlt hc
      · rw [digitValue_digitChar (by omega)]
        rfl

theorem not_mem_toDigits {b : ℕ} (hb : 1 < b) (hb' : b ≤ 16) {c : Char}
    (hc : digitValue c = none) (n : ℕ) : c ∉ Nat.toDigits b n := by
  intro h
  have hdigit := isSome_digitValue_of_mem_toDigits hb hb' h
  rw [hc] at hdigit
  exact absurd hdigit (by decide)

def decimal (n : ℕ) : String := String.ofList (Nat.toDigits 10 n)

def hex (n : ℕ) : String := String.ofList (Nat.toDigits 16 n)

def hexMarked (n : ℕ) : String := "0x" ++ hex n

def readDecimal (s : String) : Option ℕ := readDigits 10 s.toList

def readNumber (s : String) : Option ℕ :=
  match s.toList with
  | '0' :: 'x' :: cs => readDigits 16 cs
  | cs => readDigits 10 cs

@[simp] theorem readDecimal_decimal (n : ℕ) : readDecimal (decimal n) = some n := by
  simp [readDecimal, decimal, readDigits_toDigits]

@[simp] theorem readNumber_hexMarked (n : ℕ) : readNumber (hexMarked n) = some n := by
  simp [readNumber, hexMarked, hex, readDigits_toDigits]

@[simp] theorem readNumber_decimal (n : ℕ) : readNumber (decimal n) = some n := by
  have hx : 'x' ∉ Nat.toDigits 10 n :=
    not_mem_toDigits (by decide) (by decide) (by decide) n
  have hread := readDigits_toDigits (b := 10) (by decide) (by decide) n
  unfold readNumber
  rw [decimal, String.toList_ofList]
  split
  · next cs heq =>
      rw [heq] at hx
      exact absurd (by simp) hx
  · exact hread

theorem isWord_decimal (n : ℕ) : IsWord (decimal n) ∧ IsLine (decimal n) := by
  have hnot {c : Char} (hc : digitValue c = none) : c ∉ Nat.toDigits 10 n :=
    not_mem_toDigits (by decide) (by decide) hc n
  simp only [IsWord, IsLine, decimal, String.toList_ofList]
  exact ⟨⟨Nat.toDigits_ne_nil, hnot (by decide)⟩, hnot (by decide)⟩

theorem isWord_hexMarked (n : ℕ) : IsWord (hexMarked n) ∧ IsLine (hexMarked n) := by
  have hnot {c : Char} (hc : digitValue c = none) : c ∉ Nat.toDigits 16 n :=
    not_mem_toDigits (by decide) (by decide) hc n
  have hblank := hnot (c := ' ') (by decide)
  have hnewline := hnot (c := '\n') (by decide)
  simp [IsWord, IsLine, hexMarked, hex, hblank, hnewline]

end Text
