import NymVpn.Text.Numeral

/-!
# Values in rule texts

The numbers and names both rule languages write. Each is read back from its text.
-/

namespace Netfilter

open Text

def readPort (s : String) : Option UInt16 :=
  (readDecimal s).bind fun n => if n < 65536 then some (.ofNat n) else none

def readU32 (s : String) : Option UInt32 :=
  (readNumber s).bind fun n => if n < 4294967296 then some (.ofNat n) else none

def readRate (s : String) : Option UInt32 :=
  match s.toList.splitOn '/' with
  | [n, ['m', 'i', 'n', 'u', 't', 'e']] => readU32 (.ofList n)
  | _ => none

def nameOf (table : List (String × UInt8)) (t : UInt8) : String :=
  ((table.find? fun e => e.2 == t).map Prod.fst).getD ""

theorem lookup_nameOf {l : List (String × UInt8)}
    (h : ∀ e ∈ l, l.lookup (nameOf l e.2) = some e.2) {t : UInt8}
    (ht : t ∈ l.map Prod.snd) : l.lookup (nameOf l t) = some t := by
  obtain ⟨e, he, rfl⟩ := List.mem_map.1 ht
  exact h e he

@[simp] theorem readPort_decimal (p : UInt16) : readPort (decimal p.toNat) = some p := by
  have hlt : p.toNat < 65536 := p.toNat_lt
  simp [readPort, hlt]

@[simp] theorem readU32_decimal (m : UInt32) : readU32 (decimal m.toNat) = some m := by
  have hlt : m.toNat < 4294967296 := m.toNat_lt
  simp [readU32, hlt]

@[simp] theorem readU32_hexMarked (m : UInt32) : readU32 (hexMarked m.toNat) = some m := by
  have hlt : m.toNat < 4294967296 := m.toNat_lt
  simp [readU32, hlt]

@[simp] theorem readRate_decimal (m : UInt32) :
    readRate (decimal m.toNat ++ "/minute") = some m := by
  have hslash : '/' ∉ Nat.toDigits 10 m.toNat :=
    not_mem_toDigits (by decide) (by decide) (by decide) _
  have hsplit : (decimal m.toNat ++ "/minute").toList.splitOn '/' =
      [Nat.toDigits 10 m.toNat, ['m', 'i', 'n', 'u', 't', 'e']] := by
    have htext : (decimal m.toNat ++ "/minute").toList =
        Nat.toDigits 10 m.toNat ++ '/' :: ['m', 'i', 'n', 'u', 't', 'e'] := by
      simp [decimal]
    rw [htext, List.splitOn_append_cons_self, List.splitOn_eq_singleton hslash]
    rfl
  rw [readRate, hsplit]
  exact readU32_decimal m

end Netfilter
