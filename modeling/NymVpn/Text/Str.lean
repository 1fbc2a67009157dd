import Mathlib.Data.List.Infix
import Mathlib.Data.List.TakeWhile
import NymVpn.Text.Words

/-!
# Functions of strings

The string functions of the standard library that the parsers use, over lists of
characters, and what their results say of the string.
-/

namespace Text

/-- The characters of the Unicode property `White_Space`. -/
def isWhiteSpace (c : Char) : Bool :=
  c.toNat ∈ [0x20, 0x85, 0xa0, 0x1680, 0x2028, 0x2029, 0x202f, 0x205f, 0x3000] ||
    (9 ≤ c.toNat && c.toNat ≤ 13) || (0x2000 ≤ c.toNat && c.toNat ≤ 0x200a)

def dropEnd {α : Type*} (p : α → Bool) (l : List α) : List α :=
  (l.reverse.dropWhile p).reverse

def trimList {α : Type*} (p : α → Bool) (l : List α) : List α := dropEnd p (l.dropWhile p)

def strTrim (s : String) : String := .ofList (trimList isWhiteSpace s.toList)

def trimMatches (c : Char) (s : String) : String := .ofList (trimList (· == c) s.toList)

/-- What follows `p`, when the list starts with it. -/
def dropStart {α : Type*} [DecidableEq α] : List α → List α → Option (List α)
  | [], l => some l
  | _ :: _, [] => none
  | a :: p, b :: l => if a = b then dropStart p l else none

def stripStart (p s : String) : Option String := (dropStart p.toList s.toList).map .ofList

def stripEnd (p s : String) : Option String :=
  (dropStart p.toList.reverse s.toList.reverse).map fun l => .ofList l.reverse

def splitFirst {α : Type*} [DecidableEq α] (c : α) : List α → Option (List α × List α)
  | [] => none
  | a :: l =>
    if a = c then some ([], l) else (splitFirst c l).map fun parts => (a :: parts.1, parts.2)

def splitOnce (c : Char) (s : String) : Option (String × String) :=
  (splitFirst c s.toList).map fun parts => (.ofList parts.1, .ofList parts.2)

/-- The lines of a string: an empty last one is none, and a carriage return before the
newline is not part of the line. -/
def strLines (s : String) : List String :=
  let ls := lines s
  (if ls.getLast? = some "" then ls.dropLast else ls).map fun l => (stripEnd "\r" l).getD l

def fields (isBlank : Char → Bool) (line : String) : List String :=
  words (.ofList (line.toList.map fun c => if isBlank c then ' ' else c))

def hasPart {α : Type*} [DecidableEq α] (part l : List α) : Bool :=
  l.tails.any part.isPrefixOf

def strContains (s part : String) : Bool := hasPart part.toList s.toList

section Lists

variable {α : Type*} {p : α → Bool} {l : List α}

theorem exists_eq_dropEnd_append (p : α → Bool) (l : List α) :
    ∃ z, l = dropEnd p l ++ z ∧ ∀ c ∈ z, p c = true := by
  refine ⟨(l.reverse.takeWhile p).reverse, ?_, ?_⟩
  · rw [dropEnd, ← List.reverse_append, List.takeWhile_append_dropWhile, List.reverse_reverse]
  · intro c hc
    exact List.mem_takeWhile_imp (List.mem_reverse.1 hc)

theorem trimList_eq_self {a b : α} (ha : p a = false) (hb : p b = false) :
    trimList p (a :: l ++ [b]) = a :: l ++ [b] := by
  rw [trimList, List.cons_append, List.dropWhile_cons_of_neg (by simp [ha]), dropEnd]
  simp [hb]

theorem exists_eq_append_trimList (p : α → Bool) (l : List α) :
    ∃ a z, l = a ++ trimList p l ++ z ∧ (∀ c ∈ a, p c = true) ∧ ∀ c ∈ z, p c = true := by
  obtain ⟨z, hz, hall⟩ := exists_eq_dropEnd_append p (l.dropWhile p)
  refine ⟨l.takeWhile p, z, ?_, fun c hc => List.mem_takeWhile_imp hc, hall⟩
  rw [trimList, List.append_assoc, ← hz, List.takeWhile_append_dropWhile]

theorem trimList_append_of_dropped {a : α} (ha : p a = true) :
    trimList p (l ++ [a]) = trimList p l := by
  rw [trimList, trimList]
  by_cases hall : ∀ x ∈ l, p x = true
  · have hdrop : l.dropWhile p = [] := List.dropWhile_eq_nil_iff.2 hall
    rw [List.dropWhile_append_of_pos hall, hdrop]
    simp [dropEnd, ha]
  · have hne : ¬ (l.dropWhile p).isEmpty = true := by
      rwa [List.isEmpty_iff, List.dropWhile_eq_nil_iff]
    rw [List.dropWhile_append, if_neg hne]
    simp [dropEnd, ha]

variable [DecidableEq α]

theorem dropStart_eq_some_iff {p l r : List α} : dropStart p l = some r ↔ l = p ++ r := by
  induction p generalizing l with
  | nil => simp [dropStart, eq_comm]
  | cons a p ih =>
    cases l with
    | nil => simp [dropStart]
    | cons b l =>
      by_cases h : a = b
      · simp [dropStart, h, ih]
      · simp [dropStart, h, Ne.symm h]

theorem splitFirst_eq_some_iff {c : α} {l a b : List α} :
    splitFirst c l = some (a, b) ↔ l = a ++ c :: b ∧ c ∉ a := by
  induction l generalizing a with
  | nil => simp [splitFirst]
  | cons x l ih =>
    by_cases hx : x = c
    · subst hx
      cases a with
      | nil => simp [splitFirst]
      | cons y a =>
        simp only [splitFirst, if_true, List.cons_append, List.cons.injEq, List.mem_cons]
        grind
    · cases a with
      | nil => simp [splitFirst, hx]
      | cons y a =>
        simp only [splitFirst, if_neg hx, Option.map_eq_some_iff, Prod.mk.injEq,
          List.cons.injEq, Prod.exists, List.cons_append, List.mem_cons]
        grind

end Lists

section Strings

variable {c : Char} {p s r a b : String}

theorem stripStart_eq_some_iff : stripStart p s = some r ↔ s.toList = p.toList ++ r.toList := by
  rw [stripStart, Option.map_eq_some_iff]
  constructor
  · rintro ⟨l, hl, rfl⟩
    rw [dropStart_eq_some_iff.1 hl, String.toList_ofList]
  · intro h
    exact ⟨r.toList, dropStart_eq_some_iff.2 h, String.ofList_toList⟩

theorem stripEnd_eq_some_iff : stripEnd p s = some r ↔ s.toList = r.toList ++ p.toList := by
  rw [stripEnd, Option.map_eq_some_iff]
  constructor
  · rintro ⟨l, hl, rfl⟩
    rw [String.toList_ofList, ← List.reverse_inj, dropStart_eq_some_iff.1 hl]
    simp
  · intro h
    refine ⟨r.toList.reverse, dropStart_eq_some_iff.2 ?_, by simp⟩
    rw [h, List.reverse_append]

theorem splitOnce_eq_some_iff : splitOnce c s = some (a, b) ↔
    s.toList = a.toList ++ c :: b.toList ∧ c ∉ a.toList := by
  rw [splitOnce, Option.map_eq_some_iff]
  constructor
  · rintro ⟨⟨l, m⟩, hl, h⟩
    obtain ⟨rfl, rfl⟩ := Prod.mk.inj h
    simpa using splitFirst_eq_some_iff.1 hl
  · intro h
    exact ⟨(a.toList, b.toList), splitFirst_eq_some_iff.2 h, by simp⟩

theorem strTrim_stripEnd_cr (l : String) : strTrim ((stripEnd "\r" l).getD l) = strTrim l := by
  cases h : stripEnd "\r" l with
  | none => rfl
  | some r =>
    have hl : l.toList = r.toList ++ ['\r'] := stripEnd_eq_some_iff.1 h
    rw [Option.getD_some, strTrim, strTrim, hl, trimList_append_of_dropped (by decide)]

theorem stripEnd_cr_of_not_mem {s : String} (h : '\r' ∉ s.toList) :
    (stripEnd "\r" s).getD s = s := by
  cases hstrip : stripEnd "\r" s with
  | none => rfl
  | some t =>
    rw [stripEnd_eq_some_iff] at hstrip
    exact absurd (hstrip ▸ by simp) h

theorem strLines_unlines {ls : List String} (h : ∀ l ∈ ls, IsLine l ∧ '\r' ∉ l.toList) :
    strLines (unlines ls) = ls := by
  have hlines : lines (unlines ls) = ls ++ [""] := lines_unlines fun l hl => (h l hl).1
  have hstrip : ls.map (fun l => (stripEnd "\r" l).getD l) = ls.map id :=
    List.map_congr_left fun l hl => stripEnd_cr_of_not_mem (h l hl).2
  rw [strLines, hlines, if_pos (by simp), List.dropLast_concat, hstrip, List.map_id]

theorem exists_mem_strLines_iff {P : String → Prop} (hnil : ¬ P "") (s : String) :
    (∃ l ∈ strLines s, P (strTrim l)) ↔ ∃ l ∈ lines s, P (strTrim l) := by
  rw [strLines]
  simp only [List.mem_map, exists_exists_and_eq_and, strTrim_stripEnd_cr]
  split
  · next hlast =>
      obtain ⟨ls, hls⟩ := List.getLast?_eq_some_iff.1 hlast
      rw [hls, List.dropLast_concat]
      constructor
      · rintro ⟨l, hl, hP⟩
        exact ⟨l, List.mem_append_left _ hl, hP⟩
      · rintro ⟨l, hl, hP⟩
        rcases List.mem_append.1 hl with hl | hl
        · exact ⟨l, hl, hP⟩
        · rw [List.mem_singleton.1 hl] at hP
          exact absurd hP hnil
  · rfl

end Strings

section Fields

variable {isBlank : Char → Bool}

theorem fields_eq_words {line : String} (h : ∀ c ∈ line.toList, isBlank c = true → c = ' ') :
    fields isBlank line = words line := by
  have hmap : (line.toList.map fun c => if isBlank c then ' ' else c) = line.toList := by
    calc
      line.toList.map _ = line.toList.map id := List.map_congr_left fun c hc => by
        split
        · next hblank => exact (h c hc hblank).symm
        · rfl
      _ = line.toList := List.map_id _
  rw [fields, hmap, String.ofList_toList]

end Fields

end Text
