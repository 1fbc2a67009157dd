import Mathlib.Data.List.Basic

/-!
# Words and lines

A line is read as the list of its words, a script as the list of its lines. Both are inverse
to how a renderer puts them together.
-/

namespace Text

theorem mapM_eq_map {α β : Type*} {f : α → Option β} {g : α → β} {l : List α}
    (h : ∀ a ∈ l, f a = some (g a)) : l.mapM f = some (l.map g) := by
  induction l with
  | nil => rfl
  | cons a l ih =>
    obtain ⟨ha, hl⟩ := List.forall_mem_cons.1 h
    simp [ha, ih hl]

def words (s : String) : List String :=
  ((s.toList.splitOn ' ').filter (· ≠ [])).map String.ofList

def lines (s : String) : List String :=
  (s.toList.splitOn '\n').map String.ofList

def unlines (ls : List String) : String := String.join (ls.map (· ++ "\n"))

def trim (s : String) : String :=
  .ofList ((s.toList.dropWhile Char.isWhitespace).reverse.dropWhile Char.isWhitespace).reverse

def IsWord (s : String) : Prop := s.toList ≠ [] ∧ ' ' ∉ s.toList

def IsLine (s : String) : Prop := '\n' ∉ s.toList

instance (s : String) : Decidable (IsWord s) := inferInstanceAs (Decidable (_ ∧ _))

instance (s : String) : Decidable (IsLine s) := inferInstanceAs (Decidable (_ ∉ _))

theorem words_of_isWord {s : String} (h : IsWord s) : words s = [s] := by
  obtain ⟨hne, hblank⟩ := h
  rw [words, List.splitOn_eq_singleton hblank]
  simp [hne]

theorem words_append_blank (s t : String) : words (s ++ " " ++ t) = words s ++ words t := by
  have hsplit : (s ++ " " ++ t).toList = s.toList ++ ' ' :: t.toList := by simp
  rw [words, hsplit, List.splitOn_append_cons_self]
  simp [words]

theorem words_append_of_blank {s : String} (h : s.toList.getLast? = some ' ') (t : String) :
    words (s ++ t) = words s ++ words t := by
  obtain ⟨cs, hcs⟩ := List.getLast?_eq_some_iff.1 h
  have hs : words s = words (String.ofList cs) := by
    rw [words, words, hcs, List.splitOn_append_cons_self]
    simp
  have hst : s ++ t = String.ofList cs ++ " " ++ t := by
    apply String.toList_inj.1
    simp [hcs]
  rw [hst, words_append_blank, hs]

theorem lines_unlines_flatMap (ls : List String) :
    lines (unlines ls) = ls.flatMap lines ++ [""] := by
  induction ls with
  | nil => rfl
  | cons l ls ih =>
    have hsplit : (unlines (l :: ls)).toList = l.toList ++ '\n' :: (unlines ls).toList := by
      simp [unlines]
    rw [lines, hsplit, List.splitOn_append_cons_self, List.map_append]
    change lines l ++ lines (unlines ls) = _
    rw [ih, List.flatMap_cons, List.append_assoc]

theorem lines_unlines {ls : List String} (h : ∀ l ∈ ls, IsLine l) :
    lines (unlines ls) = ls ++ [""] := by
  have hline : ∀ l ∈ ls, lines l = [l] := by
    intro l hl
    simp [lines, List.splitOn_eq_singleton (h l hl)]
  rw [lines_unlines_flatMap, List.flatMap_def, List.map_congr_left hline,
    ← List.flatMap_def, List.flatMap_singleton']

theorem mem_splitOn {α : Type*} [BEq α] [LawfulBEq α] {a : α} {cs l : List α}
    (h : l ∈ cs.splitOn a) : a ∉ l ∧
      ∃ x y, cs = x ++ l ++ y ∧ (x = [] ∨ ∃ x', x = x' ++ [a]) ∧ (y = [] ∨ ∃ y', y = a :: y') := by
  induction hn : cs.length using Nat.strongRecOn generalizing cs with
  | ind n ih =>
    by_cases ha : a ∈ cs
    · obtain ⟨pre, post, rfl, hpre⟩ := List.eq_append_cons_of_mem ha
      rw [List.splitOn_append_cons_self, List.splitOn_eq_singleton hpre, List.singleton_append,
        List.mem_cons] at h
      rcases h with rfl | h
      · exact ⟨hpre, [], a :: post, by simp, Or.inl rfl, Or.inr ⟨post, rfl⟩⟩
      · have hlt : post.length < n := by
          rw [← hn, List.length_append, List.length_cons]
          omega
        obtain ⟨hl, x, y, rfl, hx, hy⟩ := ih post.length hlt h rfl
        refine ⟨hl, pre ++ a :: x, y, by simp, Or.inr ?_, hy⟩
        rcases hx with rfl | ⟨x', rfl⟩
        · exact ⟨pre, rfl⟩
        · exact ⟨pre ++ a :: x', by simp⟩
    · rw [List.splitOn_eq_singleton ha, List.mem_singleton] at h
      subst h
      exact ⟨ha, [], [], by simp, Or.inl rfl, Or.inl rfl⟩

theorem unlines_append (ls ms : List String) : unlines (ls ++ ms) = unlines ls ++ unlines ms := by
  simp [unlines]

theorem unlines_singleton (l : String) : unlines [l] = l ++ "\n" := by
  simp [unlines]

theorem IsLine.append {s t : String} (hs : IsLine s) (ht : IsLine t) : IsLine (s ++ t) := by
  simpa [IsLine] using ⟨hs, ht⟩

theorem isLine_ofList {cs : List Char} (h : '\n' ∉ cs) : IsLine (String.ofList cs) := by
  rwa [IsLine, String.toList_ofList]

theorem length_le_length_flatMap {α β : Type*} {f : α → List β} (h : ∀ a, 1 ≤ (f a).length)
    (l : List α) : l.length ≤ (l.flatMap f).length := by
  induction l with
  | nil => simp
  | cons a l ih =>
    have ha := h a
    simp only [List.flatMap_cons, List.length_append, List.length_cons]
    omega

end Text
