import NymVpn.Uci.Config

/-!
# What a change leaves alone

A change of an option leaves the sections as they are, apart from their options.
-/

namespace Uci

def Section.header (s : Section) : Section := { s with options := [] }

namespace Section

variable {s : Section} {o : Name}

theorem header_put (v : Value) : (s.put o v).header = s.header := by
  unfold put
  split <;> rfl

theorem header_addItem (v : String) : (s.addItem o v).header = s.header := by
  unfold addItem
  split <;> exact header_put _

theorem header_dropItems (v : String) : (s.dropItems o v).header = s.header := by
  unfold dropItems
  split
  · exact header_put _
  · rfl

theorem header_eraseItem (i : ℕ) : (s.eraseItem o i).header = s.header := by
  unfold eraseItem
  split
  · exact header_put _
  · rfl

theorem get?_eq_none_iff : s.get? o = none ↔ ∀ e ∈ s.options, e.1 ≠ o := by
  simp only [get?, List.lookup_eq_none_iff, bne_iff_ne, ne_comm]

theorem erase_eq_self (h : s.get? o = none) : s.erase o = s := by
  have hall : s.options.filter (·.1 ≠ o) = s.options := by
    simpa [List.filter_eq_self] using get?_eq_none_iff.1 h
  rw [erase, hall]

theorem get?_erase : (s.erase o).get? o = none := by
  rw [get?_eq_none_iff]
  intro e he
  simpa using (List.mem_filter.1 he).2

theorem lookup_map_put {o' : Name} (v : Value) (l : List (Name × Value)) :
    (l.map fun e => if e.1 = o then (o, v) else e).lookup o' =
      if o' = o then (l.lookup o).map fun _ => v else l.lookup o' := by
  induction l with
  | nil => simp
  | cons e l ih =>
    obtain ⟨k, u⟩ := e
    by_cases hk : k = o
    · subst hk
      by_cases h : o' = k
      · simp [h]
      · simpa [h, List.lookup_cons, beq_eq_false_iff_ne.2 h] using ih
    · by_cases h : o' = o
      · subst h
        simpa [hk, List.lookup_cons, beq_eq_false_iff_ne.2 (Ne.symm hk)] using ih
      · simp only [h, if_false] at ih
        simp [hk, h, List.lookup_cons, ih]

theorem get?_put (o' : Name) (v : Value) :
    (s.put o v).get? o' = if o' = o then some v else s.get? o' := by
  unfold put
  split
  · next hany =>
      rw [get?, lookup_map_put]
      split
      · obtain ⟨e, he, heq⟩ : ∃ e ∈ s.options, e.1 = o := by simpa using hany
        have hsome : s.get? o ≠ none := fun hnone => get?_eq_none_iff.1 hnone e he heq
        obtain ⟨u, hu⟩ := Option.ne_none_iff_exists'.1 hsome
        rw [get?] at hu
        rw [hu]
        rfl
      · rfl
  · next hany =>
      have hnone : s.get? o = none := by
        rw [get?_eq_none_iff]
        intro e he heq
        exact hany (List.any_eq_true.2 ⟨e, he, decide_eq_true heq⟩)
      rw [get?, List.lookup_append]
      split
      · next h =>
          rw [h]
          rw [get?] at hnone
          simp [hnone]
      · next h => simp [get?, List.lookup_cons, beq_eq_false_iff_ne.2 h]

theorem name_eq_of_header {s s' : Section} (h : s.header = s'.header) : s.name = s'.name := by
  change s.header.name = s'.header.name
  rw [h]

end Section

namespace Package

open Section

variable {p : Package} {n : Name} {c : Change} {f : Section → Section}

def headers (p : Package) : Package := p.map Section.header

theorem headers_modify_of_header (hf : ∀ s, (f s).header = s.header) :
    (p.modify n f).headers = p.headers := by
  rw [headers, modify, List.map_map]
  apply List.map_congr_left
  intro s _
  change (if s.name = n then f s else s).header = s.header
  split
  · exact hf s
  · rfl

theorem headers_modify (hf : ∀ s, (f s).header = f s.header) :
    (p.modify n f).headers = p.headers.modify n f := by
  rw [headers, headers, modify, modify, List.map_map, List.map_map]
  apply List.map_congr_left
  intro s _
  change (if s.name = n then f s else s).header = if s.name = n then f s.header else s.header
  split
  · exact hf s
  · rfl

theorem headers_setSection (anonymous : Bool) (type : String) :
    (p.setSection n anonymous type).headers = p.headers.setSection n anonymous type := by
  have hany : p.headers.any (·.name = n) = p.any (·.name = n) := List.any_map
  rw [setSection, setSection, hany]
  split
  · exact headers_modify fun _ => rfl
  · exact List.map_append

theorem headers_reorder (i : ℕ) : (p.reorder n i).headers = p.headers.reorder n i := by
  have hfind : p.headers.find? (·.name = n) = (p.find? (·.name = n)).map header :=
    List.find?_map
  have hfilter : p.headers.filter (·.name ≠ n) = (p.filter (·.name ≠ n)).map header :=
    List.filter_map
  rw [reorder, reorder, hfind, hfilter]
  cases p.find? (·.name = n) with
  | none => rfl
  | some s => simp [headers, List.map_take, List.map_drop]

theorem headers_apply_section (h : c.option = none) : (p.apply c).headers = p.headers.apply c := by
  cases c with
  | add n type | setSection n type => exact headers_setSection _ _
  | remove n =>
    change (p.filter _).map _ = (p.map _).filter _
    rw [List.filter_map]
    rfl
  | rename n n' => exact headers_modify fun _ => rfl
  | reorder n i => exact headers_reorder i
  | _ => cases h

theorem find?_type_headers (type : String) : p.headers.find? (·.type = type) =
    (p.find? (·.type = type)).map header :=
  List.find?_map

theorem modify_modify {f g : Section → Section} (hf : ∀ s, (f s).header = s.header) :
    (p.modify n f).modify n g = p.modify n fun s => g (f s) := by
  rw [modify, modify, modify, List.map_map]
  apply List.map_congr_left
  intro s _
  by_cases h : s.name = n
  · have hname : (f s).name = n := (name_eq_of_header (hf s)).trans h
    simp [h, hname]
  · simp [h]

theorem exists_apply_eq_modify (h : c.option ≠ none) :
    ∃ f : Section → Section, (∀ s, (f s).header = s.header) ∧
      ∀ p : Package, p.apply c = p.modify c.name f := by
  cases c with
  | set n o v => exact ⟨_, fun _ => header_put _, fun _ => rfl⟩
  | removeOption n o => exact ⟨(·.erase o), fun _ => rfl, fun _ => rfl⟩
  | removeItem n o i => exact ⟨_, fun _ => header_eraseItem _, fun _ => rfl⟩
  | renameOption n o o' => exact ⟨(·.renameOption o o'), fun _ => rfl, fun _ => rfl⟩
  | addList n o v => exact ⟨_, fun _ => header_addItem _, fun _ => rfl⟩
  | dropList n o v => exact ⟨_, fun _ => header_dropItems _, fun _ => rfl⟩
  | _ => exact absurd rfl h

theorem headers_apply_option (h : c.option ≠ none) : (p.apply c).headers = p.headers := by
  obtain ⟨f, hf, hp⟩ := exists_apply_eq_modify h
  rw [hp]
  exact headers_modify_of_header hf

theorem headers_foldl_apply (l : List Change) :
    (l.foldl apply p).headers = (l.filter (·.option = none)).foldl apply p.headers := by
  induction l generalizing p with
  | nil => rfl
  | cons c l ih =>
    rw [List.foldl_cons, ih]
    by_cases h : c.option = none
    · rw [List.filter_cons_of_pos (by simpa using h), List.foldl_cons, headers_apply_section h]
    · rw [List.filter_cons_of_neg (by simpa using h), headers_apply_option h]

theorem exists_foldl_apply_eq_modify {l : List Change}
    (h : ∀ c ∈ l, c.name = n ∧ c.option ≠ none) :
    ∃ f : Section → Section, (∀ s, (f s).header = s.header) ∧
      ∀ p : Package, l.foldl apply p = p.modify n f := by
  induction l with
  | nil => exact ⟨id, fun _ => rfl, fun p => by simp [modify]⟩
  | cons c l ih =>
    obtain ⟨⟨rfl, hc⟩, hl⟩ := List.forall_mem_cons.1 h
    obtain ⟨f, hf, hfp⟩ := exists_apply_eq_modify hc
    obtain ⟨g, hg, hgp⟩ := ih hl
    refine ⟨fun s => g (f s), fun s => (hg (f s)).trans (hf s), fun p => ?_⟩
    rw [List.foldl_cons, hgp, hfp, modify_modify hf]

end Package

end Uci
