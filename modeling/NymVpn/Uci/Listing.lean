import NymVpn.Uci.Config

/-!
# Reading the list of staged changes

A value is printed in quotes and may have several lines. No line inside a value looks like a
change of an option to a plain value, since a quote inside a value is escaped.
-/

namespace Uci

open Text

theorem escape_cons (c : Char) (v : List Char) :
    escape (c :: v) = (if c = '\'' then ['\'', '\\', '\'', '\''] else [c]) ++ escape v := rfl

/-- A quote after an equals sign inside a quoted text is the beginning of an escape. -/
theorem escape_no_bare_quote {v a b : List Char} {x : Char}
    (h : escape v ++ ['\''] = a ++ '=' :: '\'' :: x :: b) : x = '\\' := by
  induction v generalizing a with
  | nil => cases a <;> simp [escape] at h
  | cons c v ih =>
    rw [escape_cons] at h
    split at h
    · -- The equals sign is none of the four characters of an escape.
      rcases a with _ | ⟨a₁, _ | ⟨a₂, _ | ⟨a₃, _ | ⟨a₄, a⟩⟩⟩⟩ <;>
        simp only [List.cons_append, List.nil_append, List.cons.injEq] at h
      · exact absurd h.1 (by decide)
      · exact absurd h.2.1 (by decide)
      · exact absurd h.2.2.1 (by decide)
      · exact absurd h.2.2.2.1 (by decide)
      · exact ih h.2.2.2.2
    · cases a with
      | nil =>
        -- The quote begins the rest of the text.
        simp only [List.cons_append, List.nil_append, List.cons.injEq] at h
        cases v with
        | nil => simp [escape] at h
        | cons d v =>
          rw [escape_cons] at h
          split at h
          · simp only [List.cons_append, List.nil_append, List.cons.injEq] at h
            exact h.2.2.1.symm
          · next hd =>
              simp only [List.cons_append, List.nil_append, List.cons.injEq] at h
              exact absurd h.2.1 hd
      | cons y a =>
        simp only [List.cons_append, List.nil_append, List.cons.injEq] at h
        exact ih h.2

/-- The first quote of a quoted text ends it or begins an escape. -/
theorem escape_first_quote {v m z : List Char} (hm : '\'' ∉ m)
    (h : escape v ++ ['\''] = m ++ '\'' :: z) : v = m ∧ z = [] ∨ ∃ z', z = '\\' :: z' := by
  induction v generalizing m with
  | nil =>
    cases m with
    | nil => exact Or.inl ⟨rfl, by simpa [escape] using h⟩
    | cons y m => simp [escape] at h
  | cons c v ih =>
    rw [escape_cons] at h
    split at h
    · cases m with
      | nil => exact Or.inr ⟨_, (List.cons.inj h).2.symm⟩
      | cons y m => exact absurd (List.mem_cons.2 (Or.inl (List.cons.inj h).1)) hm
    · next hc =>
        cases m with
        | nil => exact absurd (List.cons.inj h).1 hc
        | cons y m =>
          obtain ⟨rfl, hrest⟩ := List.cons.inj h
          refine (ih (fun hm' => hm (List.mem_cons_of_mem _ hm')) hrest).imp_left ?_
          rintro ⟨rfl, hz⟩
          exact ⟨rfl, hz⟩

/-! ## Lines that set an option -/

theorem append_cons_unique {α : Type*} [DecidableEq α] {c : α} {a a' b b' : List α} (ha : c ∉ a)
    (ha' : c ∉ a') (h : a ++ c :: b = a' ++ c :: b') : a = a' ∧ b = b' := by
  have hsplit : splitFirst c (a ++ c :: b) = some (a, b) := splitFirst_eq_some_iff.2 ⟨rfl, ha⟩
  rw [h, splitFirst_eq_some_iff.2 ⟨rfl, ha'⟩] at hsplit
  simpa [eq_comm] using hsplit

theorem exists_eq_append_cons {α : Type*} {c : α} {a b x r : List α} (ha : c ∉ a)
    (h : a ++ b = x ++ c :: r) : ∃ e, b = e ++ c :: r := by
  rcases List.append_eq_append_iff.1 h with ⟨e, -, hb⟩ | ⟨e, rfl, hr⟩
  · exact ⟨e, hb⟩
  · cases e with
    | nil => exact ⟨[], hr.symm⟩
    | cons d e =>
      obtain ⟨rfl, -⟩ := List.cons.inj hr
      exact absurd (by simp) ha

structure Opens (package : String) : Prop where
  head : ∃ c cs, package.toList = c :: cs ∧ isWhiteSpace c = false ∧ c ≠ '-'
  isLine : '\n' ∉ package.toList
  noEquals : '=' ∉ package.toList

structure Plain (value : String) : Prop where
  head : ∃ c cs, value.toList = c :: cs ∧ c ≠ '\\'
  isLine : '\n' ∉ value.toList
  noQuote : '\'' ∉ value.toList

namespace Listed

variable {package : String} {l : Listed}

def key (package : String) (l : Listed) : List Char :=
  (if l.removal then ['-'] else []) ++ package.toList ++ '.' :: l.name.text.toList ++
    match l.option with
    | none => []
    | some o => '.' :: o.text.toList

theorem toList_text_none (h : l.assigned = none) : (l.text package).toList = l.key package := by
  rw [text, key, h]
  cases l.removal <;> cases l.option <;> simp

theorem toList_text_some {operator value : String} (h : l.assigned = some (operator, value)) :
    (l.text package).toList =
      l.key package ++ operator.toList ++ '\'' :: (escape value.toList ++ ['\'']) := by
  rw [text, key, h]
  cases l.removal <;> cases l.option <;> simp [quote]

theorem not_mem_key {c : Char} (hc : c ∉ package.toList) (hname : isNameChar c = false)
    (hdot : c ≠ '.') (hsign : c ≠ '-') : c ∉ l.key package := by
  have hn := l.name.not_mem hname
  rw [key]
  cases l.removal <;> cases h : l.option with
  | none => simp [hc, hn, hdot, hsign]
  | some o => simp [hc, hn, hdot, hsign, o.not_mem hname]

theorem head_key (hp : Opens package) :
    ∃ c cs, l.key package = c :: cs ∧ isWhiteSpace c = false := by
  obtain ⟨c, cs, hcs, hc, -⟩ := hp.head
  rw [key, hcs]
  cases l.removal with
  | false => exact ⟨c, _, rfl, hc⟩
  | true => exact ⟨'-', _, rfl, by decide⟩

theorem eq_of_key (hp : Opens package) {s : String} {o : Name} {sign : List Char}
    (hs : '.' ∉ s.toList) (hsigns : sign = [] ∨ sign = ['+'] ∨ sign = ['-'])
    (h : package.toList ++ '.' :: s.toList ++ '.' :: o.text.toList = l.key package ++ sign) :
    l.removal = false ∧ l.name.text = s ∧ l.option = some o ∧ sign = [] := by
  have hdot : '.' ∉ sign := by rcases hsigns with rfl | rfl | rfl <;> simp
  have hname : '.' ∉ l.name.text.toList := l.name.not_mem (by decide)
  rw [key] at h
  cases hremoval : l.removal with
  | true =>
    obtain ⟨c, cs, hcs, -, hc⟩ := hp.head
    simp [hremoval, hcs, hc] at h
  | false =>
    have h : s.toList ++ '.' :: o.text.toList = l.name.text.toList ++ (match l.option with
          | none => []
          | some o => '.' :: o.text.toList) ++ sign := by
      simpa [hremoval] using h
    cases hoption : l.option with
    | none =>
      have hmem : '.' ∈ l.name.text.toList ++ sign := by
        rw [hoption] at h
        rw [← List.append_nil l.name.text.toList, ← h]
        simp
      exact absurd hmem (by simp [hname, hdot])
    | some o' =>
      rw [hoption] at h
      obtain ⟨hsec, ho⟩ := append_cons_unique hs hname (by simpa using h)
      have hsign : sign = [] := by
        rcases hsigns with hsign | rfl | rfl
        · exact hsign
        · exact absurd (ho ▸ by simp) (o.not_mem (c := '+') (by decide))
        · exact absurd (ho ▸ by simp) (o.not_mem (c := '-') (by decide))
      subst hsign
      rw [List.append_nil] at ho
      have ho : o = o' := Name.text_inj.1 (String.toList_inj.1 ho)
      exact ⟨rfl, (String.toList_inj.1 hsec).symm, congrArg some ho.symm, rfl⟩

end Listed

theorem Change.operator_eq {c : Change} {operator value : String}
    (h : c.listed.assigned = some (operator, value)) :
    ∃ sign : List Char, operator.toList = sign ++ ['='] ∧
    (sign = [] ∨ sign = ['+'] ∨ sign = ['-']) := by
  have hoperator : operator = "=" ∨ operator = "+=" ∨ operator = "-=" := by
    cases c <;> simp_all [Change.listed]
  rcases hoperator with rfl | rfl | rfl
  · exact ⟨[], by simp, Or.inl rfl⟩
  · exact ⟨['+'], by simp, Or.inr (Or.inl rfl)⟩
  · exact ⟨['-'], by simp, Or.inr (Or.inr rfl)⟩

section Lines

variable {package m : String} {c : Change} {line : String} {k : List Char}

theorem not_escape_after {z y : List Char} (hz : ∀ c ∈ z, isWhiteSpace c = true)
    (hy : y = [] ∨ ∃ y', y = '\n' :: y') : ¬ ∃ z', z ++ y = '\\' :: z' := by
  rintro ⟨z', h⟩
  cases z with
  | nil => rcases hy with rfl | ⟨y', rfl⟩ <;> simp at h
  | cons d z =>
    obtain ⟨rfl, -⟩ := List.cons.inj h
    exact absurd (hz '\\' (by simp)) (by decide)

theorem nil_of_whiteSpace_append {a k key sign : List Char}
    (hkey : ∃ c cs, key = c :: cs ∧ isWhiteSpace c = false)
    (ha : ∀ c ∈ a, isWhiteSpace c = true) (h : key ++ sign = a ++ k) : a = [] := by
  obtain ⟨c, cs, rfl, hc⟩ := hkey
  cases a with
  | nil => rfl
  | cons d a =>
    obtain ⟨rfl, -⟩ := List.cons.inj h
    rw [ha c (by simp)] at hc
    cases hc

theorem eq_of_mem_lines (hp : Opens package) (hm : Plain m)
    (hline : line ∈ lines (c.listed.text package)) (hk : '=' ∉ k)
    (htrim : (strTrim line).toList = k ++ '=' :: '\'' :: (m.toList ++ ['\''])) :
    ∃ operator sign, c.listed.assigned = some (operator, m) ∧ operator.toList = sign ++ ['='] ∧
      (sign = [] ∨ sign = ['+'] ∨ sign = ['-']) ∧ k = c.listed.key package ++ sign := by
  obtain ⟨l, hl, rfl⟩ := List.mem_map.1 hline
  obtain ⟨-, x, y, htext, hx, hy⟩ := mem_splitOn hl
  obtain ⟨a, z, hparts, ha, hz⟩ := exists_eq_append_trimList isWhiteSpace l
  rw [strTrim, String.toList_ofList, String.toList_ofList] at htrim
  rw [hparts, htrim] at htext
  cases hassigned : c.listed.assigned with
  | none =>
    -- There is no equals sign to be found.
    have hequals : '=' ∈ c.listed.key package := by
      rw [← Listed.toList_text_none hassigned, htext]
      simp
    exact absurd hequals (Listed.not_mem_key hp.noEquals (by decide) (by decide) (by decide))
  | some assigned =>
    obtain ⟨operator, value⟩ := assigned
    obtain ⟨sign, hsign, hsigns⟩ := c.operator_eq hassigned
    rw [Listed.toList_text_some hassigned, hsign] at htext
    have hequals : '=' ∉ c.listed.key package ++ sign := by
      have hkey : '=' ∉ c.listed.key package :=
        Listed.not_mem_key hp.noEquals (by decide) (by decide) (by decide)
      rcases hsigns with rfl | rfl | rfl <;> simp [hkey]
    rcases hx with rfl | ⟨x', rfl⟩
    · -- The first line has the key and the beginning of the value.
      have hsplit : (c.listed.key package ++ sign) ++ '=' :: '\'' ::
          (escape value.toList ++ ['\'']) =
          (a ++ k) ++ '=' :: '\'' :: (m.toList ++ '\'' :: (z ++ y)) := by
        simpa using htext
      have hak : '=' ∉ a ++ k := by
        rw [List.mem_append, not_or]
        exact ⟨fun h => absurd (ha _ h) (by decide), hk⟩
      obtain ⟨hkey, hvalue⟩ := append_cons_unique hequals hak hsplit
      obtain ⟨hv, -⟩ := (escape_first_quote hm.noQuote (List.cons.inj hvalue).2).resolve_right
        (not_escape_after hz hy)
      obtain rfl : value = m := String.toList_inj.1 hv
      refine ⟨operator, sign, rfl, hsign, hsigns, ?_⟩
      rw [hkey, nil_of_whiteSpace_append (Listed.head_key hp) ha hkey, List.nil_append]
    · -- Every other line is inside the value.
      have hnewline : '\n' ∉ c.listed.key package ++ (sign ++ ['=', '\'']) := by
        have hkey : '\n' ∉ c.listed.key package :=
          Listed.not_mem_key hp.isLine (by decide) (by decide) (by decide)
        rcases hsigns with rfl | rfl | rfl <;> simp [hkey]
      have hsplit : (c.listed.key package ++ (sign ++ ['=', '\''])) ++
          (escape value.toList ++ ['\'']) =
          x' ++ '\n' :: (a ++ k ++ '=' :: '\'' :: (m.toList ++ '\'' :: (z ++ y))) := by
        simpa using htext
      obtain ⟨e, he⟩ := exists_eq_append_cons hnewline hsplit
      obtain ⟨m₀, ms, hms, hm₀⟩ := hm.head
      have hinside : escape value.toList ++ ['\''] =
          (e ++ '\n' :: (a ++ k)) ++ '=' :: '\'' :: m₀ :: (ms ++ '\'' :: (z ++ y)) := by
        simpa [hms] using he
      exact absurd (escape_no_bare_quote hinside) hm₀

theorem escape_eq_self {v : List Char} (h : '\'' ∉ v) : escape v = v := by
  induction v with
  | nil => rfl
  | cons c v ih =>
    rw [List.mem_cons, not_or] at h
    rw [escape_cons, if_neg (Ne.symm h.1), ih h.2, List.singleton_append]

def assignment (package s o m : String) : List Char :=
  (package.toList ++ '.' :: s.toList ++ '.' :: o.toList) ++ '=' :: '\'' :: (m.toList ++ ['\''])

theorem exists_mem_lines_set (hp : Opens package) (hm : Plain m) (n o : Name) :
    ∃ line ∈ lines ((Change.set n o m).listed.text package),
      (strTrim line).toList = assignment package n.text o.text m := by
  have htext : ((Change.set n o m).listed.text package).toList =
      assignment package n.text o.text m := by
    rw [Listed.toList_text_some (l := (Change.set n o m).listed) rfl, escape_eq_self hm.noQuote]
    simp [Listed.key, Change.listed, assignment]
  have hline : '\n' ∉ assignment package n.text o.text m := by
    simp [assignment, hp.isLine, hm.isLine, n.not_mem (c := '\n') (by decide),
      o.not_mem (c := '\n') (by decide)]
  refine ⟨(Change.set n o m).listed.text package, ?_, ?_⟩
  · rw [lines, htext, List.splitOn_eq_singleton hline, ← htext]
    simp
  · -- Neither end of the line is blank.
    obtain ⟨c, cs, hcs, hc, -⟩ := hp.head
    have hends : assignment package n.text o.text m = c :: (cs ++ '.' :: n.text.toList ++
        '.' :: o.text.toList ++ '=' :: '\'' :: m.toList) ++ ['\''] := by
      simp [assignment, hcs]
    rw [strTrim, String.toList_ofList, htext, hends, trimList_eq_self hc (by decide)]

theorem exists_mem_lines_iff (hp : Opens package) (hm : Plain m)
    (hname : ∃ ch ∈ m.toList, isNameChar ch = false) {s : String} {o : Name}
    (hs : '.' ∉ s.toList) (hs' : '=' ∉ s.toList) :
    (∃ line ∈ lines (c.listed.text package),
      (strTrim line).toList = assignment package s o.text m) ↔
      ∃ n, c = .set n o m ∧ n.text = s := by
  constructor
  · rintro ⟨line, hline, htrim⟩
    have hk : '=' ∉ package.toList ++ '.' :: s.toList ++ '.' :: o.text.toList := by
      simp [hp.noEquals, hs', o.not_mem (c := '=') (by decide)]
    obtain ⟨operator, sign, hassigned, hoperator, hsigns, hkey⟩ :=
      eq_of_mem_lines hp hm hline hk htrim
    obtain ⟨hremoval, hn, ho, rfl⟩ := Listed.eq_of_key hp hs hsigns hkey
    obtain rfl : operator = "=" := String.toList_inj.1 hoperator
    obtain ⟨ch, hch, hnot⟩ := hname
    cases c with
    | set n o' v => simp_all [Change.listed]
    | renameOption n o' n' =>
      obtain rfl : n'.text = m := by simpa [Change.listed] using hassigned
      exact absurd hch (n'.not_mem hnot)
    | removeItem n o' i | removeOption n o' => cases hremoval
    | addList n o' v | dropList n o' v => simp [Change.listed] at hassigned
    | _ => cases ho
  · rintro ⟨n, rfl, rfl⟩
    exact exists_mem_lines_set hp hm n o

/-- A reader of trimmed lines that finds nothing in an empty one finds what is in the
lines of the single changes. -/
theorem exists_mem_changesText_iff {P : String → Prop} (hnil : ¬ P "") (package : String)
    (staged : List Change) : (∃ line ∈ strLines (changesText package staged), P (strTrim line)) ↔
      ∃ c ∈ staged, ∃ line ∈ lines (c.listed.text package), P (strTrim line) := by
  have hblank : strTrim "" = "" := rfl
  rw [exists_mem_strLines_iff hnil, changesText, lines_unlines_flatMap]
  simp only [List.mem_append, List.mem_flatMap, List.mem_map, List.mem_singleton]
  constructor
  · rintro ⟨line, ⟨_, ⟨c, hc, rfl⟩, hline⟩ | rfl, hP⟩
    · exact ⟨c, hc, line, hline, hP⟩
    · exact absurd (hblank ▸ hP) hnil
  · rintro ⟨c, hc, line, hline, hP⟩
    exact ⟨line, Or.inl ⟨_, ⟨c, hc, rfl⟩, hline⟩, hP⟩

end Lines

end Uci
