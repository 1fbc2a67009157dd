import NymVpn.Text.Script

/-!
# The scripts of `iptables-restore`

A chain is a list of rule specifications, each the words of its text. Under `--noflush` a
declared chain is created, or emptied when it exists, and the other chains of the table
stay. What a script has not committed is not seen.
-/

namespace Netfilter.Iptables

open Text

abbrev Spec := List String

abbrev Chains := String → Option (List Spec)

abbrev Tables := String → Chains

inductive Line where
  | table (name : String)
  | declare (chain : String)
  | flush (chain : String)
  | append (chain : String) (spec : Spec)
  | insert (chain : String) (spec : Spec)
  | commit
deriving DecidableEq

/-- The tables as committed, and the one that is open. -/
@[ext]
structure Load where
  tables : Tables
  current : Option (String × Chains) := none

/-- Reads the words of a line. A user chain is declared with the policy `-`;
a rule is inserted at the head of its chain. -/
def readLine : List String → Option Line
  | ["COMMIT"] => some .commit
  | ["-F", c] => some (.flush c)
  | "-A" :: c :: spec => some (.append c spec)
  | "-I" :: c :: "1" :: spec => some (.insert c spec)
  | [w] =>
    match w.toList with
    | '*' :: name => some (.table (.ofList name))
    | _ => none
  | [w, "-", "[0:0]"] =>
    match w.toList with
    | ':' :: name => some (.declare (.ofList name))
    | _ => none
  | _ => none

def Load.exec (s : Load) : Line → Option Load
  | .table name =>
    match s.current with
    | none => some { s with current := some (name, s.tables name) }
    | some _ => none
  | .declare c => do
    let (n, t) ← s.current
    return { s with current := some (n, Function.update t c (some [])) }
  | .flush c => do
    let (n, t) ← s.current
    let _ ← t c
    return { s with current := some (n, Function.update t c (some [])) }
  | .append c spec => do
    let (n, t) ← s.current
    let specs ← t c
    return { s with current := some (n, Function.update t c (some (specs ++ [spec]))) }
  | .insert c spec => do
    let (n, t) ← s.current
    let specs ← t c
    return { s with current := some (n, Function.update t c (some (spec :: specs))) }
  | .commit => do
    let (n, t) ← s.current
    return { tables := Function.update s.tables n t, current := none }

def runLines (ls : List Line) (tables : Tables) : Option Tables := do
  let s ← ls.foldlM Load.exec { tables }
  if s.current.isNone then return s.tables else none

def load (s : String) (tables : Tables) : Option Tables := do
  runLines (← readLines readLine s) tables

/-- What a script has committed when it stops somewhere. -/
def Committed (ls : List Line) (tables tables' : Tables) : Prop :=
  ∃ pre, pre <+: ls ∧ ∃ s, pre.foldlM Load.exec { tables } = some s ∧ s.tables = tables'

/-! ## Running a block -/

def specsFor (entries : List (String × Spec)) (c : String) : List Spec :=
  (entries.filter fun e => e.1 == c).map Prod.snd

@[simp] theorem specsFor_nil (c : String) : specsFor [] c = [] := rfl

@[simp] theorem specsFor_append (es fs : List (String × Spec)) (c : String) :
    specsFor (es ++ fs) c = specsFor es c ++ specsFor fs c := by
  simp [specsFor]

@[simp] theorem specsFor_cons_self (c : String) (spec : Spec) (es : List (String × Spec)) :
    specsFor ((c, spec) :: es) c = spec :: specsFor es c := by
  simp [specsFor]

theorem specsFor_cons_of_ne {d : String} (h : d ≠ c) (spec : Spec) (es : List (String × Spec)) :
    specsFor ((d, spec) :: es) c = specsFor es c := by
  simp [specsFor, h]

theorem specsFor_map (c d : String) (specs : List Spec) :
    specsFor (specs.map fun s => (c, s)) d = if c = d then specs else [] := by
  by_cases h : c = d <;> simp [specsFor, List.filter_map, Function.comp_def, h]

/-- A block of a script: one table, chains to declare and to flush, rules to
append, and rules to insert at the head of a chain. -/
structure Block where
  table : String
  chains : List String
  appends : List (String × Spec)
  inserts : List (String × Spec) := []

def Block.body (b : Block) : List Line :=
  b.chains.map .declare ++ b.chains.map .flush ++
    b.appends.map (fun e => .append e.1 e.2) ++ b.inserts.map (fun e => .insert e.1 e.2)

def Block.lines (b : Block) : List Line := .table b.table :: (b.body ++ [.commit])

def declared (t : Chains) (names : List String) : Chains :=
  fun c => if c ∈ names then some [] else t c

def Block.result (b : Block) (t : Chains) : Chains := fun c =>
  (declared t b.chains c).map fun specs =>
    (specsFor b.inserts c).reverse ++ (specs ++ specsFor b.appends c)

/-- Every chain that gets a rule is there. -/
def Block.Fits (b : Block) (t : Chains) : Prop :=
  (∀ e ∈ b.appends, (declared t b.chains e.1).isSome = true) ∧
    ∀ e ∈ b.inserts, (declared t b.chains e.1).isSome = true

theorem foldlM_exec_declare (T : Tables) (n : String) (t : Chains) (names : List String) :
    (names.map Line.declare).foldlM Load.exec ⟨T, some (n, t)⟩ =
      some ⟨T, some (n, declared t names)⟩ := by
  induction names generalizing t with
  | nil =>
    have hnil : declared t [] = t := by
      funext c
      simp [declared]
    rw [hnil]
    rfl
  | cons c names ih =>
    have hstep : Load.exec ⟨T, some (n, t)⟩ (.declare c) =
      some ⟨T, some (n, Function.update t c (some []))⟩ := rfl
    have hdeclared : declared (Function.update t c (some [])) names = declared t (c :: names) := by
      funext d
      by_cases hd : d = c
      · subst hd
        simp [declared]
      · simp [declared, hd]
    rw [List.map_cons, List.foldlM_cons, hstep]
    simp only [Option.bind_eq_bind, Option.bind_some]
    rw [ih, hdeclared]

theorem foldlM_exec_flush (T : Tables) (n : String) {t : Chains} {names : List String}
    (h : ∀ c ∈ names, t c = some []) :
    (names.map Line.flush).foldlM Load.exec ⟨T, some (n, t)⟩ = some ⟨T, some (n, t)⟩ := by
  induction names with
  | nil => rfl
  | cons c names ih =>
    have hc := h c (by simp)
    have hstep : Load.exec ⟨T, some (n, t)⟩ (.flush c) = some ⟨T, some (n, t)⟩ := by
      simp only [Load.exec, hc, Option.bind_eq_bind, Option.bind_some]
      rw [← hc, Function.update_eq_self]
      rfl
    rw [List.map_cons, List.foldlM_cons, hstep]
    exact ih fun d hd => h d (by simp [hd])

variable {mk : String → Spec → Line} {op : Spec → List Spec → List Spec} {b : Block} {T T' : Tables}
  {s : Load} {appends inserts : List (String × String)} {bs : List Block} {s' : Load}

theorem foldlM_exec_entries (hmk : ∀ T n (t : Chains) c spec specs, t c = some specs →
      Load.exec ⟨T, some (n, t)⟩ (mk c spec) =
        some ⟨T, some (n, Function.update t c (some (op spec specs)))⟩) (T : Tables) (n : String)
    (t : Chains) (entries : List (String × Spec)) (h : ∀ e ∈ entries, (t e.1).isSome = true) :
    (entries.map fun e => mk e.1 e.2).foldlM Load.exec ⟨T, some (n, t)⟩ =
      some ⟨T, some (n, fun c => (t c).map fun specs =>
        (specsFor entries c).foldl (fun acc spec => op spec acc) specs)⟩ := by
  induction entries generalizing t with
  | nil => simp
  | cons e entries ih =>
    obtain ⟨c, spec⟩ := e
    obtain ⟨specs, hspecs⟩ := Option.isSome_iff_exists.1 (h _ List.mem_cons_self)
    have hspecs : t c = some specs := hspecs
    have hrest : ∀ e ∈ entries, (Function.update t c (some (op spec specs)) e.1).isSome = true := by
      intro e he
      by_cases hne : e.1 = c
      · simp [hne]
      · rw [Function.update_of_ne hne]
        exact h e (by simp [he])
    rw [List.map_cons, List.foldlM_cons, hmk T n t c spec specs hspecs]
    simp only [Option.bind_eq_bind, Option.bind_some]
    rw [ih _ hrest]
    congr 4
    funext d
    by_cases hd : d = c
    · subst hd
      simp [hspecs]
    · rw [Function.update_of_ne hd, specsFor_cons_of_ne (Ne.symm hd)]

theorem exec_append (T : Tables) (n : String) (t : Chains) (c : String) (spec : Spec)
    (specs : List Spec) (h : t c = some specs) :
    Load.exec ⟨T, some (n, t)⟩ (.append c spec) =
      some ⟨T, some (n, Function.update t c (some (specs ++ [spec])))⟩ := by
  simp only [Load.exec, Option.bind_eq_bind, Option.bind_some, h]
  rfl

theorem exec_insert (T : Tables) (n : String) (t : Chains) (c : String) (spec : Spec)
    (specs : List Spec) (h : t c = some specs) :
    Load.exec ⟨T, some (n, t)⟩ (.insert c spec) =
      some ⟨T, some (n, Function.update t c (some (spec :: specs)))⟩ := by
  simp only [Load.exec, Option.bind_eq_bind, Option.bind_some, h]
  rfl

theorem foldl_append_singleton (specs new : List Spec) :
    new.foldl (fun acc spec => acc ++ [spec]) specs = specs ++ new := by
  induction new generalizing specs with
  | nil => simp
  | cons s new ih => simp [ih]

theorem foldlM_exec_body (T : Tables) (n : String) {t : Chains} (h : b.Fits t) :
    b.body.foldlM Load.exec ⟨T, some (n, t)⟩ = some ⟨T, some (n, b.result t)⟩ := by
  have hflush := foldlM_exec_flush T n (t := declared t b.chains) fun c hc => if_pos hc
  have happend := foldlM_exec_entries exec_append T n (declared t b.chains) b.appends h.1
  have hinsert := foldlM_exec_entries exec_insert T n
    (fun c => (declared t b.chains c).map fun specs => specs ++ specsFor b.appends c) b.inserts
    fun e he => by
      rw [Option.isSome_map]
      exact h.2 e he
  simp only [foldl_append_singleton] at happend
  simp only [List.foldl_flip_cons_eq_append, List.map_id'] at hinsert
  rw [Block.body, List.foldlM_append, List.foldlM_append, List.foldlM_append, foldlM_exec_declare]
  simp only [Option.bind_eq_bind, Option.bind_some, hflush, happend, hinsert]
  simp only [Option.map_map]
  rfl

theorem foldlM_exec_lines (h : b.Fits (T b.table)) :
    b.lines.foldlM Load.exec ⟨T, none⟩ =
      some ⟨Function.update T b.table (b.result (T b.table)), none⟩ := by
  have hopen : Load.exec ⟨T, none⟩ (.table b.table) = some ⟨T, some (b.table, T b.table)⟩ := rfl
  rw [Block.lines, List.foldlM_cons, hopen]
  simp only [Option.bind_eq_bind, Option.bind_some, List.foldlM_append,
    foldlM_exec_body T b.table h]
  rfl

theorem isSome_of_foldlM_entries (hmk : ∀ T n (t : Chains) c spec specs, t c = some specs →
      Load.exec ⟨T, some (n, t)⟩ (mk c spec) =
        some ⟨T, some (n, Function.update t c (some (op spec specs)))⟩)
    (hnone : ∀ T n (t : Chains) c spec, t c = none →
      Load.exec ⟨T, some (n, t)⟩ (mk c spec) = none) (T : Tables) (n : String) (t : Chains)
    (entries : List (String × Spec))
    (h : (entries.map fun e => mk e.1 e.2).foldlM Load.exec ⟨T, some (n, t)⟩ = some s) :
    ∀ e ∈ entries, (t e.1).isSome = true := by
  induction entries generalizing t with
  | nil => simp
  | cons e entries ih =>
    rw [List.map_cons, List.foldlM_cons] at h
    cases hspecs : t e.1 with
    | none =>
      rw [hnone T n t e.1 e.2 hspecs] at h
      exact absurd h (by simp)
    | some specs =>
      rw [hmk T n t e.1 e.2 specs hspecs] at h
      have hrest := ih _ h
      intro f hf
      rcases List.mem_cons.1 hf with rfl | hf
      · simp [hspecs]
      · by_cases hne : f.1 = e.1
        · simp [hne, hspecs]
        · have hsome := hrest f hf
          rwa [Function.update_of_ne hne] at hsome

theorem fits_of_foldlM_lines (h : b.lines.foldlM Load.exec ⟨T, none⟩ = some s) :
    b.Fits (T b.table) := by
  have hopen : Load.exec ⟨T, none⟩ (.table b.table) = some ⟨T, some (b.table, T b.table)⟩ := rfl
  have hflush := foldlM_exec_flush T b.table (t := declared (T b.table) b.chains)
    fun c hc => if_pos hc
  rw [Block.lines, List.foldlM_cons, hopen, Block.body] at h
  simp only [Option.bind_eq_bind, Option.bind_some, List.foldlM_append, foldlM_exec_declare,
    hflush, Option.bind_eq_some_iff] at h
  obtain ⟨s₁, ⟨s₂, happend, hinsert⟩, -⟩ := h
  have happends := isSome_of_foldlM_entries exec_append
    (fun T n t c spec hc => by simp [Load.exec, hc]) _ _ _ _ happend
  refine ⟨happends, ?_⟩
  rw [foldlM_exec_entries exec_append _ _ _ _ happends, Option.some.injEq] at happend
  subst happend
  have hinserts := isSome_of_foldlM_entries exec_insert
    (fun T n t c spec hc => by simp [Load.exec, hc]) _ _ _ _ hinsert
  simpa using hinserts

/-! ## What a broken script leaves -/

theorem tables_of_exec {l : Line} (hl : l ≠ .commit) (h : s.exec l = some s') :
    s'.tables = s.tables := by
  cases l with
  | commit => exact absurd rfl hl
  | table name =>
    unfold Load.exec at h
    cases hs : s.current <;> rw [hs] at h <;> simp at h
    rw [← h]
  | declare c =>
    simp only [Load.exec, Option.bind_eq_bind, Option.bind_eq_some_iff] at h
    obtain ⟨p, -, hp⟩ := h
    rw [← Option.some.inj hp]
  | flush c | append c spec | insert c spec =>
    simp only [Load.exec, Option.bind_eq_bind, Option.bind_eq_some_iff] at h
    obtain ⟨p, -, q, -, hq⟩ := h
    rw [← Option.some.inj hq]

theorem tables_of_foldlM_exec {ls : List Line} (hls : ∀ l ∈ ls, l ≠ .commit)
    (h : ls.foldlM Load.exec s = some s') : s'.tables = s.tables := by
  induction ls generalizing s with
  | nil =>
    obtain rfl : s = s' := by simpa using h
    rfl
  | cons l ls ih =>
    rw [List.foldlM_cons, Option.bind_eq_bind, Option.bind_eq_some_iff] at h
    obtain ⟨s₁, hl, hrest⟩ := h
    rw [ih (fun m hm => hls m (by simp [hm])) hrest, tables_of_exec (hls l (by simp)) hl]

def runBlocks (bs : List Block) (T : Tables) : Option Tables :=
  bs.foldlM (fun T b => runLines b.lines T) T

theorem foldlM_lines_eq (h : b.lines.foldlM Load.exec ⟨T, none⟩ = some s) :
    s = ⟨Function.update T b.table (b.result (T b.table)), none⟩ := by
  rw [foldlM_exec_lines (fits_of_foldlM_lines h)] at h
  exact (Option.some.inj h).symm

theorem runLines_lines (h : runLines b.lines T = some T') :
    b.Fits (T b.table) ∧ T' = Function.update T b.table (b.result (T b.table)) := by
  simp only [runLines, Option.bind_eq_bind, Option.bind_eq_some_iff] at h
  obtain ⟨s, hs, hT⟩ := h
  have hfits := fits_of_foldlM_lines hs
  rw [foldlM_lines_eq hs] at hT
  exact ⟨hfits, (Option.some.inj hT).symm⟩

theorem runLines_of_fits (h : b.Fits (T b.table)) :
    runLines b.lines T = some (Function.update T b.table (b.result (T b.table))) := by
  rw [runLines, foldlM_exec_lines h]
  rfl

theorem committed_lines (h : Committed b.lines T T') : T' = T ∨ runLines b.lines T = some T' := by
  obtain ⟨pre, hpre, s, hs, rfl⟩ := h
  have hsplit : b.lines = (.table b.table :: b.body) ++ [.commit] := rfl
  rw [hsplit, List.prefix_concat_iff] at hpre
  rcases hpre with rfl | hpre
  · right
    rw [← hsplit] at hs
    rw [runLines_of_fits (fits_of_foldlM_lines hs), foldlM_lines_eq hs]
  · left
    refine tables_of_foldlM_exec (fun l hl => ?_) hs
    have hmem := hpre.subset hl
    simp only [Block.body, List.mem_cons, List.mem_append, List.mem_map] at hmem
    grind

theorem committed_blocks (h : Committed (bs.flatMap Block.lines) T T') :
    ∃ bs', bs' <+: bs ∧ runBlocks bs' T = some T' := by
  induction bs generalizing T with
  | nil =>
    obtain ⟨pre, hpre, s, hs, rfl⟩ := h
    obtain rfl : pre = [] := List.prefix_nil.1 hpre
    obtain rfl : _ = s := by simpa using hs
    exact ⟨[], List.prefix_refl _, rfl⟩
  | cons b bs ih =>
    obtain ⟨pre, ⟨suf, hsuf⟩, s, hs, rfl⟩ := h
    rw [List.flatMap_cons] at hsuf
    rcases List.append_eq_append_iff.1 hsuf with ⟨as, hpre, -⟩ | ⟨q, rfl, hq⟩
    · rcases committed_lines ⟨pre, ⟨as, hpre.symm⟩, s, hs, rfl⟩ with hT | hT
      · exact ⟨[], List.nil_prefix, by rw [hT]; rfl⟩
      · exact ⟨[b], by simp, by simp [runBlocks, hT]⟩
    · rw [List.foldlM_append, Option.bind_eq_bind, Option.bind_eq_some_iff] at hs
      obtain ⟨s₁, hs₁, hrest⟩ := hs
      have hrun := runLines_of_fits (fits_of_foldlM_lines hs₁)
      rw [foldlM_lines_eq hs₁] at hrest
      obtain ⟨bs', hbs', hT⟩ := ih ⟨q, ⟨suf, hq.symm⟩, s, hrest, rfl⟩
      refine ⟨b :: bs', List.cons_prefix_cons.2 ⟨rfl, hbs'⟩, ?_⟩
      simpa [runBlocks, hrun] using hT

theorem runLines_blocks (bs : List Block) (T : Tables) :
    runLines (bs.flatMap Block.lines) T = runBlocks bs T := by
  induction bs generalizing T with
  | nil => rfl
  | cons b bs ih =>
    rw [List.flatMap_cons, runLines, List.foldlM_append]
    cases hb : b.lines.foldlM Load.exec ⟨T, none⟩ with
    | none => simp [runBlocks, runLines, hb]
    | some s =>
      have hrun := runLines_of_fits (fits_of_foldlM_lines hb)
      have hrest := ih (Function.update T b.table (b.result (T b.table)))
      rw [foldlM_lines_eq hb]
      simp only [runBlocks, List.foldlM_cons, hrun, Option.bind_eq_bind, Option.bind_some]
      exact hrest

/-! ## Reading a block -/

def IsChainName (c : String) : Prop := IsWord c ∧ IsLine c

instance (c : String) : Decidable (IsChainName c) := inferInstanceAs (Decidable (_ ∧ _))

structure EntryReads (t : String × String) (e : String × Spec) : Prop where
  chain : t.1 = e.1
  isChainName : IsChainName e.1
  isLine : IsLine t.2
  words : words t.2 = e.2

def blockText (table : String) (chains : List String) (appends inserts : List (String × String)) :
    List String :=
  ("*" ++ table) :: (chains.map (fun c => ":" ++ c ++ " - [0:0]") ++
    chains.map (fun c => "-F " ++ c) ++
    appends.map (fun e => "-A " ++ e.1 ++ " " ++ e.2) ++
    inserts.map (fun e => "-I " ++ e.1 ++ " 1 " ++ e.2) ++ ["COMMIT"])

variable {c : String} {t : String × String} {e : String × Spec}

theorem reads_table (h : IsChainName c) : Reads readLine ("*" ++ c) (.table c) := by
  have hword : IsWord ("*" ++ c) := ⟨by simp, by simpa using h.1.2⟩
  have hne : "*" ++ c ≠ "COMMIT" := by
    intro heq
    have hhead := congrArg (fun s : String => s.toList.head?) heq
    simp at hhead
  constructor
  · simpa [IsLine] using h.2
  · simp [words_of_isWord hword, isStatement]
  · have hhead : ("*" ++ c).toList = '*' :: c.toList := by simp
    rw [words_of_isWord hword]
    unfold readLine
    split
    case h_5 w heq =>
      simp only [List.cons.injEq, and_true] at heq
      rw [← heq, hhead]
      simp
    all_goals simp_all

theorem reads_declare (h : IsChainName c) :
    Reads readLine (":" ++ c ++ " - [0:0]") (.declare c) := by
  have hword : IsWord (":" ++ c) := ⟨by simp, by simpa using h.1.2⟩
  have hwords : words (":" ++ c ++ " - [0:0]") = [":" ++ c, "-", "[0:0]"] := by
    have htext : ":" ++ c ++ " - [0:0]" = (":" ++ c) ++ " " ++ "- [0:0]" := by
      simp only [String.append_assoc]
      rfl
    rw [htext, words_append_blank, words_of_isWord hword]
    rfl
  have hne {d : String} (hd : d.toList.head? = some '-') : ":" ++ c ≠ d := by
    rintro rfl
    simp at hd
  have hA := hne (d := "-A") (by decide)
  have hI := hne (d := "-I") (by decide)
  constructor
  · simpa [IsLine] using h.2
  · simp [hwords, isStatement]
  · have hhead : (":" ++ c).toList = ':' :: c.toList := by simp
    rw [hwords]
    unfold readLine
    split
    case h_6 w heq =>
      simp only [List.cons.injEq, and_true] at heq
      rw [← heq, hhead]
      simp
    all_goals simp_all

theorem reads_flush (h : IsChainName c) : Reads readLine ("-F " ++ c) (.flush c) :=
  (says_option (by decide) h).reads (by rfl) (by rfl)

theorem reads_append (h : EntryReads t e) :
    Reads readLine ("-A " ++ t.1 ++ " " ++ t.2) (.append e.1 e.2) := by
  rw [h.chain]
  have hentry := (says_option (o := "-A ") (by decide) h.isChainName).blank ⟨h.isLine, h.words⟩
  exact hentry.reads (by rfl) (by rfl)

theorem reads_insert (h : EntryReads t e) :
    Reads readLine ("-I " ++ t.1 ++ " 1 " ++ t.2) (.insert e.1 e.2) := by
  have htext : "-I " ++ t.1 ++ " 1 " ++ t.2 = "-I " ++ e.1 ++ " " ++ "1" ++ " " ++ t.2 := by
    apply String.toList_inj.1
    simp [h.chain]
  have hplace : Says "1" ["1"] := ⟨by decide, by decide⟩
  have hhead : Says ("-I " ++ e.1) ["-I", e.1] := says_option (by decide) h.isChainName
  rw [htext]
  exact ((hhead.blank hplace).blank ⟨h.isLine, h.words⟩).reads (by rfl) (by rfl)

theorem reads_blockText (ht : IsChainName b.table) (hc : ∀ c ∈ b.chains, IsChainName c)
    (ha : List.Forall₂ EntryReads appends b.appends)
    (hi : List.Forall₂ EntryReads inserts b.inserts) :
    List.Forall₂ (Reads readLine) (blockText b.table b.chains appends inserts) b.lines := by
  refine .cons (reads_table ht) (List.rel_append (List.rel_append (List.rel_append
    (List.rel_append ?_ ?_) ?_) ?_) (.cons ⟨by decide, by decide, by decide⟩ .nil))
  · rw [List.forall₂_map_left_iff, List.forall₂_map_right_iff, List.forall₂_same]
    exact fun c h => reads_declare (hc c h)
  · rw [List.forall₂_map_left_iff, List.forall₂_map_right_iff, List.forall₂_same]
    exact fun c h => reads_flush (hc c h)
  · rw [List.forall₂_map_left_iff, List.forall₂_map_right_iff]
    exact ha.imp fun _ _ h => reads_append h
  · rw [List.forall₂_map_left_iff, List.forall₂_map_right_iff]
    exact hi.imp fun _ _ h => reads_insert h

theorem eq_of_mem_blockText {table s : String} {chains : List String}
    (h : s ∈ blockText table chains appends inserts) (hs : s.toList.head? = some '*') :
    s = "*" ++ table := by
  simp only [blockText, List.mem_cons, List.mem_append, List.mem_map, List.not_mem_nil,
    or_false] at h
  rcases h with rfl | (((⟨c, -, rfl⟩ | ⟨c, -, rfl⟩) | ⟨e, -, rfl⟩) | ⟨e, -, rfl⟩) | rfl
  · rfl
  all_goals simp at hs

theorem load_of_readLines {script : String}
    (h : readLines readLine script = some (bs.flatMap Block.lines)) (T : Tables) :
    load script T = runBlocks bs T := by
  rw [load, h]
  exact runLines_blocks bs T

end Netfilter.Iptables
