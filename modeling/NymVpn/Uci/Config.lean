import NymVpn.Text.Numeral
import NymVpn.Text.Str

/-!
# Configurations with staged changes

A change is staged beside the file of the package; the package reads as if the staged changes
were made, and a commit makes them.
-/

namespace Uci

open Text

def isNameChar (c : Char) : Bool := c.isAlphanum || c == '_'

structure Name where
  text : String
  ne_nil : text.toList ≠ []
  isNameChar : text.toList.all isNameChar = true
deriving DecidableEq

def Name.ofString? (s : String) : Option Name :=
  if h : s.toList ≠ [] ∧ s.toList.all Uci.isNameChar = true then some ⟨s, h.1, h.2⟩ else none

theorem Name.text_inj {n n' : Name} : n.text = n'.text ↔ n = n' := by
  cases n
  cases n'
  simp

theorem Name.not_mem (n : Name) {c : Char} (hc : Uci.isNameChar c = false) : c ∉ n.text.toList := by
  intro h
  have hname := List.all_eq_true.1 n.isNameChar c h
  rw [hc] at hname
  cases hname

inductive Value where
  | string (value : String)
  | list (items : List String)
deriving DecidableEq

structure Section where
  name : Name
  anonymous : Bool
  type : String
  options : List (Name × Value)

abbrev Package := List Section

namespace Section

def get? (o : Name) (s : Section) : Option Value := s.options.lookup o

def put (o : Name) (v : Value) (s : Section) : Section :=
  if s.options.any (·.1 = o) then
    { s with options := s.options.map fun e => if e.1 = o then (o, v) else e }
  else { s with options := s.options ++ [(o, v)] }

def erase (o : Name) (s : Section) : Section :=
  { s with options := s.options.filter (·.1 ≠ o) }

def addItem (o : Name) (v : String) (s : Section) : Section :=
  match s.get? o with
  | none => s.put o (.list [v])
  | some (.string w) => s.put o (.list [w, v])
  | some (.list ws) => s.put o (.list (ws ++ [v]))

def dropItems (o : Name) (v : String) (s : Section) : Section :=
  match s.get? o with
  | some (.list ws) => s.put o (.list (ws.filter (· ≠ v)))
  | _ => s

def eraseItem (o : Name) (i : ℕ) (s : Section) : Section :=
  match s.get? o with
  | some (.list ws) => s.put o (.list (ws.eraseIdx i))
  | _ => s.erase o

def renameOption (o o' : Name) (s : Section) : Section :=
  { s with options := s.options.map fun e => if e.1 = o then (o', e.2) else e }

end Section

/-! ## Changes -/

inductive Change where
  | add (name : Name) (type : String)
  | setSection (name : Name) (type : String)
  | set (name option : Name) (value : String)
  | remove (name : Name)
  | removeOption (name option : Name)
  | removeItem (name option : Name) (index : ℕ)
  | rename (name newName : Name)
  | renameOption (name option newName : Name)
  | reorder (name : Name) (index : ℕ)
  | addList (name option : Name) (value : String)
  | dropList (name option : Name) (value : String)
deriving DecidableEq

namespace Package

def modify (n : Name) (f : Section → Section) (p : Package) : Package :=
  p.map fun s => if s.name = n then f s else s

def setSection (n : Name) (anonymous : Bool) (type : String) (p : Package) : Package :=
  if p.any (·.name = n) then p.modify n ({ · with type }) else p ++ [⟨n, anonymous, type, []⟩]

def reorder (n : Name) (i : ℕ) (p : Package) : Package :=
  match p.find? (·.name = n) with
  | none => p
  | some s =>
    let others := p.filter (·.name ≠ n)
    others.take i ++ s :: others.drop i

def apply (p : Package) : Change → Package
  | .add n type => p.setSection n true type
  | .setSection n type => p.setSection n false type
  | .set n o v => p.modify n (·.put o (.string v))
  | .remove n => p.filter (·.name ≠ n)
  | .removeOption n o => p.modify n (·.erase o)
  | .removeItem n o i => p.modify n (·.eraseItem o i)
  | .rename n n' => p.modify n ({ · with name := n' })
  | .renameOption n o o' => p.modify n (·.renameOption o o')
  | .reorder n i => p.reorder n i
  | .addList n o v => p.modify n (·.addItem o v)
  | .dropList n o v => p.modify n (·.dropItems o v)

end Package

/-! ## Printing -/

/-- A quote inside a quoted text ends it, stands escaped, and opens it again. -/
def escape (cs : List Char) : List Char :=
  cs.flatMap fun c => if c = '\'' then ['\'', '\\', '\'', '\''] else [c]

def quote (s : String) : String := .ofList ('\'' :: escape s.toList ++ ['\''])

/-- A change as it is listed: the sign of a removal, the section, the option, and an
operator with a value. -/
structure Listed where
  removal : Bool
  name : Name
  option : Option Name
  assigned : Option (String × String)

namespace Change

def listed : Change → Listed
  | .add n type => ⟨false, n, none, some ("=", type)⟩
  | .setSection n type => ⟨false, n, none, some ("=", type)⟩
  | .set n o v => ⟨false, n, some o, some ("=", v)⟩
  | .remove n => ⟨true, n, none, none⟩
  | .removeOption n o => ⟨true, n, some o, none⟩
  | .removeItem n o i => ⟨true, n, some o, some ("=", decimal i)⟩
  | .rename n n' => ⟨false, n, none, some ("=", n'.text)⟩
  | .renameOption n o o' => ⟨false, n, some o, some ("=", o'.text)⟩
  | .reorder n i => ⟨false, n, none, some ("=", decimal i)⟩
  | .addList n o v => ⟨false, n, some o, some ("+=", v)⟩
  | .dropList n o v => ⟨false, n, some o, some ("-=", v)⟩

def name (c : Change) : Name := c.listed.name

def option (c : Change) : Option Name := c.listed.option

end Change

def Listed.text (package : String) (l : Listed) : String :=
  (if l.removal then "-" else "") ++ package ++ "." ++ l.name.text ++ (match l.option with
      | none => ""
      | some o => "." ++ o.text) ++
    match l.assigned with
    | none => ""
    | some (operator, value) => operator ++ quote value

def changesText (package : String) (staged : List Change) : String :=
  unlines (staged.map fun c => c.listed.text package)

def Value.lines (o : Name) : Value → List String
  | .string v => ["\toption " ++ o.text ++ " " ++ quote v]
  | .list vs => vs.map fun v => "\tlist " ++ o.text ++ " " ++ quote v

def Section.lines (s : Section) : List String :=
  ["", "config " ++ s.type ++ if s.anonymous then "" else " " ++ quote s.name.text] ++
    s.options.flatMap fun e => e.2.lines e.1

def Package.text (p : Package) : String := unlines (p.flatMap Section.lines)

/-! ## State -/

structure ConfigFile where
  text : String
  package : Package

def ConfigFile.ofPackage (p : Package) : ConfigFile := ⟨p.text, p⟩

structure State where
  file : ConfigFile
  staged : List Change

inductive Ref where
  | named (name : String)
  | first (type : String)

namespace State

def package (s : State) : Package := s.staged.foldl Package.apply s.file.package

def resolve (s : State) : Ref → Option Section
  | .named n => s.package.find? (·.name.text = n)
  | .first type => s.package.find? (·.type = type)

def resolveName (s : State) : Ref → Option String
  | .named n => some n
  | .first type => (s.resolve (.first type)).map (·.name.text)

def stage (c : Change) (s : State) : State := { s with staged := s.staged ++ [c] }

def concerns (n : String) (o : Option Name) (c : Change) : Bool :=
  c.name.text = n && (o = none || c.option = o)

theorem concerns_some {n : String} {o : Name} {c : Change} :
    concerns n (some o) c = true ↔ c.name.text = n ∧ c.option = some o := by
  simp [concerns]

theorem any_concerns_some {ns : List String} {o : Name} {c : Change} :
    (ns.any fun n => concerns n (some o) c) = true ↔ c.name.text ∈ ns ∧ c.option = some o := by
  simp only [List.any_eq_true, concerns_some]
  constructor
  · rintro ⟨n, hn, rfl, ho⟩
    exact ⟨hn, ho⟩
  · rintro ⟨hn, ho⟩
    exact ⟨_, hn, rfl, ho⟩

def revert (n : String) (o : Option Name) (s : State) : State :=
  { s with staged := s.staged.filter fun c => !concerns n o c }

def commit (s : State) : State :=
  if s.staged = [] then s else { file := .ofPackage s.package, staged := [] }

end State

/-! ## Commands -/

inductive Command where
  | changes
  | revert (ref : Ref) (option : Option Name)
  | commit
  | set (ref : Ref) (option : Option Name) (value : String)
  | addList (ref : Ref) (option : Name) (value : String)
  | delete (ref : Ref) (option : Option Name)
  | get (ref : Ref) (option : Option Name)
  | show

abbrev Answer (_ : Command) : Type := Except String String

namespace State

variable (package : String)

def valueText : Value → String
  | .string v => v
  | .list vs => String.intercalate " " vs

def showText (s : State) : String :=
  unlines (s.package.flatMap fun sec =>
    (package ++ "." ++ sec.name.text ++ "=" ++ sec.type) :: sec.options.map fun e =>
        package ++ "." ++ sec.name.text ++ "." ++ e.1.text ++ "=" ++ match e.2 with
          | .string v => quote v
          | .list vs => String.intercalate " " (vs.map quote))

/-- What a command prints and leaves, or nothing when what it names is not there. -/
@[grind =] def perform (s : State) : Command → Option (String × State)
  | .changes => some (changesText package s.staged, s)
  | .revert r o => (s.resolveName r).map fun n => ("", s.revert n o)
  | .commit => some ("", s.commit)
  | .set r (some o) v => (s.resolve r).map fun sec => ("", s.stage (.set sec.name o v))
  | .set (.named n) none v => (Name.ofString? n).map fun n => ("", s.stage (.setSection n v))
  | .set (.first type) none v =>
    (s.resolve (.first type)).map fun sec => ("", s.stage (.setSection sec.name v))
  | .addList r o v => (s.resolve r).map fun sec => ("", s.stage (.addList sec.name o v))
  | .delete r none => (s.resolve r).map fun sec => ("", s.stage (.remove sec.name))
  | .delete r (some o) => do
    let sec ← s.resolve r
    let _ ← sec.get? o
    return ("", s.stage (.removeOption sec.name o))
  | .get r none => (s.resolve r).map fun sec => (sec.type ++ "\n", s)
  | .get r (some o) => do
    let sec ← s.resolve r
    let v ← sec.get? o
    return (valueText v ++ "\n", s)
  | .show => some (s.showText package, s)

/-- How a command can end. One that fails does nothing, but for a revert, which may not
say what it did. -/
inductive Runs (s : State) : Command → Except String String → State → Prop where
  | done {c : Command} {printed : String} {s' : State}
      (h : s.perform package c = some (printed, s')) : Runs s c (.ok printed) s'
  | failed {c : Command} (message : String) : Runs s c (.error message) s
  | revertSkipped {r : Ref} {o : Option Name} : Runs s (.revert r o) (.ok "") s
  | revertDenied {r : Ref} {o : Option Name} {printed : String} {s' : State} (message : String)
      (h : s.perform package (.revert r o) = some (printed, s')) :
      Runs s (.revert r o) (.error message) s'

end State

structure Entry where
  command : Command
  answer : Except String String
  before : State

structure World where
  state : State
  journal : List Entry

def World.Goes (package : String) (c : Command) (w : World) (r : Answer c) (w' : World) : Prop :=
  ∃ s', w.state.Runs package c r s' ∧ w' = ⟨s', w.journal ++ [⟨c, r, w.state⟩]⟩

/-! ## What a command can do -/

section Inversion

variable {package : String} {s s' : State} {r : Except String String} {o : Option Name} {ref : Ref}

theorem State.Runs.done_or_failed {c : Command} (h : s.Runs package c r s')
    (hc : ∀ ref o, c ≠ .revert ref o) :
    (∃ printed, r = .ok printed ∧ s.perform package c = some (printed, s')) ∨
      (∃ message, r = .error message) ∧ s' = s := by
  cases h with
  | done h => exact Or.inl ⟨_, rfl, h⟩
  | failed message => exact Or.inr ⟨⟨message, rfl⟩, rfl⟩
  | revertSkipped | revertDenied message _ => exact absurd rfl (hc _ _)

theorem State.Runs.changes (h : s.Runs package .changes r s') :
    s' = s ∧ ∀ printed, r = .ok printed → printed = changesText package s.staged := by
  obtain ⟨printed, rfl, hperform⟩ | ⟨⟨message, rfl⟩, rfl⟩ := h.done_or_failed nofun
  · obtain ⟨rfl, rfl⟩ := Prod.mk.inj (Option.some.inj hperform)
    exact ⟨rfl, fun _ h => (Except.ok.inj h).symm⟩
  · exact ⟨rfl, nofun⟩

theorem State.Runs.revert {n : String}
    (h : s.Runs package (.revert (.named n) o) r s') : s' = s ∨ s' = s.revert n o := by
  have hperform {printed : String} (h : s.perform package (.revert (.named n) o) =
      some (printed, s')) : s' = s.revert n o := by
    simp only [State.perform, State.resolveName, Option.map_some, Option.some.injEq,
      Prod.mk.injEq] at h
    exact h.2.symm
  cases h with
  | done h | revertDenied message h => exact Or.inr (hperform h)
  | failed message | revertSkipped => exact Or.inl rfl

theorem State.Runs.commit (h : s.Runs package .commit r s') :
    (∃ printed, r = .ok printed) ∧ s' = s.commit ∨ (∃ message, r = .error message) ∧ s' = s := by
  refine (h.done_or_failed nofun).imp_left ?_
  rintro ⟨printed, rfl, hperform⟩
  exact ⟨⟨printed, rfl⟩, (Prod.mk.inj (Option.some.inj hperform)).2.symm⟩

theorem State.Runs.set {n v : String} {o : Name}
    (h : s.Runs package (.set (.named n) (some o) v) r s') :
    (∃ n' : Name, n'.text = n ∧ s' = s.stage (.set n' o v)) ∨
      (∃ message, r = .error message) ∧ s' = s := by
  refine (h.done_or_failed nofun).imp_left ?_
  rintro ⟨printed, rfl, hperform⟩
  obtain ⟨sec, hsec, heq⟩ := Option.map_eq_some_iff.1 hperform
  exact ⟨sec.name, by simpa using List.find?_some hsec, (Prod.mk.inj heq).2.symm⟩

theorem State.perform_get {printed : String}
    (h : s.perform package (.get ref o) = some (printed, s')) : s' = s := by
  cases o with
  | none =>
    simp only [State.perform, Option.map_eq_some_iff, Prod.mk.injEq] at h
    obtain ⟨_, _, _, rfl⟩ := h
    rfl
  | some o =>
    simp only [State.perform, Option.bind_eq_bind, Option.bind_eq_some_iff, Option.pure_def,
      Option.some.injEq, Prod.mk.injEq] at h
    obtain ⟨_, _, _, _, _, rfl⟩ := h
    rfl

theorem State.Runs.delete {o : Name} (h : s.Runs package (.delete ref (some o)) r s') :
    (∃ printed, r = .ok printed) ∧ (∃ sec, s.resolve ref = some sec ∧ sec.get? o ≠ none ∧
      s' = s.stage (.removeOption sec.name o)) ∨ (∃ message, r = .error message) ∧ s' = s := by
  refine (h.done_or_failed nofun).imp_left ?_
  rintro ⟨printed, rfl, hperform⟩
  simp only [State.perform, Option.bind_eq_bind, Option.bind_eq_some_iff, Option.pure_def,
    Option.some.injEq, Prod.mk.injEq] at hperform
  obtain ⟨sec, hsec, v, hv, -, rfl⟩ := hperform
  exact ⟨⟨printed, rfl⟩, sec, hsec, by simp [hv], rfl⟩

end Inversion

theorem State.package_commit (s : State) : s.commit.file.package = s.package := by
  unfold State.commit
  split
  · next h => rw [State.package, h, List.foldl_nil]
  · rfl

theorem State.package_stage (s : State) (c : Change) : (s.stage c).package = s.package.apply c := by
  rw [State.package, State.stage, List.foldl_append]
  rfl

theorem State.staged_commit (s : State) : s.commit.staged = [] := by
  unfold State.commit
  split
  · assumption
  · rfl

end Uci
