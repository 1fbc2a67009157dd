import NymVpn.Serde.Json
import NymVpn.Text.Str

/-!
# The boot guard

Before the daemon has run, the scripts of the firewall decide whether to block the router:
from the stop marker, the start link of the daemon, and two keys of its settings file, read
with `jsonfilter` or else by a scan of the text.
-/

namespace NymFirewall.BootGuard

open Serde Text

inductive SettingsFile where
  | unreadable
  | text (s : String)

structure BootState where
  stopped : Bool
  runtimeDirTrusted : Bool
  enabledAtBoot : Bool
  hasJsonfilter : Bool
  config : Option SettingsFile

/-! ## The two keys -/

/-- What is printed for a key: its value, that it is missing, or neither. -/
inductive ConfigBool where
  | yes
  | no
  | absent
  | unknown
deriving DecidableEq

namespace ConfigBool

def ofBool (b : Bool) : ConfigBool := if b then .yes else .no

def display : ConfigBool → String
  | .yes => "true"
  | .no => "false"
  | .absent => "absent"
  | .unknown => "unknown"

def ofOutput (output : String) : ConfigBool :=
  match String.ofList (dropEnd (· == '\n') output.toList) with
  | "true" => .yes
  | "false" => .no
  | "" => .absent
  | _ => .unknown

/-- `jsonfilter` prints a string as its bare text. -/
def ofJson : Json → ConfigBool
  | .bool b => ofBool b
  | .str s => ofOutput s
  | _ => .unknown

end ConfigBool

/-- The value at `@.key`; of a repeated key the last one stays. -/
def jsonfilter (key : String) : Json → Option Json
  | .obj entries => (valuesOf key entries).getLast?
  | _ => none

def isSpace (c : Char) : Bool :=
  c == ' ' || c == '\t' || c == '\n' || c == '\x0b' || c == '\x0c' || c == '\r'

def quoted (key : String) : List Char := '"' :: key.toList ++ ['"']

def boolAt (key : String) (cs : List Char) : Option Bool := do
  let rest ← dropStart (quoted key) cs
  let rest ← dropStart [':'] (rest.dropWhile isSpace)
  let value := rest.dropWhile isSpace
  if "true".toList.isPrefixOf value then some true
  else if "false".toList.isPrefixOf value then some false
  else none

-- Two matches never overlap: the second quote of one is not the first quote of another.
def boolsIn (key : String) (text : String) : List Bool :=
  (lines text).flatMap fun line => line.toList.tails.filterMap (boolAt key)

/-- The scan is believed when the key is given one value. -/
def scan (key : String) (text : String) : ConfigBool :=
  match boolsIn key text with
  | [] => if hasPart (quoted key) text.toList then .unknown else .absent
  | [b] => .ofBool b
  | _ => .unknown

namespace SettingsFile

variable (parse : String → Option Json)

def json? : SettingsFile → Option Json
  | .unreadable => none
  | .text s => parse s

def filtered (key : String) (file : SettingsFile) : ConfigBool :=
  match (file.json? parse).bind (jsonfilter key) with
  | some j => .ofJson j
  | none => .absent

def scanned (key : String) : SettingsFile → ConfigBool
  | .unreadable => .absent
  | .text s => scan key s

end SettingsFile

section Guard

variable (parse : String → Option Json)

def nymConfigBool (key : String) (b : BootState) : ConfigBool :=
  match b.config with
  | none => .absent
  | some file => if b.hasJsonfilter then file.filtered parse key else file.scanned key

/-! ## The verdict -/

/-- The verdict with its reason. -/
structure Verdict where
  wanted : Bool
  reason : String

/-- Only an explicit `false` opens, and only an explicit `true` forces legacy off. -/
def nymBootBlockWanted (b : BootState) : Verdict :=
  if b.stopped && b.runtimeDirTrusted then
    ⟨false, "nym-vpnd was stopped by the administrator (/var/run/nym-firewall/stopped present)"⟩
  else if !b.enabledAtBoot then
    ⟨false, "nym-vpnd is not enabled to start at boot (no /etc/rc.d/S*nym-vpnd)"⟩
  else
    let killswitch := nymConfigBool parse "killswitch" b
    if killswitch = .no then ⟨false, "kill-switch is off in /etc/nym/nym-vpnd.json"⟩
    else
      let legacy := nymConfigBool parse "legacy_split_tunnel" b
      if legacy = .yes then ⟨false, "legacy split tunnelling forces the kill-switch off"⟩
      else
        ⟨true, "kill-switch on (config: killswitch=" ++ killswitch.display ++
          ", legacy_split_tunnel=" ++ legacy.display ++
          "), nym-vpnd enabled at boot, no policy applied yet"⟩

end Guard

/-! ## Where the keys stand -/

section Keys

variable {key : String} {v : Bool} {cs : List Char}

def spelling (v : Bool) : List Char := if v then "true".toList else "false".toList

/-- The key, a colon and the value stand at the start of the text. -/
def AssignsAt (key : String) (v : Bool) (cs : List Char) : Prop :=
  ∃ blanks blanks' rest, cs = quoted key ++ (blanks ++ ':' :: (blanks' ++ (spelling v ++ rest))) ∧
    (∀ c ∈ blanks, isSpace c = true) ∧ ∀ c ∈ blanks', isSpace c = true

def lineEnds (text : String) : List (List Char) := (lines text).flatMap fun line => line.toList.tails

/-- At one place of the text the key is given the value, and at no other a value at all. -/
def TextAssigns (key : String) (v : Bool) (text : String) : Prop :=
  ∃ before cs after, lineEnds text = before ++ cs :: after ∧ AssignsAt key v cs ∧
    ∀ other ∈ before ++ after, ∀ v', ¬AssignsAt key v' other

/-- The value, or a string that spells it, with line breaks after it. -/
def Spells (v : Bool) : Json → Prop
  | .bool b => b = v
  | .str s => ∃ n, s.toList = spelling v ++ List.replicate n '\n'
  | _ => False

/-- The document is an object, and spells the value where the key stands last. -/
def DocumentAssigns (key : String) (v : Bool) (document : Option Json) : Prop :=
  ∃ before j after, document = some (.obj (before ++ (key, j) :: after)) ∧
    (∀ e ∈ after, e.1 ≠ key) ∧ Spells v j

theorem exists_spelling_append_iff {value : List Char} :
    (if "true".toList.isPrefixOf value then some true
      else if "false".toList.isPrefixOf value then some false else none) = some v ↔
      ∃ rest, value = spelling v ++ rest := by
  have hexcl : ¬("true".toList <+: value ∧ "false".toList <+: value) := by
    rintro ⟨⟨rest, rfl⟩, h⟩
    cases (List.cons_prefix_cons.1 h).1
  simp only [List.isPrefixOf_iff_prefix]
  have hstart : (∃ rest, value = spelling v ++ rest) ↔ spelling v <+: value :=
    exists_congr fun _ => eq_comm
  rw [hstart]
  cases v <;> by_cases htrue : "true".toList <+: value <;>
    by_cases hfalse : "false".toList <+: value <;> simp_all [spelling]

theorem dropWhile_isSpace {blanks : List Char} (h : ∀ c ∈ blanks, isSpace c = true) {c : Char}
    (hc : isSpace c = false) (cs : List Char) :
    (blanks ++ c :: cs).dropWhile isSpace = c :: cs := by
  rw [List.dropWhile_append_of_pos h, List.dropWhile_cons_of_neg (by simp [hc])]

theorem boolAt_eq_some_iff : boolAt key cs = some v ↔ AssignsAt key v cs := by
  simp only [boolAt, Option.bind_eq_bind, Option.bind_eq_some_iff, dropStart_eq_some_iff,
    exists_spelling_append_iff]
  constructor
  · rintro ⟨rest, rfl, rest', hcolon, rest'', hvalue⟩
    refine ⟨rest.takeWhile isSpace, rest'.takeWhile isSpace, rest'', ?_,
      fun c => List.mem_takeWhile_imp, fun c => List.mem_takeWhile_imp⟩
    rw [← hvalue, List.takeWhile_append_dropWhile, ← List.singleton_append, ← hcolon,
      List.takeWhile_append_dropWhile]
  · rintro ⟨blanks, blanks', rest, rfl, hblanks, hblanks'⟩
    refine ⟨_, rfl, _, dropWhile_isSpace hblanks (by decide) _, rest, ?_⟩
    cases v with
    | false | true => exact dropWhile_isSpace hblanks' (by decide) _

theorem boolsIn_eq_singleton_iff {text : String} :
    boolsIn key text = [v] ↔ TextAssigns key v text := by
  have hbools : boolsIn key text = (lineEnds text).filterMap (boolAt key) := by
    rw [boolsIn, lineEnds, List.filterMap_flatMap]
  have hnone (cs : List Char) : boolAt key cs = none ↔ ∀ v', ¬AssignsAt key v' cs := by
    simp only [Option.eq_none_iff_forall_ne_some, Ne, boolAt_eq_some_iff]
  rw [hbools, List.filterMap_eq_cons_iff]
  simp only [List.filterMap_eq_nil_iff, boolAt_eq_some_iff, hnone]
  constructor
  · rintro ⟨before, cs, after, hends, hbefore, hcs, hafter⟩
    exact ⟨before, cs, after, hends, hcs, List.forall_mem_append.2 ⟨hbefore, hafter⟩⟩
  · rintro ⟨before, cs, after, hends, hcs, hothers⟩
    obtain ⟨hbefore, hafter⟩ := List.forall_mem_append.1 hothers
    exact ⟨before, cs, after, hends, hbefore, hcs, hafter⟩

theorem scan_eq_ofBool_iff {text : String} :
    scan key text = .ofBool v ↔ TextAssigns key v text := by
  rw [← boolsIn_eq_singleton_iff, scan]
  split
  · next h => split <;> cases v <;> simp [h, ConfigBool.ofBool]
  · next b h => cases b <;> cases v <;> simp [h, ConfigBool.ofBool]
  · next hnil hone => 
      have hne : boolsIn key text ≠ [v] := hone v
      cases v <;> simp [hne, ConfigBool.ofBool]

theorem ofOutput_eq_ofBool_iff {s : String} :
    ConfigBool.ofOutput s = .ofBool v ↔ ∃ n, s.toList = spelling v ++ List.replicate n '\n' := by
  have hstripped : ConfigBool.ofOutput s = .ofBool v ↔
      dropEnd (· == '\n') s.toList = spelling v := by
    unfold ConfigBool.ofOutput
    generalize dropEnd _ s.toList = l
    have hl (t : String) : String.ofList l = t ↔ l = t.toList := by
      rw [← String.toList_inj, String.toList_ofList]
    split
    · next h => rw [(hl _).1 h]; cases v <;> decide
    · next h => rw [(hl _).1 h]; cases v <;> decide
    · next h => rw [(hl _).1 h]; cases v <;> decide
    · next htrue hfalse _ =>
        cases v with
        | true => exact iff_of_false (by decide) fun h => htrue ((hl _).2 h)
        | false => exact iff_of_false (by decide) fun h => hfalse ((hl _).2 h)
  rw [hstripped]
  constructor
  · intro h
    obtain ⟨z, hz, hnewline⟩ := exists_eq_dropEnd_append (· == '\n') s.toList
    refine ⟨z.length, ?_⟩
    rw [h] at hz
    rw [hz, ← List.eq_replicate_of_mem fun c hc => by simpa using hnewline c hc]
  · rintro ⟨n, h⟩
    rw [h, dropEnd, List.reverse_append, List.dropWhile_append_of_pos (by simp)]
    cases v <;> rfl

theorem ofJson_eq_ofBool_iff {j : Json} : ConfigBool.ofJson j = .ofBool v ↔ Spells v j := by
  cases j with
  | bool b => cases b <;> cases v <;> simp [ConfigBool.ofJson, ConfigBool.ofBool, Spells]
  | str s => exact ofOutput_eq_ofBool_iff
  | _ => cases v <;> simp [ConfigBool.ofJson, ConfigBool.ofBool, Spells]

theorem getLast?_valuesOf_iff {entries : List (String × Json)} {j : Json} :
    (valuesOf key entries).getLast? = some j ↔
      ∃ before after, entries = before ++ (key, j) :: after ∧ ∀ e ∈ after, e.1 ≠ key := by
  have hvalue (e : String × Json) :
      (if e.1 = key then some e.2 else none) = some j ↔ e = (key, j) := by
    rw [Option.ite_none_right_eq_some, Option.some.injEq, Prod.ext_iff]
  simp only [List.getLast?_eq_some_iff, valuesOf, List.filterMap_eq_append_iff,
    List.filterMap_eq_cons_iff, List.filterMap_eq_nil_iff, hvalue, ite_eq_right_iff, reduceCtorEq,
    imp_false]
  constructor
  · rintro ⟨_, l, _, rfl, -, before, _, after, rfl, -, rfl, hafter⟩
    exact ⟨l ++ before, after, by simp, hafter⟩
  · rintro ⟨before, after, rfl, hafter⟩
    exact ⟨_, before, _, rfl, rfl, [], _, after, rfl, nofun, rfl, hafter⟩

theorem filtered_eq_ofBool_iff {parse : String → Option Json} {file : SettingsFile} :
    file.filtered parse key = .ofBool v ↔ DocumentAssigns key v (file.json? parse) := by
  have hfound : file.filtered parse key = .ofBool v ↔
      ∃ j, (file.json? parse).bind (jsonfilter key) = some j ∧ Spells v j := by
    unfold SettingsFile.filtered
    cases (file.json? parse).bind (jsonfilter key) with
    | none => cases v <;> simp [ConfigBool.ofBool]
    | some j => simp [ofJson_eq_ofBool_iff]
  rw [hfound]
  constructor
  · rintro ⟨j, hj, hspells⟩
    obtain ⟨document, hdocument, hlast⟩ := Option.bind_eq_some_iff.1 hj
    cases document with
    | obj entries =>
      obtain ⟨before, after, rfl, hafter⟩ := getLast?_valuesOf_iff.1 hlast
      exact ⟨before, j, after, hdocument, hafter, hspells⟩
    | _ => cases hlast
  · rintro ⟨before, j, after, hdocument, hafter, hspells⟩
    refine ⟨j, ?_, hspells⟩
    rw [hdocument, Option.bind_some]
    exact getLast?_valuesOf_iff.2 ⟨before, after, rfl, hafter⟩

end Keys

section Verdict

variable (parse : String → Option Json)

/-- The settings file gives the key the value: the document does where `jsonfilter` is
installed, else the text. -/
def BootState.Assigns (b : BootState) (key : String) (v : Bool) : Prop :=
  match b.config with
  | none => False
  | some .unreadable => False
  | some (.text s) =>
    if b.hasJsonfilter then DocumentAssigns key v (parse s) else TextAssigns key v s

def BootState.SaysOff (b : BootState) : Prop :=
  b.Assigns parse "killswitch" false ∨ b.Assigns parse "legacy_split_tunnel" true

variable {parse}

theorem nymConfigBool_eq_ofBool_iff {b : BootState} {key : String} {v : Bool} :
    nymConfigBool parse key b = .ofBool v ↔ b.Assigns parse key v := by
  unfold nymConfigBool BootState.Assigns
  match b.config with
  | none => cases v <;> simp [ConfigBool.ofBool]
  | some .unreadable =>
    cases b.hasJsonfilter <;> cases v <;>
      simp [ConfigBool.ofBool, SettingsFile.filtered, SettingsFile.json?, SettingsFile.scanned]
  | some (.text s) =>
    cases b.hasJsonfilter with
    | true => exact filtered_eq_ofBool_iff
    | false => exact scan_eq_ofBool_iff

theorem saysOff_iff {b : BootState} :
    b.SaysOff parse ↔ nymConfigBool parse "killswitch" b = .no ∨
      nymConfigBool parse "legacy_split_tunnel" b = .yes :=
  or_congr nymConfigBool_eq_ofBool_iff.symm nymConfigBool_eq_ofBool_iff.symm

theorem wanted_iff {b : BootState} :
    (nymBootBlockWanted parse b).wanted = true ↔
      ¬(b.stopped = true ∧ b.runtimeDirTrusted = true) ∧ b.enabledAtBoot = true ∧
        ¬b.SaysOff parse := by
  rw [saysOff_iff]
  by_cases hstopped : b.stopped = true ∧ b.runtimeDirTrusted = true
  · simp [nymBootBlockWanted, hstopped]
  by_cases henabled : b.enabledAtBoot = true
  · by_cases hkill : nymConfigBool parse "killswitch" b = .no <;>
      by_cases hlegacy : nymConfigBool parse "legacy_split_tunnel" b = .yes <;>
        simp [nymBootBlockWanted, hstopped, henabled, hkill, hlegacy]
  · simp [nymBootBlockWanted, hstopped, henabled]

end Verdict

end NymFirewall.BootGuard
