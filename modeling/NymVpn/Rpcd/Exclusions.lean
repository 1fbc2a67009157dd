import Mathlib.Data.List.Nodup
import NymVpn.Rpcd.Regen
import NymVpn.Uci.Listing

/-!
# The exclusions of a listing

Which exclusions a text shows is said of its lines: one declares a section, and for each
option the last line sets it. The reader takes these, whatever the text; those of a listing
are those of the package as long as no value has a line break.
-/

namespace Rpcd

open Text Uci

/-! ## What the lines say -/

def Declares (sid line : String) : Prop :=
  ∃ value, line = "nym-vpn." ++ sid ++ "=" ++ value ∧ trimMatches '\'' value = "exclusion" ∧
    '=' ∉ sid.toList ∧ '.' ∉ sid.toList

def Sets (sid opt value line : String) : Prop :=
  ∃ raw, line = "nym-vpn." ++ (sid ++ "." ++ opt) ++ "=" ++ raw ∧ trimMatches '\'' raw = value ∧
    '=' ∉ (sid ++ "." ++ opt).toList ∧ '.' ∉ sid.toList

/-- The last line that sets the option gives it the value. -/
def Shows (ls : List String) (sid opt value : String) : Prop :=
  ∃ before line after, ls = before ++ line :: after ∧ Sets sid opt value line ∧
    ∀ l ∈ after, ∀ v, ¬Sets sid opt v l

/-- Not empty, and without quotes, blanks and backslashes. -/
structure IsPlain (text : String) : Prop where
  ne_nil : text.toList ≠ []
  chars : ∀ c ∈ text.toList, c.isAlphanum = true ∨ c ∈ [':', '-', '.']

/-- A kind of target: the type of its exclusions, and the option with its value. -/
structure TargetKind where
  type : String
  option : String
  Valid : String → Prop
  isPlain_type : IsPlain type
  isPlain : ∀ raw, Valid raw → IsPlain raw

/-- The line declares an enabled exclusion of the kind, with a valid value. -/
def TargetKind.Line (k : TargetKind) (ls : List String) (line target : String) : Prop :=
  ∃ sid, Declares sid line ∧ Shows ls sid "type" k.type ∧ ¬Shows ls sid "enabled" "0" ∧
    ∃ raw, Shows ls sid k.option raw ∧ k.Valid raw ∧ target = asciiLowercase raw

/-! ## What is read of them -/

section Reader

variable {line sid opt value : String} {ls : List String}

def lineEntry (line : String) : Option (String × String) :=
  (stripStart "nym-vpn." line).bind (splitOnce '=')

def declared (line : String) : Option String := do
  let (path, value) ← lineEntry line
  if '.' ∉ path.toList ∧ trimMatches '\'' value = "exclusion" then some path else none

def setting (line : String) : Option ((String × String) × String) := do
  let (path, value) ← lineEntry line
  let entry ← splitOnce '.' path
  return (entry, trimMatches '\'' value)

variable {shown : Shown} {target : String}

end Reader

def printed : Value → String
  | .string v => quote v
  | .list vs => String.intercalate " " (vs.map quote)

def headerLine (sec : Section) : String := "nym-vpn." ++ sec.name.text ++ "=" ++ sec.type

def optionLine (sec : Section) (e : Name × Value) : String :=
  "nym-vpn." ++ (sec.name.text ++ "." ++ e.1.text) ++ "=" ++ printed e.2

def listed (sec : Section) : List String :=
  headerLine sec :: sec.options.map (optionLine sec)

def texts : Value → List String
  | .string v => [v]
  | .list vs => vs

/-- The names of the sections differ, and those of the options of each. -/
structure Distinct (p : Package) : Prop where
  sections : (p.map (·.name)).Nodup
  options : ∀ sec ∈ p, (sec.options.map Prod.fst).Nodup

section Package

variable {p : Package} {sec : Section} {sid opt value : String}

end Package

/-! ## What a package configures -/

open Netfilter.Nft

end Rpcd
