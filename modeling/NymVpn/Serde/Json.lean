import Mathlib.Data.Int.Notation
import Mathlib.Data.List.Basic

/-!
# JSON values and derived (de)serialization

A record is an object whose unknown keys are skipped and whose known keys may not repeat, or
an array of its fields in order; an enumeration names its variant, a tagged one beside the
fields of the record. Reading fails with `none`.
-/

namespace Serde

inductive Json where
  | null
  | bool (b : Bool)
  | int (n : ℤ)
  /-- A number that is no machine integer. -/
  | float (text : String)
  | str (s : String)
  | arr (elements : List Json)
  | obj (entries : List (String × Json))

class Serialize (α : Type) where
  toJson : α → Json

class Deserialize (α : Type) where
  fromJson : Json → Option α

export Serialize (toJson)
export Deserialize (fromJson)

class RoundTrips (α : Type) [Serialize α] [Deserialize α] : Prop where
  fromJson_toJson (a : α) : fromJson (toJson a) = some a

export RoundTrips (fromJson_toJson)

attribute [simp] RoundTrips.fromJson_toJson

/-! ## Plain values -/

instance : Serialize Bool := ⟨.bool⟩

instance : Deserialize Bool where
  fromJson
    | .bool b => some b
    | _ => none

instance : RoundTrips Bool := ⟨fun _ => rfl⟩

instance : Serialize String := ⟨.str⟩

instance : Deserialize String where
  fromJson
    | .str s => some s
    | _ => none

instance : RoundTrips String := ⟨fun _ => rfl⟩

def readUnsigned (size : ℕ) : Json → Option ℕ
  | .int n => if 0 ≤ n ∧ n < size then some n.toNat else none
  | _ => none

theorem readUnsigned_int {size n : ℕ} (h : n < size) : readUnsigned size (.int n) = some n := by
  have : 0 ≤ (n : ℤ) ∧ (n : ℤ) < size := ⟨by omega, by omega⟩
  simp [readUnsigned, this]

instance : Serialize UInt8 := ⟨fun n => .int n.toNat⟩

instance : Deserialize UInt8 := ⟨fun j => (readUnsigned UInt8.size j).map .ofNat⟩

instance : RoundTrips UInt8 where
  fromJson_toJson n := by simp [fromJson, toJson, readUnsigned_int n.toNat_lt_size]

instance : Serialize UInt16 := ⟨fun n => .int n.toNat⟩

instance : Deserialize UInt16 := ⟨fun j => (readUnsigned UInt16.size j).map .ofNat⟩

instance : RoundTrips UInt16 where
  fromJson_toJson n := by simp [fromJson, toJson, readUnsigned_int n.toNat_lt_size]

instance : Serialize UInt32 := ⟨fun n => .int n.toNat⟩

instance : Deserialize UInt32 := ⟨fun j => (readUnsigned UInt32.size j).map .ofNat⟩

instance : RoundTrips UInt32 where
  fromJson_toJson n := by simp [fromJson, toJson, readUnsigned_int n.toNat_lt_size]

/-! ## Options and lists -/

section Containers

variable {α : Type}

instance [Serialize α] : Serialize (Option α) where
  toJson
    | some a => toJson a
    | none => .null

instance [Deserialize α] : Deserialize (Option α) where
  fromJson
    | .null => some none
    | j => (fromJson j).map some

class NonNull (α : Type) [Serialize α] : Prop where
  toJson_ne_null (a : α) : toJson a ≠ .null

instance : NonNull UInt8 := ⟨fun _ h => nomatch h⟩

instance : NonNull UInt32 := ⟨fun _ h => nomatch h⟩

instance : NonNull String := ⟨fun _ h => nomatch h⟩

instance [Serialize α] : Serialize (List α) := ⟨fun as => .arr (as.map toJson)⟩

instance [Deserialize α] : Deserialize (List α) where
  fromJson
    | .arr js => js.mapM fromJson
    | _ => none

instance [Serialize α] : NonNull (List α) := ⟨fun _ h => nomatch h⟩

variable [Serialize α] [Deserialize α] [RoundTrips α]

@[simp]
theorem fromJson_toJson_some [NonNull α] (a : α) :
    fromJson (α := Option α) (toJson a) = some (some a) := by
  have hread : fromJson (toJson a) = some a := fromJson_toJson a
  have hnull := NonNull.toJson_ne_null a
  generalize toJson a = j at hread hnull
  cases j with
  | null => exact absurd rfl hnull
  | _ => exact congrArg (Option.map some) hread

instance [NonNull α] : RoundTrips (Option α) where
  fromJson_toJson
    | none => rfl
    | some a => fromJson_toJson_some a

theorem mapM_fromJson_map_toJson (as : List α) :
    (as.map toJson).mapM (fromJson (α := α)) = some as := by
  induction as with
  | nil => rfl
  | cons a as ih => simp [ih]

instance : RoundTrips (List α) := ⟨mapM_fromJson_map_toJson⟩

end Containers

/-! ## Records -/

inductive Fields where
  | map (entries : List (String × Json))
  | seq (elements : List Json)

def Json.fields (n : ℕ) : Json → Option Fields
  | .obj entries => some (.map entries)
  | .arr elements => if elements.length ≤ n then some (.seq elements) else none
  | _ => none

def valuesOf (name : String) (entries : List (String × Json)) : List Json :=
  entries.filterMap fun e => if e.1 = name then some e.2 else none

@[simp]
theorem valuesOf_nil (name : String) : valuesOf name [] = [] := rfl

@[simp]
theorem valuesOf_cons (name k : String) (v : Json) (entries : List (String × Json)) :
    valuesOf name ((k, v) :: entries) =
      if k = name then v :: valuesOf name entries else valuesOf name entries := by
  unfold valuesOf
  by_cases h : k = name <;> simp [h]

namespace Fields

def get (src : Fields) (i : ℕ) (name : String) : Option (Option Json) :=
  match src with
  | .map entries =>
    match valuesOf name entries with
    | [] => some none
    | [v] => some (some v)
    | _ => none
  | .seq elements => some elements[i]?

variable {α : Type} [Deserialize α]

def required (src : Fields) (i : ℕ) (name : String) : Option α :=
  (src.get i name).bind fun v => v.bind fromJson

def withDefault (src : Fields) (i : ℕ) (name : String) (default : α) : Option α :=
  (src.get i name).bind fun v => v.elim (some default) fromJson

def optional (src : Fields) (i : ℕ) (name : String) : Option (Option α) :=
  (src.get i name).bind fun v =>
    match src, v with
    | .map _, none => some none
    | .seq _, none => none
    | _, some v => fromJson v

section Lookup

variable {entries : List (String × Json)} {name : String} {i : ℕ}

theorem required_map {v : Json} (h : valuesOf name entries = [v]) :
    (Fields.map entries).required i name = fromJson (α := α) v := by
  simp [required, get, h]

theorem withDefault_map {v : Json} (h : valuesOf name entries = [v]) (default : α) :
    (Fields.map entries).withDefault i name default = fromJson v := by
  simp [withDefault, get, h]

theorem withDefault_map_absent (h : valuesOf name entries = []) (default : α) :
    (Fields.map entries).withDefault i name default = some default := by
  simp [withDefault, get, h]

end Lookup

end Fields

/-! ## Enumerations -/

def Json.variant : Json → Option (String × Option Json)
  | .str name => some (name, none)
  | .obj [(name, content)] => some (name, some content)
  | _ => none

def isUnit : Option Json → Bool
  | none | some .null | some (.obj []) => true
  | _ => false

def soleField {α : Type} [Deserialize α] (name : String) (content : Option Json) : Option α :=
  content.bind fun j => (j.fields 1).bind fun src => src.required 0 name

@[simp]
theorem soleField_obj {α : Type} [Deserialize α] (name : String) (v : Json) :
    soleField name (some (.obj [(name, v)])) = fromJson (α := α) v := by
  simp [soleField, Json.fields, Fields.required, Fields.get]

def without (name : String) (entries : List (String × Json)) : List (String × Json) :=
  entries.filter fun e => e.1 ≠ name

/-- A tagged enumeration: the variant named under `tag`, and what is left for it. -/
def Json.tagged (tag : String) : Json → Option (String × Json)
  | .obj entries =>
    match valuesOf tag entries with
    | [.str name] => some (name, .obj (without tag entries))
    | _ => none
  | .arr (.str name :: elements) => some (name, .arr elements)
  | _ => none

def withTag (tag name : String) (entries : List (String × Json)) : Json :=
  .obj ((tag, .str name) :: entries)

theorem tagged_withTag {tag name : String} {entries : List (String × Json)}
    (h : valuesOf tag entries = []) :
    (withTag tag name entries).tagged tag = some (name, .obj entries) := by
  have hrest : without tag ((tag, .str name) :: entries) = entries := by
    rw [without, List.filter_cons_of_neg (by simp), List.filter_eq_self]
    intro e he
    simpa using List.filterMap_eq_nil_iff.1 h e he
  simp [withTag, Json.tagged, h, hrest]

end Serde
