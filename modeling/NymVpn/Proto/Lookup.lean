import NymVpn.Proto.Address

/-!
# Gateway lookup requests

A request names the type of the gateways and the filters they have to match. Enumerations of
the library are written as their positions in the declaration.
-/

open Wire

namespace Proto

/-! ## The messages -/

inductive Score where
  | offline
  | low
  | medium
  | high
deriving DecidableEq

instance : Enumeration Score where
  number
    | .offline => 0
    | .low => 1
    | .medium => 2
    | .high => 3
  values := [.offline, .low, .medium, .high]
  mem_values a := by cases a <;> decide
  nodup := by decide

inductive GatewayType where
  | mixnetEntry
  | mixnetExit
  | wg
deriving DecidableEq

instance : Enumeration GatewayType where
  number
    | .mixnetEntry => 0
    | .mixnetExit => 1
    | .wg => 2
  values := [.mixnetEntry, .mixnetExit, .wg]
  mem_values a := by cases a <;> decide
  nodup := by decide

inductive GatewayFilter.Filter where
  | minScore (score : Int32)
  | country (code : String)
  | region (region : String)
  | residential
  | quicEnabled
  | exit
  | vpn

structure GatewayFilter where
  filter : Option GatewayFilter.Filter

structure LookupGatewayFilters where
  kind : Int32
  filters : List GatewayFilter

end Proto

namespace LibTypes

/-! ## The library's types -/

inductive Score where
  | high
  | medium
  | low
  | offline
deriving DecidableEq

inductive GatewayFilter where
  | minScore (score : Score)
  | country (code : String)
  | region (region : String)
  | residential
  | quicEnabled
  | exit
  | vpn
deriving DecidableEq

inductive GatewayType where
  | mixnetEntry
  | mixnetExit
  | wg

structure LookupGatewayFilters where
  gwType : GatewayType
  filters : List GatewayFilter

/-! ## The conversions -/

namespace Score

def discriminant : Score → Int32
  | .high => 0
  | .medium => 1
  | .low => 2
  | .offline => 3

def toProto : Score → Proto.Score
  | .offline => .offline
  | .low => .low
  | .medium => .medium
  | .high => .high

def fromProto : Proto.Score → Score
  | .offline => .offline
  | .low => .low
  | .medium => .medium
  | .high => .high

@[simp]
theorem fromProto_toProto (s : Score) : fromProto s.toProto = s := by
  cases s <;> rfl

end Score

namespace GatewayType

def discriminant : GatewayType → Int32
  | .mixnetEntry => 0
  | .mixnetExit => 1
  | .wg => 2

def toProto : GatewayType → Proto.GatewayType
  | .mixnetEntry => .mixnetEntry
  | .mixnetExit => .mixnetExit
  | .wg => .wg

def fromProto : Proto.GatewayType → GatewayType
  | .mixnetEntry => .mixnetEntry
  | .mixnetExit => .mixnetExit
  | .wg => .wg

@[simp]
theorem fromProto_toProto (t : GatewayType) : fromProto t.toProto = t := by
  cases t <;> rfl

@[simp]
theorem discriminant_eq_number (t : GatewayType) : t.discriminant = number t.toProto := by
  cases t <;> rfl

end GatewayType

namespace GatewayFilter

def toProto : GatewayFilter → Proto.GatewayFilter
  | .minScore score => ⟨some (.minScore score.discriminant)⟩
  | .country code => ⟨some (.country code)⟩
  | .region name => ⟨some (.region name)⟩
  | .residential => ⟨some .residential⟩
  | .quicEnabled => ⟨some .quicEnabled⟩
  | .exit => ⟨some .exit⟩
  | .vpn => ⟨some .vpn⟩

def tryFromProto (value : Proto.GatewayFilter) : Except ConversionError GatewayFilter := do
  match ← okOr value.filter (.generic "missing filter") with
  | .minScore score => return .minScore (.fromProto (← decode Proto.Score "Score" score))
  | .country code => return .country code
  | .region name => return .region name
  | .residential => return .residential
  | .quicEnabled => return .quicEnabled
  | .exit => return .exit
  | .vpn => return .vpn

end GatewayFilter

namespace LookupGatewayFilters

def toProto (value : LookupGatewayFilters) : Proto.LookupGatewayFilters where
  kind := value.gwType.discriminant
  filters := value.filters.map GatewayFilter.toProto

def tryFromProto (value : Proto.LookupGatewayFilters) :
    Except ConversionError LookupGatewayFilters := do
  let protoGwType ← decode Proto.GatewayType "GatewayFilters.kind" value.kind
  let filters ← value.filters.mapM GatewayFilter.tryFromProto
  return ⟨.fromProto protoGwType, filters⟩

end LookupGatewayFilters

/-! ## Reading a request back -/

def Score.mirrored : Score → Score
  | .high => .offline
  | .medium => .low
  | .low => .medium
  | .offline => .high

theorem Score.mirrored_ne (s : Score) : s.mirrored ≠ s := by
  cases s <;> decide

def GatewayFilter.received : GatewayFilter → GatewayFilter
  | .minScore score => .minScore score.mirrored
  | filter => filter

theorem GatewayFilter.received_eq_self_iff (f : GatewayFilter) :
    f.received = f ↔ ∀ score, f ≠ .minScore score := by
  cases f with
  | minScore score => simp [GatewayFilter.received, score.mirrored_ne]
  | _ => simp [GatewayFilter.received]

theorem GatewayFilter.tryFromProto_toProto (f : GatewayFilter) :
    tryFromProto f.toProto = .ok f.received := by
  cases f with
  | minScore score =>
    change (return GatewayFilter.minScore (.fromProto
      (← decode Proto.Score "Score" score.discriminant)) : Except ConversionError _) = _
    have hnumber : score.discriminant = number score.mirrored.toProto := by cases score <;> rfl
    rw [hnumber, decode_number]
    exact congrArg (fun s => Except.ok (minScore s)) (Score.fromProto_toProto _)
  | _ => rfl

theorem LookupGatewayFilters.tryFromProto_toProto (f : LookupGatewayFilters) :
    tryFromProto f.toProto = .ok { f with filters := f.filters.map GatewayFilter.received } := by
  have hfilters : (f.filters.map GatewayFilter.toProto).mapM GatewayFilter.tryFromProto =
      .ok (f.filters.map GatewayFilter.received) :=
    mapM_map_list fun filter _ => filter.tryFromProto_toProto
  simp only [tryFromProto, toProto, GatewayType.discriminant_eq_number, decode_number, hfilters]
  change Except.ok (LookupGatewayFilters.mk (.fromProto f.gwType.toProto) _) = _
  rw [GatewayType.fromProto_toProto]

/-- A request reaches the daemon as it was sent exactly if it asks for no score: a score is
written with the library's number and read with the message's. -/
theorem lookup_round_trips_iff (f : LookupGatewayFilters) :
    LookupGatewayFilters.tryFromProto f.toProto = .ok f ↔ ∀ score, .minScore score ∉ f.filters := by
  have hsame : LookupGatewayFilters.tryFromProto f.toProto = .ok f ↔
      f.filters.map GatewayFilter.received = f.filters := by
    rw [f.tryFromProto_toProto]
    cases f
    simp
  rw [hsame, map_eq_self_iff]
  simp only [GatewayFilter.received_eq_self_iff]
  exact ⟨fun h score hmem => h _ hmem score rfl,
    fun h filter hmem score heq => h score (heq ▸ hmem)⟩

/-- A request for gateways of a high score is read as one for any score. -/
theorem high_score_is_read_as_offline :
    LookupGatewayFilters.tryFromProto
        (LookupGatewayFilters.toProto ⟨.wg, [.minScore .high]⟩) =
      .ok ⟨.wg, [.minScore .offline]⟩ ∧
    LookupGatewayFilters.tryFromProto
        (LookupGatewayFilters.toProto ⟨.wg, [.minScore .high]⟩) ≠
      .ok ⟨.wg, [.minScore .high]⟩ := by
  rw [LookupGatewayFilters.tryFromProto_toProto]
  constructor
  · rfl
  · intro h
    have heq := Except.ok.inj h
    exact absurd (congrArg LookupGatewayFilters.filters heq) (by decide)

end LibTypes
