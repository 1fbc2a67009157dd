import NymVpn.Proto.Lookup

/-!
# Gateways in messages

The message has no field for the SOCKS5 probe and none for the flow label and the scope of a
bridge's address; the time of a probe travels as a timestamp. Floating point numbers are kept
as their bits, maps as functions.
-/

open Net Wire

namespace Proto

/-! ## The messages -/

inductive AsnKind where
  | residential
  | other
deriving DecidableEq

instance : Enumeration AsnKind where
  number
    | .residential => 0
    | .other => 1
  values := [.residential, .other]
  mem_values a := by cases a <;> decide
  nodup := by decide

structure Asn where
  asn : String
  name : String
  kind : Int32

structure Location where
  twoLetterIsoCountryCode : String
  latitude : UInt64
  longitude : UInt64
  city : String
  region : String
  asn : Option Asn

structure Performance where
  lastUpdatedUtc : String
  score : Int32
  mixnetScore : Int32
  load : Int32
  uptimePercentageLast24Hours : UInt32

structure AsEntry where
  canConnect : Bool
  canRoute : Bool

structure AsExit where
  canConnect : Bool
  canRouteIpV4 : Bool
  canRouteIpV6 : Bool
  canRouteIpExternalV4 : Bool
  canRouteIpExternalV6 : Bool

structure WgProbeResult where
  canRegister : Bool
  canHandshake : Bool
  canResolveDns : Bool
  pingHostsPerformance : UInt32
  pingIpsPerformance : UInt32

structure LpProbeResult where
  canConnect : Bool
  canHandshake : Bool
  canRegister : Bool
  error : Option String

structure ProbeOutcome where
  asEntry : Option AsEntry
  asExit : Option AsExit
  wg : Option WgProbeResult
  lp : Option LpProbeResult

structure Timestamp where
  seconds : ℤ
  nanos : ℤ

structure Probe where
  lastUpdatedUtc : Option Timestamp
  outcome : Option ProbeOutcome

structure QuicClientOptions where
  addresses : List SocketAddr
  host : Option String
  idPubkey : String

inductive BridgeParameters.State where
  | quicPlain (options : QuicClientOptions)

structure BridgeParameters where
  state : Option BridgeParameters.State

structure BridgeInformation where
  version : String
  transports : List BridgeParameters

structure KemKeyDigests where
  digests : String → Option String

structure LewesProtocolDetailsData where
  enabled : Bool
  controlPort : UInt32
  dataPort : UInt32
  x25519 : String
  kemKeys : String → Option KemKeyDigests

structure LewesProtocolDetails where
  content : Option LewesProtocolDetailsData
  signature : String

structure GatewayId where
  id : String

structure GatewayResponse where
  id : Option GatewayId
  location : Option Location
  lastProbe : Option Probe
  mixnetPerformance : Option UInt32
  bridgeParams : Option BridgeInformation
  name : String
  description : Option String
  performance : Option Performance
  exitIpv4s : List String
  exitIpv6s : List String
  buildVersion : Option String
  lpDetails : Option LewesProtocolDetails
  nodeFamilyName : Option String

end Proto

namespace LibTypes

/-! ## The parts of a gateway and their conversions -/

inductive AsnKind where
  | residential
  | other

namespace AsnKind

def toProto : AsnKind → Proto.AsnKind
  | .residential => .residential
  | .other => .other

def fromProto : Proto.AsnKind → AsnKind
  | .residential => .residential
  | .other => .other

@[simp]
theorem fromProto_toProto (k : AsnKind) : fromProto k.toProto = k := by
  cases k <;> rfl

end AsnKind

structure Asn where
  asn : String
  name : String
  kind : AsnKind

namespace Asn

def toProto (value : Asn) : Proto.Asn where
  asn := value.asn
  name := value.name
  kind := number value.kind.toProto

def tryFromProto (value : Proto.Asn) : Except ConversionError Asn := do
  let kind ← decode Proto.AsnKind "AsnKind" value.kind
  return { asn := value.asn, name := value.name, kind := .fromProto kind }

@[simp]
theorem tryFromProto_toProto (a : Asn) : tryFromProto a.toProto = .ok a := by
  simp [tryFromProto, toProto]

end Asn

structure Location where
  twoLetterIsoCountryCode : String
  latitude : UInt64
  longitude : UInt64
  city : String
  region : String
  asn : Option Asn

namespace Location

def toProto (location : Location) : Proto.Location where
  twoLetterIsoCountryCode := location.twoLetterIsoCountryCode
  latitude := location.latitude
  longitude := location.longitude
  city := location.city
  region := location.region
  asn := location.asn.map Asn.toProto

def tryFromProto (location : Proto.Location) : Except ConversionError Location := do
  let asn ← location.asn.mapM Asn.tryFromProto
  return {
    twoLetterIsoCountryCode := location.twoLetterIsoCountryCode
    latitude := location.latitude
    longitude := location.longitude
    city := location.city
    region := location.region
    asn }

@[simp]
theorem tryFromProto_toProto (l : Location) : tryFromProto l.toProto = .ok l := by
  have hasn : (l.asn.map Asn.toProto).mapM Asn.tryFromProto = .ok (l.asn.map id) :=
    mapM_map_option fun a _ => a.tryFromProto_toProto
  simp [tryFromProto, toProto, hasn]

end Location

structure Performance where
  lastUpdatedUtc : String
  score : Score
  mixnetScore : Score
  load : Score
  uptimePercentageLast24Hours : UInt32
deriving DecidableEq

namespace Performance

def toProto (value : Performance) : Proto.Performance where
  lastUpdatedUtc := value.lastUpdatedUtc
  score := number value.score.toProto
  mixnetScore := number value.mixnetScore.toProto
  load := number value.load.toProto
  uptimePercentageLast24Hours := value.uptimePercentageLast24Hours

def tryFromProto (value : Proto.Performance) : Except ConversionError Performance := do
  let score ← decode Proto.Score "Performance.score" value.score
  -- The score is read a second time here.
  let mixnetScore ← decode Proto.Score "Performance.mixnet_score" value.score
  let load ← decode Proto.Score "Performance.load" value.load
  return {
    lastUpdatedUtc := value.lastUpdatedUtc
    score := .fromProto score
    mixnetScore := .fromProto mixnetScore
    load := .fromProto load
    uptimePercentageLast24Hours := value.uptimePercentageLast24Hours }

def received (value : Performance) : Performance := { value with mixnetScore := value.score }

theorem tryFromProto_toProto (p : Performance) : tryFromProto p.toProto = .ok p.received := by
  simp [tryFromProto, toProto, received]

theorem received_eq_self_iff (p : Performance) : p.received = p ↔ p.mixnetScore = p.score := by
  cases p
  simp only [received, mk.injEq, true_and, and_true]
  exact eq_comm

end Performance

structure Entry where
  canConnect : Bool
  canRoute : Bool

namespace Entry

def toProto (entry : Entry) : Proto.AsEntry where
  canConnect := entry.canConnect
  canRoute := entry.canRoute

def fromProto (entry : Proto.AsEntry) : Entry where
  canConnect := entry.canConnect
  canRoute := entry.canRoute

end Entry

structure Socks5 where
  canProxyHttps : Bool
  score : Option Score
  errors : Option (List String)

structure Exit where
  canConnect : Bool
  canRouteIpV4 : Bool
  canRouteIpExternalV4 : Bool
  canRouteIpV6 : Bool
  canRouteIpExternalV6 : Bool
  socks5 : Option Socks5

namespace Exit

def toProto (exit : Exit) : Proto.AsExit where
  canConnect := exit.canConnect
  canRouteIpV4 := exit.canRouteIpV4
  canRouteIpV6 := exit.canRouteIpV6
  canRouteIpExternalV4 := exit.canRouteIpExternalV4
  canRouteIpExternalV6 := exit.canRouteIpExternalV6

def fromProto (exit : Proto.AsExit) : Exit where
  canConnect := exit.canConnect
  canRouteIpV4 := exit.canRouteIpV4
  canRouteIpExternalV4 := exit.canRouteIpExternalV4
  canRouteIpV6 := exit.canRouteIpV6
  canRouteIpExternalV6 := exit.canRouteIpExternalV6
  socks5 := none

def withoutSocks5 (exit : Exit) : Exit := { exit with socks5 := none }

end Exit

structure Lp where
  canConnect : Bool
  canHandshake : Bool
  canRegister : Bool
  error : Option String

namespace Lp

def toProto (value : Lp) : Proto.LpProbeResult where
  canConnect := value.canConnect
  canHandshake := value.canHandshake
  canRegister := value.canRegister
  error := value.error

def fromProto (value : Proto.LpProbeResult) : Lp where
  canConnect := value.canConnect
  canHandshake := value.canHandshake
  canRegister := value.canRegister
  error := value.error

end Lp

structure ProbeOutcome where
  asEntry : Entry
  asExit : Option Exit
  lp : Option Lp

namespace ProbeOutcome

def toProto (outcome : ProbeOutcome) : Proto.ProbeOutcome where
  asEntry := some outcome.asEntry.toProto
  asExit := outcome.asExit.map Exit.toProto
  wg := none
  lp := outcome.lp.map Lp.toProto

def tryFromProto (outcome : Proto.ProbeOutcome) : Except ConversionError ProbeOutcome := do
  let asEntry ← okOr (outcome.asEntry.map Entry.fromProto) (.generic "missing as entry")
  return {
    asEntry
    asExit := outcome.asExit.map Exit.fromProto
    lp := outcome.lp.map Lp.fromProto }

def withoutSocks5 (outcome : ProbeOutcome) : ProbeOutcome :=
  { outcome with asExit := outcome.asExit.map Exit.withoutSocks5 }

theorem tryFromProto_toProto (o : ProbeOutcome) : tryFromProto o.toProto = .ok o.withoutSocks5 := by
  obtain ⟨asEntry, asExit, lp⟩ := o
  cases asExit <;> cases lp <;> rfl

end ProbeOutcome

/-- The text forms of a time: what a probe's time is read as, and how the library of the
messages writes a timestamp. -/
structure TimestampText where
  parse : String → Option Proto.Timestamp
  display : Proto.Timestamp → String

variable (t : TimestampText)

structure Probe where
  lastUpdatedUtc : String
  outcome : ProbeOutcome

namespace Probe

def toProto (probe : Probe) : Proto.Probe where
  lastUpdatedUtc := t.parse probe.lastUpdatedUtc
  outcome := some probe.outcome.toProto

def tryFromProto (probe : Proto.Probe) : Except ConversionError Probe := do
  let lastUpdatedUtc ← okOr probe.lastUpdatedUtc (.generic "missing last updated timestamp")
  let outcome ← okOr probe.outcome (.generic "missing probe outcome")
  return { lastUpdatedUtc := t.display lastUpdatedUtc
           outcome := ← ProbeOutcome.tryFromProto outcome }

/-- The same probe, up to the text of its time and without the outcome for SOCKS5. -/
structure Same (probe probe' : Probe) : Prop where
  lastUpdatedUtc : ∃ time, t.parse probe.lastUpdatedUtc = some time ∧
    probe'.lastUpdatedUtc = t.display time
  outcome : probe'.outcome = probe.outcome.withoutSocks5

variable {t}

theorem tryFromProto_toProto_eq_ok_iff (p p' : Probe) :
    tryFromProto t (p.toProto t) = .ok p' ↔ Same t p p' := by
  cases htime : t.parse p.lastUpdatedUtc with
  | none =>
    have hread : tryFromProto t (p.toProto t) =
        .error (.generic "missing last updated timestamp") := by
      simp only [tryFromProto, toProto, htime]
      rfl
    rw [hread]
    constructor
    · intro h
      cases h
    · rintro ⟨⟨time, h, -⟩, -⟩
      rw [htime] at h
      cases h
  | some time =>
    have hread : tryFromProto t (p.toProto t) = .ok ⟨t.display time, p.outcome.withoutSocks5⟩ := by
      simp [tryFromProto, toProto, htime, p.outcome.tryFromProto_toProto]
    rw [hread, Except.ok.injEq]
    constructor
    · rintro rfl
      exact ⟨⟨time, htime, rfl⟩, rfl⟩
    · rintro ⟨⟨time', h, htext⟩, houtcome⟩
      obtain rfl : time = time' := Option.some.inj (htime.symm.trans h)
      cases p'
      exact congrArg₂ Probe.mk htext.symm houtcome.symm

theorem exists_rel_same_iff (o : Option Probe) :
    (∃ o', Option.Rel (Same t) o o') ↔ ∀ p, o = some p → (t.parse p.lastUpdatedUtc).isSome := by
  cases o with
  | none =>
    simp only [reduceCtorEq, false_imp_iff, implies_true, iff_true]
    exact ⟨none, .none⟩
  | some p =>
    simp only [Option.some.injEq, forall_eq', Option.isSome_iff_exists]
    constructor
    · rintro ⟨-, ⟨⟨⟨time, htime, -⟩, -⟩⟩⟩
      exact ⟨time, htime⟩
    · rintro ⟨time, htime⟩
      exact ⟨some ⟨t.display time, p.outcome.withoutSocks5⟩, .some ⟨⟨time, htime, rfl⟩, rfl⟩⟩

end Probe

structure QuicClientOptions where
  addresses : List SocketAddr
  host : Option String
  idPubkey : String

namespace QuicClientOptions

def toProto (value : QuicClientOptions) : Proto.QuicClientOptions where
  addresses := value.addresses.map SocketAddr.toProto
  host := value.host
  idPubkey := value.idPubkey

def tryFromProto (value : Proto.QuicClientOptions) : Except ConversionError QuicClientOptions := do
  let addresses ← value.addresses.mapM SocketAddr.tryFromProto
  return { host := value.host, idPubkey := value.idPubkey, addresses }

def received (value : QuicClientOptions) : QuicClientOptions :=
  { value with addresses := value.addresses.map fun addr => .new addr.ip addr.port }

theorem tryFromProto_toProto (o : QuicClientOptions) : tryFromProto o.toProto = .ok o.received := by
  have haddresses : (o.addresses.map SocketAddr.toProto).mapM SocketAddr.tryFromProto =
      .ok (o.addresses.map fun addr => .new addr.ip addr.port) :=
    mapM_map_list fun addr _ => addr.tryFromProto_toProto
  simp [tryFromProto, toProto, haddresses, received]

theorem received_eq_self_iff (o : QuicClientOptions) :
    o.received = o ↔ ∀ addr ∈ o.addresses, addr.flowinfo = 0 ∧ addr.scopeId = 0 := by
  have hsame : o.received = o ↔
      (o.addresses.map fun addr => SocketAddr.new addr.ip addr.port) = o.addresses := by
    cases o
    simp [received]
  rw [hsame, map_eq_self_iff]
  simp only [SocketAddr.new_eq_self_iff]

end QuicClientOptions

inductive BridgeParameters where
  | quicPlain (options : QuicClientOptions)

namespace BridgeParameters

def toProto : BridgeParameters → Proto.BridgeParameters
  | .quicPlain options => ⟨some (.quicPlain options.toProto)⟩

def tryFromProto (value : Proto.BridgeParameters) : Except ConversionError BridgeParameters := do
  match ← okOr value.state (.noValueSet "BridgeParameters.state") with
  | .quicPlain options => return .quicPlain (← QuicClientOptions.tryFromProto options)

def options : BridgeParameters → QuicClientOptions
  | .quicPlain options => options

def received (value : BridgeParameters) : BridgeParameters := .quicPlain value.options.received

theorem tryFromProto_toProto (b : BridgeParameters) : tryFromProto b.toProto = .ok b.received := by
  obtain ⟨options⟩ := b
  simp [tryFromProto, toProto, options.tryFromProto_toProto, received, BridgeParameters.options]

theorem received_eq_self_iff (b : BridgeParameters) :
    b.received = b ↔ b.options.received = b.options := by
  obtain ⟨options⟩ := b
  simp [received, BridgeParameters.options]

end BridgeParameters

structure BridgeInformation where
  version : String
  transports : List BridgeParameters

namespace BridgeInformation

def toProto (value : BridgeInformation) : Proto.BridgeInformation where
  version := value.version
  transports := value.transports.map BridgeParameters.toProto

def tryFromProto (value : Proto.BridgeInformation) : Except ConversionError BridgeInformation := do
  let transports ← value.transports.mapM BridgeParameters.tryFromProto
  return { version := value.version, transports }

def received (value : BridgeInformation) : BridgeInformation :=
  { value with transports := value.transports.map BridgeParameters.received }

def Plain (value : BridgeInformation) : Prop :=
  ∀ b ∈ value.transports, ∀ addr ∈ b.options.addresses, addr.flowinfo = 0 ∧ addr.scopeId = 0

theorem tryFromProto_toProto (b : BridgeInformation) : tryFromProto b.toProto = .ok b.received := by
  have htransports : (b.transports.map BridgeParameters.toProto).mapM
      BridgeParameters.tryFromProto = .ok (b.transports.map BridgeParameters.received) :=
    mapM_map_list fun p _ => p.tryFromProto_toProto
  simp [tryFromProto, toProto, htransports, received]

theorem received_eq_self_iff (b : BridgeInformation) : b.received = b ↔ b.Plain := by
  have hsame : b.received = b ↔ b.transports.map BridgeParameters.received = b.transports := by
    cases b
    simp [received]
  rw [hsame, map_eq_self_iff]
  simp only [BridgeParameters.received_eq_self_iff, QuicClientOptions.received_eq_self_iff, Plain]

end BridgeInformation

structure LewesProtocolDetailsData where
  enabled : Bool
  controlPort : UInt16
  dataPort : UInt16
  x25519 : String
  kemKeys : String → Option (String → Option String)

namespace LewesProtocolDetailsData

def toProto (value : LewesProtocolDetailsData) : Proto.LewesProtocolDetailsData where
  enabled := value.enabled
  controlPort := value.controlPort.toUInt32
  dataPort := value.dataPort.toUInt32
  x25519 := value.x25519
  kemKeys := fun kem => (value.kemKeys kem).map Proto.KemKeyDigests.mk

def fromProto (value : Proto.LewesProtocolDetailsData) : LewesProtocolDetailsData where
  enabled := value.enabled
  controlPort := value.controlPort.toUInt16
  dataPort := value.dataPort.toUInt16
  x25519 := value.x25519
  kemKeys := fun kem => (value.kemKeys kem).map Proto.KemKeyDigests.digests

@[simp]
theorem fromProto_toProto (d : LewesProtocolDetailsData) : fromProto d.toProto = d := by
  have hkeys : (fun kem => ((d.kemKeys kem).map Proto.KemKeyDigests.mk).map
      Proto.KemKeyDigests.digests) = d.kemKeys := by
    funext kem
    cases d.kemKeys kem <;> rfl
  cases d
  simpa [fromProto, toProto] using hkeys

end LewesProtocolDetailsData

structure LewesProtocolDetails where
  content : LewesProtocolDetailsData
  signature : String

namespace LewesProtocolDetails

def toProto (value : LewesProtocolDetails) : Proto.LewesProtocolDetails where
  content := some value.content.toProto
  signature := value.signature

def tryFromProto (value : Proto.LewesProtocolDetails) :
    Except ConversionError LewesProtocolDetails := do
  let content ← okOr value.content (.generic "missing LewesProtocolDetails.content")
  return { content := .fromProto content, signature := value.signature }

@[simp]
theorem tryFromProto_toProto (d : LewesProtocolDetails) : tryFromProto d.toProto = .ok d := by
  simp [tryFromProto, toProto]

end LewesProtocolDetails

/-! ## Gateways -/

structure Gateway where
  identityKey : String
  name : String
  description : Option String
  location : Option Location
  lastProbe : Option Probe
  mixnetPerformance : Option UInt8
  bridgeParams : Option BridgeInformation
  performance : Option Performance
  exitIpv4s : List Ipv4Addr
  exitIpv6s : List Ipv6Addr
  buildVersion : Option String
  lewesProtocolDetails : Option LewesProtocolDetails
  nodeFamilyName : Option String

namespace Gateway

def toProto (gateway : Gateway) : Proto.GatewayResponse where
  id := some ⟨gateway.identityKey⟩
  location := gateway.location.map Location.toProto
  lastProbe := gateway.lastProbe.map (Probe.toProto t)
  mixnetPerformance := gateway.mixnetPerformance.map UInt8.toUInt32
  bridgeParams := gateway.bridgeParams.map BridgeInformation.toProto
  name := gateway.name
  description := gateway.description
  performance := gateway.performance.map Performance.toProto
  exitIpv4s := gateway.exitIpv4s.map Ipv4Addr.display
  exitIpv6s := gateway.exitIpv6s.map Ipv6Addr.display
  buildVersion := gateway.buildVersion
  lpDetails := gateway.lewesProtocolDetails.map LewesProtocolDetails.toProto
  nodeFamilyName := gateway.nodeFamilyName

def tryFromProto (gateway : Proto.GatewayResponse) : Except ConversionError Gateway := do
  let id ← okOr gateway.id (.generic "missing gateway id")
  let location ← gateway.location.mapM Location.tryFromProto
  let lastProbe ← gateway.lastProbe.mapM (Probe.tryFromProto t)
  let performance ← gateway.performance.mapM Performance.tryFromProto
  let exitIpv4s ← gateway.exitIpv4s.mapM fun ip =>
    okOr (readIpv4 ip.toList) (.parseAddr "GatewayResponse.exit_ipv4s")
  let exitIpv6s ← gateway.exitIpv6s.mapM fun ip =>
    okOr (readIpv6 ip.toList) (.parseAddr "GatewayResponse.exit_ipv6s")
  let bridgeParams ← gateway.bridgeParams.mapM BridgeInformation.tryFromProto
  let lpDetails ← gateway.lpDetails.mapM LewesProtocolDetails.tryFromProto
  return {
    identityKey := id.id
    name := gateway.name
    description := gateway.description
    location
    lastProbe
    mixnetPerformance := gateway.mixnetPerformance.map UInt32.toUInt8
    bridgeParams
    performance
    exitIpv4s
    exitIpv6s
    buildVersion := gateway.buildVersion
    lewesProtocolDetails := lpDetails
    nodeFamilyName := gateway.nodeFamilyName }

variable {t}

theorem tryFromProto_toProto (g : Gateway) :
    tryFromProto t (g.toProto t) =
      (g.lastProbe.map (Probe.toProto t)).mapM (Probe.tryFromProto t) >>= fun lastProbe =>
        .ok { g with
          lastProbe
          performance := g.performance.map Performance.received
          bridgeParams := g.bridgeParams.map BridgeInformation.received } := by
  have hlocation : (g.location.map Location.toProto).mapM Location.tryFromProto =
      .ok (g.location.map id) := mapM_map_option fun l _ => l.tryFromProto_toProto
  have hperformance : (g.performance.map Performance.toProto).mapM Performance.tryFromProto =
      .ok (g.performance.map Performance.received) :=
    mapM_map_option fun p _ => p.tryFromProto_toProto
  have hipv4 : ((g.exitIpv4s.map Ipv4Addr.display).mapM fun ip =>
      okOr (readIpv4 ip.toList) (ConversionError.parseAddr "GatewayResponse.exit_ipv4s")) =
      .ok (g.exitIpv4s.map id) :=
    mapM_map_list fun ip _ => by rw [readIpv4_display]; rfl
  have hipv6 : ((g.exitIpv6s.map Ipv6Addr.display).mapM fun ip =>
      okOr (readIpv6 ip.toList) (ConversionError.parseAddr "GatewayResponse.exit_ipv6s")) =
      .ok (g.exitIpv6s.map id) :=
    mapM_map_list fun ip _ => by rw [readIpv6_display]; rfl
  have hbridge : (g.bridgeParams.map BridgeInformation.toProto).mapM
      BridgeInformation.tryFromProto = .ok (g.bridgeParams.map BridgeInformation.received) :=
    mapM_map_option fun b _ => b.tryFromProto_toProto
  have hlp : (g.lewesProtocolDetails.map LewesProtocolDetails.toProto).mapM
      LewesProtocolDetails.tryFromProto = .ok (g.lewesProtocolDetails.map id) :=
    mapM_map_option fun d _ => d.tryFromProto_toProto
  have hmixnet : (g.mixnetPerformance.map UInt8.toUInt32).map UInt32.toUInt8 =
      g.mixnetPerformance := by
    cases g.mixnetPerformance <;> simp
  simp only [tryFromProto, toProto, okOr_some, ok_bind, hlocation, hperformance, hipv4, hipv6,
    hbridge, hlp, hmixnet, Option.map_id_fun, List.map_id_fun, id_eq, pure_eq_ok]

variable (t)

/-- The gateway is read back as it was, up to the text of the probe's time and without the
outcome for SOCKS5. -/
def Survives (g : Gateway) : Prop :=
  ∃ g', tryFromProto t (g.toProto t) = .ok g' ∧
    Option.Rel (Probe.Same t) g.lastProbe g'.lastProbe ∧
    { g' with lastProbe := none } = { g with lastProbe := none }

end Gateway

/-- A gateway reaches the client as it was sent exactly if its scores agree, its probe has a
readable time, and its bridges have plain addresses: the WireGuard score is read in place
of the mixnet score. -/
theorem gateway_survives_iff (g : Gateway) :
    g.Survives t ↔
      (∀ p, g.performance = some p → p.mixnetScore = p.score) ∧
      (∀ p, g.lastProbe = some p → (t.parse p.lastUpdatedUtc).isSome) ∧
      ∀ b, g.bridgeParams = some b → b.Plain := by
  have hread (g' : Gateway) : Gateway.tryFromProto t (g.toProto t) = .ok g' ↔
      ∃ lastProbe, Option.Rel (Probe.Same t) g.lastProbe lastProbe ∧ { g with
          lastProbe
          performance := g.performance.map Performance.received
          bridgeParams := g.bridgeParams.map BridgeInformation.received } = g' := by
    rw [g.tryFromProto_toProto, bind_eq_ok_iff]
    simp only [mapM_map_option_eq_ok_iff, Probe.tryFromProto_toProto_eq_ok_iff, Except.ok.injEq]
  have hperformance : g.performance.map Performance.received = g.performance ↔
      ∀ p, g.performance = some p → p.mixnetScore = p.score := by
    rw [map_option_eq_self_iff]
    simp only [Performance.received_eq_self_iff]
  have hbridge : g.bridgeParams.map BridgeInformation.received = g.bridgeParams ↔
      ∀ b, g.bridgeParams = some b → b.Plain := by
    rw [map_option_eq_self_iff]
    simp only [BridgeInformation.received_eq_self_iff]
  rw [← hperformance, ← hbridge, ← Probe.exists_rel_same_iff]
  constructor
  · rintro ⟨g', hg', -, hsame⟩
    obtain ⟨lastProbe, hprobe, rfl⟩ := (hread g').1 hg'
    exact ⟨congrArg Gateway.performance hsame, ⟨lastProbe, hprobe⟩,
      congrArg Gateway.bridgeParams hsame⟩
  · rintro ⟨hperformance, ⟨lastProbe, hprobe⟩, hbridge⟩
    refine ⟨{ g with lastProbe }, (hread _).2 ⟨lastProbe, hprobe, ?_⟩, hprobe, rfl⟩
    rw [hperformance, hbridge]

/-- A gateway with a good WireGuard score is shown with a good mixnet score too. -/
theorem mixnet_score_is_lost :
    ¬ Gateway.Survives ⟨fun _ => none, fun _ => ""⟩
      { identityKey := "7QH"
        name := "gw"
        description := none
        location := none
        lastProbe := none
        mixnetPerformance := none
        bridgeParams := none
        performance := some ⟨"2026-01-01", .high, .low, .low, 0⟩
        exitIpv4s := []
        exitIpv6s := []
        buildVersion := none
        lewesProtocolDetails := none
        nodeFamilyName := none } := by
  rintro ⟨g', hg', -, hsame⟩
  rw [Gateway.tryFromProto_toProto] at hg'
  obtain rfl := Except.ok.inj hg'
  have hperformance := congrArg Gateway.performance hsame
  exact absurd hperformance (by decide)

end LibTypes
