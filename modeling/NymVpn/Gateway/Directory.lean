import NymVpn.Net.Addr

/-!
# The gateway directory

A gateway, the filters a list of gateways is narrowed by, and the choice of the best one for
an entry or an exit point. Inside a tier the number that decides is a parameter.
-/

namespace GatewayDirectory

open Net

abbrev NodeIdentity := BitVec 256

structure Recipient where
  clientIdentity : BitVec 256
  clientEncryptionKey : BitVec 256
  gateway : NodeIdentity
deriving DecidableEq

inductive ScoreValue where
  | offline
  | low
  | medium
  | high
deriving DecidableEq

def ScoreValue.priority : ScoreValue → ℕ
  | .offline => 0
  | .low => 1
  | .medium => 2
  | .high => 3

instance : LE ScoreValue := ⟨fun a b => a.priority ≤ b.priority⟩

instance (a b : ScoreValue) : Decidable (a ≤ b) :=
  inferInstanceAs (Decidable (a.priority ≤ b.priority))

inductive AsnKind where
  | residential
  | other
deriving DecidableEq

structure Asn where
  asn : String
  route : Option IpNetwork
  kind : AsnKind
deriving DecidableEq

structure Location where
  twoLetterIsoCountryCode : String
  region : String
  asn : Option Asn
deriving DecidableEq

structure Performance where
  score : ScoreValue
  mixnetScore : ScoreValue
deriving DecidableEq

/-- The addresses of each announced bridge; QUIC is the only transport. -/
structure BridgeInformation where
  transports : List (List SocketAddr)
deriving DecidableEq

def BridgeInformation.getAddrs (b : BridgeInformation) : List SocketAddr := b.transports.flatten

/-- The fields that selection and the firewall read. -/
structure Gateway where
  identity : NodeIdentity
  location : Option Location
  iprAddress : Option Recipient
  authenticatorAddress : Option Recipient
  bridgeParams : Option BridgeInformation
  socks5Score : Option ScoreValue
  ips : List IpAddr
  clientsWsPort : Option UInt16
  clientsWssPort : Option UInt16
  performance : Option Performance
  lpControlPort : Option UInt16
  familyId : Option ℕ
deriving DecidableEq

inductive GatewayType where
  | mixnetEntry
  | mixnetExit
  | wg
deriving DecidableEq

inductive GatewayFilter where
  | minScore (score : ScoreValue)
  | minSocks5Score (score : ScoreValue)
  | country (code : String)
  | region (region : String)
  | residential
  | quicEnabled
  | exit
  | vpn
  | notBlacklisted (blacklist : List NodeIdentity)

/-- A set in the source. Only whether all its members match is ever asked. -/
abbrev GatewayFilters := List GatewayFilter

def GatewayFilters.with (filters other : GatewayFilters) : GatewayFilters := filters ++ other

namespace Gateway

def isInCountry (g : Gateway) (code : String) : Bool :=
  g.location.any fun l => l.twoLetterIsoCountryCode == code

def isInRegion (g : Gateway) (region : String) : Bool :=
  g.location.any fun l => l.region == region

def isResidentialAsn (g : Gateway) : Bool :=
  g.location.any fun l => l.asn.any fun a => a.kind == .residential

def isQuicEnabled (g : Gateway) : Bool :=
  g.bridgeParams.any fun b => b.transports.head?.isSome

def isExitNode (g : Gateway) : Bool := g.iprAddress.isSome

def isVpnNode (g : Gateway) : Bool := g.authenticatorAddress.isSome

def isWhitelisted (g : Gateway) (blacklist : List NodeIdentity) : Bool :=
  !blacklist.contains g.identity

def scoreFor (g : Gateway) : Option GatewayType → Option ScoreValue
  | some .mixnetEntry => g.performance.map Performance.mixnetScore
  | some .mixnetExit => g.performance.map Performance.mixnetScore
  | some .wg => g.performance.map Performance.score
  | none => none

def meetsScore (g : Gateway) (gwType : Option GatewayType) (minScore : ScoreValue) : Bool :=
  (g.scoreFor gwType).any fun s => minScore ≤ s

def meetsSocks5Score (g : Gateway) (minScore : ScoreValue) : Bool :=
  g.socks5Score.any fun s => minScore ≤ s

def matchesFilter (g : Gateway) (gwType : Option GatewayType) : GatewayFilter → Bool
  | .minScore score => g.meetsScore gwType score
  | .minSocks5Score score => g.meetsSocks5Score score
  | .country code => g.isInCountry code
  | .region region => g.isInRegion region
  | .residential => g.isResidentialAsn
  | .quicEnabled => g.isQuicEnabled
  | .exit => g.isExitNode
  | .vpn => g.isVpnNode
  | .notBlacklisted blacklist => g.isWhitelisted blacklist

def matchesAllFilters (g : Gateway) (gwType : Option GatewayType) (filters : GatewayFilters) :
    Bool :=
  filters.all (g.matchesFilter gwType)

theorem matchesAllFilters_with (g : Gateway) (gwType : Option GatewayType)
    (filters other : GatewayFilters) :
    g.matchesAllFilters gwType (filters.with other) =
      (g.matchesAllFilters gwType filters && g.matchesAllFilters gwType other) :=
  List.all_append

end Gateway

inductive EntryPoint where
  | gateway (identity : NodeIdentity)
  | country (twoLetterIsoCountryCode : String)
  | region (region : String)
  | random
deriving DecidableEq

inductive ExitPoint where
  | address (address : Recipient)
  | gateway (identity : NodeIdentity)
  | country (twoLetterIsoCountryCode : String)
  | region (region : String)
  | random
deriving DecidableEq

inductive Error where
  | noMatchingGateway (requestedIdentity : NodeIdentity)
  | noMatchingEntryGatewayForLocation (requestedLocation : String)
      (availableCountries : List String)
  | noMatchingExitGatewayForLocation (requestedLocation : String)
      (availableCountries : List String)
  | failedToSelectGatewayRandomly
deriving DecidableEq

def Error.isUnmatchedNonSpecificGateway : Error → Bool
  | .noMatchingGateway _ => false
  | _ => true

def countryWithRegionSelector : String := "US"

structure GatewayList where
  /-- None for a list of mixed types. -/
  gwType : Option GatewayType
  gateways : List Gateway

namespace GatewayList

def allIsoCodes (l : GatewayList) : List String :=
  (l.gateways.filterMap fun g => g.location.map Location.twoLetterIsoCountryCode).eraseDups

def filter (l : GatewayList) (filters : GatewayFilters) : List Gateway :=
  l.gateways.filter fun g => g.matchesAllFilters l.gwType filters

def gatewayWithIdentity (l : GatewayList) (identity : NodeIdentity) : Option Gateway :=
  l.gateways.find? fun g => g.identity == identity

def chooseRandom (l : GatewayList) (filters : GatewayFilters) (r : ℕ) : Option Gateway :=
  let candidates := l.filter filters
  candidates[r % candidates.length]?

def removeGateway (l : GatewayList) (gateway : Gateway) : GatewayList :=
  { l with gateways := l.gateways.filter fun g => g.identity != gateway.identity }

def findEntryGateway (l : GatewayList) (entryPoint : EntryPoint)
    (baseFilters optionalFilters : GatewayFilters) (r : ℕ) : Except Error Gateway :=
  match entryPoint with
  | .gateway identity =>
    (l.gatewayWithIdentity identity).elim (.error (.noMatchingGateway identity)) .ok
  | .country code =>
    let filters := (baseFilters.with optionalFilters).with [.country code]
    (l.chooseRandom filters r).elim
      (.error (.noMatchingEntryGatewayForLocation code l.allIsoCodes)) .ok
  | .region region =>
    let filters := (baseFilters.with optionalFilters).with
      [.country countryWithRegionSelector, .region region]
    (l.chooseRandom filters r).elim
      (.error (.noMatchingEntryGatewayForLocation region l.allIsoCodes)) .ok
  | .random =>
    let filters := baseFilters.with optionalFilters
    (l.chooseRandom filters r).elim (.error .failedToSelectGatewayRandomly) .ok

def findExitGateway (l : GatewayList) (exitPoint : ExitPoint) (baseFilters : GatewayFilters)
    (r : ℕ) : Except Error Gateway :=
  match exitPoint with
  | .address address =>
    -- The router may be private, so its address replaces the announced one.
    (l.gatewayWithIdentity address.gateway).elim (.error (.noMatchingGateway address.gateway))
      fun g => .ok { g with iprAddress := some address }
  | .gateway identity =>
    (l.gatewayWithIdentity identity).elim (.error (.noMatchingGateway identity)) .ok
  | .country code =>
    (l.chooseRandom (baseFilters.with [.country code]) r).elim
      (.error (.noMatchingExitGatewayForLocation code l.allIsoCodes)) .ok
  | .region region =>
    let filters := baseFilters.with [.country countryWithRegionSelector, .region region]
    (l.chooseRandom filters r).elim
      (.error (.noMatchingExitGatewayForLocation region l.allIsoCodes)) .ok
  | .random =>
    (l.chooseRandom baseFilters r).elim (.error .failedToSelectGatewayRandomly) .ok

def scoreTiers : List ScoreValue := [.high, .medium, .low]

/-- The first tier that gives a gateway, or an error that no tier can mend. -/
def firstTier (find : ScoreValue → Except Error Gateway) (last : Error) :
    List ScoreValue → Except Error Gateway
  | [] => .error last
  | score :: rest =>
    match find score with
    | .ok gateway => .ok gateway
    | .error err =>
      if err.isUnmatchedNonSpecificGateway then firstTier find last rest else .error err

def findBestEntryGateway (l : GatewayList) (entryPoint : EntryPoint)
    (baseFilters : GatewayFilters) (r : ℕ) : Except Error Gateway :=
  let last : Error := match entryPoint with
    | .gateway identity => .noMatchingGateway identity
    | .country code => .noMatchingEntryGatewayForLocation code l.allIsoCodes
    | .region region => .noMatchingEntryGatewayForLocation region l.allIsoCodes
    | .random => .failedToSelectGatewayRandomly
  firstTier (fun score => l.findEntryGateway entryPoint baseFilters [.minScore score] r) last
    scoreTiers

def findBestExitGateway (l : GatewayList) (exitPoint : ExitPoint) (baseFilters : GatewayFilters)
    (r : ℕ) : Except Error Gateway :=
  let last : Error := match exitPoint with
    | .address address => .noMatchingGateway address.gateway
    | .gateway identity => .noMatchingGateway identity
    -- The source reports the entry's error here.
    | .country code => .noMatchingEntryGatewayForLocation code l.allIsoCodes
    | .region region => .noMatchingEntryGatewayForLocation region l.allIsoCodes
    | .random => .failedToSelectGatewayRandomly
  firstTier (fun score => l.findExitGateway exitPoint (baseFilters.with [.minScore score]) r) last
    scoreTiers

end GatewayList

end GatewayDirectory
