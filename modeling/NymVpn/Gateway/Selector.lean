import NymVpn.Gateway.Best

/-!
# Selecting a pair of gateways

The exit is chosen first; an exit that leaves no acceptable entry is dropped and the next
best one is tried. The `i`-th round of that loop uses two random numbers.
-/

namespace GatewayDirectory

open Net

structure GatewayIndependence where
  enableNotifications : Bool
  differentNodeFamily : Bool
  differentAsn : Bool
  differentSubnet : Bool
deriving DecidableEq

namespace GatewayIndependence

def setEnabled (c : GatewayIndependence) (enabled : Bool) : GatewayIndependence :=
  { c with differentNodeFamily := enabled, differentAsn := enabled, differentSubnet := enabled }

def default : GatewayIndependence := ⟨true, true, true, true⟩

def disabled : GatewayIndependence := default.setEnabled false

def active (c : GatewayIndependence) : Bool :=
  c.differentNodeFamily || c.differentAsn || c.differentSubnet

end GatewayIndependence

inductive IndependenceViolation where
  | sameGateway
  | sameAsn
  | missingAsn
  | sameNodeFamily
  | overlappingSubnet
  | missingSubnet

def IndependenceViolation.asStr : IndependenceViolation → String
  | .sameGateway => "same gateway"
  | .sameAsn => "same ASN"
  | .missingAsn => "ASN unknown"
  | .sameNodeFamily => "same node family"
  | .overlappingSubnet => "overlapping subnet"
  | .missingSubnet => "subnet unknown"

def overlaps : IpNetwork → IpNetwork → Bool
  | .v4 a, .v4 b => b.contains a.addr || a.contains b.addr
  | .v6 a, .v6 b => b.contains a.addr || a.contains b.addr
  | _, _ => false

def Gateway.asn (g : Gateway) : Option Asn := g.location.bind Location.asn

def asnViolations (criteria : GatewayIndependence) (asn₁ asn₂ : Option Asn) :
    List IndependenceViolation :=
  if criteria.differentAsn then
    match asn₁, asn₂ with
    | some a, some b => if a.asn == b.asn then [.sameAsn] else []
    | _, _ => [.missingAsn]
  else []

/-- Being in no family is the default, and independent of every other gateway. -/
def familyViolations (criteria : GatewayIndependence) (family₁ family₂ : Option ℕ) :
    List IndependenceViolation :=
  if criteria.differentNodeFamily then
    match family₁, family₂ with
    | some a, some b => if a == b then [.sameNodeFamily] else []
    | _, _ => []
  else []

def subnetViolations (criteria : GatewayIndependence) (asn₁ asn₂ : Option Asn) :
    List IndependenceViolation :=
  if criteria.differentSubnet then
    match asn₁.bind Asn.route, asn₂.bind Asn.route with
    | some a, some b => if overlaps a b then [.overlappingSubnet] else []
    | _, _ => [.missingSubnet]
  else []

def independenceViolations (gw₁ gw₂ : Gateway) (criteria : GatewayIndependence) :
    List IndependenceViolation :=
  if gw₁.identity == gw₂.identity then [.sameGateway]
  else asnViolations criteria gw₁.asn gw₂.asn ++
    familyViolations criteria gw₁.familyId gw₂.familyId ++
    subnetViolations criteria gw₁.asn gw₂.asn

def gatewaysAreIndependent (gw₁ gw₂ : Gateway) (criteria : GatewayIndependence) : Bool :=
  (independenceViolations gw₁ gw₂ criteria).isEmpty

def describeViolations (violations : List IndependenceViolation) : String :=
  ", ".intercalate (violations.map IndependenceViolation.asStr)

inductive GatewayDirectoryError where
  | entryGatewayUnavailable (source : Error)
  | exitGatewayUnavailable (source : Error)
  | needsRelaxedIndependenceCriteria (violated : String)

structure PairSelection where
  entryPoint : EntryPoint
  exitPoint : ExitPoint
  entryFilters : GatewayFilters
  exitFilters : GatewayFilters

def blacklistFilters (blacklist : List NodeIdentity) : GatewayFilters :=
  if blacklist.isEmpty then [] else [.notBlacklisted blacklist]

theorem length_removeGateway_lt {l : GatewayList} {g : Gateway}
    (h : ∃ x ∈ l.gateways, x.identity = g.identity) :
    (l.removeGateway g).gateways.length < l.gateways.length := by
  obtain ⟨x, hx, hid⟩ := h
  refine List.length_filter_lt_length_iff_exists.2 ⟨x, hx, ?_⟩
  simp [hid]

namespace PairSelection

def entryCandidates (entryGateways : GatewayList) (exitGateway : Gateway)
    (criteria : GatewayIndependence) : GatewayList :=
  { entryGateways with
    gateways := entryGateways.gateways.filter fun entryGateway =>
      gatewaysAreIndependent entryGateway exitGateway criteria }

/-- The rounds of the selection. An exit without an entry is not tried again. -/
def selectLoop (selection : PairSelection) (entryGateways : GatewayList)
    (criteria : GatewayIndependence) (rand : ℕ → ℕ) (round : ℕ) (exitCandidates : GatewayList)
    (entryError : Option GatewayDirectoryError) :
    Except GatewayDirectoryError (Gateway × Gateway) :=
  match _h : exitCandidates.findBestExitGateway selection.exitPoint selection.exitFilters
    (rand (2 * round)) with
  | .error err => .error (entryError.getD (.exitGatewayUnavailable err))
  | .ok exitGateway =>
    let entries := entryCandidates entryGateways exitGateway criteria
    match entries.findBestEntryGateway selection.entryPoint selection.entryFilters
      (rand (2 * round + 1)) with
    | .ok entryGateway => .ok (entryGateway, exitGateway)
    | .error err =>
      selection.selectLoop entryGateways criteria rand (round + 1)
        (exitCandidates.removeGateway exitGateway) (some (.entryGatewayUnavailable err))
termination_by exitCandidates.gateways.length
decreasing_by exact length_removeGateway_lt (exists_of_findBestExitGateway _h)

/-- An entry point that matches nothing at all fails before any exit is tried.
Only whether the search succeeds matters, which no random number decides. -/
def selectWithCriteria (selection : PairSelection) (entryGateways exitGateways : GatewayList)
    (criteria : GatewayIndependence) (rand : ℕ → ℕ) :
    Except GatewayDirectoryError (Gateway × Gateway) :=
  match entryGateways.findBestEntryGateway selection.entryPoint selection.entryFilters 0 with
  | .error err => .error (.entryGatewayUnavailable err)
  | .ok _ => selection.selectLoop entryGateways criteria rand 0 exitGateways none

/-- The blacklist only steers the choice: it is ignored where it leaves nothing. -/
def blacklistRulesOutEveryEntry (selection : PairSelection) (entryGateways : GatewayList) : Bool :=
  selection.entryFilters.head?.isSome &&
    (entryGateways.findBestEntryGateway selection.entryPoint selection.entryFilters 0).isOk.not &&
    (entryGateways.findBestEntryGateway selection.entryPoint [] 0).isOk

/-- The selection that runs: without the entry filters where they rule out every
entry. -/
def effective (selection : PairSelection) (entryGateways : GatewayList) : PairSelection :=
  if selection.blacklistRulesOutEveryEntry entryGateways then
    { selection with entryFilters := [] }
  else selection

/-- The strict and the relaxed attempt use random numbers of their own. -/
def select (selection : PairSelection) (entryGateways exitGateways : GatewayList)
    (criteria : GatewayIndependence) (rand relaxedRand : ℕ → ℕ) :
    Except GatewayDirectoryError (Gateway × Gateway) :=
  let selection := selection.effective entryGateways
  match selection.selectWithCriteria entryGateways exitGateways criteria rand with
  | .ok pair => .ok pair
  | .error strictError =>
    if !criteria.active then .error strictError
    else
      match selection.selectWithCriteria entryGateways exitGateways .disabled relaxedRand with
      | .ok (entryGateway, exitGateway) =>
        .error (.needsRelaxedIndependenceCriteria
          (describeViolations (independenceViolations entryGateway exitGateway criteria)))
      | .error _ => .error strictError

end PairSelection

end GatewayDirectory
