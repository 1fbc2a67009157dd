import NymVpn.Netfilter.Include

/-!
# Split-tunnel exclusions

The exclusions are read from what uci shows of the package `nym-vpn`. Those that are enabled
and valid end in a file that the firewall includes, and in the configuration of dnsmasq.
-/

namespace Rpcd

open Text

structure Exclusion where
  id : String
  type : String
  mac : Option String
  domain : Option String
  label : Option String
  enabled : Bool

/-- The sections that are exclusions, and the options of all sections, the last read first. -/
structure Shown where
  order : List String
  options : List ((String × String) × String)

namespace Shown

def get (shown : Shown) (sid opt : String) : Option String := shown.options.lookup (sid, opt)

def getNonempty (shown : Shown) (sid opt : String) : Option String :=
  (shown.get sid opt).filter (· ≠ "")

def addLine (shown : Shown) (line : String) : Shown :=
  match (stripStart "nym-vpn." line).bind (splitOnce '=') with
  | none => shown
  | some (path, value) =>
    let value := trimMatches '\'' value
    match splitOnce '.' path with
    | none =>
      if value = "exclusion" then { shown with order := shown.order ++ [path] } else shown
    | some (sid, opt) => { shown with options := ((sid, opt), value) :: shown.options }

def exclusion (shown : Shown) (sid : String) : Option Exclusion := do
  let type ← shown.getNonempty sid "type"
  return {
    id := sid
    type
    mac := shown.getNonempty sid "mac"
    domain := shown.getNonempty sid "domain"
    label := shown.getNonempty sid "label"
    enabled := (shown.get sid "enabled").getD "1" ≠ "0" }

end Shown

def parseSplitExclusions (uciShow : String) : List Exclusion :=
  let shown := (strLines uciShow).foldl Shown.addLine ⟨[], []⟩
  shown.order.filterMap shown.exclusion

/-! ## Valid values -/

def validMac (mac : String) : Option String :=
  let parts := mac.toList.splitOn ':'
  if parts.length ≠ 6 || parts.any fun p => byteLength p ≠ 2 || !p.all isHexDigit then none
  else some (asciiLowercase mac)

def invalidLabel (label : List Char) : Bool :=
  label.isEmpty || !label.head?.any Char.isAlphanum || !label.getLast?.any Char.isAlphanum ||
    !label.all fun c => c.isAlphanum || c == '-'

def validDomain (domain : String) : Option String :=
  if domain.isEmpty || domain.utf8ByteSize > 253 then none
  else
    let labels := domain.toList.splitOn '.'
    if labels.length < 2 then none
    else
      let tld := labels.getLastD []
      if byteLength tld < 2 || !tld.all Char.isAlpha then none
      else if labels.dropLast.any invalidLabel then none
      else some (asciiLowercase domain)

/-! ## Targets -/

/-- An exclusion whose value is not valid, for the log. -/
structure Skipped where
  id : String
  what : String
  raw : String
deriving DecidableEq

structure SplitTargets where
  clients : List String
  domains : List String
  skipped : List Skipped
deriving DecidableEq

def SplitTargets.add (targets : SplitTargets) (excl : Exclusion) : SplitTargets :=
  if !excl.enabled then targets
  else if excl.type = "client" then
    let raw := excl.mac.getD ""
    match validMac raw with
    | some mac => { targets with clients := targets.clients ++ [mac] }
    | none => { targets with skipped := targets.skipped ++ [⟨excl.id, "MAC", raw⟩] }
  else if excl.type = "domain" then
    let raw := excl.domain.getD ""
    match validDomain raw with
    | some domain => { targets with domains := targets.domains ++ [domain] }
    | none => { targets with skipped := targets.skipped ++ [⟨excl.id, "domain", raw⟩] }
  else targets

def splitTargets (exclusions : List Exclusion) : SplitTargets :=
  exclusions.foldl SplitTargets.add ⟨[], [], []⟩

/-! ## The file of the firewall -/

def splitMark : String := "0x14e"

def clientLine (mac : String) : String := "\tether saddr " ++ mac ++ " meta mark set " ++ splitMark

def commentLines : List String :=
  ["# Managed by luci-app-nym-vpn — do not edit by hand.",
    "# Marks split-tunnel carve-outs with fwmark " ++ splitMark ++ " (priority-90",
    "# ip rule routes them out the real WAN). Included into table inet fw4."]

def setLines : List String :=
  ["set nym_bypass4 \x7b", "\ttype ipv4_addr", "\x7d"] ++
    ["set nym_bypass6 \x7b", "\ttype ipv6_addr", "\x7d"]

def bypassLines : List String :=
  ["\tip daddr @nym_bypass4 meta mark set " ++ splitMark,
    "\tip6 daddr @nym_bypass6 meta mark set " ++ splitMark]

def renderSplitNft (clients domains : List String) : String :=
  unlines (commentLines ++ (if domains.isEmpty then [] else setLines) ++
    ("chain nym_split \x7b" ::
      ("\ttype filter hook prerouting priority mangle - 1; policy accept;" ::
        (clients.map clientLine ++ if domains.isEmpty then [] else bypassLines)) ++ ["\x7d"]))

/-! ## What the targets are -/

def Exclusion.client (excl : Exclusion) : Option String :=
  if excl.enabled ∧ excl.type = "client" then validMac (excl.mac.getD "") else none

section Targets

variable {targets : SplitTargets} {excl : Exclusion}

end Targets

/-! ## Valid values -/

/-- Six groups of two digits. -/
structure IsMac (mac : String) : Prop where
  length_eq : (mac.toList.splitOn ':').length = 6
  groups : ∀ g ∈ mac.toList.splitOn ':', g.length = 2 ∧ ∀ c ∈ g, isHexDigit c = true

theorem IsMac.asciiLowercase {mac : String} (h : IsMac mac) : IsMac (asciiLowercase mac) := by
  have hsplit : (Text.asciiLowercase mac).toList.splitOn ':' =
      (mac.toList.splitOn ':').map (List.map Char.toLower) := by
    rw [Text.asciiLowercase, String.toList_ofList]
    exact splitOn_map (fun c => toLower_eq_iff (by decide)) _
  refine ⟨by rw [hsplit, List.length_map, h.length_eq], ?_⟩
  rw [hsplit, List.forall_mem_map]
  intro g hg
  rw [List.length_map, List.forall_mem_map]
  exact ⟨(h.groups g hg).1, fun c hc => isHexDigit_toLower ((h.groups g hg).2 c hc)⟩

open Netfilter.Nft

section File

variable {mac : String}

theorem IsMac.chars (h : IsMac mac) : ∀ c ∈ mac.toList, c = ':' ∨ isHexDigit c = true := by
  intro c hc
  rcases eq_or_mem_splitOn hc with hcolon | ⟨g, hg, hc⟩
  · exact Or.inl hcolon
  · exact Or.inr ((h.groups g hg).2 c hc)

variable {clients domains : List String}

end File

end Rpcd
