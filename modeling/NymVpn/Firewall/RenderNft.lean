import NymVpn.Firewall.FaithfulIptables
import NymVpn.Netfilter.NftScript

/-!
# Rendering for `nft -f`

The rule set is rendered as the table `inet nym`, which sees the packets of both families.
-/

namespace NymFirewall

open Net Netfilter Text

namespace RenderNft

def filterPriorityOffset : ℤ := -10
def manglePriorityOffset : ℤ := -10

def nymTable : String := "nym"

/-- `inet {table}` deleted whether it exists or not. -/
def deleteTable (table : String) : String :=
  "table inet " ++ table ++ "\ndelete table inet " ++ table ++ "\n"

def addrFamily : Family → String
  | .v4 => "ip"
  | .v6 => "ip6"
  -- The compiler always sets a family when there is an address.
  | .inet => "ip"

def icmpv4Name : IcmpV4Type → String
  | .echoRequest => "echo-request"

def icmpv6Name : IcmpV6Type → String
  | .routerSolicit => "nd-router-solicit"
  | .neighborSolicit => "nd-neighbor-solicit"
  | .neighborAdvert => "nd-neighbor-advert"
  | .echoRequest => "echo-request"

open RenderIptables (renderAddr writeln)

def impliesFamily (m : Match) : Bool :=
  m.saddr.isSome || m.daddr.isSome || m.icmpv4Type.isSome || m.icmpv6Type.isSome

def familyParts (rule : Rule) : List String :=
  if !impliesFamily rule.matches_ then
    match rule.family with
    | .v4 => ["meta nfproto ipv4"]
    | .v6 => ["meta nfproto ipv6"]
    | .inet => []
  else []

def portParts (m : Match) (proto : String) : List String :=
  (m.sport.map fun sport => proto ++ " sport " ++ decimal sport.toNat).toList ++
  (m.dport.map fun dport => proto ++ " dport " ++ decimal dport.toNat).toList ++
  if m.sport.isNone && m.dport.isNone then ["meta l4proto " ++ proto] else []

def protoParts (m : Match) : List String :=
  match m.proto with
  | some .tcp => portParts m "tcp"
  | some .udp => portParts m "udp"
  -- Implied by the type match.
  | some .icmp | some .icmpV6 | none => []

def matchParts (rule : Rule) : List String :=
  let m := rule.matches_
  familyParts rule ++
  (m.iif.map fun iface => "iifname \"" ++ iface ++ "\"").toList ++
  (m.oif.map fun iface => "oifname \"" ++ iface ++ "\"").toList ++
  (m.iifNot.map fun iface => "iifname != \"" ++ iface ++ "\"").toList ++
  (m.ctState.map fun | .new => "ct state new").toList ++
  (m.mark.map fun mark => "meta mark " ++ hexMarked mark.toNat).toList ++
  (m.ctMark.map fun mark => "ct mark " ++ hexMarked mark.toNat).toList ++
  (m.skuid.map fun uid => "meta skuid " ++ decimal uid.toNat).toList ++
  (m.saddr.map fun a => addrFamily rule.family ++ " saddr " ++ renderAddr a).toList ++
  (m.daddr.map fun a => addrFamily rule.family ++ " daddr " ++ renderAddr a).toList ++
  (m.icmpv4Type.map fun t => "icmp type " ++ icmpv4Name t).toList ++
  (m.icmpv6Type.map fun t => "icmpv6 type " ++ icmpv6Name t).toList ++
  protoParts m ++
  (m.rateLimit.map fun rl => "limit rate " ++ (decimal rl.perMinute.toNat ++
    "/minute burst ") ++ (decimal rl.burst.toNat ++ " packets")).toList

def renderVerdict : Verdict → String
  | .accept => "accept"
  | .return_ => "return"
  | .drop_ => "drop"
  | .reject => "reject"
  | .setCtMark n => "ct mark set " ++ hexMarked n.toNat
  | .restoreMark => "meta mark set ct mark"

def renderRule (rule : Rule) : String :=
  String.intercalate " " (matchParts rule ++ [renderVerdict rule.verdict])

def renderRules (out : String) (chain : Chain) : String :=
  chain.foldl (fun out rule => writeln out ("        " ++ renderRule rule)) out

def offsetText (offset : ℤ) : String :=
  (if offset < 0 then "-" else "+") ++ " " ++ decimal offset.natAbs

def renderChain (out chainName hook : String) (chain : Chain) : String :=
  let out := writeln out ("    chain " ++ chainName ++ " \x7b")
  let out := writeln out ("        type filter hook " ++ hook ++ " priority filter " ++
    offsetText filterPriorityOffset ++ "; policy accept;")
  let out := renderRules out chain
  writeln out "    \x7d"

def renderMangleChain (out chainName hook : String) (chain : Chain) : String :=
  let out := writeln out ("    chain " ++ chainName ++ " \x7b")
  let out := writeln out ("        type filter hook " ++ hook ++ " priority mangle " ++
    offsetText manglePriorityOffset ++ ";")
  let out := renderRules out chain
  writeln out "    \x7d"

def render (rs : RuleSet) : String :=
  let out := ""
  let out := writeln out "#!/usr/sbin/nft -f"
  let out := writeln out ""
  let out := out ++ deleteTable nymTable
  let out := writeln out ""
  let out := writeln out ("table inet " ++ nymTable ++ " \x7b")
  let out :=
    if !rs.mangle.isEmpty then
      let out := renderMangleChain out "mangle_prerouting" "prerouting" rs.mangle.prerouting
      renderMangleChain out "mangle_output" "output" rs.mangle.output
    else out
  let out := renderChain out "input" "input" rs.filter.input
  let out := renderChain out "output" "output" rs.filter.output
  let out := renderChain out "forward" "forward" rs.filter.forward
  writeln out "\x7d"

def renderChainAssert (hook : String) (chain : Chain) : Bool :=
  hook == "output" || chain.all fun r => r.matches_.skuid.isNone

def renderAsserts (rs : RuleSet) : Bool :=
  (rs.mangle.isEmpty || (renderChainAssert "prerouting" rs.mangle.prerouting &&
    renderChainAssert "output" rs.mangle.output)) &&
  renderChainAssert "input" rs.filter.input &&
  renderChainAssert "output" rs.filter.output &&
  renderChainAssert "forward" rs.filter.forward

end RenderNft

end NymFirewall
