import NymVpn.Firewall.Sections
import NymVpn.Net.Display

/-!
# Rendering for `iptables-restore`

A rule set is rendered once per address family, without the rules of the other one. A
`debug_assert!` of the renderer is a condition on the rule set, collected in `renderAsserts`.
-/

namespace NymFirewall

open Net Netfilter Text

namespace RenderIptables

def chainInput : String := "NYM_INPUT"
def chainOutput : String := "NYM_OUTPUT"
def chainForward : String := "NYM_FORWARD"
def chainManglePrerouting : String := "NYM_MANGLE_PREROUTING"
def chainMangleOutput : String := "NYM_MANGLE_OUTPUT"

def familyMatches : Family → AddrFamily → Bool
  | .v4, .v4 => true
  | .v6, .v6 => true
  | .inet, _ => true
  | _, _ => false

def protoStr : Proto → String
  | .tcp => "tcp"
  | .udp => "udp"
  | .icmp => "icmp"
  | .icmpV6 => "icmpv6"

def renderAddr : AddrMatch → String
  | .ip ip => ip.display
  | .net n => n.display

def icmpv4Name : IcmpV4Type → String
  | .echoRequest => "echo-request"

def icmpv6Name : IcmpV6Type → String
  | .routerSolicit => "router-solicitation"
  | .neighborSolicit => "neighbour-solicitation"
  | .neighborAdvert => "neighbour-advertisement"
  | .echoRequest => "echo-request"

/-- TCP gets a reset, so that clients see a clean refusal. -/
def rejectWith (rule : Rule) (family : AddrFamily) : String :=
  if rule.matches_.proto = some .tcp then "tcp-reset"
  else
    match family with
    | .v4 => "icmp-port-unreachable"
    | .v6 => "icmp6-port-unreachable"

def renderVerdict (rule : Rule) (family : AddrFamily) : String :=
  match rule.verdict with
  | .accept => "-j ACCEPT"
  | .return_ => "-j RETURN"
  | .drop_ => "-j DROP"
  | .reject => "-j REJECT --reject-with " ++ rejectWith rule family
  | .setCtMark n => "-j CONNMARK --set-mark " ++ hexMarked n.toNat
  | .restoreMark => "-j CONNMARK --restore-mark"

def matchParts (m : Match) : List String :=
  (m.iif.map fun iface => "-i " ++ iface).toList ++
  (m.oif.map fun iface => "-o " ++ iface).toList ++
  (m.iifNot.map fun iface => "! -i " ++ iface).toList ++
  (m.saddr.map fun addr => "-s " ++ renderAddr addr).toList ++
  (m.daddr.map fun addr => "-d " ++ renderAddr addr).toList ++
  (m.proto.map fun proto => "-p " ++ protoStr proto).toList ++
  (m.icmpv4Type.map fun t => "--icmp-type " ++ icmpv4Name t).toList ++
  (m.icmpv6Type.map fun t => "--icmpv6-type " ++ icmpv6Name t).toList ++
  (m.sport.map fun port => "--sport " ++ decimal port.toNat).toList ++
  (m.dport.map fun port => "--dport " ++ decimal port.toNat).toList ++
  (m.ctState.map fun | .new => "-m conntrack --ctstate NEW").toList ++
  (m.mark.map fun mark => "-m mark --mark " ++ hexMarked mark.toNat).toList ++
  (m.ctMark.map fun mark => "-m connmark --mark " ++ hexMarked mark.toNat).toList ++
  (m.skuid.map fun uid => "-m owner --uid-owner " ++ decimal uid.toNat).toList ++
  (m.rateLimit.map fun rl => "-m limit --limit " ++ (decimal rl.perMinute.toNat ++
    "/minute --limit-burst ") ++ decimal rl.burst.toNat).toList

def renderRule (rule : Rule) (family : AddrFamily) : String :=
  String.intercalate " " (matchParts rule.matches_ ++ [renderVerdict rule family])

def writeln (out line : String) : String := out ++ line ++ "\n"

def renderChain (out chain : String) (c : Chain) (family : AddrFamily) : String :=
  c.foldl (fun out rule =>
    if familyMatches rule.family family then
      writeln out ("-A " ++ chain ++ " " ++ renderRule rule family)
    else out) out

def render (rs : RuleSet) (family : AddrFamily) : String :=
  let out := ""
  let out :=
    if !rs.mangle.isEmpty then
      let out := writeln out "*mangle"
      let out := writeln out (":" ++ chainManglePrerouting ++ " - [0:0]")
      let out := writeln out (":" ++ chainMangleOutput ++ " - [0:0]")
      let out := writeln out ("-F " ++ chainManglePrerouting)
      let out := writeln out ("-F " ++ chainMangleOutput)
      let out := renderChain out chainManglePrerouting rs.mangle.prerouting family
      let out := renderChain out chainMangleOutput rs.mangle.output family
      writeln out "COMMIT"
    else out
  let out := writeln out "*filter"
  let out := writeln out (":" ++ chainInput ++ " - [0:0]")
  let out := writeln out (":" ++ chainOutput ++ " - [0:0]")
  let out := writeln out (":" ++ chainForward ++ " - [0:0]")
  let out := writeln out ("-F " ++ chainInput)
  let out := writeln out ("-F " ++ chainOutput)
  let out := writeln out ("-F " ++ chainForward)
  let out := renderChain out chainInput rs.filter.input family
  let out := renderChain out chainOutput rs.filter.output family
  let out := renderChain out chainForward rs.filter.forward family
  writeln out "COMMIT"

def renderChainAssert (chain : String) (c : Chain) : Bool :=
  chain == chainOutput || chain == chainMangleOutput || c.all fun r => r.matches_.skuid.isNone

def renderRuleAssert (rule : Rule) : Bool :=
  (rule.matches_.icmpv4Type.isNone && rule.matches_.icmpv6Type.isNone) || rule.matches_.proto.isSome

def chainAsserts (chain : String) (c : Chain) (family : AddrFamily) : Bool :=
  renderChainAssert chain c &&
    (c.filter fun r => familyMatches r.family family).all renderRuleAssert

def renderAsserts (rs : RuleSet) (family : AddrFamily) : Bool :=
  (rs.mangle.isEmpty || (chainAsserts chainManglePrerouting rs.mangle.prerouting family &&
    chainAsserts chainMangleOutput rs.mangle.output family)) &&
  chainAsserts chainInput rs.filter.input family &&
  chainAsserts chainOutput rs.filter.output family &&
  chainAsserts chainForward rs.filter.forward family

end RenderIptables

end NymFirewall
