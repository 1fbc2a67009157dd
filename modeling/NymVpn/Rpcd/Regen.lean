import NymVpn.Rpcd.CommitDhcp
import NymVpn.Rpcd.Split

/-!
# Applying split-tunnel exclusions

An edit brings a section of the package `dhcp` to the wanted domains, writes the file of the
firewall, and has the firewall and dnsmasq take them. Every command may fail.
-/

namespace Rpcd

open Program Program.Prog Text Uci

/-! ## Commands -/

structure Output where
  success : Bool
  status : String
  stderr : String

inductive SystemCommand where
  | fw4Reload
  | initd (service action : String)
  | nftFlushSet (set : String)
deriving DecidableEq

inductive SplitCommand where
  | showExclusions
  | dnsmasqVersion
  | uci (c : Uci.Command)
  | removeNft
  | writeNft (content : String)
  | system (c : SystemCommand)

structure RemoveError where
  notFound : Bool
  message : String

abbrev SplitAnswer : SplitCommand → Type
  | .showExclusions => Option String
  | .dnsmasqVersion => Option String
  | .uci _ => Except String String
  | .removeNft => Except RemoveError Unit
  | .writeNft _ => Except String Unit
  | .system _ => Except String Output

/-! ## The section of dnsmasq -/

def splitIpset : Ref := .named "nym_split_ipset"

def domainOption : Name := ⟨"domain", by decide, by decide⟩

def nameOption : Name := ⟨"name", by decide, by decide⟩

def tableOption : Name := ⟨"table", by decide, by decide⟩

def tableFamilyOption : Name := ⟨"table_family", by decide, by decide⟩

def domainWords : Except String String → List String
  | .error _ => []
  | .ok domains => fields isWhiteSpace domains

def domainsIfIpset : Bool → Prog Command Answer (List String)
  | true => do
    let answer ← call (.get splitIpset (some domainOption))
    return domainWords answer
  | false => return []

def splitIpsetDomains : Prog Command Answer (Option (List String)) := do
  match ← call (.get splitIpset none) with
  | .error _ => return none
  | .ok kind =>
    let domains ← domainsIfIpset (strTrim kind = "ipset")
    return some domains

def issue (c : Command) : ExceptT String (Prog Command Answer) Unit :=
  ExceptT.mk do return (← call c).map fun _ => ()

def stageSplitIpset (present : Bool) (wanted : Option (List String)) :
    ExceptT String (Prog Command Answer) Unit := do
  if present then issue (.delete splitIpset none)
  match wanted with
  | none => return ()
  | some domains =>
    issue (.set splitIpset none "ipset")
    issue (.addList splitIpset nameOption "nym_bypass4")
    issue (.addList splitIpset nameOption "nym_bypass6")
    forM domains fun domain => issue (.addList splitIpset domainOption domain)
    issue (.set splitIpset (some tableOption) "fw4")
    issue (.set splitIpset (some tableFamilyOption) "inet")

/-- What was done to `dhcp`: a new list was committed, and a domain left it. -/
structure DhcpChange where
  changed : Bool := false
  removed : Bool := false

def stageAndCommit (present : Bool) (wanted : Option (List String)) :
    ExceptT String (Prog Command Answer) Unit := do
  stageSplitIpset present wanted
  ExceptT.mk commitDhcp

/-- Brings the section to `wanted` (`none`: no section) and says what changed. -/
def syncSplitIpset (wanted : Option (List String)) :
    Prog Command Answer (Except String DhcpChange) := do
  let current ← splitIpsetDomains
  if current = wanted then return .ok {}
  match ← (stageAndCommit current.isSome wanted).run with
  | .error err =>
    -- What is half staged is dropped, so that a later commit cannot pick it up.
    discard (call (.revert splitIpset none))
    return .error err
  | .ok () =>
    let kept := wanted.getD []
    return .ok ⟨true, (current.getD []).any (· ∉ kept)⟩

/-! ## The system -/

abbrev SplitProg := Prog SplitCommand SplitAnswer

def runSystem (c : SystemCommand) : SplitProg (Except String Output) := call (SplitCommand.system c)

def commandError (what : String) (output : Output) : String :=
  let stderr := strTrim output.stderr
  what ++ ": " ++ if stderr = "" then output.status else stderr

def initdRunChecked (service action : String) : SplitProg (Except String Unit) := do
  let what := "/etc/init.d/" ++ service ++ " " ++ action
  match ← runSystem (.initd service action) with
  | .error err => return .error (what ++ ": " ++ err)
  | .ok output => return if output.success then .ok () else .error (commandError what output)

def reloadFirewall : SplitProg (Except String Unit) := do
  match ← runSystem .fw4Reload with
  | .ok output => if output.success then return .ok () else initdRunChecked "firewall" "reload"
  | .error _ => initdRunChecked "firewall" "reload"

def flushed (output : Output) : Bool :=
  output.success || hasPart "No such file or directory".toList output.stderr.toList

def flushBypassSet (set : String) : SplitProg (List String) := do
  let what := "nft flush set inet fw4 " ++ set
  match ← runSystem (.nftFlushSet set) with
  | .error err => return [what ++ ": " ++ err]
  | .ok output => return if flushed output then [] else [commandError what output]

def bypassSetNames : List String := ["nym_bypass4", "nym_bypass6"]

def joinErrors (errors : List String) : Except String Unit :=
  if errors = [] then .ok () else .error (String.intercalate "; " errors)

def flushBypassSets : SplitProg (Except String Unit) := do
  let errors ← bypassSetNames.foldlM (fun errors set => return errors ++ (← flushBypassSet set)) []
  return joinErrors errors

def reloadDnsmasq : SplitProg (Except String Unit) := initdRunChecked "dnsmasq" "reload"

def errorOf : Except String Unit → List String
  | .ok () => []
  | .error err => [err]

def onlyIf (due : Bool) (step : SplitProg (Except String Unit)) : SplitProg (Except String Unit) :=
  if due then step else pure (.ok ())

/-- Every step is run, even after one that failed. -/
def applySplit (dhcp : DhcpChange) (nftFile : Except String Unit) :
    SplitProg (Except String Unit) := do
  let firewall ← reloadFirewall
  let flush ← onlyIf dhcp.removed flushBypassSets
  let dnsmasq ← onlyIf dhcp.changed reloadDnsmasq
  return joinErrors ([nftFile, firewall, flush, dnsmasq].flatMap errorOf)

/-! ## An edit -/

def nftsetSupportedIn (versionOutput : String) : Bool :=
  let tokens := fields isWhiteSpace versionOutput
  "nftset" ∈ tokens && "no-nftset" ∉ tokens

def nftsetSupported : SplitProg Bool := do
  let output ← (call SplitCommand.dnsmasqVersion : SplitProg (Option String))
  return output.any nftsetSupportedIn

def splitExclusions : SplitProg (List Exclusion) := do
  let output ← (call SplitCommand.showExclusions : SplitProg (Option String))
  return output.elim [] parseSplitExclusions

def splitNft : String := "/etc/nftables.d/30-nym-split.nft"

def updateSplitNft (clients domains : List String) : SplitProg (Except String Unit) := do
  if clients = [] ∧ domains = [] then
    match ← (call SplitCommand.removeNft : SplitProg (Except RemoveError Unit)) with
    | .error err =>
      if err.notFound then return .ok ()
      else return .error ("remove " ++ splitNft ++ ": " ++ err.message)
    | .ok () => return .ok ()
  else
    let written ← (call (SplitCommand.writeNft (renderSplitNft clients domains)) :
      SplitProg (Except String Unit))
    return written.mapError fun err => "write " ++ splitNft ++ ": " ++ err

def wantedDomains (domains : List String) : SplitProg (Option (List String)) :=
  if domains = [] then return none
  else do
    let supported ← nftsetSupported
    return if supported then some domains else none

def regenSplit : SplitProg (Except String Unit) := do
  let targets := splitTargets (← splitExclusions)
  let wanted ← wantedDomains targets.domains
  match ← (syncSplitIpset wanted).embed SplitCommand.uci with
  | .error err => return .error err
  | .ok dhcp =>
    let nftFile ← updateSplitNft targets.clients targets.domains
    applySplit dhcp nftFile

end Rpcd
