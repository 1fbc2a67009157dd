import NymVpn.Dns.Repoint

/-!
# Pointing dnsmasq at the managed file

The daemon reverts what it may have staged before, removes a repoint that was committed
by accident, stages the repoint, and restarts dnsmasq only where it runs without it.
-/

namespace NymDns

open Program Program.Prog Text Uci

/-! ## The system -/

/-- A file that can be there and not be readable. -/
structure File where
  content : Option String
  readable : Bool

def File.read (f : File) : Option String := if f.readable then f.content else none

theorem File.content_eq_of_read {f : File} {text : String} (h : f.read = some text) :
    f.content = some text := by
  unfold File.read at h
  split at h
  · exact h
  · cases h

inductive SysCall where
  | uci (c : Command)
  | committedDhcp
  | generatedConf (name : String)
  | restartDnsmasq
  | serviceJson
  | sendHup (pid : ℕ)
  | readWan
  | readManaged
  | writeTmp (content : String)
  | renameTmp

abbrev SysAnswer : SysCall → Type
  | .uci _ => Except String String
  | .committedDhcp => String
  | .generatedConf _ => Option String
  | .restartDnsmasq => Except String Unit
  | .serviceJson => String
  | .sendHup _ => Unit
  | .readWan => Option String
  | .readManaged => Option String
  | .writeTmp _ => Except String Unit
  | .renameTmp => Except String Unit

/-- The package `dhcp`, and the files the daemon reads and writes. -/
structure SysWorld where
  uci : State
  managed : File
  tmp : Option String
  wan : File
  writes : List String

abbrev SysProg := Prog SysCall SysAnswer

def uci (c : Command) : SysProg (Except String String) := call (SysCall.uci c)

def committedDhcp : SysProg String := call SysCall.committedDhcp

def generatedConf (name : String) : SysProg (Option String) := call (SysCall.generatedConf name)

def runRestart : SysProg (Except String Unit) := call SysCall.restartDnsmasq

def serviceJson : SysProg String := call SysCall.serviceJson

def sendHup (pid : ℕ) : SysProg Unit := call (SysCall.sendHup pid)

def readWan : SysProg (Option String) := call SysCall.readWan

def readManaged : SysProg (Option String) := call SysCall.readManaged

def writeTmp (content : String) : SysProg (Except String Unit) := call (SysCall.writeTmp content)

def renameTmp : SysProg (Except String Unit) := call SysCall.renameTmp

namespace SysWorld

/-- How the world goes on after a call. Of dnsmasq nothing is assumed. A rename happens
as a whole or not at all. -/
inductive Goes : (c : SysCall) → SysWorld → SysAnswer c → SysWorld → Prop where
  | uci {w : SysWorld} {c : Command} {r : Except String String} {s' : State}
      (h : w.uci.Runs "dhcp" c r s') : Goes (.uci c) w r { w with uci := s' }
  | committedDhcp {w : SysWorld} : Goes .committedDhcp w w.uci.file.text w
  | committedDhcpUnread {w : SysWorld} : Goes .committedDhcp w "" w
  | generatedConf {w : SysWorld} (name : String) (r : Option String) :
      Goes (.generatedConf name) w r w
  | restartDnsmasq {w : SysWorld} (r : Except String Unit) : Goes .restartDnsmasq w r w
  | serviceJson {w : SysWorld} (r : String) : Goes .serviceJson w r w
  | sendHup {w : SysWorld} (pid : ℕ) : Goes (.sendHup pid) w () w
  | readWan {w : SysWorld} : Goes .readWan w w.wan.read w
  | readManaged {w : SysWorld} : Goes .readManaged w w.managed.read w
  | writeTmp {w : SysWorld} (content : String) :
      Goes (.writeTmp content) w (.ok ()) { w with tmp := some content }
  | writeTmpFailed {w : SysWorld} (content : String) (tmp : Option String) (message : String) :
      Goes (.writeTmp content) w (.error message) { w with tmp }
  | renameTmp {w : SysWorld} {content : String} (h : w.tmp = some content) :
      Goes .renameTmp w (.ok ()) { w with
          managed := { w.managed with content := some content }
          tmp := none
          writes := w.writes ++ [content] }
  | renameTmpFailed {w : SysWorld} (message : String) : Goes .renameTmp w (.error message) w

end SysWorld

/-! ## Reading what the system says -/

def generatedConfPointsAt (conf managed : String) : Bool :=
  (strLines conf).any fun line => strTrim line = "resolv-file=" ++ managed

def committedHasManagedPath (committedDhcp : String) : Bool :=
  strContains committedDhcp "nym-resolv.conf"

def parseDnsmasqSection (uciShow : String) : Option String :=
  (strLines uciShow).findSome? fun line => do
    let (key, value) ← splitOnce '=' line
    if value = "dnsmasq" then stripStart "dhcp." key else none

def fromFirst {α : Type*} [DecidableEq α] (part l : List α) : Option (List α) :=
  l.tails.find? part.isPrefixOf

def extractInstancePid (serviceJson name : String) : Option ℕ := do
  let rest ← fromFirst ("\"" ++ name ++ "\"").toList serviceJson.toList
  let rest ← fromFirst "\"pid\"".toList rest
  let digits := ((rest.drop 5).dropWhile fun c => !c.isDigit).takeWhile Char.isDigit
  (readDigits 10 digits).filter (· < 2 ^ 32)

/-! ## Converging -/

def noresolv : Name := ⟨"noresolv", by decide, by decide⟩

def server : Name := ⟨"server", by decide, by decide⟩

def firstDnsmasq : Ref := .first "dnsmasq"

inductive ConvergeOutcome where
  | ready
  | dnsmasqStopped
  | userManagedDns

def uciRevertOption (o : Name) : SysProg PUnit :=
  discard (uci (.revert firstDnsmasq (some o)))

def uciRun (c : Command) : ExceptT Error SysProg Unit := do
  match ← uci c with
  | .ok _ => return ()
  | .error message => throw (.uciCommand message)

def repairCommittedResolvfile : ExceptT Error SysProg Unit := do
  uciRun (.delete firstDnsmasq (some resolvfile))
  uciRun .commit

def dnsmasqSection : SysProg (Option String) := do
  match ← uci .show with
  | .ok shown => return parseDnsmasqSection shown
  | .error _ => return none

def isTruthy (value : String) : Bool :=
  strTrim value ∈ ["1", "on", "true", "yes", "enabled"]

def effectiveNoresolv (name : String) : SysProg Bool := do
  match ← uci (.get (.named name) (some noresolv)) with
  | .ok value => return isTruthy value
  | .error _ => return false

def pointsAt (name managed : String) : SysProg Bool := do
  return (← generatedConf name).any fun conf => generatedConfPointsAt conf managed

def restartDnsmasq : ExceptT Error SysProg Unit := do
  match ← runRestart with
  | .ok () => return ()
  | .error message => throw (.dnsmasqRestart message)

def notConverged : String := "generated config does not point at managed resolv file after restart"

/-- Stages the repoint and restarts dnsmasq if need be, some times over. -/
def stageRepoint (name managed : String) : ℕ → ExceptT Error SysProg ConvergeOutcome
  | 0 => throw (.dnsmasqRestart notConverged)
  | attempts + 1 => do
    uciRun (.set firstDnsmasq (some resolvfile) managed)
    if (extractInstancePid (← serviceJson) name).isNone then return .dnsmasqStopped
    if ← pointsAt name managed then return .ready
    restartDnsmasq
    if ← pointsAt name managed then return .ready
    stageRepoint name managed attempts

/-- Leaves a dnsmasq alone that does not read a file of resolvers. -/
def pointDnsmasq (managed : String) : ExceptT Error SysProg ConvergeOutcome := do
  match ← dnsmasqSection with
  | none => throw .noDnsmasq
  | some name =>
    if ← effectiveNoresolv name then return .userManagedDns
    stageRepoint name managed 2

def converge (managed : String) : ExceptT Error SysProg ConvergeOutcome := do
  uciRevertOption noresolv
  uciRevertOption server
  uciRevertOption resolvfile
  if committedHasManagedPath (← committedDhcp) then repairCommittedResolvfile
  pointDnsmasq managed

/-! ## The calls of converging -/

def Stages : SysCall → Prop
  | .uci (.set _ (some _) _) | .uci (.get _ _) | .uci .show => True
  | .generatedConf _ | .serviceJson | .restartDnsmasq => True
  | _ => False

section Calls

variable {managed : String}

theorem uses_uciRun {A : SysCall → Prop} {c : Command} (h : A (.uci c)) :
    Uses A (uciRun c).run := by
  refine uses_run_bind (uses_run_lift (uses_call h)) fun r => ?_
  cases r <;> trivial

theorem uses_restartDnsmasq : Uses Stages restartDnsmasq.run := by
  refine uses_run_bind (uses_run_lift (uses_call trivial)) fun r => ?_
  cases r <;> trivial

theorem uses_pointsAt (name : String) : Uses Stages (pointsAt name managed) :=
  uses_bind (uses_call trivial) fun _ => trivial

theorem uses_dnsmasqSection : Uses Stages dnsmasqSection := by
  refine uses_bind (uses_call trivial) fun r => ?_
  cases r <;> trivial

theorem uses_effectiveNoresolv (name : String) : Uses Stages (effectiveNoresolv name) := by
  refine uses_bind (uses_call trivial) fun r => ?_
  cases r <;> trivial

theorem uses_stageRepoint (name : String) (attempts : ℕ) :
    Uses Stages (stageRepoint name managed attempts).run := by
  induction attempts with
  | zero => trivial
  | succ attempts ih =>
    refine uses_run_bind (uses_uciRun trivial) fun _ => ?_
    refine uses_run_bind (uses_run_lift (uses_call trivial)) fun json => ?_
    split
    · trivial
    refine uses_run_bind (uses_run_lift (uses_pointsAt name)) fun pointed => ?_
    split
    · trivial
    refine uses_run_bind uses_restartDnsmasq fun _ => ?_
    refine uses_run_bind (uses_run_lift (uses_pointsAt name)) fun pointed => ?_
    split
    · trivial
    exact ih

theorem uses_pointDnsmasq : Uses Stages (pointDnsmasq managed).run := by
  refine uses_run_bind (uses_run_lift uses_dnsmasqSection) fun name => ?_
  cases name with
  | none => trivial
  | some name =>
    refine uses_run_bind (uses_run_lift (uses_effectiveNoresolv name)) fun own => ?_
    split
    · trivial
    · exact uses_stageRepoint name 2

end Calls

end NymDns
