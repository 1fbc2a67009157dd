import NymVpn.Firewall.Emergency
import NymVpn.Firewall.RenderIptables
import NymVpn.Program.Prog

/-!
# The fw3 backend

A policy is put in place by shell commands and file operations, each of which can fail, and
the daemon can die between any two. The functions are programs over these commands;
`Outcome` is what a command can answer and leave behind.
-/

namespace NymFirewall

open Net Netfilter Text Program

inductive Error where
  | applyError (message : String)
deriving DecidableEq

def Error.display : Error → String
  | .applyError message => "failed to apply firewall rules: " ++ message

namespace Fw3

open RenderIptables BootRules

/-- The files of the runtime directory that a policy change writes. -/
inductive StateFile where
  | rulesV4
  | rulesV6
  | transition
deriving DecidableEq

def runtimeDir : String := "/var/run/nym-firewall"

def StateFile.path : StateFile → String
  | .rulesV4 => runtimeDir ++ "/v4.rules"
  | .rulesV6 => runtimeDir ++ "/v6.rules"
  | .transition => runtimeDir ++ "/transition"

structure World where
  tables : AddrFamily → Iptables.Tables
  files : StateFile → Option String

inductive RemoveError where
  | notFound
  | other (e : String)

inductive Cmd where
  /-- Creates the runtime directory when it is missing, and checks that it is private. -/
  | runtimeDir
  | lockState
  /-- Is there a `/proc/sys/net/ipv6`? -/
  | ipv6Exists
  /-- Reads `/proc/sys/net/ipv6/conf/all/disable_ipv6`. -/
  | disableIpv6
  /-- `ip6tables -L -n`. -/
  | ip6tablesUsable
  | writeFile (f : StateFile) (contents : String)
  | removeFile (f : StateFile)
  | ipt (family : AddrFamily) (c : Iptables.Command)
  /-- `iptables -m owner --help`. -/
  | ownerHelp (family : AddrFamily)
  /-- `iptables-restore --noflush -w`, fed with a script. -/
  | restore (family : AddrFamily) (script : String)

def Resp : Cmd → Type
  | .runtimeDir => Except String Unit
  | .lockState => Except String Unit
  | .ipv6Exists => Bool
  | .disableIpv6 => Option String
  | .ip6tablesUsable => Bool
  | .writeFile _ _ => Except String Unit
  | .removeFile _ => Except RemoveError Unit
  | .ipt _ _ => Iptables.Output
  | .ownerHelp _ => Bool
  | .restore _ _ => Iptables.RestoreOutput

abbrev Sys := Prog Cmd Resp
abbrev Fw := ExceptT Error Sys

def sys (c : Cmd) : Sys (Resp c) := Prog.call c

def ipt (family : AddrFamily) (table chain : String) (op : Iptables.Operation) :
    Sys Iptables.Output :=
  sys (.ipt family ⟨table, chain, op⟩)

def iptCmd : AddrFamily → String
  | .v4 => "iptables"
  | .v6 => "ip6tables"

def restoreCmd : AddrFamily → String
  | .v4 => "iptables-restore"
  | .v6 => "ip6tables-restore"

def attempt {α : Type} (x : Fw α) : Fw (Except Error α) := monadLift x.run

def spawnError (cmd e : String) : Error := .applyError ("spawn " ++ cmd ++ ": " ++ e)

def runIpt (family : AddrFamily) (chain : String) (op : Iptables.Operation) : Fw Unit := do
  match ← ipt family "filter" chain op with
  | .spawnFailed e => throw (spawnError (iptCmd family) e)
  | .failed stderr =>
    throw (.applyError (iptCmd family ++ " " ++
      String.intercalate " " ("-w" :: op.args chain) ++ " failed: " ++ trim stderr))
  | .success _ => pure ()

def runRestore (script : String) (family : AddrFamily) : Fw Unit := do
  let cmd := restoreCmd family
  match ← (sys (.restore family script) : Sys Iptables.RestoreOutput) with
  | .spawnFailed e => throw (spawnError cmd e)
  | .writeFailed e => throw (.applyError ("write " ++ cmd ++ " stdin: " ++ e))
  | .waitFailed e => throw (.applyError ("wait " ++ cmd ++ ": " ++ e))
  | .failed stderr => throw (.applyError (cmd ++ " failed: " ++ trim stderr))
  | .success => pure ()

/-! ## State files -/

def ensureRuntimeDir : Fw Unit := do
  match ← (sys .runtimeDir : Sys (Except String Unit)) with
  | .ok _ => pure ()
  | .error what =>
    throw (.applyError ("firewall runtime directory " ++ runtimeDir ++ ": " ++ what ++
      "; refusing to apply a policy on top of it"))

def lockFw3State : Fw Unit := do
  match ← (sys .lockState : Sys (Except String Unit)) with
  | .ok _ => pure ()
  | .error what => throw (.applyError what)

/-- Writes a temporary file and renames it, so that no reader sees half a script. -/
def writeStateFile (f : StateFile) (contents : String) : Fw Unit := do
  match ← (sys (.writeFile f contents) : Sys (Except String Unit)) with
  | .ok _ => pure ()
  | .error e =>
    throw (.applyError ("persist firewall state to " ++ f.path ++ ": " ++ e ++
      "; refusing to report a policy that would disappear on firewall restart"))

def removeStateFile (f : StateFile) : Fw Unit := do
  match ← (sys (.removeFile f) : Sys (Except RemoveError Unit)) with
  | .ok _ => pure ()
  | .error .notFound => pure ()
  | .error (.other e) =>
    throw (.applyError ("remove persisted firewall state " ++ f.path ++ ": " ++ e ++
      "; stale policy could be resurrected on reload"))

def beginTransition : Fw Unit := do
  match ← attempt (writeStateFile .transition "fw3 state transition in progress\n") with
  | .ok _ => pure ()
  | .error e =>
    throw (.applyError ("create fw3 transition marker: " ++ e.display ++
      "; refusing to change live firewall state"))

def finishTransition : Fw Unit := removeStateFile .transition

def persistState (v4Script : String) (v6Script : Option String) : Fw Unit := do
  writeStateFile .rulesV4 v4Script
  match v6Script with
  | some script => writeStateFile .rulesV6 script
  | none => removeStateFile .rulesV6

inductive Ipv6Status where
  | enabled
  | disabled
  /-- Enabled in the kernel, without a usable `ip6tables`. -/
  | unusable

def ipv6Status : Sys Ipv6Status := do
  let exists_ : Bool ← sys .ipv6Exists
  if !exists_ then
    pure .disabled
  else
    let content : Option String ← sys .disableIpv6
    if content.map trim = some "1" then
      pure .disabled
    else
      -- A missing kernel module exits non-zero; without the binary nothing starts.
      let usable : Bool ← sys .ip6tablesUsable
      pure (if usable then .enabled else .unusable)

/-! ## Jumps -/

def jumps : List (String × String) :=
  [(fw3HookInput, chainInput), (fw3HookOutput, chainOutput), (fw3HookForward, chainForward)]

/-- fw3 has no user chains in the mangle table; the built-in ones jump. -/
def mangleJumps : List (String × String) :=
  [("PREROUTING", chainManglePrerouting), ("OUTPUT", chainMangleOutput)]

def jumpsPresent (family : AddrFamily) : Sys Bool :=
  jumps.allM fun j => do
    return (← ipt family "filter" j.1 (.check (jump j.2))).isSuccess

def listHookRules (family : AddrFamily) (hook : String) : Fw (List Iptables.Spec) := do
  match ← ipt family "filter" hook .listRules with
  | .spawnFailed e => throw (spawnError (iptCmd family) e)
  | .failed stderr =>
    throw (.applyError (iptCmd family ++ " -S " ++ hook ++ " failed: " ++ trim stderr))
  | .success rules => pure rules

def startsWithNymJump (spec : Iptables.Spec) : Bool :=
  "-j NYM_".toList.isPrefixOf (String.intercalate " " spec).toList

/-- Present, with only jumps to chains of ours ahead of it. -/
def jumpPositionOk (rules : List Iptables.Spec) (jump : Iptables.Spec) : Bool :=
  match rules.idxOf? jump with
  | some i => (rules.take i).all startsWithNymJump
  | none => false

def deleteDuplicates (family : AddrFamily) (hook : String) (jump : Iptables.Spec)
    (rules : List (Iptables.Spec × ℕ)) : Fw Unit :=
  forM rules fun r =>
    if r.1 = jump then runIpt family hook (.deleteNth (r.2 + 1)) else pure ()

def placeJump (family : AddrFamily) (hook : String) (jump : Iptables.Spec) :
    Fw (List Iptables.Spec) := do
  let rules ← listHookRules family hook
  if jumpPositionOk rules jump then
    pure rules
  else
    runIpt family hook (.insert jump)
    listHookRules family hook

def ensureJump (family : AddrFamily) (hook target : String) : Fw Unit := do
  let rules ← placeJump family hook (jump target)
  -- Highest rule number first so the remaining numbers stay valid.
  let first := (rules.idxOf? (jump target)).getD 0
  deleteDuplicates family hook (jump target) (rules.zipIdx.drop (first + 1)).reverse

def setupJumps (family : AddrFamily) : Fw Unit :=
  forM jumps fun j => ensureJump family j.1 j.2

def jumpPresent (family : AddrFamily) (table hook target : String) : Fw Bool := do
  match ← ipt family table hook (.check (jump target)) with
  | .spawnFailed e => throw (spawnError (iptCmd family) e)
  | .failed _ => pure false
  | .success _ => pure true

/-- Presence only: ahead of a mangle jump a foreign rule can only leave a flow unmarked. -/
def setupMangleJumps (family : AddrFamily) : Fw Unit :=
  forM mangleJumps fun j => do
    if ← jumpPresent family "mangle" j.1 j.2 then
      pure ()
    else
      match ← ipt family "mangle" j.1 (.insert (jump j.2)) with
      | .spawnFailed e => throw (spawnError (iptCmd family) e)
      | .failed stderr =>
        throw (.applyError (iptCmd family ++ " -t mangle -I " ++ j.1 ++ " -j " ++ j.2 ++
          " failed: " ++ trim stderr))
      | .success _ => pure ()

def cleanup (family : AddrFamily) (table : String) (jumps : List (String × String)) : Sys Unit := do
  forM jumps fun j => discard (ipt family table j.1 (.delete (jump j.2)))
  forM jumps fun j => do
    discard (ipt family table j.2 .flush)
    discard (ipt family table j.2 .deleteChain)

def cleanupMangle (family : AddrFamily) : Sys Unit := cleanup family "mangle" mangleJumps

/-! ## The emergency block -/

/-- The daemon installs the transition set only; the boot set is the include's. -/
def emergencyScript (family : AddrFamily) : String := iptablesEmergencyRules family .transition

def installEmergencyBlock (family : AddrFamily) : Fw Unit :=
  runRestore (emergencyScript family) family

def chainExists (family : AddrFamily) (chain : String) : Fw Bool := do
  match ← ipt family "filter" chain .listChain with
  | .spawnFailed e => throw (spawnError (iptCmd family) e)
  | .failed _ => pure false
  | .success _ => pure true

/-- The loop that deletes a jump until there is none; it has no bound of its own. -/
def deleteJumps (family : AddrFamily) (hook chain : String) : ℕ → Fw Unit
  | 0 => ExceptT.mk Prog.hang
  | fuel + 1 => do
    match ← ipt family "filter" hook (.delete (jump chain)) with
    | .spawnFailed e => throw (spawnError (iptCmd family) e)
    | .failed _ => pure ()
    | .success _ => deleteJumps family hook chain fuel

/-- A chain that is gone already is what was wanted. -/
def dropChain (family : AddrFamily) (chain : String) : List Iptables.Operation → Fw Unit
  | [] => pure ()
  | op :: ops => do
    match ← attempt (runIpt family chain op) with
    | .ok _ => dropChain family chain ops
    | .error e => if ← chainExists family chain then throw e else pure ()

def emergencyJumps : List (String × String) :=
  [(fw3HookOutput, emergencyOutputChain), (fw3HookForward, emergencyForwardChain)]

def removeEmergencyChain (fuel : ℕ) (family : AddrFamily) (hook chain : String) : Fw Unit := do
  if ← chainExists family chain then
    deleteJumps family hook chain fuel
    if ← jumpPresent family "filter" hook chain then
      throw (.applyError ("failed to remove emergency jump " ++ hook ++ " -> " ++ chain ++
        " from " ++ iptCmd family))
    else
      dropChain family chain [.flush, .deleteChain]
  else
    pure ()

def removeEmergencyBlock (fuel : ℕ) (family : AddrFamily) : Fw Unit :=
  forM emergencyJumps fun j => removeEmergencyChain fuel family j.1 j.2

def removeEmergencyBlocks (fuel : ℕ) (withV6 : Bool) : Fw Unit := do
  removeEmergencyBlock fuel .v4
  if withV6 then
    removeEmergencyBlock fuel .v6
  else
    -- Without IPv6, `ip6tables` may be uninspectable.
    discard (attempt (removeEmergencyBlock fuel .v6))

/-! ## Applying a policy -/

def connmarkProbe : String := "NYM_CONNMARK_PROBE"

/-- Probed with a real append to a scratch chain. -/
def connmarkTargetAvailable (family : AddrFamily) : Sys Bool := do
  discard (ipt family "mangle" connmarkProbe .newChain)
  let appended ← ipt family "mangle" connmarkProbe
    (.append ["-j", "CONNMARK", "--restore-mark"])
  discard (ipt family "mangle" connmarkProbe .flush)
  discard (ipt family "mangle" connmarkProbe .deleteChain)
  return appended.isSuccess

def ownerMatchAvailable (family : AddrFamily) : Sys Bool := sys (.ownerHelp family)

/-- Without the owner match the daemon-only exceptions are dropped. -/
def ownerFallback (rs : RuleSet) (family : AddrFamily) : Sys RuleSet := do
  if rs.hasSkuid then
    if ← ownerMatchAvailable family then pure rs else pure rs.withoutSkuidRules
  else
    pure rs

def applyFilter (rs : RuleSet) (family : AddrFamily) : Fw String := do
  let rs ← ownerFallback rs family
  let script := render rs family
  runRestore script family
  return script

/-- One mangle rule that does not parse would fail the whole restore. -/
def connmarkFallback (rs : RuleSet) (family : AddrFamily) : Sys RuleSet := do
  if !rs.mangle.isEmpty then
    if ← connmarkTargetAvailable family then pure rs else pure rs.withoutMangleRules
  else
    pure rs

/-- The mangle chains are hooked, or removed when the script has none. -/
def settleMangle (family : AddrFamily) (hasMangle : Bool) : Fw Unit :=
  if hasMangle then setupMangleJumps family else monadLift (cleanupMangle family)

def applyFamily (rs : RuleSet) (family : AddrFamily) : Fw String := do
  let rs ← connmarkFallback rs family
  let script ← applyFilter rs family
  setupJumps family
  settleMangle family (!rs.mangle.isEmpty)
  return script

def hasMangleTable (script : String) : Bool := (lines script).any (· == "*mangle")

def activateFamilyScript (script : String) (family : AddrFamily) : Fw Unit := do
  runRestore script family
  setupJumps family
  settleMangle family (hasMangleTable script)

def ipv6Unusable : Error :=
  .applyError ("IPv6 is enabled in the kernel but ip6tables is unusable; refusing to " ++
    "install an IPv4-only kill-switch (IPv6 traffic would bypass it). " ++
    "Install ip6tables and kmod-ip6tables, or disable IPv6.")

def resolveIpv6 : Fw Bool := do
  match ← ipv6Status with
  | .enabled => pure true
  | .disabled => pure false
  | .unusable => throw ipv6Unusable

/-- The block goes in where the policy is not hooked yet. -/
def guardFamily (family : AddrFamily) : Fw Unit := do
  if !(← jumpsPresent family) then
    installEmergencyBlock family

/-- IPv6 can become enabled long after IPv4 was first hooked. -/
def guardFamilies (withV6 : Bool) : Fw Unit :=
  forM [AddrFamily.v4, .v6] fun family =>
    if family = .v6 && !withV6 then pure () else guardFamily family

def applyFamilyV6 (rs : RuleSet) (withV6 : Bool) : Fw (Option String) :=
  if withV6 then do return some (← applyFamily rs .v6) else pure none

/-- A jump that is missing means that the tables were flushed meanwhile. -/
def reactivate (script : String) (family : AddrFamily) : Fw Unit := do
  if !(← jumpsPresent family) then
    activateFamilyScript script family

def reactivateV6 : Option String → Fw Unit
  | some script => reactivate script .v6
  | none => pure ()

def apply (fuel : ℕ) (rs : RuleSet) : Fw Unit := do
  ensureRuntimeDir
  lockFw3State
  let withV6 ← resolveIpv6
  beginTransition
  guardFamilies withV6
  -- The persisted scripts are the ones after the fallbacks.
  let v4Script ← applyFamily rs .v4
  let v6Script ← applyFamilyV6 rs withV6
  persistState v4Script v6Script
  finishTransition
  reactivate v4Script .v4
  reactivateV6 v6Script
  removeEmergencyBlocks fuel withV6

/-! ## What the commands do -/

structure Facts where
  ipv6Dir : Bool
  ipv6Disabled : Bool

def Facts.enabled (facts : Facts) : AddrFamily → Bool
  | .v4 => true
  | .v6 => facts.ipv6Dir && !facts.ipv6Disabled

def World.setTables (w : World) (family : AddrFamily) (T : Iptables.Tables) : World :=
  { w with tables := Function.update w.tables family T }

def World.setFile (w : World) (f : StateFile) (contents : Option String) : World :=
  { w with files := Function.update w.files f contents }

/-- The answers a command can give, and the world after it. A file operation
that fails has changed nothing: a file is written aside and renamed. -/
def Outcome (facts : Facts) : (c : Cmd) → World → Resp c → World → Prop
  | .runtimeDir, w, _, w' => w' = w
  | .lockState, w, _, w' => w' = w
  | .ipv6Exists, w, r, w' => r = facts.ipv6Dir ∧ w' = w
  | .disableIpv6, w, r, w' => (Option.map trim r = some "1" → facts.ipv6Disabled = true) ∧ w' = w
  | .ip6tablesUsable, w, _, w' => w' = w
  | .writeFile f contents, w, r, w' =>
    match r with
    | .ok _ => w' = w.setFile f (some contents)
    | .error _ => w' = w
  | .removeFile f, w, r, w' =>
    match r with
    | .ok _ => w' = w.setFile f none
    | .error .notFound => w.files f = none ∧ w' = w
    | .error (.other _) => w' = w
  | .ipt family c, w, r, w' => ∃ T, c.Outcome (w.tables family) r T ∧ w' = w.setTables family T
  | .ownerHelp _, w, _, w' => w' = w
  | .restore family script, w, r, w' =>
    ∃ T, Iptables.RestoreOutcome script (w.tables family) r T ∧ w' = w.setTables family T

def Cmd.family? : Cmd → Option AddrFamily
  | .ipt family _ => some family
  | .restore family _ => some family
  | _ => none

def Cmd.file? : Cmd → Option StateFile
  | .writeFile f _ => some f
  | .removeFile f => some f
  | _ => none

section Frame

variable {facts : Facts} {w w' : World} {family : AddrFamily}

theorem Outcome.ipt {c : Iptables.Command} {o : Iptables.Output}
    (h : Outcome facts (.ipt family c) w o w') :
    c.Outcome (w.tables family) o (w'.tables family) := by
  obtain ⟨T, hT, rfl⟩ := h
  simpa [World.setTables] using hT

theorem Outcome.restore {script : String} {o : Iptables.RestoreOutput}
    (h : Outcome facts (.restore family script) w o w') :
    Iptables.RestoreOutcome script (w.tables family) o (w'.tables family) := by
  obtain ⟨T, hT, rfl⟩ := h
  simpa [World.setTables] using hT

variable {c : Cmd} {r : Resp c}

theorem Outcome.tables_eq (h : Outcome facts c w r w') (hc : c.family? ≠ some family) :
    w'.tables family = w.tables family := by
  cases c with
  | ipt f c | restore f script =>
    obtain ⟨T, -, rfl⟩ := h
    exact Function.update_of_ne (fun heq => hc (congrArg some heq.symm)) _ _
  | writeFile f contents =>
    cases r <;> rw [h]
    rfl
  | removeFile f =>
    rcases r with (_ | e) | _
    · rw [h.2]
    · rw [h]
    · rw [h]
      rfl
  | ipv6Exists | disableIpv6 => rw [h.2]
  | _ => rw [h]

theorem Outcome.files_eq {f : StateFile} (h : Outcome facts c w r w')
    (hc : c.file? ≠ some f) : w'.files f = w.files f := by
  have hne {g : StateFile} (hg : some g ≠ some f) : f ≠ g :=
    fun heq => hg (congrArg some heq.symm)
  cases c with
  | ipt f c | restore f script =>
    obtain ⟨T, -, rfl⟩ := h
    rfl
  | writeFile f contents =>
    cases r <;> rw [h]
    exact Function.update_of_ne (hne hc) _ _
  | removeFile f =>
    rcases r with (_ | e) | _
    · rw [h.2]
    · rw [h]
    · rw [h]
      exact Function.update_of_ne (hne hc) _ _
  | ipv6Exists | disableIpv6 => rw [h.2]
  | _ => rw [h]

end Frame

end Fw3

end NymFirewall
