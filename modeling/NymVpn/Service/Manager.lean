import NymVpn.Service.ConfigFile

/-!
# The configuration manager

A setter whose value is new changes the memory, writes the file and notifies the listeners,
whether or not the write succeeds. A write that fails leaves the old file; how each one ends
is an input.
-/

namespace VpnService

open Serde VpnServiceConfigExt

/-! ## Files -/

inductive JsonFile where
  | unreadable
  | malformed
  | json (j : Json)

inductive TomlFile where
  | unreadable
  | malformed
  | legacy (c : Legacy.VpnServiceConfig)

/-- The configuration directory: the file, its predecessor of the first releases, and
the copy kept of a file that could not be read. -/
structure Disk where
  json : Option JsonFile := none
  toml : Option TomlFile := none
  bak : Option JsonFile := none

/-- How a write ends; a failure carries the messages from the outermost cause inwards. -/
inductive WriteOutcome where
  | written
  | failed (causes : List String)
deriving DecidableEq

inductive ReadError where
  | readConfig
  | parseJson
  | parseToml
  | convert (e : ConfigSetupError)

/-- The messages of an error, from the outermost cause inwards. -/
def ConfigSetupError.causes : ConfigSetupError → List String
  | .entryPoint message => ["failed to convert entry point: " ++ message]
  | .exitPoint message => ["failed to convert exit point: " ++ message]
  | .ipAddress message => ["failed to convert IP address", message]

def readFromFile (t : TextForms) (disk : Disk) :
    Except ReadError (VpnServiceConfig × Option VpnServiceConfigVersion) :=
  match disk.json with
  | some .unreadable => .error .readConfig
  | some .malformed => .error .parseJson
  | some (.json j) =>
    match fromJson (α := VpnServiceConfigExt) j with
    | none => .error .parseJson
    | some e => do return (← (e.tryInto t).mapError .convert, some e.version)
  | none =>
    match disk.toml with
    | some .unreadable => .error .readConfig
    | some .malformed => .error .parseToml
    | some (.legacy c) => do return (← (c.tryInto t).mapError .convert, none)
    | none => .ok (.default, none)

/-! ## The manager -/

inductive FrontPolicy where
  | onRetry
  | always

def frontPolicyOf (stealthApi : Bool) : FrontPolicy :=
  if stealthApi then .always else .onRetry

/-- The manager together with what it acts on: the directory, the fronting policy of the
process, and the configurations it has notified its listeners of. -/
structure VpnServiceConfigManager where
  config : VpnServiceConfig
  disk : Disk
  frontPolicy : FrontPolicy
  events : List VpnServiceConfig

structure StartOutcome where
  stashed : Bool
  write : WriteOutcome
  removed : Bool

namespace VpnServiceConfigManager

def writeToFile (t : TextForms) (outcome : WriteOutcome) (m : VpnServiceConfigManager) :
    Except (List String) Unit × VpnServiceConfigManager :=
  match VpnServiceConfigExt.tryFrom t m.config, outcome with
  | .error e, _ => (.error e.causes, m)
  | .ok _, .failed causes => (.error causes, m)
  | .ok e, .written => (.ok (), { m with disk.json := some (.json (toJson e)) })

def stash (stashed : Bool) (disk : Disk) : Disk :=
  if stashed && disk.json.isSome then { disk with json := none, bak := disk.json } else disk

def removeToml (removed : Bool) (disk : Disk) : Disk :=
  if removed then { disk with toml := none } else disk

/-- The configuration to start with, the version it was read from, and the directory
then: a file that cannot be read gives the defaults. -/
def load (t : TextForms) (stashed : Bool) (disk : Disk) :
    VpnServiceConfig × Option VpnServiceConfigVersion × Disk :=
  match readFromFile t disk with
  | .ok (config, version) => (config, version, disk)
  | .error _ => (.default, none, stash stashed disk)

def new (t : TextForms) (outcome : StartOutcome) (disk : Disk) : VpnServiceConfigManager :=
  let loaded := load t outcome.stashed disk
  let m : VpnServiceConfigManager :=
    ⟨loaded.1, loaded.2.2, frontPolicyOf loaded.1.stealthApi, []⟩
  let m := if loaded.2.1 ≠ some .latest then (m.writeToFile t outcome.write).2 else m
  { m with disk := removeToml outcome.removed m.disk }

def notSavedMessage (causes : List String) : String :=
  causes.foldl (fun message cause => message ++ ": " ++ cause)
    "setting applied but not saved to disk (lost on reboot): config setup error"

/-- The listeners are notified even when the write fails: the memory did change. -/
def saveConfigAndSendEvent (t : TextForms) (outcome : WriteOutcome)
    (m : VpnServiceConfigManager) : Except String Unit × VpnServiceConfigManager :=
  let written := m.writeToFile t outcome
  (written.1.mapError notSavedMessage,
    { written.2 with events := written.2.events ++ [written.2.config] })

/-! ## Setters -/

section Setters

variable (t : TextForms) (outcome : WriteOutcome)

def setIfChanged {α : Type} [DecidableEq α] (get : VpnServiceConfig → α)
    (put : VpnServiceConfig → VpnServiceConfig) (value : α) (m : VpnServiceConfigManager) :
    Except String Unit × VpnServiceConfigManager :=
  if get m.config ≠ value then
    saveConfigAndSendEvent t outcome { m with config := put m.config }
  else (.ok (), m)

def setEntryPoint (entryPoint : GatewayDirectory.EntryPoint) :=
  setIfChanged t outcome (·.entryPoint) ({ · with entryPoint }) entryPoint

def setExitPoint (exitPoint : GatewayDirectory.ExitPoint) :=
  setIfChanged t outcome (·.exitPoint) ({ · with exitPoint }) exitPoint

def setDisableIpv6 (disableIpv6 : Bool) :=
  setIfChanged t outcome (·.disableIpv6) ({ · with disableIpv6 }) disableIpv6

def setEnableTwoHop (enableTwoHop : Bool) :=
  setIfChanged t outcome (·.enableTwoHop) ({ · with enableTwoHop }) enableTwoHop

def setEnableLewesProtocol (enableLewesProtocol : Bool) :=
  setIfChanged t outcome (·.enableLewesProtocol) ({ · with enableLewesProtocol })
    enableLewesProtocol

def setNetstack (netstack : Bool) :=
  setIfChanged t outcome (·.netstack) ({ · with netstack }) netstack

def setAllowLan (allowLan : Bool) :=
  setIfChanged t outcome (·.allowLan) ({ · with allowLan }) allowLan

def setEnableBridges (enableBridges : Bool) :=
  setIfChanged t outcome (·.enableBridges) ({ · with enableBridges }) enableBridges

def setResidentialExit (residentialOnly : Bool) :=
  setIfChanged t outcome (·.residentialExit) ({ · with residentialExit := residentialOnly })
    residentialOnly

def setEnableAdBlocking (enableAdBlocking : Bool) :=
  setIfChanged t outcome (·.enableAdBlocking) ({ · with enableAdBlocking }) enableAdBlocking

def setKillswitch (killswitch : Bool) :=
  setIfChanged t outcome (·.killswitch) ({ · with killswitch }) killswitch

def setLegacySplitTunnel (legacySplitTunnel : Bool) :=
  setIfChanged t outcome (·.legacySplitTunnel) ({ · with legacySplitTunnel }) legacySplitTunnel

def setStealthApi (stealthApi : Bool) (m : VpnServiceConfigManager) :
    Except String Unit × VpnServiceConfigManager :=
  if m.config.stealthApi ≠ stealthApi then
    saveConfigAndSendEvent t outcome { m with
        config := { m.config with stealthApi }
        frontPolicy := frontPolicyOf stealthApi }
  else (.ok (), m)

def setAlwaysOn (alwaysOn : Bool) :=
  setIfChanged t outcome (·.alwaysOn) ({ · with alwaysOn }) alwaysOn

def setGatewayIndependenceEnabled (enabled : Bool) (m : VpnServiceConfigManager) :
    Except String Unit × VpnServiceConfigManager :=
  let gatewayIndependence := m.config.gatewayIndependence.setEnabled enabled
  setIfChanged t outcome (·.gatewayIndependence) ({ · with gatewayIndependence })
    gatewayIndependence m

def setGatewayIndependenceNotifications (enabled : Bool) :=
  setIfChanged t outcome (·.gatewayIndependence.enableNotifications)
    (fun c => { c with gatewayIndependence.enableNotifications := enabled }) enabled

def setInboundExemptions (exemptions : List InboundExemption) :=
  setIfChanged t outcome (·.inboundExemptions) ({ · with inboundExemptions := exemptions })
    exemptions

def setReporting {α : Type} [DecidableEq α] (get : VpnServiceConfig → α)
    (put : VpnServiceConfig → VpnServiceConfig) (value : α) (m : VpnServiceConfigManager) :
    Except String Bool × VpnServiceConfigManager :=
  if get m.config = value then (.ok false, m)
  else
    let saved := saveConfigAndSendEvent t outcome { m with config := put m.config }
    (saved.1.map fun _ => true, saved.2)

def setEnableCustomDns (enableCustomDns : Bool) :=
  setReporting t outcome (·.enableCustomDns) ({ · with enableCustomDns }) enableCustomDns

def setCustomDns (customDns : List Net.IpAddr) :=
  setReporting t outcome (·.customDns) ({ · with customDns }) customDns

def setMixnetTrafficConfig (mixnetTraffic : MixnetTrafficConfig)
    (m : VpnServiceConfigManager) : Except String Unit × VpnServiceConfigManager :=
  match mixnetTraffic.validate with
  | .error message => (.error message, m)
  | .ok () =>
    setIfChanged t outcome (·.mixnetTraffic) ({ · with mixnetTraffic }) mixnetTraffic m

/-- The value that is stored is capped, the one that is compared is not; the result of
the save is dropped. -/
def setMinGatewayVpnPerformance (minGatewayVpnPerformance : Option UInt8)
    (m : VpnServiceConfigManager) : VpnServiceConfigManager :=
  (setIfChanged t outcome (·.minGatewayVpnPerformance)
    ({ · with minGatewayVpnPerformance := minGatewayVpnPerformance.map (min · 100) })
    minGatewayVpnPerformance m).2

end Setters

end VpnServiceConfigManager

/-! ## The configuration a setter leaves -/

namespace VpnServiceConfigManager

variable {t : TextForms} {outcome : WriteOutcome} {m : VpnServiceConfigManager}

theorem config_writeToFile : (m.writeToFile t outcome).2.config = m.config := by
  unfold writeToFile
  split <;> rfl

theorem config_saveConfigAndSendEvent : (saveConfigAndSendEvent t outcome m).2.config = m.config :=
  config_writeToFile

theorem saveConfigAndSendEvent_eq_ok_iff :
    (saveConfigAndSendEvent t outcome m).1 = .ok () ↔ outcome = .written := by
  have htryFrom : ∃ e, tryFrom t m.config = .ok e := by
    unfold tryFrom
    cases m.config.entryPoint <;> cases m.config.exitPoint <;> exact ⟨_, rfl⟩
  obtain ⟨e, he⟩ := htryFrom
  cases outcome with
  | written | failed causes => simp [saveConfigAndSendEvent, writeToFile, he, Except.mapError]

section Configs

variable (t : TextForms) (outcome : WriteOutcome) {α : Type} [DecidableEq α]
  (get : VpnServiceConfig → α) (put : VpnServiceConfig → VpnServiceConfig) (value : α)
  (m : VpnServiceConfigManager)

theorem setIfChanged_eq : setIfChanged t outcome get put value m =
    if get m.config = value then (.ok (), m)
    else saveConfigAndSendEvent t outcome { m with config := put m.config } :=
  ite_not ..

theorem config_setIfChanged : (setIfChanged t outcome get put value m).2.config = m.config ∨
    (setIfChanged t outcome get put value m).2.config = put m.config := by
  rw [setIfChanged_eq]
  split
  · exact Or.inl rfl
  · exact Or.inr config_saveConfigAndSendEvent

theorem setIfChanged_eq_ok_iff : (setIfChanged t outcome get put value m).1 = .ok () ↔
    get m.config = value ∨ outcome = .written := by
  rw [setIfChanged_eq]
  split
  · next h => exact iff_of_true rfl (Or.inl h)
  · next h => rw [saveConfigAndSendEvent_eq_ok_iff, or_iff_right h]

theorem config_setReporting : (setReporting t outcome get put value m).2.config = m.config ∧
      (setReporting t outcome get put value m).1 = .ok false ∨
    (setReporting t outcome get put value m).2.config = put m.config ∧
      (setReporting t outcome get put value m).1 ≠ .ok false := by
  unfold setReporting
  split
  · exact Or.inl ⟨rfl, rfl⟩
  · refine Or.inr ⟨config_saveConfigAndSendEvent, ?_⟩
    cases hr : (saveConfigAndSendEvent t outcome { m with config := put m.config }).1 <;>
      simp [Except.map, hr]

end Configs

/-! What a setter does not put is kept. -/

section Keeps

variable {α β : Type} [DecidableEq α] {get : VpnServiceConfig → α}
  {put : VpnServiceConfig → VpnServiceConfig} {value : α} {f : VpnServiceConfig → β}

theorem keeps_setIfChanged (hput : ∀ c, f (put c) = f c) :
    f (setIfChanged t outcome get put value m).2.config = f m.config := by
  cases config_setIfChanged t outcome get put value m with
  | inl h => rw [h]
  | inr h => rw [h, hput]

theorem keeps_setReporting (hput : ∀ c, f (put c) = f c) :
    f (setReporting t outcome get put value m).2.config = f m.config := by
  cases config_setReporting t outcome get put value m with
  | inl h => rw [h.1]
  | inr h => rw [h.1, hput]

theorem keeps_setStealthApi {stealthApi : Bool}
    (hput : ∀ c : VpnServiceConfig, f { c with stealthApi } = f c) :
    f (setStealthApi t outcome stealthApi m).2.config = f m.config := by
  unfold setStealthApi
  split
  · rw [config_saveConfigAndSendEvent, hput]
  · rfl

end Keeps

end VpnServiceConfigManager

/-! ## Calls of the setters -/

inductive SetterCall where
  | entryPoint (entryPoint : GatewayDirectory.EntryPoint)
  | exitPoint (exitPoint : GatewayDirectory.ExitPoint)
  | disableIpv6 (disableIpv6 : Bool)
  | enableTwoHop (enableTwoHop : Bool)
  | enableLewesProtocol (enableLewesProtocol : Bool)
  | netstack (netstack : Bool)
  | allowLan (allowLan : Bool)
  | enableBridges (enableBridges : Bool)
  | residentialExit (residentialOnly : Bool)
  | enableAdBlocking (enableAdBlocking : Bool)
  | killswitch (killswitch : Bool)
  | legacySplitTunnel (legacySplitTunnel : Bool)
  | stealthApi (stealthApi : Bool)
  | alwaysOn (alwaysOn : Bool)
  | gatewayIndependenceEnabled (enabled : Bool)
  | gatewayIndependenceNotifications (enabled : Bool)
  | inboundExemptions (exemptions : List InboundExemption)
  | enableCustomDns (enableCustomDns : Bool)
  | customDns (customDns : List Net.IpAddr)
  | mixnetTrafficConfig (mixnetTraffic : MixnetTrafficConfig)
  | minGatewayVpnPerformance (minGatewayVpnPerformance : Option UInt8)

inductive SetterResult where
  | nothing
  | done (result : Except String Unit)
  | reported (result : Except String Bool)

def SetterResult.isOk : SetterResult → Bool
  | .done (.ok _) | .reported (.ok _) => true
  | _ => false

namespace SetterCall

open VpnServiceConfigManager SetterCall

def call (t : TextForms) (outcome : WriteOutcome) (m : VpnServiceConfigManager) :
    SetterCall → SetterResult × VpnServiceConfigManager
  | .entryPoint v => (setEntryPoint t outcome v m).map .done id
  | .exitPoint v => (setExitPoint t outcome v m).map .done id
  | .disableIpv6 v => (setDisableIpv6 t outcome v m).map .done id
  | .enableTwoHop v => (setEnableTwoHop t outcome v m).map .done id
  | .enableLewesProtocol v => (setEnableLewesProtocol t outcome v m).map .done id
  | .netstack v => (setNetstack t outcome v m).map .done id
  | .allowLan v => (setAllowLan t outcome v m).map .done id
  | .enableBridges v => (setEnableBridges t outcome v m).map .done id
  | .residentialExit v => (setResidentialExit t outcome v m).map .done id
  | .enableAdBlocking v => (setEnableAdBlocking t outcome v m).map .done id
  | .killswitch v => (setKillswitch t outcome v m).map .done id
  | .legacySplitTunnel v => (setLegacySplitTunnel t outcome v m).map .done id
  | .stealthApi v => (setStealthApi t outcome v m).map .done id
  | .alwaysOn v => (setAlwaysOn t outcome v m).map .done id
  | .gatewayIndependenceEnabled v => (setGatewayIndependenceEnabled t outcome v m).map .done id
  | .gatewayIndependenceNotifications v =>
    (setGatewayIndependenceNotifications t outcome v m).map .done id
  | .inboundExemptions v => (setInboundExemptions t outcome v m).map .done id
  | .enableCustomDns v => (setEnableCustomDns t outcome v m).map .reported id
  | .customDns v => (setCustomDns t outcome v m).map .reported id
  | .mixnetTrafficConfig v => (setMixnetTrafficConfig t outcome v m).map .done id
  | .minGatewayVpnPerformance v => (.nothing, setMinGatewayVpnPerformance t outcome v m)

/-- The call asks for the value the memory already has, so that its setter has nothing
to do and says so. -/
def repeats (c : VpnServiceConfig) : SetterCall → Bool
  | .entryPoint v => c.entryPoint = v
  | .exitPoint v => c.exitPoint = v
  | .disableIpv6 v => c.disableIpv6 = v
  | .enableTwoHop v => c.enableTwoHop = v
  | .enableLewesProtocol v => c.enableLewesProtocol = v
  | .netstack v => c.netstack = v
  | .allowLan v => c.allowLan = v
  | .enableBridges v => c.enableBridges = v
  | .residentialExit v => c.residentialExit = v
  | .enableAdBlocking v => c.enableAdBlocking = v
  | .killswitch v => c.killswitch = v
  | .legacySplitTunnel v => c.legacySplitTunnel = v
  | .stealthApi v => c.stealthApi = v
  | .alwaysOn v => c.alwaysOn = v
  | .gatewayIndependenceEnabled v =>
    c.gatewayIndependence = c.gatewayIndependence.setEnabled v
  | .gatewayIndependenceNotifications v => c.gatewayIndependence.enableNotifications = v
  | .inboundExemptions v => c.inboundExemptions = v
  | .enableCustomDns v => c.enableCustomDns = v
  | .customDns v => c.customDns = v
  | .mixnetTrafficConfig v => v.validate.isOk && decide (c.mixnetTraffic = v)
  | .minGatewayVpnPerformance _ => false

end SetterCall

/-! ## Durability -/

namespace VpnServiceConfigManager

variable {t : TextForms} {outcome : WriteOutcome} {m : VpnServiceConfigManager}

def Saved (t : TextForms) (m : VpnServiceConfigManager) : Prop :=
  ∃ j, m.disk.json = some (.json j) ∧ decode t j = some m.config

theorem saved_writeToFile (ht : t.RoundTrips) : (m.writeToFile t .written).2.Saved t := by
  obtain ⟨e, he, -, hinto⟩ := exists_tryFrom ht m.config
  simp only [writeToFile, he]
  exact ⟨toJson e, rfl, decode_toJson hinto⟩

theorem saved_of_saveConfigAndSendEvent (ht : t.RoundTrips)
    (h : (saveConfigAndSendEvent t outcome m).1 = .ok ()) :
    (saveConfigAndSendEvent t outcome m).2.Saved t := by
  obtain rfl := saveConfigAndSendEvent_eq_ok_iff.1 h
  exact saved_writeToFile ht

end VpnServiceConfigManager

namespace SetterCall

open VpnServiceConfigManager

variable {t : TextForms} {outcome : WriteOutcome} {m : VpnServiceConfigManager} {α : Type}

inductive Comes (t : TextForms) (outcome : WriteOutcome) (m : VpnServiceConfigManager)
    (repeats : Bool) : SetterResult × VpnServiceConfigManager → Prop
  | repeated {r : SetterResult} (hrepeats : repeats = true) (hok : r.isOk = true) :
      Comes t outcome m repeats (r, m)
  | refused {r : SetterResult} (hrepeats : repeats = false) (hok : r.isOk = false) :
      Comes t outcome m repeats (r, m)
  | saved {r : SetterResult} {m' : VpnServiceConfigManager} (hrepeats : repeats = false)
      (hok : r.isOk = true → (saveConfigAndSendEvent t outcome m').1 = .ok ()) :
      Comes t outcome m repeats (r, (saveConfigAndSendEvent t outcome m').2)

theorem comes_ite {a : α} {f : Except String Unit → α} {g : α → SetterResult}
    {unchanged : Prop} [Decidable unchanged] {m' : VpnServiceConfigManager}
    (ha : (g a).isOk = true) (hf : ∀ e, (g (f (.error e))).isOk = false) :
    Comes t outcome m (decide unchanged)
      ((if unchanged then (a, m) else (f (saveConfigAndSendEvent t outcome m').1,
        (saveConfigAndSendEvent t outcome m').2)).map g id) := by
  split
  · next h => exact .repeated (decide_eq_true h) ha
  · next h =>
      refine .saved (decide_eq_false h) fun hok => ?_
      cases hsaved : (saveConfigAndSendEvent t outcome m').1 with
      | error e => simp [hsaved, hf] at hok
      | ok u => rfl

theorem comes_setIfChanged [DecidableEq α] {get : VpnServiceConfig → α}
    {put : VpnServiceConfig → VpnServiceConfig} {value : α} {repeats : Bool}
    (h : repeats = decide (get m.config = value)) :
    Comes t outcome m repeats ((setIfChanged t outcome get put value m).map .done id) := by
  rw [setIfChanged_eq, h]
  exact comes_ite (f := id) rfl fun _ => rfl

theorem comes_call (call : SetterCall) :
    Comes t outcome m (call.repeats m.config) (call.call t outcome m) := by
  cases call with
  | enableCustomDns v | customDns v =>
    exact comes_ite (f := Except.map fun _ => true) (g := .reported) rfl fun _ => rfl
  | stealthApi v =>
    rw [call, setStealthApi, ite_not]
    exact comes_ite (f := id) rfl fun _ => rfl
  | mixnetTrafficConfig v =>
    rw [call, setMixnetTrafficConfig, repeats]
    cases hv : v.validate with
    | error message => exact .refused rfl rfl
    | ok u => exact comes_setIfChanged (Bool.true_and _)
  | minGatewayVpnPerformance v =>
    rw [call, setMinGatewayVpnPerformance, setIfChanged_eq]
    split
    · exact .refused rfl rfl
    · exact .saved rfl fun hok => nomatch hok
  | gatewayIndependenceEnabled v =>
    rw [call, setGatewayIndependenceEnabled]
    exact comes_setIfChanged rfl
  | _ =>
    unfold call
    apply comes_setIfChanged
    rfl

/-- A setter that reports success leaves the file with the configuration in memory,
unless it had nothing to do and the file was behind already. -/
theorem saved_call_iff (ht : t.RoundTrips) (call : SetterCall) :
    ((call.call t outcome m).1.isOk = true → (call.call t outcome m).2.Saved t) ↔
      (call.repeats m.config = true → m.Saved t) := by
  have hcomes : Comes t outcome m (call.repeats m.config) (call.call t outcome m) :=
    comes_call call
  generalize call.call t outcome m = result at hcomes
  cases hcomes with
  | repeated hrepeats hok => exact ⟨fun h _ => h hok, fun h _ => h hrepeats⟩
  | refused hrepeats hok => simp [hrepeats, hok]
  | saved hrepeats hok =>
    refine ⟨fun _ h => absurd h (by simp [hrepeats]), fun _ h => ?_⟩
    exact saved_of_saveConfigAndSendEvent ht (hok h)

theorem saved_call_written (ht : t.RoundTrips) (h : m.Saved t) (call : SetterCall) :
    (call.call t .written m).2.Saved t := by
  have hcomes : Comes t .written m (call.repeats m.config) (call.call t .written m) :=
    comes_call call
  generalize call.call t .written m = result at hcomes
  cases hcomes with
  | repeated hrepeats hok | refused hrepeats hok => exact h
  | saved hrepeats hok =>
    exact saved_of_saveConfigAndSendEvent ht (saveConfigAndSendEvent_eq_ok_iff.2 rfl)

end SetterCall

namespace VpnServiceConfigManager

variable {t : TextForms} {version : VpnServiceConfigVersion} {m : VpnServiceConfigManager}
  {disk : Disk}

def runCalls (t : TextForms) (m : VpnServiceConfigManager)
    (calls : List (SetterCall × WriteOutcome)) : VpnServiceConfigManager :=
  calls.foldl (fun m c => (c.1.call t c.2 m).2) m

theorem saved_runCalls (ht : t.RoundTrips) (h : m.Saved t)
    {calls : List (SetterCall × WriteOutcome)} (hwritten : ∀ c ∈ calls, c.2 = .written) :
    (runCalls t m calls).Saved t := by
  induction calls generalizing m with
  | nil => exact h
  | cons c calls ih =>
    obtain ⟨call, outcome⟩ := c
    obtain rfl : outcome = .written := hwritten (call, outcome) (by simp)
    exact ih (call.saved_call_written ht h) fun c hc => hwritten c (by simp [hc])

theorem saved_readFromFile {config : VpnServiceConfig}
    (h : readFromFile t disk = .ok (config, some version)) :
    ∃ j, disk.json = some (.json j) ∧ decode t j = some config := by
  unfold readFromFile at h
  split at h
  · cases h
  · cases h
  · next j hjson =>
      split at h
      · cases h
      · next e he =>
          refine ⟨j, hjson, ?_⟩
          cases hinto : e.tryInto t with
          | error err => rw [hinto] at h; cases h
          | ok c =>
            rw [hinto] at h
            cases h
            simp [decode, he, hinto, Except.toOption]
  · split at h
    · cases h
    · cases h
    · next c hc =>
        cases hinto : c.tryInto t with
        | error err | ok c => rw [hinto] at h; cases h
    · cases h

theorem Saved.removeToml (h : m.Saved t) (removed : Bool) :
    ({ m with disk := removeToml removed m.disk } : VpnServiceConfigManager).Saved t := by
  obtain ⟨j, hjson, hdecode⟩ := h
  refine ⟨j, ?_, hdecode⟩
  cases removed <;> exact hjson

theorem readFromFile_of_load {stashed : Bool}
    (h : (load t stashed disk).2.1 = some version) :
    readFromFile t disk = .ok ((load t stashed disk).1, some version) ∧
      (load t stashed disk).2.2 = disk := by
  unfold load at h ⊢
  cases hread : readFromFile t disk with
  | error e => rw [hread] at h; cases h
  | ok p =>
    obtain ⟨config, v⟩ := p
    obtain rfl : v = some version := by
      rw [hread] at h
      exact h
    exact ⟨rfl, rfl⟩

theorem saved_new (ht : t.RoundTrips) {outcome : StartOutcome} (h : outcome.write = .written)
    (disk : Disk) : (new t outcome disk).Saved t := by
  apply Saved.removeToml
  split
  · rw [h]
    exact saved_writeToFile ht
  · next hversion =>
      obtain ⟨hread, hdisk⟩ := readFromFile_of_load (not_not.1 hversion)
      obtain ⟨j, hj, hdecode⟩ := saved_readFromFile hread
      exact ⟨j, (congrArg Disk.json hdisk).trans hj, hdecode⟩

/-- At any point of a run a setter that reports success has made its value durable, unless it is
asked for the value in memory while the file is behind. The file is never behind as long as
every write succeeds. -/
theorem setter_durable_iff (t : TextForms) (ht : t.RoundTrips) (start : StartOutcome)
    (disk : Disk) (calls : List (SetterCall × WriteOutcome)) (call : SetterCall)
    (outcome : WriteOutcome) :
    let m := runCalls t (new t start disk) calls
    (((call.call t outcome m).1.isOk = true → (call.call t outcome m).2.Saved t) ↔
      (call.repeats m.config = true → m.Saved t)) ∧
    (start.write = .written → (∀ c ∈ calls, c.2 = .written) → m.Saved t) :=
  ⟨call.saved_call_iff ht, fun hstart hcalls => saved_runCalls ht (saved_new ht hstart disk) hcalls⟩

def firstStart : StartOutcome := ⟨true, .written, true⟩

theorem setter_durable_iff_firstStart :
    ((((SetterCall.killswitch false).call plainForms .written
        (new plainForms firstStart {})).1.isOk = true →
      ((SetterCall.killswitch false).call plainForms .written
        (new plainForms firstStart {})).2.Saved plainForms) ↔
      ((SetterCall.killswitch false).repeats (new plainForms firstStart {}).config = true →
        (new plainForms firstStart {}).Saved plainForms)) ∧
    (firstStart.write = .written →
      (∀ c ∈ ([] : List (SetterCall × WriteOutcome)), c.2 = .written) →
        (new plainForms firstStart {}).Saved plainForms) :=
  setter_durable_iff plainForms plainForms_roundTrips firstStart {} [] (.killswitch false) .written

/-- The kill-switch is switched off twice and neither time saved: the first call reports
the failure, the second reports success. -/
theorem setter_not_durable :
    let m := new plainForms firstStart {}
    let failed := (SetterCall.killswitch false).call plainForms (.failed ["no space"]) m
    let again := (SetterCall.killswitch false).call plainForms (.failed ["no space"]) failed.2
    failed.1.isOk = false ∧ again.1.isOk = true ∧ ¬ again.2.Saved plainForms := by
  refine ⟨rfl, rfl, ?_⟩
  rintro ⟨j, hj, hdecode⟩
  -- The file still holds the defaults it was created with.
  obtain ⟨e, he, -, hinto⟩ := exists_tryFrom plainForms_roundTrips {}
  obtain rfl : toJson e = j := by
    cases he
    cases hj
    rfl
  rw [decode_toJson hinto] at hdecode
  cases hdecode

/-! ## Restarts -/

theorem disk_call_failed (causes : List String) (call : SetterCall) :
    (call.call t (.failed causes) m).2.disk = m.disk := by
  have hsave {m' : VpnServiceConfigManager} (hm : m'.disk = m.disk) :
      (saveConfigAndSendEvent t (.failed causes) m').2.disk = m.disk := by
    unfold saveConfigAndSendEvent writeToFile
    cases tryFrom t m'.config <;> exact hm
  have hset {α : Type} [DecidableEq α] {get : VpnServiceConfig → α}
      {put : VpnServiceConfig → VpnServiceConfig} {value : α} :
      (setIfChanged t (.failed causes) get put value m).2.disk = m.disk := by
    rw [setIfChanged_eq]
    split <;> first | rfl | exact hsave rfl
  cases call with
  | enableCustomDns v | customDns v | stealthApi v =>
    simp only [SetterCall.call, setEnableCustomDns, setCustomDns, setReporting, setStealthApi]
    split <;> first | rfl | exact hsave rfl
  | mixnetTrafficConfig v =>
    simp only [SetterCall.call, setMixnetTrafficConfig, Prod.map_snd]
    split
    · rfl
    · exact hset
  | _ =>
    simp only [SetterCall.call, Prod.map_snd]
    apply hset

theorem exists_decode_runCalls (ht : t.RoundTrips) (h : m.Saved t)
    (calls : List (SetterCall × WriteOutcome)) : ∃ before j, before <+: calls ∧
      (runCalls t m calls).disk.json = some (.json j) ∧
      decode t j = some (runCalls t m before).config := by
  induction calls using List.reverseRecOn with
  | nil =>
    obtain ⟨j, hj⟩ := h
    exact ⟨[], j, List.nil_prefix, hj⟩
  | append_singleton calls c ih =>
    obtain ⟨before, j, hbefore, hj, hdecode⟩ := ih
    have hprefix := hbefore.trans (List.prefix_append calls [c])
    have hrun : runCalls t m (calls ++ [c]) = (c.1.call t c.2 (runCalls t m calls)).2 := by
      simp [runCalls]
    obtain ⟨call, outcome⟩ := c
    cases outcome with
    | failed causes => exact ⟨before, j, hprefix, by rw [hrun, disk_call_failed, hj], hdecode⟩
    | written =>
      have hcomes : SetterCall.Comes t .written (runCalls t m calls)
        (call.repeats (runCalls t m calls).config) _ := call.comes_call
      generalize call.call t .written (runCalls t m calls) = result at hcomes hrun
      cases hcomes with
      | repeated | refused => exact ⟨before, j, hprefix, by rw [hrun, hj], hdecode⟩
      | saved =>
        obtain ⟨j, hj⟩ := saved_of_saveConfigAndSendEvent ht
          (saveConfigAndSendEvent_eq_ok_iff.2 rfl)
        exact ⟨_, j, List.prefix_refl _, hrun ▸ hj⟩

theorem config_new {j : Json} {c : VpnServiceConfig} (hj : disk.json = some (.json j))
    (hdecode : decode t j = some c) (start : StartOutcome) : (new t start disk).config = c := by
  have hload : (load t start.stashed disk).1 = c := by
    obtain ⟨e, he, hinto⟩ := Option.bind_eq_some_iff.1 hdecode
    cases htry : e.tryInto t with
    | error err => simp [htry, Except.toOption] at hinto
    | ok c' =>
      obtain rfl : c' = c := by simpa [htry, Except.toOption] using hinto
      simp only [load, readFromFile, hj, he, htry]
      rfl
  unfold new
  simp only
  split
  · rw [config_writeToFile, hload]
  · exact hload

/-- A restart comes up with the configuration that was in memory after some of the first
calls, and after all of them if every write succeeded. -/
theorem restart_config (t : TextForms) (ht : t.RoundTrips) (start restart : StartOutcome)
    (hstart : start.write = .written) (disk : Disk) (calls : List (SetterCall × WriteOutcome)) :
    (∃ before, before <+: calls ∧
      (new t restart (runCalls t (new t start disk) calls).disk).config =
        (runCalls t (new t start disk) before).config) ∧
    ((∀ c ∈ calls, c.2 = .written) →
      (new t restart (runCalls t (new t start disk) calls).disk).config =
        (runCalls t (new t start disk) calls).config) := by
  have hsaved := saved_new ht hstart disk
  constructor
  · obtain ⟨before, j, hbefore, hj, hdecode⟩ := exists_decode_runCalls ht hsaved calls
    exact ⟨before, hbefore, config_new hj hdecode restart⟩
  · intro hwritten
    obtain ⟨j, hj, hdecode⟩ := saved_runCalls ht hsaved hwritten
    exact config_new hj hdecode restart

theorem restart_config_failed :
    ∃ before, before <+: [(SetterCall.killswitch false, WriteOutcome.failed ["no space"])] ∧
      (new plainForms firstStart (runCalls plainForms (new plainForms firstStart {})
        [(.killswitch false, .failed ["no space"])]).disk).config =
        (runCalls plainForms (new plainForms firstStart {}) before).config :=
  (restart_config plainForms plainForms_roundTrips firstStart firstStart rfl {} _).1

end VpnServiceConfigManager

end VpnService
