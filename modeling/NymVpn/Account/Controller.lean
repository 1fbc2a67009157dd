import NymVpn.Tunnel.Settings

/-!
# The account controller

The controller handles one event at a time: the handler changes the shared account state and
says which state follows, the standing validation is replaced, and the new state is published.
What the storages, the files and the API answer is an input. Times are in milliseconds.
-/

namespace AccountController

open TunnelStateMachine (ResolverOverrides)

structure VpnAccount where
  id : String
  isDecentralised : Bool
deriving DecidableEq

structure Device where
  identityKey : String
deriving DecidableEq

structure VpnAccountSummary where
  subscriptionValidUntil : Option ℤ
  trafficUsedGb : UInt64
  trafficLimitGb : UInt64
  trafficResetTime : Option ℤ
deriving DecidableEq

inductive ErrorStateReason where
  | storage (context details : String)
  | apiFailure (context details : String)
  | internal (context details : String)
  | bandwidthExceeded (context : String)
  | accountStatusNotActive (status : String)
  | inactiveSubscription
  | maxDeviceReached
  | deviceTimeDesynced
deriving DecidableEq

inductive ControllerState where
  | offline
  | syncing
  | loggedOut
  | readyToConnect
  | decentralised
  | upgradeMode
  | error (reason : ErrorStateReason)
  | requestingZkNyms
deriving DecidableEq

inductive AccountCommandError where
  | internal (message : String)
  | storage (message : String)
  | vpnApi (message : String)
  | nyxd (message : String)
  | accountDoesntExistOnChain
  | noAccountStored
  | existingAccount
  | offline
  | accountNotDecentralised
  | accountDecentralised
  | invalidMnemonic (message : String)

/-! ## The refresh timer -/

inductive AccountRefreshMode where
  | active
  | idle
deriving DecidableEq

def accountUpdateInterval : ℕ := 2 * 60 * 1000

def accountIdleUpdateInterval : ℕ := 30 * 60 * 1000

def accountValidationFreshness : ℕ := accountIdleUpdateInterval

def upgradeModeDefaultRefreshInterval : ℕ := 10 * 60 * 1000

def AccountRefreshMode.interval : AccountRefreshMode → ℕ
  | .active => accountUpdateInterval
  | .idle => accountIdleUpdateInterval

structure RefreshTimer where
  enteredAt : ℕ
  deadline : ℕ
deriving DecidableEq

namespace RefreshTimer

def start (mode : AccountRefreshMode) (now : ℕ) : RefreshTimer := ⟨now, now + mode.interval⟩

def setMode (mode : AccountRefreshMode) (timer : RefreshTimer) : RefreshTimer :=
  { timer with deadline := timer.enteredAt + mode.interval }

end RefreshTimer

/-! ## The tasks of a sync -/

def maxSyncingAttempts : ℕ := 10

def zkNymMaxFails : ℕ := 10

def syncingStateContext : String := "SYNCING_STATE"

def zkNymStateContext : String := "ZK_NYM_STATE"

def umStateContext : String := "UPGRADE_MODE_STATE"

inductive SyncError where
  | internal (details : String)
  | inactiveAccount (status : String)
  | unregisteredAccount
  | inactiveSubscription
  | apiRequestError (details : String)
  | apiResponseError (details : String)
  | deviceTimeDesynced
  | maxDeviceReached
  | fairUsageDepleted

namespace SyncError

def isRetryable : SyncError → Bool
  | apiRequestError _ | deviceTimeDesynced | inactiveSubscription => true
  | _ => false

def reason : SyncError → ErrorStateReason
  | internal details => .internal syncingStateContext details
  | inactiveAccount status => .accountStatusNotActive status
  | unregisteredAccount => .accountStatusNotActive "unregistered"
  | inactiveSubscription => .inactiveSubscription
  | apiRequestError details => .apiFailure syncingStateContext details
  | apiResponseError details => .apiFailure syncingStateContext details
  | deviceTimeDesynced => .deviceTimeDesynced
  | maxDeviceReached => .maxDeviceReached
  | fairUsageDepleted => .bandwidthExceeded syncingStateContext

end SyncError

structure SyncOutcome where
  summary : Option VpnAccountSummary
  result : Except SyncError Unit

inductive ZkNymError where
  | storage (details : String)
  | apiFailure (details : String)
  | internal (details : String)
  | bandwidthExceeded

def ZkNymError.reason : ZkNymError → ErrorStateReason
  | storage details => .storage zkNymStateContext details
  | apiFailure details => .apiFailure zkNymStateContext details
  | internal details => .internal zkNymStateContext details
  | bandwidthExceeded => .bandwidthExceeded zkNymStateContext

inductive ZkNymFetchResult where
  | sufficientBandwidth
  | fetchedTickets (types : List String)
  | upgradeMode

/-! ## Commands and answers -/

/-- An account to store comes as it parses. The commands that only read are one command. -/
inductive AccountCommand where
  | createAccount
  | storeAccount (account : Except String VpnAccount)
  | registerAccount (account : Except String VpnAccount)
  | forgetAccount
  | rotateKeys
  | accountBalance
  | obtainTicketbooks
  | resetDeviceIdentity
  | refreshAccountState
  | vpnApiFirewallUp
  | vpnApiFirewallDown
  | setRefreshMode (mode : AccountRefreshMode)
  | setResolverOverrides (overrides : Option ResolverOverrides)
  | disableUpgradeMode
  | query

structure Answers where
  generateNew : Except String VpnAccount
  existsOnChain : Except AccountCommandError Bool
  registerAccount : Except AccountCommandError Unit
  decentralisedZkNym : Except AccountCommandError Unit
  storeAccount : Except AccountCommandError Device
  resetKeys : Except AccountCommandError Device
  forgetAccount : Except AccountCommandError Unit
  resetCredentials : Except String Unit
  clearKeys : Except String Unit
  removeFiles : Except String Unit
  overrideResolver : Except String Unit
  allAboveMinimalThreshold : Except String Bool
  allNonEmpty : Except String Bool
  /-- The stored credential, if there is one, with the time left until it expires. -/
  upgradeModeJwt : Except String (Option (Option ℤ))
  removeUpgradeModeJwts : Except String Unit

structure SharedAccountState where
  resolverOverrides : Option ResolverOverrides
  vpnApiAccount : Option VpnAccount
  vpnAccountSummary : Option VpnAccountSummary
  device : Option Device
  lastValidated : Option ℕ
  firewallActive : Bool
  refreshMode : AccountRefreshMode

namespace SharedAccountState

def HoldsAccount (shared : SharedAccountState) : Prop :=
  shared.vpnApiAccount.isSome = true ∧ shared.device.isSome = true

instance (shared : SharedAccountState) : Decidable shared.HoldsAccount :=
  inferInstanceAs (Decidable (_ ∧ _))

end SharedAccountState

section Handlers

variable (answers : Answers) (shared : SharedAccountState)

abbrev CommandResult := Except AccountCommandError Unit

def isErr : CommandResult → Bool
  | .error _ => true
  | .ok () => false

def adoptAccount (account : VpnAccount) : CommandResult × SharedAccountState :=
  match answers.storeAccount with
  | .error err => (.error err, shared)
  | .ok device => (.ok (), { shared with vpnApiAccount := some account, device := some device })

def ensureAccountExistsOnChain : CommandResult :=
  match answers.existsOnChain with
  | .error err => .error err
  | .ok true => .ok ()
  | .ok false => .error .accountDoesntExistOnChain

def handleStoreAccount (account : Except String VpnAccount) : CommandResult × SharedAccountState :=
  match account with
  | .error err => (.error (.invalidMnemonic err), shared)
  | .ok account =>
    if account.isDecentralised then
      match ensureAccountExistsOnChain answers with
      | .error err => (.error err, shared)
      | .ok () => adoptAccount answers shared account
    else adoptAccount answers shared account

def handleCreateAccount : CommandResult × SharedAccountState :=
  match answers.generateNew with
  | .error err => (.error (.internal err), shared)
  | .ok account => adoptAccount answers shared account

def handleRegisterAccount (account : Except String VpnAccount) : CommandResult :=
  match account with
  | .error err => .error (.invalidMnemonic err)
  | .ok _ => answers.registerAccount

def handleRotateKeys : CommandResult :=
  match answers.clearKeys with
  | .error err => .error (.storage err)
  | .ok () => .ok ()

/-- The device is unregistered first, and how that ends is only logged. Files that stay
are an error that is kept until the account is gone. -/
def handleForgetAccount : CommandResult × SharedAccountState :=
  let shared := { shared with lastValidated := none }
  match answers.resetCredentials with
  | .error err => (.error (.storage err), shared)
  | .ok () =>
    match answers.clearKeys with
    | .error err => (.error (.storage err), shared)
    | .ok () =>
      match answers.forgetAccount with
      | .error err => (.error err, shared)
      | .ok () =>
        let shared :=
          { shared with vpnApiAccount := none, device := none, vpnAccountSummary := none }
        match answers.removeFiles with
        | .error err =>
          (.error (.storage ("Failed to remove files for account: " ++ err)), shared)
        | .ok () => (.ok (), shared)

def handleResetDeviceIdentity : CommandResult × SharedAccountState :=
  match answers.resetKeys with
  | .error err => (.error err, shared)
  | .ok device => (.ok (), { shared with device := some device, lastValidated := none })

/-- Unchanged pins keep the client, and no pins never do. -/
def keepsClient (current new : Option ResolverOverrides) : Bool := new.isSome && new == current

def changesApiPath (overrides : Option ResolverOverrides) : Bool :=
  !keepsClient shared.resolverOverrides overrides

def handleSetResolverOverrides (overrides : Option ResolverOverrides) :
    CommandResult × SharedAccountState :=
  if keepsClient shared.resolverOverrides overrides then (.ok (), shared)
  else
    match answers.overrideResolver with
    | .error err => (.error (.internal ("Failed to set resolver overrides: " ++ err)), shared)
    | .ok () => (.ok (), { shared with resolverOverrides := overrides })

end Handlers

/-! ## States -/

/-- The state with what its handler holds: the task that runs, if one does, and the timer. -/
inductive State where
  | offline
  | loggedOut
  | decentralised
  | ready (timer : RefreshTimer)
  | error (timer : RefreshTimer) (reason : ErrorStateReason)
  | syncing (running : Bool) (attempts : ℕ)
  | requestingZkNyms (running : Bool) (attempts : ℕ) (enteredThroughUpgradeMode : Bool)
  | upgradeMode (deadline : ℕ)
deriving DecidableEq

def State.published : State → ControllerState
  | .offline => .offline
  | .loggedOut => .loggedOut
  | .decentralised => .decentralised
  | .ready _ => .readyToConnect
  | .error _ reason => .error reason
  | .syncing _ _ => .syncing
  | .requestingZkNyms _ _ _ => .requestingZkNyms
  | .upgradeMode _ => .upgradeMode

section Enter

variable (shared : SharedAccountState) (now : ℕ)

def ReadyState.enter : State := .ready (RefreshTimer.start shared.refreshMode now)

def ErrorState.enter (reason : ErrorStateReason) : State :=
  .error (RefreshTimer.start .active now) reason

def SyncingState.enter (attempts : ℕ) : State :=
  match shared.vpnApiAccount with
  | none => .loggedOut
  | some account =>
    if account.isDecentralised then .decentralised
    else
      match shared.device with
      | none => ErrorState.enter now (SyncError.internal "Logged in, but no device keys").reason
      | some _ => .syncing (!shared.firewallActive) attempts

def RequestingZkNymsState.enter (attempts : ℕ) (enteredThroughUpgradeMode : Bool) : State :=
  match shared.vpnApiAccount with
  | none => .loggedOut
  | some _ =>
    match shared.device with
    | none =>
      ErrorState.enter now (.internal zkNymStateContext "Logged in, but no device keys")
    | some _ =>
      match shared.vpnAccountSummary with
      | none =>
        ErrorState.enter now (.internal zkNymStateContext "Logged in, but no account summary")
      | some _ =>
        .requestingZkNyms (!shared.firewallActive) attempts enteredThroughUpgradeMode

def UpgradeModeState.enter (answers : Answers) : State :=
  match answers.upgradeModeJwt with
  | .error err => ErrorState.enter now (.storage umStateContext err)
  | .ok none =>
    ErrorState.enter now
      (.internal "UpgradeModeState" "entered 'UpgradeModeState' with no upgrade mode credentials")
  | .ok (some (some untilExpiration)) =>
    if untilExpiration < upgradeModeDefaultRefreshInterval then
      if untilExpiration < 0 then SyncingState.enter shared now 0
      else .upgradeMode (now + untilExpiration.toNat)
    else .upgradeMode (now + upgradeModeDefaultRefreshInterval)
  | .ok (some none) => .upgradeMode (now + upgradeModeDefaultRefreshInterval)

def UpgradeModeState.exitToSync (answers : Answers) : State :=
  match answers.removeUpgradeModeJwts with
  | .error err => ErrorState.enter now (.storage umStateContext err)
  | .ok () => SyncingState.enter shared now 0

end Enter

inductive NextState where
  | newState (state : State)
  | sameState (state : State)
  | finished

/-- What handling an event comes to. A reply goes to the sender of a command. -/
structure Handled where
  next : NextState
  shared : SharedAccountState
  reply : Option CommandResult

def stay (state : State) (shared : SharedAccountState) (reply : Option CommandResult) : Handled :=
  ⟨.sameState state, shared, reply⟩

def goTo (state : State) (shared : SharedAccountState) (reply : Option CommandResult) : Handled :=
  ⟨.newState state, shared, reply⟩

/-! ## Commands in each state -/

section Commands

variable (answers : Answers) (now : ℕ) (shared : SharedAccountState)

def OfflineState.handleCommand : AccountCommand → Handled
  | .createAccount =>
    let (res, shared) := handleCreateAccount answers shared
    stay .offline shared (some res)
  | .storeAccount account =>
    let (res, shared) := handleStoreAccount answers shared account
    stay .offline shared (some res)
  | .rotateKeys => stay .offline shared (some (handleRotateKeys answers))
  | .registerAccount _ | .forgetAccount | .accountBalance | .obtainTicketbooks
  | .resetDeviceIdentity | .refreshAccountState => stay .offline shared (some (.error .offline))
  | .vpnApiFirewallDown => stay .offline { shared with firewallActive := false } (some (.ok ()))
  | .vpnApiFirewallUp => stay .offline { shared with firewallActive := true } (some (.ok ()))
  | .setRefreshMode mode => stay .offline { shared with refreshMode := mode } none
  | .setResolverOverrides overrides =>
    let (res, shared) := handleSetResolverOverrides answers shared overrides
    stay .offline shared (some res)
  | .disableUpgradeMode => stay .offline shared (some (.ok ()))
  | .query => stay .offline shared none

def LoggedOutState.handleCommand : AccountCommand → Handled
  | .createAccount =>
    let (res, shared) := handleCreateAccount answers shared
    goTo (SyncingState.enter shared now 0) shared (some res)
  | .storeAccount account =>
    let (res, shared) := handleStoreAccount answers shared account
    if isErr res then stay .loggedOut shared (some res)
    else goTo (SyncingState.enter shared now 0) shared (some res)
  | .forgetAccount | .rotateKeys | .resetDeviceIdentity =>
    stay .loggedOut shared (some (.ok ()))
  | .accountBalance | .obtainTicketbooks | .registerAccount _ | .refreshAccountState =>
    stay .loggedOut shared (some (.error .noAccountStored))
  | .vpnApiFirewallDown => stay .loggedOut { shared with firewallActive := false } (some (.ok ()))
  | .vpnApiFirewallUp => stay .loggedOut { shared with firewallActive := true } (some (.ok ()))
  | .setRefreshMode mode => stay .loggedOut { shared with refreshMode := mode } none
  | .setResolverOverrides overrides =>
    let (res, shared) := handleSetResolverOverrides answers shared overrides
    stay .loggedOut shared (some res)
  | .disableUpgradeMode => stay .loggedOut shared (some (.ok ()))
  | .query => stay .loggedOut shared none

/-- The firewall commands are refused here. -/
def DecentralisedState.handleCommand : AccountCommand → Handled
  | .forgetAccount =>
    let (res, shared) := handleForgetAccount answers shared
    if isErr res then stay .decentralised shared (some res)
    else goTo .loggedOut shared (some res)
  | .rotateKeys => stay .decentralised shared (some (handleRotateKeys answers))
  | .accountBalance | .obtainTicketbooks =>
    stay .decentralised shared (some answers.decentralisedZkNym)
  | .setRefreshMode mode => stay .decentralised { shared with refreshMode := mode } none
  | .setResolverOverrides overrides =>
    let (res, shared) := handleSetResolverOverrides answers shared overrides
    stay .decentralised shared (some res)
  | .disableUpgradeMode => stay .decentralised shared (some (.ok ()))
  | .query => stay .decentralised shared none
  | .createAccount | .storeAccount _ | .registerAccount _ | .resetDeviceIdentity
  | .refreshAccountState | .vpnApiFirewallUp | .vpnApiFirewallDown =>
    stay .decentralised shared (some (.error .accountDecentralised))

def ReadyState.handleCommand (timer : RefreshTimer) : AccountCommand → Handled
  | .createAccount | .storeAccount _ =>
    stay (.ready timer) shared (some (.error .existingAccount))
  | .registerAccount account =>
    stay (.ready timer) shared (some (handleRegisterAccount answers account))
  | .forgetAccount =>
    let (res, shared) := handleForgetAccount answers shared
    if isErr res then stay (.ready timer) shared (some res)
    else goTo .loggedOut shared (some res)
  | .rotateKeys => stay (.ready timer) shared (some (handleRotateKeys answers))
  | .accountBalance | .obtainTicketbooks =>
    stay (.ready timer) shared (some (.error .accountNotDecentralised))
  | .resetDeviceIdentity =>
    let (res, shared) := handleResetDeviceIdentity answers shared
    if isErr res then stay (.ready timer) shared (some res)
    else goTo (SyncingState.enter shared now 0) shared (some res)
  | .refreshAccountState =>
    if shared.firewallActive then stay (.ready timer) shared (some (.ok ()))
    else goTo (SyncingState.enter shared now 0) shared (some (.ok ()))
  | .vpnApiFirewallDown =>
    stay (.ready timer) { shared with firewallActive := false } (some (.ok ()))
  | .vpnApiFirewallUp =>
    stay (.ready timer) { shared with firewallActive := true } (some (.ok ()))
  | .setRefreshMode mode =>
    if shared.refreshMode = mode then stay (.ready timer) shared none
    else
      let shared := { shared with refreshMode := mode }
      let timer := timer.setMode mode
      -- stale for the new mode, and the API can be reached: the sync starts at once
      if timer.deadline ≤ now ∧ shared.firewallActive = false then
        goTo (SyncingState.enter shared now 0) shared none
      else stay (.ready timer) shared none
  | .setResolverOverrides overrides =>
    let (res, shared) := handleSetResolverOverrides answers shared overrides
    stay (.ready timer) shared (some res)
  | .disableUpgradeMode => stay (.ready timer) shared (some (.ok ()))
  | .query => stay (.ready timer) shared none

def ErrorState.handleCommand (timer : RefreshTimer) (reason : ErrorStateReason) :
    AccountCommand → Handled
  | .createAccount | .storeAccount _ =>
    stay (.error timer reason) shared (some (.error .existingAccount))
  | .registerAccount account =>
    stay (.error timer reason) shared (some (handleRegisterAccount answers account))
  | .forgetAccount =>
    let (res, shared) := handleForgetAccount answers shared
    if isErr res then goTo (SyncingState.enter shared now 0) shared (some res)
    else goTo .loggedOut shared (some res)
  | .rotateKeys => stay (.error timer reason) shared (some (handleRotateKeys answers))
  | .accountBalance | .obtainTicketbooks =>
    stay (.error timer reason) shared (some (.error .accountNotDecentralised))
  | .resetDeviceIdentity =>
    let (res, shared) := handleResetDeviceIdentity answers shared
    if isErr res then stay (.error timer reason) shared (some res)
    else goTo (SyncingState.enter shared now 0) shared (some res)
  | .refreshAccountState =>
    if shared.firewallActive then stay (.error timer reason) shared (some (.ok ()))
    else goTo (SyncingState.enter shared now 0) shared (some (.ok ()))
  | .vpnApiFirewallDown =>
    stay (.error timer reason) { shared with firewallActive := false } (some (.ok ()))
  | .vpnApiFirewallUp =>
    stay (.error timer reason) { shared with firewallActive := true } (some (.ok ()))
  | .setRefreshMode mode => stay (.error timer reason) { shared with refreshMode := mode } none
  | .setResolverOverrides overrides =>
    let (res, shared) := handleSetResolverOverrides answers shared overrides
    stay (.error timer reason) shared (some res)
  | .disableUpgradeMode => stay (.error timer reason) shared (some (.ok ()))
  | .query => stay (.error timer reason) shared none

def SyncingState.handleCommand (running : Bool) (attempts : ℕ) : AccountCommand → Handled
  | .createAccount | .storeAccount _ =>
    stay (.syncing running attempts) shared (some (.error .existingAccount))
  | .registerAccount account =>
    stay (.syncing running attempts) shared (some (handleRegisterAccount answers account))
  | .forgetAccount =>
    let (res, shared) := handleForgetAccount answers shared
    if isErr res then stay (.syncing running attempts) shared (some res)
    else goTo .loggedOut shared (some res)
  | .rotateKeys => stay (.syncing running attempts) shared (some (handleRotateKeys answers))
  | .accountBalance | .obtainTicketbooks =>
    stay (.syncing running attempts) shared (some (.error .accountNotDecentralised))
  | .refreshAccountState =>
    if shared.firewallActive then stay (.syncing running attempts) shared (some (.ok ()))
    else goTo (SyncingState.enter shared now 0) shared (some (.ok ()))
  | .resetDeviceIdentity =>
    let (res, shared) := handleResetDeviceIdentity answers shared
    goTo (SyncingState.enter shared now 0) shared (some res)
  | .vpnApiFirewallDown =>
    if shared.firewallActive then
      let shared := { shared with firewallActive := false }
      goTo (SyncingState.enter shared now attempts) shared (some (.ok ()))
    else stay (.syncing running attempts) shared (some (.ok ()))
  | .vpnApiFirewallUp =>
    stay (.syncing false attempts) { shared with firewallActive := true } (some (.ok ()))
  | .setRefreshMode mode =>
    stay (.syncing running attempts) { shared with refreshMode := mode } none
  | .setResolverOverrides overrides =>
    let restart := running && changesApiPath shared overrides
    let (res, shared) := handleSetResolverOverrides answers shared overrides
    if restart then goTo (SyncingState.enter shared now attempts) shared (some res)
    else stay (.syncing running attempts) shared (some res)
  | .disableUpgradeMode => stay (.syncing running attempts) shared (some (.ok ()))
  | .query => stay (.syncing running attempts) shared none

def RequestingZkNymsState.handleCommand (running : Bool) (attempts : ℕ)
    (enteredThroughUpgradeMode : Bool) (command : AccountCommand) : Handled :=
  let self := State.requestingZkNyms running attempts enteredThroughUpgradeMode
  match command with
  | .createAccount | .storeAccount _ => stay self shared (some (.error .existingAccount))
  | .registerAccount account => stay self shared (some (handleRegisterAccount answers account))
  | .forgetAccount =>
    let (res, shared) := handleForgetAccount answers shared
    if isErr res then goTo (SyncingState.enter shared now 0) shared (some res)
    else goTo .loggedOut shared (some res)
  | .rotateKeys => stay self shared (some (handleRotateKeys answers))
  | .accountBalance | .obtainTicketbooks =>
    stay self shared (some (.error .accountNotDecentralised))
  | .resetDeviceIdentity =>
    let (res, shared) := handleResetDeviceIdentity answers shared
    goTo (SyncingState.enter shared now 0) shared (some res)
  | .refreshAccountState =>
    if shared.firewallActive then stay self shared (some (.ok ()))
    else goTo (SyncingState.enter shared now 0) shared (some (.ok ()))
  | .vpnApiFirewallDown =>
    if shared.firewallActive then
      let shared := { shared with firewallActive := false }
      goTo (RequestingZkNymsState.enter shared now attempts enteredThroughUpgradeMode) shared
        (some (.ok ()))
    else stay self shared (some (.ok ()))
  | .vpnApiFirewallUp =>
    stay (.requestingZkNyms false attempts enteredThroughUpgradeMode)
      { shared with firewallActive := true } (some (.ok ()))
  | .setRefreshMode mode => stay self { shared with refreshMode := mode } none
  | .setResolverOverrides overrides =>
    let restart := running && changesApiPath shared overrides
    let (res, shared) := handleSetResolverOverrides answers shared overrides
    if restart then
      goTo (RequestingZkNymsState.enter shared now attempts enteredThroughUpgradeMode) shared
        (some res)
    else stay self shared (some res)
  | .disableUpgradeMode => stay self shared (some (.ok ()))
  | .query => stay self shared none

def UpgradeModeState.handleCommand (deadline : ℕ) : AccountCommand → Handled
  | .createAccount | .storeAccount _ =>
    stay (.upgradeMode deadline) shared (some (.error .existingAccount))
  | .registerAccount account =>
    stay (.upgradeMode deadline) shared (some (handleRegisterAccount answers account))
  | .forgetAccount =>
    let (res, shared) := handleForgetAccount answers shared
    if isErr res then stay (.upgradeMode deadline) shared (some res)
    else goTo .loggedOut shared (some res)
  | .rotateKeys => stay (.upgradeMode deadline) shared (some (handleRotateKeys answers))
  | .accountBalance | .obtainTicketbooks =>
    stay (.upgradeMode deadline) shared (some (.error .accountNotDecentralised))
  | .resetDeviceIdentity =>
    let (res, shared) := handleResetDeviceIdentity answers shared
    if isErr res then stay (.upgradeMode deadline) shared (some res)
    else goTo (UpgradeModeState.exitToSync shared now answers) shared (some res)
  | .refreshAccountState =>
    if shared.firewallActive then stay (.upgradeMode deadline) shared (some (.ok ()))
    else goTo (UpgradeModeState.exitToSync shared now answers) shared (some (.ok ()))
  | .vpnApiFirewallDown =>
    stay (.upgradeMode deadline) { shared with firewallActive := false } (some (.ok ()))
  | .vpnApiFirewallUp =>
    stay (.upgradeMode deadline) { shared with firewallActive := true } (some (.ok ()))
  | .setRefreshMode mode => stay (.upgradeMode deadline) { shared with refreshMode := mode } none
  | .setResolverOverrides overrides =>
    let (res, shared) := handleSetResolverOverrides answers shared overrides
    stay (.upgradeMode deadline) shared (some res)
  | .disableUpgradeMode =>
    goTo (UpgradeModeState.exitToSync shared now answers) shared (some (.ok ()))
  | .query => stay (.upgradeMode deadline) shared none

def State.handleCommand (state : State) (command : AccountCommand) : Handled :=
  match state with
  | .offline => OfflineState.handleCommand answers shared command
  | .loggedOut => LoggedOutState.handleCommand answers now shared command
  | .decentralised => DecentralisedState.handleCommand answers shared command
  | .ready timer => ReadyState.handleCommand answers now shared timer command
  | .error timer reason => ErrorState.handleCommand answers now shared timer reason command
  | .syncing running attempts =>
    SyncingState.handleCommand answers now shared running attempts command
  | .requestingZkNyms running attempts enteredThroughUpgradeMode =>
    RequestingZkNymsState.handleCommand answers now shared running attempts
      enteredThroughUpgradeMode command
  | .upgradeMode deadline => UpgradeModeState.handleCommand answers now shared deadline command

end Commands

/-! ## Tasks, timers and connectivity -/

section Events

variable (answers : Answers) (now : ℕ) (shared : SharedAccountState)

def syncSucceeded : Option SyncOutcome → Bool
  | some ⟨_, .ok ()⟩ => true
  | _ => false

def SyncingState.retryOr (reason : ErrorStateReason) (attempts : ℕ) : State :=
  if maxSyncingAttempts < attempts then ErrorState.enter now reason
  else SyncingState.enter shared now (attempts + 1)

def SyncingState.next (attempts : ℕ) : Option SyncOutcome → State
  | none =>
    SyncingState.retryOr now shared
      (SyncError.internal "Failed to join on the syncing task").reason attempts
  | some ⟨_, .ok ()⟩ => RequestingZkNymsState.enter shared now attempts false
  | some ⟨_, .error err⟩ =>
    if err.isRetryable then SyncingState.retryOr now shared err.reason attempts
    else ErrorState.enter now err.reason

/-- A failed sync no longer vouches for the account, and a summary is kept either way. -/
def SyncingState.handleSynced (attempts : ℕ) (result : Option SyncOutcome) : Handled :=
  let shared :=
    { shared with
      lastValidated := if syncSucceeded result then shared.lastValidated else none
      vpnAccountSummary := (result.bind SyncOutcome.summary).or shared.vpnAccountSummary }
  goTo (SyncingState.next now shared attempts result) shared none

def ticketsFetched : Option (Except ZkNymError ZkNymFetchResult) → Bool
  | some (.ok .sufficientBandwidth) | some (.ok (.fetchedTickets _)) => true
  | _ => false

def isTrue : Except String Bool → Bool
  | .ok answer => answer
  | .error _ => false

def RequestingZkNymsState.afterError (attempts : ℕ) (err : ZkNymError) : State :=
  if zkNymMaxFails < attempts then ErrorState.enter now err.reason
  else if isTrue answers.allAboveMinimalThreshold then ReadyState.enter shared now
  else
    match err with
    | .storage _ | .internal _ =>
      RequestingZkNymsState.enter shared now (zkNymMaxFails + 1) false
    | .apiFailure _ => RequestingZkNymsState.enter shared now (attempts + 1) false
    | .bandwidthExceeded =>
      if isTrue answers.allNonEmpty then ReadyState.enter shared now
      else ErrorState.enter now ZkNymError.bandwidthExceeded.reason

def RequestingZkNymsState.next (attempts : ℕ) :
    Option (Except ZkNymError ZkNymFetchResult) → State
  | none => SyncingState.enter shared now (attempts + 1)
  | some (.error err) => RequestingZkNymsState.afterError answers now shared attempts err
  | some (.ok .sufficientBandwidth) | some (.ok (.fetchedTickets _)) => ReadyState.enter shared now
  | some (.ok .upgradeMode) => UpgradeModeState.enter shared now answers

def RequestingZkNymsState.handleRetrievedZkNym (attempts : ℕ)
    (result : Option (Except ZkNymError ZkNymFetchResult)) : Handled :=
  let shared :=
    { shared with
      lastValidated := if ticketsFetched result then shared.lastValidated else none }
  goTo (RequestingZkNymsState.next answers now shared attempts result) shared none

def State.handleTimer (state : State) : Handled :=
  match state with
  | .ready timer =>
    if timer.deadline ≤ now then
      if shared.firewallActive then goTo (ReadyState.enter shared now) shared none
      else goTo (SyncingState.enter shared now 0) shared none
    else stay state shared none
  | .error timer reason =>
    if timer.deadline ≤ now then
      if shared.firewallActive then goTo (ErrorState.enter now reason) shared none
      else goTo (SyncingState.enter shared now 0) shared none
    else stay state shared none
  | .upgradeMode deadline =>
    if deadline ≤ now then goTo (RequestingZkNymsState.enter shared now 0 true) shared none
    else stay state shared none
  | _ => stay state shared none

def State.handleConnectivity (isOffline : Bool) (state : State) : Handled :=
  match state with
  | .offline =>
    if isOffline then stay .offline shared none
    else goTo (SyncingState.enter shared now 0) shared none
  | .upgradeMode deadline => stay (.upgradeMode deadline) shared none
  | state => if isOffline then goTo .offline shared none else stay state shared none

end Events

/-! ## The loop -/

inductive Event where
  | command (command : AccountCommand)
  | timer
  | synced (result : Option SyncOutcome)
  | fetched (result : Option (Except ZkNymError ZkNymFetchResult))
  | connectivity (isOffline : Bool)
  | cancelled

structure Input where
  event : Event
  answers : Answers
  now : ℕ

/-- A task that was aborted, or that never ran, does not end. -/
def State.handleEvent (i : Input) (shared : SharedAccountState) (state : State) : Handled :=
  match i.event with
  | .command command => state.handleCommand i.answers i.now shared command
  | .timer => state.handleTimer i.now shared
  | .synced result =>
    match state with
    | .syncing true attempts => SyncingState.handleSynced i.now shared attempts result
    | state => stay state shared none
  | .fetched result =>
    match state with
    | .requestingZkNyms true attempts _ =>
      RequestingZkNymsState.handleRetrievedZkNym i.answers i.now shared attempts result
    | state => stay state shared none
  | .connectivity isOffline => state.handleConnectivity i.now shared isOffline
  | .cancelled => ⟨.finished, shared, none⟩

def Handled.Keeps (shared : SharedAccountState) (state : State) (h : Handled) : Prop :=
  match h.next with
  | .newState _ => True
  | .sameState same => same.published = state.published
  | .finished => h.shared = shared

def nextValidation (wasReady : Bool) (lastValidated : Option ℕ) (now : ℕ) :
    ControllerState → Option ℕ
  | .readyToConnect => if wasReady then lastValidated else some now
  | .syncing | .requestingZkNyms => lastValidated
  | .offline | .loggedOut | .decentralised | .upgradeMode | .error _ => none

structure Controller where
  state : State
  shared : SharedAccountState
  published : ControllerState
  finished : Bool

namespace Controller

def new (account : Option VpnAccount) (device : Option Device) (isOffline : Bool) (now : ℕ) :
    Controller :=
  let shared : SharedAccountState :=
    { resolverOverrides := none, vpnApiAccount := account, vpnAccountSummary := none
      device, lastValidated := none, firewallActive := false, refreshMode := .active }
  let state := if isOffline then .offline else SyncingState.enter shared now 0
  ⟨state, shared, state.published, false⟩

def handle (c : Controller) (i : Input) : Controller :=
  { c with shared := (c.state.handleEvent i c.shared).shared }

/-- The state is entered and its validation written, and it is not yet published. -/
def enter (c : Controller) (state : State) (now : ℕ) : Controller :=
  { c with
    state
    shared :=
      { c.shared with
        lastValidated :=
          nextValidation (c.published == .readyToConnect) c.shared.lastValidated now
            state.published } }

def publish (c : Controller) : Controller := { c with published := c.state.published }

def step (c : Controller) (i : Input) : Controller :=
  if c.finished then c
  else
    match (c.state.handleEvent i c.shared).next with
    | .newState state => ((c.handle i).enter state i.now).publish
    | .sameState state => { c.handle i with state }
    | .finished => { c.handle i with finished := true }

def run (c : Controller) (inputs : List Input) : Controller := inputs.foldl step c

@[simp] theorem new_published (account : Option VpnAccount) (device : Option Device)
    (isOffline : Bool) (now : ℕ) :
    (new account device isOffline now).published =
      (new account device isOffline now).state.published := rfl

end Controller

end AccountController
