import NymVpn.Account.Controller

/-!
# What handling an event can come to

Every handler changes the shared account state in one of a few ways, and stays or enters a
state that finds what it needs.
-/

namespace AccountController

open RequestingZkNymsState

open TunnelStateMachine (ResolverOverrides)

def AccountCommand.firewall? : AccountCommand → Option Bool
  | .vpnApiFirewallUp => some true
  | .vpnApiFirewallDown => some false
  | _ => none

def State.runsTask : State → Bool
  | .syncing _ _ | .requestingZkNyms _ _ _ => true
  | _ => false

def State.staysOnFailedForget : State → Bool
  | .ready _ | .syncing _ _ | .upgradeMode _ => true
  | _ => false

def Answers.removesAccount (answers : Answers) : Bool :=
  answers.resetCredentials.isOk && answers.clearKeys.isOk && answers.forgetAccount.isOk

def SharedAccountState.Agrees (shared other : SharedAccountState) : Prop :=
  other.firewallActive = shared.firewallActive ∧ other.vpnApiAccount = shared.vpnApiAccount ∧
    other.device = shared.device ∧ other.vpnAccountSummary = shared.vpnAccountSummary

section

variable (i : Input) (answers : Answers) (shared : SharedAccountState)

inductive AccountCommand.Changes : AccountCommand → SharedAccountState → Prop where
  | same (hforget : command ≠ .forgetAccount)
      (hreset : command = .resetDeviceIdentity → answers.resetKeys.isOk = false)
      (htold : ∀ active, command.firewall? = some active → shared.firewallActive = active) :
      Changes command shared
  | told (htold : command.firewall? = some active) :
      Changes command { shared with firewallActive := active }
  | mode : Changes (.setRefreshMode mode) { shared with refreshMode := mode }
  | overrides : Changes (.setResolverOverrides overrides)
      { shared with resolverOverrides := overrides }
  | created : Changes .createAccount
      { shared with vpnApiAccount := some account, device := some device }
  | stored : Changes (.storeAccount parsed)
      { shared with vpnApiAccount := some account, device := some device }
  | reset (hreset : answers.resetKeys.isOk = true) : Changes .resetDeviceIdentity
      { shared with device := some device, lastValidated := none }
  | forgetFailed (hremoves : answers.removesAccount = false) : Changes .forgetAccount
      { shared with lastValidated := none }
  | forgotten (hremoves : answers.removesAccount = true) : Changes .forgetAccount
      { shared with
        lastValidated := none, vpnApiAccount := none, device := none, vpnAccountSummary := none }

/-- The states that are entered from any other, by what they find. -/
inductive State.Entered : State → Prop where
  | offline : Entered .offline
  | loggedOut : Entered .loggedOut
  | decentralised : Entered .decentralised
  | error : Entered (.error timer reason)
  | syncing (haccount : shared.vpnApiAccount = some account)
      (hmode : account.isDecentralised = false) (hdevice : shared.device.isSome = true) :
      Entered (.syncing (!shared.firewallActive) attempts)
  | requesting (haccount : shared.vpnApiAccount.isSome = true)
      (hdevice : shared.device.isSome = true)
      (hsummary : shared.vpnAccountSummary.isSome = true) :
      Entered (.requestingZkNyms (!shared.firewallActive) attempts through)

def State.refuses : State → AccountCommand → Bool
  | .offline, .forgetAccount | .loggedOut, .forgetAccount => true
  | .offline, .resetDeviceIdentity | .loggedOut, .resetDeviceIdentity
  | .decentralised, .resetDeviceIdentity => true
  | .decentralised, .vpnApiFirewallUp | .decentralised, .vpnApiFirewallDown => true
  | _, _ => false

inductive State.Obeys : State → AccountCommand → Handled → Prop where
  | refuses (hrefuses : state.refuses command = true) :
      Obeys state command (stay state shared reply)
  | stays (hchanges : command.Changes answers shared shared')
      (hagrees : state.runsTask = true → command ≠ .forgetAccount → shared.Agrees shared')
      (hforget : command = .forgetAccount → isErr (handleForgetAccount answers shared).1 = true ∧
        (state.staysOnFailedForget = true ∨ state = .decentralised)) :
      Obeys state command (stay state shared' reply)
  | retimed : Obeys (.ready timer) (.setRefreshMode mode)
      (stay (.ready timer') { shared with refreshMode := mode } reply)
  | pausesSync : Obeys (.syncing running attempts) .vpnApiFirewallUp
      (stay (.syncing false attempts) { shared with firewallActive := true } reply)
  | pausesFetch : Obeys (.requestingZkNyms running attempts through)
      .vpnApiFirewallUp (stay (.requestingZkNyms false attempts through)
        { shared with firewallActive := true } reply)
  | enters (hchanges : command.Changes answers shared shared')
      (hentered : state'.Entered shared') :
      Obeys state command (goTo state' shared' reply)

inductive State.Reacts : State → Handled → Prop where
  | waits : Reacts state (stay state shared reply)
  | enters
      (hentered : state'.Entered { shared with lastValidated := v, vpnAccountSummary := summary }) :
      Reacts state
        (goTo state' { shared with lastValidated := v, vpnAccountSummary := summary } reply)
  | ready (hbefore : state.published = .readyToConnect ∨ state.published = .requestingZkNyms) :
      Reacts state (goTo (.ready timer) { shared with lastValidated := v } reply)
  | upgradeMode (hbefore : state.published = .requestingZkNyms) :
      Reacts state (goTo (.upgradeMode deadline) { shared with lastValidated := v } reply)
  | ends : Reacts state ⟨.finished, shared, none⟩

inductive State.Handles : State → Handled → Prop where
  | obeys (hevent : i.event = .command command)
      (hobeys : state.Obeys i.answers shared command r) : Handles state r
  | reacts (hevent : ∀ command, i.event ≠ .command command) (hreacts : state.Reacts shared r) :
      Handles state r

end

variable {answers : Answers} {now : ℕ} {shared : SharedAccountState}

/-! ## Entering a state -/

theorem entered_syncing (attempts : ℕ) :
    (SyncingState.enter shared now attempts).Entered shared := by
  unfold SyncingState.enter
  split
  · exact .loggedOut
  next account haccount =>
    split
    · exact .decentralised
    next hmode =>
      split
      · exact .error
      next device hdevice => exact .syncing haccount (by simpa using hmode) (hdevice ▸ rfl)

theorem entered_requesting (attempts : ℕ) (through : Bool) :
    (enter shared now attempts through).Entered shared := by
  unfold enter
  split
  · exact .loggedOut
  next account haccount =>
    split
    · exact .error
    next device hdevice =>
      split
      · exact .error
      next summary hsummary =>
        exact .requesting (haccount ▸ rfl) (hdevice ▸ rfl) (hsummary ▸ rfl)

theorem entered_exitToSync : (UpgradeModeState.exitToSync shared now answers).Entered shared := by
  unfold UpgradeModeState.exitToSync
  split
  · exact .error
  · exact entered_syncing 0

/-! ## Commands -/

theorem handleForgetAccount_of_not_removes (h : answers.removesAccount = false) :
    isErr (handleForgetAccount answers shared).1 = true ∧
      (handleForgetAccount answers shared).2 = { shared with lastValidated := none } := by
  unfold handleForgetAccount
  cases hcredentials : answers.resetCredentials <;> cases hkeys : answers.clearKeys <;>
    cases hforget : answers.forgetAccount <;>
    simp_all [Answers.removesAccount, isErr, Except.isOk, Except.toBool]

theorem handleForgetAccount_of_removes (h : answers.removesAccount = true) :
    isErr (handleForgetAccount answers shared).1 = !answers.removeFiles.isOk ∧
      (handleForgetAccount answers shared).2 = { shared with
          lastValidated := none, vpnApiAccount := none, device := none
          vpnAccountSummary := none } := by
  unfold handleForgetAccount
  cases hcredentials : answers.resetCredentials <;> cases hkeys : answers.clearKeys <;>
    cases hforget : answers.forgetAccount <;> cases hfiles : answers.removeFiles <;>
    simp_all [Answers.removesAccount, isErr, Except.isOk, Except.toBool]

namespace AccountCommand

theorem changes_forgetAccount :
    forgetAccount.Changes answers shared (handleForgetAccount answers shared).2 := by
  cases hremoves : answers.removesAccount with
  | true =>
    rw [(handleForgetAccount_of_removes hremoves).2]
    exact .forgotten hremoves
  | false =>
    rw [(handleForgetAccount_of_not_removes hremoves).2]
    exact .forgetFailed hremoves

theorem changes_same {command : AccountCommand} (hforget : command ≠ .forgetAccount)
    (hreset : command ≠ .resetDeviceIdentity) (htold : command.firewall? = none) :
    command.Changes answers shared shared :=
  .same hforget (fun h => absurd h hreset) fun _ h => by cases htold.symm.trans h

theorem changes_createAccount :
    createAccount.Changes answers shared (handleCreateAccount answers shared).2 := by
  unfold handleCreateAccount adoptAccount
  repeat' split
  all_goals first | exact changes_same nofun nofun rfl | exact .created

theorem changes_storeAccount (account : Except String VpnAccount) :
    (storeAccount account).Changes answers shared
      (handleStoreAccount answers shared account).2 := by
  unfold handleStoreAccount adoptAccount
  repeat' split
  all_goals first | exact changes_same nofun nofun rfl | exact .stored

theorem changes_resetDeviceIdentity :
    resetDeviceIdentity.Changes answers shared (handleResetDeviceIdentity answers shared).2 := by
  unfold handleResetDeviceIdentity
  split
  next err herr => exact .same nofun (fun _ => herr ▸ rfl) nofun
  next device hok => exact .reset (hok ▸ rfl)

theorem changes_setResolverOverrides (overrides : Option ResolverOverrides) :
    (setResolverOverrides overrides).Changes answers shared
      (handleSetResolverOverrides answers shared overrides).2 := by
  unfold handleSetResolverOverrides
  split
  · exact changes_same nofun nofun rfl
  · split
    · exact changes_same nofun nofun rfl
    · exact .overrides

end AccountCommand

theorem agrees_handleSetResolverOverrides (overrides : Option ResolverOverrides) :
    shared.Agrees (handleSetResolverOverrides answers shared overrides).2 := by
  unfold handleSetResolverOverrides
  split
  · exact ⟨rfl, rfl, rfl, rfl⟩
  · split <;> exact ⟨rfl, rfl, rfl, rfl⟩

theorem ite_handled {P : Handled → Prop} {p : Prop} [Decidable p] {a b : Handled} (ha : p → P a)
    (hb : ¬p → P b) : P (if p then a else b) := by
  split
  next hp => exact ha hp
  next hp => exact hb hp

namespace State

open AccountCommand

theorem obeys_same {state : State} {command : AccountCommand} {reply : Option CommandResult}
    (hforget : command ≠ .forgetAccount) (hreset : command ≠ .resetDeviceIdentity)
    (htold : command.firewall? = none) :
    state.Obeys answers shared command (stay state shared reply) :=
  .stays (changes_same hforget hreset htold) (fun _ _ => ⟨rfl, rfl, rfl, rfl⟩)
    fun h => absurd h hforget

theorem handleCommand_obeys (state : State) (command : AccountCommand) :
    state.Obeys answers shared command (state.handleCommand answers now shared command) := by
  cases command with
  | createAccount =>
    cases state with
    | offline => exact .stays changes_createAccount nofun nofun
    | loggedOut => exact .enters changes_createAccount (entered_syncing 0)
    | _ => exact obeys_same nofun nofun rfl
  | storeAccount account =>
    have hchanges : (storeAccount account).Changes answers shared _ := changes_storeAccount account
    cases state with
    | offline => exact .stays hchanges nofun nofun
    | loggedOut =>
      exact ite_handled (fun _ => .stays hchanges nofun nofun) fun _ =>
        .enters hchanges (entered_syncing 0)
    | _ => exact obeys_same nofun nofun rfl
  | forgetAccount =>
    have hleaves (reply : Option CommandResult) : state.Obeys answers shared _
        (goTo .loggedOut (handleForgetAccount answers shared).2 reply) :=
      .enters changes_forgetAccount .loggedOut
    cases state with
    | offline | loggedOut => exact .refuses rfl
    | decentralised =>
      exact ite_handled (fun herr => .stays changes_forgetAccount nofun fun _ => ⟨herr, .inr rfl⟩)
        fun _ => hleaves _
    | ready | syncing | upgradeMode =>
      exact ite_handled (fun herr => .stays changes_forgetAccount (fun _ h => absurd rfl h)
        fun _ => ⟨herr, .inl rfl⟩) fun _ => hleaves _
    | error | requestingZkNyms =>
      exact ite_handled (fun _ => .enters changes_forgetAccount (entered_syncing 0))
        fun _ => hleaves _
  | resetDeviceIdentity =>
    cases state with
    | offline | loggedOut | decentralised => exact .refuses rfl
    | ready | error =>
      exact ite_handled (fun _ => .stays changes_resetDeviceIdentity nofun nofun) fun _ =>
        .enters changes_resetDeviceIdentity (entered_syncing 0)
    | upgradeMode =>
      exact ite_handled (fun _ => .stays changes_resetDeviceIdentity nofun nofun) fun _ =>
        .enters changes_resetDeviceIdentity entered_exitToSync
    | syncing | requestingZkNyms => exact .enters changes_resetDeviceIdentity (entered_syncing 0)
  | refreshAccountState =>
    have hsame : refreshAccountState.Changes answers shared shared := changes_same nofun nofun rfl
    cases state with
    | offline | loggedOut | decentralised => exact obeys_same nofun nofun rfl
    | upgradeMode =>
      exact ite_handled (fun _ => obeys_same nofun nofun rfl) fun _ =>
        .enters hsame entered_exitToSync
    | _ =>
      exact ite_handled (fun _ => obeys_same nofun nofun rfl) fun _ =>
        .enters hsame (entered_syncing 0)
  | vpnApiFirewallDown =>
    have hopen (h : ¬shared.firewallActive = true) :
        vpnApiFirewallDown.Changes answers shared shared :=
      .same nofun nofun fun _ htold => by cases htold; simpa using h
    cases state with
    | decentralised => exact .refuses rfl
    | syncing running attempts =>
      exact ite_handled (fun _ => .enters (.told rfl) (entered_syncing attempts)) fun h =>
        .stays (hopen h) (fun _ _ => ⟨rfl, rfl, rfl, rfl⟩) nofun
    | requestingZkNyms running attempts through =>
      exact ite_handled (fun _ => .enters (.told rfl) (entered_requesting attempts through))
        fun h => .stays (hopen h) (fun _ _ => ⟨rfl, rfl, rfl, rfl⟩) nofun
    | _ => exact .stays (.told rfl) nofun nofun
  | vpnApiFirewallUp =>
    cases state with
    | decentralised => exact .refuses rfl
    | syncing => exact .pausesSync
    | requestingZkNyms => exact .pausesFetch
    | _ => exact .stays (.told rfl) nofun nofun
  | setRefreshMode mode =>
    cases state with
    | ready timer =>
      exact ite_handled (fun _ => obeys_same nofun nofun rfl) fun _ =>
        ite_handled (fun _ => .enters .mode (entered_syncing 0)) fun _ => .retimed
    | _ => exact .stays .mode (fun _ _ => ⟨rfl, rfl, rfl, rfl⟩) nofun
  | setResolverOverrides overrides =>
    have hstays (reply : Option CommandResult) : state.Obeys answers shared _
        (stay state (handleSetResolverOverrides answers shared overrides).2 reply) :=
      .stays (changes_setResolverOverrides overrides)
        (fun _ _ => agrees_handleSetResolverOverrides overrides) nofun
    cases state with
    | syncing running attempts =>
      exact ite_handled (fun _ => .enters (changes_setResolverOverrides overrides)
        (entered_syncing attempts)) fun _ => hstays _
    | requestingZkNyms running attempts through =>
      exact ite_handled (fun _ => .enters (changes_setResolverOverrides overrides)
        (entered_requesting attempts through)) fun _ => hstays _
    | _ => exact hstays _
  | disableUpgradeMode =>
    cases state with
    | upgradeMode => exact .enters (changes_same nofun nofun rfl) entered_exitToSync
    | _ => exact obeys_same nofun nofun rfl
  | _ => cases state <;> exact obeys_same nofun nofun rfl

end State

/-! ## The other events -/

theorem entered_afterSync (attempts : ℕ) (result : Option SyncOutcome) :
    (SyncingState.next now shared attempts result).Entered shared := by
  have hretry (reason : ErrorStateReason) :
      (SyncingState.retryOr now shared reason attempts).Entered shared := by
    unfold SyncingState.retryOr
    split
    · exact .error
    · exact entered_syncing _
  unfold SyncingState.next
  split
  · exact hretry _
  · exact entered_requesting _ _
  · split
    · exact hretry _
    · exact .error

namespace State

theorem reacts_afterFetch {running through : Bool} (attempts : ℕ)
    (result : Option (Except ZkNymError ZkNymFetchResult)) :
    (State.requestingZkNyms running attempts through).Reacts shared
      (handleRetrievedZkNym answers now shared attempts result) := by
  unfold handleRetrievedZkNym next afterError UpgradeModeState.enter
  dsimp only
  repeat' split
  all_goals
    first
      | exact .ready (.inr rfl)
      | exact .upgradeMode rfl
      | exact .enters .error
      | exact .enters (entered_syncing _)
      | exact .enters (entered_requesting _ _)

theorem handleTimer_reacts (state : State) :
    state.Reacts shared (state.handleTimer now shared) := by
  cases state with
  | ready timer =>
    exact ite_handled (fun _ => ite_handled (fun _ => .ready (.inl rfl)) fun _ =>
      .enters (entered_syncing 0)) fun _ => .waits
  | error timer reason =>
    exact ite_handled (fun _ => ite_handled (fun _ => .enters .error) fun _ =>
      .enters (entered_syncing 0)) fun _ => .waits
  | upgradeMode deadline =>
    exact ite_handled (fun _ => .enters (entered_requesting 0 true)) fun _ => .waits
  | _ => exact .waits

theorem handleConnectivity_reacts (state : State) (isOffline : Bool) :
    state.Reacts shared (state.handleConnectivity now shared isOffline) := by
  cases state with
  | offline => exact ite_handled (fun _ => .waits) fun _ => .enters (entered_syncing 0)
  | upgradeMode deadline => exact .waits
  | _ => exact ite_handled (fun _ => .enters .offline) fun _ => .waits

theorem handles (i : Input) (shared : SharedAccountState) (state : State) :
    state.Handles i shared (state.handleEvent i shared) := by
  rw [handleEvent]
  cases hevent : i.event with
  | command command => exact .obeys hevent (state.handleCommand_obeys command)
  | timer => exact .reacts (by simp [hevent]) state.handleTimer_reacts
  | connectivity isOffline =>
    exact .reacts (by simp [hevent]) (state.handleConnectivity_reacts isOffline)
  | cancelled => exact .reacts (by simp [hevent]) .ends
  | synced result =>
    refine .reacts (by simp [hevent]) ?_
    dsimp only
    split
    · exact .enters (entered_afterSync _ result)
    · exact .waits
  | fetched result =>
    refine .reacts (by simp [hevent]) ?_
    dsimp only
    split
    · exact reacts_afterFetch _ result
    · exact .waits

theorem handleEvent_keeps (i : Input) (shared : SharedAccountState) (state : State) :
    (state.handleEvent i shared).Keeps shared state := by
  have h := state.handles i shared
  generalize state.handleEvent i shared = r at h ⊢
  cases h with
  | obeys hevent hobeys => cases hobeys <;> trivial
  | reacts hevent hreacts => cases hreacts <;> trivial

end State

namespace Controller

theorem step_published {c : Controller} (i : Input) (h : c.published = c.state.published) :
    (c.step i).published = (c.step i).state.published := by
  unfold step
  cases c.finished with
  | true => exact h
  | false =>
    have hkeeps := State.handleEvent_keeps i c.shared c.state
    unfold Handled.Keeps at hkeeps
    cases hnext : (c.state.handleEvent i c.shared).next with
    | newState state => exact rfl
    | sameState state =>
      rw [hnext] at hkeeps
      exact h.trans hkeeps.symm
    | finished => exact h

theorem run_published {c : Controller} (h : c.published = c.state.published)
    (inputs : List Input) : (c.run inputs).published = (c.run inputs).state.published := by
  induction inputs generalizing c with
  | nil => exact h
  | cons i inputs ih => exact ih (step_published i h)

end Controller

end AccountController
