import NymVpn.Account.Stored

/-!
# The sync pauses while the API is firewalled

A sync or a fetch has its task exactly while the API is open, and goes on at the attempt it
was on. All states but one take note of what they are told.
-/

namespace AccountController

def Event.firewall? : Event → Option Bool
  | .command c => c.firewall?
  | _ => none

def lastFirewall (inputs : List Input) : Bool :=
  inputs.foldl (fun active i => i.event.firewall?.getD active) false

/-- The states that run a task have it exactly while the API is open. -/
def State.Paced (shared : SharedAccountState) : State → Prop
  | .syncing running _ | .requestingZkNyms running _ _ => running = !shared.firewallActive
  | _ => True

def State.Backed (shared : SharedAccountState) : State → Prop
  | .syncing _ _ =>
    (∃ account, shared.vpnApiAccount = some account ∧ account.isDecentralised = false) ∧
      shared.device.isSome = true
  | .requestingZkNyms _ _ _ =>
    shared.vpnApiAccount.isSome = true ∧ shared.device.isSome = true ∧
      shared.vpnAccountSummary.isSome = true
  | _ => True

/-- A property of the states that run a task: it holds where one is entered, and lasts while
the state is paused and while what it is about stays the same. -/
structure Lasting (P : SharedAccountState → State → Prop) : Prop where
  idle : ∀ shared state, state.runsTask = false → P shared state
  entered : ∀ {shared state}, state.Entered shared → P shared state
  pausedSync : ∀ shared running attempts, P shared (.syncing running attempts) →
    P { shared with firewallActive := true } (.syncing false attempts)
  pausedFetch : ∀ shared running attempts through,
    P shared (.requestingZkNyms running attempts through) →
      P { shared with firewallActive := true } (.requestingZkNyms false attempts through)
  agrees : ∀ {shared other state}, shared.Agrees other → P shared state → P other state

def Handled.Next (P : SharedAccountState → State → Prop) (h : Handled) : Prop :=
  match h.next with
  | .newState state | .sameState state => P h.shared state
  | .finished => True

variable {P : SharedAccountState → State → Prop} {shared : SharedAccountState} {state : State}
  {i : Input}

namespace Lasting

variable (hP : Lasting P)

include hP

theorem handleEvent (h : P shared state)
    (hforget : ∀ running attempts other, state = .syncing running attempts →
      i.event = .command .forgetAccount → isErr (handleForgetAccount i.answers shared).1 = true →
        AccountCommand.forgetAccount.Changes i.answers shared other →
          P other (.syncing running attempts)) :
    (state.handleEvent i shared).Next P := by
  have hhandles := state.handles i shared
  generalize state.handleEvent i shared = r at hhandles ⊢
  cases hhandles with
  | @obeys command _ _ hevent hobeys =>
    cases hobeys with
    | refuses => exact h
    | stays hchanges hagrees hforgets =>
      by_cases hcommand : command = .forgetAccount
      · subst hcommand
        obtain ⟨herr, hstays⟩ := hforgets rfl
        cases state with
        | syncing running attempts => exact hforget _ _ _ rfl hevent herr hchanges
        | requestingZkNyms => rcases hstays with hstays | hstays <;> cases hstays
        | _ => exact hP.idle _ _ rfl
      · cases hruns : state.runsTask with
        | false => exact hP.idle _ _ hruns
        | true => exact hP.agrees (hagrees hruns hcommand) h
    | retimed => exact hP.idle _ _ rfl
    | pausesSync => exact hP.pausedSync _ _ _ h
    | pausesFetch => exact hP.pausedFetch _ _ _ _ h
    | enters hchanges hentered => exact hP.entered hentered
  | reacts hevent hreacts =>
    cases hreacts with
    | waits => exact h
    | enters hentered => exact hP.entered hentered
    | ready | upgradeMode => exact hP.idle _ _ rfl
    | ends => trivial

theorem step {c : Controller} (h : P c.shared c.state)
    (hforget : ∀ running attempts other, c.state = .syncing running attempts →
      i.event = .command .forgetAccount → isErr (handleForgetAccount i.answers c.shared).1 = true →
        AccountCommand.forgetAccount.Changes i.answers c.shared other →
          P other (.syncing running attempts)) :
    (c.step i).finished = false → P (c.step i).shared (c.step i).state := by
  unfold Controller.step
  cases hfinished : c.finished with
  | true => exact fun _ => h
  | false =>
    have hnext := hP.handleEvent h hforget
    unfold Handled.Next at hnext
    cases hcase : (c.state.handleEvent i c.shared).next with
    | newState state =>
      rw [hcase] at hnext
      have hagrees : (c.state.handleEvent i c.shared).shared.Agrees
          ((c.handle i).enter state i.now).publish.shared := ⟨rfl, rfl, rfl, rfl⟩
      exact fun _ => hP.agrees hagrees hnext
    | sameState state =>
      rw [hcase] at hnext
      exact fun _ => hnext
    | finished => exact nofun

end Lasting

/-! ## The two properties last -/

theorem lasting_paced : Lasting State.Paced where
  idle shared state h := by cases state <;> trivial
  entered h := by cases h <;> trivial
  pausedSync shared running attempts _ := rfl
  pausedFetch shared running attempts through _ := rfl
  agrees {shared other state} hagrees h := by
    cases state with
    | syncing running attempts | requestingZkNyms running attempts through =>
      exact Eq.trans h (by rw [hagrees.1])
    | _ => trivial

theorem lasting_backed : Lasting State.Backed where
  idle shared state h := by cases state <;> trivial
  entered h := by
    cases h with
    | syncing haccount hmode hdevice => exact ⟨⟨_, haccount, hmode⟩, hdevice⟩
    | requesting haccount hdevice hsummary => exact ⟨haccount, hdevice, hsummary⟩
    | _ => trivial
  pausedSync shared running attempts h := h
  pausedFetch shared running attempts through h := h
  agrees {shared other state} hagrees h := by
    obtain ⟨-, haccount, hdevice, hsummary⟩ := hagrees
    unfold State.Backed
    rw [haccount, hdevice, hsummary]
    exact h

/-! ## What the controller is told -/

theorem AccountCommand.Changes.firewallActive {answers : Answers} {command : AccountCommand}
    {other : SharedAccountState} (h : command.Changes answers shared other) :
    other.firewallActive = command.firewall?.getD shared.firewallActive := by
  cases h with
  | same hforget hreset htold =>
    cases hfirewall : command.firewall? with
    | none => rfl
    | some active => exact htold active hfirewall
  | told htold => rw [htold, Option.getD_some]
  | _ => rfl

/-- Every state but one takes note of a firewall command, and nothing else changes the flag. -/
theorem firewallActive_handleEvent (hheard : state = .decentralised → i.event.firewall? = none) :
    (state.handleEvent i shared).shared.firewallActive =
      i.event.firewall?.getD shared.firewallActive := by
  have h := state.handles i shared
  generalize state.handleEvent i shared = r at h ⊢
  cases h with
  | @obeys command _ _ hevent hobeys =>
    rw [hevent] at hheard ⊢
    cases hobeys with
    | refuses hrefuses =>
      have hnone : command.firewall? = none := by
        cases state with
        | decentralised => exact hheard rfl
        | _ => cases command <;> first | rfl | cases hrefuses
      rw [Event.firewall?, hnone]
      rfl
    | stays hchanges | enters hchanges => exact hchanges.firewallActive
    | _ => rfl
  | reacts hevent hreacts =>
    have hnone : i.event.firewall? = none := by
      cases he : i.event with
      | command command => exact absurd he (hevent command)
      | _ => rfl
    rw [hnone]
    cases hreacts <;> rfl

/-! ## Runs -/

def RefusesFirewall (state : State) (i : Input) : Prop :=
  state = .decentralised ∧ i.event.firewall? ≠ none

/-- A sync goes on whose account a forget removed before it failed on the files. -/
def LosesSync (state : State) (i : Input) : Prop :=
  state.published = .syncing ∧ LosesAccount state i

namespace Controller

variable {c : Controller} {up down : Input} {running : Bool} {attempts : ℕ}

theorem step_firewallActive (hrunning : c.finished = false) (hheard : ¬RefusesFirewall c.state i) :
    (c.step i).shared.firewallActive = i.event.firewall?.getD c.shared.firewallActive := by
  have hevent : (c.state.handleEvent i c.shared).shared.firewallActive = _ :=
    firewallActive_handleEvent fun hstate => by
      by_contra hne
      exact hheard ⟨hstate, hne⟩
  rw [← hevent, step, hrunning]
  cases (c.state.handleEvent i c.shared).next <;> rfl

theorem finished_of_step (h : (c.step i).finished = false) : c.finished = false := by
  cases hfinished : c.finished with
  | false => rfl
  | true => simp [step, hfinished] at h

theorem step_paced (h : c.state.Paced c.shared) (hrunning : (c.step i).finished = false) :
    (c.step i).state.Paced (c.step i).shared := by
  refine lasting_paced.step h ?_ hrunning
  intro running attempts other hstate _ _ hchanges
  rw [hstate] at h
  exact Eq.trans h (by rw [hchanges.firewallActive]; rfl)

theorem step_backed (h : c.state.Backed c.shared) (hforget : ¬LosesSync c.state i)
    (hrunning : (c.step i).finished = false) : (c.step i).state.Backed (c.step i).shared := by
  refine lasting_backed.step h ?_ hrunning
  intro running attempts other hstate hevent herr hchanges
  rw [hstate] at h hforget
  cases hchanges with
  | forgotten hremoves =>
    rw [(handleForgetAccount_of_removes hremoves).1] at herr
    exact absurd ⟨rfl, rfl, hevent, hremoves, by simpa using herr⟩ hforget
  | same hforget => exact absurd rfl hforget
  | _ => exact h

/-- What holds at the start and after each turn of a controller that goes on holds of a run
whose controller has not finished. -/
theorem run_induction {I : List Input → Prop} {inputs : List Input} (hnil : I [])
    (hstep : ∀ past i, past ++ [i] <+: inputs → (c.run past).finished = false →
      ((c.run past).step i).finished = false → I past → I (past ++ [i]))
    (hrunning : (c.run inputs).finished = false) : I inputs := by
  induction inputs using List.reverseRecOn with
  | nil => exact hnil
  | append_singleton past i ih =>
    rw [run, List.foldl_concat] at hrunning
    have hbefore := finished_of_step hrunning
    refine hstep past i (List.prefix_refl _) hbefore hrunning (ih ?_ hbefore)
    exact fun past' i' hpre => hstep past' i' (hpre.trans (List.prefix_append past [i]))

theorem Lasting.new (hP : Lasting P) (account : Option VpnAccount) (device : Option Device)
    (isOffline : Bool) (now : ℕ) :
    P (new account device isOffline now).shared (new account device isOffline now).state := by
  cases isOffline with
  | true => exact hP.idle _ _ rfl
  | false => exact hP.entered (entered_syncing 0)

theorem resumes_sync (hbacked : c.state.Backed c.shared)
    (hrunning : c.finished = false) (hup : up.event = .command .vpnApiFirewallUp)
    (hdown : down.event = .command .vpnApiFirewallDown)
    (hstate : c.state = .syncing running attempts) :
    (c.step up).state = .syncing false attempts ∧
      ((c.step up).step down).state = .syncing true attempts := by
  rw [hstate] at hbacked
  obtain ⟨⟨account, haccount, hmode⟩, hdevice⟩ := hbacked
  obtain ⟨device, hdevice⟩ := Option.isSome_iff_exists.1 hdevice
  have hpaused : c.step up = { c with
      state := .syncing false attempts, shared := { c.shared with firewallActive := true } } := by
    simp [step, hrunning, State.handleEvent, hup, hstate, State.handleCommand,
      SyncingState.handleCommand, stay, handle]
  rw [hpaused]
  refine ⟨rfl, ?_⟩
  simp [step, hrunning, State.handleEvent, hdown, State.handleCommand,
    SyncingState.handleCommand, goTo, handle, SyncingState.enter, haccount, hmode, hdevice,
    enter, publish]

theorem resumes_fetch (hbacked : c.state.Backed c.shared)
    (hrunning : c.finished = false) (hup : up.event = .command .vpnApiFirewallUp)
    (hdown : down.event = .command .vpnApiFirewallDown)
    {through : Bool} (hstate : c.state = .requestingZkNyms running attempts through) :
    (c.step up).state = .requestingZkNyms false attempts through ∧
      ((c.step up).step down).state = .requestingZkNyms true attempts through := by
  rw [hstate] at hbacked
  obtain ⟨haccount, hdevice, hsummary⟩ := hbacked
  obtain ⟨account, haccount⟩ := Option.isSome_iff_exists.1 haccount
  obtain ⟨device, hdevice⟩ := Option.isSome_iff_exists.1 hdevice
  obtain ⟨summary, hsummary⟩ := Option.isSome_iff_exists.1 hsummary
  have hpaused : c.step up = { c with
      state := .requestingZkNyms false attempts through
      shared := { c.shared with firewallActive := true } } := by
    simp [step, hrunning, State.handleEvent, hup, hstate, State.handleCommand,
      RequestingZkNymsState.handleCommand, stay, handle]
  rw [hpaused]
  refine ⟨rfl, ?_⟩
  simp [step, hrunning, State.handleEvent, hdown, State.handleCommand,
    RequestingZkNymsState.handleCommand, goTo, handle, RequestingZkNymsState.enter, haccount,
    hdevice, hsummary, enter, publish]

/-- In every run a state that runs a task has it exactly while the firewall is down. If no
firewall command is refused, the firewall is as it was last told, and if no sync loses its
account, a pause and a resume go on at the attempt that was paused. -/
theorem sync_runs_while_api_open (account : Option VpnAccount) (device : Option Device)
    (isOffline : Bool) (now : ℕ) (inputs : List Input)
    (hrunning : ((new account device isOffline now).run inputs).finished = false) :
    let c₀ := new account device isOffline now
    let c := c₀.run inputs
    c.state.Paced c.shared ∧
    ((∀ past i, past ++ [i] <+: inputs → ¬RefusesFirewall (c₀.run past).state i) →
      c.shared.firewallActive = lastFirewall inputs) ∧
    ((∀ past i, past ++ [i] <+: inputs → ¬LosesSync (c₀.run past).state i) →
      ∀ up down : Input, up.event = .command .vpnApiFirewallUp →
        down.event = .command .vpnApiFirewallDown →
          (∀ running attempts, c.state = .syncing running attempts →
            (c.step up).state = .syncing false attempts ∧
              ((c.step up).step down).state = .syncing true attempts) ∧
          ∀ running attempts through, c.state = .requestingZkNyms running attempts through →
            (c.step up).state = .requestingZkNyms false attempts through ∧
              ((c.step up).step down).state = .requestingZkNyms true attempts through) := by
  intro c₀ c
  have hsnoc (past : List Input) (i : Input) : c₀.run (past ++ [i]) = (c₀.run past).step i :=
    List.foldl_concat ..
  refine ⟨?_, fun hheard => ?_, fun hkept up down hup hdown => ?_⟩
  · refine run_induction (c := c₀) (I := fun l => (c₀.run l).state.Paced (c₀.run l).shared)
      (Lasting.new lasting_paced account device isOffline now) ?_ hrunning
    intro past i _ _ hgoes h
    rw [hsnoc]
    exact step_paced h hgoes
  · refine run_induction (c := c₀)
      (I := fun l => (c₀.run l).shared.firewallActive = lastFirewall l) ?_ ?_ hrunning
    · cases isOffline <;> rfl
    · intro past i hpre hbefore _ h
      rw [hsnoc, step_firewallActive hbefore (hheard past i hpre), h]
      simp [lastFirewall]
  · have hbacked : c.state.Backed c.shared := by
      refine run_induction (c := c₀) (I := fun l => (c₀.run l).state.Backed (c₀.run l).shared)
        (Lasting.new lasting_backed account device isOffline now) ?_ hrunning
      intro past i hpre _ hgoes h
      rw [hsnoc]
      exact step_backed h (hkept past i hpre) hgoes
    exact ⟨fun running attempts hstate => resumes_sync hbacked hrunning hup hdown hstate,
      fun running attempts through hstate => resumes_fetch hbacked hrunning hup hdown hstate⟩

/-- The API is firewalled off while the account syncs, and opens again. -/
theorem sync_runs_while_api_open_paused :
    let c := (new (some ⟨"n1account", false⟩) (some ⟨"device"⟩) false 0).run
      [⟨.command .vpnApiFirewallUp, filesStay, 1000⟩]
    c.state = .syncing false 0 ∧ c.state.Paced c.shared ∧ c.shared.firewallActive = true ∧
      ((c.step ⟨.command .vpnApiFirewallUp, filesStay, 1500⟩).step
        ⟨.command .vpnApiFirewallDown, filesStay, 2000⟩).state = .syncing true 0 := by
  intro c
  have hfirst {past : List Input} {i : Input}
      (hpre : past ++ [i] <+: [(⟨.command .vpnApiFirewallUp, filesStay, 1000⟩ : Input)]) :
      past = [] ∧ i = ⟨.command .vpnApiFirewallUp, filesStay, 1000⟩ := by
    obtain rfl : past = [] := by simpa using hpre.length_le
    exact ⟨rfl, (List.cons_prefix_cons.1 hpre).1⟩
  obtain ⟨hpaced, htold, hresumes⟩ :=
    sync_runs_while_api_open (some ⟨"n1account", false⟩) (some ⟨"device"⟩) false 0
      [⟨.command .vpnApiFirewallUp, filesStay, 1000⟩] rfl
  have hstate : c.state = .syncing false 0 := rfl
  refine ⟨hstate, hpaced, htold ?_, ((hresumes ?_ _ _ rfl rfl).1 false 0 hstate).2⟩
  · intro past i hpre
    obtain ⟨rfl, rfl⟩ := hfirst hpre
    exact fun h => (by cases h.1)
  · intro past i hpre
    obtain ⟨rfl, rfl⟩ := hfirst hpre
    exact fun h => (by cases h.2.2.1)

/-- The API is firewalled off while a decentralised account is stored, which is then replaced
by one that syncs. -/
def firewalledWhileDecentralised : List Input :=
  let answers := { filesStay with removeFiles := .ok () }
  [⟨.command .vpnApiFirewallUp, answers, 1000⟩, ⟨.command .forgetAccount, answers, 2000⟩,
    ⟨.command (.storeAccount (.ok ⟨"n1account", false⟩)), answers, 3000⟩]

/-- The sync runs, and the API was last said to be firewalled off. -/
theorem sync_runs_while_api_firewalled :
    let c := (new (some ⟨"n1decentralised", true⟩) (some ⟨"device"⟩) false 0).run
      firewalledWhileDecentralised
    c.state = .syncing true 0 ∧ lastFirewall firewalledWhileDecentralised = true ∧
      c.shared.firewallActive = false := by
  exact ⟨rfl, rfl, rfl⟩

end Controller

end AccountController
