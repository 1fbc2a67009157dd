import NymVpn.Account.Moves

/-!
# A ready account is stored

The states that speak of an account are entered only while one is stored. A forget that fails
after the account is gone leads back through a sync in most states; three stay as they are.
-/

namespace AccountController

open TunnelStateMachine (ResolverOverrides)

def ControllerState.assumesAccount : ControllerState → Bool
  | .readyToConnect | .syncing | .requestingZkNyms | .upgradeMode => true
  | _ => false

def State.Sound (shared : SharedAccountState) (state : State) : Prop :=
  state.published.assumesAccount = true → shared.HoldsAccount

def Handled.Sound (h : Handled) : Prop :=
  match h.next with
  | .newState state | .sameState state => state.Sound h.shared
  | .finished => True

/-- The event is a forget that removes the account and then fails on the files, in a state
that stays. -/
def LosesAccount (state : State) (i : Input) : Prop :=
  state.staysOnFailedForget = true ∧
    i.event = .command .forgetAccount ∧
      i.answers.removesAccount = true ∧ i.answers.removeFiles.isOk = false

namespace Controller

/-- Where the published state stands for an account, an account and a device are stored. -/
def AccountStored (c : Controller) : Prop :=
  c.published.assumesAccount = true → c.shared.HoldsAccount

end Controller

variable {shared : SharedAccountState} {state : State}

theorem State.Entered.sound (h : state.Entered shared) : state.Sound shared := by
  intro hassumes
  cases h with
  | syncing haccount hmode hdevice => exact ⟨haccount ▸ rfl, hdevice⟩
  | requesting haccount hdevice hsummary => exact ⟨haccount, hdevice⟩
  | _ => cases hassumes

theorem handleEvent_sound {i : Input} (hstate : state.Sound shared)
    (hforget : ¬LosesAccount state i) : (state.handleEvent i shared).Sound := by
  have h := state.handles i shared
  generalize state.handleEvent i shared = r at h ⊢
  cases h with
  | obeys hevent hobeys =>
    cases hobeys with
    | refuses => exact hstate
    | stays hchanges hagrees hforgets =>
      intro hassumes
      have hholds := hstate hassumes
      cases hchanges with
      | forgotten hremoves =>
        obtain ⟨herr, hstays | rfl⟩ := hforgets rfl
        · rw [(handleForgetAccount_of_removes hremoves).1] at herr
          exact absurd ⟨hstays, hevent, hremoves, by simpa using herr⟩ hforget
        · cases hassumes
      | created | stored => exact ⟨rfl, rfl⟩
      | reset => exact ⟨hholds.1, rfl⟩
      | _ => exact hholds
    | retimed | pausesSync | pausesFetch => exact fun _ => hstate rfl
    | enters hchanges hentered => exact hentered.sound
  | reacts hevent hreacts =>
    cases hreacts with
    | waits => exact hstate
    | enters hentered => exact hentered.sound
    | ready hbefore =>
      exact fun _ => hstate (by rcases hbefore with hbefore | hbefore <;> rw [hbefore] <;> rfl)
    | upgradeMode hbefore => exact fun _ => hstate (by rw [hbefore]; rfl)
    | ends => trivial

/-! ## Runs -/

namespace Controller

theorem new_accountStored (account : Option VpnAccount) (device : Option Device)
    (isOffline : Bool) (now : ℕ) : (new account device isOffline now).AccountStored := by
  unfold new
  cases isOffline with
  | true =>
    intro hassumes
    cases hassumes
  | false => exact (entered_syncing 0).sound

theorem step_accountStored {c : Controller} {i : Input}
    (hpublished : c.published = c.state.published) (h : c.AccountStored)
    (hforget : c.finished = false → ¬LosesAccount c.state i) : (c.step i).AccountStored := by
  unfold step
  cases hfinished : c.finished with
  | true => exact h
  | false =>
    have hstate : c.state.Sound c.shared := by
      intro hassumes
      exact h (by rw [hpublished, hassumes])
    have hsound := handleEvent_sound hstate (hforget hfinished)
    have hkeeps := State.handleEvent_keeps i c.shared c.state
    unfold Handled.Sound at hsound
    unfold Handled.Keeps at hkeeps
    cases hnext : (c.state.handleEvent i c.shared).next with
    | newState state =>
      rw [hnext] at hsound
      exact hsound
    | sameState state =>
      rw [hnext] at hsound hkeeps
      intro hassumes
      exact hsound (by rw [hkeeps, ← hpublished]; exact hassumes)
    | finished =>
      rw [hnext] at hkeeps
      intro hassumes
      change (c.state.handleEvent i c.shared).shared.HoldsAccount
      rw [hkeeps]
      exact h hassumes

theorem not_accountStored_of_losesAccount {c : Controller} {i : Input}
    (hpublished : c.published = c.state.published) (hfinished : c.finished = false)
    (hloses : LosesAccount c.state i) : ¬(c.step i).AccountStored := by
  obtain ⟨hstays, hevent, hremoves, hfiles⟩ := hloses
  have hforgets : isErr (handleForgetAccount i.answers c.shared).1 = !i.answers.removeFiles.isOk ∧
      (handleForgetAccount i.answers c.shared).2.vpnApiAccount = none := by
    obtain ⟨herr, hshared⟩ := handleForgetAccount_of_removes hremoves
    exact ⟨herr, by rw [hshared]⟩
  obtain ⟨herr, haccount⟩ := hforgets
  rw [hfiles] at herr
  have hnext : c.state.handleEvent i c.shared =
      stay c.state (handleForgetAccount i.answers c.shared).2
        (some (handleForgetAccount i.answers c.shared).1) := by
    unfold State.handleEvent
    rw [hevent]
    cases hstate : c.state with
    | ready timer | syncing running attempts | upgradeMode deadline => exact if_pos herr
    | _ => rw [hstate] at hstays; cases hstays
  have hassumes : c.published.assumesAccount = true := by
    rw [hpublished]
    cases hstate : c.state with
    | ready timer | syncing running attempts | upgradeMode deadline => rfl
    | _ => rw [hstate] at hstays; cases hstays
  have hstep : c.step i = { c with shared := (handleForgetAccount i.answers c.shared).2 } := by
    unfold step handle
    rw [hnext, hfinished]
    rfl
  rw [hstep]
  intro hstored
  have hholds := (hstored hassumes).1
  rw [haccount] at hholds
  cases hholds

/-- The account that a state stands for is stored throughout a run exactly when no forget of the
run removes the account and then fails on the files, while the controller is ready, syncing or
in upgrade mode. -/
theorem accountStored_throughout_iff (account : Option VpnAccount) (device : Option Device)
    (isOffline : Bool) (now : ℕ) (inputs : List Input) :
    (∀ past, past <+: inputs → ((new account device isOffline now).run past).AccountStored) ↔
      ∀ past i, past ++ [i] <+: inputs →
        ((new account device isOffline now).run past).finished = false →
          ¬LosesAccount ((new account device isOffline now).run past).state i := by
  have hpublished := run_published (new_published account device isOffline now)
  have hsnoc : ∀ past i, (new account device isOffline now).run (past ++ [i]) =
      ((new account device isOffline now).run past).step i := by
    intro past i
    exact List.foldl_concat ..
  constructor
  · intro hstored past i hprefix hfinished hloses
    have hlost := not_accountStored_of_losesAccount (hpublished past) hfinished hloses
    rw [← hsnoc] at hlost
    exact hlost (hstored _ hprefix)
  · intro hforget past hprefix
    -- the inputs so far, one at a time from the start
    induction past using List.reverseRecOn with
    | nil => exact new_accountStored account device isOffline now
    | append_singleton past i ih =>
      have hbefore := ih ((List.prefix_append past [i]).trans hprefix)
      rw [hsnoc]
      exact step_accountStored (hpublished past) hbefore (hforget past i hprefix)

def filesStay : Answers where
  generateNew := .ok ⟨"n1new", false⟩
  existsOnChain := .ok true
  registerAccount := .ok ()
  decentralisedZkNym := .ok ()
  storeAccount := .ok ⟨"device"⟩
  resetKeys := .ok ⟨"device"⟩
  forgetAccount := .ok ()
  resetCredentials := .ok ()
  clearKeys := .ok ()
  removeFiles := .error "Permission denied (os error 13)"
  overrideResolver := .ok ()
  allAboveMinimalThreshold := .ok true
  allNonEmpty := .ok true
  upgradeModeJwt := .ok none
  removeUpgradeModeJwts := .ok ()

def forgottenWhileReady : List Input :=
  [⟨.synced (some ⟨some ⟨none, 0, 0, none⟩, .ok ()⟩), filesStay, 1000⟩,
    ⟨.fetched (some (.ok .sufficientBandwidth)), filesStay, 2000⟩,
    ⟨.command .forgetAccount, filesStay, 3000⟩]

/-- The account is gone, and the controller is ready to connect. -/
theorem ready_after_account_removed :
    let c := (new (some ⟨"n1account", false⟩) (some ⟨"device"⟩) false 0).run forgottenWhileReady
    c.published = .readyToConnect ∧ c.shared.vpnApiAccount = none ∧ ¬c.AccountStored := by
  refine ⟨rfl, rfl, ?_⟩
  intro hstored
  cases (hstored rfl).1

end Controller

end AccountController
