import NymVpn.Account.Moves
import NymVpn.Account.Retries

/-!
# Connecting on a validation

A connect at a re-check reads the published state and the validation one after the other,
while the controller goes on. So the run is looked at between any two of its writes.
-/

namespace AccountController

/-! ## What happened -/

inductive Fact where
  | syncFailed
  | fetchFailed
  | forgetAttempted
  | deviceReset
  | entered (state before : ControllerState) (time : ℕ)

def ControllerState.endsValidation : ControllerState → Bool
  | .offline | .loggedOut | .error _ | .upgradeMode | .decentralised => true
  | .readyToConnect | .syncing | .requestingZkNyms => false

def Fact.invalidates : Fact → Bool
  | .syncFailed | .fetchFailed | .forgetAttempted | .deviceReset => true
  | .entered state _ _ => state.endsValidation

/-- The state was entered from another one at the time, ready to connect, and nothing since
then speaks against the account. The history has the latest fact first. -/
def Standing (history : List Fact) (time : ℕ) : Prop :=
  ∃ since before earlier, history = since ++ .entered .readyToConnect before time :: earlier ∧
    before ≠ .readyToConnect ∧ ∀ f ∈ since, f.invalidates = false

def State.resetsDevice : State → Bool
  | .offline | .loggedOut | .decentralised => false
  | _ => true

/-- What an event brings to pass in a state. A fetch that meets the upgrade mode has not
failed, and neither has a task that was aborted before its result was taken. -/
def factsOf (state : State) (i : Input) : List Fact :=
  match i.event with
  | .command .forgetAccount => [.forgetAttempted]
  | .command .resetDeviceIdentity =>
    if state.resetsDevice && i.answers.resetKeys.isOk then [.deviceReset] else []
  | .synced result =>
    match state, result with
    | .syncing true _, some ⟨_, .ok ()⟩ => []
    | .syncing true _, _ => [.syncFailed]
    | _, _ => []
  | .fetched result =>
    match state, result with
    | .requestingZkNyms true _ _, some (.ok _) => []
    | .requestingZkNyms true _ _, _ => [.fetchFailed]
    | _, _ => []
  | _ => []

/-! ## Moments of a run -/

structure Moment where
  controller : Controller
  history : List Fact

namespace Moment

def lastValidated (m : Moment) : Option ℕ := m.controller.shared.lastValidated

def handled (m : Moment) (i : Input) : Moment :=
  ⟨m.controller.handle i, factsOf m.controller.state i ++ m.history⟩

def enter (m : Moment) (state : State) (now : ℕ) : Moment :=
  ⟨m.controller.enter state now,
    .entered state.published m.controller.state.published now :: m.history⟩

def during (m : Moment) (i : Input) : List Moment :=
  if m.controller.finished then []
  else
    match (m.controller.state.handleEvent i m.controller.shared).next with
    | .newState state => [m.handled i, (m.handled i).enter state i.now]
    | _ => []

def step (m : Moment) (i : Input) : Moment where
  controller := m.controller.step i
  history :=
    if m.controller.finished then m.history
    else
      match (m.controller.state.handleEvent i m.controller.shared).next with
      | .newState state => ((m.handled i).enter state i.now).history
      | _ => (m.handled i).history

def moments (m : Moment) : List Input → List Moment
  | [] => [m]
  | i :: inputs => m :: (m.during i ++ (m.step i).moments inputs)

def start (account : Option VpnAccount) (device : Option Device) (isOffline : Bool) (now : ℕ) :
    Moment :=
  ⟨Controller.new account device isOffline now, []⟩

end Moment

/-! ## What a handler does to the validation -/

section Handlers

variable {answers : Answers} {now : ℕ} {shared : SharedAccountState} {state : State}
  {command : AccountCommand} {time : ℕ}

theorem AccountCommand.Changes.lastValidated {other : SharedAccountState}
    (h : command.Changes answers shared other) (hother : other.lastValidated = some time) :
    shared.lastValidated = some time ∧ command ≠ .forgetAccount ∧
      (command = .resetDeviceIdentity → answers.resetKeys.isOk = false) := by
  cases h with
  | same hforget hreset => exact ⟨hother, hforget, hreset⟩
  | told htold => refine ⟨hother, ?_, ?_⟩ <;> rintro rfl <;> cases htold
  | reset | forgetFailed | forgotten => cases hother
  | _ => exact ⟨hother, nofun, nofun⟩

theorem State.Obeys.lastValidated {r : Handled} (h : state.Obeys answers shared command r)
    (hended : state.published.endsValidation = true → shared.lastValidated = none)
    (hr : r.shared.lastValidated = some time) :
    shared.lastValidated = some time ∧ command ≠ .forgetAccount ∧
      (command = .resetDeviceIdentity →
        (state.resetsDevice && answers.resetKeys.isOk) = false) := by
  cases h with
  | refuses hrefuses =>
    refine ⟨hr, ?_, ?_⟩
    · rintro rfl
      cases state with
      | offline | loggedOut => cases (hended rfl).symm.trans hr
      | _ => cases hrefuses
    · rintro rfl
      cases state with
      | offline | loggedOut | decentralised => rfl
      | _ => cases hrefuses
  | stays hchanges | enters hchanges =>
    obtain ⟨hbefore, hforget, hreset⟩ := hchanges.lastValidated hr
    exact ⟨hbefore, hforget, fun h => by rw [hreset h, Bool.and_false]⟩
  | _ => exact ⟨hr, nofun, nofun⟩

theorem shared_handleTimer : (state.handleTimer now shared).shared = shared := by
  unfold State.handleTimer
  repeat' split
  all_goals rfl

theorem shared_handleConnectivity (isOffline : Bool) :
    (state.handleConnectivity now shared isOffline).shared = shared := by
  unfold State.handleConnectivity
  repeat' split
  all_goals rfl

theorem handleEvent_lastValidated {i : Input}
    (hended : state.published.endsValidation = true → shared.lastValidated = none)
    (h : (state.handleEvent i shared).shared.lastValidated = some time) :
    shared.lastValidated = some time ∧ factsOf state i = [] := by
  unfold State.handleEvent at h
  unfold factsOf
  cases hevent : i.event with
  | command command =>
    rw [hevent] at h
    obtain ⟨hbefore, hforget, hreset⟩ :=
      (state.handleCommand_obeys command).lastValidated hended h
    refine ⟨hbefore, ?_⟩
    cases command with
    | forgetAccount => exact absurd rfl hforget
    | resetDeviceIdentity => exact if_neg (by rw [hreset rfl]; exact Bool.false_ne_true)
    | _ => rfl
  | timer =>
    rw [hevent, shared_handleTimer] at h
    exact ⟨h, rfl⟩
  | synced result =>
    rw [hevent] at h
    cases state with
    | syncing running attempts =>
      cases running with
      | false => exact ⟨h, rfl⟩
      | true =>
        match result with
        | some ⟨summary, .ok ()⟩ => exact ⟨h, rfl⟩
        | some ⟨summary, .error err⟩ => cases h
        | none => cases h
    | _ => exact ⟨h, rfl⟩
  | fetched result =>
    rw [hevent] at h
    cases state with
    | requestingZkNyms running attempts through =>
      cases running with
      | false => exact ⟨h, rfl⟩
      | true =>
        match result with
        | some (.ok .sufficientBandwidth) => exact ⟨h, rfl⟩
        | some (.ok (.fetchedTickets types)) => exact ⟨h, rfl⟩
        | some (.ok .upgradeMode) => cases h
        | some (.error err) => cases h
        | none => cases h
    | _ => exact ⟨h, rfl⟩
  | connectivity isOffline =>
    rw [hevent, shared_handleConnectivity] at h
    exact ⟨h, rfl⟩
  | cancelled =>
    rw [hevent] at h
    exact ⟨h, rfl⟩

end Handlers

/-! ## Standing validations -/

theorem Standing.cons {history : List Fact} {time : ℕ} (h : Standing history time) {f : Fact}
    (hf : f.invalidates = false) : Standing (f :: history) time := by
  obtain ⟨since, before, earlier, hhistory, hbefore, hsince⟩ := h
  refine ⟨f :: since, before, earlier, by rw [hhistory, List.cons_append], hbefore, ?_⟩
  intro g hg
  rcases List.mem_cons.1 hg with rfl | hg
  · exact hf
  · exact hsince g hg

namespace Moment

def Stands (m : Moment) : Prop := ∀ time, m.lastValidated = some time → Standing m.history time

structure Settled (m : Moment) : Prop where
  published : m.controller.published = m.controller.state.published
  ended : m.controller.state.published.endsValidation = true → m.lastValidated = none
  stands : m.Stands

variable {m : Moment}

theorem Settled.handled_lastValidated (h : m.Settled) {i : Input} {time : ℕ}
    (hvalidated : (m.handled i).lastValidated = some time) :
    m.lastValidated = some time ∧ factsOf m.controller.state i = [] :=
  handleEvent_lastValidated h.ended hvalidated

theorem Settled.handled_stands (h : m.Settled) (i : Input) : (m.handled i).Stands := by
  intro time hvalidated
  obtain ⟨hbefore, hfacts⟩ := h.handled_lastValidated hvalidated
  unfold handled
  rw [hfacts]
  exact h.stands time hbefore

theorem Settled.handled_ended (h : m.Settled) (i : Input)
    (hends : m.controller.state.published.endsValidation = true) :
    (m.handled i).lastValidated = none := by
  cases hvalidated : (m.handled i).lastValidated with
  | none => rfl
  | some time =>
    have hbefore := (h.handled_lastValidated hvalidated).1
    rw [h.ended hends] at hbefore
    cases hbefore

theorem enter_stands (h : m.Stands) (hpublished : m.controller.published =
    m.controller.state.published) (state : State) (now : ℕ) : (m.enter state now).Stands := by
  intro time hvalidated
  change nextValidation _ m.lastValidated now state.published = some time at hvalidated
  change Standing (.entered state.published m.controller.state.published now :: m.history) time
  cases hstate : state.published with
  | readyToConnect =>
    rw [hstate] at hvalidated
    simp only [nextValidation] at hvalidated
    split at hvalidated
    · exact (h time hvalidated).cons rfl
    next hready =>
      cases hvalidated
      rw [hpublished] at hready
      exact ⟨[], _, _, rfl, by simpa using hready, nofun⟩
  | syncing | requestingZkNyms =>
    rw [hstate] at hvalidated
    exact (h time hvalidated).cons rfl
  | _ =>
    rw [hstate] at hvalidated
    cases hvalidated

theorem enter_ended (state : State) (now : ℕ) (hends : state.published.endsValidation = true) :
    (m.enter state now).lastValidated = none := by
  change nextValidation _ _ now state.published = none
  cases hstate : state.published with
  | readyToConnect | syncing | requestingZkNyms => rw [hstate] at hends; cases hends
  | _ => rfl

theorem Settled.during_stands (h : m.Settled) (i : Input) : ∀ k ∈ m.during i, k.Stands := by
  intro k hk
  unfold during at hk
  split at hk
  · cases hk
  · split at hk
    next state hnext =>
      rcases List.mem_cons.1 hk with rfl | hk
      · exact h.handled_stands i
      · rw [List.mem_singleton.1 hk]
        exact enter_stands (h.handled_stands i) h.published state i.now
    · cases hk

theorem Settled.step (h : m.Settled) (i : Input) : (m.step i).Settled := by
  have hpublished : (m.step i).controller.published = (m.step i).controller.state.published :=
    Controller.step_published i h.published
  have hkeeps := State.handleEvent_keeps i m.controller.shared m.controller.state
  unfold Handled.Keeps at hkeeps
  cases hfinished : m.controller.finished with
  | true =>
    have hstep : m.step i = m := by simp [Moment.step, Controller.step, hfinished]
    rw [hstep]
    exact h
  | false =>
    cases hnext : (m.controller.state.handleEvent i m.controller.shared).next with
    | newState state =>
      have hstep : m.step i =
          ⟨((m.handled i).enter state i.now).controller.publish,
            ((m.handled i).enter state i.now).history⟩ := by
        simp [Moment.step, Controller.step, hfinished, hnext, handled, enter]
      rw [hstep] at hpublished ⊢
      exact ⟨hpublished, enter_ended state i.now,
        enter_stands (h.handled_stands i) h.published state i.now⟩
    | sameState state =>
      have hstep : m.step i = ⟨{ m.controller.handle i with state }, (m.handled i).history⟩ := by
        simp [Moment.step, Controller.step, hfinished, hnext]
      rw [hstep] at hpublished ⊢
      rw [hnext] at hkeeps
      refine ⟨hpublished, fun hends => h.handled_ended i ?_, h.handled_stands i⟩
      rw [← hkeeps]
      exact hends
    | finished =>
      have hstep : m.step i =
          ⟨{ m.controller.handle i with finished := true }, (m.handled i).history⟩ := by
        simp [Moment.step, Controller.step, hfinished, hnext]
      rw [hstep] at hpublished ⊢
      exact ⟨hpublished, h.handled_ended i, h.handled_stands i⟩

theorem Settled.moments_stand (h : m.Settled) (inputs : List Input) :
    ∀ k ∈ m.moments inputs, k.Stands := by
  induction inputs generalizing m with
  | nil =>
    intro k hk
    rw [List.mem_singleton.1 hk]
    exact h.stands
  | cons i inputs ih =>
    intro k hk
    rcases List.mem_cons.1 hk with rfl | hk
    · exact h.stands
    · rcases List.mem_append.1 hk with hk | hk
      · exact h.during_stands i k hk
      · exact ih (h.step i) k hk

end Moment

/-! ## Waiting for the account -/

inductive AccountControllerError where
  | offline
  | noAccountStored
  | internal (message : String)
  | errorState (reason : ErrorStateReason)
deriving DecidableEq

/-- One turn of the wait: the moment the state is read at, the one the validation is read
at, and the time then. -/
structure Read where
  first : Moment
  second : Moment
  now : ℕ

namespace Read

def state (r : Read) : ControllerState := r.first.controller.published

def recentlyValidated (r : Read) : Bool :=
  r.second.lastValidated.any fun validated => r.now - validated < accountValidationFreshness

def outcome (r : Read) : Option (Except AccountControllerError Unit) :=
  match r.state with
  | .offline => some (.error .offline)
  | .loggedOut => some (.error .noAccountStored)
  | .error reason => some (.error (.errorState reason))
  | .syncing | .requestingZkNyms => if r.recentlyValidated then some (.ok ()) else none
  | .readyToConnect | .decentralised | .upgradeMode => some (.ok ())

def TakenFrom (moments : List Moment) (r : Read) : Prop :=
  ∃ j k : ℕ, j ≤ k ∧ moments[j]? = some r.first ∧ moments[k]? = some r.second

end Read

/-- The reads so far end in a result, or the wait goes on. The wait ends with an error when
the controller is gone. -/
def waitForAccountReadyToConnect (closed : Bool) :
    List Read → Option (Except AccountControllerError Unit)
  | [] =>
    if closed then some (.error (.internal "Account controller state receiver has closed"))
    else none
  | r :: reads =>
    match r.outcome with
    | some result => some result
    | none => waitForAccountReadyToConnect closed reads

theorem waitForAccountReadyToConnect_eq_ok {closed : Bool} {reads : List Read}
    (h : waitForAccountReadyToConnect closed reads = some (.ok ())) :
    ∃ waited r rest, reads = waited ++ r :: rest ∧ (∀ w ∈ waited, w.outcome = none) ∧
      r.outcome = some (.ok ()) := by
  induction reads with
  | nil =>
    unfold waitForAccountReadyToConnect at h
    split at h <;> cases h
  | cons r reads ih =>
    cases hr : r.outcome with
    | some result =>
      simp only [waitForAccountReadyToConnect, hr] at h
      exact ⟨[], r, reads, rfl, by simp, hr.trans h⟩
    | none =>
      simp only [waitForAccountReadyToConnect, hr] at h
      obtain ⟨waited, s, rest, rfl, hwaited, hs⟩ := ih h
      refine ⟨r :: waited, s, rest, rfl, ?_, hs⟩
      intro w hw
      rcases List.mem_cons.1 hw with rfl | hw
      · exact hr
      · exact hwaited w hw

theorem recentlyValidated_of_outcome {r : Read} (h : r.outcome = some (.ok ()))
    (hstate : r.state = .syncing ∨ r.state = .requestingZkNyms) :
    ∃ time, r.second.lastValidated = some time ∧ r.now - time < accountValidationFreshness := by
  have hrecent : r.recentlyValidated = true := by
    unfold Read.outcome at h
    rcases hstate with hstate | hstate <;> rw [hstate] at h <;> simpa using h
  unfold Read.recentlyValidated at hrecent
  cases hvalidated : r.second.lastValidated with
  | none => rw [hvalidated] at hrecent; cases hrecent
  | some time =>
    rw [hvalidated] at hrecent
    exact ⟨time, rfl, by simpa using hrecent⟩

/-- At every moment of a run a validation that is there stands. A connect that goes ahead at
a re-check does so on a validation that stood when it was read, and that was recent. -/
theorem connects_on_standing_validation (account : Option VpnAccount) (device : Option Device)
    (isOffline : Bool) (now : ℕ) (inputs : List Input) :
    (∀ m ∈ (Moment.start account device isOffline now).moments inputs,
      ∀ time, m.lastValidated = some time → Standing m.history time) ∧
    ∀ closed reads,
      (∀ r ∈ reads, r.TakenFrom ((Moment.start account device isOffline now).moments inputs)) →
      waitForAccountReadyToConnect closed reads = some (.ok ()) →
      ∃ waited r rest, reads = waited ++ r :: rest ∧ (∀ w ∈ waited, w.outcome = none) ∧
        r.outcome = some (.ok ()) ∧
        (r.state = .syncing ∨ r.state = .requestingZkNyms →
          ∃ time, r.second.lastValidated = some time ∧ Standing r.second.history time ∧
            r.now - time < accountValidationFreshness) := by
  have hsettled : (Moment.start account device isOffline now).Settled := ⟨rfl, fun _ => rfl, nofun⟩
  have hstand := hsettled.moments_stand inputs
  refine ⟨hstand, ?_⟩
  intro closed reads htaken hwait
  obtain ⟨waited, r, rest, hreads, hwaited, hr⟩ := waitForAccountReadyToConnect_eq_ok hwait
  refine ⟨waited, r, rest, hreads, hwaited, hr, ?_⟩
  intro hstate
  obtain ⟨time, hvalidated, hrecent⟩ := recentlyValidated_of_outcome hr hstate
  obtain ⟨_, k, _, _, hsecond⟩ := htaken r (by rw [hreads]; simp)
  exact ⟨time, hvalidated, hstand _ (List.mem_of_getElem? hsecond) time hvalidated, hrecent⟩

/-- The account is ready, a refresh is asked for, and a connect comes while it syncs. -/
theorem connects_on_standing_validation_refreshed :
    let inputs := Controller.syncThenFetch (some (.ok .sufficientBandwidth)) ++
      [⟨.command .refreshAccountState, Controller.everythingFails, 3000⟩]
    let m := inputs.foldl Moment.step (.start (some ⟨"n1account", false⟩) (some ⟨"device"⟩) false 0)
    waitForAccountReadyToConnect false [⟨m, m, 4000⟩] = some (.ok ()) ∧
      m.controller.published = .syncing ∧ m.lastValidated = some 2000 ∧ Standing m.history 2000 := by
  intro inputs m
  have hwait : waitForAccountReadyToConnect false [⟨m, m, 4000⟩] = some (.ok ()) := by decide
  obtain ⟨-, hconnects⟩ := connects_on_standing_validation (some ⟨"n1account", false⟩)
    (some ⟨"device"⟩) false 0 inputs
  obtain ⟨waited, r, rest, hreads, -, -, hstanding⟩ := hconnects false [⟨m, m, 4000⟩]
    (fun r hr => by rw [List.mem_singleton.1 hr]; exact ⟨9, 9, le_refl _, rfl, rfl⟩) hwait
  obtain rfl : r = ⟨m, m, 4000⟩ := by
    rcases List.append_eq_singleton_iff.1 hreads.symm with ⟨-, hr⟩ | ⟨-, hr⟩
    · exact (List.cons.inj hr).1
    · cases hr
  obtain ⟨time, htime, hstands, -⟩ := hstanding (.inl rfl)
  cases htime
  exact ⟨hwait, rfl, rfl, hstands⟩

end AccountController
