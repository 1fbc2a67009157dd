import NymVpn.Account.Controller

/-!
# A sync gives up

The sync and the fetch share one count of attempts, and each gives up above its own cap. Every
failure but one counts: a fetch that does not end by itself.
-/

namespace AccountController

open RequestingZkNymsState State

def State.givesUp : State → Bool
  | .ready _ | .error _ _ | .loggedOut | .decentralised => true
  | _ => false

def State.started : State → ℕ
  | .syncing true _ | .requestingZkNyms true _ _ => 1
  | _ => 0

def NextState.started : NextState → ℕ
  | .newState state => state.started
  | .sameState _ | .finished => 0

def Event.undisturbed : Event → Bool
  | .command _ | .connectivity _ | .fetched (some (.ok .upgradeMode)) => false
  | .timer | .synced _ | .fetched _ | .cancelled => true

/-- A fetch above its cap that does not end by itself. -/
def FetchLost (state : State) (i : Input) : Prop :=
  ∃ attempts through, state = .requestingZkNyms true attempts through ∧
    zkNymMaxFails < attempts ∧ i.event = .fetched none

namespace Controller

def starts (c : Controller) (i : Input) : ℕ :=
  if c.finished then 0 else (c.state.handleEvent i c.shared).next.started

def tasksStarted (c : Controller) : List Input → ℕ
  | [] => 0
  | i :: inputs => if c.state.givesUp then 0 else c.starts i + (c.step i).tasksStarted inputs

end Controller

/-! ## The tasks that are left -/

def State.left : State → ℕ
  | .syncing _ attempts => 2 * (11 - attempts) + 1
  | .requestingZkNyms _ attempts _ => 2 * (11 - attempts)
  | _ => 0

def State.Trying : State → Prop
  | .syncing _ _ | .requestingZkNyms _ _ _ => True
  | state => state.givesUp = true

def State.StartsAtMost (n : ℕ) (state : State) : Prop :=
  state.started + state.left ≤ n ∧ state.Trying

variable {answers : Answers} {now : ℕ} {shared : SharedAccountState} {attempts n : ℕ} {i : Input}

theorem startsAtMost_of_givesUp {state : State} (h : state.givesUp = true) :
    state.StartsAtMost n := by
  cases state <;> simp_all [givesUp, State.StartsAtMost, started, left, State.Trying]

theorem startsAtMost_syncing (h : 2 * (11 - attempts) + 2 ≤ n) :
    (SyncingState.enter shared now attempts).StartsAtMost n := by
  unfold SyncingState.enter
  split
  · exact startsAtMost_of_givesUp rfl
  · split
    · exact startsAtMost_of_givesUp rfl
    · split
      · exact startsAtMost_of_givesUp rfl
      · refine ⟨?_, trivial⟩
        cases shared.firewallActive <;> simp only [started, left, Bool.not_true,
          Bool.not_false] <;> omega

theorem startsAtMost_requesting (through : Bool) (h : 2 * (11 - attempts) + 1 ≤ n) :
    (enter shared now attempts through).StartsAtMost n := by
  unfold enter
  split
  · exact startsAtMost_of_givesUp rfl
  · split
    · exact startsAtMost_of_givesUp rfl
    · split
      · exact startsAtMost_of_givesUp rfl
      · refine ⟨?_, trivial⟩
        cases shared.firewallActive <;> simp only [started, left, Bool.not_true,
          Bool.not_false] <;> omega

theorem startsAtMost_retryOr (reason : ErrorStateReason) :
    (SyncingState.retryOr now shared reason attempts).StartsAtMost (2 * (11 - attempts) + 1) := by
  unfold SyncingState.retryOr
  split
  · exact startsAtMost_of_givesUp rfl
  · next h =>
      rw [maxSyncingAttempts] at h
      exact startsAtMost_syncing (by omega)

theorem startsAtMost_afterSync (result : Option SyncOutcome) :
    (SyncingState.next now shared attempts result).StartsAtMost (2 * (11 - attempts) + 1) := by
  unfold SyncingState.next
  split
  · exact startsAtMost_retryOr _
  · exact startsAtMost_requesting false le_rfl
  · split
    · exact startsAtMost_retryOr _
    · exact startsAtMost_of_givesUp rfl

theorem startsAtMost_afterError (err : ZkNymError) :
    (afterError answers now shared attempts err).StartsAtMost (2 * (11 - attempts)) := by
  unfold afterError
  split
  · exact startsAtMost_of_givesUp rfl
  · next h =>
      rw [zkNymMaxFails] at h
      split
      · exact startsAtMost_of_givesUp rfl
      · split
        · exact startsAtMost_requesting false (by rw [zkNymMaxFails]; omega)
        · exact startsAtMost_requesting false (by rw [zkNymMaxFails]; omega)
        · exact startsAtMost_requesting false (by omega)
        · split
          · exact startsAtMost_of_givesUp rfl
          · exact startsAtMost_of_givesUp rfl

theorem startsAtMost_afterFetch {result : Option (Except ZkNymError ZkNymFetchResult)}
    (hmode : result ≠ some (.ok .upgradeMode)) (hlost : result = none → attempts ≤ zkNymMaxFails) :
    (next answers now shared attempts result).StartsAtMost (2 * (11 - attempts)) := by
  unfold next
  split
  · have hcap := hlost rfl
    rw [zkNymMaxFails] at hcap
    exact startsAtMost_syncing (by omega)
  · exact startsAtMost_afterError _
  · exact startsAtMost_of_givesUp rfl
  · exact startsAtMost_of_givesUp rfl
  · exact absurd rfl hmode

def NextState.UsesLeft (state : State) : NextState → Prop
  | .newState entered => entered.StartsAtMost state.left
  | .sameState same => same = state
  | .finished => True

theorem usesLeft_syncing {running : Bool} (hundisturbed : i.event.undisturbed = true) :
    ((syncing running attempts).handleEvent i shared).next.UsesLeft
      (.syncing running attempts) := by
  rw [handleEvent]
  cases hevent : i.event with
  | command command | connectivity isOffline => rw [hevent] at hundisturbed; cases hundisturbed
  | cancelled => trivial
  | timer | fetched result => rfl
  | synced result =>
    cases running with
    | false => rfl
    | true => exact startsAtMost_afterSync result

theorem usesLeft_requesting {running through : Bool}
    (hundisturbed : i.event.undisturbed = true)
    (hlost : ¬FetchLost (.requestingZkNyms running attempts through) i) :
    ((requestingZkNyms running attempts through).handleEvent i shared).next.UsesLeft
      (.requestingZkNyms running attempts through) := by
  rw [handleEvent]
  cases hevent : i.event with
  | command command | connectivity isOffline => rw [hevent] at hundisturbed; cases hundisturbed
  | cancelled => trivial
  | timer | synced result => rfl
  | fetched result =>
    cases running with
    | false => rfl
    | true =>
      refine startsAtMost_afterFetch ?_ ?_
      · rintro rfl
        rw [hevent] at hundisturbed
        cases hundisturbed
      · rintro rfl
        by_contra hcap
        exact hlost ⟨_, _, rfl, Nat.lt_of_not_le hcap, hevent⟩

/-! ## Runs -/

namespace Controller

variable {c : Controller} {i : Input}

theorem starts_add_left_le (htrying : c.state.Trying) (hgoing : c.state.givesUp = false)
    (hundisturbed : i.event.undisturbed = true) (hlost : ¬FetchLost c.state i) :
    c.starts i + (c.step i).state.left ≤ c.state.left ∧ (c.step i).state.Trying := by
  have huses : (c.state.handleEvent i c.shared).next.UsesLeft c.state := by
    cases hstate : c.state with
    | syncing running attempts => exact usesLeft_syncing hundisturbed
    | requestingZkNyms running attempts through =>
      rw [hstate] at hlost
      exact usesLeft_requesting hundisturbed hlost
    | _ =>
      rw [hstate] at htrying hgoing
      exact absurd (hgoing.symm.trans htrying) Bool.false_ne_true
  rw [starts, step]
  cases c.finished with
  | true => exact ⟨by rw [if_pos rfl, if_pos rfl, Nat.zero_add], htrying⟩
  | false =>
    cases hnext : (c.state.handleEvent i c.shared).next with
    | newState state =>
      rw [hnext] at huses
      exact huses
    | sameState state =>
      rw [hnext] at huses
      obtain rfl : state = c.state := huses
      exact ⟨Nat.le_of_eq (Nat.zero_add _), htrying⟩
    | finished => exact ⟨Nat.le_of_eq (Nat.zero_add _), htrying⟩

theorem tasksStarted_le {inputs : List Input} (htrying : c.state.Trying)
    (hundisturbed : ∀ i ∈ inputs, i.event.undisturbed = true)
    (hlost : ∀ past i, past ++ [i] <+: inputs → ¬FetchLost (c.run past).state i) :
    c.tasksStarted inputs ≤ c.state.left := by
  induction inputs generalizing c with
  | nil => exact Nat.zero_le _
  | cons i inputs ih =>
    rw [tasksStarted]
    cases hgoing : c.state.givesUp with
    | true => exact Nat.zero_le _
    | false =>
      obtain ⟨hstep, htrying⟩ := starts_add_left_le htrying hgoing
        (hundisturbed i (by simp)) (hlost [] i ⟨inputs, rfl⟩)
      have hrest := ih htrying (fun j hj => hundisturbed j (List.mem_cons_of_mem _ hj))
        fun past j hprefix => hlost (i :: past) j (List.cons_prefix_cons.2 ⟨rfl, hprefix⟩)
      rw [if_neg Bool.false_ne_true]
      omega

/-- A sync that starts at its first attempt, and that nothing disturbs, starts at most 24
tasks before it comes to an end, unless a fetch is lost above its cap. -/
theorem sync_gives_up {running : Bool} (hstate : c.state = .syncing running 0)
    {inputs : List Input} (hundisturbed : ∀ i ∈ inputs, i.event.undisturbed = true)
    (hlost : ∀ past i, past ++ [i] <+: inputs → ¬FetchLost (c.run past).state i) :
    c.state.started + c.tasksStarted inputs ≤ 24 := by
  have htasks : c.tasksStarted inputs ≤ c.state.left :=
    tasksStarted_le (by rw [hstate]; trivial) hundisturbed hlost
  rw [hstate] at htasks ⊢
  have hstarted : (syncing running 0).started ≤ 1 := by cases running <;> decide
  exact Nat.add_le_add hstarted htasks

def everythingFails : Answers where
  generateNew := .error "failed"
  existsOnChain := .error .offline
  registerAccount := .error .offline
  decentralisedZkNym := .error .offline
  storeAccount := .error .offline
  resetKeys := .error .offline
  forgetAccount := .error .offline
  resetCredentials := .error "failed"
  clearKeys := .error "failed"
  removeFiles := .error "failed"
  overrideResolver := .error "failed"
  allAboveMinimalThreshold := .error "failed"
  allNonEmpty := .error "failed"
  upgradeModeJwt := .error "failed"
  removeUpgradeModeJwts := .error "failed"

def syncThenFetch (fetched : Option (Except ZkNymError ZkNymFetchResult)) : List Input :=
  [⟨.synced (some ⟨some ⟨none, 0, 0, none⟩, .ok ()⟩), everythingFails, 1000⟩,
    ⟨.fetched fetched, everythingFails, 2000⟩]

theorem sync_gives_up_storage :
    let c := new (some ⟨"n1account", false⟩) (some ⟨"device"⟩) false 0
    c.state = .syncing true 0 ∧
      c.state.started +
        c.tasksStarted (syncThenFetch (some (.error (.storage "locked")))) ≤ 24 := by
  have hstate : (new (some ⟨"n1account", false⟩) (some ⟨"device"⟩) false 0).state =
      .syncing true 0 := rfl
  refine ⟨hstate, sync_gives_up hstate ?_ ?_⟩
  · intro i hi
    rcases List.mem_pair.1 hi with rfl | rfl <;> rfl
  · rintro past i hprefix ⟨attempts, through, -, -, hevent⟩
    have hi : i ∈ syncThenFetch (some (.error (.storage "locked"))) :=
      hprefix.subset (by simp)
    rcases List.mem_pair.1 hi with rfl | rfl <;> cases hevent

/-- Every sync succeeds and every fetch is lost: the 25th task is started, and the sync has
not come to an end. -/
theorem sync_retries_lost_fetches :
    let c := new (some ⟨"n1account", false⟩) (some ⟨"device"⟩) false 0
    let inputs := (List.replicate 12 (syncThenFetch none)).flatten
    c.state = .syncing true 0 ∧ inputs.all (·.event.undisturbed) = true ∧
      c.state.started + c.tasksStarted inputs = 25 ∧ (c.run inputs).state = .syncing true 12 := by
  decide

end Controller

end AccountController
