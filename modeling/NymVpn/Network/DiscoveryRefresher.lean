import Mathlib.Data.List.Induction

/-!
# The discovery refresher

The refresher looks for a changed network environment unless it is paused, idle or offline.
A request for the overrides that are remembered is skipped.
-/

namespace NetworkConfig

structure Client (O : Type*) where
  overrides : Option O

structure DiscoveryRefresher (O N : Type*) where
  client : Client O
  currentResolverOverrides : Option O
  paused : Bool
  idle : Bool
  lastCheck : Option ℕ
  online : Bool
  checkedConsistency : Bool
  network : N

inductive Command (O : Type*) where
  | pause (pause : Bool)
  | setIdle (idle : Bool)
  | useResolverOverrides (overrides : Option O)

inductive Error where
  | createClient
  | inconsistentNetwork
  | parseDiscoveryFile
  | refreshDiscoveryFile

inductive RefresherEvent (N : Type*) where
  | newNetwork (network : N)
  | error (e : Error)

/-- What a check finds: whether the network is consistent, if that could be told, and the
network of a refreshed file, if the file was stale. -/
structure Check (N : Type*) where
  consistent : Option Bool
  refreshed : Except Unit (Option (Except Unit N))

/-- What the loop selects. A command comes with whether a client can be built. -/
inductive Input (O N : Type*) where
  | command (command : Command O) (built : Bool)
  | connectivity (online : Bool)
  | tick (now : ℕ) (check : Check N)

def Input.isRequest {O N : Type*} : Input O N → Bool
  | .command (.useResolverOverrides _) _ => true
  | _ => false

namespace DiscoveryRefresher

variable {O N : Type*} [DecidableEq O] [DecidableEq N]

def spawn (network : N) (online : Bool) : DiscoveryRefresher O N where
  client := ⟨none⟩
  currentResolverOverrides := none
  paused := false
  idle := false
  lastCheck := none
  online
  checkedConsistency := false
  network

def attempts (r : DiscoveryRefresher O N) (overrides : Option O) : Bool :=
  r.currentResolverOverrides ≠ overrides

def useResolverOverrides (overrides : Option O) (built : Bool) (r : DiscoveryRefresher O N) :
    DiscoveryRefresher O N × List (RefresherEvent N) :=
  if r.attempts overrides then
    if built then ({ r with client := ⟨overrides⟩ }, []) else (r, [.error .createClient])
  else (r, [])

def handleCommand (command : Command O) (built : Bool) (r : DiscoveryRefresher O N) :
    DiscoveryRefresher O N × List (RefresherEvent N) :=
  match command with
  | .pause pause => ({ r with paused := pause }, [])
  | .setIdle idle => ({ r with idle }, [])
  | .useResolverOverrides overrides => r.useResolverOverrides overrides built

def checks (r : DiscoveryRefresher O N) : Bool :=
  !r.paused && r.online && (!r.idle || r.lastCheck.isNone)

def checkConsistency (consistent : Option Bool) (r : DiscoveryRefresher O N) :
    DiscoveryRefresher O N × List (RefresherEvent N) :=
  if r.checkedConsistency then (r, [])
  else
    match consistent with
    | none => (r, [])
    | some false => (r, [.error .inconsistentNetwork])
    | some true => ({ r with checkedConsistency := true }, [])

def refresh (refreshed : Except Unit (Option (Except Unit N))) (r : DiscoveryRefresher O N) :
    DiscoveryRefresher O N × List (RefresherEvent N) :=
  match refreshed with
  | .error () => (r, [.error .refreshDiscoveryFile])
  | .ok none => (r, [])
  | .ok (some (.error ())) => (r, [.error .parseDiscoveryFile])
  | .ok (some (.ok network)) =>
    if r.network = network then (r, []) else ({ r with network }, [.newNetwork network])

def tick (now : ℕ) (check : Check N) (r : DiscoveryRefresher O N) :
    DiscoveryRefresher O N × List (RefresherEvent N) :=
  if r.checks then
    let (r, told) := { r with lastCheck := some now }.checkConsistency check.consistent
    let (r, told') := r.refresh check.refreshed
    (r, told ++ told')
  else (r, [])

def handle (r : DiscoveryRefresher O N) :
    Input O N → DiscoveryRefresher O N × List (RefresherEvent N)
  | .command command built => r.handleCommand command built
  | .connectivity online => ({ r with online }, [])
  | .tick now check => r.tick now check

def run (r : DiscoveryRefresher O N) (inputs : List (Input O N)) : DiscoveryRefresher O N :=
  inputs.foldl (fun r i => (r.handle i).1) r

/-! ## The client in use -/

section Client

variable {r : DiscoveryRefresher O N}

theorem run_append (inputs inputs' : List (Input O N)) :
    r.run (inputs ++ inputs') = (r.run inputs).run inputs' :=
  List.foldl_append

variable (inputs : List (Input O N)) {i : Input O N}

theorem run_cons (i : Input O N) : r.run (i :: inputs) = (r.handle i).1.run inputs := rfl

omit [DecidableEq O] in
theorem tick_keeps (now : ℕ) (check : Check N) : (r.tick now check).1.client = r.client ∧
    (r.tick now check).1.currentResolverOverrides = r.currentResolverOverrides := by
  have hconsistency (r : DiscoveryRefresher O N) (consistent : Option Bool) :
      (r.checkConsistency consistent).1.client = r.client ∧
        (r.checkConsistency consistent).1.currentResolverOverrides =
          r.currentResolverOverrides := by
    unfold checkConsistency
    split
    · exact ⟨rfl, rfl⟩
    · split <;> exact ⟨rfl, rfl⟩
  have hrefresh (r : DiscoveryRefresher O N) (refreshed : Except Unit (Option (Except Unit N))) :
      (r.refresh refreshed).1.client = r.client ∧
        (r.refresh refreshed).1.currentResolverOverrides = r.currentResolverOverrides := by
    unfold refresh
    split
    · exact ⟨rfl, rfl⟩
    · exact ⟨rfl, rfl⟩
    · exact ⟨rfl, rfl⟩
    · split <;> exact ⟨rfl, rfl⟩
  unfold tick
  split
  · obtain ⟨hclient, hcurrent⟩ := hrefresh
      ({ r with lastCheck := some now }.checkConsistency check.consistent).1 check.refreshed
    obtain ⟨hclient', hcurrent'⟩ := hconsistency { r with lastCheck := some now } check.consistent
    exact ⟨hclient.trans hclient', hcurrent.trans hcurrent'⟩
  · exact ⟨rfl, rfl⟩

theorem currentResolverOverrides_handle (i : Input O N) :
    (r.handle i).1.currentResolverOverrides = r.currentResolverOverrides := by
  cases i with
  | command command built =>
    cases command with
    | pause pause | setIdle idle => rfl
    | useResolverOverrides overrides =>
      change (r.useResolverOverrides overrides built).1.currentResolverOverrides = _
      unfold useResolverOverrides
      split
      · split <;> rfl
      · rfl
  | connectivity online => rfl
  | tick now check => exact (tick_keeps now check).2

theorem currentResolverOverrides_run :
    (r.run inputs).currentResolverOverrides = r.currentResolverOverrides := by
  induction inputs generalizing r with
  | nil => rfl
  | cons i inputs ih => exact ih.trans (currentResolverOverrides_handle i)

theorem client_handle_of_not_isRequest (h : i.isRequest = false) :
    (r.handle i).1.client = r.client := by
  cases i with
  | command command built =>
    cases command with
    | useResolverOverrides overrides => cases h
    | _ => rfl
  | connectivity online => rfl
  | tick now check => exact (tick_keeps now check).1

theorem client_run_of_not_isRequest {inputs : List (Input O N)}
    (h : ∀ i ∈ inputs, i.isRequest = false) : (r.run inputs).client = r.client := by
  induction inputs generalizing r with
  | nil => rfl
  | cons i inputs ih =>
    obtain ⟨hi, hinputs⟩ := List.forall_mem_cons.1 h
    exact (ih hinputs).trans (client_handle_of_not_isRequest hi)

omit [DecidableEq O] [DecidableEq N] in
theorem exists_of_isRequest (h : i.isRequest = true) :
    ∃ overrides built, i = .command (.useResolverOverrides overrides) built := by
  cases i with
  | command command built =>
    cases command with
    | useResolverOverrides overrides => exact ⟨overrides, built, rfl⟩
    | _ => cases h
  | _ => cases h

theorem client_handle_request (overrides : Option O) (built : Bool) :
    (r.handle (.command (.useResolverOverrides overrides) built)).1.client =
      if r.attempts overrides && built then ⟨overrides⟩ else r.client := by
  change (r.useResolverOverrides overrides built).1.client = _
  unfold useResolverOverrides
  cases r.attempts overrides <;> cases built <;> rfl

variable {network : N} {online : Bool}

theorem attempts_run_spawn (overrides : Option O) :
    ((spawn network online).run inputs).attempts overrides = overrides.isSome := by
  rw [attempts, currentResolverOverrides_run]
  cases overrides <;> rfl

theorem client_run_spawn_eq_none_iff (inputs : List (Input O N)) :
    ((spawn network online).run inputs).client.overrides = none ↔
      ∀ x, Input.command (.useResolverOverrides (some x)) true ∉ inputs := by
  induction inputs using List.reverseRecOn with
  | nil => simp [run, spawn]
  | append_singleton inputs i ih =>
    have hrun : (spawn network online).run (inputs ++ [i]) =
        (((spawn network online).run inputs).handle i).1 := run_append inputs [i]
    simp only [hrun, List.mem_append, List.mem_singleton, not_or, forall_and, ← ih]
    cases hi : i.isRequest with
    | false =>
      have hnot : ∀ x, Input.command (.useResolverOverrides (some x)) true ≠ i := by
        rintro x rfl
        cases hi
      simp [client_handle_of_not_isRequest hi, hnot]
    | true =>
      obtain ⟨overrides, built, rfl⟩ := exists_of_isRequest hi
      rw [client_handle_request, attempts_run_spawn]
      cases overrides <;> cases built <;> simp

/-! ## Keeping up with the requests -/

/-- Whatever was requested last is what the client in use was built with, if the client could
be built when that was tried. -/
def UsesLatest (network : N) (online : Bool) (inputs : List (Input O N)) : Prop :=
  ∀ before overrides built since later,
    inputs = before ++ .command (.useResolverOverrides overrides) built :: since ++ later →
    (∀ i ∈ since, i.isRequest = false) →
    (((spawn network online).run before).attempts overrides = true → built = true) →
    ((spawn network online).run
      (before ++ .command (.useResolverOverrides overrides) built :: since)).client =
      ⟨overrides⟩

def NoResetAfterPin (inputs : List (Input O N)) : Prop :=
  ∀ before built later, inputs = before ++ .command (.useResolverOverrides none) built :: later →
    ∀ x, .command (.useResolverOverrides (some x)) true ∉ before

theorem client_run_request (before since : List (Input O N)) (overrides : Option O) (built : Bool)
    (hsince : ∀ i ∈ since, i.isRequest = false) :
    ((spawn network online).run
      (before ++ .command (.useResolverOverrides overrides) built :: since)).client =
      if overrides.isSome && built then ⟨overrides⟩
      else ((spawn network online).run before).client := by
  rw [run_append, run_cons, client_run_of_not_isRequest hsince, client_handle_request,
    attempts_run_spawn]

/-- Overrides replace each other, but a request to drop them is taken for a repeated one:
the refresher keeps up exactly if none comes after a client was built with overrides. -/
theorem usesLatest_iff_noResetAfterPin (network : N) (online : Bool) (inputs : List (Input O N)) :
    UsesLatest network online inputs ↔ NoResetAfterPin inputs := by
  constructor
  · intro h before built later hinputs
    have hclient := h before none built [] later (by rw [hinputs]; simp) (by simp)
      (by rw [attempts_run_spawn]; simp)
    rw [client_run_request before [] none built (by simp)] at hclient
    exact (client_run_spawn_eq_none_iff before).1 (congrArg Client.overrides hclient)
  · intro h before overrides built since later hinputs hsince hbuilt
    rw [client_run_request before since overrides built hsince]
    cases overrides with
    | none =>
      have hbefore := h before built (since ++ later) (by rw [hinputs]; simp)
      exact congrArg Client.mk ((client_run_spawn_eq_none_iff before).2 hbefore)
    | some x =>
      rw [attempts_run_spawn] at hbuilt
      rw [hbuilt rfl]
      rfl

end Client

/-- The pins of a tunnel stay in place after it asks for them to be dropped. -/
theorem dropped_overrides_stay :
    ¬ UsesLatest (O := String) () true
      [.command (.useResolverOverrides (some "entry")) true,
        .command (.useResolverOverrides none) true] := by
  intro h
  have hclient := h [.command (.useResolverOverrides (some "entry")) true] none true [] [] rfl
    (by simp) (by decide)
  have : some "entry" = none := congrArg Client.overrides hclient
  cases this

end DiscoveryRefresher

end NetworkConfig
