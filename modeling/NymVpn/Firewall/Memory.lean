import NymVpn.Firewall.Fw3

/-!
# What the firewall remembers

The firewall remembers its last successful backend call and skips a repeat of it. An entry
point of a backend records that it ran; the journal of a session notes these records and
every change of the flag, latest first. The memory only ever describes its head.
-/

namespace NymFirewall

open Net

/-! ## The firewall of the router -/

namespace Openwrt

inductive FirewallSystem where
  | fw3
  | fw4
  | unknown
deriving DecidableEq

inductive Target where
  /-- Compiled, so a changed uplink is a changed target. -/
  | policy (rs : RuleSet)
  | reset
deriving DecidableEq

/-- In nanoseconds, as all times here. -/
def reapplyAfter : ℕ := 30 * 1000000000

structure Applied where
  system : FirewallSystem
  target : Target
  begun : ℕ

structure Firewall where
  system : FirewallSystem
  applied : Option Applied

inductive EntryPoint where
  | fw3Apply (rs : RuleSet)
  | fw3Reset
  | fw4Apply (rs : RuleSet)
  | fw4Reset

/-- An entry point that ran, and how it ended. -/
structure BackendCall where
  entry : EntryPoint
  result : Except Error Unit

structure Backends where
  answer : EntryPoint → Except Error Unit

namespace Backends

def call (backends : Backends) (entry : EntryPoint) : Except Error Unit × List BackendCall :=
  (backends.answer entry, [⟨entry, backends.answer entry⟩])

def fw3Apply (backends : Backends) (rs : RuleSet) : Except Error Unit × List BackendCall :=
  backends.call (.fw3Apply rs)

def fw3Reset (backends : Backends) : Except Error Unit × List BackendCall :=
  backends.call .fw3Reset

def fw4Apply (backends : Backends) (rs : RuleSet) : Except Error Unit × List BackendCall :=
  backends.call (.fw4Apply rs)

def fw4Reset (backends : Backends) : Except Error Unit × List BackendCall :=
  backends.call .fw4Reset

end Backends

def runBackend (backends : Backends) :
    FirewallSystem → Target → Except Error Unit × List BackendCall
  | .fw4, .policy rs => backends.fw4Apply rs
  | .fw4, .reset => backends.fw4Reset
  | .fw3, .policy rs => backends.fw3Apply rs
  | .unknown, .policy rs => backends.fw3Apply rs
  | .fw3, .reset => backends.fw3Reset
  | .unknown, .reset => backends.fw3Reset

structure Env where
  elapsed : ℕ
  detected : FirewallSystem
  trackIps : List IpAddr
  uplink : Uplink
  backends : Backends

structure Reply where
  result : Except Error Unit
  firewall : Firewall
  ran : List BackendCall

namespace Firewall

def new (detected : FirewallSystem) : Firewall := ⟨detected, none⟩

def refreshSystemIfUnknown (self : Firewall) (detected : FirewallSystem) : Firewall :=
  if self.system = .unknown then
    if detected ≠ .unknown then { self with system := detected } else self
  else self

def forgetApplied (self : Firewall) : Firewall := { self with applied := none }

/-- The last successful call was the same, and it was begun less than the window ago. -/
def remembers (self : Firewall) (target : Target) (now : ℕ) : Bool :=
  match self.applied with
  | some applied =>
    applied.system = self.system && applied.target = target && now - applied.begun < reapplyAfter
  | none => false

def converge (self : Firewall) (target : Target) (force : Bool) (now : ℕ)
    (run : FirewallSystem → Target → Except Error Unit × List BackendCall) : Reply :=
  if !force && self.remembers target now then
    ⟨.ok (), self, []⟩
  else
    match run self.system target with
    | (.error e, ran) => ⟨.error e, self.forgetApplied, ran⟩
    | (.ok (), ran) => ⟨.ok (), { self with applied := some ⟨self.system, target, now⟩ }, ran⟩

def applyPolicy (self : Firewall) (policy : FirewallPolicy) (now : ℕ) (env : Env) : Reply :=
  let self := self.refreshSystemIfUnknown env.detected
  let target := .policy (compileWith env.trackIps policy env.uplink)
  self.converge target false now (runBackend env.backends)

def resetPolicy (self : Firewall) (now : ℕ) (env : Env) : Reply :=
  let self := self.refreshSystemIfUnknown env.detected
  self.converge .reset true now (runBackend env.backends)

def resetPolicyIfChanged (self : Firewall) (now : ℕ) (env : Env) : Reply :=
  let self := self.refreshSystemIfUnknown env.detected
  self.converge .reset false now (runBackend env.backends)

end Firewall

end Openwrt

open Openwrt

/-! ## The firewall of the daemon -/

structure Firewall where
  inner : Openwrt.Firewall
  killswitch : Bool

namespace Firewall

def fromArgs (killswitch : Bool) (detected : FirewallSystem) : Firewall :=
  ⟨.new detected, killswitch⟩

def setKillswitch (self : Firewall) (on : Bool) : Firewall :=
  let inner := if on ≠ self.killswitch then self.inner.forgetApplied else self.inner
  ⟨inner, on⟩

def applyPolicy (self : Firewall) (policy : FirewallPolicy) (now : ℕ) (env : Env) : Reply :=
  if !self.killswitch then
    self.inner.resetPolicyIfChanged now env
  else
    self.inner.applyPolicy policy now env

def resetPolicy (self : Firewall) (now : ℕ) (env : Env) : Reply :=
  self.inner.resetPolicy now env

end Firewall

/-! ## Sessions -/

inductive Call where
  | setKillswitch (on : Bool)
  | applyPolicy (policy : FirewallPolicy) (env : Env)
  | resetPolicy (env : Env)

inductive Note where
  | ran (call : BackendCall) (begun : ℕ)
  | flagChanged (on : Bool)

structure Session where
  firewall : Firewall
  clock : ℕ := 0
  journal : List Note := []

namespace Session

def setKillswitch (s : Session) (on : Bool) : Session :=
  { s with
    firewall := s.firewall.setKillswitch on
    journal := if on ≠ s.firewall.killswitch then .flagChanged on :: s.journal else s.journal }

def record (s : Session) (now : ℕ) (reply : Reply) : Session where
  firewall := { s.firewall with inner := reply.firewall }
  clock := now
  journal := reply.ran.map (Note.ran · now) ++ s.journal

def applyPolicy (s : Session) (policy : FirewallPolicy) (env : Env) : Except Error Unit × Session :=
  let now := s.clock + env.elapsed
  let reply := s.firewall.applyPolicy policy now env
  (reply.result, s.record now reply)

def resetPolicy (s : Session) (env : Env) : Except Error Unit × Session :=
  let now := s.clock + env.elapsed
  let reply := s.firewall.resetPolicy now env
  (reply.result, s.record now reply)

def step (s : Session) : Call → Session
  | .setKillswitch on => s.setKillswitch on
  | .applyPolicy policy env => (s.applyPolicy policy env).2
  | .resetPolicy env => (s.resetPolicy env).2

def run (s : Session) (calls : List Call) : Session := calls.foldl step s

def start (killswitch : Bool) (detected : FirewallSystem) : Session :=
  { firewall := .fromArgs killswitch detected }

def requested (s : Session) (policy : FirewallPolicy) (env : Env) : Target :=
  if s.firewall.killswitch then .policy (compileWith env.trackIps policy env.uplink) else .reset

end Session

/-- The entry point is the one for the target on the system: that of fw4 only where fw4 was
detected. -/
def Openwrt.EntryPoint.Serves (system : FirewallSystem) (target : Target) : EntryPoint → Prop
  | .fw3Apply rs => system ≠ .fw4 ∧ target = .policy rs
  | .fw3Reset => system ≠ .fw4 ∧ target = .reset
  | .fw4Apply rs => system = .fw4 ∧ target = .policy rs
  | .fw4Reset => system = .fw4 ∧ target = .reset

/-- The last thing noted is that the entry point for the target on the current system ran. It
succeeded, and it was begun less than the window ago. -/
def Session.InForce (s : Session) (target : Target) : Prop :=
  ∃ call begun earlier, s.journal = .ran call begun :: earlier ∧ call.result = .ok () ∧
    call.entry.Serves s.firewall.inner.system target ∧
    begun ≤ s.clock ∧ s.clock < begun + reapplyAfter

/-! ## The memory describes the head of the journal -/

def Openwrt.Firewall.Sound (self : Openwrt.Firewall) (clock : ℕ) (journal : List Note) : Prop :=
  ∀ applied ∈ self.applied, applied.begun ≤ clock ∧ ∃ call earlier,
    journal = .ran call applied.begun :: earlier ∧ call.result = .ok () ∧
      call.entry.Serves applied.system applied.target

def Session.Sound (s : Session) : Prop := s.firewall.inner.Sound s.clock s.journal

def Openwrt.Serving (run : FirewallSystem → Target → Except Error Unit × List BackendCall) :
    Prop :=
  ∀ system target, ∃ call : BackendCall, run system target = (call.result, [call]) ∧
    call.entry.Serves system target

theorem Openwrt.serving_runBackend (backends : Backends) : Serving (runBackend backends) := by
  intro system target
  cases system <;> cases target <;> exact ⟨⟨_, _⟩, rfl, by simp [EntryPoint.Serves]⟩

namespace Openwrt.Firewall

@[simp]
theorem applied_refreshSystemIfUnknown (self : Firewall) (detected : FirewallSystem) :
    (self.refreshSystemIfUnknown detected).applied = self.applied := by
  unfold refreshSystemIfUnknown
  split_ifs <;> rfl

theorem sound_of_forgotten {self : Firewall} (h : self.applied = none) (clock : ℕ)
    (journal : List Note) : self.Sound clock journal := by
  simp [Sound, h]

theorem Sound.refresh {self : Firewall} {clock now : ℕ} {journal : List Note}
    (h : self.Sound clock journal) (hnow : clock ≤ now) (detected : FirewallSystem) :
    (self.refreshSystemIfUnknown detected).Sound now journal := by
  intro applied happlied
  rw [applied_refreshSystemIfUnknown] at happlied
  obtain ⟨hbegun, hjournal⟩ := h applied happlied
  exact ⟨le_trans hbegun hnow, hjournal⟩

section Converge

variable (self : Firewall) (target : Target) (force : Bool) (now : ℕ)
  {run : FirewallSystem → Target → Except Error Unit × List BackendCall} (hrun : Serving run)

include hrun

theorem converge_cases :
    (force = false ∧ self.remembers target now = true ∧
      self.converge target force now run = ⟨.ok (), self, []⟩) ∨
    ∃ call : BackendCall, call.entry.Serves self.system target ∧
      ((∃ e, call.result = .error e ∧
          self.converge target force now run = ⟨.error e, self.forgetApplied, [call]⟩) ∨
        call.result = .ok () ∧ self.converge target force now run =
          ⟨.ok (), { self with applied := some ⟨self.system, target, now⟩ }, [call]⟩) := by
  unfold converge
  by_cases hskip : (!force && self.remembers target now) = true
  · rw [if_pos hskip]
    simp only [Bool.and_eq_true, Bool.not_eq_true'] at hskip
    exact .inl ⟨hskip.1, hskip.2, rfl⟩
  · rw [if_neg hskip]
    obtain ⟨⟨entry, result⟩, hcall, hserves⟩ := hrun self.system target
    refine .inr ⟨⟨entry, result⟩, hserves, ?_⟩
    rw [hcall]
    cases result with
    | error e => exact .inl ⟨e, rfl, rfl⟩
    | ok _ => exact .inr ⟨rfl, rfl⟩

theorem system_converge : (self.converge target force now run).firewall.system = self.system := by
  obtain ⟨-, -, h⟩ | ⟨call, -, ⟨e, -, h⟩ | ⟨-, h⟩⟩ := self.converge_cases target force now hrun
  all_goals simp only [h, forgetApplied]

theorem ran_converge_of_force :
    ∃ call : BackendCall, (self.converge target true now run).ran = [call] ∧
      call.entry.Serves self.system target ∧
      call.result = (self.converge target true now run).result := by
  obtain ⟨hforce, -⟩ | ⟨call, hserves, ⟨e, hresult, h⟩ | ⟨hresult, h⟩⟩ :=
    self.converge_cases target true now hrun
  · cases hforce
  all_goals exact ⟨call, by rw [h], hserves, by rw [h, hresult]⟩

variable {self target now} {journal : List Note}

theorem sound_converge (h : self.Sound now journal) :
    (self.converge target force now run).firewall.Sound now
      ((self.converge target force now run).ran.map (Note.ran · now) ++ journal) := by
  obtain ⟨-, -, hskip⟩ | ⟨call, hserves, ⟨e, -, hfail⟩ | ⟨hresult, hok⟩⟩ :=
    self.converge_cases target force now hrun
  · rw [hskip]
    exact h
  · rw [hfail]
    exact sound_of_forgotten rfl _ _
  · rw [hok]
    rintro applied ⟨⟩
    exact ⟨le_rfl, call, journal, rfl, hresult, hserves⟩

omit hrun in
theorem Sound.of_remembers (h : self.Sound now journal) (hskip : self.remembers target now = true) :
    ∃ call begun earlier, journal = .ran call begun :: earlier ∧ call.result = .ok () ∧
      call.entry.Serves self.system target ∧ begun ≤ now ∧ now < begun + reapplyAfter := by
  unfold remembers at hskip
  split at hskip
  · rename_i applied happlied
    simp only [Bool.and_eq_true, decide_eq_true_eq] at hskip
    obtain ⟨⟨hsystem, htarget⟩, hwindow⟩ := hskip
    obtain ⟨hbegun, call, earlier, hjournal, hresult, hserves⟩ := h applied happlied
    rw [hsystem, htarget] at hserves
    exact ⟨call, applied.begun, earlier, hjournal, hresult, hserves, hbegun, by omega⟩
  · cases hskip

theorem ran_of_converge_ok (h : self.Sound now journal)
    (hok : (self.converge target force now run).result = .ok ()) :
    ∃ call begun earlier,
      (self.converge target force now run).ran.map (Note.ran · now) ++ journal =
        .ran call begun :: earlier ∧ call.result = .ok () ∧
      call.entry.Serves self.system target ∧ begun ≤ now ∧ now < begun + reapplyAfter := by
  obtain ⟨-, hremembers, hskip⟩ | ⟨call, hserves, ⟨e, -, hfail⟩ | ⟨hresult, hran⟩⟩ :=
    self.converge_cases target force now hrun
  · rw [hskip]
    exact h.of_remembers hremembers
  · rw [hfail] at hok
    cases hok
  · rw [hran]
    exact ⟨call, now, journal, rfl, hresult, hserves, le_rfl, by simp [reapplyAfter]⟩

end Converge

end Openwrt.Firewall

namespace Firewall

variable (self : Firewall) (policy : FirewallPolicy) (now : ℕ) (env : Env)

theorem applyPolicy_eq_converge :
    self.applyPolicy policy now env =
      (self.inner.refreshSystemIfUnknown env.detected).converge
        (if self.killswitch then .policy (compileWith env.trackIps policy env.uplink) else .reset)
        false now (runBackend env.backends) := by
  unfold applyPolicy
  cases self.killswitch <;> rfl

end Firewall

namespace Session

open Firewall

variable {s : Session}

theorem Sound.setKillswitch (h : s.Sound) (on : Bool) : (s.setKillswitch on).Sound := by
  by_cases hon : on = s.firewall.killswitch
  · simpa [Session.setKillswitch, Firewall.setKillswitch, Session.Sound, hon] using h
  · refine Firewall.sound_of_forgotten ?_ _ _
    simp [Session.setKillswitch, Firewall.setKillswitch, hon, Openwrt.Firewall.forgetApplied]

theorem Sound.applyPolicy (h : s.Sound) (policy : FirewallPolicy) (env : Env) :
    (s.applyPolicy policy env).2.Sound := by
  have hrefresh := Firewall.Sound.refresh h (Nat.le_add_right _ env.elapsed) env.detected
  simp only [Session.applyPolicy, applyPolicy_eq_converge]
  exact sound_converge _ (serving_runBackend _) hrefresh

theorem Sound.step (h : s.Sound) (call : Call) : (s.step call).Sound := by
  cases call with
  | setKillswitch on => exact h.setKillswitch on
  | applyPolicy policy env => exact h.applyPolicy policy env
  | resetPolicy env =>
    exact sound_converge _ (serving_runBackend _)
      (Firewall.Sound.refresh h (Nat.le_add_right _ env.elapsed) _)

theorem Sound.run (h : s.Sound) (calls : List Call) : (s.run calls).Sound := by
  induction calls generalizing s with
  | nil => exact h
  | cons call calls ih => exact ih (h.step call)

theorem Sound.inForce_applyPolicy (h : s.Sound) {policy : FirewallPolicy} {env : Env}
    (hok : (s.applyPolicy policy env).1 = .ok ()) :
    (s.applyPolicy policy env).2.InForce (s.requested policy env) := by
  have hrefresh := Firewall.Sound.refresh h (Nat.le_add_right _ env.elapsed) env.detected
  simp only [Session.applyPolicy, applyPolicy_eq_converge] at hok ⊢
  obtain ⟨call, begun, earlier, hjournal, hresult, hserves, hbegun, hwindow⟩ :=
    ran_of_converge_ok _ (serving_runBackend _) hrefresh hok
  rw [← system_converge _ _ false (s.clock + env.elapsed) (serving_runBackend _)] at hserves
  exact ⟨call, begun, earlier, hjournal, hresult, hserves, hbegun, hwindow⟩

/-- In every session, an apply that returns `Ok` leaves the firewall as it was asked for: the
last thing that ran is the entry point for exactly that, it succeeded and is recent, and the
flag has not changed since. A reset always runs the one for it. -/
theorem applyPolicy_inForce (killswitch : Bool) (detected : FirewallSystem) (calls : List Call) :
    let s := (start killswitch detected).run calls
    (∀ policy env, (s.applyPolicy policy env).1 = .ok () →
      (s.applyPolicy policy env).2.InForce (s.requested policy env)) ∧
    ∀ env, ∃ call, (s.resetPolicy env).2.journal = .ran call (s.clock + env.elapsed) :: s.journal ∧
      call.entry.Serves (s.resetPolicy env).2.firewall.inner.system .reset ∧
      call.result = (s.resetPolicy env).1 := by
  intro s
  have hs : s.Sound := Sound.run (sound_of_forgotten rfl _ _) calls
  refine ⟨fun policy env hok => hs.inForce_applyPolicy hok, fun env => ?_⟩
  have hserving := serving_runBackend env.backends
  obtain ⟨call, hran, hserves, hresult⟩ := Firewall.ran_converge_of_force
    (s.firewall.inner.refreshSystemIfUnknown env.detected) .reset (s.clock + env.elapsed) hserving
  rw [← Firewall.system_converge _ .reset true (s.clock + env.elapsed) hserving] at hserves
  refine ⟨call, ?_, hserves, hresult⟩
  simp only [Session.resetPolicy, Firewall.resetPolicy, Openwrt.Firewall.resetPolicy, record, hran]
  rfl

/-- A connect whose second apply is skipped: it is a success all the same, and rightly so. -/
theorem applyPolicy_inForce_repeated :
    let backends : Backends := ⟨fun _ => .ok ()⟩
    let env : Env := ⟨5 * 1000000000, .fw4, [], ⟨["eth1"], fun _ => none⟩, backends⟩
    let policy := FirewallPolicy.blocked false [] []
    let s := (start true .unknown).run [.applyPolicy policy env]
    (s.applyPolicy policy env).1 = .ok () ∧ (s.applyPolicy policy env).2.journal.length = 1 ∧
      (s.applyPolicy policy env).2.InForce (.policy (compileWith [] policy env.uplink)) := by
  intro backends env policy s
  have hok : (s.applyPolicy policy env).1 = .ok () := by decide +kernel
  refine ⟨hok, by decide +kernel, ?_⟩
  have h := (applyPolicy_inForce true .unknown [.applyPolicy policy env]).1 policy env hok
  rwa [show s.requested policy env = .policy (compileWith [] policy env.uplink) from rfl] at h

end Session

end NymFirewall
