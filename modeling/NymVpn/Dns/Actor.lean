import NymVpn.Dns.Converge
import NymVpn.Dns.ResolvFile

/-!
# The writer of the managed file

The file holds the resolvers of the tunnel, or a mirror of the WAN file while there is none.
Any call can fail, and between two events the rest of the system can change what it reads.
-/

namespace NymDns

open Net Program Program.Prog Text Uci TunnelStateMachine.TunnelSettings

/-! ## Handlers -/

inductive Scheme where
  | managedFile
  | userManaged

inductive Mode where
  | tunnel
  | wanMirror (idle : IdleDns)

def managedTmp : String := "/tmp/resolv.conf.d/.nym-resolv.tmp"

def writeManaged (managed content : String) : ExceptT Error SysProg Unit := do
  match ← writeTmp content with
  | .ok () =>
    match ← renameTmp with
    | .ok () => return ()
    | .error message => throw (.writeFile managed message)
  | .error message => throw (.writeFile managedTmp message)

def flushCache (name : String) : SysProg Unit := do
  match extractInstancePid (← serviceJson) name with
  | some pid => sendHup pid
  | none => return ()

def flushSection : SysProg Unit := do
  match ← dnsmasqSection with
  | some name => flushCache name
  | none => return ()

def ConvergeOutcome.scheme : ConvergeOutcome → Scheme
  | .userManagedDns => .userManaged
  | .ready | .dnsmasqStopped => .managedFile

def ensureConverged (managed : String) :
    Option Scheme → SysProg (Except Error Scheme × Option Scheme)
  | some s => return (.ok s, some s)
  | none => do
    match ← (converge managed).run with
    | .ok outcome => return (.ok outcome.scheme, some outcome.scheme)
    | .error e => return (.error e, none)

def outdated (managed name : String) : Scheme → SysProg Bool
  | .managedFile => return !(← pointsAt name managed)
  | .userManaged => return !(← effectiveNoresolv name)

def reconverge (managed name : String) (s : Scheme) (scheme : Option Scheme) :
    SysProg (Except Error Unit × Option Scheme) := do
  if ← outdated managed name s then
    let (r, scheme) ← ensureConverged managed none
    return (r.map fun _ => (), scheme)
  else return (.ok (), scheme)

def announceTunnel (managed : String) (s : Scheme) (scheme : Option Scheme) :
    SysProg (Except Error Unit × Option Scheme) := do
  match ← dnsmasqSection with
  | none => return (.ok (), scheme)
  | some name =>
    match ← reconverge managed name s scheme with
    | (.error e, scheme) => return (.error e, scheme)
    | (.ok (), scheme) =>
      flushCache name
      return (.ok (), scheme)

def handleSetTunnel (managed : String) (scheme : Option Scheme) (servers : List IpAddr) :
    SysProg (Except Error Unit × Option Scheme) := do
  match ← ensureConverged managed scheme with
  | (.error e, scheme) => return (.error e, scheme)
  | (.ok s, scheme) =>
    match ← (writeManaged managed (renderResolvConf (preferIpv4Upstreams servers))).run with
    | .error e => return (.error e, scheme)
    | .ok () => announceTunnel managed s scheme

def handleSetWan (managed : String) (idle : IdleDns) : SysProg (Except Error Unit) := do
  match ← (writeManaged managed (idleSnapshot (← readWan) idle)).run with
  | .error e => return .error e
  | .ok () =>
    flushSection
    return .ok ()

/-- A repoint that could not be staged again is converged back at once. -/
def handleCommitDhcp (managed : String) (scheme : Option Scheme) :
    SysProg (Except Error Unit × Option Scheme) := do
  let commit ← (commitDhcpKeepingRepoint managed).embed SysCall.uci
  match commit.restaged with
  | .ok () => return (commit.committed, scheme)
  | .error _ =>
    match ← ensureConverged managed none with
    | (.error e, scheme) => return (.error e, scheme)
    | (.ok _, scheme) => return (commit.committed, scheme)

/-- Writes the snapshot unless it is what is read, and gives the result of the write. -/
def mirrorTick (managed : String) (idle : IdleDns) : SysProg (Option (Except Error Unit)) := do
  let wanted := idleSnapshot (← readWan) idle
  let current := (← readManaged).getD ""
  if wanted = current then return none
  return some (← (writeManaged managed wanted).run)

def seed (managed : String) : SysProg (Option Scheme) := do
  discard (writeManaged managed (wanSnapshot (← readWan))).run
  let (_, scheme) ← ensureConverged managed none
  return scheme

/-! ## The actor -/

structure Actor where
  scheme : Option Scheme
  mode : Mode
  world : SysWorld
  /-- The servers of the last command for a tunnel whose write succeeded. -/
  served : Option (List IpAddr)

/-- A command with its answer, a tick with the result of its write, or what the rest of the
system does. -/
inductive Event where
  | setTunnel (servers : List IpAddr) (ack : Except Error Unit)
  | setWanMirror (idle : IdleDns) (ack : Except Error Unit)
  | commitDhcp (ack : Except Error Unit)
  | tick (write : Option (Except Error Unit))
  | environment (uci : State) (wan : File) (readable : Bool)

namespace Actor

inductive Started (managed : String) : Actor → Prop where
  | mk {w w' : SysWorld} {scheme : Option Scheme}
      (h : Returns SysWorld.Goes (seed managed) w scheme w') :
      Started managed ⟨scheme, .wanMirror wanOnly, w', none⟩

inductive Step (managed : String) (a : Actor) : Event → Actor → Prop where
  | setTunnel {servers : List IpAddr} {ack : Except Error Unit} {scheme : Option Scheme}
      {w' : SysWorld}
      (h : Returns SysWorld.Goes (handleSetTunnel managed a.scheme servers) a.world
        (ack, scheme) w') :
      Step managed a (.setTunnel servers ack)
        { scheme
          mode := if ack.isOk then .tunnel else a.mode
          world := w'
          served := if w'.writes = a.world.writes then a.served else some servers }
  | setWanMirror {idle : IdleDns} {ack : Except Error Unit} {w' : SysWorld}
      (h : Returns SysWorld.Goes (handleSetWan managed idle) a.world ack w') :
      Step managed a (.setWanMirror idle ack)
        { a with mode := if ack.isOk then .wanMirror idle else a.mode, world := w' }
  | commitDhcp {ack : Except Error Unit} {scheme : Option Scheme} {w' : SysWorld}
      (h : Returns SysWorld.Goes (handleCommitDhcp managed a.scheme) a.world (ack, scheme) w') :
      Step managed a (.commitDhcp ack) { a with scheme, world := w' }
  | mirrorTick {idle : IdleDns} {write : Option (Except Error Unit)} {w' : SysWorld}
      (hmode : a.mode = .wanMirror idle)
      (h : Returns SysWorld.Goes (NymDns.mirrorTick managed idle) a.world write w') :
      Step managed a (.tick write) { a with world := w' }
  | droppedTick (hmode : a.mode = .tunnel) : Step managed a (.tick none) a
  | environment (uci : State) (wan : File) (readable : Bool) :
      Step managed a (.environment uci wan readable)
        { a with world := { a.world with uci, wan, managed := { a.world.managed with readable } } }

end Actor

structure Transition where
  before : Actor
  event : Event
  after : Actor

inductive Actor.Run (managed : String) : List Transition → Actor → Prop where
  | start {a : Actor} (h : a.Started managed) : Run managed [] a
  | step {ts : List Transition} {a a' : Actor} {e : Event} (hrun : Run managed ts a)
      (h : a.Step managed e a') : Run managed (ts ++ [⟨a, e, a'⟩]) a'

/-! ## What a handler does to the files -/

def KeepsFiles : SysCall → Prop
  | .renameTmp => False
  | _ => True

def SameFiles (w w' : SysWorld) : Prop :=
  w'.managed = w.managed ∧ w'.wan = w.wan ∧ w'.writes = w.writes

instance : Std.Refl SameFiles := ⟨fun _ => ⟨rfl, rfl, rfl⟩⟩

instance : IsTrans SysWorld SameFiles :=
  ⟨fun _ _ _ h h' => ⟨h'.1.trans h.1, h'.2.1.trans h.2.1, h'.2.2.trans h.2.2⟩⟩

def Wrote (content : String) (w w' : SysWorld) : Prop :=
  w'.managed.content = some content ∧ w'.wan = w.wan ∧ w'.writes = w.writes ++ [content]

section Files

variable {managed content : String} {w w' w'' : SysWorld} {c : SysCall}

theorem Wrote.of_sameFiles (hsame : SameFiles w w') (h : Wrote content w' w'') :
    Wrote content w w'' :=
  ⟨h.1, h.2.1.trans hsame.2.1, h.2.2.trans (by rw [hsame.2.2])⟩

theorem Wrote.sameFiles (h : Wrote content w w') (hsame : SameFiles w' w'') : Wrote content w w'' :=
  ⟨hsame.1 ▸ h.1, hsame.2.1.trans h.2.1, hsame.2.2.trans h.2.2⟩

theorem sameFiles_of_keepsFiles {r : SysAnswer c} (hc : KeepsFiles c)
    (h : SysWorld.Goes c w r w') : SameFiles w w' := by
  cases h with
  | renameTmp h => exact hc.elim
  | _ => exact ⟨rfl, rfl, rfl⟩

theorem keepsFiles_of_stages (h : Stages c) : KeepsFiles c := by
  cases c <;> trivial

theorem Uses.sameFiles {α : Type} {p : SysProg α} {Q : α → SysWorld → Prop}
    (h : Uses KeepsFiles p) (hQ : ∀ a w', SameFiles w w' → Q a w') : Ends SysWorld.Goes Q p w := by
  have hfrom : HoldsFrom SysWorld.Goes SameFiles (fun _ _ => True) p w :=
    h.holdsFrom fun _ _ _ _ hc hr => sameFiles_of_keepsFiles hc hr
  exact Holds.mono hfrom (fun _ _ => trivial) fun a w' hr => hQ a w' hr.1

theorem uses_converge : Uses KeepsFiles (converge managed).run := by
  have hpoint : Uses KeepsFiles (pointDnsmasq managed).run :=
    uses_pointDnsmasq.mono fun _ => keepsFiles_of_stages
  refine uses_run_bind (uses_run_lift (uses_discard (uses_call trivial))) fun _ => ?_
  refine uses_run_bind (uses_run_lift (uses_discard (uses_call trivial))) fun _ => ?_
  refine uses_run_bind (uses_run_lift (uses_discard (uses_call trivial))) fun _ => ?_
  refine uses_run_bind (uses_run_lift (uses_call trivial)) fun text => ?_
  split
  · refine uses_run_bind ?_ fun _ => hpoint
    exact uses_run_bind (uses_uciRun trivial) fun _ => uses_uciRun trivial
  · exact hpoint

theorem uses_ensureConverged (scheme : Option Scheme) :
    Uses KeepsFiles (ensureConverged managed scheme) := by
  cases scheme with
  | some s => trivial
  | none =>
    refine uses_bind uses_converge fun r => ?_
    cases r <;> trivial

theorem uses_flushCache (name : String) : Uses KeepsFiles (flushCache name) := by
  refine uses_bind (uses_call trivial) fun json => ?_
  split
  · exact uses_call trivial
  · trivial

theorem uses_flushSection : Uses KeepsFiles flushSection := by
  refine uses_bind (uses_dnsmasqSection.mono fun _ => keepsFiles_of_stages) fun name => ?_
  cases name with
  | none => trivial
  | some name => exact uses_flushCache name

theorem uses_announceTunnel (s : Scheme) (scheme : Option Scheme) :
    Uses KeepsFiles (announceTunnel managed s scheme) := by
  have houtdated (name : String) : Uses Stages (outdated managed name s) := by
    cases s with
    | managedFile => exact uses_bind (uses_pointsAt name) fun _ => trivial
    | userManaged => exact uses_bind (uses_effectiveNoresolv name) fun _ => trivial
  have hreconverge (name : String) : Uses KeepsFiles (reconverge managed name s scheme) := by
    refine uses_bind ((houtdated name).mono fun _ => keepsFiles_of_stages) fun old => ?_
    split
    · exact uses_bind (uses_ensureConverged none) fun _ => trivial
    · trivial
  refine uses_bind (uses_dnsmasqSection.mono fun _ => keepsFiles_of_stages) fun name => ?_
  cases name with
  | none => trivial
  | some name =>
    refine uses_bind (hreconverge name) fun r => ?_
    obtain ⟨r, scheme⟩ := r
    cases r with
    | error e => trivial
    | ok u => exact uses_bind (uses_flushCache name) fun _ => trivial

theorem holds_writeManaged {Q : Except Error Unit → SysWorld → Prop}
    (hok : ∀ w', Wrote content w w' → Q (.ok ()) w')
    (herror : ∀ e w', SameFiles w w' → Q (.error e) w') :
    Ends SysWorld.Goes Q (writeManaged managed content).run w := by
  refine ends_run_call_bind.2 fun r w₁ h₁ => ?_
  cases h₁ with
  | writeTmpFailed _ tmp message => exact herror _ _ ⟨rfl, rfl, rfl⟩
  | writeTmp =>
    refine ends_run_call_bind.2 fun r w₂ h₂ => ?_
    cases h₂ with
    | renameTmpFailed message => exact herror _ _ ⟨rfl, rfl, rfl⟩
    | renameTmp h =>
      obtain rfl : content = _ := Option.some.inj h
      exact hok _ ⟨rfl, rfl, rfl⟩

def WroteOrFailed (content : String) (w : SysWorld) (ack : Except Error Unit) (w' : SysWorld) :
    Prop :=
  Wrote content w w' ∨ SameFiles w w' ∧ ack.isOk = false

theorem holds_handleSetTunnel (scheme : Option Scheme) (servers : List IpAddr) :
    Ends SysWorld.Goes
      (fun r w' => WroteOrFailed (renderResolvConf (preferIpv4Upstreams servers)) w r.1 w')
      (handleSetTunnel managed scheme servers) w := by
  refine holds_bind.2 ?_
  apply Uses.sameFiles (uses_ensureConverged scheme)
  rintro ⟨r, scheme⟩ w₁ h₁
  cases r with
  | error e => exact Or.inr ⟨h₁, rfl⟩
  | ok s =>
    refine holds_bind.2 ?_
    apply holds_writeManaged
    · intro w₂ h₂
      apply Uses.sameFiles (uses_announceTunnel s scheme)
      exact fun r w₃ h₃ => Or.inl ((h₂.of_sameFiles h₁).sameFiles h₃)
    · exact fun e w₂ h₂ => Or.inr ⟨trans_of SameFiles h₁ h₂, rfl⟩

theorem holds_handleSetWan (idle : IdleDns) :
    Ends SysWorld.Goes
      (fun ack w' => Wrote (idleSnapshot w.wan.read idle) w w' ∧ ack = .ok () ∨
        SameFiles w w' ∧ ack.isOk = false)
      (handleSetWan managed idle) w := by
  refine ends_call_bind.2 fun r w₁ h₁ => ?_
  cases h₁
  refine holds_bind.2 ?_
  apply holds_writeManaged
  · intro w₂ h₂
    refine holds_bind.2 ?_
    apply Uses.sameFiles uses_flushSection
    exact fun _ w₃ h₃ => Or.inl ⟨h₂.sameFiles h₃, rfl⟩
  · exact fun e w₂ h₂ => Or.inr ⟨h₂, rfl⟩

theorem uses_handleCommitDhcp (scheme : Option Scheme) :
    Uses KeepsFiles (handleCommitDhcp managed scheme) := by
  refine uses_bind (uses_embed (fun _ => trivial) _) fun commit => ?_
  split
  · trivial
  · refine uses_bind (uses_ensureConverged none) fun r => ?_
    obtain ⟨r, scheme⟩ := r
    cases r <;> trivial

def TickOutcome (wanted current : String) (w : SysWorld) :
    Option (Except Error Unit) → SysWorld → Prop
  | none, w' => wanted = current ∧ w' = w
  | some (.ok ()), w' => wanted ≠ current ∧ Wrote wanted w w'
  | some (.error _), w' => wanted ≠ current ∧ SameFiles w w'

theorem holds_mirrorTick (idle : IdleDns) :
    Ends SysWorld.Goes
      (TickOutcome (idleSnapshot w.wan.read idle) (w.managed.read.getD "") w)
      (mirrorTick managed idle) w := by
  intro wan w₁ h₁
  refine ⟨trivial, ?_⟩
  cases h₁
  intro read w₂ h₂
  refine ⟨trivial, ?_⟩
  cases h₂
  change Holds _ _ _ (ite _ _ _) _
  split
  · next hread => exact ⟨hread, rfl⟩
  · next hread =>
      rw [holds_bind]
      exact holds_writeManaged (fun w' h => ⟨hread, h⟩) fun e w' h => ⟨hread, h⟩

end Files

/-! ## Every run -/

/-- The snapshot is empty, and so is what stands in for a file that cannot be read. -/
def Actor.Blind (a : Actor) : Prop :=
  ∃ idle, a.mode = .wanMirror idle ∧ idle.localResolvers = [] ∧ a.world.wan.read = some "" ∧
    a.world.managed.read = none ∧ a.world.managed.content ≠ some ""

/-- While there is a tunnel the managed file is rendered from the servers of the last command
that wrote it, and lists no others. -/
def Actor.Serves (a : Actor) : Prop :=
  a.mode = .tunnel → ∃ servers content, a.served = some servers ∧
    a.world.managed.content = some content ∧
    content = renderResolvConf (preferIpv4Upstreams servers) ∧
    nameservers content = (preferIpv4Upstreams servers).map IpAddr.display

/-- The managed file is the snapshot, which lists local resolvers alone when the kill-switch is
on and there are any. -/
def Actor.Mirrors (idle : IdleDns) (a : Actor) : Prop :=
  ∃ content, a.world.managed.content = some content ∧
    content = idleSnapshot a.world.wan.read idle ∧
    (idle.localResolvers ≠ [] → idle.killswitch = true →
      nameservers content = idle.localResolvers.map IpAddr.display)

/-- What is promised of a transition. A tick whose write failed has none to keep. -/
structure Transition.Sound (t : Transition) : Prop where
  serves : t.after.Serves
  dropped : ∀ write, t.event = .tick write → t.before.mode = .tunnel →
    t.after.world.managed = t.before.world.managed
  mirrored : ∀ write idle, t.event = .tick write → t.before.mode = .wanMirror idle →
    (∀ e, write ≠ some (.error e)) → t.after.Mirrors idle

def Transition.Blind (t : Transition) : Prop :=
  (∃ write, t.event = .tick write) ∧ t.before.Blind

namespace Actor

variable {managed : String} {a a' : Actor} {e : Event} {idle : IdleDns}
  {write : Option (Except Error Unit)} {w' : SysWorld}

theorem serves_of_content {servers : List IpAddr} (hserved : a.served = some servers)
    (h : a.world.managed.content = some (renderResolvConf (preferIpv4Upstreams servers))) :
    a.Serves :=
  fun _ => ⟨servers, _, hserved, h, rfl, nameservers_renderResolvConf _⟩

theorem mirrors_iff : a.Mirrors idle ↔
    a.world.managed.content = some (idleSnapshot a.world.wan.read idle) := by
  constructor
  · rintro ⟨content, hcontent, rfl, -⟩
    exact hcontent
  · intro h
    exact ⟨_, h, rfl, fun hlocal hkillswitch => nameservers_idleSnapshot hlocal hkillswitch _⟩

theorem Serves.congr (h : a.Serves) (hmode : a'.mode = a.mode) (hserved : a'.served = a.served)
    (hcontent : a'.world.managed.content = a.world.managed.content) : a'.Serves := by
  unfold Serves
  rwa [hmode, hserved, hcontent]

theorem Serves.step (ha : a.Serves) (h : a.Step managed e a') : a'.Serves := by
  cases h with
  | setTunnel h =>
    rcases (holds_handleSetTunnel _ _).of_returns h with hwrote | ⟨hsame, hack⟩
    · exact serves_of_content (if_neg (by simp [hwrote.2.2])) hwrote.1
    · exact ha.congr (if_neg (by simp [hack])) (if_pos hsame.2.2) (by rw [hsame.1])
  | setWanMirror h =>
    rcases (holds_handleSetWan _).of_returns h with ⟨-, rfl⟩ | ⟨hsame, hack⟩
    · intro htunnel
      cases htunnel
    · exact ha.congr (if_neg (by simp [hack])) rfl (by rw [hsame.1])
  | commitDhcp h =>
    have hsame : SameFiles a.world _ :=
      (Uses.sameFiles (uses_handleCommitDhcp _) fun _ _ hsame => hsame).of_returns h
    exact ha.congr rfl rfl (by rw [hsame.1])
  | mirrorTick hmode h =>
    intro htunnel
    cases hmode.symm.trans htunnel
  | droppedTick hmode => exact ha
  | environment uci wan readable => exact ha.congr rfl rfl rfl

theorem blind_iff (hmode : a.mode = .wanMirror idle) :
    a.Blind ↔ idleSnapshot a.world.wan.read idle = "" ∧ a.world.managed.read = none ∧
      a.world.managed.content ≠ some "" := by
  rw [idleSnapshot_eq_empty_iff, and_assoc]
  constructor
  · rintro ⟨idle', hidle, h⟩
    obtain rfl : idle = idle' := by simpa [hmode] using hidle
    exact h
  · exact fun h => ⟨idle, hmode, h⟩

theorem Blind.write_eq_none (hblind : a.Blind) (hmode : a.mode = .wanMirror idle)
    (h : Returns SysWorld.Goes (NymDns.mirrorTick managed idle) a.world write w') :
    write = none := by
  obtain ⟨hempty, hunread, -⟩ := (blind_iff hmode).1 hblind
  have houtcome := (holds_mirrorTick idle).of_returns h
  have hsame : idleSnapshot a.world.wan.read idle = a.world.managed.read.getD "" := by
    rw [hempty, hunread, Option.getD_none]
  match write, houtcome with
  | none, _ => rfl
  | some (.ok ()), ⟨hread, _⟩ => exact absurd hsame hread
  | some (.error e), ⟨hread, _⟩ => exact absurd hsame hread

theorem mirrors_iff_of_mirrorTick (hmode : a.mode = .wanMirror idle)
    (h : Returns SysWorld.Goes (NymDns.mirrorTick managed idle) a.world write w')
    (hwrite : ∀ e, write ≠ some (.error e)) : Mirrors idle { a with world := w' } ↔ ¬ a.Blind := by
  have houtcome := (holds_mirrorTick idle).of_returns h
  have hnone (hblind : a.Blind) := hblind.write_eq_none hmode h
  match write, houtcome with
  | some (.error e), _ => exact absurd rfl (hwrite e)
  | some (.ok ()), ⟨_, hwrote⟩ =>
    refine iff_of_true (mirrors_iff.2 ?_) fun hblind => nomatch hnone hblind
    rw [hwrote.1, hwrote.2.1]
  | none, ⟨hread, hsame⟩ =>
    subst hsame
    rw [mirrors_iff, blind_iff hmode]
    cases hmanaged : a.world.managed.read with
    | none => simp [hread, hmanaged]
    | some content =>
      have hcontent := File.content_eq_of_read hmanaged
      simp [hread, hmanaged, hcontent]

theorem Step.sound_iff (h : a.Step managed e a') (ha : a.Serves) :
    Transition.Sound ⟨a, e, a'⟩ ↔ ¬ Transition.Blind ⟨a, e, a'⟩ := by
  have hserves := ha.step h
  cases h with
  | mirrorTick hmode h =>
    constructor
    · rintro hsound ⟨-, hblind⟩
      have hnone := hblind.write_eq_none hmode h
      have hmirrors := hsound.mirrored _ _ rfl hmode (by simp [hnone])
      exact (mirrors_iff_of_mirrorTick hmode h (by simp [hnone])).1 hmirrors hblind
    · intro hblind
      refine ⟨hserves, ?_, ?_⟩
      · intro _ _ htunnel
        cases hmode.symm.trans htunnel
      · rintro write idle ⟨⟩ hidle hwrite
        cases hmode.symm.trans hidle
        exact (mirrors_iff_of_mirrorTick hmode h hwrite).2 fun ha => hblind ⟨⟨_, rfl⟩, ha⟩
  | droppedTick hmode =>
    refine iff_of_true ⟨hserves, fun _ _ _ => rfl, ?_⟩ fun hblind => ?_
    · intro _ idle _ hidle
      cases hmode.symm.trans hidle
    · obtain ⟨idle, hidle, -⟩ := hblind.2
      cases hmode.symm.trans hidle
  | _ =>
    refine iff_of_true ⟨hserves, ?_, ?_⟩ ?_
    · rintro _ ⟨⟩
    · rintro _ _ ⟨⟩
    · rintro ⟨⟨_, ⟨⟩⟩, -⟩

theorem Run.serves {ts : List Transition} (h : Run managed ts a) : a.Serves := by
  induction h with
  | start h =>
    cases h with
    | mk h => exact fun htunnel => nomatch htunnel
  | step _ hstep ih => exact ih.step hstep

/-- In a run the managed file is as promised exactly when no tick is blind. -/
theorem sound_iff_not_blind {managed : String} {ts : List Transition} {a : Actor}
    (h : Run managed ts a) : (∀ t ∈ ts, t.Sound) ↔ ∀ t ∈ ts, ¬ t.Blind := by
  induction h with
  | start h => simp
  | step hrun hstep ih =>
    rw [List.forall_mem_append, List.forall_mem_append, ih, List.forall_mem_singleton,
      List.forall_mem_singleton, hstep.sound_iff hrun.serves]

/-! ## A tick that leaves the file missing -/

theorem returns_writeManaged (managed content : String) (w : SysWorld) :
    Returns SysWorld.Goes (writeManaged managed content).run w (.ok ()) { w with
        managed := { w.managed with content := some content }
        tmp := none
        writes := w.writes ++ [content] } := by
  apply (returns_call (.writeTmp content)).run_lift.run_bind
  exact (returns_call (.renameTmp rfl)).run_lift.run_bind returns_ret

theorem started_of_failures (managed : String) (w : SysWorld) :
    Started managed ⟨none, .wanMirror wanOnly, w, none⟩ := by
  have hwrite (content : String) : Returns SysWorld.Goes (writeManaged managed content).run w
      (.error (.writeFile managedTmp "")) w :=
    (returns_call (.writeTmpFailed content w.tmp "")).run_lift.run_bind returns_ret
  have hrevert (o : Name) : Returns SysWorld.Goes (uciRevertOption o) w ⟨⟩ w :=
    (returns_call (.uci (.failed ""))).discard
  have hsection : Returns SysWorld.Goes dnsmasqSection w none w :=
    (returns_call (.uci (.failed ""))).bind returns_ret
  have hconverge : Returns SysWorld.Goes (converge managed).run w (.error .noDnsmasq) w := by
    apply (hrevert noresolv).run_lift.run_bind
    apply (hrevert server).run_lift.run_bind
    apply (hrevert resolvfile).run_lift.run_bind
    apply (returns_call .committedDhcpUnread).run_lift.run_bind
    exact hsection.run_lift.run_bind returns_ret
  have hensure : Returns SysWorld.Goes (ensureConverged managed none) w
      (.error .noDnsmasq, none) w :=
    hconverge.bind returns_ret
  have hseed : Returns SysWorld.Goes (seed managed) w none w := by
    apply (returns_call .readWan).bind
    apply (hwrite _).discard.bind
    exact hensure.bind returns_ret
  exact .mk hseed

def withServer : SysWorld where
  uci := ⟨.ofPackage [], []⟩
  managed := ⟨none, true⟩
  tmp := none
  wan := ⟨some "nameserver 192.0.2.53\n", true⟩
  writes := []

def mirrored : SysWorld :=
  { withServer with
    managed := ⟨some "nameserver 192.0.2.53\n", true⟩
    writes := ["nameserver 192.0.2.53\n"] }

theorem sound_iff_not_blind_example : ∃ ts a, Run managedFile ts a ∧ ts ≠ [] ∧
    ∀ t ∈ ts, t.Sound := by
  have hstart : Run managedFile [] _ := .start (started_of_failures managedFile withServer)
  have htick : Returns SysWorld.Goes (NymDns.mirrorTick managedFile wanOnly) withServer
      (some (.ok ())) mirrored := by
    apply (returns_call .readWan).bind
    apply (returns_call .readManaged).bind
    exact (returns_writeManaged managedFile "nameserver 192.0.2.53\n" withServer).bind returns_ret
  have hrun := hstart.step (.mirrorTick rfl htick)
  refine ⟨_, _, hrun, by simp, (sound_iff_not_blind hrun).2 ?_⟩
  rw [List.nil_append, List.forall_mem_singleton]
  rintro ⟨-, _, -, -, hwan, -⟩
  have hserver : withServer.wan.read ≠ some "" := by decide
  exact hserver hwan

def unseeded : SysWorld where
  uci := ⟨.ofPackage [], []⟩
  managed := ⟨none, true⟩
  tmp := none
  wan := ⟨some "", true⟩
  writes := []

theorem blind_tick_leaves_file_missing : ¬ ∀ ts a, Run managedFile ts a → ∀ t ∈ ts, t.Sound := by
  intro h
  have htick : Returns SysWorld.Goes (NymDns.mirrorTick managedFile wanOnly) unseeded none
      unseeded :=
    (returns_call .readWan).bind ((returns_call .readManaged).bind returns_ret)
  have hrun := (Run.start (started_of_failures managedFile unseeded)).step (.mirrorTick rfl htick)
  have hmirrors := (h _ _ hrun _ (List.mem_singleton_self _)).mirrored none wanOnly rfl rfl nofun
  cases mirrors_iff.1 hmirrors

end Actor

end NymDns
