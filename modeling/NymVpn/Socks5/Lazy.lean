import NymVpn.Gateway.Directory
import NymVpn.Program.Machine

/-!
# The mixnet client behind the proxy

The client is started by the first connection that needs one and is shut down by three
monitors: on idleness, on rotation, and when the tunnel comes up. Each looks first and takes
the client afterwards, with no eye to which tunnel it is.
-/

open GatewayDirectory Program

namespace Socks5

structure ConnectionData where
  entryGateway : NodeIdentity
  exitGateway : NodeIdentity
  /-- Over WireGuard, and over the mixnet otherwise. -/
  wireguard : Bool
deriving DecidableEq

inductive TunnelState where
  | disconnected
  | error
  | connected (connectionData : ConnectionData)
  /-- Connecting, disconnecting or offline. -/
  | other
deriving DecidableEq

structure MixnetClient where
  number : ℕ
  /-- The gateway it was built with, if one was asked for. -/
  gateway : Option NodeIdentity
deriving DecidableEq

inductive Monitor where
  | idle
  | rotation
deriving DecidableEq

structure LazySocks5 where
  idleTimeout : ℕ
  rotationInterval : ℕ
  tunnelState : TunnelState
  activeConnections : ℕ
  lastConnectionClosed : Option ℕ
  isMixnetRunning : Bool
  mixnetClient : Option MixnetClient
  /-- The start that has the mutex, and the state of the tunnel once it has read it. -/
  starting : Option (Option TunnelState)
  lastRotation : Option ℕ
  lastVpnState : Option TunnelState
  /-- The rotation is due, and the connections are not counted yet. -/
  rotating : Bool
  /-- The monitors that have found no connection and go on to shut the client down. -/
  decided : List Monitor
  /-- The connections that hold a guard, and the client each is proxied through. -/
  connections : List (Option ℕ)
  /-- The guards that were dropped and have not been taken off the count. -/
  dropped : ℕ
  built : ℕ
  stopped : List ℕ
  /-- The tunnel was looked at since it came to its state. -/
  checked : Bool
  /-- The clients that connections were put through, and what was then known of the tunnel. -/
  proxied : List (TunnelState × Bool × MixnetClient)

def TunnelState.isWireguard : TunnelState → Bool
  | .connected data => data.wireguard
  | _ => false

def TunnelState.isMixnet : TunnelState → Bool
  | .connected data => !data.wireguard
  | _ => false

def TunnelState.requestedGatewayId : TunnelState → Option NodeIdentity
  | .connected data => some data.entryGateway
  | _ => none

inductive LazySocks5.Act where
  | tunnelEvent (newState : TunnelState)
  | newGuard
  | lockInit
  | readTunnelState
  /-- The client of a start is there, built without a gateway if it fell back. -/
  | started (fallback : Bool)
  | startFailed
  | connectToInternal (i : ℕ)
  | markRunning (i : ℕ)
  | dropGuard (i : ℕ)
  | decrement
  | monitorIdleTimeout (now : ℕ)
  | monitorRotation (now : ℕ)
  | rotateNetworkRequester
  | takeClient (monitor : Monitor)
  | monitorTunnelState

namespace LazySocks5

variable (s : LazySocks5)

def new (idleTimeout rotationInterval : ℕ) : LazySocks5 where
  idleTimeout
  rotationInterval
  tunnelState := .disconnected
  activeConnections := 0
  lastConnectionClosed := none
  isMixnetRunning := false
  mixnetClient := none
  starting := none
  lastRotation := none
  lastVpnState := none
  rotating := false
  decided := []
  connections := []
  dropped := 0
  built := 0
  stopped := []
  checked := false
  proxied := []

def shutdownBackend : LazySocks5 :=
  if s.mixnetClient.isSome then { s with mixnetClient := none, isMixnetRunning := false } else s

/-- A new client. Over WireGuard the gateway is never given up. -/
def store (state : TunnelState) (fallback : Bool) : LazySocks5 :=
  { s with
    mixnetClient := some
      ⟨s.built, if fallback && !state.isWireguard then none else state.requestedGatewayId⟩
    starting := none
    built := s.built + 1 }

def idleCheck (now : ℕ) : LazySocks5 :=
  if s.activeConnections > 0 then { s with lastConnectionClosed := none }
  else
    match s.lastConnectionClosed with
    | none => { s with lastConnectionClosed := some now }
    | some closed =>
      if s.idleTimeout ≤ now - closed then { s with decided := .idle :: s.decided } else s

def rotationCheck (now : ℕ) : LazySocks5 :=
  if !s.isMixnetRunning || !s.tunnelState.isWireguard then s
  else
    match s.lastRotation with
    | none => { s with lastRotation := some now }
    | some last =>
      if s.rotationInterval ≤ now - last then { s with lastRotation := some now, rotating := true }
      else s

def rotate : LazySocks5 :=
  let s := { s with rotating := false }
  if s.activeConnections > 0 then s else { s with decided := .rotation :: s.decided }

/-- What a monitor goes on with. The idle monitor starts its timer anew. -/
def take (monitor : Monitor) : LazySocks5 :=
  let stopped := (s.mixnetClient.map MixnetClient.number).toList ++ s.stopped
  let s := { s.shutdownBackend with decided := s.decided.erase monitor, stopped }
  match monitor with
  | .idle => { s with lastConnectionClosed := none }
  | .rotation => s

def stateCheck : LazySocks5 :=
  let last (p : TunnelState → Bool) := (s.lastVpnState.map p).getD false
  let state := s.tunnelState
  let s := { s with lastVpnState := some state, checked := true }
  if state.isMixnet && !last TunnelState.isMixnet then s.shutdownBackend
  else if state.isWireguard && !last TunnelState.isWireguard && s.isMixnetRunning then
    s.shutdownBackend
  else s

def Enabled : Act → Prop
  | .lockInit => s.starting = none ∧ s.mixnetClient = none ∧ none ∈ s.connections
  | .readTunnelState => s.starting = some none
  | .started _ => ∃ state, s.starting = some (some state)
  | .startFailed => s.starting.isSome
  | .connectToInternal i => s.connections[i]? = some none ∧ s.mixnetClient.isSome
  | .markRunning i => ∃ n, s.connections[i]? = some (some n)
  | .dropGuard i => i < s.connections.length
  | .decrement => 0 < s.dropped
  | .rotateNetworkRequester => s.rotating = true
  | .takeClient monitor => monitor ∈ s.decided
  | _ => True

def act : Act → LazySocks5
  | .tunnelEvent newState =>
    { s with tunnelState := newState, checked := s.checked && newState = s.tunnelState }
  | .newGuard =>
    { s with
      activeConnections := s.activeConnections + 1, connections := s.connections ++ [none] }
  | .lockInit => { s with starting := some none }
  | .readTunnelState => { s with starting := some (some s.tunnelState) }
  | .started fallback =>
    match s.starting with
    | some (some state) => s.store state fallback
    | _ => s
  | .startFailed => { s with starting := none }
  | .connectToInternal i =>
    match s.mixnetClient with
    | some client =>
      { s with
        connections := s.connections.set i (some client.number)
        proxied := (s.tunnelState, s.checked, client) :: s.proxied }
    | none => s
  | .markRunning _ => { s with isMixnetRunning := true }
  | .dropGuard i => { s with connections := s.connections.eraseIdx i, dropped := s.dropped + 1 }
  | .decrement =>
    { s with activeConnections := s.activeConnections - 1, dropped := s.dropped - 1 }
  | .monitorIdleTimeout now => s.idleCheck now
  | .monitorRotation now => s.rotationCheck now
  | .rotateNetworkRequester => s.rotate
  | .takeClient monitor => s.take monitor
  | .monitorTunnelState => s.stateCheck

def machine : Machine LazySocks5 Act := ⟨Enabled, act⟩

/-! ### Connections and the monitors -/

/-- No connection comes while a monitor is about to shut the client down. -/
def Unhurried : Act → Prop
  | .newGuard => s.decided = []
  | _ => True

/-- A monitor that has decided finds no connection, and what it shut down serves none. -/
structure Spares : Prop where
  count : s.activeConnections = s.connections.length + s.dropped
  decided : s.decided ≠ [] → s.connections = []
  stopped : ∀ n ∈ s.stopped, n < s.built
  client : ∀ c ∈ s.mixnetClient, c.number < s.built ∧ c.number ∉ s.stopped
  spared : ∀ n, some n ∈ s.connections → n ∉ s.stopped

variable {s} {a : Act}

theorem Spares.act (h : s.Spares) (hgood : s.Unhurried a) (henabled : s.Enabled a) :
    (s.act a).Spares := by
  obtain ⟨hcount, hdecided, hstopped, hclient, hspared⟩ := h
  have hnone (hzero : ¬s.activeConnections > 0) : s.connections = [] :=
    List.length_eq_zero_iff.1 (by omega)
  cases a with
  | newGuard | started fallback | connectToInternal i | rotateNetworkRequester =>
    constructor <;> grind [LazySocks5.act, Unhurried, store, rotate]
  | dropGuard i | decrement =>
    constructor <;> grind [LazySocks5.act, Enabled, List.mem_of_mem_eraseIdx]
  | monitorIdleTimeout now | monitorRotation now =>
    constructor <;> grind [LazySocks5.act, idleCheck, rotationCheck]
  | takeClient monitor =>
    have hconnections := hdecided (List.ne_nil_of_mem henabled)
    cases monitor <;> cases hc : s.mixnetClient <;> constructor <;>
      grind [LazySocks5.act, take, shutdownBackend]
  | monitorTunnelState =>
    constructor <;> grind [LazySocks5.act, stateCheck, shutdownBackend]
  | _ => exact ⟨hcount, hdecided, hstopped, hclient, hspared⟩

/-- A monitor that shuts the client down finds no connection, and none is proxied through a
client that was shut down, if no connection comes between the count and the shutdown. -/
theorem connections_spared {idleTimeout rotationInterval : ℕ}
    (hrun : machine.Reaches Unhurried (new idleTimeout rotationInterval) s) :
    (∀ monitor, s.Enabled (.takeClient monitor) → s.connections = []) ∧
      ∀ n, some n ∈ s.connections → n ∉ s.stopped := by
  have hspares := hrun.keeps (fun _ _ => Spares.act) ⟨rfl, nofun, nofun, nofun, nofun⟩
  exact ⟨fun _ hmonitor => hspares.decided (List.ne_nil_of_mem hmonitor), hspares.spared⟩

/-! ### Connections and the entry gateway -/

/-- What the check finds in a connection over WireGuard is of this connection, or is shut down
by it. -/
def Current (s : LazySocks5) : Act → Prop
  | .monitorTunnelState => s.tunnelState.isWireguard = true →
    (∀ c ∈ s.mixnetClient, c.gateway = s.tunnelState.requestedGatewayId ∨
      s.isMixnetRunning = true ∧ ∀ last ∈ s.lastVpnState, last.isWireguard = false) ∧
    ∀ state, s.starting = some (some state) → state = s.tunnelState
  | _ => True

/-- Since the check, the client and the start of one are of this connection. -/
structure Follows (s : LazySocks5) : Prop where
  client : s.checked = true → s.tunnelState.isWireguard = true →
    ∀ c ∈ s.mixnetClient, c.gateway = s.tunnelState.requestedGatewayId
  starting : s.checked = true → s.tunnelState.isWireguard = true →
    ∀ state, s.starting = some (some state) → state = s.tunnelState
  proxied : ∀ state client, (state, true, client) ∈ s.proxied → state.isWireguard = true →
    client.gateway = state.requestedGatewayId

theorem mem_stateCheck {c : MixnetClient} (hc : c ∈ s.stateCheck.mixnetClient) :
    c ∈ s.mixnetClient ∧ (s.tunnelState.isWireguard = true →
      ¬(s.isMixnetRunning = true ∧ ∀ last ∈ s.lastVpnState, last.isWireguard = false)) := by
  unfold stateCheck shutdownBackend at hc
  dsimp only at hc
  split_ifs at hc with hmixnet hsome hwireguard hsome
  · cases hc
  · exact absurd (Option.isSome_of_mem hc) hsome
  · cases hc
  · exact absurd (Option.isSome_of_mem hc) hsome
  · refine ⟨hc, fun hw ⟨hrunning, hlast⟩ => hwireguard ?_⟩
    cases h : s.lastVpnState <;> simp_all

theorem Follows.stateCheck (h : s.Follows) (hgood : s.Current .monitorTunnelState) :
    s.stateCheck.Follows := by
  obtain ⟨hstate, hstarting, hproxied⟩ : s.stateCheck.tunnelState = s.tunnelState ∧
      s.stateCheck.starting = s.starting ∧ s.stateCheck.proxied = s.proxied := by
    unfold LazySocks5.stateCheck shutdownBackend
    dsimp only
    split_ifs <;> exact ⟨rfl, rfl, rfl⟩
  refine ⟨fun _ hw c hc => ?_, fun _ hw => ?_, hproxied ▸ h.proxied⟩
  · rw [hstate] at hw ⊢
    obtain ⟨hmem, hkept⟩ := mem_stateCheck hc
    exact ((hgood hw).1 c hmem).resolve_right (hkept hw)
  · rw [hstate] at hw ⊢
    exact hstarting ▸ (hgood hw).2

theorem Follows.act (h : s.Follows) (hgood : s.Current a) (henabled : s.Enabled a) :
    (s.act a).Follows := by
  obtain ⟨hclient, hstarting, hproxied⟩ := h
  cases a with
  | tunnelEvent newState | readTunnelState | lockInit | startFailed | started fallback
  | connectToInternal i | rotateNetworkRequester =>
    constructor <;> grind [LazySocks5.act, store, rotate]
  | monitorIdleTimeout now | monitorRotation now =>
    constructor <;> grind [LazySocks5.act, idleCheck, rotationCheck]
  | takeClient monitor =>
    cases monitor <;> constructor <;> grind [LazySocks5.act, take, shutdownBackend]
  | monitorTunnelState => exact Follows.stateCheck ⟨hclient, hstarting, hproxied⟩ hgood
  | _ => exact ⟨hclient, hstarting, hproxied⟩

/-- After a check in a connection over WireGuard, the connections are proxied through a client
of its entry gateway, if each check finds no other client or start than those of the connection,
or one that it shuts down. -/
theorem proxied_through_entryGateway {idleTimeout rotationInterval : ℕ}
    (hrun : machine.Reaches Current (new idleTimeout rotationInterval) s) :
    ∀ connectionData client, (.connected connectionData, true, client) ∈ s.proxied →
      connectionData.wireguard = true → client.gateway = some connectionData.entryGateway :=
  fun connectionData client =>
    (hrun.keeps (fun _ _ => Follows.act) ⟨nofun, nofun, nofun⟩).proxied (.connected connectionData)
      client

/-- A connection is put through a client that is started after the tunnel came up. -/
theorem exists_proxied_through_entryGateway : ∃ s : LazySocks5,
    s.proxied = [(.connected ⟨1, 2, true⟩, true, ⟨0, some 1⟩)] ∧
    ∀ connectionData client, (.connected connectionData, true, client) ∈ s.proxied →
      connectionData.wireguard = true → client.gateway = some connectionData.entryGateway := by
  let acts : List Act := [.tunnelEvent (.connected ⟨1, 2, true⟩), .monitorTunnelState, .newGuard,
    .lockInit, .readTunnelState, .started false, .connectToInternal 0]
  have hrun : machine.Takes Current (new 60 900) acts :=
    ⟨⟨trivial, trivial⟩, ⟨fun _ => ⟨nofun, nofun⟩, trivial⟩, ⟨trivial, trivial⟩,
      ⟨trivial, rfl, rfl, .head _⟩, ⟨trivial, rfl⟩, ⟨trivial, _, rfl⟩, ⟨trivial, rfl, rfl⟩, trivial⟩
  exact ⟨acts.foldl act (new 60 900), by decide, proxied_through_entryGateway hrun.reaches⟩

def idled : LazySocks5 :=
  [Act.newGuard, .lockInit, .readTunnelState, .started false, .connectToInternal 0, .markRunning 0,
    .dropGuard 0, .decrement, .monitorIdleTimeout 0, .monitorIdleTimeout 60].foldl act (new 60 900)

theorem reaches_idled : machine.Reaches Unhurried (new 60 900) idled :=
  Machine.Takes.reaches ⟨⟨rfl, trivial⟩, ⟨trivial, rfl, rfl, .head _⟩, ⟨trivial, rfl⟩,
    ⟨trivial, _, rfl⟩, ⟨trivial, rfl, rfl⟩, ⟨trivial, _, rfl⟩, ⟨trivial, Nat.zero_lt_one⟩,
    ⟨trivial, Nat.zero_lt_one⟩, ⟨trivial, trivial⟩, ⟨trivial, trivial⟩, trivial⟩

/-- The client is shut down, and the next connection has one of its own. -/
theorem exists_connections_spared : ∃ s : LazySocks5, s.connections = [some 1] ∧ s.stopped = [0] ∧
    ∀ n, some n ∈ s.connections → n ∉ s.stopped := by
  let acts : List Act := [.takeClient .idle, .newGuard, .lockInit, .readTunnelState,
    .started false, .connectToInternal 0]
  have hrun : machine.Takes Unhurried idled acts :=
    ⟨⟨trivial, .head _⟩, ⟨rfl, trivial⟩, ⟨trivial, rfl, rfl, .head _⟩, ⟨trivial, rfl⟩,
      ⟨trivial, _, rfl⟩, ⟨trivial, rfl, rfl⟩, trivial⟩
  exact ⟨acts.foldl act idled, by decide, by decide,
    (connections_spared (reaches_idled.trans hrun.reaches)).2⟩

/-- A connection comes before the client is shut down, and is proxied through it. -/
theorem connection_cut : ∃ s, machine.Reaches (fun _ _ => True) (new 60 900) s ∧
    some 0 ∈ s.connections ∧ 0 ∈ s.stopped := by
  let acts : List Act := [.newGuard, .connectToInternal 0, .takeClient .idle]
  have hidled : machine.Reaches (fun _ _ => True) (new 60 900) idled :=
    Machine.Reaches.mono reaches_idled fun _ _ _ => trivial
  have hrun : machine.Takes (fun _ _ => True) idled acts :=
    ⟨⟨trivial, trivial⟩, ⟨trivial, rfl, rfl⟩, ⟨trivial, .head _⟩, trivial⟩
  exact ⟨acts.foldl act idled, hidled.trans hrun.reaches, by decide⟩

/-- The tunnel reconnects by another entry gateway between two checks, and the client of the
first connection stays. -/
theorem proxied_through_another_gateway : ∃ s, machine.Reaches (fun _ _ => True) (new 60 900) s ∧
    (.connected ⟨3, 2, true⟩, true, ⟨0, some 1⟩) ∈ s.proxied := by
  let acts : List Act := [.tunnelEvent (.connected ⟨1, 2, true⟩), .newGuard, .lockInit,
    .readTunnelState, .started false, .monitorTunnelState,
    .tunnelEvent (.connected ⟨3, 2, true⟩), .monitorTunnelState, .connectToInternal 0]
  refine ⟨acts.foldl act (new 60 900), Machine.Takes.reaches ?_, by decide⟩
  exact ⟨⟨trivial, trivial⟩, ⟨trivial, trivial⟩, ⟨trivial, rfl, rfl, .head _⟩, ⟨trivial, rfl⟩,
    ⟨trivial, _, rfl⟩, ⟨trivial, trivial⟩, ⟨trivial, trivial⟩, ⟨trivial, trivial⟩,
    ⟨trivial, rfl, rfl⟩, trivial⟩

end LazySocks5

end Socks5
