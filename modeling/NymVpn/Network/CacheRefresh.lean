import NymVpn.Gateway.Cache
import NymVpn.Tunnel.Settings

/-!
# A change of the network environment

The gateway cache and the topology cache are tasks of their own, which are told of a new
network in between the commands of others. A tunnel that starts installs a client as well,
built from the network the daemon was started with.
-/

namespace NymVpnLib

open GatewayDirectory TunnelStateMachine

/-! ## The topology service -/

structure NymTopology where
  nodes : List NodeIdentity
  fetchedFrom : List String

def topologyExpiry : ℕ := 5 * 60 * 1000

structure VpnTopologyService where
  latestTopology : Option (NymTopology × ℕ)
  nymApiUrls : List String
  resolverOverrides : Option ResolverOverrides
  minMixnodePerformance : UInt8
  minGatewayPerformance : UInt8

inductive TopologyCommand where
  | fetch
  | updateConfig (minMixnodePerformance minGatewayPerformance : UInt8)
      (resolverOverrides : Option ResolverOverrides)
  | clearCache

namespace VpnTopologyService

def spawn (nymApiUrls : List String) (minMixnodePerformance minGatewayPerformance : UInt8) :
    VpnTopologyService :=
  ⟨none, nymApiUrls, none, minMixnodePerformance, minGatewayPerformance⟩

section Handlers

/-! What the network answers, if it does, and the time. -/
variable (answer : Option (List NodeIdentity)) (now : ℕ) (s : VpnTopologyService)

def fetch : Option NymTopology := answer.map fun nodes => ⟨nodes, s.nymApiUrls⟩

def fetchAndKeep (fallback : Option NymTopology) : Option NymTopology × VpnTopologyService :=
  match s.fetch answer with
  | some topology => (some topology, { s with latestTopology := some (topology, now) })
  | none => (fallback, s)

def getCachedOrFetch : Option NymTopology × VpnTopologyService :=
  match s.latestTopology with
  | some (topology, timestamp) =>
    if topologyExpiry < now - timestamp then s.fetchAndKeep answer now (some topology)
    else (some topology, s)
  | none => s.fetchAndKeep answer now none

def handle : TopologyCommand → Option NymTopology × VpnTopologyService
  | .fetch => s.getCachedOrFetch answer now
  | .updateConfig minMixnodePerformance minGatewayPerformance resolverOverrides =>
    (none, { s with
      minMixnodePerformance
      minGatewayPerformance
      resolverOverrides })
  | .clearCache => (none, { s with latestTopology := none })

end Handlers

variable {answer : Option (List NodeIdentity)} {now : ℕ} {s : VpnTopologyService}

def Own (s : VpnTopologyService) : Prop :=
  ∀ entry, s.latestTopology = some entry → entry.1.fetchedFrom = s.nymApiUrls

/-- The addresses of the service stay as they were, and all it returns comes from them. -/
structure OwnReply (s : VpnTopologyService) (reply : Option NymTopology × VpnTopologyService) :
    Prop where
  urls : reply.2.nymApiUrls = s.nymApiUrls
  own : reply.2.Own
  reply : ∀ topology, reply.1 = some topology → topology.fetchedFrom = s.nymApiUrls

theorem Own.fetchAndKeep (h : s.Own) {fallback : Option NymTopology}
    (hfallback : ∀ topology, fallback = some topology → topology.fetchedFrom = s.nymApiUrls) :
    s.OwnReply (s.fetchAndKeep answer now fallback) := by
  unfold VpnTopologyService.fetchAndKeep
  cases hfetch : s.fetch answer with
  | none => exact ⟨rfl, h, hfallback⟩
  | some topology =>
    have hfrom : topology.fetchedFrom = s.nymApiUrls := by
      unfold fetch at hfetch
      obtain ⟨nodes, _, rfl⟩ := Option.map_eq_some_iff.1 hfetch
      rfl
    refine ⟨rfl, ?_, ?_⟩
    · intro entry hentry
      cases hentry
      exact hfrom
    · intro other hother
      cases hother
      exact hfrom

theorem Own.handle (h : s.Own) (answer : Option (List NodeIdentity)) (now : ℕ)
    (command : TopologyCommand) : s.OwnReply (s.handle answer now command) := by
  cases command with
  | fetch =>
    change s.OwnReply (s.getCachedOrFetch answer now)
    unfold getCachedOrFetch
    split
    next topology timestamp hlatest =>
      have hcached : ∀ t, some topology = some t → t.fetchedFrom = s.nymApiUrls := by
        intro t ht
        cases ht
        exact h _ hlatest
      split
      · exact h.fetchAndKeep hcached
      · exact ⟨rfl, h, hcached⟩
    · exact h.fetchAndKeep nofun
  | updateConfig mixnode gateway overrides => exact ⟨rfl, h, nofun⟩
  | clearCache => exact ⟨rfl, nofun, nofun⟩

end VpnTopologyService

/-! ## The two services and a new network -/

structure Network where
  nyxdUrl : String
  nymApiUrls : List ApiUrl
  nymVpnApiUrls : List ApiUrl

def Network.gatewayConfig (n : Network) : Except String GatewayConfig :=
  if n.nymVpnApiUrls.isEmpty then
    .error "No VPN API URLs available for new environment, cannot update gateway cache"
  else GatewayConfig.new n.nyxdUrl n.nymApiUrls n.nymVpnApiUrls none

structure Caches where
  gateway : GatewayCache
  topology : VpnTopologyService

inductive CachesEvent where
  | gateway (world : CacheWorld) (input : CacheInput)
  | topology (answer : Option (List NodeIdentity)) (now : ℕ) (command : TopologyCommand)

inductive Served where
  | gateways (list : FetchedList)
  | topology (topology : NymTopology)

def Served.From (n : Network) : Served → Prop
  | .gateways list => list.client.nymVpnApiUrls = n.nymVpnApiUrls
  | .topology found => found.fetchedFrom = n.nymApiUrls.map ApiUrl.url

namespace Caches

def step (s : Caches) : CachesEvent → Option Served × Caches
  | .gateway world input =>
    let (reply, gateway) := s.gateway.step world input
    (match reply with
      | some (.ok list) => some (.gateways list)
      | _ => none,
      { s with gateway })
  | .topology answer now command =>
    let (reply, topology) := s.topology.handle answer now command
    (reply.map .topology, { s with topology })

def run (s : Caches) (events : List CachesEvent) : Caches :=
  events.foldl (fun s e => (s.step e).2) s

def served (s : Caches) : List CachesEvent → List Served
  | [] => []
  | e :: events => (s.step e).1.toList ++ ((s.step e).2).served events

end Caches

namespace CachesEvent

def mayFetchGateways : CachesEvent → Bool
  | .gateway _ input => input.mayFetch
  | .topology _ _ _ => false

def installs : CachesEvent → Option GatewayConfig
  | .gateway _ (.command (.replaceGatewayClient client)) => some client
  | _ => none

end CachesEvent

namespace Caches

variable {n : Network} {s : Caches} {events : List CachesEvent}

/-- No list of another network is kept or on its way. -/
def Renewed (n : Network) (s : Caches) : Prop :=
  s.gateway.FetchedBy fun client _ => client.nymVpnApiUrls = n.nymVpnApiUrls

theorem Renewed.step (h : s.Renewed n) {e : CachesEvent}
    (hclient : e.mayFetchGateways = true →
      s.gateway.gatewayClient.nymVpnApiUrls = n.nymVpnApiUrls) :
    (s.step e).2.Renewed n ∧
      ∀ list, (s.step e).1 = some (.gateways list) → (Served.gateways list).From n := by
  cases e with
  | gateway world input =>
    obtain ⟨hfetched, hreply⟩ := GatewayCache.FetchedBy.step h (w := world) hclient
    refine ⟨hfetched, fun list hserved => ?_⟩
    change (match (s.gateway.step world input).1 with
      | some (.ok list) => some (Served.gateways list)
      | _ => none) = some (.gateways list) at hserved
    split at hserved
    next list hlist =>
      cases hserved
      exact hreply list hlist
    · cases hserved
  | topology answer now command =>
    refine ⟨h, fun list hserved => ?_⟩
    obtain ⟨topology, -, heq⟩ := Option.map_eq_some_iff.1 hserved
    cases heq

theorem run_append (s : Caches) (events more : List CachesEvent) :
    s.run (events ++ more) = (s.run events).run more :=
  List.foldl_append

theorem topology_step (h : s.topology.Own) (e : CachesEvent) :
    (s.step e).2.topology.nymApiUrls = s.topology.nymApiUrls ∧ (s.step e).2.topology.Own ∧
      ∀ found, (s.step e).1 = some (.topology found) →
        found.fetchedFrom = s.topology.nymApiUrls := by
  cases e with
  | gateway world input =>
    refine ⟨rfl, h, fun found hserved => ?_⟩
    change (match (s.gateway.step world input).1 with
      | some (.ok list) => some (Served.gateways list)
      | _ => none) = some (.topology found) at hserved
    split at hserved <;> cases hserved
  | topology answer now command =>
    have hown := h.handle answer now command
    refine ⟨hown.urls, hown.own, fun found hserved => ?_⟩
    obtain ⟨topology, htopology, heq⟩ := Option.map_eq_some_iff.1 hserved
    cases heq
    exact hown.reply found htopology

theorem topology_run (h : s.topology.Own) (events : List CachesEvent) :
    (s.run events).topology.nymApiUrls = s.topology.nymApiUrls ∧ (s.run events).topology.Own ∧
      ∀ found, .topology found ∈ s.served events →
        found.fetchedFrom = s.topology.nymApiUrls := by
  induction events generalizing s with
  | nil => exact ⟨rfl, h, nofun⟩
  | cons e events ih =>
    obtain ⟨hurls, hown, hreply⟩ := topology_step h e
    obtain ⟨hurls', hown', hserved⟩ := ih hown
    refine ⟨hurls'.trans hurls, hown', fun found hfound => ?_⟩
    rcases List.mem_append.1 hfound with hfound | hfound
    · exact hreply found (Option.mem_toList.1 hfound)
    · exact (hserved found hfound).trans hurls

/-- No fetch with a client of another network falls between the events. -/
def QuietThrough (n : Network) (s : Caches) (events : List CachesEvent) : Prop :=
  ∀ past e, past ++ [e] <+: events → e.mayFetchGateways = true →
    (s.run past).gateway.gatewayClient.nymVpnApiUrls = n.nymVpnApiUrls

theorem Renewed.run (h : s.Renewed n)
    (hquiet : s.QuietThrough n events) : (s.run events).Renewed n := by
  induction events generalizing s with
  | nil => exact h
  | cons e events ih =>
    have hfirst := (h.step (hquiet [] e ⟨events, rfl⟩)).1
    refine ih hfirst fun past f hprefix hf => ?_
    exact hquiet (e :: past) f (List.cons_prefix_cons.2 ⟨rfl, hprefix⟩) hf

theorem Renewed.served (h : s.Renewed n)
    (hclient : s.gateway.gatewayClient.nymVpnApiUrls = n.nymVpnApiUrls)
    (hinstalls : ∀ e ∈ events, ∀ client, e.installs = some client →
      client.nymVpnApiUrls = n.nymVpnApiUrls) :
    ∀ list, .gateways list ∈ s.served events → (Served.gateways list).From n := by
  induction events generalizing s with
  | nil => exact nofun
  | cons e events ih =>
    obtain ⟨hrenewed, hreply⟩ := h.step (e := e) fun _ => hclient
    have hkept : (s.step e).2.gateway.gatewayClient.nymVpnApiUrls = n.nymVpnApiUrls := by
      cases e with
      | topology answer now command => exact hclient
      | gateway world input =>
        change (s.gateway.step world input).2.gatewayClient.nymVpnApiUrls = _
        rw [(GatewayCache.handled_and_client_step ..).2]
        split
        next client => exact hinstalls _ List.mem_cons_self client rfl
        · exact hclient
    intro list hlist
    rcases List.mem_append.1 hlist with hlist | hlist
    · exact hreply list (Option.mem_toList.1 hlist)
    · exact ih hrenewed hkept (fun f hf => hinstalls f (List.mem_cons_of_mem e hf)) list hlist

theorem gatewayClient_of_replace (w : CacheWorld) (client : GatewayConfig) :
    (s.step (.gateway w (.command (.replaceGatewayClient client)))).2.gateway.gatewayClient =
      client :=
  (s.gateway.handled_and_client_step w (.command (.replaceGatewayClient client))).2

theorem nymVpnApiUrls_of_gatewayConfig {client : GatewayConfig}
    (h : n.gatewayConfig = .ok client) : client.nymVpnApiUrls = n.nymVpnApiUrls := by
  unfold Network.gatewayConfig GatewayConfig.new at h
  split at h
  · cases h
  · split at h
    · cases h
    · simp only [Except.ok.injEq] at h
      rw [← h]

def spawn (client : GatewayConfig) (topology : VpnTopologyService) : Caches :=
  ⟨GatewayCache.spawn client, topology⟩

/-- After an update all lists that are returned are of the new network, if no fetch with a
client of another one falls between the clearing of the gateway cache and the new client, and
none is installed after it. A topology is of the new network exactly if the service was started
for its addresses. -/
theorem served_from_new_network (client : GatewayConfig) (nymApiUrls : List String)
    (minMixnode minGateway : UInt8) (n : Network) (before window after : List CachesEvent)
    (w w' : CacheWorld) (newClient : GatewayConfig) (hnew : n.gatewayConfig = .ok newClient) :
    let cleared := (spawn client (.spawn nymApiUrls minMixnode minGateway)).run
      (before ++ [.gateway w (.command .clearCache)])
    let updated := cleared.run (window ++ [.gateway w' (.command (.replaceGatewayClient newClient))])
    (QuietThrough n cleared window →
      (∀ e ∈ after, ∀ installed, e.installs = some installed →
        installed.nymVpnApiUrls = n.nymVpnApiUrls) →
      ∀ list, .gateways list ∈ updated.served after → (Served.gateways list).From n) ∧
    ∀ found, .topology found ∈ updated.served after →
      ((Served.topology found).From n ↔ nymApiUrls = n.nymApiUrls.map ApiUrl.url) := by
  intro cleared updated
  obtain ⟨hurls, hown, -⟩ := topology_run
    (s := spawn client (.spawn nymApiUrls minMixnode minGateway)) nofun
    (before ++ [.gateway w (.command .clearCache)])
  obtain ⟨hurls', hown', -⟩ := topology_run hown
    (window ++ [.gateway w' (.command (.replaceGatewayClient newClient))])
  refine ⟨fun hwindow hafter => ?_, fun found hfound => ?_⟩
  · have hcleared : cleared.Renewed n := by
      simp only [cleared, run_append]
      exact ⟨nofun, nofun⟩
    have hreplaced := ((hcleared.run hwindow).step
      (e := .gateway w' (.command (.replaceGatewayClient newClient))) nofun).1
    have hupdated : updated = ((cleared.run window).step
        (.gateway w' (.command (.replaceGatewayClient newClient)))).2 := run_append ..
    rw [hupdated]
    refine hreplaced.served ?_ hafter
    rw [gatewayClient_of_replace]
    exact nymVpnApiUrls_of_gatewayConfig hnew
  · have hfrom := (topology_run hown' after).2.2 found hfound
    rw [Served.From, hfrom, hurls', hurls]
    rfl

def reachable : CacheWorld := ⟨0, true, fun _ => .ok []⟩

def mainnet : Network :=
  ⟨"nyxd.mainnet", [⟨"https://validator.nymtech.net/api/", none⟩],
    [⟨"https://nymvpn.com/api/", none⟩]⟩

def sandbox : Network :=
  ⟨"nyxd.sandbox", [⟨"https://sandbox-nym-api1.nymtech.net/api/", none⟩],
    [⟨"https://nym-frontdoor.vercel.app/sandbox/nym-vpn-api/", none⟩]⟩

def Network.client (n : Network) : GatewayConfig :=
  ⟨n.nyxdUrl, n.nymApiUrls, n.nymVpnApiUrls, none⟩

def startedFor (n : Network) : Caches :=
  spawn (Network.client n) (.spawn (n.nymApiUrls.map ApiUrl.url) 50 50)

def movedToSandbox : Caches :=
  ((startedFor mainnet).run ([.gateway reachable (.command (.lookupGateways .wg))] ++
      [.gateway reachable (.command .clearCache)])).run
    ([.topology none 0 .clearCache] ++
      [.gateway reachable (.command (.replaceGatewayClient (Network.client sandbox)))])

/-- The list that is looked up next is of the sandbox, and the topology is not. -/
theorem served_from_new_network_sandbox : ∃ list found,
    movedToSandbox.served
      [.gateway reachable (.command (.lookupGateways .wg)), .topology (some []) 0 .fetch] =
        [.gateways list, .topology found] ∧
      (Served.gateways list).From sandbox ∧ ¬(Served.topology found).From sandbox := by
  obtain ⟨hlists, htopologies⟩ := served_from_new_network (Network.client mainnet)
    (mainnet.nymApiUrls.map ApiUrl.url) 50 50 sandbox
    [.gateway reachable (.command (.lookupGateways .wg))] [.topology none 0 .clearCache]
    [.gateway reachable (.command (.lookupGateways .wg)), .topology (some []) 0 .fetch] reachable
    reachable (Network.client sandbox) rfl
  refine ⟨_, _, rfl, hlists ?_ ?_ _ (.head _), fun hfrom => ?_⟩
  · intro past e hprefix hfetch
    have hmem : e ∈ [CachesEvent.topology none 0 .clearCache] := hprefix.subset (by simp)
    rw [List.mem_singleton.1 hmem] at hfetch
    cases hfetch
  · intro e he installed hinstalls
    simp only [List.mem_cons, List.not_mem_nil, or_false] at he
    rcases he with rfl | rfl <;> cases hinstalls
  · exact absurd ((htopologies _ (.tail _ (.head _))).1 hfrom) (by decide)

/-- A lookup falls between the clearing of the cache and the new client. Its list is
returned after the update, and so is a topology of the old network. -/
theorem old_network_is_served :
    ((startedFor mainnet).run
      [.gateway reachable (.command .clearCache),
        .gateway reachable (.command (.lookupGateways .wg)),
        .topology none 0 .clearCache,
        .gateway reachable (.command (.replaceGatewayClient (Network.client sandbox)))]).served
      [.gateway reachable (.command (.lookupGateways .wg)), .topology (some []) 0 .fetch] =
    [.gateways ⟨⟨some .wg, []⟩, Network.client mainnet, 1⟩,
      .topology ⟨[], mainnet.nymApiUrls.map ApiUrl.url⟩] :=
  rfl

end Caches

end NymVpnLib
