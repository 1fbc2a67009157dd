import NymVpn.Firewall.Faithful
import NymVpn.Firewall.Forward
import NymVpn.Tunnel.Policies

/-!
# The sealed router

The machine, the compiler and the renderer together: what the settings that were sent
last make of the packets that the router forwards.
-/

namespace TunnelStateMachine

open Netfilter NymFirewall

/-- The machine runs under the settings it was last sent, up to the reminder switch. -/
theorem settings_are_the_received {c : Config} (h : Reachable True anyStep c) :
    ∃ s, c.world.received = some s ∧ c.world.shared.tunnelSettings.essentials = s.essentials := by
  simp only [← TunnelSettings.agrees_iff]
  refine h.invariant_of_moves (I := fun c => ∃ s, c.world.received = some s ∧
    c.world.shared.tunnelSettings.Agrees s) ?_ ?_
  · rintro target w l s ⟨settings, _, _, _, _, rfl⟩ - henters
    refine ⟨settings, by rw [World.received_acts]; rfl, ?_⟩
    rw [henters.settings]
    exact TunnelSettings.agrees_refl settings
  · rintro c event l target l' s' - ⟨s, hreceived, hs⟩ haccepts hhandles henters -
    simp only [World.received_acts, henters.settings, c.received_receive]
    cases hevent : event.settings? with
    | some t =>
      obtain rfl := Event.eq_of_settings? hevent
      exact ⟨t, rfl, hhandles.agrees_of_reliable haccepts⟩
    | none =>
      rw [World.settings_acts (hhandles.settings hevent), c.shared_receive event]
      exact ⟨s, hreceived, hs⟩

def lanSteps : List (Event × Script) :=
  connectSteps false ++ [(.command (.setTunnelSettings allowLanSettings), .smooth)]

theorem reliable_lanSteps : ∀ p ∈ lanSteps, p.2.Reliable := by
  intro p hp
  rcases List.mem_append.1 hp with hp | hp
  · exact reliable_connectSteps false p hp
  · obtain rfl := List.mem_singleton.1 hp
    exact fun _ => rfl

theorem settings_are_the_received_allowLan : ∃ c, Reachable True anyStep c ∧
    c.world.received = some allowLanSettings ∧
      c.world.shared.tunnelSettings.essentials = allowLanSettings.essentials := by
  obtain ⟨c, hc, hreceived⟩ := exists_reachable_of_plays lanSteps (fun _ => reliable_lanSteps)
    (reachable_spawnedWith True sampleSettings)
    (P := fun c => c.world.received = some allowLanSettings) (by decide +kernel)
  obtain ⟨s, hs, hsettings⟩ := settings_are_the_received hc
  obtain rfl := Option.some.inj (hs.symm.trans hreceived)
  exact ⟨c, hc, hreceived, hsettings⟩

/-- While the firewall does not refuse, the last request of a machine at rest with the
kill-switch on is a policy whose `nft` script rejects what is forwarded out of a WAN device
without the mark of an exemption, but for queries to a public resolver of the policy and, where
allowed, packets to the LAN. -/
theorem forward_sealed_of_reachable {c : Config} {kind : PolicyKind}
    (h : Reachable True anyStep c)
    (hkillswitch : c.world.shared.tunnelSettings.killswitch = true)
    (hkind : c.state.policyKind = some kind) :
    ∃ p, c.world.lastRequest = some (.policy p, true) ∧
      ∀ trackIps uplink ruleset, ProperNames p uplink →
        (∀ d ∈ uplink.wanDevices, d ∉ tunnelInterfaces p) →
        ∃ table, Nft.load (RenderNft.render (compileWith trackIps p uplink)) ruleset =
            some (Function.update ruleset RenderNft.nymTable (some table)) ∧
          ∀ ω k, k.mark ≠ exemptFwmark → LeavesOn k uplink.wanDevices →
            Nft.run (RenderNft.rules table .filterForward) ω k = (some .reject, k) ∨
              ToDns k ∧ ToPublicResolver p k ∨
              c.world.shared.tunnelSettings.allowLan = true ∧ InLan k := by
  have hlive := live_of_reachable h
  have hpolicy : ∃ p : FirewallPolicy, c.world.lastRequest = some (.policy p, true) ∧
      p.allowLan = c.world.shared.tunnelSettings.allowLan := by
    obtain ⟨state, w⟩ := c
    cases state with
    | disconnected self | error self =>
      obtain ⟨eps, dns, hlast⟩ := hlive.1 hkillswitch
      exact ⟨_, hlast, rfl⟩
    | offline self =>
      exact ⟨self.firewallPolicyParams.asPolicy, hkillswitch ▸ hlive.2, hlive.1⟩
    | connecting self | connected self =>
      obtain ⟨p, hfits, hlast⟩ := hlive.2
      exact ⟨p.asPolicy, hkillswitch ▸ hlast, hfits.1⟩
    | disconnecting self | finished | panicked => cases hkind
  obtain ⟨p, hlast, hlan⟩ := hpolicy
  refine ⟨p, hlast, fun trackIps uplink ruleset hnames hdisj => ?_⟩
  have hwf : RuleSet.All (fun _ r => r.WellFormed) (compileWith trackIps p uplink) :=
    fun c r hr => (placed_compileWith trackIps hnames c r hr).1
  refine ⟨_, RenderNft.load_render hwf ruleset, fun ω k hmark hoif => ?_⟩
  have hrun := run_forward trackIps p uplink k ω
  rw [forwardVerdict_of_leavesOn_wan hdisj hmark hoif, hlan] at hrun
  rw [RenderNft.rules_chains, RenderNft.run_map_toNft (hwf .filterForward), RuleSet.chain, hrun]
  grind

def sessionPolicy : FirewallPolicy := .connected [] sampleInterface false ⟨[], []⟩ [] []

theorem forward_sealed_of_reachable_session : ∃ c table, Reachable True anyStep c ∧
    c.world.lastRequest = some (.policy sessionPolicy, true) ∧
      Nft.load (RenderNft.render (compileWith [] sessionPolicy ⟨["wan"], fun _ => none⟩))
        (fun _ => none) = some (Function.update (fun _ => none) RenderNft.nymTable (some table)) ∧
      Nft.run (RenderNft.rules table .filterForward) (fun _ => true) lanClientPacket =
        (some .reject, lanClientPacket) := by
  obtain ⟨c, hc, hon, hkind, hallow, hlast⟩ := exists_reachable_of_plays (connectSteps false)
    (fun _ => reliable_connectSteps false) (reachable_spawnedWith True sampleSettings)
    (P := fun c => c.world.shared.tunnelSettings.killswitch = true ∧
      c.state.policyKind = some .connected ∧ c.world.shared.tunnelSettings.allowLan = false ∧
      c.world.lastRequest = some (.policy sessionPolicy, true)) (by decide +kernel)
  obtain ⟨p, hp, hsealed⟩ := forward_sealed_of_reachable hc hon hkind
  cases hp.symm.trans hlast
  have hnames : ProperNames sessionPolicy ⟨["wan"], fun _ => none⟩ :=
    ⟨by decide, by decide, by rintro _ _ ⟨⟩⟩
  obtain ⟨table, hload, hrun⟩ := hsealed [] ⟨["wan"], fun _ => none⟩ _ hnames (by decide)
  refine ⟨c, table, hc, hlast, hload,
    (hrun _ lanClientPacket (by decide) (by decide)).resolve_right ?_⟩
  rintro (⟨hdns, -⟩ | ⟨hlan, -⟩)
  · exact absurd hdns (by decide)
  · cases hallow.symm.trans hlan

end TunnelStateMachine
