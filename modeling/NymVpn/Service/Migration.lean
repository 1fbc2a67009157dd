import NymVpn.Service.Stored

/-!
# Migrations

A setting that a version stores keeps its value, and every other setting gets a value that
hardly depends on the version.
-/

namespace VpnService

open Net VpnServiceConfigExt VpnServiceConfigVersion EntryExit.V2.EntryPoint

/-! ## Settings and their values -/

inductive Setting where
  | entryPoint
  | exitPoint
  | allowLan
  | disableIpv6
  | enableTwoHop
  | enableBridges
  | enableLewesProtocol
  | netstack
  | minGatewayVpnPerformance
  | residentialExit
  | enableCustomDns
  | customDns
  | enableAdBlocking
  | poissonParameterForLoopCoverStream
  | averagePacketDelay
  | messageSendingAverageDelay
  | disablePoissonRate
  | disableBackgroundCoverTraffic
  | minMixnodePerformance
  | minGatewayMixnetPerformance
  | killswitch
  | legacySplitTunnel
  | inboundExemptions
  | stealthApi
  | gatewayIndependence
  | alwaysOn

abbrev Setting.Value : Setting → Type
  | .entryPoint => GatewayDirectory.EntryPoint
  | .exitPoint => GatewayDirectory.ExitPoint
  | .minGatewayVpnPerformance | .minMixnodePerformance | .minGatewayMixnetPerformance =>
    Option UInt8
  | .customDns => List IpAddr
  | .poissonParameterForLoopCoverStream | .averagePacketDelay | .messageSendingAverageDelay =>
    Option UInt32
  | .inboundExemptions => List InboundExemption
  | .gatewayIndependence => GatewayDirectory.GatewayIndependence
  | _ => Bool

/-- The version of the file that stores the setting first. A version stores what the
one before it stores. -/
def Setting.since : Setting → ℕ
  | .entryPoint | .exitPoint => 1
  | .allowLan | .disableIpv6 | .enableTwoHop | .enableBridges | .netstack
  | .minGatewayVpnPerformance | .residentialExit | .customDns | .disablePoissonRate
  | .disableBackgroundCoverTraffic | .minMixnodePerformance | .minGatewayMixnetPerformance => 2
  | .enableCustomDns => 4
  | .poissonParameterForLoopCoverStream | .averagePacketDelay | .messageSendingAverageDelay => 5
  | .enableLewesProtocol => 6
  | .enableAdBlocking => 7
  | .killswitch | .legacySplitTunnel | .inboundExemptions | .stealthApi | .gatewayIndependence
  | .alwaysOn => 8

def VpnServiceConfigVersion.number : VpnServiceConfigVersion → ℕ
  | .v1 => 1
  | .v2 => 2
  | .v3 => 3
  | .v4 => 4
  | .v5 => 5
  | .v6 => 6
  | .v7 => 7
  | .v8 => 8

def VpnServiceConfigVersion.stores (v : VpnServiceConfigVersion) (s : Setting) : Bool :=
  s.since ≤ v.number

def VpnServiceConfig.setting (c : VpnServiceConfig) : (s : Setting) → s.Value
  | .entryPoint => c.entryPoint
  | .exitPoint => c.exitPoint
  | .allowLan => c.allowLan
  | .disableIpv6 => c.disableIpv6
  | .enableTwoHop => c.enableTwoHop
  | .enableBridges => c.enableBridges
  | .enableLewesProtocol => c.enableLewesProtocol
  | .netstack => c.netstack
  | .minGatewayVpnPerformance => c.minGatewayVpnPerformance
  | .residentialExit => c.residentialExit
  | .enableCustomDns => c.enableCustomDns
  | .customDns => c.customDns
  | .enableAdBlocking => c.enableAdBlocking
  | .poissonParameterForLoopCoverStream => c.mixnetTraffic.poissonParameterForLoopCoverStream
  | .averagePacketDelay => c.mixnetTraffic.averagePacketDelay
  | .messageSendingAverageDelay => c.mixnetTraffic.messageSendingAverageDelay
  | .disablePoissonRate => c.mixnetTraffic.disablePoissonRate
  | .disableBackgroundCoverTraffic => c.mixnetTraffic.disableBackgroundCoverTraffic
  | .minMixnodePerformance => c.mixnetTraffic.minMixnodePerformance
  | .minGatewayMixnetPerformance => c.mixnetTraffic.minGatewayMixnetPerformance
  | .killswitch => c.killswitch
  | .legacySplitTunnel => c.legacySplitTunnel
  | .inboundExemptions => c.inboundExemptions
  | .stealthApi => c.stealthApi
  | .gatewayIndependence => c.gatewayIndependence
  | .alwaysOn => c.alwaysOn

theorem VpnServiceConfig.ext_setting {c d : VpnServiceConfig}
    (h : ∀ s, c.setting s = d.setting s) : c = d := by
  obtain ⟨⟩ := c
  obtain ⟨⟩ := d
  simp only [VpnServiceConfig.mk.injEq]
  refine ⟨h .entryPoint, h .exitPoint, h .allowLan, h .disableIpv6, h .enableTwoHop,
    h .enableBridges, h .enableLewesProtocol, h .netstack, h .minGatewayVpnPerformance,
    h .residentialExit, h .enableCustomDns, h .customDns, h .enableAdBlocking, ?_,
    h .killswitch, h .legacySplitTunnel, h .inboundExemptions, h .stealthApi,
    h .gatewayIndependence, h .alwaysOn⟩
  rw [MixnetTrafficConfig.mk.injEq]
  exact ⟨h .poissonParameterForLoopCoverStream, h .averagePacketDelay,
    h .messageSendingAverageDelay, h .disablePoissonRate, h .disableBackgroundCoverTraffic,
    h .minMixnodePerformance, h .minGatewayMixnetPerformance⟩

/-! ## What stored texts mean -/

section Values

variable (t : TextForms)

def EntryExit.V1.EntryPoint.value? :
    EntryExit.V1.EntryPoint → Option GatewayDirectory.EntryPoint
  | .gateway identity => (t.nodeIdentityFromBase58String identity).toOption.map .gateway
  | .location code => some (.country code)
  | .random => some .random

def EntryExit.V1.ExitPoint.value? : EntryExit.V1.ExitPoint → Option GatewayDirectory.ExitPoint
  | .address text => (t.recipientTryFromBase58String text).toOption.map .address
  | .gateway identity => (t.nodeIdentityFromBase58String identity).toOption.map .gateway
  | .location code => some (.country code)
  | .random => some .random

def EntryExit.V2.EntryPoint.value? :
    EntryExit.V2.EntryPoint → Option GatewayDirectory.EntryPoint
  | .gateway identity => (t.nodeIdentityFromBase58String identity).toOption.map .gateway
  | .country code => some (.country code)
  | .region name => some (.region name)
  | .random => some .random

def EntryExit.V2.ExitPoint.value? : EntryExit.V2.ExitPoint → Option GatewayDirectory.ExitPoint
  | .address text => (t.recipientTryFromBase58String text).toOption.map .address
  | .gateway identity => (t.nodeIdentityFromBase58String identity).toOption.map .gateway
  | .country code => some (.country code)
  | .region name => some (.region name)
  | .random => some .random

def ipAddrs? (texts : List String) : Option (List IpAddr) :=
  texts.mapM fun text => (t.ipAddrFromStr text).toOption

def V1.VpnServiceConfig.setting? (c : V1.VpnServiceConfig) : (s : Setting) → Option s.Value
  | .entryPoint => c.entryPoint.value? t
  | .exitPoint => c.exitPoint.value? t
  | _ => none

def V2.VpnServiceConfig.setting? (c : V2.VpnServiceConfig) : (s : Setting) → Option s.Value
  | .entryPoint => c.entryPoint.value? t
  | .exitPoint => c.exitPoint.value? t
  | .allowLan => some c.allowLan
  | .disableIpv6 => some c.disableIpv6
  | .enableTwoHop => some c.enableTwoHop
  | .enableBridges => some c.enableBridges
  | .netstack => some c.netstack
  | .minGatewayVpnPerformance => some c.minGatewayVpnPerformance
  | .residentialExit => some c.residentialExit
  | .disablePoissonRate => some c.disablePoissonRate
  | .disableBackgroundCoverTraffic => some c.disableBackgroundCoverTraffic
  | .minMixnodePerformance => some c.minMixnodePerformance
  | .minGatewayMixnetPerformance => some c.minGatewayMixnetPerformance
  | .customDns => ipAddrs? t c.dns.toList
  | _ => none

/-! A version stores what the one before it stores, some of it in another place, and more. -/

def V3.VpnServiceConfig.setting? (c : V3.VpnServiceConfig) : (s : Setting) → Option s.Value
  | .customDns => ipAddrs? t (c.customDns.getD [])
  | s => V2.VpnServiceConfig.setting? t { c with dns := none } s

def V4.VpnServiceConfig.setting? (c : V4.VpnServiceConfig) : (s : Setting) → Option s.Value
  | .enableCustomDns => some c.enableCustomDns
  | .customDns => ipAddrs? t c.customDns
  | s => V2.VpnServiceConfig.setting? t { c with dns := none } s

def V5.VpnServiceConfig.setting? (c : V5.VpnServiceConfig) : (s : Setting) → Option s.Value
  | .poissonParameterForLoopCoverStream => some c.mixnetTraffic.poissonParameterForLoopCoverStream
  | .averagePacketDelay => some c.mixnetTraffic.averagePacketDelay
  | .messageSendingAverageDelay => some c.mixnetTraffic.messageSendingAverageDelay
  | s => V4.VpnServiceConfig.setting? t { c, c.mixnetTraffic with } s

def V6.VpnServiceConfig.setting? (c : V6.VpnServiceConfig) : (s : Setting) → Option s.Value
  | .enableLewesProtocol => some c.enableLewesProtocol
  | s => V5.VpnServiceConfig.setting? t { c with } s

def V7.VpnServiceConfig.setting? (c : V7.VpnServiceConfig) : (s : Setting) → Option s.Value
  | .enableAdBlocking => some c.enableAdBlocking
  | s => V6.VpnServiceConfig.setting? t { c with } s

def V8.VpnServiceConfig.setting? (c : V8.VpnServiceConfig) : (s : Setting) → Option s.Value
  | .killswitch => some c.killswitch
  | .legacySplitTunnel => some c.legacySplitTunnel
  | .inboundExemptions => some (c.inboundExemptions.map V8.InboundExemption.into)
  | .stealthApi => some c.stealthApi
  | .gatewayIndependence => some c.gatewayIndependence.into
  | .alwaysOn => some c.alwaysOn
  | s => V7.VpnServiceConfig.setting? t { c with } s

/-- The value a stored configuration gives a setting: none when its version does not
store the setting, or when the stored text cannot be read. -/
def VpnServiceConfigExt.setting? : VpnServiceConfigExt → (s : Setting) → Option s.Value
  | .v1 c, s => c.setting? t s
  | .v2 c, s => c.setting? t s
  | .v3 c, s => c.setting? t s
  | .v4 c, s => c.setting? t s
  | .v5 c, s => c.setting? t s
  | .v6 c, s => c.setting? t s
  | .v7 c, s => c.setting? t s
  | .v8 c, s => c.setting? t s

end Values

/-! ## What a migration makes of them -/

section Migrate

variable {t : TextForms}

variable {ε α β : Type} {x : GatewayDirectory.EntryPoint} {ips : List IpAddr}
  {c : VpnService.VpnServiceConfig} {e : VpnServiceConfigExt} {b : β}

theorem bind_eq_ok {x : Except ε α} {f : α → Except ε β} :
    x >>= f = .ok b ↔ ∃ a, x = .ok a ∧ f a = .ok b := by
  cases x with
  | error e => exact ⟨fun h => (nomatch h), fun ⟨_, h, _⟩ => (nomatch h)⟩
  | ok a => exact ⟨fun h => ⟨a, rfl, h⟩, fun ⟨_, h, hb⟩ => by cases h; exact hb⟩

theorem map_mapError_eq_ok {ε' : Type} {x : Except ε α} {f : ε → ε'} {g : α → β} :
    (do return g (← x.mapError f)) = Except.ok b ↔ x.toOption.map g = some b := by
  cases x with
  | error e => exact ⟨fun h => (nomatch h), fun h => (nomatch h)⟩
  | ok a => exact ⟨fun h => by cases h; rfl, fun h => by cases h; rfl⟩

theorem EntryExit.V1.EntryPoint.tryInto_eq_ok {p : EntryExit.V1.EntryPoint} :
    p.tryInto t = .ok x ↔ p.value? t = some x := by
  cases p with
  | gateway identity => exact map_mapError_eq_ok
  | _ => simp [tryInto, value?]

theorem EntryExit.V1.ExitPoint.tryInto_eq_ok {p : EntryExit.V1.ExitPoint}
    {x : GatewayDirectory.ExitPoint} : p.tryInto t = .ok x ↔ p.value? t = some x := by
  cases p with
  | address text | gateway identity => exact map_mapError_eq_ok
  | _ => simp [tryInto, value?]

theorem EntryExit.V2.EntryPoint.tryInto_eq_ok {p : EntryExit.V2.EntryPoint} :
    p.tryInto t = .ok x ↔ p.value? t = some x := by
  cases p with
  | gateway identity => exact map_mapError_eq_ok
  | _ => simp [tryInto, value?]

theorem EntryExit.V2.ExitPoint.tryInto_eq_ok {p : EntryExit.V2.ExitPoint}
    {x : GatewayDirectory.ExitPoint} : p.tryInto t = .ok x ↔ p.value? t = some x := by
  cases p with
  | address text | gateway identity => exact map_mapError_eq_ok
  | _ => simp [tryInto, value?]

theorem mapM_ipAddrOf_eq_ok {texts : List String} :
    texts.mapM (ipAddrOf t) = .ok ips ↔ ipAddrs? t texts = some ips := by
  induction texts generalizing ips with
  | nil => exact ⟨fun h => by cases h; rfl, fun h => by cases h; rfl⟩
  | cons text texts ih =>
    rw [List.mapM_cons, bind_eq_ok, ipAddrs?, List.mapM_cons, Option.bind_eq_bind,
      Option.bind_eq_some_iff]
    refine exists_congr fun ip => and_congr ?_ ?_
    · rw [ipAddrOf]
      cases t.ipAddrFromStr text with
      | error e => exact ⟨fun h => (nomatch h), fun h => (nomatch h)⟩
      | ok a => exact ⟨fun h => by cases h; rfl, fun h => by cases h; rfl⟩
    · rw [bind_eq_ok, Option.bind_eq_bind, Option.bind_eq_some_iff]
      refine exists_congr fun rest => and_congr ih ?_
      exact ⟨fun h => by cases h; rfl, fun h => by cases h; rfl⟩

theorem V2.customDns_eq_ok {dns : Option String} :
    V2.customDns t dns = .ok ips ↔ ipAddrs? t dns.toList = some ips := by
  rw [← mapM_ipAddrOf_eq_ok]
  cases dns with
  | none => rfl
  | some text => simp [V2.customDns]

theorem V3.customDns_eq_ok {dns : Option (List String)} :
    V3.customDns t dns = .ok ips ↔ ipAddrs? t (dns.getD []) = some ips := by
  rw [← mapM_ipAddrOf_eq_ok]
  match dns with
  | none => rfl
  | some [] => rfl
  | some (text :: texts) => rfl

/-- The value of a setting the version does not store. Custom resolvers are switched
on when there are some. -/
@[grind =] def absent (killswitch : Bool) (c : VpnServiceConfig) : (s : Setting) → s.Value
  | .killswitch => killswitch
  | .enableCustomDns => !c.customDns.isEmpty
  | s => VpnServiceConfig.default.setting s

/-- The migration of a stored form to `c`: what the version stores keeps its value, and
the rest has the value of an absent setting. -/
def Migrates (v : VpnServiceConfigVersion) (stored : (s : Setting) → Option s.Value)
    (c : VpnServiceConfig) : Prop :=
  ∀ s, stored s = (if v.stores s then some (c.setting s) else none) ∧
    (v.stores s = false → c.setting s = absent (v == .v2) c s)

theorem VpnServiceConfigExt.migrates (h : e.tryInto t = .ok c) :
    Migrates e.version (e.setting? t) c := by
  cases e with
  | v1 v =>
    simp only [tryInto, V1.VpnServiceConfig.tryInto, bind_eq_ok,
      EntryExit.V1.EntryPoint.tryInto_eq_ok, EntryExit.V1.ExitPoint.tryInto_eq_ok] at h
    obtain ⟨entry, hentry, exit, hexit, hc⟩ := h
    cases hc
    intro s
    cases s <;>
      simp [version, setting?, V1.VpnServiceConfig.setting?, stores,
        Setting.since, number, VpnServiceConfig.setting, absent,
        VpnServiceConfig.default, hentry, hexit]
  | v2 v | v3 v | v4 v | v5 v | v6 v | v7 v | v8 v =>
    simp only [tryInto, V2.VpnServiceConfig.tryInto, V3.VpnServiceConfig.tryInto,
      V4.VpnServiceConfig.tryInto, V5.VpnServiceConfig.tryInto, V6.VpnServiceConfig.tryInto,
      V7.VpnServiceConfig.tryInto, V8.VpnServiceConfig.tryInto, bind_eq_ok,
      tryInto_eq_ok, EntryExit.V2.ExitPoint.tryInto_eq_ok,
      V2.customDns_eq_ok, V3.customDns_eq_ok, mapM_ipAddrOf_eq_ok] at h
    obtain ⟨entry, hentry, exit, hexit, dns, hdns, hc⟩ := h
    cases hc
    intro s
    cases s <;>
      simp [version, setting?, V2.VpnServiceConfig.setting?, V3.VpnServiceConfig.setting?,
        V4.VpnServiceConfig.setting?, V5.VpnServiceConfig.setting?, V6.VpnServiceConfig.setting?,
        V7.VpnServiceConfig.setting?, V8.VpnServiceConfig.setting?, stores,
        Setting.since, number, VpnServiceConfig.setting, absent,
        VpnServiceConfig.default, hentry, hexit, hdns, earlyMixnetTraffic,
        MixnetTraffic.V5.MixnetTrafficConfig.into]

namespace Migrates

variable {v : VpnServiceConfigVersion} {stored : (s : Setting) → Option s.Value}
  {c : VpnServiceConfig} {s : Setting}

theorem stored_eq (h : Migrates v stored c) (hs : v.stores s = true) :
    stored s = some (c.setting s) := by
  rw [(h s).1, if_pos hs]

theorem setting_eq_absent (h : Migrates v stored c) (hs : v.stores s = false) :
    c.setting s = absent (v == .v2) c s :=
  (h s).2 hs

theorem killswitch_eq (h : Migrates v stored c) (hv : v ≠ .v8) : c.killswitch = (v == .v2) := by
  have hs : v.stores .killswitch = false := by
    cases v with
    | v8 => exact absurd rfl hv
    | _ => rfl
  exact h.setting_eq_absent hs

end Migrates

theorem exists_ok_of_parts {γ δ : Type} {x : Except ε α} {y : Except ε β} {z : Except ε γ}
    {f : α → β → γ → δ} {a : α} {c : γ} (hx : x = .ok a) (hy : y = .ok b) (hz : z = .ok c) :
    ∃ d, (do let a ← x; let b ← y; let c ← z; pure (f a b c)) = Except.ok d := by
  rw [hx, hy, hz]
  exact ⟨_, rfl⟩

theorem VpnServiceConfigExt.exists_tryInto
    (h : ∀ s, e.version.stores s = true → (e.setting? t s).isSome = true) :
    ∃ c, e.tryInto t = .ok c := by
  have hread {s : Setting} (hs : e.version.stores s = true) := Option.isSome_iff_exists.1 (h s hs)
  obtain ⟨entry, hentry⟩ := hread (s := .entryPoint) (by cases e <;> rfl)
  obtain ⟨exit, hexit⟩ := hread (s := .exitPoint) (by cases e <;> rfl)
  cases e with
  | v1 v =>
    rw [tryInto, V1.VpnServiceConfig.tryInto, EntryExit.V1.EntryPoint.tryInto_eq_ok.2 hentry,
      EntryExit.V1.ExitPoint.tryInto_eq_ok.2 hexit]
    exact ⟨_, rfl⟩
  | v2 v =>
    obtain ⟨dns, hdns⟩ := hread (s := .customDns) rfl
    exact exists_ok_of_parts (tryInto_eq_ok.2 hentry)
      (EntryExit.V2.ExitPoint.tryInto_eq_ok.2 hexit) (V2.customDns_eq_ok.2 hdns)
  | v3 v =>
    obtain ⟨dns, hdns⟩ := hread (s := .customDns) rfl
    exact exists_ok_of_parts (tryInto_eq_ok.2 hentry)
      (EntryExit.V2.ExitPoint.tryInto_eq_ok.2 hexit) (V3.customDns_eq_ok.2 hdns)
  | v4 v | v5 v | v6 v | v7 v | v8 v =>
    obtain ⟨dns, hdns⟩ := hread (s := .customDns) rfl
    exact exists_ok_of_parts (tryInto_eq_ok.2 hentry)
      (EntryExit.V2.ExitPoint.tryInto_eq_ok.2 hexit) (mapM_ipAddrOf_eq_ok.2 hdns)

/-! ## Two versions compared -/

def plainForms : TextForms where
  nodeIdentityFromBytes bytes :=
    if bytes.length = 32 then
      .ok (.ofNat 256 (bytes.foldr (fun b n => b.toNat + 256 * n) 0))
    else .error "Bytes not valid"
  nodeIdentityFromBase58String text :=
    (Text.readDigits 10 text.toList).elim (.error "Bytes not valid") fun n => .ok (.ofNat 256 n)
  nodeIdentityToBase58String identity := Text.decimal identity.toNat
  recipientTryFromBase58String text :=
    match (text.toList.splitOn '.').mapM (Text.readDigits 10) with
    | some [a, b, c] => .ok ⟨.ofNat 256 a, .ofNat 256 b, .ofNat 256 c⟩
    | _ => .error "Bytes not valid"
  recipientToString address :=
    Text.decimal address.clientIdentity.toNat ++ "." ++
      Text.decimal address.clientEncryptionKey.toNat ++ "." ++ Text.decimal address.gateway.toNat
  ipAddrFromStr text :=
    (readIpAddr (if ':' ∈ text.toList then .v6 else .v4) text.toList).elim
      (.error "invalid IP address syntax") .ok

/-- Two stored configurations, migrated to `c` and `d`, agree: on what both store, and
on what only one stores with what the other's migration makes of it. -/
def SameSettings (t : TextForms) (a b : VpnServiceConfigExt) (c d : VpnServiceConfig) : Prop :=
  ∀ s,
    (a.version.stores s = true → b.version.stores s = true → a.setting? t s = b.setting? t s) ∧
    (a.version.stores s = true → b.version.stores s = false → a.setting? t s = some (d.setting s)) ∧
    (a.version.stores s = false → b.version.stores s = true → b.setting? t s = some (c.setting s))

section Compare

variable {a b : VpnServiceConfigExt} {c d : VpnServiceConfig}

theorem setting_eq_of_sameSettings (hc : a.tryInto t = .ok c) (hd : b.tryInto t = .ok d)
    (h : SameSettings t a b c d) {s : Setting}
    (habsent : a.version.stores s = false → b.version.stores s = false →
      absent (a.version == .v2) c s = absent (b.version == .v2) d s) :
    c.setting s = d.setting s := by
  have hma := migrates hc
  have hmb := migrates hd
  obtain ⟨hboth, hleft, hright⟩ := h s
  cases ha : a.version.stores s with
  | true =>
    have hsa := hma.stored_eq ha
    cases hb : b.version.stores s with
    | true => exact Option.some.inj ((hsa.symm.trans (hboth ha hb)).trans (hmb.stored_eq hb))
    | false => exact Option.some.inj (hsa.symm.trans (hleft ha hb))
  | false =>
    cases hb : b.version.stores s with
    | true => exact Option.some.inj ((hright ha hb).symm.trans (hmb.stored_eq hb))
    | false =>
      rw [hma.setting_eq_absent ha, hmb.setting_eq_absent hb]
      exact habsent ha hb

/-- Of the versions that store no kill-switch, the second alone migrates to one that is
on; apart from it, a migration does not depend on the version. -/
theorem migration_eq_iff (ha : a.version ≠ .v8) (hb : b.version ≠ .v8)
    (hc : a.tryInto t = .ok c) (hd : b.tryInto t = .ok d) :
    (SameSettings t a b c d → (c = d ↔ (a.version = .v2 ↔ b.version = .v2))) ∧
      (c.killswitch = d.killswitch ↔ (a.version = .v2 ↔ b.version = .v2)) := by
  have hkill : c.killswitch = d.killswitch ↔ (a.version = .v2 ↔ b.version = .v2) := by
    rw [(migrates hc).killswitch_eq ha, (migrates hd).killswitch_eq hb, Bool.eq_iff_iff,
      beq_iff_eq, beq_iff_eq]
  refine ⟨fun h => ⟨fun heq => hkill.1 (heq ▸ rfl), fun hversion => ?_⟩, hkill⟩
  have hdns : c.customDns = d.customDns :=
    setting_eq_of_sameSettings hc hd h (s := .customDns) fun _ _ => rfl
  apply VpnServiceConfig.ext_setting
  intro s
  refine setting_eq_of_sameSettings hc hd h fun _ _ => ?_
  cases s with
  | killswitch =>
    have hon : (a.version == .v2) = (b.version == .v2) := by
      rw [Bool.eq_iff_iff, beq_iff_eq, beq_iff_eq]
      exact hversion
    exact hon
  | enableCustomDns => exact congrArg (fun dns => !dns.isEmpty) hdns
  | _ => rfl

def storedV2 : V2.VpnServiceConfig where
  entryPoint := .country "CH"
  exitPoint := .country "CH"
  dns := none
  allowLan := true
  disableIpv6 := true
  enableTwoHop := true
  enableBridges := false
  netstack := false
  disablePoissonRate := false
  disableBackgroundCoverTraffic := false
  minMixnodePerformance := none
  minGatewayMixnetPerformance := none
  minGatewayVpnPerformance := none
  residentialExit := false

def storedV3 : V3.VpnServiceConfig where
  entryPoint := .country "CH"
  exitPoint := .country "CH"
  allowLan := true
  disableIpv6 := true
  enableTwoHop := true
  enableBridges := false
  netstack := false
  disablePoissonRate := false
  disableBackgroundCoverTraffic := false
  minMixnodePerformance := none
  minGatewayMixnetPerformance := none
  minGatewayVpnPerformance := none
  residentialExit := false
  customDns := none

theorem migration_eq_iff_stored :
    (SameSettings plainForms (.v2 storedV2) (.v3 storedV3) {} { killswitch := false } →
      ((({} : VpnServiceConfig) = { killswitch := false }) ↔
        ((v2 storedV2).version = .v2 ↔ (v3 storedV3).version = .v2))) ∧
      (({} : VpnServiceConfig).killswitch =
          ({ killswitch := false } : VpnServiceConfig).killswitch ↔
        ((v2 storedV2).version = .v2 ↔ (v3 storedV3).version = .v2)) :=
  migration_eq_iff (t := plainForms) (by decide) (by decide) rfl rfl

/-- The same settings stored as version 2 and as version 3 give two kill-switches. -/
theorem migration_depends_on_version :
    (v2 storedV2).tryInto plainForms = .ok {} ∧
      (v3 storedV3).tryInto plainForms = .ok { killswitch := false } ∧
      SameSettings plainForms (.v2 storedV2) (.v3 storedV3) {} { killswitch := false } ∧
      ({} : VpnServiceConfig) ≠ { killswitch := false } := by
  refine ⟨rfl, rfl, ?_, by decide⟩
  have hsame (s : Setting) : v2.stores s = v3.stores s := by
    cases s <;> rfl
  intro s
  refine ⟨?_, fun ha hb => ?_, fun ha hb => ?_⟩
  · cases s <;> exact fun _ _ => rfl
  · cases ha.symm.trans ((hsame s).trans hb)
  · cases ha.symm.trans ((hsame s).trans hb)

end Compare

end Migrate

end VpnService
