import NymVpn.Proto.Service
import NymVpn.Service.Manager

/-!
# Requests for inbound exemptions

An entry without a known protocol is passed over, and of its port the low sixteen bits are
kept, so a request is not always applied as it was made.
-/

open Wire VpnService

namespace Proto

def InboundExemption.requested (e : InboundExemption) : Option VpnService.InboundExemption := do
  let proto ← match ← tryFromNumber InboundExemptionProtocol e.proto with
    | .tcp => some .tcp
    | .udp => some .udp
    | .unspecified => none
  some ⟨proto, e.dport.toUInt16, e.label⟩

def setInboundExemptions (t : TextForms) (outcome : WriteOutcome)
    (exemptions : List InboundExemption) (m : VpnServiceConfigManager) :
    Except String Unit × VpnServiceConfigManager :=
  m.setInboundExemptions t outcome (exemptions.filterMap InboundExemption.requested)

structure InboundExemption.Exempts (e : InboundExemption) (x : NymFirewall.InboundExemption) :
    Prop where
  proto : e.proto = number (match x.proto with
    | .tcp => InboundExemptionProtocol.tcp
    | .udp => .udp)
  dport : x.dport.toNat = e.dport.toNat

/-- The entry has a protocol, and a port that there is. -/
def InboundExemption.Meaningful (e : InboundExemption) : Prop :=
  (e.proto = number InboundExemptionProtocol.tcp ∨
    e.proto = number InboundExemptionProtocol.udp) ∧ e.dport.toNat < 2 ^ 16

variable {e : InboundExemption} {es : List InboundExemption}

theorem InboundExemption.requested_of_meaningful (h : e.Meaningful) :
    ∃ x, e.requested = some x ∧ e.Exempts (VpnServiceConfig.tunnelExemption x) := by
  have hport : e.dport.toUInt16.toNat = e.dport.toNat := by
    simpa using h.2
  rcases h.1 with hproto | hproto
  · exact ⟨⟨.tcp, e.dport.toUInt16, e.label⟩, by simp [requested, hproto], hproto, hport⟩
  · exact ⟨⟨.udp, e.dport.toUInt16, e.label⟩, by simp [requested, hproto], hproto, hport⟩

theorem InboundExemption.Exempts.meaningful {x : NymFirewall.InboundExemption}
    (h : e.Exempts x) : e.Meaningful := by
  refine ⟨?_, h.dport ▸ x.dport.toNat_lt⟩
  rw [h.proto]
  cases x.proto with
  | tcp => exact Or.inl rfl
  | udp => exact Or.inr rfl

theorem forall₂_requested_iff :
    List.Forall₂ InboundExemption.Exempts es
        ((es.filterMap InboundExemption.requested).map VpnServiceConfig.tunnelExemption) ↔
      ∀ e ∈ es, e.Meaningful := by
  induction es with
  | nil => simp
  | cons e es ih =>
    rw [List.forall_mem_cons, ← ih]
    cases hx : e.requested with
    | none =>
      rw [List.filterMap_cons_none hx]
      refine iff_of_false (fun h => ?_) fun h => ?_
      · have hlength := h.length_eq
        have hle := List.length_filterMap_le InboundExemption.requested es
        simp only [List.length_cons, List.length_map] at hlength
        omega
      · obtain ⟨x, hsome, -⟩ := e.requested_of_meaningful h.1
        cases hx.symm.trans hsome
    | some x =>
      rw [List.filterMap_cons_some hx, List.map_cons, List.forall₂_cons]
      refine and_congr_left fun _ => ⟨fun h => h.meaningful, fun h => ?_⟩
      obtain ⟨y, hsome, hy⟩ := e.requested_of_meaningful h
      rwa [Option.some.inj (hx.symm.trans hsome)]

/-- A request that is answered with success is applied as it was made, exactly if all its
entries are meaningful; one that cannot be saved is not answered so. -/
theorem exempted_as_requested_iff (t : TextForms) (outcome : WriteOutcome)
    (m : VpnServiceConfigManager) (es : List InboundExemption) :
    ((setInboundExemptions t outcome es m).1 = .ok () →
      List.Forall₂ InboundExemption.Exempts es
        (setInboundExemptions t outcome es m).2.config.generateTunnelSettings.inboundExemptions) ↔
      (∀ e ∈ es, e.Meaningful) ∨
        outcome ≠ .written ∧
          m.config.inboundExemptions ≠ es.filterMap InboundExemption.requested := by
  have hok : (setInboundExemptions t outcome es m).1 = .ok () ↔
      m.config.inboundExemptions = es.filterMap InboundExemption.requested ∨
        outcome = .written := VpnServiceConfigManager.setIfChanged_eq_ok_iff ..
  have hconfig : (setInboundExemptions t outcome es m).2.config.inboundExemptions =
      es.filterMap InboundExemption.requested := by
    rw [setInboundExemptions, VpnServiceConfigManager.setInboundExemptions,
      VpnServiceConfigManager.setIfChanged_eq]
    split
    · assumption
    · rw [VpnServiceConfigManager.config_saveConfigAndSendEvent]
  have hsettings :
      (setInboundExemptions t outcome es m).2.config.generateTunnelSettings.inboundExemptions =
        (es.filterMap InboundExemption.requested).map VpnServiceConfig.tunnelExemption :=
    congrArg _ hconfig
  rw [hsettings, forall₂_requested_iff, hok]
  tauto

/-- Port 65558 is asked for, and port 22 is exempted from the kill-switch. -/
theorem exempts_another_port :
    let r := setInboundExemptions plainForms .written [⟨1, 65558, none⟩]
      (.new plainForms VpnServiceConfigManager.firstStart {})
    r.1 = .ok () ∧ r.2.config.generateTunnelSettings.inboundExemptions = [⟨.tcp, 22, none⟩] := by
  decide

end Proto
