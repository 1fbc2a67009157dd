import NymVpn.Service.Loop

/-!
# Settings on their way to the tunnel

The settings the tunnel was told last are those of the configuration, or an update is
pending. A failed save and a connect that does not send the update first break this.
-/

namespace VpnService

open TunnelStateMachine (TunnelCommand TunnelSettings)

def lastSettings (startedWith : TunnelSettings) (sent : List SentCommand) : TunnelSettings :=
  sent.foldl (fun last e =>
      match e.command with
      | .setTunnelSettings settings => settings
      | _ => last)
    startedWith

namespace NymVpnService

open VpnServiceConfigManager

variable {s : NymVpnService}

def Settled (s : NymVpnService) : Prop :=
  (lastSettings s.startedWith s.sent).Agrees s.generateTunnelSettings

def Current (s : NymVpnService) : Prop := s.Settled ∨ s.settingsTimer = true

/-- Whenever the service connected, the state machine had been told settings that agree
with the configuration of that moment. -/
def ConnectsSettled (s : NymVpnService) : Prop :=
  ∀ before e after, s.sent = before ++ e :: after → ∀ relax, e.command = .connect relax →
    (lastSettings s.startedWith before).Agrees e.config.generateTunnelSettings

/-! ## Sending -/

section Send

variable {command : TunnelCommand}

theorem settled_updateTunnelSettings : s.updateTunnelSettings.Settled := by
  rw [Settled, updateTunnelSettings, send, lastSettings, List.foldl_append]
  exact TunnelSettings.agrees_iff.2 rfl

theorem settled_send_connect {relax : Bool} : (s.send (.connect relax)).Settled ↔ s.Settled := by
  rw [Settled, send, lastSettings, List.foldl_append]
  rfl

theorem settled_send_disconnect : (s.send .disconnect).Settled ↔ s.Settled := by
  rw [Settled, send, lastSettings, List.foldl_append]
  rfl

theorem ConnectsSettled.send (h : s.ConnectsSettled)
    (hconnect : ∀ relax, command = .connect relax → s.Settled) :
    (s.send command).ConnectsSettled := by
  intro before e after hsent relax he
  change s.sent ++ [_] = before ++ e :: after at hsent
  -- The command is the last one sent, or it was there before.
  cases after.eq_nil_or_concat with
  | inl hnil =>
    subst hnil
    obtain ⟨hbefore, he'⟩ := List.append_inj' hsent rfl
    cases he'
    rw [← hbefore]
    exact hconnect relax he
  | inr hconcat =>
    obtain ⟨after, last, rfl⟩ := hconcat
    have hsent' : s.sent ++ [⟨command, s.configManager.config⟩] =
        (before ++ e :: after) ++ [last] := by simpa using hsent
    exact h before e after (List.append_inj' hsent' rfl).1 relax he

end Send

/-! ## What supervision keeps -/

/-- The property is about the settings, the commands that were sent and the switches of
Always On; a connect that sends a pending update first keeps it, as does a disconnect. -/
structure Supervised (P : NymVpnService → Prop) : Prop where
  other : ∀ {s target relax state a timer idle exited}, a.enabled = s.alwaysOn.enabled → P s →
    P { s with
      targetState := target, relaxIndependence := relax, tunnelState := state, alwaysOn := a
      alwaysOnTimer := timer, idle, exited }
  flush : ∀ {s}, P s → P s.flushTunnelSettings
  connect : ∀ {s} relax, P s → P (s.flushTunnelSettings.send (.connect relax))
  disconnect : ∀ {s}, P s → P (s.send .disconnect)

section Supervised

variable {P : NymVpnService → Prop} {t : TextForms} {jitter : ℕ → ℕ} {now : ℕ}
  (hP : Supervised P) (h : P s)

include hP h

theorem Supervised.applyAlwaysOn (action : Action) : P (s.applyAlwaysOn action) := by
  cases action with
  | nothing | exit code => exact hP.other rfl h
  | connect => exact hP.other rfl (hP.connect s.relaxIndependence h)

theorem Supervised.superviseChange : P s.superviseChange :=
  hP.applyAlwaysOn (hP.other AlwaysOn.onConfigOrAccountChanged_spec.1 h) _

theorem Supervised.setTargetState (target : TargetState) (relax : Bool)
    (hconnect : target = .secured →
      s.targetState ≠ .secured ∨ s.tunnelState.isErrorState = true → P (s.send (.connect relax))) :
    P (s.setTargetState target relax).2 := by
  unfold NymVpnService.setTargetState
  split
  · next haccepted =>
      cases target with
      | secured => exact hP.other (s := s.send (.connect relax)) rfl (hconnect rfl haccepted)
      | unsecured => exact hP.other (s := s.send .disconnect) rfl (hP.disconnect h)
  · exact h

theorem Supervised.handle {input : LoopInput}
    (hset : ∀ outcome command, input ≠ .set outcome command)
    (htarget : ∀ target, input ≠ .setTargetState target)
    (hconnect : ∀ relax, input ≠ .connectTunnel relax) : P (s.handle t jitter now input) := by
  cases input with
  | set outcome command => exact absurd rfl (hset outcome command)
  | setTargetState target => exact absurd rfl (htarget target)
  | connectTunnel relax => exact absurd rfl (hconnect relax)
  | reconnect =>
    rw [NymVpnService.handle, reconnectTunnel]
    cases s.targetState with
    | secured => exact hP.connect _ h
    | unsecured => exact h
  | other => exact h
  | tunnelState state =>
    exact hP.applyAlwaysOn (hP.other (s.alwaysOn.enabled_onTunnelState state) h) _
  | accountState ready =>
    cases ready with
    | true => exact hP.superviseChange h
    | false => exact h
  | settingsTimer => exact hP.flush h
  | alwaysOnTimer =>
    rw [NymVpnService.handle, handleAlwaysOnTimer]
    split
    · exact hP.applyAlwaysOn (hP.other AlwaysOn.poll_spec.1 h) _
    · exact h

omit h in
theorem Supervised.adoptAlwaysOn {wasOn alwaysOn : Bool}
    (htold : P { s with alwaysOn := s.alwaysOn.setEnabled alwaysOn })
    (hconnect : alwaysOn = true → wasOn = false → s.targetState = .unsecured →
      P ({ s with alwaysOn := s.alwaysOn.setEnabled alwaysOn }.send (.connect false))) :
    P (s.adoptAlwaysOn jitter now wasOn alwaysOn) := by
  refine hP.other (s := ite _ _ _) rfl ?_
  split
  · next hon =>
      have hon : alwaysOn = true ∧ wasOn = false := by simpa using hon
      split
      · next htarget =>
          exact hP.setTargetState htold .secured false fun _ _ => hconnect hon.1 hon.2 htarget
      · exact hP.applyAlwaysOn (hP.other (AlwaysOn.enabled_onTunnelState _) htold) _
  · exact htold

end Supervised

/-! ## What keeps the settings current -/

theorem settled_flushTunnelSettings (h : s.Current) : s.flushTunnelSettings.Settled := by
  unfold flushTunnelSettings
  split
  · exact settled_updateTunnelSettings
  · next htimer => exact h.resolve_right htimer

theorem supervised_current : Supervised Current where
  other _ h := h
  flush h := Or.inl (settled_flushTunnelSettings h)
  connect _ h := Or.inl (settled_send_connect.2 (settled_flushTunnelSettings h))
  disconnect h := h.imp_left settled_send_disconnect.2

theorem current_throttleTunnelSettings : s.throttleTunnelSettings.Current := by
  unfold throttleTunnelSettings
  cases s.targetState with
  | secured => exact Or.inr rfl
  | unsecured => exact Or.inl settled_updateTunnelSettings

theorem current_updateTunnelSettingsWithThrottle : s.updateTunnelSettingsWithThrottle.Current :=
  supervised_current.superviseChange current_throttleTunnelSettings

theorem Current.setTargetState (h : s.Current) (target : TargetState) (relax : Bool) :
    (s.setTargetState target relax).2.Current :=
  supervised_current.setTargetState h target relax fun _ _ => h.imp_left settled_send_connect.2

/-! ## What keeps connects settled -/

theorem ConnectsSettled.updateTunnelSettings (h : s.ConnectsSettled) :
    s.updateTunnelSettings.ConnectsSettled :=
  h.send fun _ hcommand => nomatch hcommand

theorem ConnectsSettled.flushTunnelSettings (h : s.ConnectsSettled) :
    s.flushTunnelSettings.ConnectsSettled := by
  unfold NymVpnService.flushTunnelSettings
  split
  · exact ConnectsSettled.updateTunnelSettings (s := { s with settingsTimer := false }) h
  · exact h

theorem supervised_connectsSettled : Supervised fun s => s.Current ∧ s.ConnectsSettled where
  other _ h := h
  flush h := ⟨supervised_current.flush h.1, h.2.flushTunnelSettings⟩
  connect relax h := ⟨supervised_current.connect relax h.1,
    h.2.flushTunnelSettings.send fun _ _ => settled_flushTunnelSettings h.1⟩
  disconnect h := ⟨supervised_current.disconnect h.1, h.2.send fun _ hcommand => nomatch hcommand⟩

theorem ConnectsSettled.updateTunnelSettingsWithThrottle (h : s.ConnectsSettled) :
    s.updateTunnelSettingsWithThrottle.ConnectsSettled := by
  have hthrottled : s.throttleTunnelSettings.ConnectsSettled := by
    unfold throttleTunnelSettings
    cases s.targetState with
    | secured => exact h
    | unsecured => exact h.updateTunnelSettings
  exact (supervised_connectsSettled.superviseChange ⟨current_throttleTunnelSettings, hthrottled⟩).2

/-- The one way to connect that does not send a pending update first. -/
theorem connectsSettled_send_connect (h : s.Current ∧ s.ConnectsSettled) (hsettled : s.Settled)
    (relax : Bool) :
    (s.send (.connect relax)).Current ∧ (s.send (.connect relax)).ConnectsSettled :=
  ⟨Or.inl (settled_send_connect.2 hsettled), h.2.send fun _ _ => hsettled⟩

/-! ## Setting commands -/

section Setters

variable {t : TextForms} {outcome : WriteOutcome} {m : VpnServiceConfigManager}

theorem Settled.of_essentials (h : s.Settled)
    (hsame : m.config.generateTunnelSettings.essentials = s.generateTunnelSettings.essentials) :
    ({ s with configManager := m } : NymVpnService).Settled :=
  TunnelSettings.agrees_iff.2 ((TunnelSettings.agrees_iff.1 h).trans hsame.symm)

theorem Current.of_essentials (h : s.Current)
    (hsame : m.config.generateTunnelSettings.essentials = s.generateTunnelSettings.essentials) :
    ({ s with configManager := m } : NymVpnService).Current :=
  h.imp_left fun hsettled => hsettled.of_essentials hsame

theorem config_setAlwaysOn {alwaysOn : Bool} :
    (m.setAlwaysOn t outcome alwaysOn).2.config = { m.config with alwaysOn } := by
  rw [setAlwaysOn, setIfChanged_eq]
  split
  · next h => rw [← h]
  · exact config_saveConfigAndSendEvent

theorem generateTunnelSettings_setAlwaysOn (m : VpnServiceConfigManager) (alwaysOn : Bool) :
    (m.setAlwaysOn t outcome alwaysOn).2.config.generateTunnelSettings =
      m.config.generateTunnelSettings := by
  rw [config_setAlwaysOn]
  rfl

end Setters

/-! ## The inputs that break the order -/

/-- The input sends a connect without sending a pending update first. -/
def connectsUnflushed (s : NymVpnService) : LoopInput → Bool
  | .setTargetState .secured | .connectTunnel _ =>
    s.targetState != .secured || s.tunnelState.isErrorState
  | .set .written (.alwaysOn true) =>
    !s.configManager.config.alwaysOn && s.targetState == .unsecured
  | _ => false

/-- The input changes the tunnel settings, and no update is sent or pending. -/
def LosesSettings (s : NymVpnService) : LoopInput → Prop
  | .set outcome (.mixnetTrafficConfig v) =>
    v.validate = .ok () ∧ outcome ≠ .written ∧ s.settingsTimer = false ∧
      ¬ (lastSettings s.startedWith s.sent).Agrees
        { s.configManager.config with mixnetTraffic := v }.generateTunnelSettings
  | _ => False

section Handlers

variable {t : TextForms} {jitter : ℕ → ℕ} {now : ℕ} {outcome : WriteOutcome} {command : SetCommand}

theorem Current.handleSetAlwaysOn (h : s.Current) (alwaysOn : Bool) :
    (s.handleSetAlwaysOn t outcome jitter now alwaysOn).2.Current := by
  have hkept : ({ s with
      configManager := (s.configManager.setAlwaysOn t outcome alwaysOn).2 } :
      NymVpnService).Current :=
    h.of_essentials (congrArg _ (generateTunnelSettings_setAlwaysOn _ _))
  unfold NymVpnService.handleSetAlwaysOn
  simp only
  split
  · exact hkept
  · exact supervised_current.adoptAlwaysOn hkept fun _ _ _ =>
      hkept.imp_left settled_send_connect.2

theorem ConnectsSettled.handleSetAlwaysOn (h : s.ConnectsSettled) (hcurrent : s.Current)
    {alwaysOn : Bool}
    (hsettled : s.connectsUnflushed (.set outcome (.alwaysOn alwaysOn)) = true → s.Settled) :
    (s.handleSetAlwaysOn t outcome jitter now alwaysOn).2.ConnectsSettled := by
  have hsame : (s.configManager.setAlwaysOn t outcome
      alwaysOn).2.config.generateTunnelSettings.essentials = s.generateTunnelSettings.essentials :=
    congrArg _ (generateTunnelSettings_setAlwaysOn _ _)
  unfold NymVpnService.handleSetAlwaysOn
  simp only
  split
  · exact h
  · next hsaved =>
      refine (supervised_connectsSettled.adoptAlwaysOn
        (s := { s with configManager := (s.configManager.setAlwaysOn t outcome alwaysOn).2 })
        ⟨hcurrent.of_essentials hsame, h⟩ ?_).2
      rintro rfl hwas htarget
      obtain rfl : outcome = .written := by
        simpa [hwas] using (setIfChanged_eq_ok_iff ..).1 hsaved
      have hconnects : s.connectsUnflushed (.set .written (.alwaysOn true)) = true := by
        have htarget : s.targetState = .unsecured := htarget
        simp [connectsUnflushed, hwas, htarget]
      exact connectsSettled_send_connect ⟨hcurrent.of_essentials hsame, h⟩
        ((hsettled hconnects).of_essentials hsame) false

theorem current_handleSetMixnetTrafficConfig_iff (h : s.Current) {v : MixnetTrafficConfig} :
    (s.handleSetMixnetTrafficConfig t outcome v).2.Current ↔
      ¬ s.LosesSettings (.set outcome (.mixnetTrafficConfig v)) := by
  rw [handleSetMixnetTrafficConfig, setMixnetTrafficConfig]
  cases hvalid : v.validate with
  | error message =>
    refine iff_of_true h ?_
    rintro ⟨hok, -⟩
    cases hvalid.symm.trans hok
  | ok u =>
    simp only
    split
    · next hsaved =>
        refine iff_of_true current_updateTunnelSettingsWithThrottle ?_
        rintro ⟨-, hfailed, htimer, hagrees⟩
        -- A save that failed is reported, so there was nothing to save.
        have hsame : s.configManager.config.mixnetTraffic = v :=
          ((setIfChanged_eq_ok_iff ..).1 hsaved).resolve_right hfailed
        subst hsame
        exact h.elim hagrees (by simp [htimer])
    · next hsaved =>
        have hnot : ¬ (s.configManager.config.mixnetTraffic = v ∨ outcome = .written) := by
          rw [← setIfChanged_eq_ok_iff t outcome (·.mixnetTraffic)
            ({ · with mixnetTraffic := v }), hsaved]
          rintro ⟨⟩
        rw [not_or] at hnot
        rw [Current, Settled, generateTunnelSettings]
        simp only [setIfChanged_eq, if_neg hnot.1,
          config_saveConfigAndSendEvent, LosesSettings, hvalid]
        cases s.settingsTimer <;> simp [hnot.2]

theorem Current.setReporting {α : Type} [DecidableEq α] (h : s.Current)
    {get : VpnServiceConfig → α} {put : VpnServiceConfig → VpnServiceConfig} {value : α}
    {U : VpnServiceConfig → Prop} [DecidablePred U]
    (hput : ¬U (put s.configManager.config) →
      (put s.configManager.config).generateTunnelSettings.essentials =
        s.generateTunnelSettings.essentials) :
    let saved := s.configManager.setReporting t outcome get put value
    let result := saved.1.map fun _ => ()
    let s' := { s with configManager := saved.2 }
    (if saved.1 ≠ .ok false ∧ U saved.2.config then
      (result, s'.updateTunnelSettingsWithThrottle) else (result, s')).2.Current := by
  intro saved result s'
  split
  · exact current_updateTunnelSettingsWithThrottle
  · next hkept =>
      apply h.of_essentials
      rcases config_setReporting t outcome get put value s.configManager with
        ⟨hsame, -⟩ | ⟨hconfig, hresult⟩
      · exact congrArg (fun c => c.generateTunnelSettings.essentials) hsame
      · rw [hconfig]
        exact hput fun hinUse => hkept ⟨hresult, hconfig ▸ hinUse⟩

theorem Current.handleSetEnableCustomDns (h : s.Current) (v : Bool) :
    (s.handleSetEnableCustomDns t outcome v).2.Current := by
  refine h.setReporting (U := fun c => v = false ∨ c.customDns.isEmpty = false) fun hnot => ?_
  have hempty : v = true ∧ s.configManager.config.customDns = [] := by simpa using hnot
  simp [NymVpnService.generateTunnelSettings, VpnServiceConfig.generateTunnelSettings,
    VpnServiceConfig.effectiveKillswitch, hempty.2]

theorem Current.handleSetCustomDns (h : s.Current) (v : List Net.IpAddr) :
    (s.handleSetCustomDns t outcome v).2.Current := by
  refine h.setReporting (U := fun c => c.enableCustomDns = true) fun hnot => ?_
  have hoff : s.configManager.config.enableCustomDns = false := by simpa using hnot
  simp [NymVpnService.generateTunnelSettings, VpnServiceConfig.generateTunnelSettings,
    VpnServiceConfig.effectiveKillswitch, hoff]

theorem Current.handleSetStealthApi (h : s.Current) (v : Bool) :
    (s.handleSetStealthApi t outcome v).2.Current := by
  apply h.of_essentials
  exact keeps_setStealthApi (f := fun c => c.generateTunnelSettings.essentials) fun _ => rfl

theorem current_handleSet_iff (h : s.Current) :
    (s.handleSet t jitter now outcome command).2.Current ↔
      ¬ s.LosesSettings (.set outcome command) := by
  cases command with
  | mixnetTrafficConfig v => exact current_handleSetMixnetTrafficConfig_iff h
  | stealthApi v => exact iff_of_true (h.handleSetStealthApi v) id
  | alwaysOn v => exact iff_of_true (h.handleSetAlwaysOn v) id
  | gatewayIndependenceNotifications v | enableAdBlocking v =>
    refine iff_of_true (h.of_essentials ?_) id
    exact keeps_setIfChanged (f := fun c => c.generateTunnelSettings.essentials) fun _ => rfl
  | enableCustomDns v => exact iff_of_true (h.handleSetEnableCustomDns v) id
  | customDns v => exact iff_of_true (h.handleSetCustomDns v) id
  | _ => exact iff_of_true current_updateTunnelSettingsWithThrottle id

theorem handleSet_eq (hcommand : ∀ v, command ≠ .alwaysOn v) :
    ∃ m : VpnServiceConfigManager, m.config.alwaysOn = s.configManager.config.alwaysOn ∧
      ((s.handleSet t jitter now outcome command).2 = { s with configManager := m } ∨
        (s.handleSet t jitter now outcome command).2 =
          updateTunnelSettingsWithThrottle { s with configManager := m }) := by
  cases command with
  | alwaysOn v => exact absurd rfl (hcommand v)
  | mixnetTrafficConfig v =>
    refine ⟨(s.configManager.setMixnetTrafficConfig t outcome v).2, ?_, ?_⟩
    · unfold setMixnetTrafficConfig
      split
      · rfl
      · exact keeps_setIfChanged (f := (·.alwaysOn)) fun _ => rfl
    · rw [handleSet, handleSetMixnetTrafficConfig]
      split
      · exact Or.inr rfl
      · exact Or.inl rfl
  | enableCustomDns v =>
    refine ⟨(s.configManager.setEnableCustomDns t outcome v).2, ?_, ?_⟩
    · exact keeps_setReporting (f := (·.alwaysOn)) fun _ => rfl
    · rw [handleSet, handleSetEnableCustomDns]
      simp only
      split
      · exact Or.inr rfl
      · exact Or.inl rfl
  | customDns v =>
    refine ⟨(s.configManager.setCustomDns t outcome (v.take maxCustomDnsServers)).2, ?_, ?_⟩
    · exact keeps_setReporting (f := (·.alwaysOn)) fun _ => rfl
    · rw [handleSet, handleSetCustomDns]
      simp only
      split
      · exact Or.inr rfl
      · exact Or.inl rfl
  | stealthApi v =>
    refine ⟨_, ?_, Or.inl rfl⟩
    exact keeps_setStealthApi (f := (·.alwaysOn)) fun _ => rfl
  | gatewayIndependenceNotifications v | enableAdBlocking v =>
    refine ⟨_, ?_, Or.inl rfl⟩
    exact keeps_setIfChanged (f := (·.alwaysOn)) fun _ => rfl
  | _ =>
    refine ⟨_, ?_, Or.inr rfl⟩
    exact keeps_setIfChanged (f := (·.alwaysOn)) fun _ => rfl

theorem ConnectsSettled.handleSet (h : s.ConnectsSettled) (hcurrent : s.Current)
    (hsettled : s.connectsUnflushed (.set outcome command) = true → s.Settled) :
    (s.handleSet t jitter now outcome command).2.ConnectsSettled := by
  by_cases hcommand : ∃ v, command = .alwaysOn v
  · obtain ⟨v, rfl⟩ := hcommand
    exact h.handleSetAlwaysOn hcurrent hsettled
  · push Not at hcommand
    obtain ⟨m, -, hkept | hupdated⟩ := handleSet_eq (s := s) hcommand
    · rw [hkept]
      exact h
    · rw [hupdated]
      exact ConnectsSettled.updateTunnelSettingsWithThrottle (s := { s with configManager := m }) h

end Handlers

/-! ## One turn of the loop -/

section Steps

variable {t : TextForms} {i : LoopStep}

theorem step_of_running (h : s.exited = none) : s.step t i = s.handle t i.jitter i.now i.input := by
  simp [step, h]

theorem step_of_exited {code : ℤ} (h : s.exited = some code) : s.step t i = s := by
  simp [step, h]

theorem current_step_iff (h : s.Current) :
    (s.step t i).Current ↔ (s.exited = none → ¬ s.LosesSettings i.input) := by
  cases hexited : s.exited with
  | some code =>
    rw [step_of_exited hexited]
    exact iff_of_true h nofun
  | none =>
    rw [step_of_running hexited, forall_prop_of_true rfl]
    cases i.input with
    | set outcome command => exact current_handleSet_iff h
    | setTargetState target => exact iff_of_true (h.setTargetState target false) id
    | connectTunnel relax => exact iff_of_true (h.setTargetState .secured relax) id
    | _ => exact iff_of_true (supervised_current.handle h nofun nofun nofun) id

theorem ConnectsSettled.step (h : s.ConnectsSettled) (hcurrent : s.Current)
    (hsettled : s.exited = none → s.connectsUnflushed i.input = true → s.Settled) :
    (s.step t i).ConnectsSettled := by
  cases hexited : s.exited with
  | some code =>
    rw [step_of_exited hexited]
    exact h
  | none =>
    replace hsettled := hsettled hexited
    rw [step_of_running hexited]
    cases hinput : i.input with
    | set outcome command => exact h.handleSet hcurrent (hinput ▸ hsettled)
    | setTargetState target =>
      refine (supervised_connectsSettled.setTargetState ⟨hcurrent, h⟩ target false ?_).2
      rintro rfl haccepted
      exact connectsSettled_send_connect ⟨hcurrent, h⟩
        (hsettled (by simpa [hinput, connectsUnflushed] using haccepted)) false
    | connectTunnel relax =>
      refine (supervised_connectsSettled.setTargetState ⟨hcurrent, h⟩ .secured relax ?_).2
      intro _ haccepted
      exact connectsSettled_send_connect ⟨hcurrent, h⟩
        (hsettled (by simpa [hinput, connectsUnflushed] using haccepted)) relax
    | _ => refine (supervised_connectsSettled.handle ⟨hcurrent, h⟩ ?_ ?_ ?_).2 <;> nofun

theorem current_start (m : VpnServiceConfigManager) : (start m).Current := by
  have hnew : (updateIdleHint .disconnected (new m)).Current :=
    Or.inl (TunnelSettings.agrees_iff.2 rfl)
  unfold start
  simp only
  split
  · exact hnew.setTargetState .secured false
  · exact hnew

theorem connectsSettled_start (m : VpnServiceConfigManager) : (start m).ConnectsSettled := by
  have hnew : (updateIdleHint .disconnected (new m)).ConnectsSettled := by
    intro before e after hsent
    exact absurd hsent (by simp [new, updateIdleHint])
  have hsettled : (updateIdleHint .disconnected (new m)).Settled := TunnelSettings.agrees_iff.2 rfl
  unfold start
  simp only
  split
  · exact (supervised_connectsSettled.setTargetState ⟨Or.inl hsettled, hnew⟩ .secured false
      fun _ _ => connectsSettled_send_connect ⟨Or.inl hsettled, hnew⟩ hsettled false).2
  · exact hnew

end Steps

/-! ## Runs -/

section Runs

variable {t : TextForms} {steps : List LoopStep} {P : NymVpnService → Prop}

def Along (t : TextForms) (C : NymVpnService → LoopStep → Prop) :
    NymVpnService → List LoopStep → Prop
  | _, [] => True
  | s, i :: steps => C s i ∧ Along t C (s.step t i) steps

theorem run_of_along {C : NymVpnService → LoopStep → Prop}
    (hstep : ∀ s i, P s → C s i → P (s.step t i)) (hs : P s) (h : Along t C s steps) :
    P (s.run t steps) := by
  induction steps generalizing s with
  | nil => exact hs
  | cons i steps ih => exact ih (hstep s i hs h.1) h.2

/-- Two conditions are met along the same runs when they agree wherever the first of them
keeps an invariant. -/
theorem along_congr {C D : NymVpnService → LoopStep → Prop}
    (hiff : ∀ s i, P s → (C s i ↔ D s i)) (hstep : ∀ s i, P s → C s i → P (s.step t i))
    (hs : P s) : Along t C s steps ↔ Along t D s steps := by
  induction steps generalizing s with
  | nil => exact Iff.rfl
  | cons i steps ih =>
    constructor
    · rintro ⟨hi, h⟩
      exact ⟨(hiff s i hs).1 hi, (ih (hstep s i hs hi)).1 h⟩
    · rintro ⟨hi, h⟩
      have hi := (hiff s i hs).2 hi
      exact ⟨hi, (ih (hstep s i hs hi)).2 h⟩

/-- The step does not connect over a pending update that changes the settings, and loses
no settings. -/
def Unhurried (s : NymVpnService) (i : LoopStep) : Prop :=
  s.exited = none →
    (s.connectsUnflushed i.input = true → s.settingsTimer = true → s.Settled) ∧
      ¬ s.LosesSettings i.input

/-- In a run without a hurried step, no connect overtakes a change of the settings. -/
theorem connects_settled (t : TextForms) (m : VpnServiceConfigManager) (steps : List LoopStep)
    (h : Along t Unhurried (start m) steps) : ((start m).run t steps).ConnectsSettled := by
  suffices hboth : ((start m).run t steps).ConnectsSettled ∧ ((start m).run t steps).Current from
    hboth.1
  refine run_of_along (P := fun s => s.ConnectsSettled ∧ s.Current) ?_
    ⟨connectsSettled_start m, current_start m⟩ h
  rintro s i ⟨hconnects, hcurrent⟩ hi
  -- With no update pending, what is current is settled.
  have hsettled (hrunning : s.exited = none) (hunflushed : s.connectsUnflushed i.input = true) :
      s.Settled := hcurrent.elim id ((hi hrunning).1 hunflushed)
  exact ⟨hconnects.step hcurrent hsettled,
    (current_step_iff hcurrent).2 fun hrunning => (hi hrunning).2⟩

def atOnce (input : LoopInput) : LoopStep := ⟨input, 0, fun _ => 0⟩

def firstService : NymVpnService := start (.new plainForms VpnServiceConfigManager.firstStart {})

theorem connects_settled_firstService :
    (firstService.run plainForms
      [atOnce (.set .written (.entryPoint (.country "DE"))),
        atOnce (.connectTunnel false)]).ConnectsSettled := by
  apply connects_settled
  refine ⟨fun _ => ⟨fun hconnects => ?_, id⟩, fun _ => ⟨fun _ htimer => ?_, id⟩, trivial⟩
  · cases hconnects
  · cases htimer

/-- The entry point is changed while connected, and the tunnel is disconnected and
connected again before the update is sent. -/
theorem connect_overtakes_settings :
    ¬ (firstService.run plainForms
      [atOnce (.connectTunnel false),
        atOnce (.set .written (.entryPoint (.country "DE"))),
        atOnce (.setTargetState .unsecured),
        atOnce (.connectTunnel false)]).ConnectsSettled := by
  intro h
  have hagrees := h
    [⟨.connect false, {}⟩, ⟨.disconnect, { entryPoint := .country "DE" }⟩]
    ⟨.connect false, { entryPoint := .country "DE" }⟩ [] rfl false rfl
  revert hagrees
  decide

end Runs

end NymVpnService

end VpnService
