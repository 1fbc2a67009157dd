import NymVpn.Service.Pending

/-!
# Settings that take effect

A setting takes effect whether or not it can be saved, except for two settings whose failed
save ends the handler.
-/

namespace VpnService

namespace NymVpnService

variable {s s' s'' : NymVpnService}

def PolicyTold (s : NymVpnService) : Prop :=
  s.alwaysOn.enabled = s.configManager.config.alwaysOn

/-- What the step from `s` to `s'` set has taken effect. -/
structure Applied (s s' : NymVpnService) : Prop where
  current : s'.Current
  told : s'.PolicyTold
  connected : s.configManager.config.alwaysOn = false →
    s'.configManager.config.alwaysOn = true → s'.targetState = .secured

/-! ## What leaves Always On alone -/

def switches (s : NymVpnService) : Bool × Bool :=
  (s.configManager.config.alwaysOn, s.alwaysOn.enabled)

theorem PolicyTold.of_switches (h : s.PolicyTold) (hsame : s'.switches = s.switches) :
    s'.PolicyTold := by
  obtain ⟨hswitch, henabled⟩ := Prod.ext_iff.1 hsame
  exact henabled.trans (h.trans hswitch.symm)

theorem switches_flushTunnelSettings : s.flushTunnelSettings.switches = s.switches := by
  unfold flushTunnelSettings
  split <;> rfl

theorem supervised_switches (x : Bool × Bool) : Supervised fun s => s.switches = x where
  other henabled h := (congrArg (Prod.mk _) henabled).trans h
  flush h := switches_flushTunnelSettings.trans h
  connect _ h := switches_flushTunnelSettings.trans h
  disconnect h := h

theorem switches_setTargetState (target : TargetState) (relax : Bool) :
    (s.setTargetState target relax).2.switches = s.switches :=
  (supervised_switches s.switches).setTargetState rfl target relax fun _ _ => rfl

theorem switches_updateTunnelSettingsWithThrottle :
    s.updateTunnelSettingsWithThrottle.switches = s.switches := by
  apply (supervised_switches s.switches).superviseChange
  unfold throttleTunnelSettings
  split <;> rfl

section Setters

variable {t : TextForms} {jitter : ℕ → ℕ} {now : ℕ} {outcome : WriteOutcome}

theorem switches_handleSet {command : SetCommand} (hcommand : ∀ v, command ≠ .alwaysOn v) :
    (s.handleSet t jitter now outcome command).2.switches = s.switches := by
  obtain ⟨m, hm, hkept | hupdated⟩ := handleSet_eq (s := s) hcommand
  · rw [hkept]
    exact congrArg (Prod.mk · _) hm
  · rw [hupdated, switches_updateTunnelSettingsWithThrottle]
    exact congrArg (Prod.mk · _) hm

/-! ## The switch of Always On -/

theorem switches_adoptAlwaysOn (s : NymVpnService) (jitter : ℕ → ℕ) (now : ℕ)
    (wasOn alwaysOn : Bool) :
    (s.adoptAlwaysOn jitter now wasOn alwaysOn).switches =
      (s.configManager.config.alwaysOn, alwaysOn) := by
  have htold : ({ s with alwaysOn := s.alwaysOn.setEnabled alwaysOn } : NymVpnService).switches =
      (s.configManager.config.alwaysOn, alwaysOn) :=
    congrArg (Prod.mk _) (s.alwaysOn.enabled_setEnabled alwaysOn)
  exact (supervised_switches _).adoptAlwaysOn htold fun _ _ _ => htold

theorem targetState_applyAlwaysOn (action : Action) :
    (s.applyAlwaysOn action).targetState = s.targetState := by
  cases action with
  | nothing | exit code => rfl
  | connect =>
    change s.flushTunnelSettings.targetState = s.targetState
    unfold flushTunnelSettings
    split <;> rfl

theorem targetState_adoptAlwaysOn :
    (s.adoptAlwaysOn jitter now false true).targetState = .secured := by
  simp only [adoptAlwaysOn, Bool.not_false, Bool.and_self, if_true]
  split
  · next htarget =>
      rw [setTargetState, if_pos (Or.inl (by simp [htarget]))]
      rfl
  · next htarget => exact (targetState_applyAlwaysOn _).trans htarget

theorem applied_handleSetAlwaysOn_iff (hcurrent : s.Current) (htold : s.PolicyTold)
    {alwaysOn : Bool} : Applied s (s.handleSetAlwaysOn t outcome jitter now alwaysOn).2 ↔
      s.configManager.config.alwaysOn = alwaysOn ∨ outcome = .written := by
  have hcurrent : (s.handleSetAlwaysOn t outcome jitter now alwaysOn).2.Current :=
    hcurrent.handleSetAlwaysOn alwaysOn
  have hput : (s.configManager.setAlwaysOn t outcome alwaysOn).2.config.alwaysOn = alwaysOn := by
    rw [config_setAlwaysOn]
  have hok := VpnServiceConfigManager.setIfChanged_eq_ok_iff t outcome (·.alwaysOn)
    ({ · with alwaysOn }) alwaysOn s.configManager
  rw [← hok]
  cases hsaved : (s.configManager.setAlwaysOn t outcome alwaysOn).1 with
  | error e =>
    -- The policy keeps what the switch was.
    refine iff_of_false ?_ (fun h => nomatch hsaved.symm.trans h)
    intro happlied
    have htold' := happlied.told
    rw [handleSetAlwaysOn, hsaved] at htold'
    have hsame : s.configManager.config.alwaysOn = alwaysOn := htold.symm.trans (htold'.trans hput)
    exact nomatch hsaved.symm.trans (hok.2 (Or.inl hsame))
  | ok u =>
    rw [handleSetAlwaysOn, hsaved] at hcurrent ⊢
    obtain ⟨hswitch, henabled⟩ := Prod.ext_iff.1 (switches_adoptAlwaysOn
      { s with configManager := (s.configManager.setAlwaysOn t outcome alwaysOn).2 } jitter now
      s.configManager.config.alwaysOn alwaysOn)
    refine iff_of_true ⟨hcurrent, henabled.trans (hswitch.trans hput).symm, ?_⟩ hsaved
    intro hoff hon
    obtain rfl : alwaysOn = true := hput.symm.trans (hswitch.symm.trans hon)
    rw [hoff]
    exact targetState_adoptAlwaysOn

end Setters

/-! ## One turn of the loop -/

def Unapplied (s : NymVpnService) : LoopInput → Prop
  | .set outcome (.alwaysOn v) => s.configManager.config.alwaysOn ≠ v ∧ outcome ≠ .written
  | input => s.LosesSettings input

section Steps

variable {t : TextForms} {i : LoopStep}

theorem applied_iff_of_switches (htold : s.PolicyTold) (hsame : s'.switches = s.switches) :
    Applied s s' ↔ s'.Current := by
  refine ⟨Applied.current, fun hcurrent => ⟨hcurrent, htold.of_switches hsame, ?_⟩⟩
  intro hoff hon
  have hswitch : s'.configManager.config.alwaysOn = s.configManager.config.alwaysOn :=
    congrArg Prod.fst hsame
  cases hoff.symm.trans (hswitch.symm.trans hon)

theorem switches_step (hinput : ∀ outcome v, i.input ≠ .set outcome (.alwaysOn v)) :
    (s.step t i).switches = s.switches := by
  cases hexited : s.exited with
  | some code => rw [step_of_exited hexited]
  | none =>
    rw [step_of_running hexited]
    cases h : i.input with
    | set outcome command =>
      apply switches_handleSet
      rintro v rfl
      exact hinput outcome v h
    | setTargetState target => exact switches_setTargetState target false
    | connectTunnel relax => exact switches_setTargetState .secured relax
    | _ => exact (supervised_switches s.switches).handle rfl nofun nofun nofun

theorem unapplied_iff {input : LoopInput}
    (hinput : ∀ outcome v, input ≠ .set outcome (.alwaysOn v)) :
    s.Unapplied input ↔ s.LosesSettings input := by
  unfold Unapplied
  split
  · next outcome v => exact absurd rfl (hinput outcome v)
  · exact Iff.rfl

theorem applied_step_iff (hcurrent : s.Current) (htold : s.PolicyTold) :
    Applied s (s.step t i) ↔ (s.exited = none → ¬ s.Unapplied i.input) := by
  by_cases hinput : ∃ outcome v, i.input = .set outcome (.alwaysOn v)
  · obtain ⟨outcome, v, hinput⟩ := hinput
    cases hexited : s.exited with
    | some code =>
      rw [step_of_exited hexited]
      exact iff_of_true ((applied_iff_of_switches htold rfl).2 hcurrent) nofun
    | none =>
      rw [step_of_running hexited, hinput]
      refine (applied_handleSetAlwaysOn_iff hcurrent htold).trans ?_
      rw [forall_prop_of_true rfl, Unapplied, not_and_or, not_not, not_not]
  · push Not at hinput
    rw [applied_iff_of_switches htold (switches_step hinput), current_step_iff hcurrent,
      unapplied_iff hinput]

end Steps

/-! ## Runs -/

section Runs

theorem policyTold_start (m : VpnServiceConfigManager) : (start m).PolicyTold := by
  have hnew : (updateIdleHint .disconnected (new m)).PolicyTold := rfl
  unfold start
  simp only
  split
  · exact hnew.of_switches (switches_setTargetState .secured false)
  · exact hnew

/-- Along a run every setting takes effect, exactly when no failed save keeps one from
that. -/
theorem settings_applied_iff (t : TextForms) (m : VpnServiceConfigManager)
    (steps : List LoopStep) :
    Along t (fun s i => Applied s (s.step t i)) (start m) steps ↔
      Along t (fun s i => s.exited = none → ¬ s.Unapplied i.input) (start m) steps := by
  apply along_congr (P := fun s => s.Current ∧ s.PolicyTold)
  · intro s i hs
    exact applied_step_iff hs.1 hs.2
  · intro s i _ happlied
    exact ⟨happlied.current, happlied.told⟩
  · exact ⟨current_start m, policyTold_start m⟩

/-- Always On is switched on, and the disk is full. -/
theorem alwaysOn_not_applied :
    ¬ Along plainForms (fun s i => Applied s (s.step plainForms i)) firstService
      [atOnce (.set (.failed ["No space left on device"]) (.alwaysOn true))] := by
  rintro ⟨happlied, -⟩
  exact nomatch happlied.told

end Runs

end NymVpnService

end VpnService
