import NymVpn.Firewall.Fw3Apply

/-!
# What a change leaves behind

Two steps take the failure of a command for the absence of what it names: the removal of
the emergency block and that of old mangle chains. When commands fail only where the kernel
cannot carry them out, nothing is left behind.
-/

namespace NymFirewall

open Net Netfilter Text Program

namespace Fw3

open RenderIptables BootRules Prog Returns

def TruthfulOutcome (facts : Facts) (c : Cmd) (w : World) (r : Resp c) (w' : World) : Prop :=
  Outcome facts c w r w' ∧ Truthful c w r

/-! ## The emergency block -/

section Emergency

variable {truthful : Prop} {facts : Facts} {w : World} {family : AddrFamily}

abbrev Leaves {α : Type} (truthful : Prop) (facts : Facts) (w : World) (x : Fw α)
    (P : α → World → Prop) : Prop :=
  x.run.Ends (OutcomeIf truthful facts) (OnOk P) w

theorem Leaves.and {α : Type} {x : Fw α} {P : α → World → Prop} {I : World → Prop}
    {Q : Except Error α → World → Prop} (h : Leaves truthful facts w x P)
    (h' : x.run.Holds (OutcomeIf truthful facts) I Q w) :
    Leaves truthful facts w x fun a v => P a v ∧ Q (.ok a) v :=
  (Holds.and h h').atEnd.onOk fun _ _ hv => hv

def Lifted (family : AddrFamily) (j : String × String) (w : World) : Prop :=
  ¬Hooked (w.filter family) j.1 j.2

def Backed (family : AddrFamily) (j : String × String) (w : World) : Prop :=
  w.filter family j.2 = none → Lifted family j w

variable {j : String × String}

theorem lifted_of_filter_eq {v v' : World} (h : v'.filter family j.1 = v.filter family j.1)
    (hv : Lifted family j v) : Lifted family j v' := by
  unfold Lifted Hooked at hv ⊢
  rwa [h]

theorem dropChain_lifts (hj : j.1 ≠ j.2) {ops : List Iptables.Operation} (hw : Lifted family j w) :
    Leaves truthful facts w (dropChain family j.2 ops) fun _ => Lifted family j := by
  have huses : (dropChain family j.2 ops).run.Uses fun c => ∃ op,
      c = .ipt family ⟨"filter", j.2, op⟩ :=
    uses_dropChain (fun op _ => ⟨op, rfl⟩) ⟨_, rfl⟩
  refine (huses.holds ?_ hw).atEnd.onOk fun _ _ h => h
  rintro c v r v' ⟨op, rfl⟩ hv hout
  exact lifted_of_filter_eq (hout.1.filter_eq_of_ne hj) hv

theorem removeEmergencyChain_frame {fuel : ℕ} (j : String × String) :
    (removeEmergencyChain fuel family j.1 j.2).run.Holds (OutcomeIf truthful facts)
      (fun v => ∀ c, c ≠ j.1 → c ≠ j.2 → v.filter family c = w.filter family c)
      (fun _ v => ∀ c, c ≠ j.1 → c ≠ j.2 → v.filter family c = w.filter family c) w := by
  refine uses_removeEmergencyChain.holds ?_ fun _ _ _ => rfl
  intro cmd v r v' hc hv hout c hhook hchain
  obtain ⟨ipt, ht, hin, rfl⟩ := hc.exists_ipt
  have hne : c ≠ ipt.chain := by rcases hin with h | h <;> rw [h] <;> assumption
  rw [← hv c hhook hchain]
  exact hout.1.ipt.eq_of_ne (Or.inr hne)

theorem emergencyJumps_disjoint {i : String × String} (hi : i ∈ emergencyJumps)
    (hj : j ∈ emergencyJumps) (hne : i ≠ j) : (i.1 ≠ j.1 ∧ i.1 ≠ j.2) ∧ i.2 ≠ j.1 ∧ i.2 ≠ j.2 := by
  rcases mem_emergencyJumps.1 hi with rfl | rfl <;>
    rcases mem_emergencyJumps.1 hj with rfl | rfl <;>
    first | exact absurd rfl hne | decide

theorem emergencyJump_hook_ne (hj : j ∈ emergencyJumps) : j.1 ≠ j.2 := by
  rcases mem_emergencyJumps.1 hj with rfl | rfl <;> decide

variable (ht : truthful)

include ht

theorem deleteJumps_lifts (fuel : ℕ) :
    Leaves truthful facts w (deleteJumps family j.1 j.2 fuel) fun _ => Lifted family j := by
  induction fuel generalizing w with
  | zero => trivial
  | succ fuel ih =>
    refine ends_run_call_bind.2 fun o w' hout => ?_
    cases o with
    | spawnFailed e => trivial
    | success rules => exact ih
    | failed e =>
      rintro ⟨specs, hspecs, hmem⟩
      rw [World.filter, hout.1.tables_of_not_isSuccess rfl] at hspecs
      exact (hout.2 ht).not_mem_of_delete rfl hspecs hmem

theorem removeEmergencyChain_lifts (fuel : ℕ) (hj : j.1 ≠ j.2) (hw : Backed family j w) :
    Leaves truthful facts w (removeEmergencyChain fuel family j.1 j.2)
      fun _ => Lifted family j := by
  have hexists : Leaves truthful facts w (chainExists family j.2)
      fun present w' => present = false → Lifted family j w' := by
    refine ends_run_call_bind.2 fun o w' hout => ?_
    obtain rfl := hout.1.eq_of_isQuery trivial
    cases o with
    | spawnFailed e => trivial
    | failed e => exact fun _ => hw ((hout.2 ht).absent rfl (.inl rfl))
    | success rules => exact fun h => absurd h (by simp)
  refine Holds.run_bind hexists fun present w₁ h₁ => ?_
  cases present with
  | false => exact h₁ rfl
  | true =>
    refine Holds.run_bind (deleteJumps_lifts ht fuel) fun _ w₂ h₂ => ?_
    have hcheck : Leaves truthful facts w₂ (jumpPresent family "filter" j.1 j.2)
        fun _ => Lifted family j := by
      refine ends_run_call_bind.2 fun o w' hout => ?_
      obtain rfl := hout.1.eq_of_isQuery trivial
      cases o with
      | spawnFailed e => trivial
      | _ => exact h₂
    refine Holds.run_bind hcheck fun present w₃ h₃ => ?_
    cases present with
    | true => trivial
    | false => exact dropChain_lifts hj h₃

theorem removeEmergencyBlock_lifts (fuel : ℕ) (hw : ∀ j ∈ emergencyJumps, Backed family j w) :
    Leaves truthful facts w (removeEmergencyBlock fuel family)
      fun _ w' => ∀ j ∈ emergencyJumps, Lifted family j w' := by
  refine Holds.onOk (holds_run_forM_each (J := fun v => ∀ i ∈ emergencyJumps, Backed family i v)
    (Lifted family) emergencyJumps (fun j hj v hbacked => ?_) hw) fun _ _ h => h.2
  refine ((removeEmergencyChain_lifts ht fuel (emergencyJump_hook_ne hj) (hbacked j hj)).and
    (removeEmergencyChain_frame j)).onOk fun _ v' hv' => ?_
  obtain ⟨hlifted, hframe⟩ := hv'
  have hother {i : String × String} (hi : i ∈ emergencyJumps) (hne : i ≠ j) :
      v'.filter family i.1 = v.filter family i.1 ∧ v'.filter family i.2 = v.filter family i.2 := by
    obtain ⟨⟨h₁, h₂⟩, h₃, h₄⟩ := emergencyJumps_disjoint hi hj hne
    exact ⟨hframe _ h₁ h₂, hframe _ h₃ h₄⟩
  refine ⟨fun i hi hnone => ?_, hlifted, fun i hi hdone => ?_⟩
  · by_cases hne : i = j
    · exact hne ▸ hlifted
    · obtain ⟨hhook, hchain⟩ := hother hi hne
      rw [hchain] at hnone
      exact lifted_of_filter_eq hhook (hbacked i hi hnone)
  · by_cases hne : i = j
    · exact hne ▸ hlifted
    · exact lifted_of_filter_eq (hother hi hne).1 hdone

end Emergency

/-! ## The whole change -/

section Apply

variable {truthful : Prop} {facts : Facts} {w w' : World}

def AllGuarded (facts : Facts) (w : World) : Prop :=
  ∀ family, facts.enabled family = true → Guarded (w.filter family)

def AllBacked (w : World) : Prop := ∀ family, ∀ j ∈ emergencyJumps, Backed family j w

theorem AllBacked.keeps (h : AllBacked w) (hkeep : KeepsAll w w') : AllBacked w' := by
  intro family j hj hnone hooked
  obtain ⟨g, hg, hhook, hchain⟩ : ∃ g ∈ guards, g.hook = j.1 ∧ g.emergency = j.2 := by
    rcases mem_emergencyJumps.1 hj with rfl | rfl
    · exact ⟨_, List.mem_cons_self, rfl, rfl⟩
    · exact ⟨_, List.mem_cons_of_mem _ List.mem_cons_self, rfl, rfl⟩
  obtain ⟨hnone', hooked'⟩ := (hkeep family).dangling g hg
    (by rw [Guard.Dangling, hhook, hchain]; exact ⟨hnone, hooked⟩)
  rw [hchain] at hnone'
  rw [hhook, hchain] at hooked'
  exact h family j hj hnone' hooked'

structure Sound (truthful : Prop) (facts : Facts) (w : World) : Prop where
  guarded : AllGuarded facts w
  backed : truthful → AllBacked w

theorem Sound.keeps (h : Sound truthful facts w) (hkeep : KeepsAll w w') :
    Sound truthful facts w' :=
  ⟨fun family hf => (hkeep family).guarded (h.guarded family hf),
    fun ht => (h.backed ht).keeps hkeep⟩

theorem Keeping.then {α β : Type} {x : Fw α} {f : α → Fw β} {P : α → World → Prop}
    {Q : β → World → Prop} (h : Keeping truthful facts w x P) (hw : Sound truthful facts w)
    (hf : ∀ a w', Sound truthful facts w' → P a w' →
      (f a).run.Holds (OutcomeIf truthful facts) (AllGuarded facts) (OnOk Q) w') :
    (x >>= f).run.Holds (OutcomeIf truthful facts) (AllGuarded facts) (OnOk Q) w :=
  (h.holds fun _ hv => (hw.keeps hv).guarded).run_bind fun a v hv => hf a v (hw.keeps hv.1) hv.2

abbrev Scripts := AddrFamily → Option String

def scripts (v4Script : String) (v6Script : Option String) : Scripts
  | .v4 => some v4Script
  | .v6 => v6Script

def rulesFile : AddrFamily → StateFile
  | .v4 => .rulesV4
  | .v6 => .rulesV6

/-- The policies that the scripts stand for are live; a family without a script
is not enabled. -/
structure Established (truthful : Prop) (target : RuleSet) (facts : Facts) (S : Scripts) (w : World) : Prop where
  live : ∀ family, ∀ script ∈ S family, Live truthful target script family (w.tables family)
  without : ∀ family, S family = none → facts.enabled family = false

variable {S : Scripts} {fuel : ℕ} {v4Script : String} {v6Script : Option String} {withV6 : Bool}
  {rs target : RuleSet} {family : AddrFamily} {script : String}

theorem Established.allGuarded (h : Established truthful target facts S w) : AllGuarded facts w := by
  intro family hf
  cases hs : S family with
  | none => exact absurd (h.without family hs) (by simp [hf])
  | some script =>
    obtain ⟨rs, hrs, -, -, hready⟩ := h.live family script hs
    exact fun g hg => Or.inl (hready.enforced hrs g hg)

theorem Established.of_tables (h : Established truthful target facts S w)
    (htables : w'.tables = w.tables) : Established truthful target facts S w' := by
  obtain ⟨hlive, hnone⟩ := h
  rw [← htables] at hlive
  exact ⟨hlive, hnone⟩

def Persisted (S : Scripts) (w : World) : Prop := ∀ family, w.files (rulesFile family) = S family

structure Settled (truthful : Prop) (target : RuleSet) (facts : Facts) (S : Scripts) (w : World) : Prop where
  established : Established truthful target facts S w
  persisted : Persisted S w
  marker : w.files .transition = none

theorem Settled.of_local (h : Settled truthful target facts S w) (hlocal : Local family w w')
    (hlive : ∀ script ∈ S family, Live truthful target script family (w'.tables family)) :
    Settled truthful target facts S w' := by
  refine ⟨⟨fun f script hs => ?_, h.established.without⟩, fun f => ?_, ?_⟩
  · by_cases hf : f = family
    · subst hf
      exact hlive script hs
    · rw [hlocal.2 f hf]
      exact h.established.live f script hs
  · rw [hlocal.1, h.persisted f]
  · rw [hlocal.1, h.marker]

theorem persistState_keeps :
    Keeping truthful facts w (persistState v4Script v6Script)
      fun _ w' => w'.tables = w.tables ∧ Persisted (scripts v4Script v6Script) w' := by
  refine (writeStateFile_keeps .rulesV4 v4Script).run_bind fun _ w₁ _ h₁ => ?_
  have hend {v : World} (hv : OnlyFile .rulesV6 w₁ v) (hfile : v.files .rulesV6 = v6Script) :
      v.tables = w.tables ∧ Persisted (scripts v4Script v6Script) v := by
    refine ⟨hv.1.trans h₁.1.1, fun family => ?_⟩
    cases family with
    | v4 => exact (hv.2 .rulesV4 (by decide)).trans h₁.2
    | v6 => exact hfile
  cases v6Script with
  | some script => exact (writeStateFile_keeps .rulesV6 script).onOk fun _ v _ hv => hend hv.1 hv.2
  | none => exact (removeStateFile_keeps .rulesV6).onOk fun _ v _ hv => hend hv.1 hv.2

theorem finishTransition_keeps (hp : Persisted S w) :
    Keeping truthful facts w finishTransition
      fun _ w' => w'.tables = w.tables ∧ Persisted S w' ∧ w'.files .transition = none := by
  refine (removeStateFile_keeps .transition).onOk fun _ v _ hv => ?_
  refine ⟨hv.1.1, fun family => ?_, hv.2⟩
  rw [hv.1.2 _ (by cases family <;> decide), hp family]

theorem reactivate_settled (hw : Settled truthful target facts S w) (family : AddrFamily)
    (hs : S family = some script) :
    Keeping truthful facts w (reactivate script family) fun _ => Settled truthful target facts S := by
  obtain ⟨rs, hrs, hmem, rfl, hready⟩ := hw.established.live family script hs
  refine ((reactivate_keeps hrs hmem).local within_reactivate).onOk fun _ v _ hv => ?_
  refine hw.of_local hv.2 fun script hs' => ?_
  obtain rfl : render rs family = script := Option.some.inj (hs.symm.trans hs')
  rcases hv.1 with rfl | hlive
  · exact ⟨rs, hrs, hmem, rfl, hready⟩
  · exact hlive

theorem reactivateV6_settled (hw : Settled truthful target facts (scripts v4Script v6Script) w) :
    Keeping truthful facts w (reactivateV6 v6Script)
      fun _ => Settled truthful target facts (scripts v4Script v6Script) := by
  cases v6Script with
  | none => exact holdsFrom_ret hw
  | some script => exact reactivate_settled hw .v6 rfl

theorem applyFamilyV6_established (hrs : Deployable rs)
    (hlive : Live truthful rs v4Script .v4 (w.tables .v4))
    (hv6 : withV6 = false → facts.enabled .v6 = false) :
    Keeping truthful facts w (applyFamilyV6 rs withV6)
      fun v6Script => Established truthful rs facts (scripts v4Script v6Script) := by
  cases withV6 with
  | false =>
    refine holdsFrom_ret ⟨fun family script hs => ?_, fun family hs => ?_⟩
    · cases family with
      | v4 => exact Option.some.inj hs ▸ hlive
      | v6 => exact absurd hs (by simp [scripts])
    · cases family with
      | v4 => exact absurd hs (by simp [scripts])
      | v6 => exact hv6 rfl
  | true =>
    refine ((applyFamily_live hrs).local within_applyFamily).run_bind fun v6Script w' _ hw' => ?_
    refine holdsFrom_ret ⟨fun family script hs => ?_, fun family hs => ?_⟩
    · cases family with
      | v4 =>
        rw [hw'.2.2 .v4 (by decide)]
        exact Option.some.inj hs ▸ hlive
      | v6 => exact Option.some.inj hs ▸ hw'.1
    · cases family <;> exact absurd hs (by simp [scripts])

theorem removeEmergencyBlock_settled (hw : Settled truthful target facts S w) (family : AddrFamily) :
    (removeEmergencyBlock fuel family).run.Holds (OutcomeIf truthful facts)
      (Settled truthful target facts S) (fun _ w' => Settled truthful target facts S w') w := by
  refine uses_removeEmergencyBlock.holds ?_ hw
  rintro c v r v' ⟨j, hj, hc⟩ hv hout
  obtain ⟨cmd, -, -, hcmd⟩ := hc.exists_ipt
  have hlocal : Local family v v' := by
    subst hcmd
    exact ⟨fun f => hout.1.files_eq ((within_ipt cmd).1 f),
      fun f hf => hout.1.tables_eq ((within_ipt cmd).2 f hf)⟩
  refine hv.of_local hlocal fun script hs => ?_
  obtain ⟨rs, hrs, hmem, hscript, hready⟩ := hv.established.live family script hs
  exact ⟨rs, hrs, hmem, hscript, hready.of_lifts hj hc hout.1⟩

theorem removeEmergencyBlocks_settled (hw : Settled truthful target facts S w) :
    (removeEmergencyBlocks fuel withV6).run.Holds (OutcomeIf truthful facts)
      (Settled truthful target facts S) (OnOk fun _ w' => Settled truthful target facts S w') w := by
  have hblock {family : AddrFamily} {v : World} (hv : Settled truthful target facts S v) :
      (removeEmergencyBlock fuel family).run.Holds (OutcomeIf truthful facts)
        (Settled truthful target facts S) (OnOk fun _ w' => Settled truthful target facts S w') v :=
    (removeEmergencyBlock_settled hv family).onOk fun _ _ h => h
  refine (hblock hw).run_bind fun _ w₁ h₁ => ?_
  cases withV6 with
  | true => exact hblock h₁
  | false =>
    have hattempt : (attempt (removeEmergencyBlock fuel .v6)).run.Holds
        (OutcomeIf truthful facts) (Settled truthful target facts S)
        (OnOk fun _ w' => Settled truthful target facts S w') w₁ :=
      holds_run_lift.2 (removeEmergencyBlock_settled h₁ .v6)
    exact hattempt.run_bind fun _ w₂ h₂ => h₂

def AllLifted (facts : Facts) (w : World) : Prop :=
  ∀ family, facts.enabled family = true → ∀ j ∈ emergencyJumps, Lifted family j w

theorem removeEmergencyBlocks_lifts (ht : truthful) (hw : AllBacked w)
    (hv6 : withV6 = false → facts.enabled .v6 = false) :
    Leaves truthful facts w (removeEmergencyBlocks fuel withV6) fun _ => AllLifted facts := by
  have hframe {family : AddrFamily} {v : World} :
      (removeEmergencyBlock fuel family).run.Ends (OutcomeIf truthful facts)
        (fun _ v' => Local family v v' ∧ True) v :=
    (local_of_uses (within_removeEmergencyBlock fuel family)).atEnd
  refine Holds.run_bind ((removeEmergencyBlock_lifts ht fuel (hw .v4)).and hframe) fun _ w₁ h₁ => ?_
  obtain ⟨hlifted, hlocal, -⟩ := h₁
  have hv4 {v : World} (hv : Local .v6 w₁ v) : ∀ j ∈ emergencyJumps, Lifted .v4 j v :=
    fun j hj => lifted_of_filter_eq
      (congrFun (congrFun (hv.2 .v4 (by decide)) "filter") j.1) (hlifted j hj)
  cases withV6 with
  | true =>
    have hbacked : ∀ j ∈ emergencyJumps, Backed .v6 j w₁ := by
      intro j hj
      unfold Backed Lifted World.filter
      rw [hlocal.2 .v6 (by decide)]
      exact hw .v6 j hj
    refine ((removeEmergencyBlock_lifts ht fuel hbacked).and hframe).onOk fun _ v hv family _ => ?_
    cases family with
    | v4 => exact hv4 hv.2.1
    | v6 => exact hv.1
  | false =>
    refine Holds.run_bind (P := fun _ => AllLifted facts) (holds_run_lift.2
      (hframe.imp fun r v hv family hf => ?_)) fun _ w₂ h₂ => h₂
    cases family with
    | v4 => exact hv4 hv.1
    | v6 => exact absurd (hv6 rfl) (by simp [hf])

/-- A change keeps the guards at every step, and leaves the policy settled when
it succeeds. -/
theorem apply_holds (truthful : Prop) (fuel : ℕ) (hrs : Deployable rs)
    (hw : Sound truthful facts w) :
    (apply fuel rs).run.Holds (OutcomeIf truthful facts) (AllGuarded facts)
      (OnOk fun _ w' => (∃ S, Settled truthful rs facts S w') ∧
        (truthful → AllLifted facts w')) w := by
  refine Keeping.then (.of_uses (uses_ensureRuntimeDir (.neutral trivial))) hw fun _ w₁ h₁ _ => ?_
  refine Keeping.then (.of_uses (uses_lockFw3State (.neutral trivial))) h₁ fun _ w₂ h₂ _ => ?_
  refine resolveIpv6_keeps.then h₂ fun withV6 w₃ h₃ hv6 => ?_
  refine Keeping.then (.of_uses (uses_beginTransition fun _ => .neutral trivial)) h₃
    fun _ w₄ h₄ _ => ?_
  refine Keeping.then (.of_uses safe_guardFamilies) h₄ fun _ w₅ h₅ _ => ?_
  refine (applyFamily_live hrs).then h₅ fun v4Script w₆ h₆ hlive => ?_
  refine (applyFamilyV6_established hrs hlive hv6).then h₆ fun v6Script w₇ h₇ hw₇ => ?_
  refine persistState_keeps.then h₇ fun _ w₈ h₈ hp => ?_
  refine (finishTransition_keeps hp.2).then h₈ fun _ w₉ h₉ hp' => ?_
  have hw₉ : Settled truthful rs facts (scripts v4Script v6Script) w₉ :=
    ⟨hw₇.of_tables (hp'.1.trans hp.1), hp'.2.1, hp'.2.2⟩
  refine (reactivate_settled hw₉ .v4 rfl).then h₉ fun _ w₁₀ h₁₀ hw₁₀ => ?_
  refine (reactivateV6_settled hw₁₀).then h₁₀ fun _ w₁₁ h₁₁ hw₁₁ => ?_
  -- By now the policy itself guards.
  have hlifts : Leaves truthful facts w₁₁ (removeEmergencyBlocks fuel withV6)
      fun _ w' => truthful → AllLifted facts w' := by
    by_cases ht : truthful
    · exact (removeEmergencyBlocks_lifts ht (h₁₁.backed ht) hv6).onOk fun _ _ h _ => h
    · exact ends_true.onOk fun _ _ _ h => absurd h ht
  exact ((removeEmergencyBlocks_settled hw₁₁).and hlifts).mono
    (fun v hv => hv.1.established.allGuarded) fun r v hv => by
      cases r with
      | ok u => exact ⟨⟨_, hv.1⟩, hv.2⟩
      | error e => trivial

/-- Without a mangle table in the script there is no mangle rule. -/
def Tidy (family : AddrFamily) (script : String) (w : World) : Prop :=
  hasMangleTable script = false → ∀ j ∈ mangleJumps, Emptied family j.2 w

/-- What a truthful change that succeeds leaves behind: nothing. -/
structure Cleared (facts : Facts) (w : World) : Prop where
  lifted : ∀ family, facts.enabled family = true → ∀ j ∈ emergencyJumps, Lifted family j w
  tidy : ∀ family script, w.files (rulesFile family) = some script → Tidy family script w

/-- What is in force after a change to the target that succeeds: the marker is gone, every
enabled family has its script and its jumps, and a script that is persisted is that of the
target, up to the fallbacks, and what is loaded. -/
structure InForce (target : RuleSet) (facts : Facts) (w : World) : Prop where
  marker : w.files .transition = none
  persisted : ∀ family, facts.enabled family = true → (w.files (rulesFile family)).isSome = true
  script : ∀ family script, w.files (rulesFile family) = some script →
    ∃ rs ∈ fallbacks target, script = render rs family
  loaded : ∀ family script, w.files (rulesFile family) = some script →
    Iptables.load script (w.tables family) = some (w.tables family)
  hooked : ∀ family script, w.files (rulesFile family) = some script →
    ∀ j ∈ jumps, Hooked (w.filter family) j.1 j.2
  mangle : ∀ family script, w.files (rulesFile family) = some script →
    hasMangleTable script = true → ∀ j ∈ mangleJumps, Hooked (w.tables family "mangle") j.1 j.2

theorem Settled.live (h : Settled truthful target facts S w)
    (hs : w.files (rulesFile family) = some script) :
    Live truthful target script family (w.tables family) :=
  h.established.live family script ((h.persisted family).symm.trans hs)

theorem Settled.inForce (h : Settled truthful target facts S w) : InForce target facts w := by
  refine ⟨h.marker, fun family hf => ?_, fun family script hs => ?_,
    fun family script hs => (h.live hs).load_eq, fun family script hs => ?_,
    fun family script hs hm => ?_⟩
  · rw [h.persisted family, Option.isSome_iff_ne_none]
    intro hnone
    exact absurd (h.established.without family hnone) (by simp [hf])
  · obtain ⟨rs, -, hmem, hscript, -⟩ := h.live hs
    exact ⟨rs, hmem, hscript⟩
  · obtain ⟨rs, -, -, -, hready⟩ := h.live hs
    exact hready.hooked
  · obtain ⟨rs, hrs, -, rfl, hready⟩ := h.live hs
    rw [hasMangleTable_render _ hrs] at hm
    exact hready.mangle (by simpa using hm)

theorem Settled.cleared (ht : truthful) (h : Settled truthful target facts S w) (hw : AllLifted facts w) :
    Cleared facts w := by
  refine ⟨hw, fun family script hs hm => ?_⟩
  obtain ⟨rs, hrs, -, rfl, hready⟩ := h.live hs
  rw [hasMangleTable_render _ hrs] at hm
  exact hready.tidy ht (by simpa using hm)

/-- From a guarded start, whatever fails and wherever the daemon dies, OUTPUT and FORWARD of
each enabled family stay guarded. A change that succeeds leaves the scripts of the rule set
persisted, loaded and hooked; when commands only fail where they have to, no emergency jump
remains, and no mangle rule that is not in the script. -/
theorem apply_never_opens (facts : Facts) (fuel : ℕ) {rs : RuleSet} (hrs : Deployable rs)
    {w : World} (hguard : AllGuarded facts w) :
    (∀ q w', Steps (Outcome facts) ((apply fuel rs).run, w) (q, w') → AllGuarded facts w') ∧
    (∀ w', Returns (Outcome facts) (apply fuel rs).run w (.ok ()) w' → InForce rs facts w') ∧
    (AllBacked w → ∀ w', Returns (TruthfulOutcome facts) (apply fuel rs).run w (.ok ()) w' →
      Cleared facts w') := by
  have hholds : (apply fuel rs).run.Holds (Outcome facts) (AllGuarded facts)
      (OnOk fun _ w' => InForce rs facts w') w :=
    Holds.onOk ((apply_holds False fuel hrs ⟨hguard, nofun⟩).of_out fun _ _ _ _ h => ⟨h, nofun⟩)
      fun _ _ ⟨⟨_, hsettled⟩, _⟩ => hsettled.inForce
  refine ⟨fun q w' hsteps => (hholds.steps hguard hsteps).1, fun w' => hholds.of_returns,
    fun hbacked w' => Holds.of_returns (Q := OnOk fun _ => Cleared facts) (Holds.onOk
      ((apply_holds True fuel hrs ⟨hguard, fun _ => hbacked⟩).of_out
        fun _ _ _ _ h => ⟨h.1, fun _ => h.2⟩)
      fun _ _ ⟨⟨_, hsettled⟩, hlifted⟩ => hsettled.cleared trivial (hlifted trivial))⟩

end Apply

/-! ## A run that leaves rules behind -/

section Stale

/-- A router without IPv6, on which every command that changes a single chain fails. -/
def answers : (c : Cmd) → World → Option (Resp c × World)
  | .runtimeDir, w => some (Except.ok (), w)
  | .lockState, w => some (Except.ok (), w)
  | .ipv6Exists, w => some (false, w)
  | .disableIpv6, _ => none
  | .ip6tablesUsable, _ => none
  | .writeFile f contents, w => some (Except.ok (), w.setFile f (some contents))
  | .removeFile f, w => some (Except.ok (), w.setFile f none)
  | .ipt family ⟨table, chain, op⟩, w =>
    match op with
    | .check _ | .listRules =>
      (op.run (w.tables family table chain)).map fun r => (Iptables.Output.success r.2, w)
    | _ => some (Iptables.Output.failed "", w)
  | .ownerHelp _, w => some (true, w)
  | .restore family script, w =>
    (Iptables.load script (w.tables family)).map fun T =>
      (Iptables.RestoreOutput.success, w.setTables family T)

theorem outcome_answers (c : Cmd) (w : World) (r : Resp c) (w' : World)
    (h : answers c w = some (r, w')) : Outcome ⟨false, false⟩ c w r w' := by
  have hself (family : AddrFamily) : w = w.setTables family (w.tables family) := by
    rw [World.setTables, Function.update_eq_self]
  cases c with
  | ipt family c =>
    obtain ⟨table, chain, op⟩ := c
    cases op with
    | check spec | listRules =>
      obtain ⟨⟨specs, rules⟩, hrun, heq⟩ := Option.map_eq_some_iff.1 h
      obtain ⟨rfl, rfl⟩ := Prod.mk.inj heq
      obtain rfl := Iptables.Operation.run_of_isQuery (by trivial) hrun
      refine ⟨w.tables family, .success ?_ (by rintro ⟨⟩), hself family⟩
      simp [Iptables.Command.run, hrun, Iptables.Tables.set]
    | _ =>
      obtain ⟨rfl, rfl⟩ := Prod.mk.inj (Option.some.inj h)
      exact ⟨_, .failed "", hself family⟩
  | restore family script =>
    obtain ⟨T, hload, heq⟩ := Option.map_eq_some_iff.1 h
    obtain ⟨rfl, rfl⟩ := Prod.mk.inj heq
    exact ⟨T, .success hload, rfl⟩
  | disableIpv6 | ip6tablesUsable => cases h
  | ipv6Exists =>
    obtain ⟨rfl, rfl⟩ := Prod.mk.inj (Option.some.inj h)
    exact ⟨rfl, rfl⟩
  | _ =>
    obtain ⟨rfl, rfl⟩ := Prod.mk.inj (Option.some.inj h)
    rfl

def staleWorld : World where
  tables := fun
    | .v4, table, chain => List.lookup (table, chain)
        [(("filter", fw3HookInput), [jump chainInput]),
          (("filter", fw3HookOutput), [jump chainOutput, jump emergencyOutputChain]),
          (("filter", fw3HookForward), [jump chainForward]),
          (("filter", chainInput), []),
          (("filter", chainOutput), [["-j", "REJECT", "--reject-with", "icmp-port-unreachable"]]),
          (("filter", chainForward), [["-j", "REJECT", "--reject-with", "icmp-port-unreachable"]]),
          (("filter", emergencyOutputChain), [dropAll]),
          (("mangle", "PREROUTING"), [jump chainManglePrerouting]),
          (("mangle", chainManglePrerouting), [["-j", "CONNMARK", "--restore-mark"]])]
    | .v6, _, _ => none
  files := fun _ => none

theorem allGuarded_staleWorld : AllGuarded ⟨false, false⟩ staleWorld := by
  intro family hfamily g hg
  cases family with
  | v6 => exact absurd hfamily (by decide)
  | v4 =>
    rcases mem_guards.1 hg with rfl | rfl
    · exact Or.inl ⟨⟨_, rfl, List.mem_cons_self⟩, _, rfl, _, rfl, _, rfl⟩
    · exact Or.inl ⟨⟨_, rfl, List.mem_singleton_self _⟩, _, rfl, _, rfl, _, rfl⟩

abbrev blockedRules : RuleSet := compileWith [] (.blocked false [] []) ⟨[], fun _ => none⟩

theorem properNames_blocked : ProperNames (.blocked false [] []) ⟨[], fun _ => none⟩ :=
  ⟨by decide, by decide, fun _ _ h => nomatch h⟩

/-- A policy without mangle rules goes in while every command that should remove
the old ones and the emergency block fails. -/
theorem returns_apply (hrs : Deployable blockedRules) :
    ∃ w', Returns (Outcome ⟨false, false⟩) (apply 1 blockedRules).run staleWorld (.ok ()) w' ∧
      w'.tables .v4 "mangle" = staleWorld.tables .v4 "mangle" ∧
      w'.filter .v4 fw3HookOutput = staleWorld.filter .v4 fw3HookOutput ∧
      w'.files .rulesV4 = some (render blockedRules .v4) := by
  have follows {α : Type} {x : Fw α} {a : α} {w w' : World}
      (h : x.run.follow answers w = some (.ok a, w')) :
      Returns (Outcome ⟨false, false⟩) x.run w (.ok a) w' := returns_of_follow outcome_answers h
  let w₁ := staleWorld.setFile .transition (some "fw3 state transition in progress\n")
  let w₂ := w₁.setTables .v4 (loaded blockedRules .v4 (w₁.tables .v4))
  let w₃ := (w₂.setFile .rulesV4 (some (render blockedRules .v4))).setFile .rulesV6 none
  let w₄ := w₃.setFile .transition none
  have hload : Iptables.load (render blockedRules .v4) (w₁.tables .v4) =
      some (loaded blockedRules .v4 (w₁.tables .v4)) := by
    rw [load_render hrs.wellFormed, runBlocks_blocks]
  have hrestore : Returns (Outcome ⟨false, false⟩) (runRestore (render blockedRules .v4) .v4).run
      w₁ (.ok ()) w₂ :=
    returns_run_call_bind Iptables.RestoreOutput.success ⟨_, .success hload, rfl⟩ returns_ret
  have hfamily : Returns (Outcome ⟨false, false⟩) (applyFamily blockedRules .v4).run w₁
      (.ok (render blockedRules .v4)) w₂ :=
    run_bind (a := blockedRules) (u := w₁) (follows rfl) <|
      run_bind (run_bind (a := blockedRules) (u := w₁) (follows rfl)
        (hrestore.run_bind returns_ret)) (follows rfl)
  refine ⟨w₄, ?_, ?_, ?_, rfl⟩
  · refine run_bind (u := staleWorld) (follows rfl) <| run_bind (u := staleWorld) (follows rfl) <|
      run_bind (a := false) (u := staleWorld) (follows rfl) <| run_bind (u := w₁) (follows rfl) <|
      run_bind (u := w₁) (follows rfl) <| hfamily.run_bind (follows rfl)
  · rfl
  · rfl

theorem apply_never_opens_staleWorld :
    Deployable blockedRules ∧ AllGuarded ⟨false, false⟩ staleWorld ∧
    ∃ w', Returns (Outcome ⟨false, false⟩) (apply 1 blockedRules).run staleWorld (.ok ()) w' ∧
      InForce blockedRules ⟨false, false⟩ w' := by
  have hrs := deployable_compileWith [] properNames_blocked
  obtain ⟨w', hreturns, -⟩ := returns_apply hrs
  obtain ⟨-, hforce, -⟩ := apply_never_opens ⟨false, false⟩ 1 hrs allGuarded_staleWorld
  exact ⟨hrs, allGuarded_staleWorld, w', hreturns, hforce w' hreturns⟩

/-- The mangle chains of an earlier policy and an emergency jump can outlive a change that
succeeds: their removal is not checked. -/
theorem apply_leaves_rules_behind :
    AllGuarded ⟨false, false⟩ staleWorld ∧
    ∃ w' script, Returns (Outcome ⟨false, false⟩) (apply 1 blockedRules).run staleWorld
        (.ok ()) w' ∧
      w'.files .rulesV4 = some script ∧ hasMangleTable script = false ∧
      Hooked (w'.tables .v4 "mangle") "PREROUTING" chainManglePrerouting ∧
      w'.tables .v4 "mangle" chainManglePrerouting =
        some [["-j", "CONNMARK", "--restore-mark"]] ∧
      Hooked (w'.filter .v4) fw3HookOutput emergencyOutputChain := by
  have hrs := deployable_compileWith [] properNames_blocked
  obtain ⟨w', hreturns, hmangle, hhook, hfile⟩ := returns_apply hrs
  refine ⟨allGuarded_staleWorld, w', _, hreturns, hfile, ?_, ?_, ?_, ?_⟩
  · rw [hasMangleTable_render _ hrs]
    rfl
  · rw [hmangle]
    exact ⟨_, rfl, List.mem_singleton_self _⟩
  · rw [hmangle]
    rfl
  · exact ⟨_, hhook, .tail _ (.head _)⟩

end Stale

end Fw3

end NymFirewall
