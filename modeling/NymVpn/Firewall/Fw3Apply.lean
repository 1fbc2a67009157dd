import NymVpn.Firewall.Fw3Guard

/-!
# A policy in place

Each function of a change makes the policy live for one family, or leaves it so, and keeps
the guards meanwhile.
-/

namespace NymFirewall

open Net Netfilter Text Program

namespace Fw3

open RenderIptables BootRules Prog

/-! ## A live policy -/

def Loaded (rs : RuleSet) (family : AddrFamily) (T : Iptables.Tables) : Prop :=
  ∀ c, tableName c = "filter" ∨ rs.mangle.isEmpty = false →
    T (tableName c) (chainName c) = some (specs family (rs.chain c))

def Emptied (family : AddrFamily) (chain : String) (w : World) : Prop :=
  w.tables family "mangle" chain = none ∨ w.tables family "mangle" chain = some []

/-- The chains of the rule set are loaded and every hook jumps to its own. Old mangle chains
are removed as far as the commands succeed. -/
structure Ready (truthful : Prop) (rs : RuleSet) (family : AddrFamily) (T : Iptables.Tables) :
    Prop where
  loaded : Loaded rs family T
  hooked : ∀ j ∈ jumps, Hooked (T "filter") j.1 j.2
  mangle : rs.mangle.isEmpty = false → ∀ j ∈ mangleJumps, Hooked (T "mangle") j.1 j.2
  tidy : truthful → rs.mangle.isEmpty = true →
    ∀ j ∈ mangleJumps, T "mangle" j.2 = none ∨ T "mangle" j.2 = some []

def fallbacks (target : RuleSet) : List RuleSet :=
  [target, target.withoutSkuidRules, target.withoutMangleRules,
    target.withoutMangleRules.withoutSkuidRules]

/-- The script is that of the target, up to the fallbacks, and its policy is in place. -/
def Live (truthful : Prop) (target : RuleSet) (script : String) (family : AddrFamily)
    (T : Iptables.Tables) : Prop :=
  ∃ rs, Deployable rs ∧ rs ∈ fallbacks target ∧ script = render rs family ∧
    Ready truthful rs family T

variable {truthful : Prop} {family : AddrFamily} {T : Iptables.Tables} {script : String}
  {rs target : RuleSet} {facts : Facts} {w : World}

theorem Ready.enforced (h : Ready truthful rs family T) (hrs : Deployable rs) :
    Enforced (T "filter") := by
  intro g hg
  refine ⟨h.hooked _ (mem_jumps_of_mem_guards hg), ?_⟩
  rcases mem_guards.1 hg with rfl | rfl
  · exact ⟨_, h.loaded .filterOutput (Or.inl rfl), getLast?_specs hrs.output family⟩
  · exact ⟨_, h.loaded .filterForward (Or.inl rfl), getLast?_specs hrs.forward family⟩

theorem Live.load_eq (h : Live truthful target script family T) : Iptables.load script T = some T := by
  obtain ⟨rs, hrs, -, rfl, hready⟩ := h
  rw [load_render hrs.wellFormed, runBlocks_blocks]
  congr 1
  have hblock (table : String) {chains : List (String × Chain)}
      (hnodup : (chains.map Prod.fst).Nodup)
      (hchains : ∀ c ∈ chains, T table c.1 = some (specs family c.2)) :
      (block table chains family).result (T table) = T table := by
    funext name
    by_cases hname : name ∈ chains.map Prod.fst
    · obtain ⟨c, hc, rfl⟩ := List.mem_map.1 hname
      rw [block_result hnodup hc, hchains c hc]
    · exact block_result_of_notMem hname table family (T table)
  have hfilter := hblock "filter" (nodup_filterChains rs) (by
    simp only [filterChains, List.forall_mem_cons]
    exact ⟨hready.loaded .filterInput (Or.inl rfl), hready.loaded .filterOutput (Or.inl rfl),
      hready.loaded .filterForward (Or.inl rfl), by simp⟩)
  have hmangle (hm : rs.mangle.isEmpty = false) :=
    hblock "mangle" (nodup_mangleChains rs) (by
      simp only [mangleChains, List.forall_mem_cons]
      exact ⟨hready.loaded .manglePrerouting (Or.inr hm), hready.loaded .mangleOutput (Or.inr hm),
        by simp⟩)
  unfold loaded
  cases hm : rs.mangle.isEmpty with
  | true => simp [hfilter]
  | false => simp [hmangle hm, hfilter]

/-! ## Making it live -/

section Family

theorem Keeping.of_uses {α : Type} {x : Fw α} (h : x.run.Uses Cmd.Safe) :
    Keeping truthful facts w x fun _ _ => True :=
  (keepsAll_of_uses h).onOk fun _ _ _ h => h

theorem Keeping.with_uses {α : Type} {x : Fw α} {P : α → World → Prop} {J : World → Prop}
    {A : Cmd → Prop} (h : Keeping truthful facts w x P) (hu : x.run.Uses A)
    (hA : ∀ c v r v', A c → J v → Outcome facts c v r v' → J v') (hw : J w) :
    Keeping truthful facts w x fun a v => P a v ∧ J v := by
  have hJ : x.run.Holds (OutcomeIf truthful facts) J (fun _ => J) w :=
    hu.holds (fun c v r v' hc hv hout => hA c v r v' hc hv hout.1) hw
  exact (HoldsFrom.with h hJ.atEnd).onOk fun a v _ hv => hv

variable {j : String × String} {v v' : World} {c : Iptables.Command}

theorem runRestore_render_keeps (hrs : Deployable rs) :
    Keeping truthful facts w (runRestore (render rs family) family)
      fun _ w' => Loaded rs family (w'.tables family) := by
  refine holds_run_call_bind.2 fun o w' hout => ?_
  have hkeep := keepsAll_of_restore (keepingScript_render hrs family) hout.1
  cases o with
  | success =>
    have hrun := hout.1.restore.blocks_of_success (readLines_render hrs.wellFormed family)
    rw [runBlocks_blocks, Option.some.injEq] at hrun
    refine ⟨hkeep, hkeep, fun c hc => ?_⟩
    rw [← hrun]
    exact loaded_chain rs family _ c hc
  | _ => exact ⟨hkeep, hkeep, trivial⟩

theorem loaded_of_ipt {o : Iptables.Output}
    (h : Outcome facts (.ipt family c) v o v') (hc : ∀ d, chainName d ≠ c.chain)
    (hv : Loaded rs family (v.tables family)) : Loaded rs family (v'.tables family) := by
  intro d hd
  rw [h.ipt.eq_of_ne (Or.inr (hc d))]
  exact hv d hd

theorem setupJumps_ready (hw : Loaded rs family (w.tables family)) :
    Keeping truthful facts w (setupJumps family)
      fun _ w' => (∀ j ∈ jumps, Hooked (w'.filter family) j.1 j.2) ∧
        Loaded rs family (w'.tables family) := by
  refine setupJumps_keeps.with_uses uses_setupJumps ?_ hw
  rintro c v r v' ⟨j, hj, op, -, rfl⟩ hv hout
  refine loaded_of_ipt hout (fun c => (?_ : chainName c ≠ j.1)) hv
  rcases mem_jumps.1 hj with rfl | rfl | rfl <;> cases c <;> decide

def MangleHooked (family : AddrFamily) (j : String × String) (w : World) : Prop :=
  Hooked (w.tables family "mangle") j.1 j.2

theorem Outcome.hooked {o : Iptables.Output} {table hook target : String}
    (h : Outcome facts (.ipt family c) v o v')
    (hc : c.table = table → c.chain = hook → c.op.Spares (jump target))
    (hv : Hooked (v.tables family table) hook target) :
    Hooked (v'.tables family table) hook target := by
  obtain ⟨specs, hspecs, hmem⟩ := hv
  by_cases hsame : c.table = table ∧ c.chain = hook
  · obtain ⟨rfl, rfl⟩ := hsame
    cases o with
    | success rules =>
      have hrun := h.ipt.run_of_success
      rw [hspecs] at hrun
      exact Iptables.Operation.exists_mem (hc rfl rfl) hrun hmem
    | _ =>
      rw [h.ipt.eq_of_not_isSuccess rfl]
      exact ⟨specs, hspecs, hmem⟩
  · refine ⟨specs, ?_, hmem⟩
    rw [h.ipt.eq_of_ne (by grind)]
    exact hspecs

theorem setupMangleJumps_hooks :
    (setupMangleJumps family).run.Ends (OutcomeIf truthful facts)
      (OnOk fun _ w' => ∀ j ∈ mangleJumps, MangleHooked family j w') w := by
  refine (holds_run_forM_each (J := fun _ => True) (MangleHooked family) mangleJumps
    (fun j _ w₁ _ => ?_) trivial).onOk fun _ _ h => h.2
  refine holds_run_bind.2 (holds_run_call_bind.2 fun o w₂ hcheck => ⟨trivial, ?_⟩)
  obtain rfl := hcheck.1.eq_of_isQuery trivial
  cases o with
  | spawnFailed e => trivial
  | failed e =>
    refine holds_run_call_bind.2 fun o w₃ hinsert => ⟨trivial, ?_⟩
    cases o with
    | success rules =>
      obtain ⟨specs, -, hspecs⟩ := hinsert.1.ipt.of_insert
      exact ⟨trivial, ⟨_, hspecs, by simp⟩, fun i _ => hinsert.1.hooked fun _ _ => trivial⟩
    | _ => trivial
  | success rules => exact ⟨trivial, hcheck.1.ipt.of_check, fun i _ hi => hi⟩

theorem safe_mangle {c : Cmd} (h : ∃ cmd : Iptables.Command, cmd.table = "mangle" ∧
    c = .ipt family cmd) : c.Safe := by
  obtain ⟨cmd, ht, rfl⟩ := h
  exact Cmd.safe_mangle family ht

theorem setupMangleJumps_ready (hw : Loaded rs family (w.tables family)) :
    Keeping truthful facts w (setupMangleJumps family)
      fun _ w' => (∀ j ∈ mangleJumps, MangleHooked family j w') ∧
        Loaded rs family (w'.tables family) := by
  have hsafe : (setupMangleJumps family).run.Uses Cmd.Safe := uses_setupMangleJumps.mono
    fun c ⟨j, _, op, _, hc⟩ => safe_mangle ⟨_, rfl, hc⟩
  have hkeeps : Keeping truthful facts w (setupMangleJumps family)
      fun _ w' => ∀ j ∈ mangleJumps, MangleHooked family j w' :=
    ((keepsAll_of_uses hsafe).with setupMangleJumps_hooks).imp fun _ _ _ h => h.2
  refine hkeeps.with_uses uses_setupMangleJumps ?_ hw
  rintro c v r v' ⟨j, hj, op, -, rfl⟩ hv hout
  refine loaded_of_ipt hout (fun c => (?_ : chainName c ≠ j.1)) hv
  rcases mem_mangleJumps.1 hj with rfl | rfl <;> cases c <;> decide

theorem cleanupMangle_ready (hm : rs.mangle.isEmpty = true)
    (hw : Loaded rs family (w.tables family)) :
    Keeping truthful facts w (monadLift (cleanupMangle family))
      fun _ w' => Loaded rs family (w'.tables family) := by
  have huses : (monadLift (cleanupMangle family) : Fw Unit).run.Uses fun c =>
      ∃ cmd : Iptables.Command, cmd.table = "mangle" ∧ c = .ipt family cmd :=
    uses_run_lift <| uses_cleanup (fun _ _ => ⟨_, rfl, rfl⟩) (fun _ _ => ⟨_, rfl, rfl⟩)
      fun _ _ => ⟨_, rfl, rfl⟩
  refine ((Keeping.of_uses (huses.mono fun _ => safe_mangle)).with_uses huses ?_ hw).onOk
    fun _ _ _ h => h.2
  rintro c v r v' ⟨cmd, ht, rfl⟩ hv hout d hd
  have hfilter : tableName d = "filter" := hd.resolve_right (by simp [hm])
  rw [hout.ipt.eq_of_ne (Or.inl (by rw [hfilter, ht]; decide))]
  exact hv d hd

variable {chain : String} {o : Iptables.Output}

theorem emptied_of_flush (h : Outcome facts (.ipt family ⟨"mangle", chain, .flush⟩) v o v')
    (ht : Truthful (.ipt family ⟨"mangle", chain, .flush⟩) v o) : Emptied family chain v' := by
  cases o with
  | success rules => exact Or.inr h.ipt.of_flush
  | _ =>
    left
    rw [h.tables_of_not_isSuccess rfl]
    exact ht.absent rfl (.inr rfl)

theorem emptied_of_deleteChain
    (h : Outcome facts (.ipt family ⟨"mangle", chain, .deleteChain⟩) v o v')
    (hv : Emptied family chain v) : Emptied family chain v' := by
  cases o with
  | success rules => exact Or.inl h.ipt.of_deleteChain.1
  | _ =>
    unfold Emptied
    rwa [h.tables_of_not_isSuccess rfl]

theorem emptied_of_ne {i : String} {op : Iptables.Operation}
    (h : Outcome facts (.ipt family ⟨"mangle", chain, op⟩) v o v') (hne : i ≠ chain)
    (hv : Emptied family i v) : Emptied family i v' := by
  unfold Emptied
  rwa [h.ipt.eq_of_ne (Or.inr hne)]

theorem cleanupMangle_empties (ht : truthful) :
    (cleanupMangle family).Ends (OutcomeIf truthful facts)
      (fun _ w' => ∀ j ∈ mangleJumps, Emptied family j.2 w') w := by
  refine holds_bind.2 (ends_true.imp fun _ w₁ _ => ?_)
  refine holds_forM (fun rest v => rest ⊆ mangleJumps ∧
    ∀ i ∈ mangleJumps, i ∈ rest ∨ Emptied family i.2 v) ?_ ?_ mangleJumps ?_
  · rintro j rest v ⟨hsub, hdone⟩
    have hj := hsub List.mem_cons_self
    refine holds_call_bind.2 fun o v₁ hflush => ⟨trivial, ?_⟩
    refine holds_call_bind.2 fun o' v₂ hdelete => ⟨trivial, ?_⟩
    refine ⟨fun i hi => hsub (by simp [hi]), fun i hi => ?_⟩
    by_cases hne : i = j
    · rw [hne]
      exact Or.inr (emptied_of_deleteChain hdelete.1 (emptied_of_flush hflush.1 (hflush.2 ht)))
    · have hchain : i.2 ≠ j.2 := by
        rcases mem_mangleJumps.1 hi with rfl | rfl <;>
          rcases mem_mangleJumps.1 hj with rfl | rfl <;> first | exact absurd rfl hne | decide
      rcases hdone i hi with hmem | hi'
      · exact Or.inl ((List.mem_cons.1 hmem).resolve_left hne)
      · exact Or.inr (emptied_of_ne hdelete.1 hchain (emptied_of_ne hflush.1 hchain hi'))
  · rintro v ⟨-, hdone⟩ j hj
    exact (hdone j hj).resolve_left (by simp)
  · exact ⟨List.Subset.refl _, fun i hi => Or.inl hi⟩

theorem settleMangle_ready (hw : Loaded rs family (w.tables family))
    (hjumps : ∀ j ∈ jumps, Hooked (w.filter family) j.1 j.2) :
    Keeping truthful facts w (settleMangle family (!rs.mangle.isEmpty))
      fun _ w' => Ready truthful rs family (w'.tables family) := by
  cases hm : rs.mangle.isEmpty with
  | false =>
    exact (setupMangleJumps_ready hw).onOk fun _ w' hkeep hr =>
      ⟨hr.2, fun j hj => (hkeep family).hooked hj (hjumps j hj), fun _ => hr.1, by simp [hm]⟩
  | true =>
    have hempties : (monadLift (cleanupMangle family) : Fw Unit).run.Ends
        (OutcomeIf truthful facts)
        (OnOk fun _ w' => truthful → ∀ j ∈ mangleJumps, Emptied family j.2 w') w := by
      refine holds_run_lift.2 ?_
      by_cases ht : truthful
      · exact (cleanupMangle_empties ht).imp fun _ _ h _ => h
      · exact ends_true.imp fun _ _ _ h => absurd h ht
    exact (HoldsFrom.with (cleanupMangle_ready hm hw) hempties).onOk fun _ w' hkeep hr =>
      ⟨hr.1, fun j hj => (hkeep family).hooked hj (hjumps j hj), by simp [hm], fun ht _ => hr.2 ht⟩

theorem ownerFallback_deployable (hrs : Deployable rs) :
    (ownerFallback rs family).Ends (OutcomeIf truthful facts)
      (fun rs' _ => Deployable rs' ∧ rs'.mangle = rs.mangle ∧
        (rs' = rs ∨ rs' = rs.withoutSkuidRules)) w := by
  unfold ownerFallback
  split
  · refine holds_bind.2 (ends_true.imp fun available v _ => ?_)
    cases available with
    | true => exact ⟨hrs, rfl, .inl rfl⟩
    | false => exact ⟨hrs.withoutSkuidRules, hrs.mangle_withoutSkuidRules, .inr rfl⟩
  · exact ⟨hrs, rfl, .inl rfl⟩

theorem connmarkFallback_deployable (hrs : Deployable rs) :
    (connmarkFallback rs family).Ends (OutcomeIf truthful facts)
      (fun rs' _ => Deployable rs' ∧ (rs' = rs ∨ rs' = rs.withoutMangleRules)) w := by
  unfold connmarkFallback
  split
  · refine holds_bind.2 (ends_true.imp fun available v _ => ?_)
    cases available with
    | true => exact ⟨hrs, .inl rfl⟩
    | false => exact ⟨hrs.withoutMangleRules, .inr rfl⟩
  · exact ⟨hrs, .inl rfl⟩

theorem applyFilter_loads (hrs : Deployable rs) :
    Keeping truthful facts w (applyFilter rs family)
      fun script w' => ∃ rs', Deployable rs' ∧ rs'.mangle = rs.mangle ∧
        (rs' = rs ∨ rs' = rs.withoutSkuidRules) ∧
        script = render rs' family ∧ Loaded rs' family (w'.tables family) := by
  have hsafe : (ownerFallback rs family).Uses Cmd.Safe := uses_ownerFallback (.neutral trivial)
  refine ((keepsAll_of_uses hsafe).with (ownerFallback_deployable hrs)).run_lift.run_bind
    fun rs' w₁ _ h₁ => ?_
  refine (runRestore_render_keeps h₁.2.1).run_bind fun _ w₂ _ h₂ => ?_
  exact holdsFrom_ret ⟨rs', h₁.2.1, h₁.2.2.1, h₁.2.2.2, rfl, h₂⟩

theorem applyFamily_live (hrs : Deployable rs) :
    Keeping truthful facts w (applyFamily rs family)
      fun script w' => Live truthful rs script family (w'.tables family) := by
  have hsafe : (connmarkFallback rs family).Uses Cmd.Safe :=
    uses_connmarkFallback fun op => Cmd.safe_mangle family rfl
  refine ((keepsAll_of_uses hsafe).with (connmarkFallback_deployable hrs)).run_lift.run_bind
    fun rs₁ w₁ _ h₁ => ?_
  refine (applyFilter_loads h₁.2.1).run_bind fun script w₂ _ h₂ => ?_
  obtain ⟨rs', hrs', hmangle, hskuid, rfl, hloaded⟩ := h₂
  have hmem : rs' ∈ fallbacks rs := by
    rcases h₁.2.2 with rfl | rfl <;> rcases hskuid with rfl | rfl <;> simp [fallbacks]
  rw [← hmangle]
  refine (setupJumps_ready hloaded).run_bind fun _ w₃ _ h₃ => ?_
  refine (settleMangle_ready h₃.2 h₃.1).run_bind fun _ w₄ _ h₄ => ?_
  exact holdsFrom_ret ⟨rs', hrs', hmem, rfl, h₄⟩

theorem hasMangleTable_render (family : AddrFamily) (hrs : Deployable rs) :
    hasMangleTable (render rs family) = !rs.mangle.isEmpty := by
  have hlines := lines_unlines (isLine_of_forall₂ (reads_render hrs.wellFormed family))
  rw [← render_eq_unlines] at hlines
  have hfilter : "*mangle" ∉ blockTexts "filter" (filterChains rs) family := fun hmem =>
    absurd (Iptables.eq_of_mem_blockText hmem (by decide)) (by decide)
  have hiff : hasMangleTable (render rs family) = true ↔ "*mangle" ∈ lines (render rs family) := by
    simp [hasMangleTable]
  rw [Bool.eq_iff_iff, hiff, hlines]
  cases hm : rs.mangle.isEmpty with
  | true =>
    simp only [Bool.not_true, Bool.false_eq_true, if_false, List.nil_append, List.mem_append,
      hfilter, false_or, iff_false]
    decide
  | false =>
    have hmem : "*mangle" ∈ blockTexts "mangle" (mangleChains rs) family :=
      List.mem_cons_self
    simp only [Bool.not_false, if_true, List.mem_append, hmem, true_or]

theorem activateFamilyScript_live (hrs : Deployable rs) (hmem : rs ∈ fallbacks target) :
    Keeping truthful facts w (activateFamilyScript (render rs family) family)
      fun _ w' => Live truthful target (render rs family) family (w'.tables family) := by
  refine (runRestore_render_keeps hrs).run_bind fun _ w₁ _ h₁ => ?_
  refine (setupJumps_ready h₁).run_bind fun _ w₂ _ h₂ => ?_
  rw [hasMangleTable_render _ hrs]
  exact (settleMangle_ready h₂.2 h₂.1).onOk fun _ w₃ _ h₃ => ⟨rs, hrs, hmem, rfl, h₃⟩

theorem jumpsPresent_keeps :
    (jumpsPresent family).HoldsFrom (OutcomeIf truthful facts) KeepsAll (fun _ w' => w' = w) w := by
  have huses : (jumpsPresent family).Uses fun c => ∃ cmd : Iptables.Command,
      cmd.op.IsQuery ∧ c = .ipt family cmd :=
    uses_jumpsPresent fun j _ => ⟨⟨"filter", j.1, .check (jump j.2)⟩, trivial, rfl⟩
  have heq : (jumpsPresent family).Holds (OutcomeIf truthful facts) (· = w)
      (fun _ v => v = w) w := by
    refine huses.holds ?_ rfl
    rintro c v r v' ⟨cmd, hq, rfl⟩ rfl hout
    exact hout.1.eq_of_isQuery hq
  exact heq.mono (fun v hv => hv ▸ refl_of KeepsAll w) fun _ v hv => ⟨hv ▸ refl_of KeepsAll w, hv⟩

theorem reactivate_keeps (hrs : Deployable rs) (hmem : rs ∈ fallbacks target) :
    Keeping truthful facts w (reactivate (render rs family) family)
      fun _ w' => w' = w ∨ Live truthful target (render rs family) family (w'.tables family) := by
  refine jumpsPresent_keeps.run_lift.run_bind fun present w₁ _ h₁ => ?_
  subst h₁
  cases present with
  | true => exact holdsFrom_ret (Or.inl rfl)
  | false =>
    exact (activateFamilyScript_live hrs hmem).onOk fun _ w₂ _ hlive => Or.inr hlive

theorem safe_guardFamilies {withV6 : Bool} : (guardFamilies withV6).run.Uses Cmd.Safe := by
  refine uses_run_forM fun family _ => ?_
  by_cases hf : (family = .v6 && !withV6) = true
  · rw [if_pos hf]
    trivial
  · rw [if_neg hf]
    refine uses_run_bind (uses_run_lift (uses_jumpsPresent fun _ _ => .neutral (Or.inr trivial)))
      fun present => ?_
    cases present with
    | true => trivial
    | false => exact uses_runRestore (.restore (keepingScript_emergency family .transition))

/-! ## Lifting the block -/

theorem emergencyJump_ne (hj : j ∈ emergencyJumps) (c : ChainId) :
    chainName c ≠ j.1 ∧ chainName c ≠ j.2 := by
  rcases mem_emergencyJumps.1 hj with rfl | rfl <;> cases c <;> decide

theorem Ready.of_lifts {c : Cmd} {r : Resp c} (hj : j ∈ emergencyJumps) (hc : c.Lifts family j)
    (hout : Outcome facts c v r v') (h : Ready truthful rs family (v.tables family)) :
    Ready truthful rs family (v'.tables family) := by
  obtain ⟨cmd, ht, hchain, rfl⟩ := hc.exists_ipt
  have hmangle : v'.tables family "mangle" = v.tables family "mangle" :=
    hout.ipt.eq_of_ne_table (by rw [ht]; decide)
  refine ⟨loaded_of_ipt hout (fun d => ?_) h.loaded, fun i hi => ?_, ?_, ?_⟩
  · rcases hchain with heq | heq <;> rw [heq]
    · exact (emergencyJump_ne hj d).1
    · exact (emergencyJump_ne hj d).2
  · obtain ⟨hjump, hhook⟩ : jump i.2 ≠ jump j.2 ∧ i.1 ≠ j.2 := by
      rcases mem_jumps.1 hi with rfl | rfl | rfl <;>
        rcases mem_emergencyJumps.1 hj with rfl | rfl <;> decide
    refine hout.hooked (fun _ hchain => ?_) (h.hooked i hi)
    cases hc with
    | check | list => trivial
    | delete => exact hjump.symm
    | flush | deleteChain => exact absurd hchain.symm hhook
  · rw [hmangle]
    exact h.mangle
  · rw [hmangle]
    exact h.tidy

end Family

/-! ## What is left alone -/

def Local (family : AddrFamily) (w w' : World) : Prop :=
  (∀ f, w'.files f = w.files f) ∧ ∀ f, f ≠ family → w'.tables f = w.tables f

instance (family : AddrFamily) : Std.Refl (Local family) :=
  ⟨fun _ => ⟨fun _ => rfl, fun _ _ => rfl⟩⟩

instance (family : AddrFamily) : IsTrans World (Local family) :=
  ⟨fun _ _ _ h h' => ⟨fun f => (h'.1 f).trans (h.1 f), fun f hf => (h'.2 f hf).trans (h.2 f hf)⟩⟩

def OnlyFile (f : StateFile) (w w' : World) : Prop :=
  w'.tables = w.tables ∧ ∀ g, g ≠ f → w'.files g = w.files g

section Frame

variable {w' : World} {α : Type}

theorem local_of_uses {p : Sys α} (h : p.Uses (Cmd.Within family)) :
    p.HoldsFrom (OutcomeIf truthful facts) (Local family) (fun _ _ => True) w :=
  h.holdsFrom fun _ _ _ _ hc hout =>
    ⟨fun f => hout.1.files_eq (hc.1 f), fun f hf => hout.1.tables_eq (hc.2 f hf)⟩

theorem Keeping.local {x : Fw α} {P : α → World → Prop}
    (h : Keeping truthful facts w x P) (hu : x.run.Uses (Cmd.Within family)) :
    Keeping truthful facts w x fun a v => P a v ∧ Local family w v :=
  (HoldsFrom.with h (local_of_uses hu).atEnd).onOk fun _ _ _ hv => ⟨hv.1, hv.2.1⟩

theorem Outcome.onlyFile {c : Cmd} {r : Resp c} (h : Outcome facts c w r w') {f : StateFile}
    (hf : c.file? = some f) (hc : c.family? = none) : OnlyFile f w w' :=
  ⟨funext fun family => h.tables_eq (by simp [hc]),
    fun g hg => h.files_eq (by simpa [hf] using Ne.symm hg)⟩

theorem writeStateFile_keeps (f : StateFile) (contents : String) :
    Keeping truthful facts w (writeStateFile f contents)
      fun _ w' => OnlyFile f w w' ∧ w'.files f = some contents := by
  refine holds_run_call_bind.2 fun (r : Except String Unit) w' hout => ?_
  have honly : OnlyFile f w w' := hout.1.onlyFile rfl rfl
  have hkeep := keepsAll_of_tables honly.1
  cases r with
  | error e => exact ⟨hkeep, hkeep, trivial⟩
  | ok u =>
    have hw' : w' = w.setFile f (some contents) := hout.1
    exact ⟨hkeep, hkeep, honly, by simp [hw', World.setFile]⟩

theorem removeStateFile_keeps (f : StateFile) :
    Keeping truthful facts w (removeStateFile f)
      fun _ w' => OnlyFile f w w' ∧ w'.files f = none := by
  refine holds_run_call_bind.2 fun (r : Except RemoveError Unit) w' hout => ?_
  have honly : OnlyFile f w w' := hout.1.onlyFile rfl rfl
  have hkeep := keepsAll_of_tables honly.1
  rcases r with (_ | e) | u
  · obtain ⟨hnone, rfl⟩ : w.files f = none ∧ w' = w := hout.1
    exact ⟨hkeep, hkeep, honly, hnone⟩
  · exact ⟨hkeep, hkeep, trivial⟩
  · have hw' : w' = w.setFile f none := hout.1
    exact ⟨hkeep, hkeep, honly, by simp [hw', World.setFile]⟩

theorem resolveIpv6_keeps :
    Keeping truthful facts w resolveIpv6
      fun withV6 _ => withV6 = false → facts.enabled .v6 = false := by
  have hkeep {v v' : World} (h : v' = v) : KeepsAll v v' := h ▸ refl_of KeepsAll v
  have hstatus : ipv6Status.HoldsFrom (OutcomeIf truthful facts) KeepsAll
      (fun status _ => status = .disabled → facts.enabled .v6 = false) w := by
    refine holds_call_bind.2 fun (dir : Bool) w₁ h₁ => ?_
    obtain ⟨hdir, rfl⟩ : dir = facts.ipv6Dir ∧ w₁ = w := h₁.1
    refine ⟨hkeep rfl, ?_⟩
    cases dir with
    | false => exact ⟨hkeep rfl, fun _ => by simp [Facts.enabled, ← hdir]⟩
    | true =>
      refine holds_call_bind.2 fun (content : Option String) w₂ h₂ => ?_
      obtain ⟨hcontent, rfl⟩ : (content.map trim = some "1" → facts.ipv6Disabled = true) ∧
        w₂ = w₁ := h₂.1
      refine ⟨hkeep rfl, ?_⟩
      by_cases hone : content.map trim = some "1"
      · rw [if_pos hone]
        exact ⟨hkeep rfl, fun _ => by simp [Facts.enabled, hcontent hone]⟩
      · rw [if_neg hone]
        refine holds_call_bind.2 fun (usable : Bool) w₃ h₃ => ?_
        obtain rfl : w₃ = w₂ := h₃.1
        cases usable <;> exact ⟨hkeep rfl, hkeep rfl, by simp⟩
  refine hstatus.run_lift.run_bind fun status w' _ h => ?_
  cases status with
  | enabled => exact holdsFrom_ret (by simp)
  | disabled => exact holdsFrom_ret fun _ => h rfl
  | unusable => exact holdsFrom_ret trivial

end Frame

end Fw3

end NymFirewall
