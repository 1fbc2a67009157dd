import NymVpn.Firewall.Fw3

/-!
# The commands of the fw3 backend

Which commands each function issues, whatever the answers.
-/

namespace NymFirewall

open Net Netfilter Text Program

namespace Fw3

open RenderIptables BootRules Prog

def Cmd.On (family : AddrFamily) (table chain : String) (P : Iptables.Operation → Prop)
    (c : Cmd) : Prop :=
  ∃ op, P op ∧ c = .ipt family ⟨table, chain, op⟩

variable {j : String × String} {table chain hook target : String} {rs : RuleSet}

theorem mem_jumps : j ∈ jumps ↔ j = (fw3HookInput, chainInput) ∨
    j = (fw3HookOutput, chainOutput) ∨ j = (fw3HookForward, chainForward) := by
  simp [jumps]

theorem mem_mangleJumps : j ∈ mangleJumps ↔
    j = ("PREROUTING", chainManglePrerouting) ∨ j = ("OUTPUT", chainMangleOutput) := by
  simp [mangleJumps]

theorem mem_emergencyJumps : j ∈ emergencyJumps ↔
    j = (fw3HookOutput, emergencyOutputChain) ∨ j = (fw3HookForward, emergencyForwardChain) := by
  simp [emergencyJumps]

variable {family : AddrFamily} {A : Cmd → Prop} {op : Iptables.Operation} {script : String}
  {fuel : ℕ}

theorem uses_ipt (h : A (.ipt family ⟨table, chain, op⟩)) : (ipt family table chain op).Uses A :=
  uses_call h

theorem uses_attempt {α : Type} {x : Fw α} (h : x.run.Uses A) : (attempt x).run.Uses A :=
  uses_run_lift h

theorem uses_runIpt (h : A (.ipt family ⟨"filter", chain, op⟩)) :
    (runIpt family chain op).run.Uses A := by
  refine uses_run_call_bind h fun o => ?_
  cases o <;> trivial

theorem uses_runRestore (h : A (.restore family script)) :
    (runRestore script family).run.Uses A := by
  refine uses_run_call_bind h fun o => ?_
  cases o <;> trivial

/-! ## State files -/

theorem uses_ensureRuntimeDir (h : A .runtimeDir) : ensureRuntimeDir.run.Uses A := by
  refine uses_run_call_bind h fun r => ?_
  rcases r with _ | _ <;> trivial

theorem uses_lockFw3State (h : A .lockState) : lockFw3State.run.Uses A := by
  refine uses_run_call_bind h fun r => ?_
  rcases r with _ | _ <;> trivial

theorem uses_writeStateFile {f : StateFile} {contents : String} (h : A (.writeFile f contents)) :
    (writeStateFile f contents).run.Uses A := by
  refine uses_run_call_bind h fun r => ?_
  rcases r with _ | _ <;> trivial

theorem uses_beginTransition (h : ∀ contents, A (.writeFile .transition contents)) :
    beginTransition.run.Uses A := by
  refine uses_run_bind (uses_attempt (uses_writeStateFile (h _))) fun r => ?_
  rcases r with _ | _ <;> trivial

/-! ## Jumps -/

theorem uses_jumpsPresent (h : ∀ j ∈ jumps, A (.ipt family ⟨"filter", j.1, .check (jump j.2)⟩)) :
    (jumpsPresent family).Uses A :=
  uses_allM fun j hj => uses_bind (uses_ipt (h j hj)) fun _ => trivial

theorem uses_listHookRules (h : A (.ipt family ⟨"filter", hook, .listRules⟩)) :
    (listHookRules family hook).run.Uses A := by
  refine uses_run_call_bind h fun o => ?_
  cases o <;> trivial

def IsJumpOp (target : String) (op : Iptables.Operation) : Prop :=
  op = .listRules ∨ op = .insert (jump target) ∨ ∃ n, op = .deleteNth n

theorem uses_placeJump :
    (placeJump family hook (jump target)).run.Uses
      (Cmd.On family "filter" hook (IsJumpOp target)) := by
  have hlist : Cmd.On family "filter" hook (IsJumpOp target)
      (.ipt family ⟨"filter", hook, .listRules⟩) := ⟨_, Or.inl rfl, rfl⟩
  refine uses_run_bind (uses_listHookRules hlist) fun rules => ?_
  by_cases hok : jumpPositionOk rules (jump target) = true
  · simp only [hok, if_true]
    trivial
  · simp only [hok]
    exact uses_run_bind (uses_runIpt ⟨_, Or.inr (Or.inl rfl), rfl⟩) fun _ =>
      uses_listHookRules hlist

theorem uses_deleteDuplicates {spec : Iptables.Spec} {rules : List (Iptables.Spec × ℕ)} :
    (deleteDuplicates family hook spec rules).run.Uses
      (Cmd.On family "filter" hook (IsJumpOp target)) := by
  refine uses_run_forM fun r _ => ?_
  by_cases hr : r.1 = spec
  · simp only [hr, if_true]
    exact uses_runIpt ⟨_, Or.inr (Or.inr ⟨_, rfl⟩), rfl⟩
  · simp only [hr, if_false]
    trivial

theorem uses_setupJumps :
    (setupJumps family).run.Uses fun c =>
      ∃ j ∈ jumps, c.On family "filter" j.1 (IsJumpOp j.2) :=
  uses_run_forM fun j hj =>
    (uses_run_bind uses_placeJump fun _ => uses_deleteDuplicates).mono fun _ hc => ⟨j, hj, hc⟩

theorem uses_jumpPresent (h : A (.ipt family ⟨table, hook, .check (jump target)⟩)) :
    (jumpPresent family table hook target).run.Uses A := by
  refine uses_run_call_bind h fun o => ?_
  cases o <;> trivial

def IsMangleJumpOp (target : String) (op : Iptables.Operation) : Prop :=
  op = .check (jump target) ∨ op = .insert (jump target)

theorem uses_setupMangleJumps :
    (setupMangleJumps family).run.Uses fun c =>
      ∃ j ∈ mangleJumps, c.On family "mangle" j.1 (IsMangleJumpOp j.2) := by
  refine uses_run_forM fun j hj => ?_
  refine uses_run_bind (uses_jumpPresent ⟨j, hj, _, Or.inl rfl, rfl⟩) fun present => ?_
  cases present with
  | true => trivial
  | false =>
    refine uses_run_call_bind ⟨j, hj, _, Or.inr rfl, rfl⟩ fun o => ?_
    cases o <;> trivial

theorem uses_cleanup {js : List (String × String)}
    (hjump : ∀ j ∈ js, A (.ipt family ⟨table, j.1, .delete (jump j.2)⟩))
    (hflush : ∀ j ∈ js, A (.ipt family ⟨table, j.2, .flush⟩))
    (hdelete : ∀ j ∈ js, A (.ipt family ⟨table, j.2, .deleteChain⟩)) :
    (cleanup family table js).Uses A := by
  refine uses_bind (uses_forM fun j hj => uses_discard (uses_ipt (hjump j hj))) fun _ => ?_
  exact uses_forM fun j hj => uses_bind (uses_discard (uses_ipt (hflush j hj))) fun _ =>
    uses_discard (uses_ipt (hdelete j hj))

/-! ## The emergency block -/

theorem uses_chainExists (h : A (.ipt family ⟨"filter", chain, .listChain⟩)) :
    (chainExists family chain).run.Uses A := by
  refine uses_run_call_bind h fun o => ?_
  cases o <;> trivial

theorem uses_deleteJumps (h : A (.ipt family ⟨"filter", hook, .delete (jump chain)⟩)) (fuel : ℕ) :
    (deleteJumps family hook chain fuel).run.Uses A := by
  induction fuel with
  | zero => trivial
  | succ fuel ih =>
    refine uses_run_call_bind h fun o => ?_
    cases o with
    | success rules => exact ih
    | _ => trivial

theorem uses_dropChain {ops : List Iptables.Operation}
    (hops : ∀ op ∈ ops, A (.ipt family ⟨"filter", chain, op⟩))
    (hlist : A (.ipt family ⟨"filter", chain, .listChain⟩)) :
    (dropChain family chain ops).run.Uses A := by
  induction ops with
  | nil => trivial
  | cons op ops ih =>
    refine uses_run_bind (uses_attempt (uses_runIpt (hops op (by simp)))) fun r => ?_
    cases r with
    | ok u => exact ih fun op hop => hops op (by simp [hop])
    | error e =>
      refine uses_run_bind (uses_chainExists hlist) fun present => ?_
      cases present <;> trivial

/-- What lifting the block does to a hook and to an emergency chain. -/
inductive Cmd.Lifts (family : AddrFamily) (j : String × String) : Cmd → Prop where
  | delete : Lifts family j (.ipt family ⟨"filter", j.1, .delete (jump j.2)⟩)
  | check : Lifts family j (.ipt family ⟨"filter", j.1, .check (jump j.2)⟩)
  | list : Lifts family j (.ipt family ⟨"filter", j.2, .listChain⟩)
  | flush : Lifts family j (.ipt family ⟨"filter", j.2, .flush⟩)
  | deleteChain : Lifts family j (.ipt family ⟨"filter", j.2, .deleteChain⟩)

theorem uses_removeEmergencyChain :
    (removeEmergencyChain fuel family j.1 j.2).run.Uses (Cmd.Lifts family j) := by
  refine uses_run_bind (uses_chainExists .list) fun present => ?_
  cases present with
  | false => trivial
  | true =>
    refine uses_run_bind (uses_deleteJumps .delete fuel) fun _ => ?_
    refine uses_run_bind (uses_jumpPresent .check) fun present => ?_
    cases present with
    | true => trivial
    | false =>
      refine uses_dropChain (fun op hop => ?_) .list
      simp only [List.mem_cons, List.not_mem_nil, or_false] at hop
      rcases hop with rfl | rfl
      · exact .flush
      · exact .deleteChain

theorem uses_removeEmergencyBlock :
    (removeEmergencyBlock fuel family).run.Uses fun c => ∃ j ∈ emergencyJumps, c.Lifts family j :=
  uses_run_forM fun j hj => uses_removeEmergencyChain.mono fun _ hc => ⟨j, hj, hc⟩

/-! ## Applying a policy -/

theorem uses_connmarkFallback (h : ∀ op, A (.ipt family ⟨"mangle", connmarkProbe, op⟩)) :
    (connmarkFallback rs family).Uses A := by
  have hprobe : (connmarkTargetAvailable family).Uses A :=
    uses_bind (uses_discard (uses_ipt (h _))) fun _ => uses_bind (uses_ipt (h _)) fun _ =>
      uses_bind (uses_discard (uses_ipt (h _))) fun _ =>
        uses_bind (uses_discard (uses_ipt (h _))) fun _ => trivial
  unfold connmarkFallback
  split
  · refine uses_bind hprobe fun r => ?_
    cases r <;> trivial
  · trivial

theorem uses_ownerFallback (h : A (.ownerHelp family)) : (ownerFallback rs family).Uses A := by
  have hprobe : (ownerMatchAvailable family).Uses A := uses_call h
  unfold ownerFallback
  split
  · refine uses_bind hprobe fun r => ?_
    cases r <;> trivial
  · trivial

theorem uses_applyFilter (howner : A (.ownerHelp family))
    (hrestore : ∀ script, A (.restore family script)) : (applyFilter rs family).run.Uses A :=
  uses_run_bind (uses_run_lift (uses_ownerFallback howner)) fun _ =>
    uses_run_bind (uses_runRestore (hrestore _)) fun _ => trivial

theorem uses_settleMangle {hasMangle : Bool}
    (h : ∀ chain op, A (.ipt family ⟨"mangle", chain, op⟩)) :
    (settleMangle family hasMangle).run.Uses A := by
  cases hasMangle with
  | true =>
    refine uses_setupMangleJumps.mono fun c hc => ?_
    obtain ⟨j, -, op, -, rfl⟩ := hc
    exact h _ _
  | false =>
    exact uses_run_lift (uses_cleanup (fun _ _ => h _ _) (fun _ _ => h _ _) fun _ _ => h _ _)

def Cmd.Within (family : AddrFamily) (c : Cmd) : Prop :=
  (∀ f, c.file? ≠ some f) ∧ ∀ f, f ≠ family → c.family? ≠ some f

theorem within_ipt (c : Iptables.Command) : (Cmd.ipt family c).Within family :=
  ⟨fun _ => by simp [Cmd.file?], fun f hf => by simpa [Cmd.family?] using Ne.symm hf⟩

theorem within_restore (script : String) : (Cmd.restore family script).Within family :=
  ⟨fun _ => by simp [Cmd.file?], fun f hf => by simpa [Cmd.family?] using Ne.symm hf⟩

theorem within_setupJumps : (setupJumps family).run.Uses (Cmd.Within family) :=
  uses_setupJumps.mono fun c hc => by
    obtain ⟨j, -, op, -, rfl⟩ := hc
    exact within_ipt _

theorem within_applyFamily : (applyFamily rs family).run.Uses (Cmd.Within family) := by
  have howner : (Cmd.ownerHelp family).Within family :=
    ⟨fun _ => by simp [Cmd.file?], fun _ _ => by simp [Cmd.family?]⟩
  refine uses_run_bind (uses_run_lift (uses_connmarkFallback fun _ => within_ipt _)) fun _ => ?_
  refine uses_run_bind (uses_applyFilter howner fun _ => within_restore _) fun _ => ?_
  refine uses_run_bind within_setupJumps fun _ => ?_
  exact uses_run_bind (uses_settleMangle fun _ _ => within_ipt _) fun _ => trivial

theorem within_reactivate : (reactivate script family).run.Uses (Cmd.Within family) := by
  refine uses_run_bind (uses_run_lift (uses_jumpsPresent fun _ _ => within_ipt _)) fun present => ?_
  cases present with
  | true => trivial
  | false =>
    refine uses_run_bind (uses_runRestore (within_restore _)) fun _ => ?_
    exact uses_run_bind within_setupJumps fun _ => uses_settleMangle fun _ _ => within_ipt _

theorem Cmd.Lifts.exists_ipt {c : Cmd} (h : c.Lifts family j) :
    ∃ cmd : Iptables.Command, cmd.table = "filter" ∧ (cmd.chain = j.1 ∨ cmd.chain = j.2) ∧
      c = .ipt family cmd := by
  cases h with
  | delete | check => exact ⟨_, rfl, Or.inl rfl, rfl⟩
  | list | flush | deleteChain => exact ⟨_, rfl, Or.inr rfl, rfl⟩

theorem within_removeEmergencyBlock (fuel : ℕ) (family : AddrFamily) :
    (removeEmergencyBlock fuel family).run.Uses (Cmd.Within family) :=
  uses_removeEmergencyBlock.mono fun c hc => by
    obtain ⟨j, -, hc⟩ := hc
    obtain ⟨cmd, -, -, rfl⟩ := hc.exists_ipt
    exact within_ipt _

end Fw3

end NymFirewall
