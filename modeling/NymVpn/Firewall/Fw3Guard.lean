import NymVpn.Firewall.FaithfulIptables
import NymVpn.Firewall.Fw3Footprint

/-!
# The fw3 backend never opens the router

A hook is guarded when it jumps to a chain of ours that ends in a reject, or to an emergency
chain that ends in a drop. Every command of a policy change keeps this, up to the removal of
the emergency block; by then the policy itself guards.
-/

namespace NymFirewall

open Net Netfilter Text Program

namespace Fw3

open RenderIptables BootRules Prog

def World.filter (w : World) (family : AddrFamily) : Iptables.Chains := w.tables family "filter"

def Hooked (t : Iptables.Chains) (hook chain : String) : Prop :=
  ∃ specs ∈ t hook, jump chain ∈ specs

def EndsIn (P : Iptables.Spec → Prop) (t : Iptables.Chains) (chain : String) : Prop :=
  ∃ specs ∈ t chain, ∃ spec ∈ specs.getLast?, P spec

def IsReject (spec : Iptables.Spec) : Prop := ∃ kind, spec = ["-j", "REJECT", "--reject-with", kind]

def IsDrop (spec : Iptables.Spec) : Prop := spec = dropAll

/-- A hook that must not be open, and the two chains that can guard it. -/
structure Guard where
  hook : String
  nym : String
  emergency : String

def guards : List Guard :=
  [⟨fw3HookOutput, chainOutput, emergencyOutputChain⟩,
    ⟨fw3HookForward, chainForward, emergencyForwardChain⟩]

variable {g : Guard} {t t' : Iptables.Chains} {j : String × String} {rs : RuleSet} {α : Type*}
  {chain : String}

theorem mem_guards : g ∈ guards ↔
    g = ⟨fw3HookOutput, chainOutput, emergencyOutputChain⟩ ∨
      g = ⟨fw3HookForward, chainForward, emergencyForwardChain⟩ := by
  simp [guards]

def Guard.ByPolicy (g : Guard) (t : Iptables.Chains) : Prop :=
  Hooked t g.hook g.nym ∧ EndsIn IsReject t g.nym

def Guard.ByEmergency (g : Guard) (t : Iptables.Chains) : Prop :=
  Hooked t g.hook g.emergency ∧ EndsIn IsDrop t g.emergency

def Guarded (t : Iptables.Chains) : Prop := ∀ g ∈ guards, g.ByPolicy t ∨ g.ByEmergency t

def Enforced (t : Iptables.Chains) : Prop := ∀ g ∈ guards, g.ByPolicy t

/-! ## Keeping the guards -/

/-- The hook jumps to an emergency chain that is not there. -/
def Guard.Dangling (g : Guard) (t : Iptables.Chains) : Prop :=
  t g.emergency = none ∧ Hooked t g.hook g.emergency

/-- Hooks lose no rule, chains that end in a reject or a drop still do, and no
emergency jump is left without its chain. -/
structure Keeps (t t' : Iptables.Chains) : Prop where
  hook : ∀ j ∈ jumps, ∀ specs ∈ t j.1, ∃ specs' ∈ t' j.1, specs ⊆ specs'
  nym : ∀ g ∈ guards, EndsIn IsReject t g.nym → EndsIn IsReject t' g.nym
  emergency : ∀ g ∈ guards, EndsIn IsDrop t g.emergency → EndsIn IsDrop t' g.emergency
  dangling : ∀ g ∈ guards, g.Dangling t' → g.Dangling t

theorem Keeps.refl (t : Iptables.Chains) : Keeps t t :=
  ⟨fun _ _ specs h => ⟨specs, h, List.Subset.refl _⟩, fun _ _ h => h, fun _ _ h => h,
    fun _ _ h => h⟩

theorem Keeps.trans {t₁ t₂ t₃ : Iptables.Chains} (h : Keeps t₁ t₂) (h' : Keeps t₂ t₃) :
    Keeps t₁ t₃ := by
  constructor
  · intro j hj specs hspecs
    obtain ⟨specs₂, hspecs₂, hsub⟩ := h.hook j hj specs hspecs
    obtain ⟨specs₃, hspecs₃, hsub'⟩ := h'.hook j hj specs₂ hspecs₂
    exact ⟨specs₃, hspecs₃, List.Subset.trans hsub hsub'⟩
  · exact fun g hg hends => h'.nym g hg (h.nym g hg hends)
  · exact fun g hg hends => h'.emergency g hg (h.emergency g hg hends)
  · exact fun g hg hd => h.dangling g hg (h'.dangling g hg hd)

theorem Keeps.hooked (h : Keeps t t') (hj : j ∈ jumps)
    (hooked : Hooked t j.1 chain) : Hooked t' j.1 chain := by
  obtain ⟨specs, hspecs, hmem⟩ := hooked
  obtain ⟨specs', hspecs', hsub⟩ := h.hook j hj specs hspecs
  exact ⟨specs', hspecs', hsub hmem⟩

theorem mem_jumps_of_mem_guards (hg : g ∈ guards) : (g.hook, g.nym) ∈ jumps := by
  rcases mem_guards.1 hg with rfl | rfl <;> simp [jumps]

theorem Keeps.guarded (h : Keeps t t') (hg : Guarded t) : Guarded t' := by
  intro g hmem
  rcases hg g hmem with hp | he
  · exact Or.inl ⟨h.hooked (mem_jumps_of_mem_guards hmem) hp.1, h.nym g hmem hp.2⟩
  · exact Or.inr ⟨h.hooked (mem_jumps_of_mem_guards hmem) he.1, h.emergency g hmem he.2⟩

theorem hook_ne (hj : j ∈ jumps) (hg : g ∈ guards) : g.nym ≠ j.1 ∧ g.emergency ≠ j.1 := by
  rcases mem_guards.1 hg with rfl | rfl <;> rcases mem_jumps.1 hj with rfl | rfl | rfl <;> decide

theorem EndsIn.congr {P : Iptables.Spec → Prop} (h : t' chain = t chain) :
    EndsIn P t chain → EndsIn P t' chain := by
  unfold EndsIn
  rw [h]
  exact id

theorem Guard.Dangling.congr (hchain : t' g.emergency = t g.emergency)
    (hhook : t' g.hook = t g.hook) : g.Dangling t' → g.Dangling t := by
  unfold Guard.Dangling Hooked
  rw [hchain, hhook]
  exact id

theorem keeps_of_hook (hj : j ∈ jumps) (hother : ∀ c, c ≠ j.1 → t' c = t c)
    (hhook : ∀ specs ∈ t j.1, ∃ specs' ∈ t' j.1, specs ⊆ specs')
    (hnew : ∀ g ∈ guards, Hooked t' j.1 g.emergency → Hooked t j.1 g.emergency) : Keeps t t' := by
  constructor
  · intro i hi specs hspecs
    by_cases heq : i.1 = j.1
    · rw [heq] at hspecs ⊢
      exact hhook specs hspecs
    · rw [hother _ heq]
      exact ⟨specs, hspecs, List.Subset.refl _⟩
  · exact fun g hg => EndsIn.congr (hother _ (hook_ne hj hg).1)
  · exact fun g hg => EndsIn.congr (hother _ (hook_ne hj hg).2)
  · intro g hg hd
    obtain ⟨hnone, hooked⟩ := hd
    rw [hother _ (hook_ne hj hg).2] at hnone
    refine ⟨hnone, ?_⟩
    by_cases heq : g.hook = j.1
    · rw [heq] at hooked ⊢
      exact hnew g hg hooked
    · unfold Hooked at hooked ⊢
      rwa [hother _ heq] at hooked

def KeepsAll (w w' : World) : Prop := ∀ family, Keeps (w.filter family) (w'.filter family)

instance : Std.Refl KeepsAll := ⟨fun w family => .refl (w.filter family)⟩

instance : IsTrans World KeepsAll :=
  ⟨fun _ _ _ h h' family => (h family).trans (h' family)⟩

/-! ## Commands that keep the guards -/

section Commands

variable {facts : Facts} {w w' : World}

def Cmd.Neutral : Cmd → Prop
  | .ipt _ c => c.table ≠ "filter" ∨ c.op.IsQuery
  | .restore _ _ => False
  | _ => True

theorem Cmd.Neutral.filter_eq {c : Cmd} (hc : c.Neutral) {r : Resp c}
    (h : Outcome facts c w r w') (family : AddrFamily) : w'.filter family = w.filter family := by
  by_cases hf : c.family? = some family
  · cases c with
    | ipt f c =>
      obtain rfl : f = family := Option.some.inj hf
      rcases hc with ht | hq
      · exact h.ipt.eq_of_ne_table (Ne.symm ht)
      · exact congrFun (h.ipt.eq_of_isQuery hq) "filter"
    | restore f script => exact absurd hc id
    | _ => exact absurd hf (by simp [Cmd.family?])
  · exact congrFun (h.tables_eq hf) "filter"

variable {family : AddrFamily} {o : Iptables.Output} {op : Iptables.Operation}
  {c : Iptables.Command}

theorem Outcome.filter_eq_of_ne {chain : String}
    (h : Outcome facts (.ipt family ⟨"filter", chain, op⟩) w o w') {c : String} (hc : c ≠ chain) :
    w'.filter family c = w.filter family c :=
  h.ipt.eq_of_ne (Or.inr hc)

theorem keepsAll_of_family (family : AddrFamily) (hother : ∀ f, f ≠ family →
    w'.tables f = w.tables f) (h : Keeps (w.filter family) (w'.filter family)) :
    KeepsAll w w' := by
  intro f
  by_cases hf : f = family
  · rw [hf]
    exact h
  · rw [World.filter, World.filter, hother f hf]
    exact .refl _

theorem keepsAll_of_tables (h : w'.tables = w.tables) : KeepsAll w w' := by
  intro family
  rw [World.filter, World.filter, h]
  exact .refl _

theorem Outcome.tables_of_not_isSuccess (h : Outcome facts (.ipt family c) w o w')
    (ho : o.isSuccess = false) : w'.tables = w.tables := by
  obtain ⟨T, hT, rfl⟩ := h
  rw [hT.eq_of_not_isSuccess ho, World.setTables, Function.update_eq_self]

theorem keepsAll_of_hook (hj : j ∈ jumps)
    (h : Outcome facts (.ipt family ⟨"filter", j.1, op⟩) w o w') {specs specs' : List Iptables.Spec}
    (hspecs : w.filter family j.1 = some specs) (hspecs' : w'.filter family j.1 = some specs')
    (hsub : specs ⊆ specs')
    (hnew : ∀ g ∈ guards, jump g.emergency ∈ specs' → jump g.emergency ∈ specs) :
    KeepsAll w w' := by
  refine keepsAll_of_family family (fun f hf => h.tables_eq ?_)
    (keeps_of_hook hj (fun c hc => h.filter_eq_of_ne hc) ?_ ?_)
  · simpa [Cmd.family?] using Ne.symm hf
  · intro L hL
    obtain rfl : specs = L := Option.some.inj (hspecs.symm.trans hL)
    exact ⟨specs', hspecs', hsub⟩
  · rintro g hg ⟨L, hL, hmem⟩
    obtain rfl : specs' = L := Option.some.inj (hspecs'.symm.trans hL)
    exact ⟨specs, hspecs, hnew g hg hmem⟩

theorem keepsAll_of_insert (hj : j ∈ jumps)
    (h : Outcome facts (.ipt family ⟨"filter", j.1, .insert (jump j.2)⟩) w o w') :
    KeepsAll w w' := by
  cases o with
  | success rules =>
    obtain ⟨specs, hspecs, hinsert⟩ := h.ipt.of_insert
    refine keepsAll_of_hook hj h hspecs hinsert (List.subset_cons_self _ _) fun g hg hmem => ?_
    refine (List.mem_cons.1 hmem).resolve_left ?_
    rcases mem_guards.1 hg with rfl | rfl <;> rcases mem_jumps.1 hj with rfl | rfl | rfl <;> decide
  | _ => exact keepsAll_of_tables (h.tables_of_not_isSuccess rfl)

def KeepingScript (script : String) : Prop :=
  ∃ bs : List Iptables.Block,
    readLines Iptables.readLine script = some (bs.flatMap Iptables.Block.lines) ∧
      ∀ b ∈ bs, b.table = "filter" → ∀ t, Keeps t (b.result t)

theorem keeps_of_runBlocks {bs : List Iptables.Block}
    (h : ∀ b ∈ bs, b.table = "filter" → ∀ t, Keeps t (b.result t)) {T T₂ : Iptables.Tables}
    (hrun : Iptables.runBlocks bs T = some T₂) : Keeps (T "filter") (T₂ "filter") := by
  induction bs generalizing T with
  | nil =>
    obtain rfl : T = T₂ := by simpa [Iptables.runBlocks] using hrun
    exact .refl _
  | cons b bs ih =>
    simp only [Iptables.runBlocks, List.foldlM_cons, Option.bind_eq_bind,
      Option.bind_eq_some_iff] at hrun
    obtain ⟨T₁, hb, hrest⟩ := hrun
    obtain ⟨-, rfl⟩ := Iptables.runLines_lines hb
    refine Keeps.trans ?_ (ih (fun c hc => h c (by simp [hc])) hrest)
    by_cases ht : b.table = "filter"
    · have hkeep := h b (by simp) ht (T "filter")
      rw [ht, Function.update_self]
      exact hkeep
    · rw [Function.update_of_ne (Ne.symm ht)]
      exact .refl _

theorem keepsAll_of_restore {script : String} (hscript : KeepingScript script)
    {o : Iptables.RestoreOutput} (h : Outcome facts (.restore family script) w o w') :
    KeepsAll w w' := by
  obtain ⟨bs, hread, hkeep⟩ := hscript
  obtain ⟨bs', hbs, hrun⟩ := h.restore.blocks hread
  refine keepsAll_of_family family (fun f hf => h.tables_eq ?_)
    (keeps_of_runBlocks (fun b hb => hkeep b (hbs.subset hb)) hrun)
  simpa [Cmd.family?] using Ne.symm hf

/-- A command that keeps the guards whatever it answers. -/
inductive Cmd.Safe : Cmd → Prop where
  | neutral {c : Cmd} (h : c.Neutral) : Safe c
  | restore {family : AddrFamily} {script : String} (h : KeepingScript script) :
      Safe (.restore family script)
  | insert {family : AddrFamily} {j : String × String} (h : j ∈ jumps) :
      Safe (.ipt family ⟨"filter", j.1, .insert (jump j.2)⟩)

theorem Cmd.safe_mangle (family : AddrFamily) (h : c.table = "mangle") : Safe (.ipt family c) :=
  .neutral (Or.inl (by rw [h]; decide))

theorem Cmd.Safe.keepsAll {c : Cmd} (hc : c.Safe) {r : Resp c} (h : Outcome facts c w r w') :
    KeepsAll w w' := by
  cases hc with
  | neutral hc =>
    intro family
    rw [hc.filter_eq h family]
    exact .refl _
  | restore hscript => exact keepsAll_of_restore hscript h
  | insert hj => exact keepsAll_of_insert hj h

end Commands

/-! ## Runs that keep the guards -/

/-- The command fails only where the kernel cannot carry it out. A rule is appended to probe
for its target, which the kernel may lack. -/
def Truthful : (c : Cmd) → World → Resp c → Prop
  | .ipt family c, w, o =>
    Iptables.Output.isSuccess o = false →
      c.run (w.tables family) = none ∨ ¬c.Permitted (w.tables family) ∨ ∃ spec, c.op = .append spec
  | _, _, _ => True

section Truthful

variable {w : World} {family : AddrFamily} {table chain : String} {o : Iptables.Output}
  {op : Iptables.Operation}

theorem Truthful.run_eq_none (h : Truthful (.ipt family ⟨table, chain, op⟩) w o)
    (ho : o.isSuccess = false) (hop : op ≠ .deleteChain) (happend : ∀ spec, op ≠ .append spec) :
    op.run (w.tables family table chain) = none := by
  rcases h ho with hrun | hperm | ⟨spec, hspec⟩
  · simpa [Iptables.Command.run] using hrun
  · exact absurd (fun heq => absurd heq hop) hperm
  · exact absurd hspec (happend spec)

/-- Listing or flushing a chain only fails where there is none. -/
theorem Truthful.absent (h : Truthful (.ipt family ⟨table, chain, op⟩) w o)
    (ho : o.isSuccess = false) (hop : op = .listChain ∨ op = .flush) :
    w.tables family table chain = none := by
  have hrun := h.run_eq_none ho (by rcases hop with rfl | rfl <;> simp)
    (by rcases hop with rfl | rfl <;> simp)
  cases hspecs : w.tables family table chain with
  | none => rfl
  | some specs => rcases hop with rfl | rfl <;> simp [hspecs, Iptables.Operation.run] at hrun

theorem Truthful.not_mem_of_delete {spec : Iptables.Spec}
    (h : Truthful (.ipt family ⟨table, chain, .delete spec⟩) w o)
    (ho : o.isSuccess = false) {specs : List Iptables.Spec}
    (hspecs : w.tables family table chain = some specs) : spec ∉ specs := by
  have hrun := h.run_eq_none ho (by simp) (by simp)
  intro hmem
  simp [hspecs, Iptables.Operation.run, hmem] at hrun

end Truthful

/-- What a command can do, if `truthful` without failing where it need not. -/
def OutcomeIf (truthful : Prop) (facts : Facts) (c : Cmd) (w : World) (r : Resp c) (w' : World) :
    Prop :=
  Outcome facts c w r w' ∧ (truthful → Truthful c w r)

variable {truthful : Prop} {facts : Facts} {w : World} {l : List α}

theorem keepsAll_of_uses {α : Type} {p : Sys α} (h : p.Uses Cmd.Safe) :
    p.HoldsFrom (OutcomeIf truthful facts) KeepsAll (fun _ _ => True) w :=
  h.holdsFrom fun _ _ _ _ hc hout => hc.keepsAll hout.1

/-- Every run of `x` from `w` keeps the guards, and ends with `P` when it succeeds. -/
abbrev Keeping {α : Type} (truthful : Prop) (facts : Facts) (w : World) (x : Fw α)
    (P : α → World → Prop) : Prop :=
  x.run.HoldsFrom (OutcomeIf truthful facts) KeepsAll (OnOk P) w

/-! ## The scripts -/

theorem keepingScript_emergency (family : AddrFamily) (mode : Mode) :
    KeepingScript (iptablesEmergencyRules family mode) := by
  refine ⟨_, readLines_emergencyRules family mode, ?_⟩
  intro b hb _ t
  obtain rfl : b = emergencyBlock family mode := List.mem_singleton.1 hb
  obtain ⟨hout, hfwd⟩ := emergencyBlock_result_chain family mode t
  obtain ⟨hhook, hhook'⟩ := emergencyBlock_result_hook family mode t
  have hother {c : String} := emergencyBlock_result_of_ne family mode t (c := c)
  constructor
  · intro j hj specs hspecs
    rcases mem_jumps.1 hj with rfl | rfl | rfl
    · rw [hother (show fw3HookInput ∉ _ by decide)]
      exact ⟨specs, hspecs, List.Subset.refl _⟩
    · rw [hhook, Option.mem_def.1 hspecs]
      exact ⟨_, rfl, List.subset_cons_self _ _⟩
    · rw [hhook', Option.mem_def.1 hspecs]
      exact ⟨_, rfl, List.subset_cons_self _ _⟩
  · intro g hg
    rcases mem_guards.1 hg with rfl | rfl <;> exact EndsIn.congr (hother (by decide))
  · intro g hg _
    rcases mem_guards.1 hg with rfl | rfl
    · exact ⟨_, hout, dropAll, by simp, rfl⟩
    · exact ⟨_, hfwd, dropAll, by simp, rfl⟩
  · intro g hg hd
    rcases mem_guards.1 hg with rfl | rfl
    · exact absurd (hout.symm.trans hd.1) (by simp)
    · exact absurd (hfwd.symm.trans hd.1) (by simp)

/-- A rule set that can be rendered and that ends its chains in a reject. -/
structure Deployable (rs : RuleSet) : Prop where
  placed : RuleSet.All Placed rs
  output : ∃ c, rs.filter.output = c ++ [Rule.reject .inet]
  forward : ∃ c, rs.filter.forward = c ++ [Rule.reject .inet]

theorem deployable_compileWith (trackIps : List IpAddr) {p : FirewallPolicy} {uplink : Uplink}
    (hnames : ProperNames p uplink) : Deployable (compileWith trackIps p uplink) :=
  ⟨placed_compileWith trackIps hnames, ⟨_, rfl⟩, ⟨_, rfl⟩⟩

theorem Deployable.wellFormed (h : Deployable rs) : RuleSet.All (fun _ r => r.WellFormed) rs :=
  fun c r hr => (h.placed c r hr).1

theorem Deployable.withoutMangleRules (h : Deployable rs) : Deployable rs.withoutMangleRules := by
  refine ⟨fun c r hr => ?_, h.output, h.forward⟩
  cases c with
  | manglePrerouting | mangleOutput =>
    exact absurd hr (by simp [RuleSet.withoutMangleRules, RuleSet.chain])
  | filterInput => exact h.placed .filterInput r hr
  | filterOutput => exact h.placed .filterOutput r hr
  | filterForward => exact h.placed .filterForward r hr

theorem Deployable.withoutSkuidRules (h : Deployable rs) : Deployable rs.withoutSkuidRules := by
  obtain ⟨hplaced, ⟨co, hco⟩, cf, hcf⟩ := h
  constructor
  · intro c r hr
    have hchain : rs.withoutSkuidRules.chain c =
        (rs.chain c).filter fun r => r.matches_.skuid.isNone := by cases c <;> rfl
    rw [hchain] at hr
    exact hplaced c r (List.mem_of_mem_filter hr)
  · exact ⟨co.filter fun r => r.matches_.skuid.isNone, by
      simp [RuleSet.withoutSkuidRules, hco]⟩
  · exact ⟨cf.filter fun r => r.matches_.skuid.isNone, by
      simp [RuleSet.withoutSkuidRules, hcf]⟩

theorem Deployable.mangle_withoutSkuidRules (h : Deployable rs) :
    rs.withoutSkuidRules.mangle = rs.mangle := by
  have hpre : rs.mangle.prerouting.filter (fun r => r.matches_.skuid.isNone) =
      rs.mangle.prerouting :=
    List.filter_eq_self.2 fun r hr => (h.placed .manglePrerouting r hr).skuid_isNone (by decide)
  have hout : rs.mangle.output.filter (fun r => r.matches_.skuid.isNone) = rs.mangle.output :=
    List.filter_eq_self.2 fun r hr => (h.placed .mangleOutput r hr).skuid_isNone (by decide)
  simp only [RuleSet.withoutSkuidRules, hpre, hout]

theorem getLast?_specs {rules : Chain} (h : ∃ c, rules = c ++ [Rule.reject .inet])
    (family : AddrFamily) : ∃ spec ∈ (specs family rules).getLast?, IsReject spec := by
  obtain ⟨c, rfl⟩ := h
  have hkept : kept family (Rule.reject .inet) = some (toIptables (Rule.reject .inet) family) :=
    if_pos rfl
  refine ⟨(toIptables (Rule.reject .inet) family).words, ?_, ?_⟩
  · simp only [specs, List.filterMap_append, List.filterMap_cons_some hkept,
      List.filterMap_nil, List.map_append, List.map_cons, List.map_nil, List.getLast?_concat,
      Option.mem_def]
  · cases family
    · exact ⟨"icmp-port-unreachable", rfl⟩
    · exact ⟨"icmp6-port-unreachable", rfl⟩

theorem endsIn_loaded (h : Deployable rs) (family : AddrFamily) (t : Iptables.Chains)
    (hg : g ∈ guards) :
    EndsIn IsReject ((block "filter" (filterChains rs) family).result t) g.nym := by
  rcases mem_guards.1 hg with rfl | rfl
  · exact ⟨_, block_result (nodup_filterChains rs) (c := (chainOutput, rs.filter.output))
      (by simp [filterChains]) "filter" family t, getLast?_specs h.output family⟩
  · exact ⟨_, block_result (nodup_filterChains rs) (c := (chainForward, rs.filter.forward))
      (by simp [filterChains]) "filter" family t, getLast?_specs h.forward family⟩

theorem keepingScript_render (h : Deployable rs) (family : AddrFamily) :
    KeepingScript (render rs family) := by
  refine ⟨_, readLines_render h.wellFormed family, ?_⟩
  intro b hb ht t
  obtain rfl : b = block "filter" (filterChains rs) family := by
    rw [blocks] at hb
    rcases List.mem_append.1 hb with hb | hb
    · split at hb
      · obtain rfl := List.mem_singleton.1 hb
        exact absurd ht (show "mangle" ≠ "filter" by decide)
      · exact absurd hb (by simp)
    · exact List.mem_singleton.1 hb
  have hother {c : String} (hc : c ∉ [chainInput, chainOutput, chainForward]) :
      (block "filter" (filterChains rs) family).result t c = t c :=
    block_result_of_notMem hc "filter" family t
  constructor
  · intro j hj specs hspecs
    have hne : j.1 ∉ [chainInput, chainOutput, chainForward] := by
      rcases mem_jumps.1 hj with rfl | rfl | rfl <;> decide
    rw [hother hne]
    exact ⟨specs, hspecs, List.Subset.refl _⟩
  · exact fun g hg _ => endsIn_loaded h family t hg
  · intro g hg
    have hne : g.emergency ∉ [chainInput, chainOutput, chainForward] := by
      rcases mem_guards.1 hg with rfl | rfl <;> decide
    exact EndsIn.congr (hother hne)
  · intro g hg
    have hne : g.emergency ∉ [chainInput, chainOutput, chainForward] ∧
        g.hook ∉ [chainInput, chainOutput, chainForward] := by
      rcases mem_guards.1 hg with rfl | rfl <;> decide
    exact Guard.Dangling.congr (hother hne.1) (hother hne.2)

/-! ## Placing a jump -/

theorem subset_eraseIdx {i j : ℕ} (hij : i ≠ j) (h : l[i]? = l[j]?) : l ⊆ l.eraseIdx j := by
  intro x hx
  obtain ⟨k, hk⟩ := List.mem_iff_getElem?.1 hx
  rw [List.mem_eraseIdx_iff_getElem?]
  by_cases hkj : k = j
  · exact ⟨i, hij, by rw [h, ← hkj, hk]⟩
  · exact ⟨k, hkj, hk⟩

theorem mem_drop_zipIdx {k : ℕ} {r : α × ℕ} (h : r ∈ l.zipIdx.drop k) :
    l[r.2]? = some r.1 ∧ k ≤ r.2 := by
  obtain ⟨m, hm, rfl⟩ := List.mem_iff_getElem.1 h
  simp only [List.length_drop, List.length_zipIdx] at hm
  have hlt : k + m < l.length := by omega
  simp [List.getElem_drop, List.getElem_zipIdx, hlt]

theorem pairwise_reverse_drop_zipIdx (l : List α) (k : ℕ) :
    (l.zipIdx.drop k).reverse.Pairwise fun a b => b.2 < a.2 := by
  have hrange : (l.zipIdx.map Prod.snd).Pairwise (· < ·) := by
    rw [List.zipIdx_map_snd]
    exact List.pairwise_lt_range'
  exact List.pairwise_reverse.2 ((List.pairwise_map.1 hrange).drop)

section Jumps

variable {family : AddrFamily}

theorem Outcome.eq_of_isQuery {c : Iptables.Command} {o : Iptables.Output} {w' : World}
    (h : Outcome facts (.ipt family c) w o w') (hq : c.op.IsQuery) : w' = w := by
  obtain ⟨T, hT, rfl⟩ := h
  rw [hT.eq_of_isQuery hq, World.setTables, Function.update_eq_self]

theorem listHookRules_keeps (hook : String) :
    Keeping truthful facts w (listHookRules family hook)
      fun rules w' => w' = w ∧ w.filter family hook = some rules := by
  refine holds_run_call_bind.2 fun o w' hout => ?_
  obtain rfl := hout.1.eq_of_isQuery trivial
  have hrefl : KeepsAll w' w' := refl_of KeepsAll w'
  cases o with
  | spawnFailed e | failed e => exact ⟨hrefl, hrefl, trivial⟩
  | success rules => exact ⟨hrefl, hrefl, rfl, hout.1.ipt.of_listRules⟩

variable {rules L : List Iptables.Spec} {j : String × String} {first : ℕ}
  {rest : List (Iptables.Spec × ℕ)} {r : Iptables.Spec × ℕ} {spec : Iptables.Spec}

theorem mem_of_jumpPositionOk (h : jumpPositionOk rules spec = true) : spec ∈ rules := by
  unfold jumpPositionOk at h
  split at h
  · next i hi =>
      rw [List.idxOf?_eq_some_iff] at hi
      obtain ⟨hlt, hspec, -⟩ := hi
      exact List.mem_of_getElem hspec
  · exact absurd h (by simp)

theorem runIpt_insert_keeps (hj : j ∈ jumps) :
    Keeping truthful facts w (runIpt family j.1 (.insert (jump j.2)))
      fun _ w' => Hooked (w'.filter family) j.1 j.2 := by
  refine holds_run_call_bind.2 fun o w' hout => ?_
  have hkeep := keepsAll_of_insert hj hout.1
  cases o with
  | spawnFailed e | failed e => exact ⟨hkeep, hkeep, trivial⟩
  | success rules =>
    obtain ⟨specs, -, hinsert⟩ := hout.1.ipt.of_insert
    exact ⟨hkeep, hkeep, _, hinsert, by simp⟩

theorem placeJump_keeps (hj : j ∈ jumps) :
    Keeping truthful facts w (placeJump family j.1 (jump j.2))
      fun rules w' => w'.filter family j.1 = some rules ∧ jump j.2 ∈ rules := by
  refine (listHookRules_keeps j.1).run_bind fun rules w₁ _ hrules => ?_
  obtain ⟨rfl, hrules⟩ := hrules
  by_cases hok : jumpPositionOk rules (jump j.2) = true
  · simp only [hok, if_true]
    exact holdsFrom_ret ⟨hrules, mem_of_jumpPositionOk hok⟩
  · simp only [hok]
    refine (runIpt_insert_keeps hj).run_bind fun _ w₂ _ hmem => ?_
    obtain ⟨specs, hspecs, hmem⟩ := hmem
    refine (listHookRules_keeps j.1).onOk fun rules w₃ _ hr => ?_
    obtain ⟨rfl, hrules⟩ := hr
    have heq : specs = rules := Option.some.inj (hspecs.symm.trans hrules)
    exact ⟨hrules, heq ▸ hmem⟩

theorem runIpt_deleteNth_keeps (hj : j ∈ jumps) (hL : w.filter family j.1 = some L)
    {i : ℕ} (hne : first ≠ i) (hdup : L[first]? = L[i]?) :
    Keeping truthful facts w (runIpt family j.1 (.deleteNth (i + 1)))
      fun _ w' => w'.filter family j.1 = some (L.eraseIdx i) := by
  refine holds_run_call_bind.2 fun o w' hout => ?_
  cases o with
  | success rules =>
    obtain ⟨specs, hspecs, hdelete⟩ := hout.1.ipt.of_deleteNth
    obtain rfl : L = specs := Option.some.inj (hL.symm.trans hspecs)
    have hkeep := keepsAll_of_hook hj hout.1 hL hdelete (subset_eraseIdx hne hdup)
      fun g _ hmem => List.mem_of_mem_eraseIdx hmem
    exact ⟨hkeep, hkeep, hdelete⟩
  | _ =>
    have hkeep := keepsAll_of_tables (hout.1.tables_of_not_isSuccess rfl)
    exact ⟨hkeep, hkeep, trivial⟩

/-- What is still to delete, when the hook holds `L` and was listed as `rules`:
higher numbers first, each beyond the first copy, and up to the next number
nothing has moved. -/
structure Pending (rules L : List Iptables.Spec) (first : ℕ) (rest : List (Iptables.Spec × ℕ)) :
    Prop where
  sorted : rest.Pairwise fun a b => b.2 < a.2
  beyond : ∀ r ∈ rest, first < r.2
  listed : ∀ r ∈ rest, rules[r.2]? = some r.1
  unmoved : ∀ r ∈ rest, ∀ i ≤ r.2, L[i]? = rules[i]?

theorem Pending.tail (h : Pending rules L first (r :: rest)) : Pending rules L first rest :=
  ⟨h.sorted.of_cons, fun s hs => h.beyond s (by simp [hs]), fun s hs => h.listed s (by simp [hs]),
    fun s hs => h.unmoved s (by simp [hs])⟩

theorem Pending.erase (h : Pending rules L first (r :: rest)) :
    Pending rules (L.eraseIdx r.2) first rest := by
  obtain ⟨hsorted, hbeyond, hlisted, hunmoved⟩ := h.tail
  refine ⟨hsorted, hbeyond, hlisted, fun s hs i hi => ?_⟩
  have hlt : s.2 < r.2 := (List.pairwise_cons.1 h.sorted).1 s hs
  rw [List.getElem?_eraseIdx_of_lt (by omega)]
  exact hunmoved s hs i hi

theorem deleteDuplicates_keeps (hj : j ∈ jumps)
    (hfirst : rules[first]? = some spec) (hrest : Pending rules rules first rest)
    (hw : w.filter family j.1 = some rules) :
    Keeping truthful facts w (deleteDuplicates family j.1 spec rest)
      fun _ w' => ∃ specs ∈ w'.filter family j.1, spec ∈ specs := by
  refine holds_run_forM (fun rest w' => KeepsAll w w' ∧ ∃ L, w'.filter family j.1 = some L ∧
    spec ∈ L ∧ Pending rules L first rest) ?_ ?_ rest ?_
  · rintro r rest w₁ ⟨hkeep, L, hL, hmem, hpending⟩
    by_cases hr : r.1 = spec
    · simp only [hr, if_true]
      have hbeyond := hpending.beyond r (by simp)
      have hne : first ≠ r.2 := by omega
      have hunmoved := hpending.unmoved r (by simp)
      have hdup : L[first]? = L[r.2]? := by
        rw [hunmoved first (by omega), hunmoved r.2 le_rfl, hfirst, hpending.listed r (by simp), hr]
      refine Holds.mono (runIpt_deleteNth_keeps hj hL hne hdup)
        (fun v hv => trans_of KeepsAll hkeep hv) fun res v hv => ?_
      have hkeep' := trans_of KeepsAll hkeep hv.1
      cases res with
      | error e => exact ⟨hkeep', trivial⟩
      | ok u => exact ⟨hkeep', _, hv.2, subset_eraseIdx hne hdup hmem, hpending.erase⟩
    · simp only [hr, if_false]
      exact ⟨hkeep, L, hL, hmem, hpending.tail⟩
  · rintro w₁ ⟨hkeep, L, hL, hmem, -⟩
    exact ⟨hkeep, L, hL, hmem⟩
  · exact ⟨refl_of KeepsAll w, rules, hw, List.mem_of_getElem? hfirst, hrest⟩

theorem ensureJump_keeps (hj : j ∈ jumps) :
    Keeping truthful facts w (ensureJump family j.1 j.2)
      fun _ w' => Hooked (w'.filter family) j.1 j.2 := by
  refine (placeJump_keeps hj).run_bind fun rules w₁ _ hrules => ?_
  obtain ⟨hw₁, hmem⟩ := hrules
  obtain ⟨first, hidx⟩ := Option.isSome_iff_exists.1 (List.isSome_idxOf?.2 hmem)
  obtain ⟨hlt, hfirst, -⟩ := List.idxOf?_eq_some_iff.1 hidx
  have hfirst : rules[first]? = some (jump j.2) := by
    rw [List.getElem?_eq_getElem hlt, hfirst]
  simp only [hidx, Option.getD_some]
  refine deleteDuplicates_keeps hj hfirst ?_ hw₁
  have hdrop (r : Iptables.Spec × ℕ) (hr : r ∈ (rules.zipIdx.drop (first + 1)).reverse) :=
    mem_drop_zipIdx (List.mem_reverse.1 hr)
  exact ⟨pairwise_reverse_drop_zipIdx rules (first + 1), fun r hr => (hdrop r hr).2,
    fun r hr => (hdrop r hr).1, fun _ _ _ _ => rfl⟩

theorem setupJumps_keeps :
    Keeping truthful facts w (setupJumps family)
      fun _ w' => ∀ j ∈ jumps, Hooked (w'.filter family) j.1 j.2 := by
  refine ((holds_run_forM_each (J := KeepsAll w) (fun j v => Hooked (v.filter family) j.1 j.2)
    jumps (fun j hj w₁ hkeep => ?_) (refl_of KeepsAll w)).onOk fun _ _ h => h.2).kept
    (refl_of KeepsAll w)
  refine ((ensureJump_keeps hj).holds fun v hv => trans_of KeepsAll hkeep hv).onOk ?_
  exact fun _ v hv => ⟨trans_of KeepsAll hkeep hv.1, hv.2, fun i hi => (hv.1 family).hooked hi⟩

end Jumps

/-! ## The other rules of a hook -/

section Besides

variable {family : AddrFamily} {hook : String} {spec : Iptables.Spec} {v : World}
  {others : Option (List Iptables.Spec)} {c : Iptables.Command} {o : Iptables.Output}

end Besides

end Fw3

end NymFirewall
