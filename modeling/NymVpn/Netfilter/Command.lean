import NymVpn.Netfilter.Restore
import NymVpn.Text.Numeral

/-!
# The commands of `iptables`

`Command.run` is what a command does when it succeeds; it can also fail where it could have
succeeded, and then the tables are as before. A restore that is not seen to succeed may have
committed some of its tables.
-/

namespace Netfilter.Iptables

open Text

inductive Operation where
  /-- `-C chain spec`. -/
  | check (spec : Spec)
  /-- `-A chain spec`. -/
  | append (spec : Spec)
  /-- `-I chain 1 spec`. -/
  | insert (spec : Spec)
  /-- `-D chain spec`, the first such rule. -/
  | delete (spec : Spec)
  /-- `-D chain n`, counted from one. -/
  | deleteNth (n : ℕ)
  /-- `-S chain`. -/
  | listRules
  /-- `-L chain -n`. -/
  | listChain
  /-- `-N chain`. -/
  | newChain
  /-- `-F chain`. -/
  | flush
  /-- `-X chain`. -/
  | deleteChain
deriving DecidableEq

structure Command where
  table : String
  chain : String
  op : Operation

def Operation.args (chain : String) : Operation → List String
  | .check spec => "-C" :: chain :: spec
  | .append spec => "-A" :: chain :: spec
  | .insert spec => "-I" :: chain :: "1" :: spec
  | .delete spec => "-D" :: chain :: spec
  | .deleteNth n => ["-D", chain, decimal n]
  | .listRules => ["-S", chain]
  | .listChain => ["-L", chain, "-n"]
  | .newChain => ["-N", chain]
  | .flush => ["-F", chain]
  | .deleteChain => ["-X", chain]

inductive Output where
  | spawnFailed (e : String)
  | failed (stderr : String)
  | success (rules : List Spec)

def Output.isSuccess : Output → Bool
  | .success _ => true
  | _ => false

/-- The rules of the chain after a command that succeeds, and what it lists. -/
@[grind =] def Operation.run : Operation → Option (List Spec) →
    Option (Option (List Spec) × List Spec)
  | .check spec, some specs => if spec ∈ specs then some (some specs, []) else none
  | .append spec, some specs => some (some (specs ++ [spec]), [])
  | .insert spec, some specs => some (some (spec :: specs), [])
  | .delete spec, some specs => if spec ∈ specs then some (some (specs.erase spec), []) else none
  | .deleteNth n, some specs =>
    if 1 ≤ n ∧ n ≤ specs.length then some (some (specs.eraseIdx (n - 1)), []) else none
  | .listRules, some specs => some (some specs, specs)
  | .listChain, some specs => some (some specs, [])
  | .newChain, none => some (some [], [])
  | .flush, some _ => some (some [], [])
  | .deleteChain, some [] => some (none, [])
  | _, _ => none

def Tables.set (T : Tables) (table chain : String) (specs : Option (List Spec)) : Tables :=
  Function.update T table (Function.update (T table) chain specs)

def Command.run (c : Command) (T : Tables) : Option (Tables × List Spec) :=
  (c.op.run (T c.table c.chain)).map fun r => (T.set c.table c.chain r.1, r.2)

def Referenced (T : Tables) (table chain : String) : Prop :=
  ∃ c, ∃ specs ∈ T table c, ∃ spec ∈ specs, ["-j", chain] <:+: spec

/-- The kernel can carry the command out: a chain that a rule leads to stays. -/
def Command.Permitted (c : Command) (T : Tables) : Prop :=
  c.op = .deleteChain → ¬Referenced T c.table c.chain

/-- The possible answers of a command, and the tables after it. -/
inductive Command.Outcome (c : Command) (T : Tables) : Output → Tables → Prop where
  | spawnFailed (e : String) : Outcome c T (.spawnFailed e) T
  | failed (stderr : String) : Outcome c T (.failed stderr) T
  | success {T' : Tables} {rules : List Spec} (h : c.run T = some (T', rules))
      (hp : c.Permitted T) : Outcome c T (.success rules) T'

inductive RestoreOutput where
  | spawnFailed (e : String)
  | writeFailed (e : String)
  | waitFailed (e : String)
  | failed (stderr : String)
  | success

def Interrupted (script : String) (T T' : Tables) : Prop :=
  T' = T ∨ ∃ ls, readLines readLine script = some ls ∧ Committed ls T T'

/-- The possible answers of a restore, and the tables after it. -/
inductive RestoreOutcome (script : String) (T : Tables) : RestoreOutput → Tables → Prop where
  | spawnFailed (e : String) : RestoreOutcome script T (.spawnFailed e) T
  | writeFailed (e : String) {T' : Tables} (h : Interrupted script T T') :
      RestoreOutcome script T (.writeFailed e) T'
  | waitFailed (e : String) {T' : Tables} (h : Interrupted script T T') :
      RestoreOutcome script T (.waitFailed e) T'
  | failed (stderr : String) {T' : Tables} (h : Interrupted script T T') :
      RestoreOutcome script T (.failed stderr) T'
  | success {T' : Tables} (h : load script T = some T') : RestoreOutcome script T .success T'

/-! ## What a command changes -/

@[simp] theorem Tables.set_self (T : Tables) (table chain : String)
    (specs : Option (List Spec)) : T.set table chain specs table chain = specs := by
  simp [Tables.set]

theorem Tables.set_of_ne_table (T : Tables) {table table' : String} (h : table' ≠ table)
    (chain : String) (specs : Option (List Spec)) : T.set table chain specs table' = T table' :=
  Function.update_of_ne h _ _

theorem Tables.set_of_ne_chain (T : Tables) (table : String) {chain chain' : String}
    (h : chain' ≠ chain) (specs : Option (List Spec)) :
    T.set table chain specs table chain' = T table chain' := by
  simp [Tables.set, h]

def Operation.IsQuery : Operation → Prop
  | .check _ | .listRules | .listChain => True
  | _ => False

theorem Operation.run_of_isQuery {op : Operation} (h : op.IsQuery)
    {specs specs' : Option (List Spec)} {rules : List Spec}
    (hrun : op.run specs = some (specs', rules)) : specs' = specs := by
  cases specs with
  | none => cases op <;> first | exact absurd h id | cases hrun
  | some specs =>
    cases op with
    | check spec =>
      simp only [Operation.run] at hrun
      split at hrun
      · exact (Prod.mk.inj (Option.some.inj hrun)).1.symm
      · exact absurd hrun (by simp)
    | listRules | listChain => exact (Prod.mk.inj (Option.some.inj hrun)).1.symm
    | _ => exact absurd h id

def Operation.Spares (spec : Spec) : Operation → Prop
  | .check _ | .append _ | .insert _ | .listRules | .listChain => True
  | .delete s => s ≠ spec
  | _ => False

theorem Operation.exists_mem {op : Operation} {spec : Spec} (h : op.Spares spec)
    {specs rules : List Spec} {specs' : Option (List Spec)}
    (hrun : op.run (some specs) = some (specs', rules)) (hmem : spec ∈ specs) :
    ∃ specs'' ∈ specs', spec ∈ specs'' := by
  cases specs' with
  | none => cases op <;> grind [Operation.Spares]
  | some specs'' =>
    refine ⟨specs'', rfl, ?_⟩
    cases op <;> grind [Operation.Spares]

namespace Command.Outcome

variable {c : Command} {op : Operation} {T T' : Tables} {o : Output}

theorem eq_of_ne (h : Outcome c T o T') {table chain : String}
    (hne : table ≠ c.table ∨ chain ≠ c.chain) : T' table chain = T table chain := by
  cases h with
  | spawnFailed e | failed e => rfl
  | success h _ =>
    simp only [Command.run, Option.map_eq_some_iff] at h
    obtain ⟨r, -, hr⟩ := h
    obtain ⟨rfl, -⟩ := Prod.mk.inj hr
    rcases eq_or_ne table c.table with rfl | ht
    · rw [Tables.set_of_ne_chain _ _ (hne.resolve_left (by simp))]
    · rw [Tables.set_of_ne_table _ ht]

theorem eq_of_ne_table (h : Outcome c T o T') {table : String} (hne : table ≠ c.table) :
    T' table = T table := by
  funext chain
  exact h.eq_of_ne (Or.inl hne)

theorem eq_of_isQuery (h : Outcome c T o T') (hq : c.op.IsQuery) : T' = T := by
  cases h with
  | spawnFailed e | failed e => rfl
  | success h _ =>
    simp only [Command.run, Option.map_eq_some_iff] at h
    obtain ⟨r, hrun, hr⟩ := h
    obtain ⟨rfl, -⟩ := Prod.mk.inj hr
    rw [Operation.run_of_isQuery hq hrun]
    funext table
    rcases eq_or_ne table c.table with rfl | ht
    · simp [Tables.set]
    · rw [Tables.set_of_ne_table _ ht]

theorem eq_of_not_isSuccess (h : Outcome c T o T') (ho : o.isSuccess = false) : T' = T := by
  cases h with
  | spawnFailed e | failed e => rfl
  | success h => exact absurd ho (by simp [Output.isSuccess])

theorem run_of_success {rules : List Spec} (h : Outcome c T (.success rules) T') :
    c.op.run (T c.table c.chain) = some (T' c.table c.chain, rules) := by
  cases h with
  | success h _ =>
    simp only [Command.run, Option.map_eq_some_iff] at h
    obtain ⟨r, hrun, hr⟩ := h
    obtain ⟨rfl, rfl⟩ := Prod.mk.inj hr
    simpa using hrun

variable {table chain : String} {spec : Spec} {rules : List Spec}

theorem exists_run (h : Outcome ⟨table, chain, op⟩ T (.success rules) T')
    (hop : op ≠ .newChain) : ∃ specs, T table chain = some specs ∧
      op.run (some specs) = some (T' table chain, rules) := by
  have hrun := h.run_of_success
  cases hspecs : T table chain with
  | some specs => exact ⟨specs, rfl, hspecs ▸ hrun⟩
  | none =>
    simp only [hspecs] at hrun
    cases op <;> first | exact absurd rfl hop | cases hrun

theorem of_check (h : Outcome ⟨table, chain, .check spec⟩ T (.success rules) T') :
    ∃ specs, T table chain = some specs ∧ spec ∈ specs := by
  obtain ⟨specs, hspecs, hrun⟩ := h.exists_run (by simp)
  simp only [Operation.run] at hrun
  split at hrun
  · next hmem => exact ⟨specs, hspecs, hmem⟩
  · exact absurd hrun (by simp)

theorem of_listRules (h : Outcome ⟨table, chain, .listRules⟩ T (.success rules) T') :
    T table chain = some rules := by
  obtain ⟨specs, hspecs, hrun⟩ := h.exists_run (by simp)
  simp only [Operation.run, Option.some.injEq, Prod.mk.injEq] at hrun
  rw [hspecs, hrun.2]

theorem of_insert (h : Outcome ⟨table, chain, .insert spec⟩ T (.success rules) T') :
    ∃ specs, T table chain = some specs ∧ T' table chain = some (spec :: specs) := by
  obtain ⟨specs, hspecs, hrun⟩ := h.exists_run (by simp)
  simp only [Operation.run, Option.some.injEq, Prod.mk.injEq] at hrun
  exact ⟨specs, hspecs, hrun.1.symm⟩

theorem of_deleteNth {n : ℕ} (h : Outcome ⟨table, chain, .deleteNth n⟩ T (.success rules) T') :
    ∃ specs, T table chain = some specs ∧ T' table chain = some (specs.eraseIdx (n - 1)) := by
  obtain ⟨specs, hspecs, hrun⟩ := h.exists_run (by simp)
  simp only [Operation.run] at hrun
  split at hrun
  · exact ⟨specs, hspecs, (Prod.mk.inj (Option.some.inj hrun)).1.symm⟩
  · exact absurd hrun (by simp)

theorem of_flush (h : Outcome ⟨table, chain, .flush⟩ T (.success rules) T') :
    T' table chain = some [] := by
  obtain ⟨specs, hspecs, hrun⟩ := h.exists_run (by simp)
  simp only [Operation.run, Option.some.injEq, Prod.mk.injEq] at hrun
  exact hrun.1.symm

theorem of_deleteChain (h : Outcome ⟨table, chain, .deleteChain⟩ T (.success rules) T') :
    T' table chain = none ∧ ¬Referenced T table chain := by
  obtain ⟨specs, hspecs, hrun⟩ := h.exists_run (by simp)
  cases h with
  | success _ hp =>
    refine ⟨?_, hp rfl⟩
    cases specs with
    | cons s specs => simp [Operation.run] at hrun
    | nil =>
      simp only [Operation.run, Option.some.injEq, Prod.mk.injEq] at hrun
      exact hrun.1.symm

end Command.Outcome

variable {script : String} {bs : List Block} {T T' : Tables}

theorem Interrupted.blocks (hread : readLines readLine script = some (bs.flatMap Block.lines))
    (h : Interrupted script T T') : ∃ bs', bs' <+: bs ∧ runBlocks bs' T = some T' := by
  rcases h with rfl | ⟨ls, hls, hcommitted⟩
  · exact ⟨[], List.nil_prefix, rfl⟩
  · rw [hread] at hls
    obtain rfl := Option.some.inj hls
    exact committed_blocks hcommitted

theorem RestoreOutcome.blocks_of_success
    (hread : readLines readLine script = some (bs.flatMap Block.lines))
    (h : RestoreOutcome script T .success T') : runBlocks bs T = some T' := by
  cases h with
  | success h =>
    rw [← load_of_readLines hread]
    exact h

theorem RestoreOutcome.blocks {o : RestoreOutput}
    (hread : readLines readLine script = some (bs.flatMap Block.lines))
    (h : RestoreOutcome script T o T') : ∃ bs', bs' <+: bs ∧ runBlocks bs' T = some T' := by
  cases h with
  | spawnFailed e => exact ⟨[], List.nil_prefix, rfl⟩
  | writeFailed e h | waitFailed e h | failed e h => exact h.blocks hread
  | success h =>
    exact ⟨bs, List.prefix_refl _, (RestoreOutcome.success h).blocks_of_success hread⟩

end Netfilter.Iptables
