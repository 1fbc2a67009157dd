import NymVpn.Rpcd.Edits
import NymVpn.Uci.Edits

/-!
# The section of dnsmasq

What an edit does to the package `dhcp`. It reads the domains of the section, stages the
section anew and commits it, and reports a domain that is gone.
-/

namespace Rpcd

open Program Program.Prog Text Uci State

open NymDns (resolvfile)

/-! ## Commands -/

abbrev uciGoes (c : Command) : SplitWorld → Answer c → SplitWorld → Prop :=
  SplitWorld.Goes (.uci c)

section Commands

variable {w w' : SplitWorld}

theorem goes_uci {c : Command} {r : Answer c} (h : uciGoes c w r w') (hc : c ≠ .commit) :
    w.dhcp.Runs "dhcp" c r w'.dhcp ∧ w'.journal = w.journal := by
  obtain ⟨-, s', hruns, rfl⟩ := h
  refine ⟨hruns, ?_⟩
  cases c with
  | commit => exact absurd rfl hc
  | _ => exact List.append_nil _

theorem goes_get {ref : Ref} {o : Option Name} {r : Answer (.get ref o)}
    (h : uciGoes (.get ref o) w r w') :
    w' = w ∧ r.toOption =
      if w.reads o then (w.dhcp.perform "dhcp" (.get ref o)).map Prod.fst else none := by
  obtain ⟨hanswers, s', hruns, rfl⟩ := h
  obtain ⟨printed, rfl, hperform⟩ | ⟨⟨err, rfl⟩, rfl⟩ := hruns.done_or_failed nofun
  · obtain rfl := perform_get hperform
    have hreads : w.reads o = true := hanswers
    exact ⟨by simp [uciEvents], by rw [if_pos hreads, hperform]; rfl⟩
  · refine ⟨by simp [uciEvents], ?_⟩
    split
    · next hreads =>
        have hnone : w.dhcp.perform "dhcp" (.get ref o) = none := hanswers hreads
        rw [hnone]
        rfl
    · rfl

theorem goes_changes {r : Answer .changes} (h : uciGoes .changes w r w') : w' = w := by
  obtain ⟨-, s', hruns, rfl⟩ := h
  obtain rfl := hruns.changes.1
  simp [uciEvents]

/-- The world has the journal and the file of another one, and the changes `D` are the last
ones staged, after the same changes of sections. -/
structure Kept (D : List Change) (w w' : SplitWorld) : Prop where
  journal : w'.journal = w.journal
  file : w'.dhcp.file = w.dhcp.file
  staged : ∃ S, w'.dhcp.staged = S ++ D ∧
    S.filter (·.option = none) = w.dhcp.staged.filter (·.option = none)

theorem Kept.revert {D : List Change} {w₀ : SplitWorld} {n : String}
    {r : Answer (.revert (.named n) (some resolvfile))} (hD : ∀ c ∈ D, c.option ≠ some resolvfile)
    (h : Kept D w₀ w) (hgoes : uciGoes (.revert (.named n) (some resolvfile)) w r w') :
    Kept D w₀ w' := by
  obtain ⟨hruns, hjournal⟩ := goes_uci hgoes nofun
  obtain ⟨S, hS, hsections⟩ := h.staged
  obtain hdhcp | hdhcp := hruns.revert
  · exact ⟨hjournal.trans h.journal, by rw [hdhcp, h.file], S, by rw [hdhcp, hS], hsections⟩
  · have hkeep : D.filter (fun c => !concerns n (some resolvfile) c) = D := by
      rw [List.filter_eq_self]
      intro c hc
      simp [concerns, hD c hc]
    refine ⟨hjournal.trans h.journal, by rw [hdhcp]; exact h.file,
      S.filter fun c => !concerns n (some resolvfile) c, ?_, ?_⟩
    · rw [hdhcp, State.revert, hS, List.filter_append, hkeep]
    · rw [← hsections, List.filter_filter]
      refine List.filter_congr fun c _ => ?_
      by_cases hc : c.option = none <;> simp [concerns, hc]

theorem goes_commit {r : Answer .commit} (h : uciGoes .commit w r w') :
    (∃ printed, r = .ok printed) ∧ w'.journal =
        w.journal ++ [.commit w.dhcp.file.package w.dhcp.package] ∨
      (∃ err, r = .error err) ∧ w' = w := by
  obtain ⟨-, s', hruns, rfl⟩ := h
  obtain ⟨⟨printed, rfl⟩, rfl⟩ | ⟨⟨err, rfl⟩, rfl⟩ := hruns.commit
  · refine Or.inl ⟨⟨printed, rfl⟩, ?_⟩
    rw [← package_commit]
    rfl
  · exact Or.inr ⟨⟨err, rfl⟩, by simp [uciEvents]⟩

end Commands

/-! ## The commit -/

section Commit

variable {D : List Change} {w : SplitWorld} {w₀ : SplitWorld} {result : Except String Unit}

/-- What a commit that succeeds leaves in the journal: the changes `D` were made last, to a
package with the sections that were read. -/
def Commits (D : List Change) (w : SplitWorld) (r : Except String Unit) (w' : SplitWorld) : Prop :=
  r = .ok () → ∃ p : Package, p.headers = w.dhcp.package.headers ∧
    w'.journal = w.journal ++ [.commit w.dhcp.file.package (D.foldl Package.apply p)]

theorem holds_commitIfOk (h : Kept D w₀ w) : Ends uciGoes (Commits D w₀) (commitIfOk result) w := by
  cases result with
  | error err =>
    intro hok
    cases hok
  | ok u =>
    refine ends_call_bind.2 fun r w' hgoes => ?_
    obtain ⟨⟨printed, rfl⟩, hjournal⟩ | ⟨⟨err, rfl⟩, rfl⟩ := goes_commit hgoes
    · obtain ⟨S, hS, hsections⟩ := h.staged
      refine fun _ => ⟨S.foldl Package.apply w₀.dhcp.file.package, ?_, ?_⟩
      · rw [Package.headers_foldl_apply, hsections, package, Package.headers_foldl_apply]
      · rw [hjournal, h.journal, h.file, package, hS, List.foldl_append, h.file]
    · intro hok
      cases hok

theorem holds_restage (sections : List String)
    (h : Commits D w₀ result w) : Ends uciGoes (Commits D w₀) (restage sections result) w := by
  apply holds_foldlM (fun _ result w => Commits D w₀ result w) _ (fun _ _ h => h) sections h
  intro n _ result w h
  refine ends_call_bind.2 fun r w' hgoes => ?_
  have hjournal := (goes_uci hgoes nofun).2
  have hkept : Commits D w₀ result w' := fun hok => by
    rw [hjournal]
    exact h hok
  cases result with
  | error err => cases r <;> exact nofun
  | ok u =>
    cases r with
    | error err => exact nofun
    | ok printed => exact hkept

theorem holds_recheck (sections : List String) :
    Ends uciGoes (fun _ w' => w' = w) (recheck sections) w := by
  unfold recheck
  split
  · rfl
  · refine ends_call_bind.2 fun r w' hgoes => ?_
    obtain rfl := goes_changes hgoes
    cases r with
    | error err => rfl
    | ok changes =>
      change Holds _ _ _ (ite _ _ _) _
      split <;> rfl

theorem holds_commitDhcp (hD : ∀ c ∈ D, c.option ≠ some resolvfile)
    (h : Kept D w₀ w) : Ends uciGoes (Commits D w₀) commitDhcp w := by
  refine ends_call_bind.2 fun r w' hgoes => ?_
  obtain rfl := goes_changes hgoes
  cases r with
  | error err => exact nofun
  | ok changes =>
    change Holds _ _ _ (forM (stagedNymResolvfileSections changes) _ >>= _) w'
    refine holds_bind.2 (holds_forM (fun _ v => Kept D w₀ v) ?_ (fun v hv => ?_) _ h)
    · intro n _ v hv r v' hgoes
      exact ⟨trivial, hv.revert hD hgoes⟩
    · refine holds_bind.2 ((holds_recheck _).imp fun result v' hv' => ?_)
      obtain rfl := hv'
      exact holds_bind.2 ((holds_commitIfOk hv).imp fun result _ h => holds_restage _ h)

end Commit

/-! ## The staging -/

section Staging

variable {D E : List Change} {w : SplitWorld} {c : Command} {change : Change}

def stagedChanges (present : Bool) (wanted : Option (List String)) : List Change :=
  (if present then [.remove splitName] else []) ++ match wanted with
    | none => []
    | some domains =>
      [.setSection splitName "ipset", .addList splitName nameOption "nym_bypass4",
          .addList splitName nameOption "nym_bypass6"] ++
        (domains.map (.addList splitName domainOption) ++
          [.set splitName tableOption "fw4", .set splitName tableFamilyOption "inet"])

/-- What the staging leaves: the changes `D`, unless it fails. -/
structure Stages (D : List Change) (w : SplitWorld) (r : Except String Unit) (w' : SplitWorld) :
    Prop where
  journal : w'.journal = w.journal
  file : w'.dhcp.file = w.dhcp.file
  staged : r = .ok () → w'.dhcp.staged = w.dhcp.staged ++ D

theorem holds_stages_bind {x : ExceptT String (Prog Command Answer) Unit}
    {f : Unit → ExceptT String (Prog Command Answer) Unit}
    (hx : Ends uciGoes (Stages D w) x.run w) (hf : ∀ v, Ends uciGoes (Stages E v) (f ()).run v) :
    Ends uciGoes (Stages (D ++ E) w) (x >>= f).run w := by
  refine holds_run_bind.2 (hx.imp fun r v hv => ?_)
  cases r with
  | error err => exact ⟨hv.journal, hv.file, nofun⟩
  | ok u =>
    refine (hf v).imp fun r v' hv' => ⟨hv'.journal.trans hv.journal, hv'.file.trans hv.file, ?_⟩
    intro hr
    rw [hv'.staged hr, hv.staged rfl, List.append_assoc]

theorem holds_stages_pure : Ends uciGoes (Stages [] w)
    (pure () : ExceptT String (Prog Command Answer) Unit).run w :=
  ⟨rfl, rfl, fun _ => (List.append_nil _).symm⟩

def StagesChange (c : Command) (change : Change) : Prop :=
  ∀ (s s' : State) (r : Answer c), s.Runs "dhcp" c r s' →
    (∃ printed, r = .ok printed) ∧ s' = s.stage change ∨ (∃ err, r = .error err) ∧ s' = s

theorem holds_issue (hc : StagesChange c change) (hcommit : c ≠ .commit) :
    Ends uciGoes (Stages [change] w) (issue c).run w := by
  refine ends_call_bind.2 fun r w' hgoes => ?_
  obtain ⟨hruns, hjournal⟩ := goes_uci hgoes hcommit
  obtain ⟨⟨printed, rfl⟩, hdhcp⟩ | ⟨⟨err, rfl⟩, hdhcp⟩ := hc _ _ _ hruns
  · exact ⟨hjournal, by rw [hdhcp, stage], fun _ => by rw [hdhcp, stage]⟩
  · exact ⟨hjournal, by rw [hdhcp], by rintro ⟨⟩⟩

theorem name_of_resolve {s : State} {sec : Section} (h : s.resolve splitIpset = some sec) :
    sec.name = splitName := by
  have htext : sec.name.text = "nym_split_ipset" := by simpa using List.find?_some h
  exact Name.text_inj.1 htext

theorem stagesChange_of_perform (hrevert : ∀ ref o, c ≠ .revert ref o)
    (h : ∀ (s : State) printed s', s.perform "dhcp" c = some (printed, s') → s' = s.stage change) :
    StagesChange c change := by
  intro s s' r hruns
  refine (hruns.done_or_failed hrevert).imp_left ?_
  rintro ⟨printed, rfl, hperform⟩
  exact ⟨⟨printed, rfl⟩, h _ _ _ hperform⟩

theorem stagesChange_of_resolve {f : Name → Change}
    (hrevert : ∀ ref o, c ≠ .revert ref o)
    (h : ∀ s : State, s.perform "dhcp" c =
      (s.resolve splitIpset).map fun sec => ("", s.stage (f sec.name))) :
    StagesChange c (f splitName) := by
  apply stagesChange_of_perform hrevert
  intro s printed s' hperform
  rw [h, Option.map_eq_some_iff] at hperform
  obtain ⟨sec, hsec, heq⟩ := hperform
  rw [← (Prod.mk.inj heq).2, name_of_resolve hsec]

theorem stagesChange_addList (o : Name) (v : String) :
    StagesChange (.addList splitIpset o v) (.addList splitName o v) :=
  stagesChange_of_resolve (f := fun n => .addList n o v) (by simp) fun _ => rfl

theorem stagesChange_set (o : Name) (v : String) :
    StagesChange (.set splitIpset (some o) v) (.set splitName o v) :=
  stagesChange_of_resolve (f := fun n => .set n o v) (by simp) fun _ => rfl

theorem stagesChange_setSection (type : String) :
    StagesChange (.set splitIpset none type) (.setSection splitName type) := by
  apply stagesChange_of_perform (by simp)
  intro s printed s' h
  rw [splitIpset, perform, Option.map_eq_some_iff] at h
  obtain ⟨n, hn, heq⟩ := h
  obtain rfl : splitName = n := Option.some.inj hn
  exact (Prod.mk.inj heq).2.symm

theorem holds_addDomains (domains : List String) :
    Ends uciGoes (Stages (domains.map (.addList splitName domainOption)) w)
      (forM domains fun domain => issue (.addList splitIpset domainOption domain) :
        ExceptT String (Prog Command Answer) Unit).run w := by
  induction domains generalizing w with
  | nil => exact holds_stages_pure
  | cons domain domains ih =>
    rw [List.forM_cons, List.map_cons]
    exact holds_stages_bind (holds_issue (stagesChange_addList _ _) nofun) fun _ => ih

theorem holds_stageSplitIpset (present : Bool) (wanted : Option (List String)) :
    Ends uciGoes (Stages (stagedChanges present wanted) w)
      (stageSplitIpset present wanted).run w := by
  have hsection (v : SplitWorld) :
      Ends uciGoes (Stages (stagedChanges false wanted) v)
        (stageSplitIpset false wanted).run v := by
    cases wanted with
    | none => exact holds_stages_pure
    | some domains =>
      have hset (o : Name) (v : String) (w : SplitWorld) :=
        holds_issue (w := w) (stagesChange_set o v) nofun
      have hadd (o : Name) (v : String) (w : SplitWorld) :=
        holds_issue (w := w) (stagesChange_addList o v) nofun
      refine holds_stages_bind (D := [_]) (holds_issue (stagesChange_setSection _) nofun) ?_
      refine fun _ => holds_stages_bind (D := [_]) (hadd _ _ _) fun _ => ?_
      refine holds_stages_bind (D := [_]) (hadd _ _ _) fun _ => ?_
      refine holds_stages_bind (holds_addDomains domains) fun _ => ?_
      exact holds_stages_bind (D := [_]) (hset _ _ _) (hset _ _)
  cases present with
  | false => exact hsection w
  | true =>
    exact holds_stages_bind (holds_issue (stagesChange_of_resolve (by simp) fun _ => rfl) nofun)
      hsection

end Staging

/-! ## The domains that are staged -/

section Domains

variable {p : Package} {domains : List String} {f : Section → Section}

theorem splitSection_modify (hname : ∀ s, (f s).name = s.name) :
    splitSection (p.modify splitName f) = (splitSection p).map f := by
  induction p with
  | nil => rfl
  | cons s p ih =>
    by_cases h : s.name = splitName
    · simp [splitSection, Package.modify, h, hname]
    · have htext : s.name.text ≠ splitName.text := fun ht => h (Name.text_inj.1 ht)
      rw [splitSection, splitSection] at ih
      simpa [splitSection, Package.modify, h, htext] using ih

def HasDomains (domains : List String) (p : Package) : Prop :=
  ∃ sec, splitSection p = some sec ∧ sec.type = "ipset" ∧ sectionDomains sec = domains

def leftOver (p : Package) : List String := (splitSection p).elim [] sectionDomains

theorem hasDomains_setSection (p : Package) :
    HasDomains (leftOver p) (p.apply (.setSection splitName "ipset")) := by
  rw [Package.apply, Package.setSection, leftOver]
  cases hsec : splitSection p with
  | none =>
    have hany : p.any (·.name = splitName) = false := by
      rw [List.any_eq_false]
      intro s hs heq
      refine List.find?_eq_none.1 hsec s hs ?_
      rw [of_decide_eq_true heq]
      rfl
    rw [splitSection] at hsec
    rw [hany, if_neg Bool.false_ne_true]
    exact ⟨⟨splitName, false, "ipset", []⟩, by simp [splitSection, hsec], rfl, rfl⟩
  | some sec =>
    have hname : sec.name = splitName := by
      have htext : sec.name.text = splitName.text := by simpa using List.find?_some hsec
      exact Name.text_inj.1 htext
    have hany : p.any (·.name = splitName) = true :=
      List.any_eq_true.2 ⟨sec, List.mem_of_find?_eq_some hsec, decide_eq_true hname⟩
    have hmodify := splitSection_modify (p := p) (f := ({ · with type := "ipset" })) fun _ => rfl
    rw [if_pos hany]
    exact ⟨{ sec with type := "ipset" }, hmodify.trans (by rw [hsec]; rfl), rfl, rfl⟩

theorem HasDomains.modify (more : List String) (h : HasDomains domains p)
    (hf : ∀ s, (f s).header = s.header)
    (hdomains : ∀ s, sectionDomains (f s) = sectionDomains s ++ more) :
    HasDomains (domains ++ more) (p.modify splitName f) := by
  obtain ⟨sec, hsec, htype, rfl⟩ := h
  have hname (s : Section) : (f s).name = s.name := Section.name_eq_of_header (hf s)
  have htype' : (f sec).header.type = sec.header.type := by rw [hf]
  exact ⟨f sec, by rw [splitSection_modify hname, hsec]; rfl, htype'.trans htype, hdomains sec⟩

theorem sectionDomains_put {s : Section} {o : Name} (ho : o ≠ domainOption) (v : Value) :
    sectionDomains (s.put o v) = sectionDomains s := by
  rw [sectionDomains, Section.get?_put, if_neg (Ne.symm ho), sectionDomains]

theorem HasDomains.addName (h : HasDomains domains p) (v : String) :
    HasDomains domains (p.apply (.addList splitName nameOption v)) := by
  have hadd := h.modify [] (fun _ => Section.header_addItem (o := nameOption) v) fun s => by
    unfold Section.addItem
    split <;> rw [sectionDomains_put (by decide), List.append_nil]
  rwa [List.append_nil] at hadd

theorem HasDomains.set {o : Name} (h : HasDomains domains p) (ho : o ≠ domainOption) (v : String) :
    HasDomains domains (p.apply (.set splitName o v)) := by
  have hset := h.modify [] (fun _ => Section.header_put (o := o) (.string v)) fun s => by
    rw [sectionDomains_put ho, List.append_nil]
  rwa [List.append_nil] at hset

theorem HasDomains.addDomain (h : HasDomains domains p) (d : String) :
    HasDomains (domains ++ [d]) (p.apply (.addList splitName domainOption d)) := by
  refine h.modify [d] (fun _ => Section.header_addItem d) fun s => ?_
  unfold Section.addItem
  split <;> next hget =>
    rw [sectionDomains, sectionDomains, Section.get?_put, if_pos rfl, hget]
    rfl

theorem HasDomains.addDomains (h : HasDomains domains p) (more : List String) :
    HasDomains (domains ++ more)
      ((more.map (.addList splitName domainOption)).foldl Package.apply p) := by
  induction more generalizing domains p with
  | nil => simpa using h
  | cons d more ih =>
    rw [List.map_cons, List.foldl_cons, List.append_cons]
    exact ih (h.addDomain d)

theorem splitSection_remove (p : Package) : splitSection (p.apply (.remove splitName)) = none := by
  rw [splitSection, List.find?_eq_none]
  intro s hs htext
  have hne := (List.mem_filter.1 hs).2
  have hname : s.name = splitName := Name.text_inj.1 (of_decide_eq_true htext)
  simp [hname] at hne

theorem splitDomains_stagedChanges {present : Bool} {wanted : Option (List String)}
    (h : present = true ∨ wanted ≠ none) (p : Package) :
    splitDomains ((stagedChanges present wanted).foldl Package.apply p) =
      (if present then [] else leftOver p) ++ wanted.getD [] := by
  have hfirst : leftOver ((if present then [.remove splitName] else []).foldl Package.apply p) =
      if present then [] else leftOver p := by
    cases present with
    | false => rfl
    | true =>
      change leftOver (p.apply (.remove splitName)) = []
      rw [leftOver, splitSection_remove]
      rfl
  cases wanted with
  | none =>
    obtain rfl : present = true := h.resolve_right fun h => h rfl
    change splitDomains (p.apply (.remove splitName)) = []
    rw [splitDomains, splitSection_remove]
  | some domains =>
    rw [stagedChanges, List.foldl_append, ← hfirst]
    generalize List.foldl _ p _ = q
    have hnames := ((hasDomains_setSection q).addName "nym_bypass4").addName "nym_bypass6"
    have hdomains := hnames.addDomains domains
    have htable := hdomains.set (o := tableOption) (by decide) "fw4"
    have hfamily := htable.set (o := tableFamilyOption) (by decide) "inet"
    rw [List.foldl_append, List.foldl_append]
    obtain ⟨sec, hsec, htype, hdomains⟩ := hfamily
    rw [Option.getD_some, ← hdomains]
    simp [splitDomains, hsec, htype]

theorem leftOver_eq_nil {q : Package} (h : p.headers = q.headers) (hq : splitSection q = none) :
    leftOver p = [] := by
  have hheader (p : Package) : splitSection p.headers = (splitSection p).map Section.header :=
    List.find?_map
  have hp : (splitSection p).map Section.header = none := by rw [← hheader, h, hheader, hq]; rfl
  rw [leftOver, Option.map_eq_none_iff.1 hp]
  rfl

theorem option_ne_of_mem_stagedChanges {present : Bool} {wanted : Option (List String)} {c : Change}
    (hc : c ∈ stagedChanges present wanted) : c.option ≠ some resolvfile := by
  have hoption : c.option ∈
      [none, some nameOption, some domainOption, some tableOption, some tableFamilyOption] := by
    cases wanted with
    | none =>
      cases present with
      | false => exact absurd hc List.not_mem_nil
      | true =>
        obtain rfl := List.mem_singleton.1 hc
        exact List.mem_cons_self
    | some domains =>
      simp only [stagedChanges, List.mem_append, List.mem_ite_nil_right, List.mem_cons,
        List.not_mem_nil, or_false, List.mem_map] at hc
      obtain ⟨-, rfl⟩ | (rfl | rfl | rfl) | ⟨d, -, rfl⟩ | rfl | rfl := hc <;>
        simp [Change.option, Change.listed]
  intro heq
  rw [heq] at hoption
  revert hoption
  decide

end Domains

/-! ## The domains that are read -/

section Reading

variable {w : SplitWorld}

theorem resolve_splitIpset (s : State) : s.resolve splitIpset = splitSection s.package := rfl

theorem holds_domainsIfIpset {sec : Section} (isIpset : Bool)
    (hsec : splitSection w.dhcp.package = some sec) :
    Ends uciGoes
      (fun current w' => w' = w ∧ current = if isIpset = true ∧ w.domainsRead = true then
        (sec.get? domainOption).elim [] fun v => fields isWhiteSpace (valueText v ++ "\n") else [])
      (domainsIfIpset isIpset) w := by
  cases isIpset with
  | false => exact ⟨rfl, by simp⟩
  | true =>
    refine ends_call_bind.2 fun r w' hgoes => ?_
    obtain ⟨rfl, hread⟩ := goes_get hgoes
    have hwords (r : Except String String) :
        domainWords r = r.toOption.elim [] (fields isWhiteSpace) := by
      cases r <;> rfl
    refine ⟨rfl, ?_⟩
    rw [hwords, hread, SplitWorld.reads]
    cases w'.domainsRead with
    | false => rfl
    | true => cases hget : sec.get? domainOption <;> simp [perform, resolve_splitIpset, hsec, hget]

theorem holds_splitIpsetDomains :
    Ends uciGoes (fun current w' => w' = w ∧ current = w.seen) splitIpsetDomains w := by
  refine ends_call_bind.2 fun r w' hgoes => ?_
  obtain ⟨rfl, hread⟩ := goes_get hgoes
  rw [perform, resolve_splitIpset, Option.map_map, SplitWorld.reads] at hread
  unfold SplitWorld.seen
  cases r with
  | error err =>
    refine ⟨rfl, ?_⟩
    split
    · next hreads =>
        rw [if_pos hreads] at hread
        rw [Option.map_eq_none_iff.1 hread.symm]
        rfl
    · rfl
  | ok kind =>
    have hreads : w'.sectionRead = true := by
      by_contra hreads
      rw [if_neg hreads] at hread
      cases hread
    rw [if_pos hreads] at hread ⊢
    obtain ⟨sec, hsec, hkind⟩ := Option.map_eq_some_iff.1 hread.symm
    refine holds_bind.2 ((holds_domainsIfIpset _ hsec).imp fun current v hv => ?_)
    obtain ⟨rfl, rfl⟩ := hv
    obtain rfl : sec.type ++ "\n" = kind := hkind
    refine ⟨rfl, ?_⟩
    rw [hsec, Option.map_some]
    simp only [decide_eq_true_eq]

end Reading

/-! ## The section is brought to the wanted domains -/

section Sync

variable {w : SplitWorld}

theorem holds_stageAndCommit (present : Bool) (wanted : Option (List String)) :
    Ends uciGoes (Commits (stagedChanges present wanted) w)
      (stageAndCommit present wanted).run w := by
  refine holds_run_bind.2 ((holds_stageSplitIpset present wanted).imp fun r v hv => ?_)
  cases r with
  | error err => exact nofun
  | ok u =>
    exact holds_commitDhcp (fun _ => option_ne_of_mem_stagedChanges)
      ⟨hv.journal, hv.file, _, hv.staged rfl, rfl⟩

/-- An attempt to bring the section to the wanted domains: it fails, there is nothing to do,
or a commit with the wanted domains, and no other if the section was read. -/
inductive Synced (w : SplitWorld) (wanted : Option (List String)) :
    Except String DhcpChange → SplitWorld → Prop where
  | failed (err : String) (w' : SplitWorld) : Synced w wanted (.error err) w'
  | unchanged (h : w.seen = wanted) : Synced w wanted (.ok {}) w
  | committed {after : Package} {w' : SplitWorld} (h : w.seen ≠ wanted)
      (hwanted : ∀ d ∈ wanted.getD [], d ∈ splitDomains after)
      (hread : w.ReadsSection → ∀ d ∈ splitDomains after, d ∈ wanted.getD [])
      (hjournal : w'.journal = w.journal ++ [.commit w.dhcp.file.package after]) :
      Synced w wanted (.ok ⟨true, (w.seen.getD []).any (· ∉ wanted.getD [])⟩) w'

theorem isSome_seen_or_leftOver {p : Package} (hp : p.headers = w.dhcp.package.headers)
    (h : w.ReadsSection) : w.seen.isSome = true ∨ leftOver p = [] := by
  cases hsec : splitSection w.dhcp.package with
  | none => exact Or.inr (leftOver_eq_nil hp hsec)
  | some sec =>
    have hread : w.sectionRead = true := h.resolve_right (by simp [hsec])
    exact Or.inl (by simp [SplitWorld.seen, hread, hsec])

theorem holds_syncSplitIpset (wanted : Option (List String)) :
    Ends uciGoes (Synced w wanted) (syncSplitIpset wanted) w := by
  refine holds_bind.2 (holds_splitIpsetDomains.imp fun current v hv => ?_)
  obtain ⟨rfl, rfl⟩ := hv
  split
  · next heq => exact .unchanged heq
  · next hne =>
      refine holds_bind.2 ((holds_stageAndCommit v.seen.isSome wanted).imp fun r v' hv' => ?_)
      cases r with
      | error err => exact ends_call_bind.2 fun _ _ _ => .failed err _
      | ok u =>
        obtain ⟨p, hp, hjournal⟩ := hv' rfl
        have hstaged : v.seen.isSome = true ∨ wanted ≠ none := by
          cases hseen : v.seen with
          | some domains => exact Or.inl rfl
          | none => exact Or.inr fun h => hne (hseen.trans h.symm)
        have hdomains := splitDomains_stagedChanges hstaged p
        refine .committed hne (fun d hd => ?_) (fun hread d hd => ?_) hjournal
        · rw [hdomains]
          exact List.mem_append_right _ hd
        · have hkept : (if v.seen.isSome then [] else leftOver p) = [] := by
            rcases isSome_seen_or_leftOver hp hread with h | h <;> simp [h]
          rwa [hdomains, hkept, List.nil_append] at hd

end Sync

end Rpcd
