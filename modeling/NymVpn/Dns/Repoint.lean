import NymVpn.Program.Same
import NymVpn.Uci.Listing

/-!
# The staged repoint

dnsmasq is pointed at the managed file with a change that is staged and never committed.
Every commit of the package takes it back first and stages it again afterwards.
-/

namespace NymDns

open Program Program.Prog Text Uci

def managedFile : String := "/tmp/resolv.conf.d/nym-resolv.conf"

def resolvfile : Name := ⟨"resolvfile", by decide, by decide⟩

inductive Error where
  | notOpenWrt
  | noDnsmasq
  | uciCommand (message : String)
  | dnsmasqRestart (message : String)
  | writeFile (path source : String)
  | actorGone

def collect (found : String → Option String) (ls : List String) : List String :=
  ls.foldl (fun sections line =>
      match found line with
      | none => sections
      | some s => if s ∈ sections then sections else sections ++ [s])
    []

def stagedResolvfile (line : String) : Option (String × String) := do
  let (key, value) ← splitOnce '=' (strTrim line)
  let key ← stripStart "dhcp." key
  let s ← stripEnd ".resolvfile" key
  return (s, value)

def stagedRepoint (managed line : String) : Option String := do
  let (s, value) ← stagedResolvfile line
  if value = "'" ++ managed ++ "'" ∧ '.' ∉ s.toList then some s else none

def stagedRepoints (changes managed : String) : List String :=
  collect (stagedRepoint managed) (strLines changes)

structure DhcpCommit where
  committed : Except Error Unit
  restaged : Except Error Unit

def uciResult : Except String String → Except Error Unit
  | .ok _ => .ok ()
  | .error message => .error (.uciCommand message)

def stillStaged : String := "resolvfile repoint still staged after revert; dhcp left uncommitted"

def checkReverted (managed : String) (sections : List String) :
    Prog Command Answer (Except Error Unit) := do
  if sections = [] then return .ok ()
  match ← call .changes with
  | .ok changes =>
    if stagedRepoints changes managed = [] then return .ok ()
    else return .error (.uciCommand stillStaged)
  | .error message => return .error (.uciCommand message)

def revertRepoints (sections : List String) : Prog Command Answer PUnit :=
  forM sections fun s => discard (call (.revert (.named s) (some resolvfile)))

def commitIf : Except Error Unit → Prog Command Answer (Except Error Unit)
  | .ok () => do return uciResult (← call .commit)
  | .error e => return .error e

/-- Every section is tried, and the first error is kept. -/
def restageRepoints (managed : String) (sections : List String) :
    Prog Command Answer (Except Error Unit) :=
  sections.foldlM
    (fun restaged s => do
      let result := uciResult (← call (.set (.named s) (some resolvfile) managed))
      return restaged.bind fun () => result)
    (.ok ())

def commitDhcpKeepingRepoint (managed : String) : Prog Command Answer DhcpCommit := do
  match ← call .changes with
  | .error message => return ⟨.error (.uciCommand message), .ok ()⟩
  | .ok changes =>
    let sections := stagedRepoints changes managed
    revertRepoints sections
    let reverted ← checkReverted managed sections
    let committed ← commitIf reverted
    let restaged ← restageRepoints managed sections
    return ⟨committed, restaged⟩

/-! ## The printed changes -/

def repoints (managed : String) : Change → Bool
  | .set _ o value => o = resolvfile && value = managed
  | _ => false

theorem mem_collect {found : String → Option String} {ls : List String} {s : String} :
    s ∈ collect found ls ↔ ∃ l ∈ ls, found l = some s := by
  induction ls using List.reverseRecOn with
  | nil => simp [collect]
  | append_singleton ls l ih =>
    rw [collect, List.foldl_append] at *
    simp only [List.foldl_cons, List.foldl_nil, List.mem_append, List.mem_singleton, or_and_right,
      exists_or, exists_eq_left, ← ih]
    cases found l with
    | none => simp
    | some r =>
      simp only [Option.some.injEq]
      split
      · next hr => exact ⟨Or.inl, fun h => h.elim id fun h => h ▸ hr⟩
      · rw [List.mem_append, List.mem_singleton, eq_comm (a := r)]

theorem stagedResolvfile_eq_some_iff {line s value : String} :
    stagedResolvfile line = some (s, value) ↔ (strTrim line).toList =
      ("dhcp".toList ++ '.' :: s.toList ++ '.' :: resolvfile.text.toList) ++ '=' :: value.toList ∧
        '=' ∉ s.toList := by
  have hkey (key : String) : (∃ rest, stripStart "dhcp." key = some rest ∧
      stripEnd ".resolvfile" rest = some s) ↔
      key.toList = "dhcp".toList ++ '.' :: s.toList ++ '.' :: resolvfile.text.toList := by
    simp only [stripStart_eq_some_iff, stripEnd_eq_some_iff]
    constructor
    · rintro ⟨rest, hkey, hrest⟩
      rw [hkey, hrest]
      simp [resolvfile]
    · intro h
      refine ⟨s ++ ".resolvfile", ?_, by simp⟩
      rw [h]
      simp [resolvfile]
  have hequals : '=' ∉ "dhcp".toList ++ '.' :: s.toList ++ '.' :: resolvfile.text.toList ↔
      '=' ∉ s.toList := by
    simp [resolvfile]
  constructor
  · intro h
    simp only [stagedResolvfile, Option.bind_eq_bind, Option.bind_eq_some_iff] at h
    obtain ⟨⟨key, value'⟩, hsplit, rest, hstart, s', hend, heq⟩ := h
    cases heq
    obtain ⟨htrim, hfirst⟩ := splitOnce_eq_some_iff.1 hsplit
    rw [(hkey key).1 ⟨rest, hstart, hend⟩] at htrim hfirst
    exact ⟨htrim, hequals.1 hfirst⟩
  · rintro ⟨htrim, hs⟩
    set key := "dhcp".toList ++ '.' :: s.toList ++ '.' :: resolvfile.text.toList with hk
    have hsplit : splitOnce '=' (strTrim line) = some (.ofList key, value) := by
      rw [splitOnce_eq_some_iff, String.toList_ofList]
      exact ⟨htrim, hequals.2 hs⟩
    obtain ⟨rest, hstart, hend⟩ := (hkey (.ofList key)).2 String.toList_ofList
    simp [stagedResolvfile, hsplit, hstart, hend]

theorem opens_dhcp : Opens "dhcp" :=
  ⟨⟨'d', "hcp".toList, by decide, by decide, by decide⟩, by decide, by decide⟩

/-- A path that is printed as it is and is no name. -/
structure IsManaged (managed : String) : Prop where
  plain : Plain managed
  notName : ∃ c ∈ managed.toList, isNameChar c = false

theorem isManaged_managedFile : IsManaged managedFile :=
  ⟨⟨⟨'/', _, rfl, by decide⟩, by decide, by decide⟩, '/', by decide, by decide⟩

section

variable {managed : String}

theorem stagedRepoint_eq_some_iff {line s : String} : stagedRepoint managed line = some s ↔
    (strTrim line).toList = assignment "dhcp" s resolvfile.text managed ∧
      '.' ∉ s.toList ∧ '=' ∉ s.toList := by
  have hvalue : ("'" ++ managed ++ "'").toList = '\'' :: (managed.toList ++ ['\'']) := by simp
  simp only [stagedRepoint, Option.bind_eq_bind, Option.bind_eq_some_iff, Prod.exists,
    Option.ite_none_right_eq_some, Option.some.injEq]
  constructor
  · rintro ⟨s', value, hline, ⟨rfl, hdot⟩, rfl⟩
    obtain ⟨htrim, hequals⟩ := stagedResolvfile_eq_some_iff.1 hline
    rw [hvalue] at htrim
    exact ⟨htrim, hdot, hequals⟩
  · rintro ⟨htrim, hdot, hequals⟩
    refine ⟨s, "'" ++ managed ++ "'", stagedResolvfile_eq_some_iff.2 ⟨?_, hequals⟩,
      ⟨rfl, hdot⟩, rfl⟩
    rw [hvalue]
    exact htrim

theorem mem_stagedRepoints (hm : IsManaged managed) {staged : List Change} {s : String} :
    s ∈ stagedRepoints (changesText "dhcp" staged) managed ↔
      ∃ n, .set n resolvfile managed ∈ staged ∧ n.text = s := by
  have hnil : ¬ ("".toList = assignment "dhcp" s resolvfile.text managed ∧
      '.' ∉ s.toList ∧ '=' ∉ s.toList) := by
    simp [assignment]
  rw [stagedRepoints, mem_collect]
  simp only [stagedRepoint_eq_some_iff]
  rw [exists_mem_changesText_iff
    (P := fun t => t.toList = assignment "dhcp" s resolvfile.text managed ∧
      '.' ∉ s.toList ∧ '=' ∉ s.toList) hnil]
  constructor
  · rintro ⟨c, hc, line, hline, htrim, hs, hs'⟩
    obtain ⟨n, rfl, hn⟩ := (exists_mem_lines_iff opens_dhcp hm.plain hm.notName hs hs').1
      ⟨line, hline, htrim⟩
    exact ⟨n, hc, hn⟩
  · rintro ⟨n, hc, rfl⟩
    obtain ⟨line, hline, htrim⟩ := exists_mem_lines_set opens_dhcp hm.plain n resolvfile
    exact ⟨_, hc, line, hline, htrim, n.not_mem (by decide), n.not_mem (by decide)⟩

end

/-! ## The commit -/

/-- The staged changes, but for those of the `resolvfile` of a section with the repoint. -/
def others (managed : String) (staged : List Change) : List Change :=
  staged.filter fun c => !(c.option = some resolvfile && .set c.name resolvfile managed ∈ staged)

section Commit

variable {managed : String} {s : State} {w w' : World}

variable (managed) in
/-- No commit was run with the repoint staged. -/
def Guarded (w : World) : Prop :=
  ∀ e ∈ w.journal, e.command = .commit → ∀ c ∈ e.before.staged, repoints managed c = false

variable (managed) in
/-- A commit that succeeded made all changes but those of a repointed `resolvfile`. -/
def CommitsOthers (s : State) (w : World) : Prop :=
  (∃ e ∈ w.journal, e.command = .commit ∧ ∃ printed, e.answer = .ok printed) →
    w.state.file.package = (others managed s.staged).foldl Package.apply s.file.package

variable (managed) in
def Restaged (n : Name) (w : World) : Prop :=
  .set n resolvfile managed ∈ w.state.staged ∨
    ∃ e ∈ w.journal, e.command = .set (.named n.text) (some resolvfile) managed ∧
      ∃ message, e.answer = .error message

structure Reverting (s : State) (sections : List String) (w : World) : Prop where
  file : w.state.file = s.file
  staged : ∃ reverted ⊆ sections, w.state.staged =
    s.staged.filter fun c => !reverted.any fun n => State.concerns n (some resolvfile) c
  journal : ∀ e ∈ w.journal, e.command ≠ .commit

variable {sections : List String} {n : String}
  {r : Answer (.set (.named n) (some resolvfile) managed)}

theorem Reverting.guarded (h : Reverting s sections w) : Guarded managed w :=
  fun e he hcommit => absurd hcommit (h.journal e he)

theorem Reverting.revert {r : Answer (.revert (.named n) (some resolvfile))}
    (h : Reverting s sections w) (hn : n ∈ sections)
    (hgoes : w.Goes "dhcp" (.revert (.named n) (some resolvfile)) r w') :
    Reverting s sections w' := by
  obtain ⟨s', hruns, rfl⟩ := hgoes
  have hjournal : ∀ e ∈ w.journal ++ [⟨.revert (.named n) (some resolvfile), r, w.state⟩],
      e.command ≠ .commit :=
    List.forall_mem_append.2 ⟨h.journal, by simp⟩
  rcases hruns.revert with rfl | rfl
  · exact ⟨h.file, h.staged, hjournal⟩
  · obtain ⟨reverted, hsub, hstaged⟩ := h.staged
    refine ⟨h.file, ⟨n :: reverted, List.cons_subset.2 ⟨hn, hsub⟩, ?_⟩, hjournal⟩
    change (w.state.revert n (some resolvfile)).staged = _
    rw [State.revert, hstaged, List.filter_filter]
    apply List.filter_congr
    intro c _
    simp

theorem Reverting.changes {r : Answer .changes} (h : Reverting s sections w)
    (hgoes : w.Goes "dhcp" .changes r w') :
    Reverting s sections w' ∧
      ∀ printed, r = .ok printed → printed = changesText "dhcp" w'.state.staged := by
  obtain ⟨s', hruns, rfl⟩ := hgoes
  obtain ⟨rfl, hprinted⟩ := hruns.changes
  exact ⟨⟨h.file, h.staged, List.forall_mem_append.2 ⟨h.journal, by simp⟩⟩, hprinted⟩

theorem Reverting.staged_eq_others (hm : IsManaged managed)
    (h : Reverting s (stagedRepoints (changesText "dhcp" s.staged) managed) w)
    (hgone : stagedRepoints (changesText "dhcp" w.state.staged) managed = []) :
    w.state.staged = others managed s.staged := by
  obtain ⟨reverted, hsub, hstaged⟩ := h.staged
  have hreverted (n : Name) : n.text ∈ reverted ↔ .set n resolvfile managed ∈ s.staged := by
    constructor
    · intro hn
      obtain ⟨n', hstaged', hn'⟩ := (mem_stagedRepoints hm).1 (hsub hn)
      rwa [← Name.text_inj.1 hn']
    · intro hn
      by_contra hnot
      -- The repoint of a section that was not reverted is still there.
      have hleft : .set n resolvfile managed ∈ w.state.staged := by
        rw [hstaged, List.mem_filter, Bool.not_eq_true', ← Bool.not_eq_true,
          State.any_concerns_some]
        exact ⟨hn, fun h => hnot h.1⟩
      have hfound := (mem_stagedRepoints hm).2 ⟨n, hleft, rfl⟩
      rw [hgone] at hfound
      cases hfound
  rw [hstaged, others]
  apply List.filter_congr
  intro c _
  rw [Bool.eq_iff_iff, Bool.not_eq_true', ← Bool.not_eq_true, State.any_concerns_some, hreverted]
  simp [imp_iff_not_or, and_comm]

theorem repoints_eq_false (hm : IsManaged managed) {staged : List Change}
    (hgone : stagedRepoints (changesText "dhcp" staged) managed = []) :
    ∀ c ∈ staged, repoints managed c = false := by
  intro c hc
  by_contra hrepoints
  cases c with
  | set n o v =>
    obtain ⟨rfl, rfl⟩ : o = resolvfile ∧ v = managed := by simpa [repoints] using hrepoints
    have hfound := (mem_stagedRepoints hm).2 ⟨n, hc, rfl⟩
    rw [hgone] at hfound
    cases hfound
  | _ => exact hrepoints rfl

structure Reverted (managed : String) (s : State) (w : World) : Prop where
  file : w.state.file = s.file
  staged : w.state.staged = others managed s.staged
  none : ∀ c ∈ w.state.staged, repoints managed c = false
  journal : ∀ e ∈ w.journal, e.command ≠ .commit

theorem Reverting.reverted (hm : IsManaged managed)
    (h : Reverting s (stagedRepoints (changesText "dhcp" s.staged) managed) w)
    (hgone : stagedRepoints (changesText "dhcp" w.state.staged) managed = []) :
    Reverted managed s w :=
  ⟨h.file, h.staged_eq_others hm hgone, repoints_eq_false hm hgone, h.journal⟩

structure Committed (managed : String) (s : State) (w : World) : Prop where
  guarded : Guarded managed w
  others : CommitsOthers managed s w

theorem Reverting.committed (h : Reverting s sections w) : Committed managed s w := by
  refine ⟨h.guarded, ?_⟩
  rintro ⟨e, he, hcommit, -⟩
  exact absurd hcommit (h.journal e he)

theorem Reverted.commit {r : Answer .commit} (h : Reverted managed s w)
    (hgoes : w.Goes "dhcp" .commit r w') : Committed managed s w' := by
  obtain ⟨s', hruns, rfl⟩ := hgoes
  constructor
  · refine List.forall_mem_append.2 ⟨fun e he hcommit => absurd hcommit (h.journal e he), ?_⟩
    simpa using h.none
  · rintro ⟨e, he, hcommit, printed, hok⟩
    have he : e = ⟨.commit, r, w.state⟩ := by
      rcases List.mem_append.1 he with he | he
      · exact absurd hcommit (h.journal e he)
      · exact List.mem_singleton.1 he
    rcases hruns.commit with ⟨-, rfl⟩ | ⟨⟨message, hr⟩, -⟩
    · rw [State.package_commit, State.package, h.staged, h.file]
    · rw [he, hr] at hok
      cases hok

theorem Committed.set (h : Committed managed s w)
    (hgoes : w.Goes "dhcp" (.set (.named n) (some resolvfile) managed) r w') :
    Committed managed s w' := by
  obtain ⟨s', hruns, rfl⟩ := hgoes
  have hfile : s'.file = w.state.file := by
    rcases hruns.set with ⟨n', -, rfl⟩ | ⟨-, rfl⟩ <;> rfl
  constructor
  · exact List.forall_mem_append.2 ⟨h.guarded, by simp⟩
  · rintro ⟨e, he, hcommit, hok⟩
    rw [hfile]
    rcases List.mem_append.1 he with he | he
    · exact h.others ⟨e, he, hcommit, hok⟩
    · cases List.mem_singleton.1 he
      cases hcommit

theorem restaged_set {n' : Name}
    (hgoes : w.Goes "dhcp" (.set (.named n) (some resolvfile) managed) r w')
    (h : n'.text = n ∨ Restaged managed n' w) : Restaged managed n' w' := by
  obtain ⟨s', hruns, rfl⟩ := hgoes
  rcases h with rfl | h
  · rcases hruns.set with ⟨n, hn, rfl⟩ | ⟨hfailed, -⟩
    · rw [← Name.text_inj.1 hn]
      exact Or.inl (List.mem_append_right _ (List.mem_singleton.2 rfl))
    · exact Or.inr ⟨_, List.mem_append_right _ (List.mem_singleton.2 rfl), rfl, hfailed⟩
  · rcases h with h | ⟨e, he, hset⟩
    · left
      rcases hruns.set with ⟨n, -, rfl⟩ | ⟨-, rfl⟩
      · exact List.mem_append_left _ h
      · exact h
    · exact Or.inr ⟨e, List.mem_append_left _ he, hset⟩

structure KeepsRepoint (managed : String) (s : State) (w : World) : Prop where
  committed : Committed managed s w
  restaged : ∀ n, .set n resolvfile managed ∈ s.staged → Restaged managed n w

theorem holds_checkReverted (hm : IsManaged managed)
    (hsections : sections = stagedRepoints (changesText "dhcp" s.staged) managed)
    (h : Reverting s sections w) :
    Holds (World.Goes "dhcp") (Guarded managed)
      (fun r w => (r = .ok () → Reverted managed s w) ∧ Reverting s sections w)
      (checkReverted managed sections) w := by
  unfold checkReverted
  split
  · next hnil =>
      refine ⟨fun _ => ?_, h⟩
      subst hnil
      obtain ⟨reverted, hsub, hstaged⟩ := h.staged
      have hstaged : w.state.staged = s.staged := by
        rw [hstaged, List.subset_nil.1 hsub]
        simp
      have hreverted : Reverting s (stagedRepoints (changesText "dhcp" s.staged) managed) w :=
        hsections ▸ h
      exact hreverted.reverted hm (by rw [hstaged, ← hsections])
  · intro r w' hgoes
    obtain ⟨h', hprinted⟩ := h.changes hgoes
    refine ⟨h'.guarded, ?_⟩
    cases r with
    | error message => exact ⟨fun hr => (nomatch hr), h'⟩
    | ok changes =>
      obtain rfl := hprinted changes rfl
      change Holds _ _ _ (ite _ _ _) _
      split
      · next hgone => exact ⟨fun _ => (hsections ▸ h').reverted hm hgone, h'⟩
      · exact ⟨fun hr => (nomatch hr), h'⟩

theorem holds_revertRepoints (h : Reverting s sections w) :
    Holds (World.Goes "dhcp") (Guarded managed) (fun _ w => Reverting s sections w)
      (revertRepoints sections) w := by
  refine holds_forM (fun l w => Reverting s sections w ∧ l ⊆ sections) ?_ (fun _ h => h.1)
    sections ⟨h, fun _ hn => hn⟩
  rintro n l w ⟨h, hl⟩ r w' hgoes
  have h' := h.revert (hl (by simp)) hgoes
  exact ⟨h'.guarded, h', fun _ hn => hl (by simp [hn])⟩

theorem holds_commitIf {r : Except Error Unit} (hok : r = .ok () → Reverted managed s w)
    (h : Reverting s sections w) :
    Holds (World.Goes "dhcp") (Guarded managed) (fun _ w => Committed managed s w)
      (commitIf r) w := by
  cases r with
  | error e => exact h.committed
  | ok u =>
    intro r w' hgoes
    have hcommitted := (hok rfl).commit hgoes
    exact ⟨hcommitted.guarded, hcommitted⟩

theorem holds_restageRepoints
    (hsections : ∀ n : Name, .set n resolvfile managed ∈ s.staged → n.text ∈ sections)
    (h : Committed managed s w) :
    Holds (World.Goes "dhcp") (Guarded managed) (fun _ w => KeepsRepoint managed s w)
      (restageRepoints managed sections) w := by
  refine holds_foldlM (fun l _ w => Committed managed s w ∧
      ∀ n : Name, .set n resolvfile managed ∈ s.staged → n.text ∈ l ∨ Restaged managed n w)
    ?_ ?_ sections ⟨h, fun n hn => Or.inl (hsections n hn)⟩
  · rintro n l c w ⟨h, hleft⟩ r w' hgoes
    have h' := h.set hgoes
    refine ⟨h'.guarded, h', fun n' hn' => ?_⟩
    rcases hleft n' hn' with hmem | hdone
    · rcases List.mem_cons.1 hmem with rfl | hmem
      · exact Or.inr (restaged_set hgoes (Or.inl rfl))
      · exact Or.inl hmem
    · exact Or.inr (restaged_set hgoes (Or.inr hdone))
  · rintro c w ⟨h, hleft⟩
    exact ⟨h, fun n hn => (hleft n hn).resolve_left (by simp)⟩

theorem holds_commitDhcpKeepingRepoint (hm : IsManaged managed) (s : State) :
    Holds (World.Goes "dhcp") (Guarded managed) (fun _ w => KeepsRepoint managed s w)
      (commitDhcpKeepingRepoint managed) ⟨s, []⟩ := by
  rintro r w ⟨s, hruns, rfl⟩
  obtain ⟨rfl, hprinted⟩ := hruns.changes
  have hstart (sections : List String) : Reverting s sections ⟨s, [⟨.changes, r, s⟩]⟩ :=
    ⟨rfl, ⟨[], List.nil_subset _, by simp⟩, by simp⟩
  refine ⟨(hstart []).guarded, ?_⟩
  cases r with
  | error message => exact ⟨(hstart []).committed, fun n hn => Or.inl hn⟩
  | ok changes =>
    obtain rfl := hprinted changes rfl
    change Holds _ _ _ (revertRepoints _ >>= _) _
    rw [holds_bind]
    refine (holds_revertRepoints (hstart _)).imp fun _ w h => ?_
    rw [holds_bind]
    refine (holds_checkReverted hm rfl h).imp fun r w h => ?_
    rw [holds_bind]
    refine (holds_commitIf h.1 h.2).imp fun _ w h => ?_
    rw [holds_bind]
    exact (holds_restageRepoints
      (fun n hn => (mem_stagedRepoints hm).2 ⟨n, hn, rfl⟩) h).imp fun _ w h => h

end Commit

/-! ## Names in a package of dnsmasq -/

def cfg01411c : Name := ⟨"cfg01411c", by decide, by decide⟩

def lan : Name := ⟨"lan", by decide, by decide⟩

def start : Name := ⟨"start", by decide, by decide⟩

end NymDns
