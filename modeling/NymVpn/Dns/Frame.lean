import Mathlib.Data.List.Forall2
import NymVpn.Dns.Converge
import NymVpn.Uci.Edits

/-!
# What converging leaves alone

The user's settings, staged or committed, but for the repair of a committed repoint: it
commits whatever is staged and removes the `resolvfile` of the first section.
-/

namespace NymDns

open Program Program.Prog Text Uci State

def ours : List Name := [noresolv, server, resolvfile]

def firstName (s : State) : Option Name := (s.resolve firstDnsmasq).map (·.name)

def isOurs (s : State) (c : Change) : Bool :=
  firstName s = some c.name && ours.any fun o => c.option = some o

/-- The second section is the first one, or the first one without the managed file. -/
def MayLose (managed : String) (a b : Section) : Prop :=
  b = a ∨ a.get? resolvfile = some (.string managed) ∧ b = a.erase resolvfile

structure Frame (managed : String) (s s' : State) : Prop where
  committed : List.Forall₂ (MayLose managed) s.file.package s'.file.package
  staged : (s.staged.filter fun c => !isOurs s c).Sublist s'.staged

def revertFirst (os : List Name) (s : State) : State :=
  match firstName s with
  | none => s
  | some n =>
    { s with staged := s.staged.filter fun c => !(c.name = n && os.any fun o => c.option = some o) }

/-! ## The reverts -/

section Reverts

variable {s s' : State} {os : List Name} {o : Name}

theorem firstName_eq_of_sections (hfile : s'.file = s.file)
    (hstaged : s'.staged.filter (·.option = none) = s.staged.filter (·.option = none)) :
    firstName s' = firstName s := by
  have hheader (s : State) : firstName s =
      ((s.staged.filter (·.option = none)).foldl Package.apply s.file.package.headers |>.find?
        (·.type = "dnsmasq")).map (·.name) := by
    rw [← Package.headers_foldl_apply, Package.find?_type_headers, Option.map_map]
    rfl
  rw [hheader, hheader, hfile, hstaged]

theorem file_revertFirst : (revertFirst os s).file = s.file := by
  unfold revertFirst
  split <;> rfl

theorem firstName_revertFirst : firstName (revertFirst os s) = firstName s := by
  apply firstName_eq_of_sections file_revertFirst
  unfold revertFirst
  split
  · rfl
  · rw [List.filter_filter]
    apply List.filter_congr
    intro c _
    cases hoption : c.option with
    | none | some o => simp

theorem revertFirst_nil : revertFirst [] s = s := by
  unfold revertFirst
  split <;> simp

theorem revert_revertFirst {n : Name} (hn : firstName s = some n) :
    (revertFirst os s).revert n.text (some o) = revertFirst (o :: os) s := by
  simp only [revertFirst, hn, revert, List.filter_filter, mk.injEq, true_and]
  apply List.filter_congr
  intro c _
  rw [Bool.eq_iff_iff]
  simp only [Bool.and_eq_true, Bool.not_eq_true', ← Bool.not_eq_true, concerns_some,
    Name.text_inj, List.any_cons, Bool.or_eq_true, decide_eq_true_eq]
  tauto

theorem resolveName_firstDnsmasq : s.resolveName firstDnsmasq = (firstName s).map (·.text) := by
  rw [firstName, Option.map_map]
  rfl

theorem eq_of_runs_revert {r : Except String String}
    (h : (revertFirst os s).Runs "dhcp" (.revert firstDnsmasq (some o)) r s') :
    s' = revertFirst os s ∨ s' = revertFirst (o :: os) s := by
  have hperform {printed : String} (h : (revertFirst os s).perform "dhcp"
      (.revert firstDnsmasq (some o)) = some (printed, s')) : s' = revertFirst (o :: os) s := by
    rw [perform, resolveName_firstDnsmasq, firstName_revertFirst] at h
    cases hn : firstName s with
    | none =>
      rw [hn] at h
      cases h
    | some n =>
      rw [hn] at h
      simp only [Option.map_some, Option.some.injEq, Prod.mk.injEq] at h
      rw [← h.2, revert_revertFirst hn]
  cases h with
  | done h | revertDenied message h => exact Or.inr (hperform h)
  | failed message | revertSkipped => exact Or.inl rfl

end Reverts

/-! ## The repair -/

/-- Committed after some of the reverts, the staged changes and the removal of the
`resolvfile` of the first section change nothing of the user's. -/
structure Harmless (managed : String) (s : State) (n : Name) (os : List Name) : Prop where
  onlyOurs : ∀ c ∈ s.staged, isOurs s c = true
  unchanged : (revertFirst os s).package.modify n (·.erase resolvfile) =
    s.file.package.modify n (·.erase resolvfile)
  managed : ∀ sec ∈ s.file.package, sec.name = n →
    sec.get? resolvfile = none ∨ sec.get? resolvfile = some (.string managed)

def RepairHarmless (managed : String) (s : State) : Prop :=
  committedHasManagedPath s.file.text = true → ∀ n, firstName s = some n → ∀ os ⊆ ours,
    ((revertFirst os s).resolve firstDnsmasq).bind (·.get? resolvfile) ≠ none →
      Harmless managed s n os

section Repair

variable {managed : String} {s s' : State} {n : Name} {os : List Name}

theorem Harmless.forall₂ (h : Harmless managed s n os) :
    List.Forall₂ (MayLose managed) s.file.package
      ((revertFirst os s).package.modify n (·.erase resolvfile)) := by
  rw [h.unchanged, Package.modify, List.forall₂_map_right_iff, List.forall₂_same]
  intro sec hsec
  split
  · next hn =>
      rcases h.managed sec hsec hn with hnone | hours
      · exact Or.inl (Section.erase_eq_self hnone)
      · exact Or.inr ⟨hours, rfl⟩
  · exact Or.inl rfl

theorem harmless_of_forall₂ (hn : firstName s = some n) (honly : ∀ c ∈ s.staged, isOurs s c = true)
    (h : List.Forall₂ (MayLose managed) s.file.package
      ((revertFirst os s).package.modify n (·.erase resolvfile))) : Harmless managed s n os := by
  have hname : ∀ c ∈ (revertFirst os s).staged, c.name = n ∧ c.option ≠ none := by
    intro c hc
    simp only [revertFirst, hn] at hc
    have hours := honly c (List.mem_filter.1 hc).1
    rw [isOurs, hn, Bool.and_eq_true, List.any_eq_true] at hours
    obtain ⟨hname, o, -, ho⟩ := hours
    refine ⟨?_, fun hnone => ?_⟩
    · simpa [eq_comm] using hname
    · simp [hnone] at ho
  obtain ⟨f, hf, hfp⟩ := Package.exists_foldl_apply_eq_modify hname
  rw [package, file_revertFirst, hfp, Package.modify_modify hf, Package.modify,
    List.forall₂_map_right_iff, List.forall₂_same] at h
  have hsec : ∀ sec ∈ s.file.package, sec.name = n →
      (f sec).erase resolvfile = sec.erase resolvfile ∧
        (sec.get? resolvfile = none ∨ sec.get? resolvfile = some (.string managed)) := by
    intro sec hsec hname
    have hlose := h sec hsec
    rw [if_pos hname] at hlose
    rcases hlose with hsame | ⟨hours, herased⟩
    · have hnone : sec.get? resolvfile = none := hsame ▸ Section.get?_erase
      exact ⟨hsame.trans (Section.erase_eq_self hnone).symm, Or.inl hnone⟩
    · exact ⟨herased, Or.inr hours⟩
  refine ⟨honly, ?_, fun sec hmem hname => (hsec sec hmem hname).2⟩
  rw [package, file_revertFirst, hfp, Package.modify_modify hf, Package.modify, Package.modify]
  apply List.map_congr_left
  intro sec hmem
  split
  · next hname => exact (hsec sec hmem hname).1
  · rfl

def repaired (os : List Name) (n : Name) (s : State) : State :=
  ((revertFirst os s).stage (.removeOption n resolvfile)).commit

theorem package_repaired : (repaired os n s).file.package =
    (revertFirst os s).package.modify n (·.erase resolvfile) := by
  rw [repaired, package_commit, package_stage]
  rfl

theorem frame_repaired_iff (hn : firstName s = some n) :
    Frame managed s (repaired os n s) ↔ Harmless managed s n os := by
  constructor
  · intro h
    have honly : ∀ c ∈ s.staged, isOurs s c = true := by
      have hnil := h.staged
      rw [repaired, staged_commit, List.sublist_nil, List.filter_eq_nil_iff] at hnil
      simpa using hnil
    exact harmless_of_forall₂ hn honly (package_repaired ▸ h.committed)
  · intro h
    refine ⟨package_repaired ▸ h.forall₂, ?_⟩
    have hnil : (s.staged.filter fun c => !isOurs s c) = [] := by
      rw [List.filter_eq_nil_iff]
      simpa using h.onlyOurs
    exact hnil ▸ List.nil_sublist _

end Repair

/-! ## Every run -/

section Runs

variable {managed : String} {s t u : State} {w : SysWorld} {n o : Name} {os : List Name}
  {c : Command}

theorem frame_revertFirst (hos : os ⊆ ours) : Frame managed s (revertFirst os s) := by
  refine ⟨file_revertFirst ▸ List.forall₂_same.2 fun _ _ => Or.inl rfl, ?_⟩
  cases hn : firstName s with
  | none =>
    simp only [revertFirst, hn]
    exact List.filter_sublist
  | some n =>
    simp only [revertFirst, hn]
    apply List.monotone_filter_right
    intro c hc
    simp only [isOurs, hn, Bool.not_eq_true', ← Bool.not_eq_true, Bool.and_eq_true,
      List.any_eq_true, decide_eq_true_eq, Option.some.injEq, not_and, not_exists] at hc ⊢
    exact fun hname o ho => hc hname.symm o (hos ho)

def Extends (s t : State) : Prop := t.file = s.file ∧ s.staged.Sublist t.staged

instance : Std.Refl Extends := ⟨fun _ => ⟨rfl, .refl _⟩⟩

instance : IsTrans State Extends := ⟨fun _ _ _ h h' => ⟨h'.1.trans h.1, h.2.trans h'.2⟩⟩

theorem Frame.extends (h : Frame managed s t) (h' : Extends t u) : Frame managed s u :=
  ⟨h'.1 ▸ h.committed, h.staged.trans h'.2⟩

theorem extends_stage (c : Change) : Extends s (s.stage c) := ⟨rfl, List.sublist_append_left _ _⟩

theorem extends_of_stages {c : SysCall} {w w' : SysWorld} {r : SysAnswer c} (hc : Stages c)
    (h : SysWorld.Goes c w r w') : Extends w.uci w'.uci := by
  cases h with
  | uci h =>
    cases h with
    | done h =>
      rename_i c _ _
      cases c with
      | set ref o v =>
        cases o with
        | none => exact hc.elim
        | some o =>
          simp only [perform, Option.map_eq_some_iff, Prod.mk.injEq] at h
          obtain ⟨sec, -, -, rfl⟩ := h
          exact extends_stage _
      | get ref o => exact perform_get h ▸ refl_of Extends _
      | «show» =>
        obtain ⟨-, rfl⟩ := Prod.mk.inj (Option.some.inj h)
        exact refl_of Extends _
      | _ => exact hc.elim
    | failed message => exact refl_of Extends _
    | revertSkipped | revertDenied message h => exact hc.elim
  | _ => exact refl_of Extends _

theorem holds_uciRun {Q : Except Error Unit → SysWorld → Prop}
    (hok : ∀ printed {t}, w.uci.Runs "dhcp" c (.ok printed) t → Q (.ok ()) { w with uci := t })
    (herror : ∀ message {t}, w.uci.Runs "dhcp" c (.error message) t →
      Q (.error (.uciCommand message)) { w with uci := t }) :
    Ends SysWorld.Goes Q (uciRun c).run w := by
  refine ends_run_call_bind.2 fun r w' hr => ?_
  cases hr with
  | uci h =>
    cases r with
    | ok printed => exact hok printed h
    | error message => exact herror message h

theorem name_eq_of_resolve {sec : Section}
    (h : (revertFirst os s).resolve firstDnsmasq = some sec) : firstName s = some sec.name := by
  have hname : firstName (revertFirst os s) = some sec.name := by
    rw [firstName, h]
    rfl
  exact firstName_revertFirst.symm.trans hname

theorem holds_repairCommittedResolvfile (hos : os ⊆ ours) (hw : w.uci = revertFirst os s)
    (hharmless : ∀ n, firstName s = some n →
      ((revertFirst os s).resolve firstDnsmasq).bind (·.get? resolvfile) ≠ none →
        Harmless managed s n os) :
    Ends SysWorld.Goes (fun _ w' => Frame managed s w'.uci) repairCommittedResolvfile.run w := by
  have hreverted : Frame managed s (revertFirst os s) := frame_revertFirst hos
  refine holds_run_bind.2 ?_
  apply holds_uciRun
  · intro printed t ht
    rw [hw] at ht
    rcases ht.delete with ⟨-, sec, hsec, hget, rfl⟩ | ⟨⟨_, h⟩, -⟩
    · have hn := name_eq_of_resolve hsec
      have hrepaired : Frame managed s (repaired os sec.name s) := by
        rw [frame_repaired_iff hn]
        exact hharmless _ hn (by simpa [hsec] using hget)
      apply holds_uciRun
      · intro printed u hu
        rcases hu.commit with ⟨-, rfl⟩ | ⟨⟨_, h⟩, -⟩
        · exact hrepaired
        · cases h
      · intro message u hu
        rcases hu.commit with ⟨⟨_, h⟩, -⟩ | ⟨-, rfl⟩
        · cases h
        · exact hreverted.extends (extends_stage _)
    · cases h
  · intro message t ht
    rw [hw] at ht
    rcases ht.delete with ⟨⟨_, h⟩, -⟩ | ⟨-, rfl⟩
    · cases h
    · exact hreverted

theorem holds_pointDnsmasq (h : Frame managed s w.uci) :
    Ends SysWorld.Goes (fun _ w' => Frame managed s w'.uci) (pointDnsmasq managed).run w := by
  have hkeep : ∀ c v r v', Stages c → Frame managed s v.uci → SysWorld.Goes c v r v' →
      Frame managed s v'.uci :=
    fun _ _ _ _ hc hv hr => hv.extends (extends_of_stages hc hr)
  exact (uses_pointDnsmasq.holds hkeep h).mono (fun _ _ => trivial) fun _ _ h => h

def FirstReverted (s t : State) : Prop := ∃ os ⊆ ours, t = revertFirst os s

theorem holds_run_uciRevertOption {α : Type} {f : PUnit → ExceptT Error SysProg α}
    {Q : Except Error α → SysWorld → Prop} (ho : o ∈ ours) (hw : FirstReverted s w.uci)
    (hf : ∀ w', FirstReverted s w'.uci → Ends SysWorld.Goes Q (f ⟨⟩).run w') :
    Ends SysWorld.Goes Q (monadLift (uciRevertOption o) >>= f).run w := by
  obtain ⟨os, hos, hw⟩ := hw
  refine ends_run_call_bind.2 fun r w' hr => hf w' ?_
  cases hr with
  | uci h =>
    rcases eq_of_runs_revert (hw ▸ h) with rfl | rfl
    · exact ⟨os, hos, rfl⟩
    · exact ⟨o :: os, List.cons_subset.2 ⟨ho, hos⟩, rfl⟩

theorem holds_converge (h : RepairHarmless managed w.uci) :
    Ends SysWorld.Goes (fun _ w' => Frame managed w.uci w'.uci) (converge managed).run w := by
  apply holds_run_uciRevertOption (by decide) ⟨[], by simp, revertFirst_nil.symm⟩
  intro w₁ h₁
  apply holds_run_uciRevertOption (by decide) h₁
  intro w₂ h₂
  apply holds_run_uciRevertOption (by decide) h₂
  rintro w₃ ⟨os, hos, h₃⟩
  have hframe : Frame managed w.uci w₃.uci := h₃ ▸ frame_revertFirst hos
  refine ends_run_call_bind.2 fun text w₄ hread => ?_
  have hsame : w₄ = w₃ ∧ (committedHasManagedPath text = true → text = w.uci.file.text) := by
    cases hread with
    | committedDhcp => exact ⟨rfl, fun _ => by rw [h₃, file_revertFirst]⟩
    | committedDhcpUnread => exact ⟨rfl, fun h => absurd h (by decide)⟩
  obtain ⟨rfl, htext⟩ := hsame
  change Holds _ _ _ (ExceptT.run (ite _ _ _)) _
  split
  · next hmentions =>
      have hharmless := h (htext hmentions ▸ hmentions)
      rw [holds_run_bind]
      apply (holds_repairCommittedResolvfile hos h₃ fun n hn => hharmless n hn os hos).imp
      intro r w' hw'
      cases r with
      | ok u => exact holds_pointDnsmasq hw'
      | error e => exact hw'
  · exact holds_pointDnsmasq hframe

theorem returns_uciRevertOption (hn : firstName s = some n) (hw : w.uci = revertFirst os s)
    (works : List Name) : Returns SysWorld.Goes (uciRevertOption o) w ⟨⟩
      { w with uci := revertFirst (if o ∈ works then o :: os else os) s } := by
  have hgoes : SysWorld.Goes (.uci (.revert firstDnsmasq (some o))) w (.ok "")
      { w with uci := revertFirst (if o ∈ works then o :: os else os) s } := by
    apply SysWorld.Goes.uci
    rw [hw]
    split
    · apply State.Runs.done
      rw [perform, resolveName_firstDnsmasq, firstName_revertFirst, hn, Option.map_some,
        Option.map_some, revert_revertFirst hn]
    · exact .revertSkipped
  exact (returns_call hgoes).discard

theorem revertFirst_congr {os' : List Name} (os : List Name) (h : ∀ o, o ∈ os' ↔ o ∈ os) :
    revertFirst os' s = revertFirst os s := by
  have hany (c : Change) :
      (os'.any fun o => c.option = some o) = os.any fun o => c.option = some o := by
    rw [Bool.eq_iff_iff, List.any_eq_true, List.any_eq_true]
    exact exists_congr fun o => and_congr_left fun _ => h o
  simp only [revertFirst, hany]

theorem returns_uciRun {printed : String} (w : SysWorld) (h : w.uci.Runs "dhcp" c (.ok printed) t) :
    Returns SysWorld.Goes (uciRun c).run w (.ok ()) { w with uci := t } :=
  (returns_call (.uci h)).run_lift.run_bind returns_ret

theorem returns_converge (hn : firstName w.uci = some n) (hos : os ⊆ ours)
    (htext : committedHasManagedPath w.uci.file.text = true)
    (hget : ((revertFirst os w.uci).resolve firstDnsmasq).bind (·.get? resolvfile) ≠ none) :
    Returns SysWorld.Goes (converge managed).run w (.error .noDnsmasq)
      { w with uci := repaired os n w.uci } := by
  have hdelete : (revertFirst os w.uci).Runs "dhcp" (.delete firstDnsmasq (some resolvfile))
      (.ok "") ((revertFirst os w.uci).stage (.removeOption n resolvfile)) := by
    obtain ⟨v, hv⟩ := Option.ne_none_iff_exists'.1 hget
    obtain ⟨sec, hsec, hv⟩ := Option.bind_eq_some_iff.1 hv
    obtain rfl : n = sec.name := Option.some.inj (hn.symm.trans (name_eq_of_resolve hsec))
    apply State.Runs.done
    simp [perform, hsec, hv]
  apply (returns_uciRevertOption hn revertFirst_nil.symm os).run_lift.run_bind
  apply (returns_uciRevertOption hn rfl os).run_lift.run_bind
  apply (returns_uciRevertOption hn rfl os).run_lift.run_bind
  rw [revertFirst_congr os]
  · have hread : SysWorld.Goes .committedDhcp { w with uci := revertFirst os w.uci }
        (revertFirst os w.uci).file.text { w with uci := revertFirst os w.uci } := .committedDhcp
    apply (returns_call hread).run_lift.run_bind
    change Returns _ (ExceptT.run (ite _ _ _)) _ _ _
    rw [file_revertFirst, if_pos htext]
    apply Returns.run_bind ((returns_uciRun _ hdelete).run_bind (returns_uciRun _ (.done rfl)))
    apply Returns.run_bind (a := none) _ returns_ret
    exact Returns.run_lift ((returns_call (.uci (.failed ""))).bind returns_ret)
  · intro o
    have hcons (o' : Name) (l : List Name) :
        o ∈ (if o' ∈ os then o' :: l else l) ↔ o = o' ∧ o ∈ os ∨ o ∈ l := by
      split <;> aesop
    have hours : o ∈ os → o = noresolv ∨ o = server ∨ o = resolvfile := fun ho => by
      simpa [ours] using hos ho
    simp only [hcons, List.not_mem_nil, or_false]
    tauto

/-- Converging leaves the user's settings alone exactly where the repair is harmless. -/
theorem converge_frame_iff (managed : String) (w : SysWorld) :
    (∀ r w', Returns SysWorld.Goes (converge managed).run w r w' → Frame managed w.uci w'.uci) ↔
      RepairHarmless managed w.uci := by
  constructor
  · intro h htext n hn os hos hget
    rw [← frame_repaired_iff hn]
    exact h _ _ (returns_converge hn hos htext hget)
  · exact fun h r w' hr => (holds_converge h).of_returns hr

end Runs

/-! ## An edit that is committed -/

def committedRepoint : SysWorld where
  uci :=
    { file := .ofPackage [⟨cfg01411c, true, "dnsmasq", [(resolvfile, .string managedFile)]⟩,
        ⟨lan, false, "dhcp", [(start, .string "100")]⟩]
      staged := [.set lan start "50"] }
  managed := ⟨none, true⟩
  tmp := none
  wan := ⟨none, true⟩
  writes := []

theorem converge_commits_edit : ¬ ∀ r w',
    Returns SysWorld.Goes (converge managedFile).run committedRepoint r w' →
      Frame managedFile committedRepoint.uci w'.uci := by
  intro h
  have hn : firstName committedRepoint.uci = some cfg01411c := by decide
  have hrepaired := h _ _ (returns_converge hn (List.nil_subset _) (by decide +kernel) (by decide))
  have honly := ((frame_repaired_iff hn).1 hrepaired).onlyOurs
  exact absurd (honly _ (List.mem_singleton_self _)) (by decide)

end NymDns
