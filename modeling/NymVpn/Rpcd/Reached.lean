import NymVpn.Rpcd.SplitIpset

/-!
# Edits that reached dnsmasq and the sets

An edit that returns without an error has run every step that it found due.
-/

namespace Rpcd

open Program Program.Prog Text Uci

/-! ## The system takes the edit -/

section Apply

variable {w : SplitWorld} {events : List Event} {c : SystemCommand}

abbrev goes := SplitWorld.Goes

def Records (events : List Event) (w : SplitWorld) (r : Except String Unit) (w' : SplitWorld) :
    Prop :=
  r = .ok () → w'.journal = w.journal ++ events

theorem records_nil (r : Except String Unit) : Records [] w r w := fun _ => (List.append_nil _).symm

theorem holds_runSystem_bind {α : Type} {f : Except String Output → SplitProg α}
    {Q : α → SplitWorld → Prop}
    (h : ∀ r, Ends goes Q (f r) { w with journal := w.journal ++ systemEvents c r }) :
    Ends goes Q (runSystem c >>= f) w := by
  refine ends_call_bind.2 fun r v hgoes => ?_
  obtain rfl := hgoes
  exact h r

theorem holds_initdRunChecked (service action : String) :
    Ends goes (Records (if service = "dnsmasq" ∧ action = "reload" then [.reloadedDnsmasq] else []) w)
      (initdRunChecked service action) w := by
  refine holds_runSystem_bind fun r => ?_
  cases r with
  | error err => exact nofun
  | ok output =>
    cases hsuccess : output.success with
    | false => simp [hsuccess, Records]
    | true => simp [hsuccess, Records, systemEvents]

theorem holds_reloadFirewall : Ends goes (Records [] w) reloadFirewall w := by
  have hinit := holds_initdRunChecked (w := w) "firewall" "reload"
  refine holds_runSystem_bind fun r => ?_
  have hsame : { w with journal := w.journal ++ systemEvents .fw4Reload r } = w := by
    simp [systemEvents]
  rw [hsame]
  cases r with
  | error err => exact hinit
  | ok output =>
    change Holds _ _ _ (ite _ _ _) _
    split
    · exact records_nil _
    · exact hinit

theorem holds_flushBypassSet (set : String) :
    Ends goes (fun errors w' => errors = [] → w'.journal = w.journal ++ [.flushed set])
      (flushBypassSet set) w := by
  refine holds_runSystem_bind fun r => ?_
  cases r with
  | error err => exact nofun
  | ok output => cases hflushed : flushed output <;> simp [hflushed, systemEvents]

theorem holds_flushBypassSets :
    Ends goes (Records (bypassSetNames.map .flushed) w) flushBypassSets w := by
  refine holds_bind.2 ?_
  -- Without an error, the sets before the rest of the list have been flushed.
  apply holds_foldlM (fun rest errors v => ∃ done, bypassSetNames = done ++ rest ∧
    (errors = [] → v.journal = w.journal ++ done.map .flushed)) ?_ ?_ bypassSetNames
    ⟨[], rfl, fun _ => (List.append_nil _).symm⟩
  · rintro set rest errors v ⟨done, hnames, hdone⟩
    refine holds_bind.2 ((holds_flushBypassSet set).imp fun more v' hv' => ?_)
    refine ⟨done ++ [set], by simp [hnames], fun hnone => ?_⟩
    obtain ⟨herrors, hmore⟩ := List.append_eq_nil_iff.1 hnone
    rw [hv' hmore, hdone herrors, List.append_assoc, List.map_append]
    rfl
  · rintro errors v ⟨done, hnames, hdone⟩ hok
    rw [hnames, List.append_nil]
    refine hdone ?_
    by_contra hne
    rw [joinErrors, if_neg hne] at hok
    cases hok

theorem holds_onlyIf (due : Bool) {step : SplitProg (Except String Unit)}
    (h : Ends goes (Records events w) step w) :
    Ends goes (Records (if due then events else []) w) (onlyIf due step) w := by
  cases due with
  | false => exact records_nil _
  | true => exact h

theorem holds_applySplit (dhcp : DhcpChange) (nftFile : Except String Unit) :
    Ends goes
      (Records ((if dhcp.removed then bypassSetNames.map .flushed else []) ++
        if dhcp.changed then [.reloadedDnsmasq] else []) w) (applySplit dhcp nftFile) w := by
  have hflush (v : SplitWorld) := holds_onlyIf dhcp.removed (holds_flushBypassSets (w := v))
  have hreload (v : SplitWorld) :=
    holds_onlyIf dhcp.changed (holds_initdRunChecked (w := v) "dnsmasq" "reload")
  refine holds_bind.2 (holds_reloadFirewall.imp fun firewall v hv => ?_)
  refine holds_bind.2 ((hflush v).imp fun flush v' hv' => ?_)
  refine holds_bind.2 ((hreload v').imp fun dnsmasq v'' hv'' => ?_)
  intro hok
  have hnone : [nftFile, firewall, flush, dnsmasq].flatMap errorOf = [] := by
    by_contra hne
    rw [joinErrors, if_neg hne] at hok
    cases hok
  have hall : ∀ r ∈ [nftFile, firewall, flush, dnsmasq], r = .ok () := fun r hr => by
    have hr := List.flatMap_eq_nil_iff.1 hnone r hr
    cases r with
    | ok u => rfl
    | error err => cases hr
  rw [hv'' (hall _ (by simp)), hv' (hall _ (by simp)), hv (hall _ (by simp)), List.append_nil,
    List.append_assoc]
  rfl

end Apply

/-! ## Every edit -/

section Edit

variable {w : SplitWorld}

theorem holds_wantedDomains (domains : List String) :
    Ends goes
      (fun wanted w' => w' = w ∧ wanted =
        if domains ≠ [] ∧ w.version.any nftsetSupportedIn then some domains else none)
      (wantedDomains domains) w := by
  unfold wantedDomains
  by_cases h : domains = []
  · rw [if_pos h]
    exact ⟨rfl, by simp [h]⟩
  · rw [if_neg h]
    refine ends_call_bind.2 fun r v hgoes => ?_
    obtain ⟨rfl, rfl⟩ := hgoes
    exact ⟨rfl, by simp [h]⟩

theorem holds_updateSplitNft (clients domains : List String) :
    Ends goes (fun _ w' => w' = w) (updateSplitNft clients domains) w := by
  unfold updateSplitNft
  split
  · refine ends_call_bind.2 fun r _ hgoes => ?_
    cases r with
    | error err =>
      change Holds _ _ _ (ite _ _ _) _
      split <;> exact hgoes
    | ok u => exact hgoes
  · exact ends_call_bind.2 fun _ _ hgoes => hgoes

/-- What an edit that returns without an error has recorded: nothing if it found what it
wants, else a commit, a flush if it saw a domain go, and a reload. -/
inductive Ran (w : SplitWorld) : List Event → Prop where
  | unchanged (h : w.seen = w.wanted) : Ran w w.journal
  | committed {after : Package} (h : w.seen ≠ w.wanted)
      (hwanted : ∀ d ∈ w.wanted.getD [], d ∈ splitDomains after)
      (hread : w.ReadsSection → ∀ d ∈ splitDomains after, d ∈ w.wanted.getD []) :
      Ran w (w.journal ++ .commit w.dhcp.file.package after ::
        ((if (w.seen.getD []).any (· ∉ w.wanted.getD []) then bypassSetNames.map .flushed else []) ++
          [.reloadedDnsmasq]))

theorem holds_updateAndApply (dhcp : DhcpChange) (clients domains : List String) :
    Ends goes
      (Records ((if dhcp.removed then bypassSetNames.map .flushed else []) ++
        if dhcp.changed then [.reloadedDnsmasq] else []) w)
      (updateSplitNft clients domains >>= applySplit dhcp) w := by
  refine holds_bind.2 ((holds_updateSplitNft clients domains).imp fun nftFile v hv => ?_)
  obtain rfl := hv
  exact holds_applySplit dhcp nftFile

theorem holds_regenSplit :
    Ends goes (fun r w' => r = .ok () → Ran w w'.journal) regenSplit w := by
  refine holds_bind.2 (ends_call_bind.2 fun shown v hgoes => ?_)
  obtain ⟨rfl, rfl⟩ := hgoes
  refine holds_bind.2 ((holds_wantedDomains _).imp fun wanted v' hv' => ?_)
  obtain ⟨rfl, hwanted⟩ := hv'
  obtain rfl : wanted = v'.wanted := hwanted
  refine holds_bind.2 (holds_embed.2 ((holds_syncSplitIpset _).imp fun r v hv => ?_))
  cases hv with
  | failed err => exact nofun
  | unchanged h =>
    refine (holds_updateAndApply _ _ _).imp fun r w' hrecords hok => ?_
    rw [hrecords hok]
    simpa using Ran.unchanged h
  | committed h hwanted hread hjournal =>
    refine (holds_updateAndApply _ _ _).imp fun r w' hrecords hok => ?_
    rw [hrecords hok, hjournal, List.append_assoc]
    exact .committed h hwanted hread

section Commit

variable {journal : List Event} {before after : Package}

theorem reached_commit_flushed :
    Reached (journal ++ .commit before after ::
      (bypassSetNames.map .flushed ++ [.reloadedDnsmasq])) := by
  refine ⟨remedied_of_mem (by simp) (by simp [bypassSetNames, Event.ChangesSection]),
    fun set hset => remedied_of_mem ?_ (by simp [bypassSetNames, Event.RemovesDomain])⟩
  exact List.mem_append_left _ (List.mem_map_of_mem hset)

theorem reached_commit_iff :
    Reached (journal ++ [.commit before after, .reloadedDnsmasq]) ↔
      ¬Event.RemovesDomain (.commit before after) ∧ Flushed journal := by
  have hreload : Remedied Event.ChangesSection .reloadedDnsmasq
      (journal ++ [.commit before after, .reloadedDnsmasq]) :=
    remedied_of_mem (by simp) (by simp [Event.ChangesSection])
  have hflush (set : String) : Remedied Event.RemovesDomain (.flushed set)
      (journal ++ [.commit before after, .reloadedDnsmasq]) ↔
      ¬Event.RemovesDomain (.commit before after) ∧
        Remedied Event.RemovesDomain (.flushed set) journal := by
    rw [remedied_append_of_not_mem (by simp), and_comm]
    simp [Remedied, Event.RemovesDomain]
  rw [Reached, and_iff_right hreload]
  simp only [Flushed, hflush, bypassSetNames, List.forall_mem_cons]
  tauto

end Commit

theorem Ran.settles_of_reached {journal : List Event} (h : Ran w journal) :
    (w.Settles → Reached journal) ∧ (w.ReadsSection → Reached journal → w.Settles) := by
  unfold SplitWorld.Settles
  cases h with
  | unchanged h => simp [h]
  | @committed after h hwanted hread =>
    rw [if_neg h]
    by_cases hkept : ∀ d ∈ w.seen.getD [], d ∈ w.wanted.getD []
    · have hany : (w.seen.getD []).any (· ∉ w.wanted.getD []) = false := by simpa using hkept
      rw [hany, if_neg Bool.false_ne_true, List.nil_append, reached_commit_iff]
      constructor
      · intro hsettles
        obtain ⟨hcommitted, hflushed⟩ := hsettles hkept
        exact ⟨fun ⟨d, hd, hnot⟩ => hnot (hwanted d (hcommitted d hd)), hflushed⟩
      · rintro hreads ⟨hremoves, hflushed⟩ -
        refine ⟨fun d hd => ?_, hflushed⟩
        by_contra hnot
        exact hremoves ⟨d, hd, fun hafter => hnot (hread hreads d hafter)⟩
    · have hany : (w.seen.getD []).any (· ∉ w.wanted.getD []) = true := by simpa using hkept
      rw [hany, if_pos rfl]
      exact ⟨fun _ => reached_commit_flushed, fun _ _ h => absurd h hkept⟩

/-- An edit of a sequence that returns without an error has reached dnsmasq and the sets, and
so have all before it, if it settles what is owed; only then, if it could read the section. -/
theorem split_edits_reach {edits : List Edit} {journal : List Event} (h : Edits edits journal) :
    ∀ e ∈ edits, e.result = .ok () →
      (e.before.Settles → Reached e.after.journal) ∧
        (e.before.ReadsSection → Reached e.after.journal → e.before.Settles) :=
  h.forall_mem fun _ hreturns hok =>
    (holds_regenSplit.of_returns hreturns hok).settles_of_reached

/-! ## A reload that fails -/

def answers (reload : Output) :
    (c : SplitCommand) → SplitWorld → Option (SplitAnswer c × SplitWorld)
  | .showExclusions, w => some (w.shown, w)
  | .dnsmasqVersion, w => some (w.version, w)
  | .uci c, w =>
    match w.dhcp.perform "dhcp" c, c with
    | some (printed, s'), c =>
      if w.sectionRead && w.domainsRead then
        some (.ok printed,
          { w with dhcp := s', journal := w.journal ++ uciEvents w.dhcp s' c (.ok printed) })
      else none
    | none, .get _ _ => some (.error "uci: Entry not found", w)
    | none, _ => none
  | .removeNft, w => some (.ok (), w)
  | .writeNft _, w => some (.ok (), w)
  | .system c, w =>
    let output := if c = .initd "dnsmasq" "reload" then reload else ⟨true, "exit status: 0", ""⟩
    some (.ok output, { w with journal := w.journal ++ systemEvents c (.ok output) })

theorem answers_ok (hsection : w.sectionRead = true) (hdomains : w.domainsRead = true)
    (c : Command) (printed : String) : w.Answers c (.ok printed) := by
  cases c with
  | get ref o => cases o <;> assumption
  | _ => trivial

theorem goes_answers (reload : Output) (c : SplitCommand) (w : SplitWorld) (r : SplitAnswer c)
    (w' : SplitWorld) (h : answers reload c w = some (r, w')) : w.Goes c r w' := by
  cases c with
  | uci c =>
    simp only [answers] at h
    split at h
    · next printed s' hperform =>
        split at h
        · next hreads =>
            obtain ⟨rfl, rfl⟩ := Prod.mk.inj (Option.some.inj h)
            obtain ⟨hsection, hdomains⟩ := Bool.and_eq_true_iff.1 hreads
            exact ⟨answers_ok hsection hdomains _ _, s', .done hperform, rfl⟩
        · cases h
    · next ref o hperform =>
        obtain ⟨rfl, rfl⟩ := Prod.mk.inj (Option.some.inj h)
        exact ⟨fun _ => hperform, w.dhcp, .failed _, by simp [uciEvents]⟩
    · cases h
  | showExclusions | dnsmasqVersion =>
    obtain ⟨rfl, rfl⟩ := Prod.mk.inj (Option.some.inj h)
    exact ⟨rfl, rfl⟩
  | _ =>
    obtain ⟨rfl, rfl⟩ := Prod.mk.inj (Option.some.inj h)
    rfl

def staleSection : Section :=
  ⟨splitName, false, "ipset", [(domainOption, .list ["a.example.com"])]⟩

def withDomain : SplitWorld :=
  { dhcp := ⟨.ofPackage [staleSection], []⟩, shown := some "", version := none, journal := [] }

def withoutReload : SplitWorld :=
  { withDomain with
    dhcp := ⟨.ofPackage [], []⟩
    journal := [.commit [staleSection] [], .flushed "nym_bypass4", .flushed "nym_bypass6"] }

def reloadFails : Output := ⟨false, "exit status: 1", ""⟩

def reloadSucceeds : Output := ⟨true, "exit status: 0", ""⟩

def failedEdit : Edit :=
  ⟨withDomain, .error "/etc/init.d/dnsmasq reload: exit status: 1", withoutReload⟩

theorem edits_failedEdit : Edits [failedEdit] withoutReload.journal := by
  have hedit : regenSplit.follow (answers reloadFails) withDomain =
      some (failedEdit.result, withoutReload) := rfl
  exact .edit (e := failedEdit) .start (returns_of_follow (goes_answers reloadFails) hedit)

def restored : SplitWorld := { withDomain with journal := withoutReload.journal }

def withReload : SplitWorld :=
  { withoutReload with
    journal := withoutReload.journal ++ withoutReload.journal ++ [.reloadedDnsmasq] }

/-- An edit that commits makes up for the reload that failed. -/
theorem split_edits_reach_after_failure :
    ∃ edits, Edits edits withReload.journal ∧ failedEdit ∈ edits ∧
      ∃ e ∈ edits, e.result = .ok () ∧ Reached e.after.journal := by
  have hedit : regenSplit.follow (answers reloadSucceeds) restored = some (.ok (), withReload) := rfl
  have hedits := Edits.edit (e := ⟨restored, .ok (), withReload⟩) edits_failedEdit
    (returns_of_follow (goes_answers reloadSucceeds) hedit)
  have hsettles : restored.Settles := by
    have hfound : restored.seen = some ["a.example.com"] := rfl
    have hwanted : restored.wanted = none := rfl
    simp [SplitWorld.Settles, hfound, hwanted]
  have hmem := List.mem_append_right [failedEdit] (List.mem_singleton_self
    (⟨restored, .ok (), withReload⟩ : Edit))
  exact ⟨_, hedits, List.mem_append_left _ (List.mem_singleton_self _), _, hmem, rfl,
    (split_edits_reach hedits _ hmem rfl).1 hsettles⟩

/-- The reload fails in one edit, and the next one reports success without a reload. -/
theorem split_edit_not_reached :
    ∃ edits journal, Edits edits journal ∧
      ∃ e ∈ edits, e.result = .ok () ∧ ¬Reached e.after.journal := by
  have hedit : regenSplit.follow (answers reloadFails) withoutReload =
      some (.ok (), withoutReload) := rfl
  have hedits := Edits.edit (e := ⟨withoutReload, .ok (), withoutReload⟩) edits_failedEdit
    (returns_of_follow (goes_answers reloadFails) hedit)
  refine ⟨_, _, hedits, _, List.mem_append_right _ (List.mem_singleton_self _), rfl, fun h => ?_⟩
  have hchanged : Event.ChangesSection (.commit [staleSection] []) := nofun
  have hreloaded := h.1.1 hchanged
  simp at hreloaded

end Edit

end Rpcd
