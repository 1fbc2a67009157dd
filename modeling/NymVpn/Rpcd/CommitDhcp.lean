import NymVpn.Dns.Repoint

/-!
# The commit of the bridge

The bridge between the web interface and the daemon has its own commit of the package,
which is to go through the same commands as the daemon's.
-/

namespace Rpcd

open NymDns (collect stagedResolvfile resolvfile stagedRepoint stagedRepoints checkReverted commitIf
  restageRepoints revertRepoints commitDhcpKeepingRepoint uciResult stillStaged DhcpCommit)
open Program Program.Prog Text Uci

def nymResolvFile : String := "/tmp/resolv.conf.d/nym-resolv.conf"

def stagedNymResolvfile (line : String) : Option String := do
  let (s, staged) ← stagedResolvfile line
  if (s ≠ "" ∧ '.' ∉ s.toList) ∧ staged = "'" ++ nymResolvFile ++ "'" then some s else none

def stagedNymResolvfileSections (changes : String) : List String :=
  collect stagedNymResolvfile (strLines changes)

def recheck (sections : List String) : Prog Command Answer (Except String Unit) := do
  if sections = [] then return .ok ()
  match ← call .changes with
  | .ok changes =>
    if stagedNymResolvfileSections changes = [] then return .ok () else return .error stillStaged
  | .error err => return .error err

def commitIfOk : Except String Unit → Prog Command Answer (Except String Unit)
  | .ok () => do return (← call .commit).map fun _ => ()
  | .error err => return .error err

/-- Every section is staged again; an error is kept when there is none yet. -/
def restage (sections : List String) (result : Except String Unit) :
    Prog Command Answer (Except String Unit) :=
  sections.foldlM
    (fun result s => do
      match ← call (.set (.named s) (some resolvfile) nymResolvFile), result with
      | .error err, .ok () => return .error err
      | _, result => return result)
    result

def commitDhcp : Prog Command Answer (Except String Unit) := do
  match ← call .changes with
  | .error err => return .error err
  | .ok changes =>
    let sections := stagedNymResolvfileSections changes
    forM sections fun s => discard (call (.revert (.named s) (some resolvfile)))
    let result ← recheck sections
    let result ← commitIfOk result
    restage sections result

/-! ## The two commits -/

/-- No section without a name is listed with the repoint. -/
def Expected : (c : Command) → Answer c → Prop
  | .changes, .ok changes => "" ∉ stagedRepoints changes nymResolvFile
  | _, _ => True

theorem collect_congr {f g : String → Option String} {ls : List String}
    (h : ∀ l ∈ ls, f l = g l) : collect f ls = collect g ls := by
  rw [collect, collect]
  apply List.foldl_ext
  intro sections l hl
  rw [h l hl]

theorem stagedNymResolvfileSections_eq {changes : String}
    (h : "" ∉ stagedRepoints changes nymResolvFile) :
    stagedNymResolvfileSections changes = stagedRepoints changes nymResolvFile := by
  apply collect_congr
  intro l hl
  have hne : stagedRepoint nymResolvFile l ≠ some "" := fun hl' =>
    h (NymDns.mem_collect.2 ⟨l, hl, hl'⟩)
  rw [stagedNymResolvfile, stagedRepoint]
  rw [stagedRepoint] at hne
  cases hfound : stagedResolvfile l with
  | none => rfl
  | some found =>
    obtain ⟨s, value⟩ := found
    rw [hfound] at hne
    have hs : value = "'" ++ nymResolvFile ++ "'" → s ≠ "" := by
      rintro rfl rfl
      simp at hne
    simp only [Option.bind_eq_bind, Option.bind_some]
    apply if_congr ?_ rfl rfl
    constructor
    · rintro ⟨⟨-, hdot⟩, hvalue⟩
      exact ⟨hvalue, hdot⟩
    · rintro ⟨hvalue, hdot⟩
      exact ⟨⟨hs hvalue, hdot⟩, hvalue⟩

def Agree {ε ε' : Type} (r : Except ε Unit) (r' : Except ε' Unit) : Prop := r = .ok () ↔ r' = .ok ()

theorem same_recheck (sections : List String) :
    Same Expected Agree (checkReverted nymResolvFile sections) (recheck sections) := by
  unfold checkReverted recheck
  split
  · exact .ret (iff_of_true rfl rfl)
  · refine .cmd fun r hr => ?_
    cases r with
    | error err => exact .ret (iff_of_false nofun nofun)
    | ok changes =>
      change Same _ _ (ite _ _ _) (ite _ _ _)
      rw [stagedNymResolvfileSections_eq hr]
      split
      · exact .ret (iff_of_true rfl rfl)
      · exact .ret (iff_of_false nofun nofun)

theorem same_commitIf {r : Except NymDns.Error Unit} {r' : Except String Unit} (h : Agree r r') :
    Same Expected Agree (commitIf r) (commitIfOk r') := by
  cases r with
  | error e =>
    cases r' with
    | error err => exact .ret h
    | ok u => cases h.2 rfl
  | ok u =>
    obtain rfl := h.1 rfl
    refine .cmd fun r _ => .ret ?_
    cases r with
    | error err => exact iff_of_false nofun nofun
    | ok printed => exact iff_of_true rfl rfl

def AgreeBoth (c : DhcpCommit) (r : Except String Unit) : Prop :=
  (c.committed = .ok () ∧ c.restaged = .ok ()) ↔ r = .ok ()

theorem same_restage (sections : List String) {committed : Except NymDns.Error Unit}
    {result : Except String Unit} (h : Agree committed result) :
    Same Expected (fun restaged result => AgreeBoth ⟨committed, restaged⟩ result)
      (restageRepoints nymResolvFile sections) (restage sections result) := by
  apply Same.foldlM
  · intro restaged result hboth s _
    refine .cmd fun r _ => ?_
    cases r with
    | ok printed =>
      have hkept : (restaged.bind fun () => uciResult (.ok printed)) = restaged := by
        cases restaged <;> rfl
      cases result with
      | ok u | error err => exact .ret (hkept.symm ▸ hboth)
    | error message =>
      have hfailed : (restaged.bind fun () => uciResult (.error message)) ≠ .ok () := by
        cases restaged <;> exact fun h => nomatch h
      cases result with
      | ok u | error err => exact .ret (iff_of_false (fun h => hfailed h.2) fun h => nomatch h)
  · exact (and_iff_left rfl).trans h

theorem same_commitDhcp :
    Same Expected AgreeBoth (commitDhcpKeepingRepoint nymResolvFile) commitDhcp := by
  refine .cmd fun r hr => ?_
  cases r with
  | error err => exact .ret (iff_of_false (fun h => nomatch h.1) fun h => nomatch h)
  | ok changes =>
    change Same _ _ (revertRepoints _ >>= _) (revertRepoints _ >>= _)
    rw [stagedNymResolvfileSections_eq hr]
    refine (same_refl _).bind fun _ _ _ => ?_
    refine (same_recheck _).bind fun r r' h => ?_
    refine (same_commitIf h).bind fun committed result h => ?_
    rw [← bind_ret (restage _ result)]
    exact (same_restage _ h).bind fun restaged result h => .ret h

theorem expected_changesText (staged : List Change) :
    "" ∉ stagedRepoints (changesText "dhcp" staged) nymResolvFile := by
  intro h
  obtain ⟨n, -, hn⟩ := (NymDns.mem_stagedRepoints NymDns.isManaged_managedFile).1 h
  exact n.ne_nil (by rw [hn]; rfl)

theorem expected_of_goes {c : Command} {w w' : World} {r : Answer c} (h : w.Goes "dhcp" c r w') :
    Expected c r := by
  cases c with
  | changes =>
    obtain ⟨s', hruns, -⟩ := h
    cases r with
    | error message => trivial
    | ok printed =>
      rw [Expected, hruns.changes.2 printed rfl]
      exact expected_changesText _
  | _ => trivial

/-- Whatever is staged and whatever fails, the program runs no commit with the repoint
staged, commits every other change, and stages the repoint again. -/
def KeepsRepoint {α : Type} (p : Prog Command Answer α) : Prop :=
  ∀ s : State,
    (∀ p' w, Steps (World.Goes "dhcp") (p, ⟨s, []⟩) (p', w) → NymDns.Guarded nymResolvFile w) ∧
      ∀ a w, Returns (World.Goes "dhcp") p ⟨s, []⟩ a w →
        NymDns.CommitsOthers nymResolvFile s w ∧
          ∀ n, .set n resolvfile nymResolvFile ∈ s.staged → NymDns.Restaged nymResolvFile n w

theorem keepsRepoint_of_holds {α : Type} {p : Prog Command Answer α}
    (h : ∀ s, Holds (World.Goes "dhcp") (NymDns.Guarded nymResolvFile)
      (fun _ w => NymDns.KeepsRepoint nymResolvFile s w) p ⟨s, []⟩) : KeepsRepoint p := by
  intro s
  have hstart : NymDns.Guarded nymResolvFile ⟨s, []⟩ := fun e he => nomatch he
  refine ⟨fun p' w hsteps => ((h s).steps hstart hsteps).1, fun a w hreturns => ?_⟩
  have hkeeps := (h s).of_returns hreturns
  exact ⟨hkeeps.committed.others, hkeeps.restaged⟩

/-- Both commits keep the repoint out, and given the same answers they run the same
commands. -/
theorem commitDhcp_keepsRepoint (answer : List Command → (c : Command) → Answer c)
    (hanswer : ∀ past printed, answer past .changes = .ok printed →
      ∃ staged, printed = changesText "dhcp" staged) :
    KeepsRepoint (commitDhcpKeepingRepoint NymDns.managedFile) ∧ KeepsRepoint commitDhcp ∧
      issued answer (commitDhcpKeepingRepoint NymDns.managedFile) [] =
        issued answer commitDhcp [] := by
  have hdaemon := NymDns.holds_commitDhcpKeepingRepoint NymDns.isManaged_managedFile
  refine ⟨keepsRepoint_of_holds hdaemon, keepsRepoint_of_holds fun s => ?_, ?_⟩
  · refine (same_commitDhcp.holds (fun _ _ _ _ => expected_of_goes) (hdaemon s)).imp ?_
    rintro _ w ⟨-, -, h⟩
    exact h
  · refine same_commitDhcp.issued_eq (fun past c => ?_) []
    cases c with
    | changes =>
      cases h : answer past .changes with
      | error message => trivial
      | ok printed =>
        obtain ⟨staged, rfl⟩ := hanswer past printed h
        exact expected_changesText staged
    | _ => trivial

def stagedExample : List Change :=
  [.set NymDns.cfg01411c resolvfile nymResolvFile, .set NymDns.lan NymDns.start "50"]

def answerExample (past : List Command) : (c : Command) → Answer c
  | .changes =>
    .ok (changesText "dhcp" (if past = [] then stagedExample else stagedExample.drop 1))
  | _ => .ok ""

theorem commitDhcp_keepsRepoint_example :
    KeepsRepoint (commitDhcpKeepingRepoint NymDns.managedFile) ∧ KeepsRepoint commitDhcp ∧
      issued answerExample (commitDhcpKeepingRepoint NymDns.managedFile) [] =
        issued answerExample commitDhcp [] :=
  commitDhcp_keepsRepoint answerExample fun _ _ h => ⟨_, (Except.ok.inj h).symm⟩

end Rpcd
