import NymVpn.Rpcd.Regen

/-!
# Sequences of edits

The commits that change the section of dnsmasq are recorded together with the reloads and
flushes that succeed. An edit compares with the section as it reads, so a failed step is made
up for only by an edit that has something to commit itself.
-/

namespace Rpcd

open Program Program.Prog Text Uci

/-! ## The world -/

/-- A commit of `dhcp`, with the package before and after it, or a step that succeeded. -/
inductive Event where
  | commit (before after : Package)
  | flushed (set : String)
  | reloadedDnsmasq

/-- The package `dhcp`, what the commands that only read will print, whether `uci get` of
the section and of its domains works, and the events so far. -/
@[ext] structure SplitWorld where
  dhcp : State
  shown : Option String
  version : Option String
  sectionRead : Bool := true
  domainsRead : Bool := true
  journal : List Event

def SplitWorld.reads (w : SplitWorld) : Option Name → Bool
  | none => w.sectionRead
  | some _ => w.domainsRead

def uciEvents (s s' : State) : Command → Except String String → List Event
  | .commit, .ok _ => [.commit s.file.package s'.file.package]
  | _, _ => []

def systemEvents : SystemCommand → Except String Output → List Event
  | .initd service action, .ok output =>
    if service = "dnsmasq" ∧ action = "reload" ∧ output.success then [.reloadedDnsmasq] else []
  | .nftFlushSet set, .ok output => if flushed output then [.flushed set] else []
  | _, _ => []

/-- Whether a command of uci may answer so. One that gets what is there fails exactly when
it does not read. -/
def SplitWorld.Answers (w : SplitWorld) : Command → Except String String → Prop
  | .get _ o, .ok _ => w.reads o = true
  | .get ref o, .error _ => w.reads o = true → w.dhcp.perform "dhcp" (.get ref o) = none
  | _, _ => True

/-- How the world goes on after a command, any of which may fail. -/
def SplitWorld.Goes : (c : SplitCommand) → SplitWorld → SplitAnswer c → SplitWorld → Prop
  | .uci c, w, r, w' => w.Answers c r ∧ ∃ s', w.dhcp.Runs "dhcp" c r s' ∧
      w' = { w with dhcp := s', journal := w.journal ++ uciEvents w.dhcp s' c r }
  | .system c, w, r, w' => w' = { w with journal := w.journal ++ systemEvents c r }
  | .showExclusions, w, r, w' => r = w.shown ∧ w' = w
  | .dnsmasqVersion, w, r, w' => r = w.version ∧ w' = w
  | .removeNft, w, _, w' => w' = w
  | .writeNft _, w, _, w' => w' = w

/-! ## What an edit is to reach -/

def splitName : Name := ⟨"nym_split_ipset", by decide, by decide⟩

def splitSection (p : Package) : Option Section := p.find? (·.name.text = splitName.text)

def items : Value → List String
  | .string v => [v]
  | .list vs => vs

def sectionDomains (sec : Section) : List String := (sec.get? domainOption).elim [] items

def splitDomains (p : Package) : List String :=
  match splitSection p with
  | none => []
  | some sec => if sec.type = "ipset" then sectionDomains sec else []

def Event.ChangesSection : Event → Prop
  | .commit before after => splitSection before ≠ splitSection after
  | _ => False

def Event.RemovesDomain : Event → Prop
  | .commit before after => ∃ d ∈ splitDomains before, d ∉ splitDomains after
  | _ => False

/-- Every event of a kind is followed by its remedy. -/
def Remedied (bad : Event → Prop) (remedy : Event) : List Event → Prop
  | [] => True
  | e :: later => (bad e → remedy ∈ later) ∧ Remedied bad remedy later

/-- The sets were flushed after the last commit that removed a domain. -/
def Flushed (journal : List Event) : Prop :=
  ∀ set ∈ bypassSetNames, Remedied Event.RemovesDomain (.flushed set) journal

/-- Also dnsmasq was reloaded after the last commit that changed the section. -/
def Reached (journal : List Event) : Prop :=
  Remedied Event.ChangesSection .reloadedDnsmasq journal ∧ Flushed journal

section Remedied

variable {bad : Event → Prop} {remedy : Event} {journal new : List Event}

theorem remedied_append_of_mem (h : remedy ∈ new) :
    Remedied bad remedy (journal ++ new) ↔ Remedied bad remedy new := by
  induction journal with
  | nil => rfl
  | cons e later ih =>
    have hlater : remedy ∈ later ++ new := List.mem_append_right _ h
    rw [List.cons_append, Remedied, ih]
    exact and_iff_right fun _ => hlater

theorem remedied_append_of_not_mem (h : remedy ∉ new) :
    Remedied bad remedy (journal ++ new) ↔ Remedied bad remedy journal ∧ Remedied bad remedy new := by
  induction journal with
  | nil => exact (and_iff_right trivial).symm
  | cons e later ih =>
    rw [List.cons_append, Remedied, ih, List.mem_append, or_iff_left h, Remedied, and_assoc]

theorem remedied_of_forall_not (h : ∀ e ∈ journal, ¬bad e) : Remedied bad remedy journal := by
  induction journal with
  | nil => trivial
  | cons e later ih =>
    obtain ⟨he, hlater⟩ := List.forall_mem_cons.1 h
    exact ⟨fun hbad => absurd hbad he, ih hlater⟩

theorem remedied_of_mem {e : Event} (h : remedy ∈ new) (hnew : ∀ e ∈ new, ¬bad e) :
    Remedied bad remedy (journal ++ e :: new) :=
  (remedied_append_of_mem (List.mem_cons_of_mem _ h)).2 ⟨fun _ => h, remedied_of_forall_not hnew⟩

end Remedied

/-! ## What an edit finds and wants -/

/-- The domains an edit reads, `none` for no section. -/
def SplitWorld.seen (w : SplitWorld) : Option (List String) :=
  if w.sectionRead then
    (splitSection w.dhcp.package).map fun sec =>
      if strTrim (sec.type ++ "\n") = "ipset" ∧ w.domainsRead then
        (sec.get? domainOption).elim [] fun v => fields isWhiteSpace (State.valueText v ++ "\n")
      else []
  else none

def SplitWorld.ReadsSection (w : SplitWorld) : Prop :=
  w.sectionRead = true ∨ splitSection w.dhcp.package = none

/-- The domains of the stored exclusions, if there are some and dnsmasq can take them. -/
def SplitWorld.wanted (w : SplitWorld) : Option (List String) :=
  let domains := (splitTargets (w.shown.elim [] parseSplitExclusions)).domains
  if domains ≠ [] ∧ w.version.any nftsetSupportedIn then some domains else none

/-- Nothing is owed that an edit would not make up for. One that finds what it wants neither
reloads nor flushes, and one that sees no domain go does not flush. -/
def SplitWorld.Settles (w : SplitWorld) : Prop :=
  if w.seen = w.wanted then Reached w.journal
  else (∀ d ∈ w.seen.getD [], d ∈ w.wanted.getD []) →
    (∀ d ∈ splitDomains w.dhcp.file.package, d ∈ w.wanted.getD []) ∧ Flushed w.journal

/-! ## Sequences of edits -/

structure Edit where
  before : SplitWorld
  result : Except String Unit
  after : SplitWorld

/-- Edits one after another, and what they recorded. Between two of them anything else may
change. -/
inductive Edits : List Edit → List Event → Prop where
  | start : Edits [] []
  | edit {past : List Edit} {e : Edit} (h : Edits past e.before.journal)
      (hreturns : Returns SplitWorld.Goes regenSplit e.before e.result e.after) :
      Edits (past ++ [e]) e.after.journal

theorem Edits.forall_mem {P : Edit → Prop} {edits : List Edit} {journal : List Event}
    (h : Edits edits journal)
    (hedit : ∀ e : Edit, Returns SplitWorld.Goes regenSplit e.before e.result e.after → P e) :
    ∀ e ∈ edits, P e := by
  induction h with
  | start => exact fun e he => absurd he List.not_mem_nil
  | edit _ hreturns ih => exact List.forall_mem_append.2 ⟨ih, by simpa using hedit _ hreturns⟩

end Rpcd
