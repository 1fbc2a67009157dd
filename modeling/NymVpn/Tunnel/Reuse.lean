import NymVpn.Tunnel.Carried

/-!
# Gateways that are used again

A pair is selected by a monitor under its settings, and is carried from state to state for
the next monitor. The settings handlers drop the pair when the selection depends on the
change, except in Disconnecting.
-/

namespace TunnelStateMachine

open Net NymFirewall GatewayDirectory Program

/-! ## Pairs that are out of date -/

def Effect.changesSelection : Effect → Bool
  | .handled (.command (.setTunnelSettings s)) t => t.affects s
  | _ => false

def changedSince (id : ℕ) : List Effect → Bool
  | [] => false
  | .started i _ :: earlier => i != id && changedSince id earlier
  | e :: earlier => e.changesSelection || changedSince id earlier

def StartsUpToDate : List Effect → Prop
  | [] => True
  | .started _ p :: earlier =>
    (∀ g, p.selectedGateways = some g → changedSince g.selectedBy earlier = false) ∧
      StartsUpToDate earlier
  | _ :: earlier => StartsUpToDate earlier

/-- The pair that the state carries is up to date, and so was every pair that a monitor
was started with. -/
def Config.ReusesUpToDate (c : Config) : Prop :=
  (∀ g, c.state.gateways = some g → changedSince g.selectedBy c.world.trace = false) ∧
    StartsUpToDate c.world.trace

section UpToDate

variable {id : ℕ} {l : List Effect} {c c' : Config} {event : Event}

/-- The pair that is carried, the attached monitor, and every start. -/
@[mk_iff] structure UpToDate (g : Option SelectedGateways) (monitor : Option ℕ) (l : List Effect) :
    Prop where
  gateways : ∀ pair, g = some pair → changedSince pair.selectedBy l = false
  monitor : ∀ id, monitor = some id → changedSince id l = false
  starts : StartsUpToDate l

abbrev Config.UpToDate (c : Config) : Prop :=
  TunnelStateMachine.UpToDate c.state.gateways c.state.monitor c.world.trace

theorem UpToDate.reuses (h : c.UpToDate) : c.ReusesUpToDate :=
  ⟨h.gateways, h.starts⟩

theorem UpToDate.passing (g : Option SelectedGateways) (monitor : Option ℕ) (e : Effect)
    (l : List Effect) (he : e.passing = true) :
    UpToDate g monitor (e :: l) = UpToDate g monitor l := by
  have hchanged : ∀ id, changedSince id (e :: l) = changedSince id l := by
    intro id
    cases e <;> first | rfl | cases he
  have hstarts : StartsUpToDate (e :: l) = StartsUpToDate l := by
    cases e <;> first | rfl | cases he
  simp only [upToDate_iff, hchanged, hstarts]

variable {g g' : Option SelectedGateways} {monitor monitor' : Option ℕ} {reliable : Prop}
  {t : TunnelSettings}

theorem UpToDate.acts {w : World} {acts : List Act} (h : UpToDate g monitor w.trace)
    (hacts : ∀ a ∈ acts, a.starts = false) : UpToDate g monitor (w.acts acts).trace :=
  (World.apply_trace_passing (UpToDate.passing g monitor) hacts).mpr h

theorem forall_some_of_eq_none_or {α : Type} {P : α → Prop} {o o' : Option α}
    (h : ∀ a, o = some a → P a) (ho : o' = none ∨ o' = o) : ∀ a, o' = some a → P a := by
  rcases ho with rfl | rfl
  · exact fun a ha => nomatch ha
  · exact h

theorem UpToDate.of_eq_none_or (h : UpToDate g monitor l) (hg : g' = none ∨ g' = g)
    (hmonitor : monitor' = none ∨ monitor' = monitor) : UpToDate g' monitor' l :=
  ⟨forall_some_of_eq_none_or h.gateways hg, forall_some_of_eq_none_or h.monitor hmonitor, h.starts⟩

theorem UpToDate.start {p : TunnelParameters} (h : UpToDate g none l)
    (hp : p.selectedGateways = g) : UpToDate g (some id) (.started id p :: l) := by
  refine ⟨fun pair hpair => ?_, fun i hi => ?_, fun pair hpair => ?_, h.starts⟩
  · rw [changedSince, h.gateways pair hpair, Bool.and_false]
  · obtain rfl := Option.some.inj hi
    simp [changedSince]
  · exact h.gateways pair (hp.symm.trans hpair)

/-- The pair outlives a change that the selection depends on: the update is handled
in Disconnecting, which will reconnect with the pair. -/
def KeepsOutdated (c : Config) (event : Event) (_ : Config) : Prop :=
  ∃ self s, c.state = .disconnecting self ∧ self.afterDisconnect.gateways.isSome = true ∧
    event = .command (.setTunnelSettings s) ∧ c.world.shared.tunnelSettings.affects s = true

def Event.changesSelection (t : TunnelSettings) (event : Event) : Bool :=
  Effect.changesSelection (.handled event t)

theorem Event.changesSelection_of_reselects
    (h : event.reselects t = false) : event.changesSelection t = false := by
  cases event with
  | command command =>
    cases command with
    | setTunnelSettings s => exact h
    | _ => rfl
  | _ => rfl

theorem changedSince_receive : changedSince id (c.receive event).trace =
    (event.changesSelection c.world.shared.tunnelSettings || changedSince id c.world.trace) := by
  rw [c.trace_receive event]
  rfl

theorem exists_update_of_changesSelection (h : event.changesSelection t = true) :
    ∃ s, event = .command (.setTunnelSettings s) ∧ t.affects s = true := by
  cases event with
  | command command =>
    cases command with
    | setTunnelSettings s => exact ⟨s, rfl, h⟩
    | connect relax | disconnect => cases h
  | _ => cases h

theorem UpToDate.of_offers {pair : SelectedGateways} (h : c.UpToDate)
    (haccepts : c.accepts event = true) (hkeeps : ¬KeepsOutdated c event c')
    (hpair : c.state.Offers c.world.shared.tunnelSettings event (some pair)) :
    changedSince pair.selectedBy (c.receive event).trace = false := by
  rw [changedSince_receive, Bool.or_eq_false_iff]
  rcases hpair with hnone | ⟨hsame, hevent⟩ | ⟨selected, rfl, hselected⟩
  · cases hnone
  · refine ⟨?_, h.gateways pair hsame.symm⟩
    rcases hevent with hevent | hclings
    · exact Event.changesSelection_of_reselects hevent
    · -- A state that clings to its pair while the selection changes is Disconnecting.
      by_contra hchanges
      rw [Bool.not_eq_false] at hchanges
      obtain ⟨s, rfl, haffects⟩ := exists_update_of_changesSelection hchanges
      obtain ⟨state, world⟩ := c
      cases state with
      | disconnecting self =>
        refine hkeeps ⟨self, s, rfl, ?_, rfl, haffects⟩
        exact Option.isSome_iff_exists.2 ⟨pair, hsame.symm⟩
      | _ => cases hclings
  · obtain rfl := Option.some.inj hselected
    refine ⟨rfl, ?_⟩
    obtain ⟨id, hid, hsends⟩ := (Option.any_eq_true _ _).1 haccepts
    rw [Bool.and_eq_true] at hsends
    rw [beq_iff_eq.1 hsends.2]
    exact h.monitor id hid

theorem UpToDate.handles {acts : List Act} {target : Target} (h : c.UpToDate)
    (haccepts : c.accepts event = true) (hkeeps : ¬KeepsOutdated c event c')
    (hhandles : c.state.Handles reliable (c.receive event) event acts target) :
    UpToDate target.gateways target.monitor ((c.receive event).acts acts).trace := by
  have hoffers := hhandles.offers
  rw [c.shared_receive event] at hoffers
  have hpair : UpToDate target.gateways none (c.receive event).trace := by
    refine ⟨fun pair hg => ?_, by simp, ?_⟩
    · exact h.of_offers haccepts hkeeps (hg ▸ hoffers)
    · rw [c.trace_receive event]
      exact h.starts
  cases hhandles.attaches with
  | passes hacts hmonitor =>
    refine UpToDate.acts ⟨hpair.gateways, fun id hid => ?_, hpair.starts⟩ hacts
    rcases hmonitor with hnone | ⟨hsame, hevent⟩
    · cases hnone.symm.trans hid
    · rw [changedSince_receive, h.monitor id (hsame.symm.trans hid), Bool.or_false]
      exact Event.changesSelection_of_reselects (c.shared_receive event ▸ hevent)
  | starts hacts hl hevent hmonitor =>
    rw [hl, World.acts_append, World.acts_cons, World.acts_nil, World.trace_act, hmonitor,
      ← World.nextMonitor_acts hacts]
    exact (hpair.acts hacts).start rfl

theorem UpToDate.step {c'' : Config} (h : c.UpToDate)
    (hstep : Step reliable c event c'') (hkeeps : ¬KeepsOutdated c event c') : c''.UpToDate := by
  obtain ⟨l, target, l', hhandles, henters, hworld⟩ := hstep.moves
  rw [Config.UpToDate, hworld]
  exact ((h.handles hstep.accepts hkeeps hhandles).acts henters.starts).of_eq_none_or
    henters.carries.1 henters.carries.2

def dropsOutdated (c : Config) (event : Event) (c' : Config) : Prop := ¬KeepsOutdated c event c'

theorem upToDate_of_reachable (h : Reachable reliable dropsOutdated c) : c.UpToDate := by
  refine h.invariant_of_steps (I := Config.UpToDate) ?_ ?_
  · rintro target w l s ⟨settings, _, _, _, _, rfl⟩ htarget henters
    have htarget : UpToDate target.gateways target.monitor [.spawned settings] := by
      rcases htarget with rfl | rfl <;> exact ⟨by rintro _ ⟨⟩, by rintro _ ⟨⟩, trivial⟩
    exact (htarget.of_eq_none_or henters.carries.1 henters.carries.2).acts henters.starts
  · exact fun c event c' _ h hstep hkeeps => h.step hstep hkeeps

/-- As long as no pair is kept in Disconnecting through an update that the selection depends on,
every pair that is carried or started with is up to date. The next step keeps it so exactly if
it does not keep such a pair. -/
theorem reuses_upToDate_iff (hc : Reachable False dropsOutdated c) (hstep : Step False c event c') :
    c.ReusesUpToDate ∧ (c'.ReusesUpToDate ↔ ¬KeepsOutdated c event c') := by
  have hinv := upToDate_of_reachable hc
  refine ⟨hinv.reuses, ?_⟩
  by_cases hkeeps : KeepsOutdated c event c'
  · refine iff_of_false (fun hreuses => ?_) (not_not.2 hkeeps)
    obtain ⟨self, s, hself, hgateways, rfl, haffects⟩ := hkeeps
    obtain ⟨g, hg⟩ := Option.isSome_iff_exists.1 hgateways
    have hkept : c'.state = .disconnecting self ∧ c'.world.trace =
        (c.receive (.command (.setTunnelSettings s))).trace := by
      obtain ⟨l, target, l', hhandles, henters, hworld⟩ := hstep.moves
      rw [hworld]
      generalize c'.state = state at henters
      rw [hself] at hhandles
      cases hhandles with
      | ignored hignores => cases hignores
      | same hcompares => cases hcompares
      | disconnecting handles =>
        cases handles
        cases henters
        simp [World.trace_act, Act.effects]
    have hfresh := hreuses.1 g (by rw [hkept.1]; exact hg)
    rw [hkept.2, c.trace_receive] at hfresh
    cases (Bool.or_eq_false_iff.1 hfresh).1.symm.trans haffects
  · exact iff_of_true (hinv.step hstep hkeeps).reuses hkeeps

end UpToDate

theorem reuses_upToDate_iff_reconnect : ∃ c c', Reachable False dropsOutdated c ∧
    Step False c .monitorWaited c' ∧ c'.state.gateways = some (samplePair 0) ∧
    c'.ReusesUpToDate := by
  obtain ⟨c, c', hc, hstep, hpair⟩ := exists_step_under_of_plays (C := dropsOutdated)
    (connectSteps false ++ [(.connectivity true, .smooth)]) .monitorWaited .smooth
    False.elim
    (by simp [connectSteps, startSteps, dropsOutdated, KeepsOutdated])
    (reachable_spawnedWith False sampleSettings)
    (P := fun _ c' => c'.state.gateways = some (samplePair 0)) (by decide +kernel)
  refine ⟨c, c', hc, hstep, hpair, (reuses_upToDate_iff hc hstep).2.2 ?_⟩
  rintro ⟨self, s, -, -, hs, -⟩
  cases hs

def otherExitSettings : TunnelSettings := { ipv6Settings with exitPoint := .country "CH" }

def startsOutdated : List Effect → Bool
  | .started _ p :: earlier => p.selectedGateways.any fun g => changedSince g.selectedBy earlier
  | _ => false

/-- The tunnel is taken down for one change; another exit is asked for before it is down;
the next monitor is started with the gateways of the old exit. -/
theorem outdated_pair_reused : ∃ c c', Reachable False anyStep c ∧
    Step False c (.apiResolved (some noApi)) c' ∧ ¬StartsUpToDate c'.world.trace := by
  obtain ⟨c, c', hc, hstep, houtdated⟩ := exists_step_of_plays
    (connectSteps false ++
      [(.command (.setTunnelSettings ipv6Settings), .smooth),
        (.command (.setTunnelSettings otherExitSettings), .smooth),
        (.monitorWaited, .smooth), (.reconnectDelay, .smooth)])
    (.apiResolved (some noApi)) .smooth False.elim
    (reachable_spawnedWith False sampleSettings)
    (P := fun _ c' => startsOutdated c'.world.trace = true) (by decide +kernel)
  refine ⟨c, c', hc, hstep, fun hupToDate => ?_⟩
  revert houtdated hupToDate
  generalize c'.world.trace = l
  intro houtdated hupToDate
  unfold startsOutdated at houtdated
  split at houtdated
  · obtain ⟨g, hg, hchanged⟩ := (Option.any_eq_true _ _).1 houtdated
    cases (hupToDate.1 g hg).symm.trans hchanged
  · cases houtdated

end TunnelStateMachine
