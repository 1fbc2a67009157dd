import NymVpn.Tunnel.Reuse

/-!
# Relaxed independence of the gateways

A connect may relax the criteria under which a pair is selected. A monitor selects its pair
under the flag it was started with, which changes with a connect, and when Disconnected is
entered, which carries no pair.
-/

namespace TunnelStateMachine

open Net NymFirewall GatewayDirectory Program World

/-! ## When the flag changes -/

@[simp] def Act.relaxation? : Act → Option Bool
  | .relaxed relax => some relax
  | .endedSession => some false
  | _ => none

@[simp] theorem World.relaxation_act (w : World) (a : Act) :
    (w.act a).shared.relaxIndependence = a.relaxation?.getD w.shared.relaxIndependence := by
  cases a with
  | idled pinned => cases pinned <;> rfl
  | _ => rfl

theorem World.relaxation_acts {w : World} {l : List Act} (h : ∀ a ∈ l, a.relaxation? = none) :
    (w.acts l).shared.relaxIndependence = w.shared.relaxIndependence := by
  induction l generalizing w with
  | nil => rw [acts_nil]
  | cons a l ih =>
    rw [acts_cons, ih fun b hb => h b (by simp [hb]), relaxation_act, h a (by simp)]
    rfl

section Relaxation

variable {reliable : Prop} {target : Target} {w : World} {l : List Act} {s : State} {event : Event}

theorem Enters.relaxation (h : Enters reliable target w l s) :
    s.gateways = none ∧ s.monitor = none ∨
      (w.acts l).shared.relaxIndependence = w.shared.relaxIndependence := by
  have hquiet : (∀ a ∈ l, a ≠ .endedSession) →
      (w.acts l).shared.relaxIndependence = w.shared.relaxIndependence := by
    refine fun hl => relaxation_acts fun a ha => ?_
    have hacts := h.acts a ha
    have hne := hl a ha
    cases a with
    | endedSession => exact absurd rfl hne
    | relaxed relax => exact hacts.elim
    | _ => rfl
  cases h with
  | disconnected => exact .inl ⟨rfl, rfl⟩
  | disconnectedRefused refused rest | connectingRefused refused acts rest =>
    cases rest; exact .inl ⟨rfl, rfl⟩
  | connectingOffline rest | connectedRefused refused hparams rest =>
    cases rest; exact .inr (hquiet (by simp))
  | connectedUnresolved hparams acts rest => cases rest; exact .inr (hquiet (by simp [acts]))
  | _ => exact .inr (hquiet (by simp))

def Event.relaxation? : Event → Option Bool
  | .command (.connect relax) => some relax
  | _ => none

theorem Event.eq_of_relaxation? {relax : Bool} (h : event.relaxation? = some relax) :
    event = .command (.connect relax) := by
  cases event with
  | command command =>
    cases command with
    | connect relax' => exact congrArg (Event.command ∘ TunnelCommand.connect) (Option.some.inj h)
    | _ => cases h
  | _ => cases h

theorem State.Handles.relaxation (h : s.Handles reliable w event l target)
    (hrunning : s.running = true) : (w.acts l).shared.relaxIndependence =
      event.relaxation?.getD w.shared.relaxIndependence := by
  cases hevent : event.relaxation? with
  | none =>
    refine relaxation_acts fun a ha => ?_
    have hacts := h.acts a ha
    cases a with
    | endedSession => exact hacts.elim
    | relaxed relax =>
      cases hacts
      cases hevent
    | _ => rfl
  | some relax =>
    obtain rfl := Event.eq_of_relaxation? hevent
    cases h with
    | ignored hignores => cases s <;> simp_all [State.ignores, State.running]
    | disconnected handles =>
      cases handles with
      | connect => simp
      | api handles | apiRefused handles => cases handles
    | error handles =>
      cases handles with
      | api handles => cases handles
      | _ => simp
    | offline handles => cases handles <;> simp
    | disconnecting handles => cases handles; simp
    | connected handles => cases handles; simp [Act.cleanup]
    | connecting handles =>
      cases handles with
      | connect =>
        rename_i self
        cases self.tunnelMonitorHandle <;> simp

end Relaxation

/-! ## The monitor that selected a pair -/

def startOf (id : ℕ) : List Effect → Option TunnelParameters
  | [] => none
  | .started i p :: earlier => if i = id then some p else startOf id earlier
  | _ :: earlier => startOf id earlier

/-- A pair that a monitor was started with, without the relaxation, had been selected
without it. -/
def StartsIndependent : List Effect → Prop
  | [] => True
  | .started _ p :: earlier =>
    (∀ g, p.selectedGateways = some g → p.relaxIndependence = false →
      ∃ q, startOf g.selectedBy earlier = some q ∧ q.relaxIndependence = false) ∧
    StartsIndependent earlier
  | _ :: earlier => StartsIndependent earlier

section StartOf

variable {id : ℕ} {l stops : List Effect} {p : TunnelParameters}

theorem mem_of_startOf (h : startOf id l = some p) : Effect.started id p ∈ l := by
  induction l with
  | nil => cases h
  | cons e l ih =>
    cases e with
    | started i q =>
      rw [startOf] at h
      split at h
      · next heq =>
          cases heq
          cases h
          exact List.mem_cons_self
      · exact List.mem_cons_of_mem _ (ih h)
    | _ => exact List.mem_cons_of_mem _ (ih h)

theorem startOf_passing (id : ℕ) (e : Effect) (l : List Effect) (he : e.passing = true) :
    startOf id (e :: l) = startOf id l := by
  cases e <;> first | rfl | cases he

end StartOf

def World.Numbered (w : World) : Prop := ∀ id p, Effect.started id p ∈ w.trace → id < w.nextMonitor

theorem World.Numbered.acts {w : World} {l : List Act} (h : w.Numbered) : (w.acts l).Numbered := by
  induction l generalizing w with
  | nil => simpa using h
  | cons a l ih =>
    rw [acts_cons]
    refine ih fun id p hmem => ?_
    rw [trace_act] at hmem
    cases a with
    | started resolved gateways =>
      rcases List.mem_cons.1 hmem with heq | hmem
      · cases heq
        exact Nat.lt_succ_self _
      · exact Nat.lt_succ_of_lt (h id p hmem)
    | idled pinned => cases pinned <;> simp [Act.effects] at hmem <;> exact h id p hmem
    | _ =>
      simp [Act.effects] at hmem
      exact h id p hmem

theorem World.Numbered.receive {c : Config} (h : c.world.Numbered) (event : Event) :
    (c.receive event).Numbered := by
  intro id p hmem
  have hnext : (c.receive event).nextMonitor = c.world.nextMonitor := by
    unfold Config.receive
    split <;> rfl
  rw [c.trace_receive event, List.mem_cons] at hmem
  rw [hnext]
  exact h id p (hmem.resolve_left (by simp))

theorem numbered_of_reachable {reliable : Prop} {C : Config → Event → Config → Prop} {c : Config}
    (h : Reachable reliable C c) : c.world.Numbered := by
  refine h.invariant_of_moves (I := fun c => c.world.Numbered) ?_ ?_
  · rintro target w l s ⟨_, _, _, _, _, rfl⟩ - -
    exact World.Numbered.acts fun id p hmem => by simp [initial] at hmem
  · rintro c event l target l' s - hc - - - -
    exact (hc.receive event).acts.acts

/-! ## Pairs that were selected under the relaxation -/

/-- A pair that is carried without the relaxation was selected without it, and so was
every pair that a monitor was started with. -/
def Config.ReusesIndependent (c : Config) : Prop :=
  (∀ g, c.state.gateways = some g → c.world.shared.relaxIndependence = false →
    ∃ p, startOf g.selectedBy c.world.trace = some p ∧ p.relaxIndependence = false) ∧
  StartsIndependent c.world.trace

/-- The flag under which the pair was selected, and that of the attached monitor. -/
@[mk_iff] structure Independent (g : Option SelectedGateways) (monitor : Option ℕ) (relax : Bool)
    (l : List Effect) : Prop where
  gateways : ∀ pair, g = some pair →
    ∃ p, startOf pair.selectedBy l = some p ∧ (p.relaxIndependence = true → relax = true)
  monitor : ∀ id, monitor = some id → ∃ p, startOf id l = some p ∧ p.relaxIndependence = relax
  starts : StartsIndependent l

/-- A connect without the relaxation keeps a pair that was selected under it: Offline
and Disconnecting keep the pair they have. -/
def KeepsRelaxed (c : Config) (event : Event) (_ : Config) : Prop :=
  event = .command (.connect false) ∧ c.state.clings event = true ∧
    ∃ g p, c.state.gateways = some g ∧ startOf g.selectedBy c.world.trace = some p ∧
      p.relaxIndependence = true

section Independent

variable {reliable : Prop} {c c' : Config} {event : Event}

abbrev Config.Independent (c : Config) : Prop :=
  TunnelStateMachine.Independent c.state.gateways c.state.monitor
    c.world.shared.relaxIndependence c.world.trace

theorem Independent.reuses (h : c.Independent) : c.ReusesIndependent := by
  refine ⟨fun g hg hrelax => ?_, h.starts⟩
  obtain ⟨p, hp, hrelaxed⟩ := h.gateways g hg
  refine ⟨p, hp, ?_⟩
  by_contra hrelaxed'
  cases hrelax.symm.trans (hrelaxed (by simpa using hrelaxed'))

section

variable {g g' : Option SelectedGateways} {monitor monitor' : Option ℕ} {relax : Bool}
  {l : List Effect} {w : World}

theorem Independent.passing (g : Option SelectedGateways) (monitor : Option ℕ) (relax : Bool)
    (e : Effect) (l : List Effect) (he : e.passing = true) :
    Independent g monitor relax (e :: l) = Independent g monitor relax l := by
  have hstart : ∀ id, startOf id (e :: l) = startOf id l := fun id => startOf_passing id e l he
  have hstarts : StartsIndependent (e :: l) = StartsIndependent l := by
    cases e <;> first | rfl | cases he
  simp only [independent_iff, hstart, hstarts]

theorem Independent.acts {acts : List Act} (h : Independent g monitor relax w.trace)
    (hacts : ∀ a ∈ acts, a.starts = false) : Independent g monitor relax (w.acts acts).trace :=
  (apply_trace_passing (Independent.passing g monitor relax) hacts).mpr h

theorem Independent.of_eq_none_or (h : Independent g monitor relax l) (hg : g' = none ∨ g' = g)
    (hmonitor : monitor' = none ∨ monitor' = monitor) : Independent g' monitor' relax l :=
  ⟨forall_some_of_eq_none_or h.gateways hg, forall_some_of_eq_none_or h.monitor hmonitor, h.starts⟩

theorem Independent.start {p : TunnelParameters} {id : ℕ} (h : Independent g none relax l)
    (hnew : ∀ q, Effect.started id q ∉ l) (hp : p.selectedGateways = g)
    (hrelax : p.relaxIndependence = relax) :
    Independent g (some id) relax (.started id p :: l) := by
  refine ⟨fun pair hpair => ?_, fun i hi => ?_, fun pair hpair hfalse => ?_, h.starts⟩
  · obtain ⟨q, hq, hqrelaxed⟩ := h.gateways pair hpair
    have hne : id ≠ pair.selectedBy := by
      rintro rfl
      exact hnew q (mem_of_startOf hq)
    exact ⟨q, by rw [startOf, if_neg hne, hq], hqrelaxed⟩
  · obtain rfl := Option.some.inj hi
    exact ⟨p, if_pos rfl, hrelax⟩
  · obtain ⟨q, hq, hqrelaxed⟩ := h.gateways pair (hp.symm.trans hpair)
    refine ⟨q, hq, ?_⟩
    by_contra htrue
    rw [Bool.not_eq_false] at htrue
    cases (hrelax.symm.trans hfalse).symm.trans (hqrelaxed htrue)

end

theorem startOf_receive (id : ℕ) :
    startOf id (c.receive event).trace = startOf id c.world.trace := by
  rw [c.trace_receive event]
  rfl

theorem Event.relaxation?_of_reselects {t : TunnelSettings} (h : event.reselects t = false) :
    event.relaxation? = none := by
  cases event with
  | command command => cases command <;> first | rfl | cases h
  | _ => rfl

theorem Independent.of_offers {pair : SelectedGateways} (h : c.Independent)
    (haccepts : c.accepts event = true) (hkeeps : ¬KeepsRelaxed c event c')
    (hpair : c.state.Offers c.world.shared.tunnelSettings event (some pair)) :
    ∃ p, startOf pair.selectedBy c.world.trace = some p ∧ (p.relaxIndependence = true →
      event.relaxation?.getD c.world.shared.relaxIndependence = true) := by
  rcases hpair with hnone | ⟨hsame, hevent⟩ | ⟨selected, rfl, hselected⟩
  · cases hnone
  · obtain ⟨p, hp, hrelaxed⟩ := h.gateways pair hsame.symm
    refine ⟨p, hp, fun htrue => ?_⟩
    cases hrelax : event.relaxation? with
    | none => exact hrelaxed htrue
    | some relax =>
      -- Only a state that clings to its pair keeps it through a connect.
      obtain rfl := Event.eq_of_relaxation? hrelax
      rcases hevent with hevent | hclings
      · cases hevent
      · by_contra hfalse
        obtain rfl : relax = false := by simpa using hfalse
        exact hkeeps ⟨rfl, hclings, pair, p, hsame.symm, hp, htrue⟩
  · obtain rfl := Option.some.inj hselected
    obtain ⟨id, hid, hsends⟩ := (Option.any_eq_true _ _).1 haccepts
    rw [Bool.and_eq_true] at hsends
    obtain ⟨p, hp, hrelaxed⟩ := h.monitor id hid
    rw [beq_iff_eq.1 hsends.2]
    exact ⟨p, hp, fun htrue => hrelaxed.symm.trans htrue⟩

theorem Independent.handles {acts : List Act} {target : Target} (h : c.Independent)
    (hnumbered : c.world.Numbered) (haccepts : c.accepts event = true)
    (hkeeps : ¬KeepsRelaxed c event c')
    (hhandles : c.state.Handles reliable (c.receive event) event acts target) :
    Independent target.gateways target.monitor
      ((c.receive event).acts acts).shared.relaxIndependence
      ((c.receive event).acts acts).trace := by
  have hoffers := hhandles.offers
  have hrelax := hhandles.relaxation (c.running_of_accepts haccepts)
  have hreceived := hnumbered.receive event
  rw [c.shared_receive event] at hoffers hrelax
  have hpair : Independent target.gateways none
      (event.relaxation?.getD c.world.shared.relaxIndependence) (c.receive event).trace := by
    refine ⟨fun pair hg => ?_, by simp, ?_⟩
    · rw [startOf_receive]
      exact h.of_offers haccepts hkeeps (hg ▸ hoffers)
    · rw [c.trace_receive event]
      exact h.starts
  cases hhandles.attaches with
  | passes hacts hmonitor =>
    rw [hrelax]
    refine Independent.acts ⟨hpair.gateways, fun id hid => ?_, hpair.starts⟩ hacts
    rcases hmonitor with hnone | ⟨hsame, hevent⟩
    · cases hnone.symm.trans hid
    · rw [startOf_receive, Event.relaxation?_of_reselects hevent]
      exact h.monitor id (hsame.symm.trans hid)
  | starts hacts hl hevent hmonitor =>
    rw [hl, acts_append, acts_cons, acts_nil] at hrelax ⊢
    rw [hrelax, trace_act, hmonitor, ← nextMonitor_acts hacts]
    refine (hpair.acts hacts).start (fun q hmem => ?_) rfl ?_
    · exact absurd (hreceived.acts _ q hmem) (lt_irrefl _)
    · rw [← hrelax]
      rfl

theorem Independent.step {c'' : Config} (h : c.Independent) (hnumbered : c.world.Numbered)
    (hstep : Step reliable c event c'') (hkeeps : ¬KeepsRelaxed c event c') : c''.Independent := by
  obtain ⟨l, target, l', hhandles, henters, hworld⟩ := hstep.moves
  have hentered := ((h.handles hnumbered hstep.accepts hkeeps hhandles).acts
    henters.starts).of_eq_none_or henters.carries.1 henters.carries.2
  rw [Config.Independent, hworld]
  rcases henters.relaxation with ⟨hgateways, hmonitor⟩ | hrelax
  · rw [hgateways, hmonitor]
    exact ⟨by simp, by simp, hentered.starts⟩
  · rw [hrelax]
    exact hentered

def dropsRelaxed (c : Config) (event : Event) (c' : Config) : Prop := ¬KeepsRelaxed c event c'

theorem independent_of_reachable (h : Reachable reliable dropsRelaxed c) : c.Independent := by
  refine h.invariant_of_steps (I := Config.Independent) ?_ ?_
  · rintro target w l s ⟨settings, _, _, _, _, rfl⟩ htarget henters
    have htarget : ∀ relax, Independent target.gateways target.monitor relax
        [.spawned settings] := by
      rcases htarget with rfl | rfl <;> exact fun _ => ⟨by rintro _ ⟨⟩, by rintro _ ⟨⟩, trivial⟩
    exact ((htarget _).of_eq_none_or henters.carries.1 henters.carries.2).acts henters.starts
  · exact fun c event c' hc h hstep hkeeps => h.step (numbered_of_reachable hc) hstep hkeeps

theorem Step.gateways_connect {relax : Bool} {g : SelectedGateways}
    (hstep : Step reliable c (.command (.connect relax)) c')
    (hclings : c.state.clings (.command (.connect relax)) = true)
    (hg : c.state.gateways = some g) : c'.state.gateways = some g := by
  obtain ⟨l, target, l', hhandles, henters, -⟩ := hstep.moves
  obtain ⟨state, w⟩ := c
  generalize c'.state = state' at henters
  cases hhandles with
  | ignored =>
    cases henters
    exact hg
  | offline handles => cases handles <;> cases henters <;> exact hg
  | disconnecting handles =>
    cases handles with
    | connect =>
      rename_i self
      obtain ⟨after, id⟩ := self
      cases henters
      cases after <;> exact hg
  | _ => cases hclings

/-- As long as no connect without the relaxation keeps a pair that was selected under it, no
such pair is used without it. The next step keeps it so exactly if it is no such connect. -/
theorem reuses_independent_iff (hc : Reachable False dropsRelaxed c)
    (hstep : Step False c event c') :
    c.ReusesIndependent ∧ (c'.ReusesIndependent ↔ ¬KeepsRelaxed c event c') := by
  have hinv := independent_of_reachable hc
  refine ⟨hinv.reuses, ?_⟩
  by_cases hkeeps : KeepsRelaxed c event c'
  · refine iff_of_false (fun hreuses => ?_) (not_not.2 hkeeps)
    obtain ⟨rfl, hclings, g, p, hg, hp, hrelaxed⟩ := hkeeps
    have hg' := hstep.gateways_connect hclings hg
    obtain ⟨l, target, l', hhandles, henters, hworld⟩ := hstep.moves
    have hflag : c'.world.shared.relaxIndependence = false := by
      rcases henters.relaxation with ⟨hnone, -⟩ | hsame
      · cases hnone.symm.trans hg'
      · rw [hworld, hsame, hhandles.relaxation hstep.accepts]
        rfl
    have hstart : startOf g.selectedBy c'.world.trace = startOf g.selectedBy c.world.trace := by
      have hpassing := startOf_passing g.selectedBy
      cases hhandles.attaches with
      | passes hacts =>
        rw [hworld, apply_trace_passing hpassing henters.starts,
          apply_trace_passing hpassing hacts, startOf_receive]
      | starts hacts hl hevent => cases hevent
    obtain ⟨q, hq, hqrelaxed⟩ := hreuses.1 g hg' hflag
    rw [hstart, hp] at hq
    obtain rfl := Option.some.inj hq
    cases hrelaxed.symm.trans hqrelaxed
  · exact iff_of_true (hinv.step (numbered_of_reachable hc) hstep hkeeps).reuses hkeeps

end Independent

theorem reuses_independent_iff_resumed : ∃ c c', Reachable False dropsRelaxed c ∧
    Step False c (.connectivity false) c' ∧ c'.state.gateways = some (samplePair 0) ∧
    c'.ReusesIndependent := by
  obtain ⟨c, c', hc, hstep, hpair⟩ := exists_step_under_of_plays (C := dropsRelaxed)
    (connectSteps true ++ [(.connectivity true, .smooth), (.monitorWaited, .smooth)])
    (.connectivity false) .smooth False.elim
    (by simp [connectSteps, startSteps, dropsRelaxed, KeepsRelaxed])
    (reachable_spawnedWith False sampleSettings)
    (P := fun _ c' => c'.state.gateways = some (samplePair 0)) (by decide +kernel)
  refine ⟨c, c', hc, hstep, hpair, (reuses_independent_iff hc hstep).2.2 ?_⟩
  rintro ⟨hevent, -⟩
  cases hevent

def startsRelaxed : List Effect → Bool
  | .started _ p :: earlier => !p.relaxIndependence && p.selectedGateways.any fun g =>
    (startOf g.selectedBy earlier).any fun q => q.relaxIndependence
  | _ => false

/-- A session with the relaxation loses its network and is disconnected; the next one,
without it, starts while the host is still offline. -/
theorem relaxed_pair_reused : ∃ c c', Reachable False anyStep c ∧
    Step False c (.apiResolved (some noApi)) c' ∧ ¬StartsIndependent c'.world.trace := by
  obtain ⟨c, c', hc, hstep, hrelaxed⟩ := exists_step_of_plays
    (connectSteps true ++ [(.connectivity true, .smooth), (.monitorWaited, .smooth),
      (.command .disconnect, .smooth), (.command (.connect false), .smooth),
      (.connectivity false, .smooth), (.reconnectDelay, .smooth)])
    (.apiResolved (some noApi)) .smooth False.elim
    (reachable_spawnedWith False sampleSettings)
    (P := fun _ c' => startsRelaxed c'.world.trace = true) (by decide +kernel)
  refine ⟨c, c', hc, hstep, fun hindependent => ?_⟩
  revert hrelaxed hindependent
  generalize c'.world.trace = l
  intro hrelaxed hindependent
  unfold startsRelaxed at hrelaxed
  split at hrelaxed
  · next i p earlier =>
      rw [Bool.and_eq_true, Bool.not_eq_true'] at hrelaxed
      obtain ⟨g, hg, hany⟩ := (Option.any_eq_true _ _).1 hrelaxed.2
      obtain ⟨q, hq, hqrelaxed⟩ := (Option.any_eq_true _ _).1 hany
      obtain ⟨q', hq', hqindependent⟩ := hindependent.1 g hg hrelaxed.1
      obtain rfl := Option.some.inj (hq.symm.trans hq')
      cases hqindependent.symm.trans hqrelaxed
  · cases hrelaxed

end TunnelStateMachine
