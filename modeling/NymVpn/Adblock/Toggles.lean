import Mathlib.Algebra.Group.Nat.Defs
import Mathlib.Data.Nat.Basic
import Mathlib.Logic.Relation
import Mathlib.Order.Basic

/-!
# Turning ad-blocking on and off

Each toggle spawns a run that installs or removes the block list, under one lock; a run whose
generation is not the current one does nothing. The restore at the start is run zero.
-/

namespace Adblock

inductive Operation where
  | install
  | remove
deriving DecidableEq

inductive Result where
  | done
  | superseded
  | failed
deriving DecidableEq

/-- Where a run is. The restore sleeps before it tries again. -/
inductive Phase where
  | waiting
  | locked
  | downloading
  | operating (op : Operation)
  | ended (result : Result)
  | sleeping
deriving DecidableEq

def Phase.holdsLock : Phase → Bool
  | .locked | .downloading | .operating _ => true
  | _ => false

def Phase.acts : Phase → Bool
  | .downloading | .operating _ => true
  | _ => false

structure Run where
  enable : Bool
  generation : ℕ
  phase : Phase

def Run.operation (r : Run) : Operation := if r.enable then .install else .remove

inductive Event where
  | took (run : ℕ)
  | completed (run : ℕ) (op : Operation) (ok : Bool)

structure Toggles where
  generation : ℕ
  lock : Option ℕ
  run : ℕ → Run
  made : ℕ
  /-- The latest event first. -/
  log : List Event

namespace Toggles

def new (restores : Bool) : Toggles where
  generation := 0
  lock := none
  run _ := ⟨true, 0, if restores then .waiting else .ended .done⟩
  made := 0
  log := []

variable (s : Toggles) (i : ℕ)

def setPhase (phase : Phase) : Toggles :=
  { s with run := Function.update s.run i { s.run i with phase } }

/-- The generation is a machine word of `w` bits. -/
def toggle (w : ℕ) (enable : Bool) : Toggles :=
  let generation := (s.generation + 1) % 2 ^ w
  { s with
    generation
    made := s.made + 1
    run := Function.update s.run (s.made + 1) ⟨enable, generation, .waiting⟩ }

def acquire : Toggles :=
  { s.setPhase i .locked with lock := some i, log := .took i :: s.log }

/-- The run gives the lock back. A restore that failed tries again. -/
def finish (result : Result) : Toggles :=
  { s.setPhase i (if i = 0 ∧ result = .failed then .sleeping else .ended result) with
    lock := none }

def complete (op : Operation) (ok : Bool) : Toggles :=
  { s.finish i (if ok then .done else .failed) with log := .completed i op ok :: s.log }

/-- A step of the service loop or of a run. Downloads, installs and removes may fail; a
download may be over before the run is told that it is superseded. -/
inductive Step (w : ℕ) : Toggles → Toggles → Prop
  | toggle (s : Toggles) (enable : Bool) : Step w s (s.toggle w enable)
  | acquire {s : Toggles} {i : ℕ} (hi : i ≤ s.made) (hphase : (s.run i).phase = .waiting)
      (hlock : s.lock = none) : Step w s (s.acquire i)
  | superseded {s : Toggles} {i : ℕ}
      (hphase : (s.run i).phase = .locked ∨ (s.run i).phase = .downloading)
      (hnewer : s.generation ≠ (s.run i).generation) : Step w s (s.finish i .superseded)
  | remove {s : Toggles} {i : ℕ} (hphase : (s.run i).phase = .locked)
      (hcurrent : s.generation = (s.run i).generation) (henable : (s.run i).enable = false) :
      Step w s (s.setPhase i (.operating .remove))
  | download {s : Toggles} {i : ℕ} (hphase : (s.run i).phase = .locked)
      (hcurrent : s.generation = (s.run i).generation) (henable : (s.run i).enable = true) :
      Step w s (s.setPhase i .downloading)
  | downloadFailed {s : Toggles} {i : ℕ} (hphase : (s.run i).phase = .downloading) :
      Step w s (s.finish i .failed)
  | install {s : Toggles} {i : ℕ} (hphase : (s.run i).phase = .downloading) :
      Step w s (s.setPhase i (.operating .install))
  | complete {s : Toggles} {i : ℕ} {op : Operation} (hphase : (s.run i).phase = .operating op)
      (ok : Bool) : Step w s (s.complete i op ok)
  | retry {s : Toggles} (hphase : (s.run 0).phase = .sleeping) : Step w s (s.setPhase 0 .waiting)

def lastCompleted : List Event → Option (ℕ × Operation × Bool)
  | [] => none
  | .completed i op ok :: _ => some (i, op, ok)
  | .took _ :: log => lastCompleted log

structure Ordered : Prop where
  generation : s.generation = s.made
  own : ∀ i, i ≤ s.made → (s.run i).generation = i
  holder : ∀ i, s.lock = some i ↔ (s.run i).phase.holdsLock = true
  bound : ∀ i, s.lock = some i → i ≤ s.made
  asked : ∀ i op, (s.run i).phase = .operating op → (s.run i).operation = op
  downloads : ∀ i, (s.run i).phase = .downloading → (s.run i).enable = true
  took : ∀ i, 0 < i → i ≤ s.made → (s.run i).phase ≠ .waiting → .took i ∈ s.log
  made : ∀ i, .took i ∈ s.log → i ≤ s.made
  /-- Once the run of a newer toggle took the lock, an older one does not act. -/
  passed : ∀ i j, i < j → .took j ∈ s.log → (s.run i).phase.acts = false
  latest : 0 < s.made → (s.run s.made).phase ≠ .ended .superseded
  won : 0 < s.made → (s.run s.made).phase = .ended .done →
    lastCompleted s.log = some (s.made, (s.run s.made).operation, true)

variable {s i} {w : ℕ} {s' : Toggles} {p : Phase}

theorem ordered_new (restores : Bool) : (new restores).Ordered where
  generation := rfl
  own i hi := (Nat.le_zero.1 hi).symm
  holder i := by cases restores <;> simp [new, Phase.holdsLock]
  bound i h := by cases h
  asked i op h := by cases restores <;> cases h
  downloads i h := rfl
  took i hpos hi := absurd hi (Nat.not_le.2 hpos)
  made i h := by cases h
  passed i j _ h := by cases h
  latest h := absurd h (Nat.lt_irrefl 0)
  won h := absurd h (Nat.lt_irrefl 0)

theorem Ordered.toggle (h : s.Ordered) (hw : s.made + 1 < 2 ^ w) (enable : Bool) :
    (s.toggle w enable).Ordered := by
  have hgeneration : (s.generation + 1) % 2 ^ w = s.made + 1 := by
    rw [h.generation, Nat.mod_eq_of_lt hw]
  obtain ⟨_, hown, hholder, hbound, hasked, hdownloads, htook, hmade, hpassed, -, -⟩ := h
  constructor <;> simp only [Toggles.toggle, hgeneration, Function.update_apply]
  all_goals grind [Phase.holdsLock, Phase.acts, Run.operation]

theorem holdsLock_of_acts (h : p.acts = true) : p.holdsLock = true := by
  cases p <;> first | rfl | cases h

theorem Ordered.acts_eq_false (h : s.Ordered) (hlock : s.lock = none) (j : ℕ) :
    (s.run j).phase.acts = false := by
  by_contra hacts
  have hheld := (h.holder j).2 (holdsLock_of_acts (Bool.not_eq_false _ ▸ hacts))
  rw [hlock] at hheld
  cases hheld

theorem Ordered.acquire (h : s.Ordered) (hi : i ≤ s.made) (hlock : s.lock = none) :
    (s.acquire i).Ordered := by
  -- The lock was free, so nobody acts whom this run could have passed.
  have hidle := h.acts_eq_false hlock
  obtain ⟨hgeneration, hown, hholder, hbound, hasked, hdownloads, htook, hmade, hpassed, hlatest,
    hwon⟩ := h
  constructor <;> simp only [Toggles.acquire, setPhase, Function.update_apply, lastCompleted]
  all_goals grind [Phase.holdsLock, Phase.acts, Run.operation]

theorem Ordered.advance (h : s.Ordered) (hi : (s.run i).phase.holdsLock = true)
    (hp : p.holdsLock = true) (hacts : p.acts = true → ∀ j, i < j → .took j ∉ s.log)
    (hasks : ∀ op, p = .operating op → (s.run i).operation = op)
    (hdownloads : p = .downloading → (s.run i).enable = true) : (s.setPhase i p).Ordered := by
  have hwaits : (s.run i).phase ≠ .waiting := by
    rintro hwaits
    rw [hwaits] at hi
    cases hi
  obtain ⟨hgeneration, hown, hholder, hbound, hasked, hloads, htook, hmade, hpassed, hlatest,
    hwon⟩ := h
  constructor <;> simp only [setPhase, Function.update_apply]
  all_goals grind [Phase.holdsLock, Run.operation]

theorem Ordered.finish (h : s.Ordered) {result : Result} {log : List Event}
    (hi : (s.run i).phase.holdsLock = true)
    (hlog : ∀ j, .took j ∈ log ↔ .took j ∈ s.log)
    (hsuperseded : i = s.made → result ≠ .superseded)
    (hdone : 0 < i → i = s.made → result = .done →
      lastCompleted log = some (i, (s.run i).operation, true))
    (hother : 0 < s.made → .took s.made ∈ s.log → i ≠ s.made →
      lastCompleted log = lastCompleted s.log) :
    Ordered { s.finish i result with log } := by
  have hwaits : (s.run i).phase ≠ .waiting := by
    rintro hwaits
    rw [hwaits] at hi
    cases hi
  obtain ⟨hgeneration, hown, hholder, hbound, hasked, hdownloads, htook, hmade, hpassed, hlatest,
    hwon⟩ := h
  constructor <;> simp only [Toggles.finish, setPhase, Function.update_apply, hlog]
  all_goals grind [Phase.holdsLock, Phase.acts, Run.operation]

theorem Ordered.retry (h : s.Ordered) (hphase : (s.run 0).phase = .sleeping) :
    (s.setPhase 0 .waiting).Ordered := by
  obtain ⟨hgeneration, hown, hholder, hbound, hasked, hdownloads, htook, hmade, hpassed, hlatest,
    hwon⟩ := h
  constructor <;> simp only [setPhase, Function.update_apply]
  all_goals grind [Phase.holdsLock, Phase.acts, Run.operation]

theorem Ordered.eq_made (h : s.Ordered) (hi : (s.run i).phase.holdsLock = true)
    (hcurrent : s.generation = (s.run i).generation) : i = s.made := by
  have hbound := h.bound i ((h.holder i).2 hi)
  rw [h.generation, h.own i hbound] at hcurrent
  exact hcurrent.symm

theorem Step.ordered (hstep : Step w s s') (h : s.Ordered) (hw : s'.made < 2 ^ w) : s'.Ordered := by
  cases hstep with
  | toggle enable => exact h.toggle hw enable
  | acquire hi hphase hlock => exact h.acquire hi hlock
  | @superseded i hphase hnewer =>
    have hi : (s.run i).phase.holdsLock = true := by
      rcases hphase with hphase | hphase <;> rw [hphase] <;> rfl
    refine h.finish hi (fun j => Iff.rfl) ?_ (fun _ _ => nofun) fun _ _ _ => rfl
    rintro rfl
    exact absurd (h.generation.trans (h.own s.made le_rfl).symm) hnewer
  | @remove i hphase hcurrent henable =>
    have hi : (s.run i).phase.holdsLock = true := by rw [hphase]; rfl
    have hlatest := h.eq_made hi hcurrent
    refine h.advance hi rfl (fun _ j hj htook => ?_) ?_ nofun
    · exact absurd (h.made j htook) (by omega)
    · rintro op ⟨⟩
      rw [Run.operation, henable]
      rfl
  | @download i hphase hcurrent henable =>
    have hi : (s.run i).phase.holdsLock = true := by rw [hphase]; rfl
    have hlatest := h.eq_made hi hcurrent
    refine h.advance hi rfl (fun _ j hj htook => ?_) nofun fun _ => henable
    exact absurd (h.made j htook) (by omega)
  | @downloadFailed i hphase =>
    refine h.finish ?_ (fun j => Iff.rfl) (fun _ => nofun) (fun _ _ => nofun) fun _ _ _ => rfl
    rw [hphase]
    rfl
  | @install i hphase =>
    refine h.advance (by rw [hphase]; rfl) rfl (fun _ j hj htook => ?_) ?_ nofun
    · have hacts := h.passed i j hj htook
      rw [hphase] at hacts
      cases hacts
    · rintro op ⟨⟩
      rw [Run.operation, h.downloads i hphase]
      rfl
  | @complete i op hphase ok =>
    have hi : (s.run i).phase.holdsLock = true := by rw [hphase]; rfl
    have hbound := h.bound i ((h.holder i).2 hi)
    refine h.finish hi (fun j => by simp) (fun _ => by cases ok <;> nofun) ?_ ?_
    · intro _ _ hdone
      cases ok with
      | true => rw [lastCompleted, h.asked i op hphase]
      | false => cases hdone
    · intro _ htook hne
      -- An older run would complete after the lock was taken by the latest one.
      have hacts := h.passed i s.made (lt_of_le_of_ne hbound hne) htook
      rw [hphase] at hacts
      cases hacts
  | retry hphase => exact h.retry hphase

theorem Step.made_le (hstep : Step w s s') : s.made ≤ s'.made := by
  cases hstep with
  | toggle enable => exact Nat.le_succ s.made
  | _ => exact le_rfl

def Reaches (w : ℕ) (restores : Bool) (s : Toggles) : Prop :=
  Relation.ReflTransGen (Step w) (new restores) s

theorem ordered_of_reaches {restores : Bool} (h : Reaches w restores s) (hw : s.made < 2 ^ w) :
    s.Ordered := by
  induction h with
  | refl => exact ordered_new restores
  | tail _ hstep ih => exact hstep.ordered (ih (hstep.made_le.trans_lt hw)) hw

/-- Two runs never operate at once. The run of the latest toggle is not skipped, once it took
the lock no older one operates, and when it succeeds its operation was completed last. A restore
neither downloads nor operates once a toggle's run took the lock. -/
theorem last_toggle_wins {restores : Bool} (hw : 32 ≤ w) (h : Reaches w restores s)
    (hmade : s.made < 2 ^ 32) :
    (∀ i j op op', (s.run i).phase = .operating op → (s.run j).phase = .operating op' → i = j) ∧
    (0 < s.made → (s.run s.made).phase ≠ .ended .superseded) ∧
    (∀ i op, i < s.made → .took s.made ∈ s.log → (s.run i).phase ≠ .operating op) ∧
    (0 < s.made → (s.run s.made).phase = .ended .done →
      lastCompleted s.log = some (s.made, (s.run s.made).operation, true)) ∧
    (∀ j, 0 < j → .took j ∈ s.log → (s.run 0).phase.acts = false) := by
  have hordered := ordered_of_reaches h (hmade.trans_le (Nat.pow_le_pow_right (by decide) hw))
  refine ⟨fun i j op op' hi hj => ?_, hordered.latest, fun i op hi htook hphase => ?_,
    hordered.won, fun j hj htook => hordered.passed 0 j hj htook⟩
  · have hlock := (hordered.holder i).2 (by rw [hi]; rfl)
    have hlock' := (hordered.holder j).2 (by rw [hj]; rfl)
    exact Option.some.inj (hlock.symm.trans hlock')
  · have hacts := hordered.passed i s.made hi htook
    rw [hphase] at hacts
    cases hacts

/-- The list is removed while a restore downloads. -/
theorem last_toggle_wins_remove : ∃ s, Reaches 32 true s ∧ s.made = 1 ∧
    lastCompleted s.log = some (1, .remove, true) := by
  let s₁ := ((((new true).acquire 0).setPhase 0 .downloading).toggle 32 false).finish 0 .superseded
  let s := ((s₁.acquire 1).setPhase 1 (.operating .remove)).complete 1 .remove true
  have h : Reaches 32 true s :=
    .tail (.tail (.tail (.tail (.tail (.tail (.tail .refl
      (.acquire (i := 0) (by decide) (by decide) (by decide)))
      (.download (i := 0) (by decide) (by decide) (by decide))) (.toggle _ false))
      (.superseded (i := 0) (by decide) (by decide)))
      (.acquire (i := 1) (by decide) (by decide) (by decide)))
      (.remove (i := 1) (by decide) (by decide) (by decide))) (.complete (by decide) true)
  exact ⟨s, h, rfl, (last_toggle_wins le_rfl h (by decide)).2.2.2.1 (by decide) (by decide)⟩

end Toggles

end Adblock
