import Mathlib.Logic.Relation

/-!
# Programs that issue commands

A program returns a value, or issues a command and goes on with the answer; what a command
may answer and do is a relation. `Holds I Q p w` says that every run of `p` from `w` keeps
`I` after each of its commands, and that `Q` holds where it returns.
-/

namespace Program

/-- A program over the commands `C`, with answers in `R`. -/
inductive Prog (C : Type) (R : C → Type) (α : Type) where
  | ret (a : α)
  | hang
  | cmd (c : C) (k : R c → Prog C R α)

namespace Prog

variable {C : Type} {R : C → Type} {W α β ε : Type}

protected def bind : Prog C R α → (α → Prog C R β) → Prog C R β
  | ret a, f => f a
  | hang, _ => hang
  | cmd c k, f => cmd c fun r => (k r).bind f

instance : Monad (Prog C R) where
  pure := ret
  bind := Prog.bind

def call (c : C) : Prog C R (R c) := cmd c ret

@[simp] theorem pure_eq (a : α) : (pure a : Prog C R α) = ret a := rfl

@[simp] theorem ret_bind (a : α) (f : α → Prog C R β) : ret a >>= f = f a := rfl

@[simp] theorem hang_bind (f : α → Prog C R β) : (hang : Prog C R α) >>= f = hang := rfl

@[simp] theorem cmd_bind (c : C) (k : R c → Prog C R α) (f : α → Prog C R β) :
    cmd c k >>= f = cmd c fun r => k r >>= f := rfl

@[simp] theorem call_bind (c : C) (f : R c → Prog C R β) :
    (call c : Prog C R (R c)) >>= f = cmd c f := rfl

theorem bind_ret (p : Prog C R α) : p >>= ret = p := by
  induction p with
  | ret a | hang => rfl
  | cmd c k ih => exact congrArg (cmd c) (funext ih)

/-! ## What every run keeps -/

section Runs

variable (out : (c : C) → W → R c → W → Prop)

/-- Every run keeps `I` after each command and returns with `Q`. -/
def Holds (I : W → Prop) (Q : α → W → Prop) : Prog C R α → W → Prop
  | ret a, w => Q a w
  | hang, _ => True
  | cmd c k, w => ∀ r w', out c w r w' → I w' ∧ Holds I Q (k r) w'

inductive Step : Prog C R α × W → Prog C R α × W → Prop where
  | cmd {c : C} {k : R c → Prog C R α} {w w' : W} {r : R c} (h : out c w r w') :
      Step (.cmd c k, w) (k r, w')

abbrev Steps : Prog C R α × W → Prog C R α × W → Prop := Relation.ReflTransGen (Step out)

variable {out} {I J : W → Prop} {Q Q' : α → W → Prop} {p : Prog C R α} {w : W} {f : α → Prog C R β}

@[simp] theorem holds_ret {a : α} : Holds out I Q (ret a) w ↔ Q a w := Iff.rfl

@[simp] theorem holds_hang : Holds out I Q hang w ↔ True := Iff.rfl

theorem holds_call_bind {c : C} {f : R c → Prog C R β} {Q : β → W → Prop} :
    Holds out I Q ((call c : Prog C R (R c)) >>= f) w ↔
      ∀ r w', out c w r w' → I w' ∧ Holds out I Q (f r) w' := Iff.rfl

theorem holds_bind {Q : β → W → Prop} :
    Holds out I Q (p >>= f) w ↔ Holds out I (fun a w => Holds out I Q (f a) w) p w := by
  induction p generalizing w with
  | ret a | hang => rfl
  | cmd c k ih => exact forall₃_congr fun r w' _ => and_congr_right fun _ => ih r

theorem Holds.mono (h : Holds out I Q p w) (hI : ∀ w, I w → J w)
    (hQ : ∀ a w, Q a w → Q' a w) : Holds out J Q' p w := by
  induction p generalizing w with
  | ret a => exact hQ a w h
  | hang => trivial
  | cmd c k ih =>
    intro r w' hout
    obtain ⟨hw', hk⟩ := h r w' hout
    exact ⟨hI w' hw', ih r hk⟩

theorem Holds.imp (h : Holds out I Q p w) (hQ : ∀ a w, Q a w → Q' a w) : Holds out I Q' p w :=
  h.mono (fun _ h => h) hQ

variable (out) in
/-- Every run that returns does so with `Q`. -/
abbrev Ends (Q : α → W → Prop) (p : Prog C R α) (w : W) : Prop := Holds out (fun _ => True) Q p w

theorem ends_call_bind {c : C} {f : R c → Prog C R β} {Q : β → W → Prop} :
    Ends out Q ((call c : Prog C R (R c)) >>= f) w ↔
      ∀ r w', out c w r w' → Ends out Q (f r) w' := by
  simp only [holds_call_bind, true_and]

theorem Holds.atEnd (h : Holds out I Q p w) : Ends out Q p w :=
  h.mono (fun _ _ => trivial) fun _ _ hQ => hQ

theorem Holds.kept (h : Holds out I Q p w) (hw : I w) :
    Holds out I (fun a w => I w ∧ Q a w) p w := by
  induction p generalizing w with
  | ret a => exact ⟨hw, h⟩
  | hang => trivial
  | cmd c k ih =>
    intro r w' hout
    obtain ⟨hw', hk⟩ := h r w' hout
    exact ⟨hw', ih r hk hw'⟩

theorem Holds.of_out {out' : (c : C) → W → R c → W → Prop} (h : Holds out I Q p w)
    (hout : ∀ c w r w', out' c w r w' → out c w r w') : Holds out' I Q p w := by
  induction p generalizing w with
  | ret a => exact h
  | hang => trivial
  | cmd c k ih =>
    intro r w' hr
    obtain ⟨hw', hk⟩ := h r w' (hout c w r w' hr)
    exact ⟨hw', ih r hk⟩

theorem Holds.and (h : Holds out I Q p w) (h' : Holds out J Q' p w) :
    Holds out (fun w => I w ∧ J w) (fun a w => Q a w ∧ Q' a w) p w := by
  induction p generalizing w with
  | ret a => exact ⟨h, h'⟩
  | hang => trivial
  | cmd c k ih =>
    intro r w' hout
    exact ⟨⟨(h r w' hout).1, (h' r w' hout).1⟩, ih r (h r w' hout).2 (h' r w' hout).2⟩

theorem Holds.steps {s s' : Prog C R α × W} (h : Holds out I Q s.1 s.2) (hw : I s.2)
    (hsteps : Steps out s s') : I s'.2 ∧ Holds out I Q s'.1 s'.2 := by
  induction hsteps with
  | refl => exact ⟨hw, h⟩
  | tail _ hstep ih =>
    cases hstep with
    | cmd hout => exact ih.2 _ _ hout

theorem ends_true : Ends out (fun _ _ => True) p w := by
  induction p generalizing w with
  | ret a | hang => trivial
  | cmd c k ih => exact fun r w' _ => ⟨trivial, ih r⟩

theorem holds_forM {f : β → Prog C R PUnit} {Q : PUnit → W → Prop} (J : List β → W → Prop)
    (hstep : ∀ b l w, J (b :: l) w → Holds out I (fun _ w => J l w) (f b) w)
    (hend : ∀ w, J [] w → Q ⟨⟩ w) (l : List β) (hw : J l w) : Holds out I Q (forM l f) w := by
  induction l generalizing w with
  | nil => exact hend w hw
  | cons b l ih =>
    rw [List.forM_cons, holds_bind]
    exact (hstep b l w hw).imp fun _ w hr => ih hr

theorem holds_foldlM {γ : Type} {f : γ → β → Prog C R γ} {Q : γ → W → Prop}
    (J : List β → γ → W → Prop)
    (hstep : ∀ b l c w, J (b :: l) c w → Holds out I (fun c w => J l c w) (f c b) w)
    (hend : ∀ c w, J [] c w → Q c w) (l : List β) {c : γ} (hw : J l c w) :
    Holds out I Q (l.foldlM f c) w := by
  induction l generalizing c w with
  | nil => exact hend c w hw
  | cons b l ih =>
    rw [List.foldlM_cons, holds_bind]
    exact (hstep b l c w hw).imp fun _ w hr => ih hr

/-! ## What every run keeps of the world it starts in -/

variable {rel : W → W → Prop}

/-- Every command leaves a world related to the first one, and so does the
return, with `Q`. -/
def HoldsFrom (out : (c : C) → W → R c → W → Prop) (rel : W → W → Prop) (Q : α → W → Prop)
    (p : Prog C R α) (w : W) : Prop :=
  Holds out (rel w) (fun a w' => rel w w' ∧ Q a w') p w

theorem HoldsFrom.imp (h : HoldsFrom out rel Q p w)
    (hQ : ∀ a w', rel w w' → Q a w' → Q' a w') : HoldsFrom out rel Q' p w :=
  Holds.imp h fun a w' hr => ⟨hr.1, hQ a w' hr.1 hr.2⟩

theorem HoldsFrom.with (h : HoldsFrom out rel Q p w) (h' : Ends out Q' p w) :
    HoldsFrom out rel (fun a w' => Q a w' ∧ Q' a w') p w :=
  (Holds.and h h').mono (fun _ hI => hI.1) fun _ _ hr => ⟨hr.1.1, hr.1.2, hr.2⟩

theorem holdsFrom_ret [Std.Refl rel] {a : α} (h : Q a w) : HoldsFrom out rel Q (ret a) w :=
  ⟨refl_of rel w, h⟩

/-! ## Programs of commands of one kind -/

/-- Whatever the answers, each command the program issues is in `A`. -/
def Uses (A : C → Prop) : Prog C R α → Prop
  | ret _ => True
  | hang => True
  | cmd c k => A c ∧ ∀ r, Uses A (k r)

variable {A B : C → Prop} {l : List β}

theorem uses_call {c : C} (h : A c) : Uses A (call c : Prog C R (R c)) := ⟨h, fun _ => trivial⟩

theorem uses_bind (hp : Uses A p) (hf : ∀ a, Uses A (f a)) : Uses A (p >>= f) := by
  induction p with
  | ret a => exact hf a
  | hang => trivial
  | cmd c k ih => exact ⟨hp.1, fun r => ih r (hp.2 r)⟩

theorem Uses.mono (h : Uses A p) (hAB : ∀ c, A c → B c) : Uses B p := by
  induction p with
  | ret a | hang => trivial
  | cmd c k ih => exact ⟨hAB c h.1, fun r => ih r (h.2 r)⟩

theorem uses_forM {f : β → Prog C R PUnit} (h : ∀ b ∈ l, Uses A (f b)) : Uses A (forM l f) := by
  induction l with
  | nil => trivial
  | cons b l ih =>
    rw [List.forM_cons]
    exact uses_bind (h b (by simp)) fun _ => ih fun b hb => h b (by simp [hb])

theorem uses_allM {f : β → Prog C R Bool} (h : ∀ b ∈ l, Uses A (f b)) : Uses A (l.allM f) := by
  induction l with
  | nil => trivial
  | cons b l ih =>
    rw [List.allM]
    refine uses_bind (h b (by simp)) fun r => ?_
    cases r with
    | false => trivial
    | true => exact ih fun b hb => h b (by simp [hb])

theorem uses_discard (h : Uses A p) : Uses A (discard p) :=
  uses_bind h fun _ => trivial

theorem Uses.holds (h : Uses A p) (hA : ∀ c w r w', A c → I w → out c w r w' → I w')
    (hw : I w) : Holds out I (fun _ w => I w) p w := by
  induction p generalizing w with
  | ret a => exact hw
  | hang => trivial
  | cmd c k ih =>
    intro r w' hout
    have hw' := hA c w r w' h.1 hw hout
    exact ⟨hw', ih r (h.2 r) hw'⟩

theorem Uses.holdsFrom [Std.Refl rel] [IsTrans W rel] (h : Uses A p)
    (hA : ∀ c w r w', A c → out c w r w' → rel w w') : HoldsFrom out rel (fun _ _ => True) p w := by
  have hkeep : ∀ c v r v', A c → rel w v → out c v r v' → rel w v' :=
    fun c v r v' hc hv hout => trans_of rel hv (hA c v r v' hc hout)
  exact (h.holds hkeep (refl_of rel w)).imp fun _ _ hv => ⟨hv, trivial⟩

end Runs

/-! ## A program over part of the commands -/

section Embed

variable {C' : Type} {R' : C' → Type} {f : C → C'}

def embed (f : C → C') : Prog C (fun c => R' (f c)) α → Prog C' R' α
  | ret a => ret a
  | hang => hang
  | cmd c k => cmd (f c) fun r => (k r).embed f

theorem uses_embed {A : C' → Prop} (h : ∀ c, A (f c))
    (p : Prog C (fun c => R' (f c)) α) : Uses A (p.embed f) := by
  induction p with
  | ret a | hang => trivial
  | cmd c k ih => exact ⟨h c, ih⟩

theorem holds_embed {out : (c : C') → W → R' c → W → Prop} {I : W → Prop}
    {Q : α → W → Prop} {p : Prog C (fun c => R' (f c)) α} {w : W} :
    Holds out I Q (p.embed f) w ↔ Holds (fun c => out (f c)) I Q p w := by
  induction p generalizing w with
  | ret a | hang => rfl
  | cmd c k ih => exact forall₃_congr fun r w' _ => and_congr_right fun _ => ih r

end Embed

/-! ## Programs that can fail -/

section Except

variable {out : (c : C) → W → R c → W → Prop} {I : W → Prop} {w : W} {rel : W → W → Prop}
  {A : C → Prop} {p : Prog C R α} {x : ExceptT ε (Prog C R) α}
  {f : α → ExceptT ε (Prog C R) β} {P : α → W → Prop} {Q : Except ε α → W → Prop}

def orError (Q : Except ε β → W → Prop) (P : α → W → Prop) : Except ε α → W → Prop
  | .ok a, w => P a w
  | .error e, w => Q (.error e) w

theorem run_bind (x : ExceptT ε (Prog C R) α) (f : α → ExceptT ε (Prog C R) β) :
    (x >>= f).run = x.run >>= ExceptT.bindCont f := rfl

@[simp] theorem run_pure (a : α) : (pure a : ExceptT ε (Prog C R) α).run = ret (.ok a) := rfl

@[simp] theorem run_throw (e : ε) : (throw e : ExceptT ε (Prog C R) α).run = ret (.error e) := rfl

theorem run_lift (p : Prog C R α) :
    (monadLift p : ExceptT ε (Prog C R) α).run = p >>= fun a => ret (.ok a) := rfl

theorem holds_run_lift :
    Holds out I Q (monadLift p : ExceptT ε (Prog C R) α).run w ↔
      Holds out I (fun a w => Q (.ok a) w) p w := by
  rw [run_lift, holds_bind]
  rfl

theorem uses_run_lift (h : Uses A p) : Uses A (monadLift p : ExceptT ε (Prog C R) α).run := by
  rw [run_lift]
  exact uses_bind h fun _ => trivial

theorem holds_run_bind {Q : Except ε β → W → Prop} :
    Holds out I Q (x >>= f).run w ↔
      Holds out I (orError Q fun a w => Holds out I Q (f a).run w) x.run w := by
  rw [run_bind, holds_bind]
  constructor <;> intro h <;> refine h.imp fun r w hr => ?_ <;> cases r <;> exact hr

theorem uses_run_bind (hx : Uses A x.run) (hf : ∀ a, Uses A (f a).run) : Uses A (x >>= f).run := by
  rw [run_bind]
  refine uses_bind hx fun r => ?_
  cases r with
  | ok a => exact hf a
  | error e => trivial

theorem uses_run_call_bind {c : C} {f : R c → ExceptT ε (Prog C R) β} (h : A c)
    (hf : ∀ r, Uses A (f r).run) : Uses A
      ((monadLift (call c : Prog C R (R c)) : ExceptT ε (Prog C R) (R c)) >>= f).run :=
  uses_run_bind (uses_run_lift (uses_call h)) hf

theorem holds_run_call_bind {c : C} {f : R c → ExceptT ε (Prog C R) β}
    {Q : Except ε β → W → Prop} :
    Holds out I Q ((monadLift (call c : Prog C R (R c)) : ExceptT ε (Prog C R) (R c)) >>= f).run w ↔
      ∀ r w', out c w r w' → I w' ∧ Holds out I Q (f r).run w' := by
  rw [holds_run_bind, holds_run_lift]
  rfl

theorem ends_run_call_bind {c : C} {f : R c → ExceptT ε (Prog C R) β}
    {Q : Except ε β → W → Prop} :
    Ends out Q ((monadLift (call c : Prog C R (R c)) : ExceptT ε (Prog C R) (R c)) >>= f).run w ↔
      ∀ r w', out c w r w' → Ends out Q (f r).run w' := by
  simp only [holds_run_call_bind, true_and]

/-- What a value must satisfy; of an error nothing is said. -/
def OnOk (P : α → W → Prop) : Except ε α → W → Prop
  | .ok a, w => P a w
  | .error _, _ => True

@[simp] theorem onOk_ok {a : α} : OnOk P (.ok a : Except ε α) w ↔ P a w := Iff.rfl

@[simp] theorem onOk_error {e : ε} : OnOk P (.error e : Except ε α) w ↔ True := Iff.rfl

theorem Holds.onOk {p : Prog C R (Except ε α)} (h : Holds out I Q p w)
    (hP : ∀ a w, Q (.ok a) w → P a w) : Holds out I (OnOk P) p w := by
  refine h.imp fun r w' hr => ?_
  cases r with
  | ok a => exact hP a w' hr
  | error e => trivial

theorem Holds.run_bind {Q : β → W → Prop} (hx : Holds out I (OnOk P) x.run w)
    (hf : ∀ a w', P a w' → Holds out I (OnOk Q) (f a).run w') :
    Holds out I (OnOk Q) (x >>= f).run w := by
  refine holds_run_bind.2 (hx.imp fun r w' hr => ?_)
  cases r with
  | ok a => exact hf a w' hr
  | error e => trivial

theorem HoldsFrom.run_lift (h : HoldsFrom out rel P p w) :
    HoldsFrom out rel (OnOk P) (monadLift p : ExceptT ε (Prog C R) α).run w :=
  holds_run_lift.2 h

theorem HoldsFrom.holds {p : Prog C R (Except ε α)} (h : HoldsFrom out rel (OnOk P) p w)
    (hI : ∀ w', rel w w' → I w') : Holds out I (OnOk fun a w' => rel w w' ∧ P a w') p w :=
  (Holds.mono h hI fun _ _ hr => hr).onOk fun _ _ hr => hr

theorem HoldsFrom.onOk {p : Prog C R (Except ε α)} (h : HoldsFrom out rel Q p w)
    (hP : ∀ a w', rel w w' → Q (.ok a) w' → P a w') : HoldsFrom out rel (OnOk P) p w := by
  refine h.imp fun r w' hrel hr => ?_
  cases r with
  | ok a => exact hP a w' hrel hr
  | error e => trivial

theorem HoldsFrom.run_bind [IsTrans W rel] {Q : β → W → Prop}
    (hx : HoldsFrom out rel (OnOk P) x.run w)
    (hf : ∀ a w', rel w w' → P a w' → HoldsFrom out rel (OnOk Q) (f a).run w') :
    HoldsFrom out rel (OnOk Q) (x >>= f).run w := by
  refine holds_run_bind.2 (Holds.imp hx fun r w' hr => ?_)
  cases r with
  | ok a =>
    refine Holds.mono (hf a w' hr.1 hr.2) (fun v hv => trans_of rel hr.1 hv) ?_
    exact fun b v hv => ⟨trans_of rel hr.1 hv.1, hv.2⟩
  | error e => exact hr

theorem holds_run_forM {f : α → ExceptT ε (Prog C R) Unit} {Q : Except ε Unit → W → Prop}
    (J : List α → W → Prop)
    (hstep : ∀ a l w, J (a :: l) w → Holds out I (orError Q fun _ w => J l w) (f a).run w)
    (hend : ∀ w, J [] w → Q (.ok ()) w) (l : List α) (hw : J l w) :
    Holds out I Q (forM l f).run w := by
  induction l generalizing w with
  | nil => exact hend w hw
  | cons a l ih =>
    rw [List.forM_cons, holds_run_bind]
    refine (hstep a l w hw).imp fun r w hr => ?_
    cases r with
    | ok u => exact ih hr
    | error e => exact hr

/-- A loop whose body brings about `D` of its element, and keeps `D` of the others, brings it
about for all of them. -/
theorem holds_run_forM_each {f : α → ExceptT ε (Prog C R) Unit} {J : W → Prop} (D : α → W → Prop)
    (l : List α) (hstep : ∀ a ∈ l, ∀ w, J w → Holds out I
      (OnOk fun _ w' => J w' ∧ D a w' ∧ ∀ b ∈ l, D b w → D b w') (f a).run w) (hw : J w) :
    Holds out I (OnOk fun _ w' => J w' ∧ ∀ a ∈ l, D a w') (forM l f).run w := by
  -- What is no longer to do is done.
  refine holds_run_forM (fun rest w => J w ∧ rest ⊆ l ∧ ∀ a ∈ l, a ∈ rest ∨ D a w) ?_ ?_ l
    ⟨hw, List.Subset.refl l, fun _ ha => .inl ha⟩
  · rintro a rest w ⟨hJ, hsub, hdone⟩
    refine (hstep a (hsub (by simp)) w hJ).imp fun r w' hr => ?_
    cases r with
    | error e => trivial
    | ok u =>
      obtain ⟨hJ', ha, hkeep⟩ := hr
      refine ⟨hJ', (List.cons_subset.1 hsub).2, fun b hb => ?_⟩
      rcases hdone b hb with hmem | hD
      · rcases List.mem_cons.1 hmem with rfl | hmem
        · exact .inr ha
        · exact .inl hmem
      · exact .inr (hkeep b hb hD)
  · exact fun w ⟨hJ, _, hdone⟩ => ⟨hJ, fun a ha => (hdone a ha).resolve_left (by simp)⟩

theorem uses_run_forM {f : α → ExceptT ε (Prog C R) Unit} {l : List α}
    (h : ∀ a ∈ l, Uses A (f a).run) : Uses A (forM l f).run := by
  induction l with
  | nil => trivial
  | cons a l ih =>
    rw [List.forM_cons]
    exact uses_run_bind (h a (by simp)) fun _ => ih fun b hb => h b (by simp [hb])

end Except

/-! ## One run -/

section Run

variable {out : (c : C) → W → R c → W → Prop} {w u v : W} {p : Prog C R α} {a : α} {b : β}

variable (out) in
/-- Some run of the program returns the value in the world `w'`. -/
def Returns (p : Prog C R α) (w : W) (a : α) (w' : W) : Prop := Steps out (p, w) (ret a, w')

theorem returns_ret : Returns out (ret a) w a w := .refl

theorem returns_call {c : C} {r : R c} (h : out c w r u) :
    Returns out (call c : Prog C R (R c)) w r u :=
  .single (.cmd h)

theorem Returns.bind {f : α → Prog C R β} (h : Returns out p w a u)
    (hf : Returns out (f a) u b v) : Returns out (p >>= f) w b v := by
  have hlift : ∀ s s' : Prog C R α × W, Step out s s' →
      Step out (s.1 >>= f, s.2) (s'.1 >>= f, s'.2) := by
    rintro _ _ ⟨h⟩
    exact .cmd h
  have hfirst : Steps out (p >>= f, w) (ret a >>= f, u) :=
    Relation.ReflTransGen.lift (fun s : Prog C R α × W => (s.1 >>= f, s.2)) hlift _ _ h
  exact hfirst.trans hf

theorem Returns.discard (h : Returns out p w a u) : Returns out (discard p) w ⟨⟩ u :=
  h.bind returns_ret

theorem Returns.run_lift (h : Returns out p w a u) :
    Returns out (monadLift p : ExceptT ε (Prog C R) α).run w (.ok a) u :=
  h.bind returns_ret

theorem Returns.run_bind {x : ExceptT ε (Prog C R) α} {f : α → ExceptT ε (Prog C R) β}
    {r : Except ε β} (h : Returns out x.run w (.ok a) u)
    (hf : Returns out (f a).run u r v) : Returns out (x >>= f).run w r v :=
  Returns.bind h hf

theorem returns_run_call_bind {c : C} (r : R c) (h : out c w r u)
    {f : R c → ExceptT ε (Prog C R) β} {b : Except ε β} (hf : Returns out (f r).run u b v) :
    Returns out ((monadLift (call c : Prog C R (R c)) : ExceptT ε (Prog C R) (R c)) >>= f).run
      w b v :=
  .head (.cmd h) hf

/-- The run in which the commands are answered by a function. -/
def run (answer : (c : C) → W → R c × W) : Prog C R α → W → Option (α × W)
  | ret a, w => some (a, w)
  | hang, _ => none
  | cmd c k, w => (k (answer c w).1).run answer (answer c w).2

theorem returns_of_run {answer : (c : C) → W → R c × W}
    (hout : ∀ c w, out c w (answer c w).1 (answer c w).2) {w' : W}
    (h : p.run answer w = some (a, w')) : Returns out p w a w' := by
  induction p generalizing w with
  | ret b =>
    obtain ⟨rfl, rfl⟩ : b = a ∧ w = w' := by simpa [run] using h
    exact returns_ret
  | hang => cases h
  | cmd c k ih => exact .head (.cmd (hout c w)) (ih _ h)

/-- The run in which the commands are answered by a function that need not answer all. -/
def follow (answer : (c : C) → W → Option (R c × W)) : Prog C R α → W → Option (α × W)
  | ret a, w => some (a, w)
  | hang, _ => none
  | cmd c k, w => (answer c w).bind fun r => (k r.1).follow answer r.2

theorem returns_of_follow {answer : (c : C) → W → Option (R c × W)}
    (hout : ∀ c w r w', answer c w = some (r, w') → out c w r w') {w' : W}
    (h : p.follow answer w = some (a, w')) : Returns out p w a w' := by
  induction p generalizing w with
  | ret b =>
    obtain ⟨rfl, rfl⟩ : b = a ∧ w = w' := by simpa [follow] using h
    exact returns_ret
  | hang => cases h
  | cmd c k ih =>
    obtain ⟨⟨r, v⟩, hr, hk⟩ := Option.bind_eq_some_iff.1 h
    exact .head (.cmd (hout c w r v hr)) (ih r hk)

theorem Holds.of_returns {I : W → Prop} {Q : α → W → Prop} (h : Holds out I Q p w)
    (hr : Returns out p w a u) : Q a u :=
  ((h.mono (fun _ _ => trivial) fun _ _ hQ => hQ).steps (I := fun _ => True) trivial hr).2

end Run

end Prog

end Program
