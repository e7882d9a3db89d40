/-
# TfnAks.Lib.Runs — runs of a deterministic machine

A machine is a step function `step : σ → α → σ` over a state type `σ` and an action type `α`; a run
is the fold of `step` over a list of actions. Two ways of speaking about a whole run are used
throughout: `Always` (a predicate holds in every state the run passes through) and `Before` (a
condition holds of every state and the action taken in it). `always_iff_before` trades one for the
other from a fact about one step.

`Answered` speaks about the past of a run: whatever of one kind has happened in it, something of a
second kind has happened since.

The last two sections are about machines whose steps have a guard, `step : σ → α → Option σ`: their
invariants, what is noted of their steps, and when two of their runs look the same from outside
(`trace_eq_of_lockstep`).
-/
import Mathlib.Data.List.Infix
import Mathlib.Data.Nat.Notation

namespace TfnAks.Lib.Runs

variable {σ α : Type*} (step : σ → α → σ)

/-- The state after the actions `as`, taken in order from `s`. -/
def exec (s : σ) (as : List α) : σ := as.foldl step s

@[simp] theorem exec_nil (s : σ) : exec step s [] = s := rfl

@[simp] theorem exec_cons (s : σ) (a : α) (as : List α) :
    exec step s (a :: as) = exec step (step s a) as := rfl

@[simp] theorem exec_append (s : σ) (as bs : List α) :
    exec step s (as ++ bs) = exec step (exec step s as) bs :=
  List.foldl_append

/-- `P` holds in every state the run passes through, the first and the last included. -/
def Always (s : σ) (as : List α) (P : σ → Prop) : Prop :=
  ∀ pre, pre <+: as → P (exec step s pre)

/-- `C` holds of every state of the run together with the action that is taken in it. -/
def Before (s : σ) (as : List α) (C : σ → α → Prop) : Prop :=
  ∀ pre a post, as = pre ++ a :: post → C (exec step s pre) a

variable {step}

theorem always_nil {s : σ} {P : σ → Prop} : Always step s [] P ↔ P s := by
  constructor
  · intro h
    exact h [] (List.prefix_refl [])
  · intro h pre hpre
    rw [List.prefix_nil.mp hpre]
    exact h

theorem always_cons {s : σ} {a : α} {as : List α} {P : σ → Prop} :
    Always step s (a :: as) P ↔ P s ∧ Always step (step s a) as P := by
  constructor
  · intro h
    refine ⟨h [] List.nil_prefix, ?_⟩
    intro pre hpre
    exact h (a :: pre) (List.cons_prefix_cons.mpr ⟨rfl, hpre⟩)
  · rintro ⟨hs, h⟩ pre hpre
    rcases List.prefix_cons_iff.mp hpre with rfl | ⟨pre', rfl, hpre'⟩
    · exact hs
    · exact h pre' hpre'

/-- One more action at the end. -/
theorem Always.concat {s : σ} {as : List α} {a : α} {P : σ → Prop} (h : Always step s as P)
    (ha : P (exec step s (as ++ [a]))) : Always step s (as ++ [a]) P := by
  intro pre hpre
  rcases List.prefix_concat_iff.mp hpre with rfl | hpre
  · exact ha
  · exact h pre hpre

theorem before_nil {s : σ} {C : σ → α → Prop} : Before step s [] C := by
  intro pre a post h
  simp at h

theorem before_cons {s : σ} {a : α} {as : List α} {C : σ → α → Prop} :
    Before step s (a :: as) C ↔ C s a ∧ Before step (step s a) as C := by
  constructor
  · intro h
    refine ⟨h [] a as rfl, ?_⟩
    intro pre b post heq
    exact h (a :: pre) b post (by rw [heq]; rfl)
  · rintro ⟨hs, h⟩ pre b post heq
    cases pre with
    | nil =>
        obtain ⟨rfl, rfl⟩ := List.cons.inj heq
        exact hs
    | cons c pre =>
        obtain ⟨rfl, rfl⟩ := List.cons.inj heq
        exact h pre b post rfl

instance decidableBefore (C : σ → α → Prop) [∀ s a, Decidable (C s a)] (s : σ) (as : List α) :
    Decidable (Before step s as C) :=
  match as with
  | [] => isTrue before_nil
  | a :: as =>
    have := decidableBefore C (step s a) as
    decidable_of_iff (C s a ∧ Before step (step s a) as C) before_cons.symm

/-- A condition on the steps of a run is one on those of its parts. -/
theorem before_append {s : σ} {as bs : List α} {C : σ → α → Prop} :
    Before step s (as ++ bs) C ↔ Before step s as C ∧ Before step (exec step s as) bs C := by
  induction as generalizing s with
  | nil => exact ⟨fun h => ⟨before_nil, h⟩, fun h => h.2⟩
  | cons a as ih => rw [List.cons_append, before_cons, before_cons, ih, exec_cons, and_assoc]

/-- **The invariant rule.** What every step preserves holds at the end of every run. -/
theorem exec_invariant {I : σ → Prop} (hstep : ∀ s a, I s → I (step s a)) {s : σ} (hs : I s)
    (as : List α) : I (exec step s as) := by
  induction as generalizing s with
  | nil => exact hs
  | cons a as ih => exact ih (hstep s a hs)

/-- The invariant rule for a run all of whose actions satisfy `A`. -/
theorem exec_invariant_of_forall {I : σ → Prop} {A : α → Prop}
    (hstep : ∀ s a, A a → I s → I (step s a)) {s : σ} (hs : I s) {as : List α}
    (has : ∀ a ∈ as, A a) : I (exec step s as) := by
  induction as generalizing s with
  | nil => exact hs
  | cons a as ih =>
      rw [List.forall_mem_cons] at has
      exact ih (hstep s a has.1 hs) has.2

/-- The invariant rule for every state of such a run. -/
theorem always_of_forall {I : σ → Prop} {A : α → Prop}
    (hstep : ∀ s a, A a → I s → I (step s a)) {s : σ} (hs : I s) {as : List α}
    (has : ∀ a ∈ as, A a) : Always step s as I := by
  intro pre hpre
  exact exec_invariant_of_forall hstep hs fun a ha => has a (hpre.subset ha)

/-- The invariant rule for a run whose actions are counted off: `I k` holds before action `k`. -/
theorem exec_range_invariant {step : σ → ℕ → σ} {I : ℕ → σ → Prop}
    (hstep : ∀ k s, I k s → I (k + 1) (step s k)) {s : σ} (hs : I 0 s) (n : ℕ) :
    I n (exec step s (List.range n)) := by
  induction n with
  | zero => exact hs
  | succ n ih =>
      rw [List.range_succ, exec_append]
      exact hstep n _ ih

/-- **A whole run from one step.** Under an invariant `I`, if in every state that satisfies `P` the
next state satisfies `P` exactly when `C` holds of the step, then `P` holds all along a run exactly
when `C` holds of each of its steps. -/
theorem always_iff_before {I P : σ → Prop} {C : σ → α → Prop}
    (hI : ∀ s a, I s → I (step s a)) (hC : ∀ s a, I s → P s → (P (step s a) ↔ C s a))
    {s : σ} (hs : I s) (hp : P s) (as : List α) :
    Always step s as P ↔ Before step s as C := by
  induction as generalizing s with
  | nil => exact iff_of_true (always_nil.mpr hp) before_nil
  | cons a as ih =>
      rw [always_cons, before_cons]
      constructor
      · rintro ⟨_, h⟩
        have hp' : P (step s a) := h [] List.nil_prefix
        exact ⟨(hC s a hs hp).mp hp', (ih (hI s a hs) hp').mp h⟩
      · rintro ⟨hc, h⟩
        have hp' : P (step s a) := (hC s a hs hp).mpr hc
        exact ⟨hp, (ih (hI s a hs) hp').mpr h⟩

/-- A condition met by every step gives a second one, when it also keeps an invariant that the
second one needs. -/
theorem Before.of_invariant {I : σ → Prop} {C D : σ → α → Prop}
    (hI : ∀ s a, I s → C s a → I (step s a)) (hD : ∀ s a, I s → C s a → D s a)
    {s : σ} (hs : I s) {as : List α} (h : Before step s as C) : Before step s as D := by
  induction as generalizing s with
  | nil => exact before_nil
  | cons a as ih =>
      rw [before_cons] at h ⊢
      exact ⟨hD s a hs h.1, ih (hI s a hs h.1) h.2⟩

/-- What `obs` notes of each step of a run, one step after the other. -/
def gather {ω : Type*} (step : σ → α → σ) (obs : σ → α → List ω) : σ → List α → List ω
  | _, [] => []
  | s, a :: as => obs s a ++ gather step obs (step s a) as

@[simp] theorem gather_nil {ω : Type*} (obs : σ → α → List ω) (s : σ) :
    gather step obs s [] = [] := rfl

@[simp] theorem gather_cons {ω : Type*} (obs : σ → α → List ω) (s : σ) (a : α) (as : List α) :
    gather step obs s (a :: as) = obs s a ++ gather step obs (step s a) as := rfl

theorem gather_append {ω : Type*} (obs : σ → α → List ω) (s : σ) (as bs : List α) :
    gather step obs s (as ++ bs) = gather step obs s as ++ gather step obs (exec step s as) bs := by
  induction as generalizing s with
  | nil => rfl
  | cons a as ih => rw [List.cons_append, gather_cons, gather_cons, ih, exec_cons, List.append_assoc]

/-! ## Questions and answers -/

/-- Every step of the run that `asks` has a later one that `answers`. -/
def Answered (step : σ → α → σ) (asks answers : σ → α → Prop) (s : σ) (as : List α) : Prop :=
  ∀ before a since, as = before ++ a :: since → asks (exec step s before) a →
    ∃ pre b post, since = pre ++ b :: post ∧ answers (exec step s (before ++ a :: pre)) b

section Answered

variable {asks answers : σ → α → Prop}

theorem answered_nil {s : σ} : Answered step asks answers s [] := by
  intro before a since h
  simp at h

/-- One more action: it does not ask, and it answers or there was nothing left to answer. -/
theorem answered_concat {s : σ} {as : List α} {a : α} :
    Answered step asks answers s (as ++ [a]) ↔
      ¬ asks (exec step s as) a ∧
        (Answered step asks answers s as ∨ answers (exec step s as) a) := by
  constructor
  · intro h
    have hasks : ¬ asks (exec step s as) a := by
      intro hasks
      obtain ⟨pre, b, post, hnil, -⟩ := h as a [] rfl hasks
      simp at hnil
    refine ⟨hasks, or_iff_not_imp_right.mpr fun hanswers => ?_⟩
    rintro before b since rfl hb
    obtain ⟨pre, c, post, hsince, hc⟩ := h before b (since ++ [a]) (by simp) hb
    -- the answer is not the last action, so it is in the run before it
    rcases List.eq_nil_or_concat post with rfl | ⟨post, d, rfl⟩
    · obtain ⟨rfl, hca⟩ := List.append_inj' hsince rfl
      obtain rfl := List.singleton_inj.mp hca
      exact absurd hc hanswers
    · rw [List.concat_eq_append, ← List.cons_append, ← List.append_assoc] at hsince
      exact ⟨pre, c, post, (List.append_inj' hsince rfl).1, hc⟩
  · rintro ⟨hasks, h⟩ before b since heq hb
    rcases List.eq_nil_or_concat since with rfl | ⟨since, d, rfl⟩
    · obtain ⟨rfl, hab⟩ := List.append_inj' heq rfl
      obtain rfl := List.singleton_inj.mp hab
      exact absurd hb hasks
    · rw [List.concat_eq_append, ← List.cons_append, ← List.append_assoc] at heq
      obtain ⟨rfl, hda⟩ := List.append_inj' heq rfl
      obtain rfl := List.singleton_inj.mp hda
      rcases h with h | h
      · obtain ⟨pre, c, post, rfl, hc⟩ := h before b since rfl hb
        exact ⟨pre, c, post ++ [a], by simp, hc⟩
      · exact ⟨since, a, [], by simp, h⟩

/-- **A state that questions spoil and answers restore** is that of a run whose questions have been
answered. -/
theorem exec_iff_answered {I P : σ → Prop} (hI : ∀ s a, I s → I (step s a))
    (hstep : ∀ s a, I s → (P (step s a) ↔ ¬ asks s a ∧ (P s ∨ answers s a))) {s : σ} (hs : I s)
    (hp : P s) (as : List α) : P (exec step s as) ↔ Answered step asks answers s as := by
  induction as using List.reverseRecOn with
  | nil => exact iff_of_true hp answered_nil
  | append_singleton as a ih =>
      rw [exec_append, exec_cons, exec_nil, answered_concat, ← ih]
      exact hstep _ a (exec_invariant hI hs as)

end Answered

/-! ## Guarded steps -/

/-- The state after the actions `as` of a machine whose steps have guards; `none` when some action
is not possible where it is taken. -/
def execGuarded (step : σ → α → Option σ) (s : σ) (as : List α) : Option σ :=
  as.foldlM step s

theorem execGuarded_cons {step : σ → α → Option σ} (s : σ) (a : α) (as : List α) :
    execGuarded step s (a :: as) = (step s a).bind fun s' => execGuarded step s' as := rfl

/-- What `obs` notes of the steps of such a run, up to the first that is not possible. -/
def gatherGuarded {ω : Type*} (step : σ → α → Option σ) (obs : σ → α → List ω) :
    σ → List α → List ω
  | _, [] => []
  | s, a :: as => (step s a).elim [] fun s' => obs s a ++ gatherGuarded step obs s' as

theorem gatherGuarded_cons_of_some {ω : Type*} {step : σ → α → Option σ} {obs : σ → α → List ω}
    {s s' : σ} {a : α} (h : step s a = some s') (as : List α) :
    gatherGuarded step obs s (a :: as) = obs s a ++ gatherGuarded step obs s' as := by
  rw [gatherGuarded, h, Option.elim_some]

/-- One more action at the end. -/
theorem execGuarded_concat {step : σ → α → Option σ} {s s' : σ} {as : List α} {a : α}
    (h : execGuarded step s (as ++ [a]) = some s') :
    ∃ m, execGuarded step s as = some m ∧ step m a = some s' := by
  unfold execGuarded at h ⊢
  rw [List.foldlM_append] at h
  obtain ⟨m, hm, hlast⟩ := Option.bind_eq_some_iff.mp h
  refine ⟨m, hm, ?_⟩
  rw [List.foldlM_cons] at hlast
  obtain ⟨m', hm', hnil⟩ := Option.bind_eq_some_iff.mp hlast
  rw [hm', ← Option.some.inj hnil]

theorem gatherGuarded_concat {ω : Type*} {step : σ → α → Option σ} {obs : σ → α → List ω}
    {s m s' : σ} {as : List α} {a : α} (has : execGuarded step s as = some m)
    (ha : step m a = some s') :
    gatherGuarded step obs s (as ++ [a]) = gatherGuarded step obs s as ++ obs m a := by
  induction as generalizing s with
  | nil =>
      obtain rfl := Option.some.inj has
      rw [List.nil_append, gatherGuarded_cons_of_some ha]
      exact List.append_nil _
  | cons b as ih =>
      rw [execGuarded_cons] at has
      obtain ⟨t, ht, hrest⟩ := Option.bind_eq_some_iff.mp has
      rw [List.cons_append, gatherGuarded_cons_of_some ht, gatherGuarded_cons_of_some ht, ih hrest,
        List.append_assoc]

theorem execGuarded_invariant {step : σ → α → Option σ} {I : σ → Prop}
    (hstep : ∀ s a s', step s a = some s' → I s → I s') {s s' : σ} (hs : I s) {as : List α}
    (h : execGuarded step s as = some s') : I s' := by
  induction as generalizing s with
  | nil =>
      obtain rfl : s = s' := by simpa [execGuarded] using h
      exact hs
  | cons a as ih =>
      rw [execGuarded_cons] at h
      obtain ⟨m, hm, hrest⟩ := Option.bind_eq_some_iff.mp h
      exact ih (hstep s a m hm hs) hrest

/-! ## Two runs in lockstep -/

/-- What `obs` sees of each step of a run; `none` when some action is not possible where it is
taken. -/
def trace {ω : Type*} (step : σ → α → Option σ) (obs : σ → α → σ → ω) : σ → List α → Option (List ω)
  | _, [] => some []
  | s, a :: as => (step s a).bind fun s' => (trace step obs s' as).map (obs s a s' :: ·)

/-- **Lockstep.** `R` relates states and `A` actions of two runs. If related actions in related
states are both impossible, or lead to related states with the same observation, then the two runs
cannot be told apart, nor can only one of them be possible. -/
theorem trace_eq_of_lockstep {ω : Type*} {step : σ → α → Option σ} {obs : σ → α → σ → ω}
    {R : σ → σ → Prop} {A : α → α → Prop}
    (hstep : ∀ s t a b, R s t → A a b →
      Option.Rel (fun s' t' => R s' t' ∧ obs s a s' = obs t b t') (step s a) (step t b))
    {s t : σ} (hst : R s t) {as bs : List α} (h : List.Forall₂ A as bs) :
    trace step obs s as = trace step obs t bs := by
  induction h generalizing s t with
  | nil => rfl
  | @cons a b as bs hab _ ih =>
      have hone := hstep s t a b hst hab
      rw [trace, trace]
      generalize step s a = s' at hone
      generalize step t b = t' at hone
      cases hone with
      | none => rfl
      | some hrel =>
          obtain ⟨hR, hobs⟩ := hrel
          rw [Option.bind_some, Option.bind_some, ih hR, hobs]

end TfnAks.Lib.Runs
