import Mathlib.Tactic

/-!
# Outcomes of readers

A reader gives a value or a fault.  A composed reader succeeds exactly when its
parts do, in order.  An action on a state gives a value and a new state; two runs
of it may be compared from states that are not the same.

A checked reader may also go wrong: where it would need a byte or a piece of
text that is not there, count below zero, or go round a loop without end.
-/

namespace Stubgen

theorem except_bind_eq_ok_iff {ε α β : Type} {x : Except ε α}
    {f : α → Except ε β} {b : β} :
    x >>= f = .ok b ↔ ∃ a, x = .ok a ∧ f a = .ok b := by
  cases x with
  | error e =>
      change Except.error e = .ok b ↔ _
      simp
  | ok a =>
      change f a = .ok b ↔ _
      simp

theorem except_bind_eq_error_iff {ε α β : Type} {x : Except ε α}
    {f : α → Except ε β} {e : ε} :
    x >>= f = .error e ↔ x = .error e ∨ ∃ a, x = .ok a ∧ f a = .error e := by
  cases x with
  | error e' =>
      change Except.error e' = .error e ↔ _
      simp
  | ok a =>
      change f a = .error e ↔ _
      simp

theorem except_map_eq_ok_iff {ε α β : Type} {x : Except ε α}
    {f : α → β} {b : β} :
    x.map f = .ok b ↔ ∃ a, x = .ok a ∧ f a = b := by
  cases x with
  | error e => simp [Except.map]
  | ok a => simp [Except.map]

theorem except_map_eq_error_iff {ε α β : Type} {x : Except ε α}
    {f : α → β} {e : ε} : x.map f = .error e ↔ x = .error e := by
  cases x with
  | error e' => simp [Except.map]
  | ok a => simp [Except.map]

theorem stateM_bind_apply {σ α β : Type} (x : StateM σ α) (f : α → StateM σ β)
    (state : σ) : (x >>= f) state = f (x state).1 (x state).2 := rfl

section Gives

variable {σ α β : Type} {inv : σ → Prop} {p : α → Prop} {q : β → Prop}

/-- Wherever an invariant holds, an action keeps it and gives something that has
a property. -/
def Gives (inv : σ → Prop) (x : StateM σ α) (p : α → Prop) : Prop :=
  ∀ state, inv state → p (x state).1 ∧ inv (x state).2

theorem gives_pure {a : α} (ha : p a) : Gives inv (pure a) p :=
  fun _ hstate => ⟨ha, hstate⟩

theorem Gives.bind {x : StateM σ α} {f : α → StateM σ β} (hx : Gives inv x p)
    (hf : ∀ a, p a → Gives inv (f a) q) : Gives inv (x >>= f) q := by
  intro state hstate
  obtain ⟨ha, hafter⟩ := hx state hstate
  rw [stateM_bind_apply]
  exact hf _ ha _ hafter

theorem Gives.mapM {f : α → StateM σ β} {r : α → β → Prop} {l : List α}
    (hf : ∀ a ∈ l, Gives inv (f a) (r a)) :
    Gives inv (l.mapM f) (List.Forall₂ r l) := by
  induction l with
  | nil => exact gives_pure .nil
  | cons a rest ih =>
      have hrest := ih fun b hb => hf b (List.mem_cons_of_mem a hb)
      rw [List.mapM_cons]
      exact (hf a List.mem_cons_self).bind fun b hb =>
        hrest.bind fun bs hbs => gives_pure (.cons hb hbs)

end Gives

section Alike

variable {σ α β : Type} {rel : σ → σ → Prop}

/-- From two states that are related, an action gives the same and leaves states
that are related. -/
def Alike (rel : σ → σ → Prop) (x : StateM σ α) : Prop :=
  ∀ s s', rel s s' → (x s').1 = (x s).1 ∧ rel (x s).2 (x s').2

theorem alike_pure (a : α) : Alike rel (pure a) :=
  fun _ _ hrel => ⟨rfl, hrel⟩

theorem Alike.bind {x : StateM σ α} {f : α → StateM σ β} (hx : Alike rel x)
    (hf : ∀ a, Alike rel (f a)) : Alike rel (x >>= f) := by
  intro s s' hrel
  obtain ⟨hsame, hafter⟩ := hx s s' hrel
  rw [stateM_bind_apply, stateM_bind_apply, hsame]
  exact hf _ _ _ hafter

theorem Alike.mapM {f : α → StateM σ β} (hf : ∀ a, Alike rel (f a))
    (l : List α) : Alike rel (l.mapM f) := by
  induction l with
  | nil => exact alike_pure []
  | cons a rest ih =>
      rw [List.mapM_cons]
      exact (hf a).bind fun _ => ih.bind fun _ => alike_pure _

end Alike

/-- A reader that goes wrong as `none`. -/
abbrev Checked (ε : Type) : Type → Type := ExceptT ε Option

namespace Checked

variable {ε α β : Type}

/-- Nothing goes wrong, and the outcome is the given one. -/
def returns (x : Except ε α) : Checked ε α := ExceptT.mk (some x)

def wrong : Checked ε α := ExceptT.mk none

@[simp] theorem throw_eq (e : ε) :
    (throw e : Checked ε α) = returns (.error e) := rfl

@[simp] theorem pure_eq (a : α) :
    (pure a : Checked ε α) = returns (.ok a) := rfl

@[simp] theorem liftM_some_bind (a : α) (f : α → Checked ε β) :
    (liftM (some a) : Checked ε α) >>= f = f a := rfl

@[simp] theorem returns_ok_bind (a : α) (f : α → Checked ε β) :
    returns (.ok a) >>= f = f a := rfl

@[simp] theorem returns_error_bind (e : ε) (f : α → Checked ε β) :
    returns (.error e) >>= f = returns (.error e) := rfl

theorem bind_eq_ok_iff {x : Checked ε α} {f : α → Checked ε β} {b : β} :
    x >>= f = returns (.ok b) ↔
      ∃ a, x = returns (.ok a) ∧ f a = returns (.ok b) := by
  cases x with
  | none =>
      constructor
      · intro h
        cases h
      · rintro ⟨a, ha, _⟩
        cases ha
  | some outcome =>
      cases outcome with
      | error e =>
          constructor
          · intro h
            cases h
          · rintro ⟨a, ha, _⟩
            cases ha
      | ok a =>
          change f a = returns (.ok b) ↔ _
          constructor
          · intro h
            exact ⟨a, rfl, h⟩
          · rintro ⟨a', ha, h⟩
            cases ha
            exact h

theorem liftM_eq_ok_iff {x : Option α} {a : α} :
    (liftM x : Checked ε α) = returns (.ok a) ↔ x = some a := by
  cases x with
  | none =>
      constructor <;> intro h <;> cases h
  | some a' =>
      constructor <;> intro h <;> cases h <;> rfl

end Checked

end Stubgen
