import TapeRecall.Trace

/-!
# Procedures

A procedure runs on a state, and its outcome shows three things: how it ended, the state that
it left, and the trace of what it did. It ends with a result or with an abort. An abort ends
everything that was to follow, but it does not undo what was done: the state and the trace up
to it remain.

`ensuring` and `onAbort` attach a clean-up to a procedure, the first whatever its ending and
the second for an abort only. Neither changes how it ends.
-/

set_option autoImplicit false

namespace TapeRecall

/-- How a procedure ended, the state that it left, and what it did. -/
structure Outcome (σ α : Type) where
  ending : Except Abort α
  state : σ
  trace : Trace

/-- A procedure on a state. -/
def Proc (σ α : Type) : Type := σ → Outcome σ α

namespace Proc

variable {σ τ α β : Type}

/-! ## Sequences -/

/-- Does nothing. -/
def pure (a : α) : Proc σ α := fun s => ⟨.ok a, s, []⟩

/-- One procedure after another; the second does not run when the first aborts. -/
def bind (p : Proc σ α) (f : α → Proc σ β) : Proc σ β := fun s =>
  let first := p s
  match first.ending with
  | .ok a =>
    let second := f a first.state
    ⟨second.ending, second.state, first.trace ++ second.trace⟩
  | .error why => ⟨.error why, first.state, first.trace⟩

instance : Monad (Proc σ) where
  pure := Proc.pure
  bind := Proc.bind

/-! ## The state and the trace -/

/-- The state. -/
def get : Proc σ σ := fun s => ⟨.ok s, s, []⟩

/-- Replaces the state. -/
def set (s : σ) : Proc σ Unit := fun _ => ⟨.ok (), s, []⟩

/-- Changes the state. -/
def modify (f : σ → σ) : Proc σ Unit := fun s => ⟨.ok (), f s, []⟩

/-- Records a call with its reply. -/
def record (c : Call) (r : Reply) : Proc σ Unit := fun s => ⟨.ok (), s, [.call c r]⟩

/-- Makes a call of which there is no record. -/
def stray (c : StrayCall) : Proc σ Unit := fun s => ⟨.ok (), s, [.stray c]⟩

/-- Reports a notice. -/
def notify (n : Notice) : Proc σ Unit := fun s => ⟨.ok (), s, [.notice n]⟩

/-! ## Aborts and clean-ups -/

/-- Aborts. -/
def abort (why : Abort) : Proc σ α := fun s => ⟨.error why, s, []⟩

/-- The procedure that ends in a given way and does nothing. -/
def ofEnding (e : Except Abort α) : Proc σ α := fun s => ⟨e, s, []⟩

/-- Runs a clean-up after a procedure, however that ended, and ends as it did. -/
def ensuring (p : Proc σ α) (cleanup : Proc σ Unit) : Proc σ α := fun s =>
  let first := p s
  let last := cleanup first.state
  ⟨first.ending, last.state, first.trace ++ last.trace⟩

/-- Runs a clean-up if a procedure aborts, and ends as it did. -/
def onAbort (p : Proc σ α) (cleanup : Proc σ Unit) : Proc σ α := fun s =>
  let first := p s
  match first.ending with
  | .ok _ => first
  | .error _ =>
    let last := cleanup first.state
    ⟨first.ending, last.state, first.trace ++ last.trace⟩

/-! ## Parts of a state -/

/-- Runs on the second part of a state. -/
def onSecond (p : Proc σ α) : Proc (τ × σ) α := fun s =>
  let o := p s.2
  ⟨o.ending, (s.1, o.state), o.trace⟩

/-- Runs with a first part that exists only as long as the procedure does. -/
def withFirst (t : τ) (p : Proc (τ × σ) α) : Proc σ α := fun s =>
  let o := p (t, s)
  ⟨o.ending, o.state.2, o.trace⟩

/-! ## What each of them does to a state

One equation for each way to make a procedure. A statement about a procedure is proved by
rewriting with these until only outcomes are left. -/

@[simp] theorem pure_apply (a : α) (s : σ) : (Pure.pure a : Proc σ α) s = ⟨.ok a, s, []⟩ := rfl

theorem bind_apply (p : Proc σ α) (f : α → Proc σ β) (s : σ) :
    (p >>= f) s = match (p s).ending with
      | .ok a => ⟨(f a (p s).state).ending, (f a (p s).state).state,
          (p s).trace ++ (f a (p s).state).trace⟩
      | .error why => ⟨.error why, (p s).state, (p s).trace⟩ := rfl

theorem map_apply (f : α → β) (p : Proc σ α) (s : σ) :
    (f <$> p) s = ⟨(p s).ending.map f, (p s).state, (p s).trace⟩ := by
  change (p >>= fun a => Pure.pure (f a)) s = _
  rw [bind_apply]
  cases h : (p s).ending <;> simp [Except.map]

@[simp] theorem get_apply (s : σ) : (get : Proc σ σ) s = ⟨.ok s, s, []⟩ := rfl

@[simp] theorem set_apply (s t : σ) : (set t : Proc σ Unit) s = ⟨.ok (), t, []⟩ := rfl

@[simp] theorem modify_apply (f : σ → σ) (s : σ) : modify f s = ⟨.ok (), f s, []⟩ := rfl

@[simp] theorem record_apply (c : Call) (r : Reply) (s : σ) :
    record c r s = ⟨.ok (), s, [.call c r]⟩ := rfl

@[simp] theorem stray_apply (c : StrayCall) (s : σ) :
    (stray c : Proc σ Unit) s = ⟨.ok (), s, [.stray c]⟩ := rfl

@[simp] theorem notify_apply (n : Notice) (s : σ) : notify n s = ⟨.ok (), s, [.notice n]⟩ := rfl

@[simp] theorem abort_apply (why : Abort) (s : σ) :
    (abort why : Proc σ α) s = ⟨.error why, s, []⟩ := rfl

@[simp] theorem ofEnding_apply (e : Except Abort α) (s : σ) :
    (ofEnding e : Proc σ α) s = ⟨e, s, []⟩ := rfl

theorem onSecond_apply (p : Proc σ α) (s : τ × σ) :
    p.onSecond s = ⟨(p s.2).ending, (s.1, (p s.2).state), (p s.2).trace⟩ := rfl

theorem onAbort_apply (p : Proc σ α) (c : Proc σ Unit) (s : σ) :
    p.onAbort c s = match (p s).ending with
      | .ok _ => p s
      | .error _ =>
        ⟨(p s).ending, (c (p s).state).state, (p s).trace ++ (c (p s).state).trace⟩ := rfl

/-! ## Laws

How a sequence is bracketed makes no difference, because traces are appended. -/

theorem bind_assoc {γ : Type} (p : Proc σ α) (f : α → Proc σ β) (g : β → Proc σ γ) :
    (p >>= f) >>= g = p >>= fun a => f a >>= g := by
  funext s
  simp only [bind_apply]
  cases (p s).ending with
  | error why => rfl
  | ok a =>
    dsimp only
    cases (f a (p s).state).ending <;> simp [List.append_assoc]

theorem bind_pure (p : Proc σ α) : p >>= Pure.pure = p := by
  funext s
  simp only [bind_apply, pure_apply]
  cases h : p s with
  | mk ending state trace => cases ending <;> simp

theorem pure_bind (a : α) (f : α → Proc σ β) : Pure.pure a >>= f = f a := by
  funext s
  simp [bind_apply]

instance : LawfulMonad (Proc σ) :=
  LawfulMonad.mk' _ (fun p => bind_pure p) pure_bind bind_assoc

end Proc

end TapeRecall
