/-
  ImageIntake.Action

  Things done in surroundings that may fail.  What an action did before it
  failed stays done.
-/

import ImageIntake.Failure

namespace ImageIntake

/-- Something that is done in surroundings of a type and gives a value or fails. -/
abbrev Action (ω α : Type) := ExceptT Failure (StateM ω) α

namespace Action

variable {ω σ α : Type}

/-- The action that is a function of its surroundings. -/
def of (f : ω → Except Failure α × ω) : Action ω α :=
  ExceptT.mk fun s => f s

/-- What an action comes to. -/
def after (a : Action ω α) (s : ω) : Except Failure α × ω :=
  (ExceptT.run a) s

/-- Changes the surroundings. -/
def change (f : ω → ω) : Action ω Unit :=
  .of fun s => (.ok (), f s)

/-- Gives an outcome that is known. -/
def give (outcome : Except Failure α) : Action ω α :=
  .of fun s => (outcome, s)

/-- Does an action and gives its outcome, be it a failure. -/
def attempt (a : Action ω α) : Action ω (Except Failure α) :=
  .of fun s =>
    let (outcome, s) := a.after s
    (.ok outcome, s)

/-- Does an action in a part of the surroundings. -/
def inside (get : σ → ω) (set : ω → σ → σ) (a : Action ω α) : Action σ α :=
  .of fun s =>
    let (outcome, part) := a.after (get s)
    (outcome, set part s)

/-- Does an action on the second of two. -/
def second (a : Action ω α) : Action (σ × ω) α :=
  .of fun s =>
    let (outcome, part) := a.after s.2
    (outcome, (s.1, part))

@[simp] theorem after_of (f : ω → Except Failure α × ω) (s : ω) : (of f).after s = f s := rfl

@[simp] theorem after_pure (x : α) (s : ω) : (pure x : Action ω α).after s = (.ok x, s) := rfl

@[simp] theorem after_throw (f : Failure) (s : ω) :
    (throw f : Action ω α).after s = (.error f, s) := rfl

@[simp] theorem after_get (s : ω) : (get : Action ω ω).after s = (.ok s, s) := rfl

@[simp] theorem after_change (f : ω → ω) (s : ω) : (change f).after s = (.ok (), f s) := rfl

@[simp] theorem after_give (outcome : Except Failure α) (s : ω) :
    (give outcome).after s = (outcome, s) := rfl

@[simp] theorem after_attempt (a : Action ω α) (s : ω) :
    a.attempt.after s = (.ok (a.after s).1, (a.after s).2) := rfl

@[simp] theorem after_inside (get : σ → ω) (set : ω → σ → σ) (a : Action ω α) (s : σ) :
    (a.inside get set).after s = ((a.after (get s)).1, set (a.after (get s)).2 s) := rfl

@[simp] theorem after_second (a : Action ω α) (s : σ × ω) :
    (second a).after s = ((a.after s.2).1, s.1, (a.after s.2).2) := rfl

theorem after_bind {β : Type} (a : Action ω α) (f : α → Action ω β) (s : ω) :
    (a >>= f).after s = match a.after s with
      | (.ok x, s) => (f x).after s
      | (.error e, s) => (.error e, s) := by
  have split : ∀ r : Except Failure α × ω, ExceptT.bindCont f r.1 r.2 =
      match r with
      | (.ok x, s) => (f x).after s
      | (.error e, s) => (.error e, s) := by
    rintro ⟨_ | _, _⟩ <;> rfl
  exact split (a.after s)

@[simp] theorem after_map {β : Type} (g : α → β) (a : Action ω α) (s : ω) :
    (g <$> a).after s = ((a.after s).1.map g, (a.after s).2) := by
  have h_bind : (g <$> a).after s = (a >>= fun x => pure (g x)).after s := rfl
  rw [h_bind, after_bind]
  rcases a.after s with ⟨_ | _, _⟩ <;> rfl

end Action

end ImageIntake
