/-
  ImageIntake.Proofs.Agreement

  Outcomes of two runs that agree: both are values that are related, or both are
  failures that are.  What is done with a value next keeps the agreement
  (`Agree.bind`), and so does a new wording of the failures (`Agree.mapError`).
-/

namespace ImageIntake

variable {ε δ ε' δ' α β α' β' : Type} {S : ε → δ → Prop} {T : ε' → δ' → Prop} {R : α → β → Prop}
  {Q : α' → β' → Prop}

theorem ok_of_toOption {ε α : Type} {outcome : Except ε α} {a : α}
    (h : outcome.toOption = some a) : outcome = .ok a := by
  cases outcome with
  | error e => cases h
  | ok b => exact congrArg Except.ok (Option.some.inj h)

theorem ok_of_mapError {ε δ α : Type} {f : ε → δ} {outcome : Except ε α} {a : α}
    (h : outcome.mapError f = .ok a) : outcome = .ok a := by
  cases outcome with
  | error e => cases h
  | ok b => exact congrArg Except.ok (Except.ok.inj h)

theorem ok_of_map {ε α β : Type} {f : α → β} {outcome : Except ε α} {b : β}
    (h : outcome.map f = .ok b) : ∃ a, outcome = .ok a ∧ f a = b := by
  cases outcome with
  | error e => cases h
  | ok a => exact ⟨a, rfl, Except.ok.inj h⟩

theorem ok_of_bind {ε α β : Type} {outcome : Except ε α} {next : α → Except ε β} {b : β}
    (h : outcome >>= next = .ok b) : ∃ a, outcome = .ok a ∧ next a = .ok b := by
  cases outcome with
  | error e => cases h
  | ok a => exact ⟨a, rfl, h⟩

/-- Two outcomes that agree. -/
inductive Agree (S : ε → δ → Prop) (R : α → β → Prop) : Except ε α → Except δ β → Prop
  | ok {a : α} {b : β} (h : R a b) : Agree S R (.ok a) (.ok b)
  | error {e : ε} {d : δ} (h : S e d) : Agree S R (.error e) (.error d)

namespace Agree

theorem refl {S : ε → ε → Prop} {R : α → α → Prop} (h_error : ∀ e, S e e) (h_ok : ∀ a, R a a)
    (x : Except ε α) : Agree S R x x := by
  cases x with
  | ok a => exact .ok (h_ok a)
  | error e => exact .error (h_error e)

theorem of_eq {R : α → α → Prop} (h_ok : ∀ a, R a a) {x y : Except ε α} (h : x = y) :
    Agree Eq R x y := by
  rw [h]
  exact refl (fun _ => rfl) h_ok y

theorem eq {x y : Except ε α} (h : Agree Eq Eq x y) : x = y := by
  cases h with
  | ok h_value => rw [h_value]
  | error h_failure => rw [h_failure]

theorem mono {R' : α → β → Prop} {x : Except ε α} {y : Except δ β} (h : Agree S R x y)
    (h_weaker : ∀ a b, R a b → R' a b) : Agree S R' x y := by
  cases h with
  | ok h_value => exact .ok (h_weaker _ _ h_value)
  | error h_failure => exact .error h_failure

theorem bind {x : Except ε α} {y : Except δ β} {f : α → Except ε α'} {g : β → Except δ β'}
    (h : Agree S R x y) (h_next : ∀ a b, R a b → Agree S Q (f a) (g b)) :
    Agree S Q (x >>= f) (y >>= g) := by
  cases h with
  | ok h_value => exact h_next _ _ h_value
  | error h_failure => exact .error h_failure

theorem map {x : Except ε α} {y : Except δ β} {f : α → α'} {g : β → β'} (h : Agree S R x y)
    (h_next : ∀ a b, R a b → Q (f a) (g b)) : Agree S Q (x.map f) (y.map g) := by
  cases h with
  | ok h_value => exact .ok (h_next _ _ h_value)
  | error h_failure => exact .error h_failure

theorem mapError {x : Except ε α} {y : Except δ β} {f : ε → ε'} {g : δ → δ'} (h : Agree S R x y)
    (h_next : ∀ e d, S e d → T (f e) (g d)) : Agree T R (x.mapError f) (y.mapError g) := by
  cases h with
  | ok h_value => exact .ok h_value
  | error h_failure => exact .error (h_next _ _ h_failure)

end Agree

end ImageIntake
