import Calculator.Failure

/-!
# Outcomes put together

What a computation in two steps comes to, in terms of the steps: it succeeds
if both do, and fails with the first failure.  `FailsOnly p x` says of an
outcome that it is a value or a fault of an expression for which `p` holds; it
passes through the steps of a computation by `FailsOnly.bind`.
-/

namespace Calculator

variable {α β : Type}

theorem bind_eq_ok_iff {x : Except Failure α} {f : α → Except Failure β} {b : β} :
    (x >>= f) = .ok b ↔ ∃ a, x = .ok a ∧ f a = .ok b := by
  constructor
  · intro h
    cases x with
    | error failure => cases h
    | ok a => exact ⟨a, rfl, h⟩
  · rintro ⟨a, rfl, h⟩
    exact h

theorem bind_eq_error_iff {x : Except Failure α} {f : α → Except Failure β} {failure : Failure} :
    (x >>= f) = .error failure ↔
      x = .error failure ∨ ∃ a, x = .ok a ∧ f a = .error failure := by
  constructor
  · intro h
    cases x with
    | error first => exact Or.inl (congrArg Except.error (Except.error.inj h))
    | ok a => exact Or.inr ⟨a, rfl, h⟩
  · rintro (rfl | ⟨a, rfl, h⟩)
    · rfl
    · exact h

theorem map_eq_ok_iff {x : Except Failure α} {f : α → β} {b : β} :
    x.map f = .ok b ↔ ∃ a, x = .ok a ∧ f a = b := by
  cases x <;> simp [Except.map]

theorem map_eq_error_iff {x : Except Failure α} {f : α → β} {failure : Failure} :
    x.map f = .error failure ↔ x = .error failure := by
  cases x <;> simp [Except.map]

@[simp] theorem mapError_eq_ok_iff {ε : Type} {x : Except Failure α} {f : Failure → ε} {a : α} :
    x.mapError f = .ok a ↔ x = .ok a := by
  constructor
  · intro h
    cases x with
    | ok b => exact congrArg Except.ok (Except.ok.inj h)
    | error failure => cases h
  · rintro rfl
    rfl

@[simp] theorem mapError_eq_error_iff {ε : Type} {x : Except Failure α} {f : Failure → ε} {e : ε} :
    x.mapError f = .error e ↔ ∃ failure, x = .error failure ∧ f failure = e := by
  constructor
  · intro h
    cases x with
    | ok a => cases h
    | error failure => exact ⟨failure, rfl, Except.error.inj h⟩
  · rintro ⟨failure, rfl, rfl⟩
    rfl

/-- The outcome is a value, or a fault of an expression with the given
property. -/
def FailsOnly (p : Fault → Prop) (x : Except Failure α) : Prop :=
  ∀ failure, x = .error failure → ∃ fault, failure = .fault fault ∧ p fault

theorem failsOnly_ok {p : Fault → Prop} (a : α) : FailsOnly p (.ok a : Except Failure α) :=
  fun _ h => by cases h

theorem failsOnly_fault {p : Fault → Prop} {fault : Fault} (h : p fault) :
    FailsOnly p (.error (.fault fault) : Except Failure α) :=
  fun _ heq => ⟨fault, (Except.error.inj heq).symm, h⟩

theorem FailsOnly.bind {p : Fault → Prop} {x : Except Failure α} {f : α → Except Failure β}
    (hx : FailsOnly p x) (hf : ∀ a, x = .ok a → FailsOnly p (f a)) : FailsOnly p (x >>= f) := by
  cases x with
  | error failure => exact fun _ h => hx _ (congrArg Except.error (Except.error.inj h))
  | ok a => exact hf a rfl

theorem FailsOnly.mono {p q : Fault → Prop} {x : Except Failure α} (h : FailsOnly p x)
    (hpq : ∀ fault, p fault → q fault) : FailsOnly q x :=
  fun failure hx => (h failure hx).imp fun fault hfault => ⟨hfault.1, hpq fault hfault.2⟩

end Calculator
