/-!
# Computations that fail alike

Two computations are compared by what comes of them. Either both fail, and with the same error, or
both succeed, and their results are related.

* `Refines.bind`, `Refines.map`: what is done with the results, on both sides or on one;
* `Refines.trans`: a computation in between;
* `Refines.error_iff`: they fail with the same errors.
-/

namespace Federation

/-- A computation in two steps that comes to a result does so in each of them. -/
theorem exists_of_bind_eq_ok {ε α β : Type} {x : Except ε α} {f : α → Except ε β} {b : β}
    (h : x >>= f = .ok b) : ∃ a, x = .ok a ∧ f a = .ok b := by
  cases x with
  | error err => exact absurd h (by simp [bind, Except.bind])
  | ok a => exact ⟨a, rfl, h⟩

/-- So does a computation whose result is changed afterwards. -/
theorem exists_of_map_eq_ok {ε α β : Type} {x : Except ε α} {f : α → β} {b : β}
    (h : x.map f = .ok b) : ∃ a, x = .ok a ∧ f a = b := by
  cases x with
  | error err => exact absurd h (by simp [Except.map])
  | ok a => exact ⟨a, rfl, Except.ok.inj h⟩

/-- Whether it comes to a result does not depend on how its errors are named. -/
theorem mapError_eq_ok_iff {ε ε' α : Type} {x : Except ε α} {f : ε → ε'} {a : α} :
    x.mapError f = .ok a ↔ x = .ok a := by
  cases x with
  | error err => exact ⟨nofun, nofun⟩
  | ok b =>
    constructor
    · rintro ⟨⟩
      rfl
    · rintro ⟨⟩
      rfl

/-- Its errors come from errors under their old names. -/
theorem exists_of_mapError_eq_error {ε ε' α : Type} {x : Except ε α} {f : ε → ε'} {err : ε'}
    (h : x.mapError f = .error err) : ∃ err₀, x = .error err₀ ∧ f err₀ = err := by
  cases x with
  | error err₀ => exact ⟨err₀, rfl, Except.error.inj h⟩
  | ok a => cases h

/-- Two computations fail with the same error, or come to related results. -/
inductive Refines {ε α β : Type} (R : α → β → Prop) : Except ε α → Except ε β → Prop
  | error (err : ε) : Refines R (.error err) (.error err)
  | ok {a : α} {b : β} (h : R a b) : Refines R (.ok a) (.ok b)

namespace Refines

variable {ε α β γ δ : Type} {R : α → β → Prop} {S : γ → δ → Prop} {x : Except ε α} {y : Except ε β}

theorem bind (h : Refines R x y) {f : α → Except ε γ} {g : β → Except ε δ}
    (hfg : ∀ a b, R a b → Refines S (f a) (g b)) : Refines S (x >>= f) (y >>= g) := by
  cases h with
  | error err => exact .error err
  | ok hab => exact hfg _ _ hab

theorem map (h : Refines R x y) {f : α → γ} {g : β → δ} (hfg : ∀ a b, R a b → S (f a) (g b)) :
    Refines S (x.map f) (y.map g) := by
  cases h with
  | error err => exact .error err
  | ok hab => exact .ok (hfg _ _ hab)

theorem bind_left (h : Refines R x y) {R' : γ → β → Prop} {f : α → γ}
    (hf : ∀ a b, R a b → R' (f a) b) : Refines R' (x >>= fun a => .ok (f a)) y := by
  cases h with
  | error err => exact .error err
  | ok hab => exact .ok (hf _ _ hab)

theorem map_right (h : Refines R x y) {R' : α → γ → Prop} {g : β → γ}
    (hg : ∀ a b, R a b → R' a (g b)) : Refines R' x (y.map g) := by
  cases h with
  | error err => exact .error err
  | ok hab => exact .ok (hg _ _ hab)

theorem mono (h : Refines R x y) {R' : α → β → Prop} (hR : ∀ a b, R a b → R' a b) :
    Refines R' x y := by
  cases h with
  | error err => exact .error err
  | ok hab => exact .ok (hR _ _ hab)

/-- Of the results that are compared it is known where they come from. -/
theorem mono_of_eq (h : Refines R x y) {R' : α → β → Prop}
    (hR : ∀ a b, y = .ok b → R a b → R' a b) : Refines R' x y := by
  cases h with
  | error err => exact .error err
  | ok hab => exact .ok (hR _ _ rfl hab)

theorem trans {z : Except ε γ} (h : Refines R x y) {S : β → γ → Prop} (h' : Refines S y z)
    {T : α → γ → Prop} (hT : ∀ a b c, R a b → S b c → T a c) : Refines T x z := by
  cases h with
  | error err =>
    cases h'
    exact .error err
  | ok hab =>
    cases h' with
    | ok hbc => exact .ok (hT _ _ _ hab hbc)

theorem exists_of_ok {a : α} (h : Refines R (.ok a) y) : ∃ b, y = .ok b ∧ R a b := by
  cases h with
  | ok hab => exact ⟨_, rfl, hab⟩

theorem error_iff (h : Refines R x y) (err : ε) : x = .error err ↔ y = .error err := by
  cases h with
  | error err' => simp
  | ok hab => exact ⟨nofun, nofun⟩

/-- What is done with the results in the end makes no difference to the errors. -/
theorem of_map (f : α → β) (x : Except ε α) : Refines (fun b a => b = f a) (x.map f) x := by
  cases x with
  | error err => exact .error err
  | ok a => exact .ok rfl

end Refines

end Federation
