/-
**How a call can fail to return.**

The game code reports expected refusals in its results; what remains are the calls that do not
return at all: a failed `assert` or an access out of range, and the exceptions of the standard
library.  A function that can fail in one of these ways returns `Except Fault`, and a function
that throws after it has changed something returns the changed state next to the fault.

* `My4X.Fault` — the failures;
* `My4X.Except.bind_eq_ok` — a composition that returns has returned at both stages.
-/

set_option relaxedAutoImplicit false
set_option autoImplicit false

namespace My4X

universe u v

/-- The ways in which a call does not return. -/
inductive Fault
  /-- A failed `assert`, or an unchecked access out of range. -/
  | assertion
  /-- `std::runtime_error`. -/
  | runtimeError (what : String)
  /-- `std::invalid_argument`. -/
  | invalidArgument (what : String)
  /-- `std::out_of_range`. -/
  | outOfRange (what : String)
  /-- `std::bad_function_call`: an empty `std::function` is called. -/
  | badFunctionCall
  deriving DecidableEq, Repr

/-- A composition that returns has returned at both stages. -/
theorem Except.bind_eq_ok {ε : Type u} {α β : Type v} {x : Except ε α} {f : α → Except ε β}
    {b : β} :
    x >>= f = .ok b ↔ ∃ a, x = .ok a ∧ f a = .ok b := by
  cases x with
  | error e => simp [bind, Except.bind]
  | ok a => simp [bind, Except.bind]

/-- A composition that returns the one part of a pair as it is and a function of the other. -/
theorem Except.bind_pair_eq_ok {ε : Type u} {α β γ : Type v} {x : Except ε (α × β)} {f : β → γ}
    {a : α} {c : γ} :
    (x >>= fun out => pure (out.1, f out.2)) = .ok (a, c) ↔ ∃ b, x = .ok (a, b) ∧ f b = c := by
  rw [Except.bind_eq_ok]
  constructor
  · intro h
    obtain ⟨⟨a', b⟩, hx, h⟩ := h
    obtain ⟨rfl, rfl⟩ := Prod.mk.inj (Except.ok.inj h)
    exact ⟨b, hx, rfl⟩
  · intro h
    obtain ⟨b, hx, rfl⟩ := h
    exact ⟨(a, b), hx, rfl⟩

/-- A composition fails at the first stage when the second one cannot fail. -/
theorem Except.eq_error_of_bind {ε : Type u} {α β : Type v} {x : Except ε α} {f : α → Except ε β}
    {e : ε} (hf : ∀ a, ∃ b, f a = .ok b) (h : x >>= f = .error e) : x = .error e := by
  cases x with
  | error e' => rw [Except.error.inj h]
  | ok a =>
      obtain ⟨b, hb⟩ := hf a
      rw [show (Except.ok a : Except ε α) >>= f = f a from rfl, hb] at h
      cases h

/-- A composition whose first stage returns goes on with the second. -/
@[simp] theorem Except.ok_bind {ε : Type u} {α β : Type v} (a : α) (f : α → Except ε β) :
    (Except.ok a : Except ε α) >>= f = f a := rfl

/-- A composition whose first stage fails fails the same way. -/
@[simp] theorem Except.error_bind {ε : Type u} {α β : Type v} (e : ε) (f : α → Except ε β) :
    (Except.error e : Except ε α) >>= f = .error e := rfl

end My4X
