/-!
# Words

Sizes, counts, ranks and seeds are natural numbers below `Word.limit`. Sums and
products of them are exact or have no value: `Word.add?` and `Word.mul?` answer
only while the exact result still fits in 64 bits. A computation that loses its
value this way ends with `Stop.fault`, which keeps it apart from an error that
the library reports.
-/

namespace CardShuffle

universe u v w

namespace Word

/-- The first natural number that needs more than 64 bits: `2 ^ 64`. -/
def limit : Nat := 18446744073709551616

/-- The exact sum of two words, when it is a word. -/
def add? (left right : Nat) : Option Nat :=
  if left + right < limit then some (left + right) else none

/-- The exact product of two words, when it is a word. -/
def mul? (left right : Nat) : Option Nat :=
  if left * right < limit then some (left * right) else none

/-- A sum has a value exactly when it fits, and then the exact one. -/
theorem add?_eq_some_iff {left right sum : Nat} :
    add? left right = some sum ↔ left + right < limit ∧ left + right = sum := by
  simp [add?]

/-- A sum has no value exactly when it does not fit. -/
theorem add?_eq_none_iff {left right : Nat} :
    add? left right = none ↔ limit ≤ left + right := by
  simp [add?]

/-- A product has a value exactly when it fits, and then the exact one. -/
theorem mul?_eq_some_iff {left right product : Nat} :
    mul? left right = some product ↔ left * right < limit ∧ left * right = product := by
  simp [mul?]

/-- A product has no value exactly when it does not fit. -/
theorem mul?_eq_none_iff {left right : Nat} :
    mul? left right = none ↔ limit ≤ left * right := by
  simp [mul?]

end Word

/-- Why a computation ends without its value. -/
inductive Stop (ε : Type u) where
  /-- An exact result was no word, or an internal condition did not hold. No
  part of the computation takes effect. -/
  | fault
  /-- The computation reports an error of its domain. -/
  | error (reason : ε)
  deriving Repr, DecidableEq

namespace Stop

/-- Use the value of an exact operation, or end with a fault. -/
def require {ε : Type u} {α : Type v} : Option α -> Except (Stop ε) α
  | some value => .ok value
  | none => .error .fault

/-- Report an error of the domain. -/
def report {ε : Type u} {α : Type v} (reason : ε) : Except (Stop ε) α :=
  .error (.error reason)

/-- Continue with a value that may carry a domain error but no fault. -/
def lift {ε : Type u} {α : Type v} : Except ε α -> Except (Stop ε) α
  | .ok value => .ok value
  | .error reason => report reason

/-- Restate the domain error of a stopped computation. -/
def restate {ε : Type u} {δ : Type v} {α : Type w} (describe : ε -> δ) :
    Except (Stop ε) α -> Except (Stop δ) α
  | .ok value => .ok value
  | .error .fault => .error .fault
  | .error (.error reason) => report (describe reason)

@[simp]
theorem require_some {ε : Type u} {α : Type v} (value : α) :
    (require (some value) : Except (Stop ε) α) = .ok value := rfl

@[simp]
theorem require_none {ε : Type u} {α : Type v} :
    (require none : Except (Stop ε) α) = .error .fault := rfl

/-- What is required results in a value exactly when there is one. -/
theorem require_eq_ok_iff {ε : Type u} {α : Type v} {value : Option α} {result : α} :
    (require value : Except (Stop ε) α) = .ok result ↔ value = some result := by
  cases value <;> simp

/-- Restating an error does not change a value. -/
theorem restate_eq_ok_iff {ε : Type u} {δ : Type v} {α : Type w} {describe : ε -> δ}
    {result : Except (Stop ε) α} {value : α} :
    restate describe result = .ok value ↔ result = .ok value := by
  rcases result with (_ | reason) | value <;> simp [restate, report]

/-- A restated error comes from an error. -/
theorem restate_eq_error_iff {ε : Type u} {δ : Type v} {α : Type w} {describe : ε -> δ}
    {result : Except (Stop ε) α} {restated : δ} :
    restate describe result = .error (.error restated) ↔
      ∃ reason, result = .error (.error reason) ∧ describe reason = restated := by
  rcases result with (_ | reason) | value <;> simp [restate, report]

end Stop

/-- A computation in two parts results in what the second part does with the result of
the first. -/
theorem bind_eq_ok_iff {ε : Type u} {α β : Type v} {first : Except ε α}
    {second : α -> Except ε β} {value : β} :
    first >>= second = .ok value ↔ ∃ middle, first = .ok middle ∧ second middle = .ok value := by
  cases first <;> simp [bind, Except.bind]

/-- Restating the error of a computation does not change a value. -/
theorem mapError_eq_ok_iff {ε : Type u} {δ : Type v} {α : Type w} {describe : ε -> δ}
    {result : Except ε α} {value : α} :
    result.mapError describe = .ok value ↔ result = .ok value := by
  cases result with
  | error reason => exact ⟨nofun, nofun⟩
  | ok result =>
      constructor
      · intro equal
        obtain rfl := Except.ok.inj equal
        rfl
      · intro equal
        obtain rfl := Except.ok.inj equal
        rfl

/-- A restated error comes from an error. -/
theorem mapError_eq_error_iff {ε : Type u} {δ : Type v} {α : Type w} {describe : ε -> δ}
    {result : Except ε α} {restated : δ} :
    result.mapError describe = .error restated ↔
      ∃ reason, result = .error reason ∧ describe reason = restated := by
  cases result with
  | error reason =>
      constructor
      · intro equal
        exact ⟨reason, rfl, Except.error.inj equal⟩
      · rintro ⟨other, same, rfl⟩
        obtain rfl := Except.error.inj same
        rfl
  | ok value => exact ⟨nofun, nofun⟩

/-- A transformed result comes from a result. -/
theorem exists_of_map_eq_ok {ε : Type u} {α : Type v} {β : Type v} {transform : α -> β}
    {result : Except ε α} {value : β} (transformed : result.map transform = .ok value) :
    ∃ before, result = .ok before ∧ transform before = value := by
  cases result with
  | error reason => cases transformed
  | ok before => exact ⟨before, rfl, Except.ok.inj transformed⟩

end CardShuffle
