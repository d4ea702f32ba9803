import Mathlib.Logic.Basic

/-!
# Errors and runtime panics

The router reports configuration errors through its package's `newError`, wraps a cause with
`Base` and lowers a severity with `AtWarning`. The errors package itself is not part of the
modelled source, so an error is kept as the builder calls that made it. Slice reads past the
end panic in Go; every index the model reads goes through `sliceGet`, so a result `.ok` means
every read was in bounds.
-/

namespace V2Ray

/-- Modelled from the spec: the errors package (`New`, `Base`, `AtWarning`) is not in the
source, and a configuration error only has to be descriptive and attributable. An error is
recorded as the builder calls that made it. -/
inductive Error where
  | message (text : String)
  | caused (err inner : Error)
  | warning (err : Error)
  deriving DecidableEq, Repr

/-- The package-local `newError(msg)`. -/
def newError (message : String) : Error := .message message

/-- The method `err.Base(inner)`: `err` caused by `inner`. -/
def Error.base (err inner : Error) : Error := .caused err inner

/-- The method `err.AtWarning()`: `err` lowered to a warning. -/
def Error.atWarning (err : Error) : Error := .warning err

/-- A Go runtime panic of the modelled code. -/
inductive Panic where
  | indexOutOfRange (index length : Nat)
  deriving DecidableEq, Repr

/-- Reading `s[k]` of a Go slice: a read at or past `len(s)` panics. -/
def sliceGet {α : Type} (s : List α) (k : Nat) : Except Panic α :=
  match s[k]? with
  | some a => .ok a
  | none => .error (.indexOutOfRange k s.length)

instance Except.instDecidableEq {ε α : Type} [DecidableEq ε] [DecidableEq α] : DecidableEq (Except ε α)
  | .ok a, .ok b => decidable_of_iff (a = b) (by simp)
  | .error e, .error e' => decidable_of_iff (e = e') (by simp)
  | .ok _, .error _ => isFalse nofun
  | .error _, .ok _ => isFalse nofun

section Slices

variable {α : Type} {s : List α} {k : Nat}

@[simp] theorem sliceGet_of_lt (h : k < s.length) : sliceGet s k = .ok s[k] := by
  simp [sliceGet, List.getElem?_eq_getElem h]

theorem sliceGet_ok_iff {a : α} : sliceGet s k = .ok a ↔ s[k]? = some a := by
  cases h : s[k]? <;> simp [sliceGet, h]

/-- A read that does not panic was in bounds. -/
theorem lt_length_of_sliceGet_ok {a : α} (h : sliceGet s k = .ok a) : k < s.length := by
  rw [sliceGet_ok_iff] at h
  exact (List.getElem?_eq_some_iff.1 h).1

end Slices

section Except

variable {ε α β : Type}

/-- A bind that succeeds went through a success of its first step. -/
theorem except_bind_eq_ok {x : Except ε α} {f : α → Except ε β} {b : β} :
    x >>= f = .ok b ↔ ∃ a, x = .ok a ∧ f a = .ok b := by
  cases x <;> simp [bind, Except.bind]

@[simp] theorem except_ok_bind (a : α) (f : α → Except ε β) : (Except.ok a >>= f) = f a := rfl

@[simp] theorem except_error_bind (e : ε) (f : α → Except ε β) :
    (Except.error e >>= f) = .error e := rfl

end Except

end V2Ray
