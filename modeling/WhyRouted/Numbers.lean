import Mathlib.Algebra.Order.Ring.Nat
import Mathlib.Data.Nat.Cast.Order.Ring
import Mathlib.Order.WithBot

/-! # JavaScript numbers

A JavaScript number is a value of a type `ν` with the operations the code applies to one
(`JsNumber`).  The class assumes no law, so what is proved over an arbitrary `ν` holds of doubles,
`NaN` and infinities included.  Where the code compares numbers, the law it rests on is that of the
language (`JsNumber.Lawful`): `a < b` and `a === b` compare the points the two stand for on the line
of the reals and the infinities, and are false of `NaN`, which stands for none.

Two instances: exact arithmetic, whose numbers are those of an ordered ring, all finite
(`JsNumber.ofOrdered`); and the natural numbers with an infinity and a `NaN` (`Extended`), which has
what exact arithmetic leaves out. -/

namespace WhyRouted

/-- The operations the code applies to numbers. -/
class JsNumber (ν : Type) where
  /-- An integer literal or counter as a number. -/
  ofNat : ℕ → ν
  add : ν → ν → ν
  mul : ν → ν → ν
  /-- `a < b`. -/
  lt : ν → ν → Bool
  /-- `a === b`. -/
  eq : ν → ν → Bool
  /-- `Number.isFinite`. -/
  isFinite : ν → Bool
  /-- What a template literal prints. -/
  text : ν → String
  /-- What `JSON.stringify` prints, which is `null` for what is not finite. -/
  json : ν → String

namespace JsNumber

section operations

variable {ν : Type} [JsNumber ν]

def le (a b : ν) : Bool := lt a b || eq a b

/-- `Number.isNaN`: `NaN` alone is not equal to itself. -/
def isNaN (a : ν) : Bool := !eq a a

end operations

/-! ### Comparison -/

/-- Numbers compare as the points of a line they stand for.  `NaN` stands for none, and is put
below them all. -/
structure Comparison (ν κ : Type) [JsNumber ν] [LinearOrder κ] where
  value : ν → WithBot κ
  lt_iff : ∀ a b, lt a b = true ↔ value a ≠ ⊥ ∧ value a < value b
  eq_iff : ∀ a b, eq a b = true ↔ value a ≠ ⊥ ∧ value a = value b

/-- What the language says of the comparison of numbers, counters among them. -/
structure Lawful (ν κ : Type) [JsNumber ν] [LinearOrder κ] extends Comparison ν κ where
  ofNat_le : ∀ n : ℕ, le (ofNat 0 : ν) (ofNat n) = true

namespace Comparison

variable {ν κ : Type} [JsNumber ν] [LinearOrder κ] (cmp : Comparison ν κ) {a b : ν}

theorem isNaN_iff : isNaN a = true ↔ cmp.value a = ⊥ := by
  have heq := cmp.eq_iff a a
  cases h : eq a a <;> simp_all [isNaN]

theorem isNaN_eq_false_iff : isNaN a = false ↔ cmp.value a ≠ ⊥ := by
  rw [← Bool.not_eq_true, cmp.isNaN_iff]

theorem le_iff : le a b = true ↔ cmp.value a ≠ ⊥ ∧ cmp.value a ≤ cmp.value b := by
  rw [le, Bool.or_eq_true, cmp.lt_iff, cmp.eq_iff, le_iff_lt_or_eq]
  tauto

theorem not_isNaN_of_le (cmp : Comparison ν κ) (h : le a b = true) :
    isNaN a = false ∧ isNaN b = false := by
  obtain ⟨ha, hle⟩ := cmp.le_iff.mp h
  refine ⟨cmp.isNaN_eq_false_iff.mpr ha, cmp.isNaN_eq_false_iff.mpr fun hb => ha ?_⟩
  rw [hb] at hle
  exact le_bot_iff.mp hle

end Comparison

/-! ### Exact arithmetic -/

/-- The numbers of an ordered ring, all finite. -/
instance ofOrdered {ν : Type} [Semiring ν] [LinearOrder ν] [ToString ν] : JsNumber ν where
  ofNat n := (n : ν)
  add a b := a + b
  mul a b := a * b
  lt a b := decide (a < b)
  eq a b := decide (a = b)
  isFinite _ := true
  text a := toString a
  json a := toString a

section exact

variable (ν : Type) [Semiring ν] [LinearOrder ν] [ToString ν]

/-- They compare as themselves. -/
def Comparison.exact : Comparison ν ν where
  value a := a
  lt_iff a b := by simp [lt]
  eq_iff a b := by simp [eq]

/-- And a counter is not negative. -/
def Lawful.exact [IsStrictOrderedRing ν] : Lawful ν ν where
  toComparison := .exact ν
  ofNat_le n := by
    refine (Comparison.exact ν).le_iff.mpr ⟨WithBot.coe_ne_bot, WithBot.coe_le_coe.mpr ?_⟩
    simp [ofNat]

variable {ν}

theorem le_exact {a b : ν} : le a b = true ↔ a ≤ b := by
  rw [(Comparison.exact ν).le_iff]
  simp [Comparison.exact]

theorem isNaN_exact (a : ν) : isNaN a = false := by simp [isNaN, eq]

end exact

end JsNumber

/-! ### Infinity and `NaN` -/

/-- A natural number, infinity or `NaN`. -/
inductive Extended where
  | nat (n : ℕ)
  | infinity
  | nan
deriving DecidableEq, Repr

namespace Extended

/-- `Infinity * 0` is `NaN`. -/
def mul : Extended → Extended → Extended
  | nat m, nat n => nat (m * n)
  | nat m, infinity => if m = 0 then nan else infinity
  | infinity, nat n => if n = 0 then nan else infinity
  | infinity, infinity => infinity
  | nat _, nan => nan
  | infinity, nan => nan
  | nan, _ => nan

def add : Extended → Extended → Extended
  | nat m, nat n => nat (m + n)
  | nat _, infinity => infinity
  | infinity, nat _ => infinity
  | infinity, infinity => infinity
  | nat _, nan => nan
  | infinity, nan => nan
  | nan, _ => nan

def value : Extended → WithBot (WithTop ℕ)
  | nat n => ((n : WithTop ℕ) : WithBot (WithTop ℕ))
  | infinity => ((⊤ : WithTop ℕ) : WithBot (WithTop ℕ))
  | nan => ⊥

def lt : Extended → Extended → Bool
  | nat m, nat n => decide (m < n)
  | nat _, infinity => true
  | nat _, nan => false
  | infinity, _ => false
  | nan, _ => false

def eq : Extended → Extended → Bool
  | nat m, nat n => decide (m = n)
  | infinity, infinity => true
  | _, _ => false

def text : Extended → String
  | nat n => toString n
  | infinity => "Infinity"
  | nan => "NaN"

def json : Extended → String
  | nat n => toString n
  | infinity => "null"
  | nan => "null"

instance : JsNumber Extended where
  ofNat := nat
  add
  mul
  lt
  eq
  isFinite a := match a with
    | nat _ => true
    | infinity => false
    | nan => false
  text
  json

/-- The numbers compare as the language says. -/
def lawful : JsNumber.Lawful Extended (WithTop ℕ) where
  value
  lt_iff a b := by
    cases a <;> cases b <;> simp [JsNumber.lt, lt, value, -WithBot.coe_top]
  eq_iff a b := by
    cases a <;> cases b <;> simp [JsNumber.eq, eq, value, -WithBot.coe_top]
  ofNat_le n := by
    rcases Nat.eq_zero_or_pos n with rfl | hn
    · rfl
    · simp [JsNumber.le, JsNumber.lt, JsNumber.ofNat, lt, hn]

end Extended

end WhyRouted
