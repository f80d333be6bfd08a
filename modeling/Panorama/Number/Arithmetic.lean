import Panorama.Number.Exact

/-!
# The arithmetic of formulas

The sampling filters and the exposure solver are formulas over some numbers. `Arithmetic` lists
what they need of these numbers, so that the same definition runs over machine floats and can be
read over exact ones.
-/

namespace Panorama

/-- Numbers with the four operations, an order, and integers among them. -/
class Arithmetic (α : Type) extends Add α, Sub α, Mul α, Div α, Neg α where
  /-- The number of an integer. -/
  ofInt : Int → α
  /-- The largest integer that is not above a number. -/
  floor : α → Int
  /-- Whether the first number is strictly below the second. -/
  less : α → α → Bool
  /-- Whether two numbers are equal. -/
  same : α → α → Bool

namespace Arithmetic

instance : Arithmetic Float32 where
  ofInt := Float32.ofInt
  floor value := Number.floor value.toModel.unpack
  less left right := left < right
  same left right := left == right

instance : Arithmetic Float where
  ofInt := Float.ofInt
  floor value := Number.floor value.toModel.unpack
  less left right := left < right
  same left right := left == right

variable {α : Type} [Arithmetic α]

/-- Nothing. -/
def zero : α := ofInt 0

/-- One. -/
def one : α := ofInt 1

/-- Distance from zero. -/
def abs (value : α) : α :=
  if less value zero then -value else value

/-- Sum of the numbers from left to right. -/
def sum (values : List α) : α :=
  values.foldl (· + ·) zero

end Arithmetic

end Panorama
