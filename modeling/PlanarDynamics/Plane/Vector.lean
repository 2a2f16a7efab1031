import PlanarDynamics.Scalar.Basic

/-!
# Vectors of the plane

A `Vector2` is a pair of scalars. Besides the linear operations it has the two products of
the plane, the length, and component-wise bounds. A vector shorter than `negligibleLength` has
no usable direction: `normalizeOr` then answers a fallback (`normalizeOr_of_short`).
-/

set_option autoImplicit false

namespace PlanarDynamics

/-- A point or displacement of the plane. -/
@[ext]
structure Vector2 (α : Type) where
  x : α
  y : α
deriving DecidableEq, Inhabited

/-- Lengths below this are treated as zero when a direction is wanted. -/
def negligibleLength {α : Type} [Scalar α] : α := 1e-6

namespace Vector2

variable {α : Type} [Scalar α]

/-- Both components the same. -/
def splat (v : α) : Vector2 α := ⟨v, v⟩

instance : Zero (Vector2 α) := ⟨⟨0, 0⟩⟩

/-- The unit vector along the second axis. -/
def up : Vector2 α := ⟨0, 1⟩

instance : Add (Vector2 α) := ⟨fun a b => ⟨a.x + b.x, a.y + b.y⟩⟩

instance : Sub (Vector2 α) := ⟨fun a b => ⟨a.x - b.x, a.y - b.y⟩⟩

instance : Neg (Vector2 α) := ⟨fun a => ⟨-a.x, -a.y⟩⟩

instance : HMul (Vector2 α) α (Vector2 α) := ⟨fun a s => ⟨a.x * s, a.y * s⟩⟩

instance : HDiv (Vector2 α) α (Vector2 α) := ⟨fun a s => ⟨a.x / s, a.y / s⟩⟩

/-- Two vectors are equal when their components compare equal. -/
instance : BEq (Vector2 α) := ⟨fun a b => a.x == b.x && a.y == b.y⟩

/-- The inner product. -/
def dot (a b : Vector2 α) : α := a.x * b.x + a.y * b.y

/-- The signed area of the parallelogram spanned by two vectors. -/
def cross (a b : Vector2 α) : α := a.x * b.y - a.y * b.x

/-- The vector turned a quarter, counter-clockwise. -/
def perpendicular (a : Vector2 α) : Vector2 α := ⟨-a.y, a.x⟩

/-- The square of the length. -/
def lengthSquared (a : Vector2 α) : α := a.dot a

/-- The length. -/
def length (a : Vector2 α) : α := Scalar.sqrt a.lengthSquared

/-- The unit vector of the same direction, or the fallback when the vector is too short to
have one. -/
def normalizeOr (a fallback : Vector2 α) : Vector2 α :=
  if a.length < negligibleLength then fallback else a * (1 / a.length)

/-- The unit vector of the same direction, zero for a vector that is too short. -/
def normalize (a : Vector2 α) : Vector2 α := a.normalizeOr 0

/-- The square of the distance between two points. -/
def distanceSquared (a b : Vector2 α) : α := (a - b).lengthSquared

/-- The distance between two points. -/
def distance (a b : Vector2 α) : α := (a - b).length

/-- The lesser component on each axis. -/
def lower (a b : Vector2 α) : Vector2 α := ⟨Scalar.lower a.x b.x, Scalar.lower a.y b.y⟩

/-- The greater component on each axis. -/
def upper (a b : Vector2 α) : Vector2 α := ⟨Scalar.upper a.x b.x, Scalar.upper a.y b.y⟩

/-- Each component raised to the lower bound, then cut to the upper one. -/
def clamp (a lo hi : Vector2 α) : Vector2 α := (a.upper lo).lower hi

/-- Both components without their signs. -/
def abs (a : Vector2 α) : Vector2 α := ⟨Scalar.abs a.x, Scalar.abs a.y⟩

/-- Whether both components are ordinary numbers. -/
def isFinite (a : Vector2 α) : Bool := Scalar.isFinite a.x && Scalar.isFinite a.y

@[simp] theorem zero_x : (0 : Vector2 α).x = 0 := rfl

@[simp] theorem zero_y : (0 : Vector2 α).y = 0 := rfl

@[simp] theorem add_x (a b : Vector2 α) : (a + b).x = a.x + b.x := rfl

@[simp] theorem add_y (a b : Vector2 α) : (a + b).y = a.y + b.y := rfl

@[simp] theorem sub_x (a b : Vector2 α) : (a - b).x = a.x - b.x := rfl

@[simp] theorem sub_y (a b : Vector2 α) : (a - b).y = a.y - b.y := rfl

@[simp] theorem neg_x (a : Vector2 α) : (-a).x = -a.x := rfl

@[simp] theorem neg_y (a : Vector2 α) : (-a).y = -a.y := rfl

@[simp] theorem mul_x (a : Vector2 α) (s : α) : (a * s).x = a.x * s := rfl

@[simp] theorem mul_y (a : Vector2 α) (s : α) : (a * s).y = a.y * s := rfl

@[simp] theorem div_x (a : Vector2 α) (s : α) : (a / s).x = a.x / s := rfl

@[simp] theorem div_y (a : Vector2 α) (s : α) : (a / s).y = a.y / s := rfl

theorem normalizeOr_of_short {a : Vector2 α} (h : a.length < negligibleLength)
    (fallback : Vector2 α) : a.normalizeOr fallback = fallback :=
  if_pos h

end Vector2

end PlanarDynamics
