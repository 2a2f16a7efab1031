import PlanarDynamics.Proofs.Scalar.Sizes

/-!
# Boxes around points

The box around a list of points is tight: on each axis it reaches from the least to the greatest of
the coordinates that are numbers, and an end is undefined only when all coordinates are
(`Box.Tight`). A tight box is what merging leaves, in whatever order and however often points come
(`Box.Tight.merge`), and the points decide which box is tight around them, up to the sign of a zero
(`Box.Tight.alike`). So the order of the points has no influence.

The two ends of an axis are treated as one: the lesser and the greater of two values are their
`Scalar.bound` in one order and in the opposite one, and all that is asked of an order is
`Scalar.Directed`.
-/

set_option autoImplicit false

namespace PlanarDynamics

/-! ## Ends of rows of values -/

namespace Scalar

variable {α : Type} [Scalar α]

/-- An order of the numbers in one direction or the other. -/
structure Directed (less : α → α → Prop) : Prop where
  asymm {u v : α} : less u v → ¬ less v u
  /-- Only numbers come before or after anything. -/
  number {u v : α} : less u v → isNaN u = false ∧ isNaN v = false
  /-- A number comes after the first or before the second of two others. -/
  or {u v w : α} : less u v → isNaN w = false → less u w ∨ less w v
  level {u v : α} : isNaN u = false → isNaN v = false → ¬ less u v → ¬ less v u → Alike u v

theorem directed_lt [SymmetricScalar α] : Directed fun u v : α => u < v where
  asymm := OrderedScalar.lt_asymm
  number := OrderedScalar.isNumber_of_lt
  or := OrderedScalar.lt_or_lt
  level := SymmetricScalar.alike_of_not_lt

theorem directed_gt [SymmetricScalar α] : Directed fun u v : α => v < u where
  asymm := OrderedScalar.lt_asymm
  number above := (OrderedScalar.isNumber_of_lt above).symm
  or above number := (OrderedScalar.lt_or_lt above number).symm
  level number number' notAbove notBelow :=
    SymmetricScalar.alike_of_not_lt number number' notBelow notAbove

variable (less : α → α → Prop)

/-- The first of two values in an order. A value that is no number gives way to the other one. -/
def bound [DecidableRel less] (a b : α) : α := if less b a ∨ isNaN a then b else a

/-- The value is the first one of the numbers among the others, or there are none. -/
structure EndOf (r : α) (values : List α) : Prop where
  mem : r ∈ values
  /-- It is undefined only when all values are. -/
  number : isNaN r = true → ∀ c ∈ values, isNaN c = true
  first : ∀ c ∈ values, ¬ less c r

variable {less} {r s : α} {cs ds : List α}

theorem EndOf.congr (here : EndOf less r cs) (same : ∀ c, c ∈ cs ↔ c ∈ ds) : EndOf less r ds where
  mem := (same r).mp here.mem
  number nan c member := here.number nan c ((same c).mpr member)
  first c member := here.first c ((same c).mpr member)

variable (directed : Directed less)

include directed

theorem endOf_singleton (c : α) : EndOf less c [c] where
  mem := List.mem_singleton_self c
  number nan := by simpa using nan
  first := by simpa using fun before : less c c => directed.asymm before before

/-- Where a number comes before anything, the end is a number. -/
theorem EndOf.isNumber (here : EndOf less r cs) {c d : α} (member : c ∈ cs) (before : less c d) :
    isNaN r = false := by
  rw [Bool.eq_false_iff]
  intro nan
  have number := (directed.number before).1
  simp [here.number nan c member] at number

/-- The end of two rows is the first of their ends. -/
theorem EndOf.append [DecidableRel less] (here : EndOf less r cs) (there : EndOf less s ds) :
    EndOf less (bound less r s) (cs ++ ds) := by
  unfold bound
  split
  case isTrue ahead =>
      refine ⟨List.mem_append_right cs there.mem, fun nan c member => ?_, fun c member before => ?_⟩
      · rcases List.mem_append.mp member with member | member
        · rcases ahead with ahead | nan'
          · simp [(directed.number ahead).1] at nan
          · exact here.number nan' c member
        · exact there.number nan c member
      · rcases List.mem_append.mp member with member | member
        · have number := here.isNumber directed member before
          have ahead : less s r := ahead.resolve_right (by simp [number])
          rcases directed.or before number with before | behind
          · exact here.first c member before
          · exact directed.asymm ahead behind
        · exact there.first c member before
  case isFalse behind =>
      obtain ⟨notAhead, number⟩ := not_or.mp behind
      refine ⟨List.mem_append_left ds here.mem, fun nan => absurd nan number,
        fun c member before => ?_⟩
      rcases List.mem_append.mp member with member | member
      · exact here.first c member before
      · rcases directed.or before (there.isNumber directed member before) with before | ahead
        · exact there.first c member before
        · exact notAhead ahead

/-- Values that are the end of the same numbers are alike. -/
theorem EndOf.alike (here : EndOf less r cs) (there : EndOf less s ds)
    (same : ∀ c, c ∈ cs ↔ c ∈ ds) : Alike r s := by
  have memR : r ∈ ds := (same r).mp here.mem
  have memS : s ∈ cs := (same s).mpr there.mem
  cases nanR : isNaN r with
  | true => exact Or.inr ⟨nanR, here.number nanR s memS⟩
  | false =>
      cases nanS : isNaN s with
      | true => simp [there.number nanS r memR] at nanR
      | false => exact directed.level nanR nanS (there.first r memR) (here.first s memS)

/-- A value of the row does not displace its end. -/
theorem EndOf.bound_left [DecidableRel less] (here : EndOf less r cs) (member : s ∈ cs) :
    EndOf less (bound less r s) cs :=
  (here.append directed (endOf_singleton directed s)).congr fun c => by
    simpa using fun same : c = s => same ▸ member

theorem EndOf.bound_right [DecidableRel less] (here : EndOf less r cs) (member : s ∈ cs) :
    EndOf less (bound less s r) cs :=
  ((endOf_singleton directed s).append directed here).congr fun c => by
    simpa using fun same : c = s => same ▸ member

end Scalar

/-! ## Tight boxes -/

/-- Both coordinates are numbers. -/
structure Vector2.IsNumber {α : Type} [Scalar α] (p : Vector2 α) : Prop where
  x : Scalar.isNaN p.x = false
  y : Scalar.isNaN p.y = false

namespace Box

variable {α : Type} [Scalar α]

/-- The box of one point. -/
def point (p : Vector2 α) : Box α := spanning p p

/-- The points taken in one by one. -/
def mergePoints (box : Box α) (points : List (Vector2 α)) : Box α :=
  points.foldl (fun box p => box.merge (point p)) box

/-- On each axis the box reaches from the least to the greatest of the coordinates that are
numbers. -/
structure Tight (box : Box α) (points : List (Vector2 α)) : Prop where
  left : Scalar.EndOf (fun u v => u < v) box.lo.x (points.map Vector2.x)
  bottom : Scalar.EndOf (fun u v => u < v) box.lo.y (points.map Vector2.y)
  right : Scalar.EndOf (fun u v => v < u) box.hi.x (points.map Vector2.x)
  top : Scalar.EndOf (fun u v => v < u) box.hi.y (points.map Vector2.y)

/-- Two boxes have corners that are alike. -/
structure Alike (a b : Box α) : Prop where
  lo : a.lo.Alike b.lo
  hi : a.hi.Alike b.hi

theorem point_eq (p : Vector2 α) : point p = ⟨p, p⟩ := by
  simp [point, spanning, Vector2.lower, Vector2.upper, Scalar.lower, Scalar.upper]

/-- Points are taken in by moving the corners apart. -/
theorem mergePoints_eq (box : Box α) (points : List (Vector2 α)) :
    box.mergePoints points =
      ⟨points.foldl Vector2.lower box.lo, points.foldl Vector2.upper box.hi⟩ := by
  induction points generalizing box with
  | nil => rfl
  | cons p rest ih =>
      have here : box.merge (point p) = ⟨box.lo.lower p, box.hi.upper p⟩ := by
        rw [point_eq, merge]
      rw [mergePoints, List.foldl_cons, here]
      exact ih _

/-- The corners of the box around points are put in order once more. -/
theorem around?_cons (p : Vector2 α) (rest : List (Vector2 α)) :
    around? (p :: rest) =
      some (spanning ((point p).mergePoints rest).lo ((point p).mergePoints rest).hi) := by
  rw [mergePoints_eq, point_eq]
  rfl

variable [SymmetricScalar α] {a b : Box α} {points others : List (Vector2 α)}

theorem tight_point (p : Vector2 α) : (point p).Tight [p] := by
  rw [point_eq]
  exact ⟨Scalar.endOf_singleton Scalar.directed_lt _, Scalar.endOf_singleton Scalar.directed_lt _,
    Scalar.endOf_singleton Scalar.directed_gt _, Scalar.endOf_singleton Scalar.directed_gt _⟩

/-- Merging tight boxes gives the tight box of all their points. -/
theorem Tight.merge (here : a.Tight points) (there : b.Tight others) :
    (a.merge b).Tight (points ++ others) := by
  constructor <;> rw [List.map_append]
  case left => exact here.left.append Scalar.directed_lt there.left
  case bottom => exact here.bottom.append Scalar.directed_lt there.bottom
  case right => exact here.right.append Scalar.directed_gt there.right
  case top => exact here.top.append Scalar.directed_gt there.top

theorem Tight.mergePoints (here : a.Tight points) (others : List (Vector2 α)) :
    (a.mergePoints others).Tight (points ++ others) := by
  induction others generalizing a points with
  | nil => rwa [List.append_nil]
  | cons p rest ih =>
      rw [List.append_cons]
      exact ih (here.merge (tight_point p))

/-- Putting the corners of a tight box in order leaves it tight. -/
theorem Tight.spanning (here : a.Tight points) : (spanning a.lo a.hi).Tight points where
  left := here.left.bound_left Scalar.directed_lt here.right.mem
  bottom := here.bottom.bound_left Scalar.directed_lt here.top.mem
  right := here.right.bound_right Scalar.directed_gt here.left.mem
  top := here.top.bound_right Scalar.directed_gt here.bottom.mem

/-- Points decide which box is tight around them, and their order does not matter. -/
theorem Tight.alike (here : a.Tight points) (there : b.Tight others) (perm : points.Perm others) :
    a.Alike b := by
  have xs : ∀ c, c ∈ points.map Vector2.x ↔ c ∈ others.map Vector2.x :=
    fun _ => (perm.map _).mem_iff
  have ys : ∀ c, c ∈ points.map Vector2.y ↔ c ∈ others.map Vector2.y :=
    fun _ => (perm.map _).mem_iff
  exact
    ⟨⟨here.left.alike Scalar.directed_lt there.left xs,
        here.bottom.alike Scalar.directed_lt there.bottom ys⟩,
      ⟨here.right.alike Scalar.directed_gt there.right xs,
        here.top.alike Scalar.directed_gt there.top ys⟩⟩

/-- The box around points is tight. -/
theorem exists_tight_around (filled : points ≠ []) :
    ∃ box, around? points = some box ∧ box.Tight points := by
  cases points with
  | nil => exact absurd rfl filled
  | cons p rest =>
      exact ⟨_, around?_cons p rest, ((tight_point p).mergePoints rest).spanning⟩

/-! ## What tight boxes contain -/

theorem contains_point_iff {α : Type} [Scalar α] {box : Box α} {p : Vector2 α} :
    box.contains (point p) = true ↔
      box.lo.x ≤ p.x ∧ box.lo.y ≤ p.y ∧ p.x ≤ box.hi.x ∧ p.y ≤ box.hi.y := by
  simp [contains, point_eq, and_assoc]

omit [SymmetricScalar α] in
/-- A box that contains the points contains the box that is tight around them. -/
theorem Tight.contained (here : a.Tight points) (other : Box α)
    (contains : ∀ p ∈ points, other.contains (point p) = true) : other.contains a = true := by
  obtain ⟨left, memLeft, sameLeft⟩ := List.mem_map.mp here.left.mem
  obtain ⟨bottom, memBottom, sameBottom⟩ := List.mem_map.mp here.bottom.mem
  obtain ⟨right, memRight, sameRight⟩ := List.mem_map.mp here.right.mem
  obtain ⟨top, memTop, sameTop⟩ := List.mem_map.mp here.top.mem
  have reachesLeft := (contains_point_iff.mp (contains left memLeft)).1
  have reachesBottom := (contains_point_iff.mp (contains bottom memBottom)).2.1
  have reachesRight := (contains_point_iff.mp (contains right memRight)).2.2.1
  have reachesTop := (contains_point_iff.mp (contains top memTop)).2.2.2
  rw [sameLeft] at reachesLeft
  rw [sameBottom] at reachesBottom
  rw [sameRight] at reachesRight
  rw [sameTop] at reachesTop
  simp [Box.contains, reachesLeft, reachesBottom, reachesRight, reachesTop]

/-- Without undefined coordinates a tight box contains its points. -/
theorem Tight.contains_point {box : Box Float32} {points : List (Vector2 Float32)}
    (here : box.Tight points) (numbers : ∀ p ∈ points, p.IsNumber) {p : Vector2 Float32}
    (member : p ∈ points) : box.contains (point p) = true := by
  have numberX : ∀ c ∈ points.map Vector2.x, Scalar.isNaN c = false := by
    simpa using fun p member => (numbers p member).x
  have numberY : ∀ c ∈ points.map Vector2.y, Scalar.isNaN c = false := by
    simpa using fun p member => (numbers p member).y
  have memX : p.x ∈ points.map Vector2.x := List.mem_map_of_mem member
  have memY : p.y ∈ points.map Vector2.y := List.mem_map_of_mem member
  refine contains_point_iff.mpr ⟨?left, ?bottom, ?right, ?top⟩
  case left =>
      exact Binary32.le_of_not_lt (numberX _ here.left.mem) (numberX _ memX)
        (here.left.first _ memX)
  case bottom =>
      exact Binary32.le_of_not_lt (numberY _ here.bottom.mem) (numberY _ memY)
        (here.bottom.first _ memY)
  case right =>
      exact Binary32.le_of_not_lt (numberX _ memX) (numberX _ here.right.mem)
        (here.right.first _ memX)
  case top =>
      exact Binary32.le_of_not_lt (numberY _ memY) (numberY _ here.top.mem)
        (here.top.first _ memY)

/-- **The box around points is tight, and their order does not matter.** On each axis it reaches
from the least to the greatest of the coordinates that are numbers. Up to the sign of a zero it is
the box around the points in any other order, and what merging the points one by one in any order
leaves. When no coordinate is undefined it contains every point, and it lies in every box that
does. -/
theorem tight_around (points : List (Vector2 Float32)) (filled : points ≠ []) :
    ∃ box, around? points = some box ∧ box.Tight points ∧
      (∀ others, others.Perm points → ∃ same, around? others = some same ∧ same.Alike box) ∧
      (∀ p rest, (p :: rest).Perm points → ((point p).mergePoints rest).Alike box) ∧
      ((∀ p ∈ points, p.IsNumber) → (∀ p ∈ points, box.contains (point p) = true) ∧
        ∀ other : Box Float32, (∀ p ∈ points, other.contains (point p) = true) →
          other.contains box = true) := by
  obtain ⟨box, around, tight⟩ := exists_tight_around filled
  refine ⟨box, around, tight, fun others perm => ?_, fun p rest perm => ?_, fun numbers => ?_⟩
  · have filled' : others ≠ [] := fun empty => filled (empty ▸ perm.symm).eq_nil
    obtain ⟨same, around', tight'⟩ := exists_tight_around filled'
    exact ⟨same, around', tight'.alike tight perm⟩
  · exact ((tight_point p).mergePoints rest).alike tight perm
  · exact ⟨fun p member => tight.contains_point numbers member, tight.contained⟩

/-- Three points, of which two are level, at zeros of either sign. -/
def levelPoints : List (Vector2 Float32) := [⟨-3, 5⟩, ⟨0, -0.0⟩, ⟨1.5, 0⟩]

/-- The order of the points decides which of the zeros is kept, and nothing else. -/
theorem tight_around_level :
    let box : Box Float32 := ⟨⟨-3, -0.0⟩, ⟨1.5, 5⟩⟩
    let turned : Box Float32 := ⟨⟨-3, 0⟩, ⟨1.5, 5⟩⟩
    levelPoints ≠ [] ∧ around? levelPoints = some box ∧ box.Tight levelPoints ∧
      around? levelPoints.reverse = some turned ∧ turned ≠ box ∧ turned.Alike box ∧
      ((point ⟨1.5, 0⟩).mergePoints [⟨-3, 5⟩, ⟨0, -0.0⟩]).Alike box ∧
      (∀ p ∈ levelPoints, p.IsNumber) ∧ (∀ p ∈ levelPoints, box.contains (point p) = true) ∧
      (turned.contains box = true) := by
  intro box turned
  have filled : levelPoints ≠ [] := by simp [levelPoints]
  have around : around? levelPoints = some box := by decide
  have around' : around? levelPoints.reverse = some turned := by decide
  have numbers : ∀ p ∈ levelPoints, p.IsNumber := by
    simp only [levelPoints, List.forall_mem_cons]
    exact ⟨⟨rfl, rfl⟩, ⟨rfl, rfl⟩, ⟨rfl, rfl⟩, nofun⟩
  obtain ⟨_, found, tight, orders, merges, inside⟩ := tight_around levelPoints filled
  obtain rfl := Option.some.inj (found.symm.trans around)
  obtain ⟨_, found', alike⟩ := orders levelPoints.reverse (List.reverse_perm _)
  obtain rfl := Option.some.inj (found'.symm.trans around')
  have merged := merges ⟨1.5, 0⟩ [⟨-3, 5⟩, ⟨0, -0.0⟩]
    (List.perm_append_singleton _ _).symm
  obtain ⟨contained, contains⟩ := inside numbers
  exact ⟨filled, around, tight, around', by decide, alike, merged, numbers, contained,
    contains turned (by decide)⟩

/-- An undefined coordinate gives way, also at the front. -/
example : around? [⟨0 / 0, 1⟩, ⟨2, 0 / 0⟩, ⟨4, 3⟩] = some (⟨⟨2, 1⟩, ⟨4, 3⟩⟩ : Box Float32) := by
  decide

end Box

end PlanarDynamics
