import PlanarDynamics.Collider
import PlanarDynamics.Body
import PlanarDynamics.Scene.Tree
import PlanarDynamics.World.Settings

/-!
# Written forms of scene values

The written form of every value a scene is made of. Geometry has to be written in full, while
materials and settings may leave out fields, which then have the value they have in
`Material.standard`, `TreeSettings.standard`, `MemorySettings.standard` and
`WorldSettings.standard`. A shape is written under the name of its kind, and a memory strategy
carries its name among its fields. Nothing is checked beyond the form: a written shape may have
any measurements.
-/

set_option autoImplicit false

namespace PlanarDynamics

/-! ## The plane -/

instance : TreeForm (Vector2 Float32) where
  toTree v := .record [("x", toTree v.x), ("y", toTree v.y)]
  ofTree? t := do
    let f ← t.fields? ["x", "y"]
    return ⟨← Tree.need f "x", ← Tree.need f "y"⟩

instance : TreeForm (Box Float32) where
  toTree b := .record [("min", toTree b.lo), ("max", toTree b.hi)]
  ofTree? t := do
    let f ← t.fields? ["min", "max"]
    return ⟨← Tree.need f "min", ← Tree.need f "max"⟩

/-! ## Geometry -/

instance : TreeForm (Circle Float32) where
  toTree c := .record [("center", toTree c.center), ("radius", toTree c.radius)]
  ofTree? t := do
    let f ← t.fields? ["center", "radius"]
    return ⟨← Tree.need f "center", ← Tree.need f "radius"⟩

instance : TreeForm (Rectangle Float32) where
  toTree r := .record [("center", toTree r.center), ("half_size", toTree r.halfSize)]
  ofTree? t := do
    let f ← t.fields? ["center", "half_size"]
    return ⟨← Tree.need f "center", ← Tree.need f "half_size"⟩

instance : TreeForm (Polygon Float32) where
  toTree p := .record [("vertices", toTree p.vertices)]
  ofTree? t := do
    let f ← t.fields? ["vertices"]
    return ⟨← Tree.need f "vertices"⟩

instance : TreeForm (Shape Float32) where
  toTree
    | .empty => .text "None"
    | .circle c => .record [("Circle", toTree c)]
    | .rectangle r => .record [("Rectangle", toTree r)]
    | .polygon p => .record [("Polygon", toTree p)]
  ofTree?
    | .record [("Circle", t)] => .circle <$> ofTree? t
    | .record [("Rectangle", t)] => .rectangle <$> ofTree? t
    | .record [("Polygon", t)] => .polygon <$> ofTree? t
    | t => t.oneOf? [("None", .empty)]

instance : TreeForm ShapeKind where
  toTree
    | .empty => .text "None"
    | .circle => .text "Circle"
    | .rectangle => .text "Rectangle"
    | .polygon => .text "Polygon"
  ofTree? :=
    Tree.oneOf? [("None", .empty), ("Circle", .circle), ("Rectangle", .rectangle),
      ("Polygon", .polygon)]

/-! ## Entities -/

instance : TreeForm BodyKind where
  toTree
    | .fixed => .text "Static"
    | .moving => .text "Dynamic"
  ofTree? := Tree.oneOf? [("Static", .fixed), ("Dynamic", .moving)]

instance : TreeForm (Material Float32) where
  toTree m := .record [("restitution", toTree m.restitution), ("friction", toTree m.friction)]
  ofTree? t := do
    let f ← t.fields? ["restitution", "friction"]
    let other : Material Float32 := .standard
    return ⟨← Tree.needOr f "restitution" other.restitution,
      ← Tree.needOr f "friction" other.friction⟩

/-! ## Settings -/

instance : TreeForm Pairing where
  toTree
    | .sameNode => .text "SameNode"
    | .includeAncestors => .text "IncludeAncestors"
  ofTree? := Tree.oneOf? [("SameNode", .sameNode), ("IncludeAncestors", .includeAncestors)]

instance : TreeForm TreeSettings where
  toTree s := .record [("max_depth", toTree s.maxDepth), ("node_capacity", toTree s.nodeCapacity),
    ("pairing", toTree s.pairing)]
  ofTree? t := do
    let f ← t.fields? ["max_depth", "node_capacity", "pairing"]
    let other := TreeSettings.standard
    return ⟨← Tree.needOr f "max_depth" other.maxDepth,
      ← Tree.needOr f "node_capacity" other.nodeCapacity, ← Tree.needOr f "pairing" other.pairing⟩

instance : TreeForm MemoryStrategy where
  toTree
    | .heap => .record [("type", .text "heap")]
    | .linear capacity => .record [("type", .text "linear"), ("capacity_bytes", toTree capacity)]
  ofTree?
    | .record fields =>
      match fields.lookup "type" with
      | some (.text "heap") => some .heap
      | some (.text "linear") => .linear <$> Tree.need fields "capacity_bytes"
      | _ => none
    | .list [.text "heap"] => some .heap
    | .list [.text "linear", capacity] => .linear <$> ofTree? capacity
    | _ => none

instance : TreeForm MemorySettings where
  toTree s := .record [("strategy", toTree s.strategy), ("instrumented", toTree s.metered)]
  ofTree? t := do
    let f ← t.fields? ["strategy", "instrumented"]
    let other := MemorySettings.standard
    return ⟨← Tree.needOr f "strategy" other.strategy, ← Tree.needOr f "instrumented" other.metered⟩

instance : TreeForm (WorldSettings Float32) where
  toTree s := .record
    [("gravity", toTree s.gravity),
      ("preallocated_bodies", toTree s.bodySlots),
      ("preallocated_colliders", toTree s.colliderSlots),
      ("growth_factor", toTree s.growth),
      ("world_bounds", toTree s.bounds),
      ("quad_tree", toTree s.tree),
      ("positional_correction_percent", toTree s.percent),
      ("positional_correction_slop", toTree s.slop),
      ("allocator", toTree s.memory)]
  ofTree? t := do
    let f ← t.fields? ["gravity", "preallocated_bodies", "preallocated_colliders", "growth_factor",
      "world_bounds", "quad_tree", "positional_correction_percent", "positional_correction_slop",
      "allocator"]
    let other : WorldSettings Float32 := .standard
    return {
      gravity := ← Tree.needOr f "gravity" other.gravity
      bodySlots := ← Tree.needOr f "preallocated_bodies" other.bodySlots
      colliderSlots := ← Tree.needOr f "preallocated_colliders" other.colliderSlots
      growth := ← Tree.needOr f "growth_factor" other.growth
      bounds := ← Tree.needOr f "world_bounds" other.bounds
      tree := ← Tree.needOr f "quad_tree" other.tree
      percent := ← Tree.needOr f "positional_correction_percent" other.percent
      slop := ← Tree.needOr f "positional_correction_slop" other.slop
      memory := ← Tree.needOr f "allocator" other.memory }

end PlanarDynamics
