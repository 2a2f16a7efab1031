import Mathlib.Data.List.Nodup
import PlanarDynamics.Scene.Forms

/-!
# Written forms that are read back

A value whose measurements are finite is read back from its written form (`ReadsBack`). There is one
lemma for each form a value can take: a number, a list, a record of such values, a shape under the
name of its kind, a strategy that carries its name among its fields.

Settings and materials may be abridged: some of the fields of their written form are left out, the
others come in any order, and there may be fields with other names among them (`Abridges`). Such a
record is read as the value with standard ones in the place of what was left out
(`ReadsAbridged`). The settings of a world are read like this also when the records of the broad
phase and of the memory inside them are abridged themselves (`WorldSettings.reads_abridged`).
-/

set_option autoImplicit false

namespace PlanarDynamics

/-! ## Finite values -/

/-- Both corners are finite. -/
def Box.IsFinite (b : Box Float32) : Prop := b.lo.isFinite ∧ b.hi.isFinite

/-- The measurements of a circle are finite. -/
def Circle.IsFinite (c : Circle Float32) : Prop := c.center.isFinite ∧ c.radius.isFinite

/-- The measurements of a rectangle are finite. -/
def Rectangle.IsFinite (r : Rectangle Float32) : Prop := r.center.isFinite ∧ r.halfSize.isFinite

/-- All vertices of a polygon are finite. -/
def Polygon.IsFinite (p : Polygon Float32) : Prop := ∀ v ∈ p.vertices, v.isFinite

/-- The measurements of a shape are finite. -/
def Shape.IsFinite : Shape Float32 → Prop
  | empty => True
  | circle c => c.IsFinite
  | rectangle r => r.IsFinite
  | polygon p => p.IsFinite

/-- The measurements of a material are finite. -/
def Material.IsFinite (m : Material Float32) : Prop := m.restitution.isFinite ∧ m.friction.isFinite

/-- The measurements among the settings of a world are finite. -/
structure WorldSettings.IsFinite (s : WorldSettings Float32) : Prop where
  gravity : s.gravity.isFinite
  growth : s.growth.isFinite
  bounds : s.bounds.IsFinite
  percent : s.percent.isFinite
  slop : s.slop.isFinite

/-! ## What is read back -/

/-- The written form of a value is read as the value. -/
def ReadsBack {β : Type} [TreeForm β] (v : β) : Prop := ofTree? (toTree v) = some v

theorem readsBack_bool (b : Bool) : ReadsBack b := rfl

theorem readsBack_nat (n : Nat) : ReadsBack n := rfl

theorem readsBack_float {x : Float32} (finite : x.isFinite) : ReadsBack x :=
  congrArg ofTree? (if_pos finite)

theorem readsBack_list {β : Type} [TreeForm β] {items : List β}
    (each : ∀ v ∈ items, ReadsBack v) : ReadsBack items := by
  show (items.map toTree).mapM (ofTree? : Tree → Option β) = some items
  induction items with
  | nil => rfl
  | cons v rest ih =>
      have first : ofTree? (toTree v) = some v := each v List.mem_cons_self
      have others := ih fun u member => each u (List.mem_cons_of_mem v member)
      rw [List.map_cons, List.mapM_cons, first, others]
      rfl

theorem Vector2.readsBack {v : Vector2 Float32} (finite : v.isFinite) : ReadsBack v := by
  rw [Vector2.isFinite, Bool.and_eq_true] at finite
  have x : ofTree? (toTree v.x) = some v.x := readsBack_float finite.1
  have y : ofTree? (toTree v.y) = some v.y := readsBack_float finite.2
  calc ofTree? (toTree v)
      = (do return ⟨← ofTree? (toTree v.x), ← ofTree? (toTree v.y)⟩) := rfl
    _ = some v := by rw [x, y]; rfl

theorem Box.readsBack {b : Box Float32} (finite : b.IsFinite) : ReadsBack b := by
  have lo : ofTree? (toTree b.lo) = some b.lo := Vector2.readsBack finite.1
  have hi : ofTree? (toTree b.hi) = some b.hi := Vector2.readsBack finite.2
  calc ofTree? (toTree b)
      = (do return ⟨← ofTree? (toTree b.lo), ← ofTree? (toTree b.hi)⟩) := rfl
    _ = some b := by rw [lo, hi]; rfl

theorem Circle.readsBack {c : Circle Float32} (finite : c.IsFinite) : ReadsBack c := by
  have center : ofTree? (toTree c.center) = some c.center := Vector2.readsBack finite.1
  have radius : ofTree? (toTree c.radius) = some c.radius := readsBack_float finite.2
  calc ofTree? (toTree c)
      = (do return ⟨← ofTree? (toTree c.center), ← ofTree? (toTree c.radius)⟩) := rfl
    _ = some c := by rw [center, radius]; rfl

theorem Rectangle.readsBack {r : Rectangle Float32} (finite : r.IsFinite) : ReadsBack r := by
  have center : ofTree? (toTree r.center) = some r.center := Vector2.readsBack finite.1
  have halfSize : ofTree? (toTree r.halfSize) = some r.halfSize := Vector2.readsBack finite.2
  calc ofTree? (toTree r)
      = (do return ⟨← ofTree? (toTree r.center), ← ofTree? (toTree r.halfSize)⟩) := rfl
    _ = some r := by rw [center, halfSize]; rfl

theorem Polygon.readsBack {p : Polygon Float32} (finite : p.IsFinite) : ReadsBack p := by
  have vertices : ofTree? (toTree p.vertices) = some p.vertices :=
    readsBack_list fun v member => Vector2.readsBack (finite v member)
  calc ofTree? (toTree p)
      = (do return ⟨← ofTree? (toTree p.vertices)⟩) := rfl
    _ = some p := by rw [vertices]; rfl

/-- A shape is read under the name of its kind. -/
theorem Shape.readsBack {s : Shape Float32} (finite : s.IsFinite) : ReadsBack s := by
  cases s with
  | empty => rfl
  | circle c => exact congrArg (Option.map Shape.circle) (Circle.readsBack finite)
  | rectangle r => exact congrArg (Option.map Shape.rectangle) (Rectangle.readsBack finite)
  | polygon p => exact congrArg (Option.map Shape.polygon) (Polygon.readsBack finite)

theorem ShapeKind.readsBack (k : ShapeKind) : ReadsBack k := by cases k <;> rfl

theorem BodyKind.readsBack (k : BodyKind) : ReadsBack k := by cases k <;> rfl

theorem Pairing.readsBack (p : Pairing) : ReadsBack p := by cases p <;> rfl

theorem MemoryStrategy.readsBack (s : MemoryStrategy) : ReadsBack s := by cases s <;> rfl

/-! ## Abridged records -/

/-- The fields of a record. -/
def Tree.members : Tree → List (String × Tree)
  | record fields => fields
  | _ => []

/-- The fields of a record with another tree in the place of one. -/
def putField (name : String) (t : Tree) (fields : List (String × Tree)) : List (String × Tree) :=
  fields.map fun f => if f.1 = name then (name, t) else f

/-- The kept ones of the fields of a record, in any order, and with others of unknown names. -/
def Abridges (kept : String → Bool) (whole fields : List (String × Tree)) : Prop :=
  ∃ unknown : List (String × Tree), (∀ f ∈ unknown, f.1 ∉ whole.map Prod.fst) ∧
    fields.Perm (whole.filter (fun f => kept f.1) ++ unknown)

/-- An abridged record of the value is read as the value of the fields that are kept. -/
def ReadsAbridged {β : Type} [TreeForm β] (v : β) (keeping : (String → Bool) → β) : Prop :=
  ∀ kept fields, Abridges kept (toTree v).members fields →
    ofTree? (.record fields) = some (keeping kept)

section Abridged

variable {kept : String → Bool} {whole fields : List (String × Tree)} {t : Tree}

/-- A whole record keeps everything. -/
theorem abridges_whole (whole : List (String × Tree)) : Abridges (fun _ => true) whole whole :=
  ⟨[], nofun, by rw [List.filter_true, List.append_nil]⟩

/-- What an abridged record has under the name of a field is that field, if it is kept. -/
theorem Abridges.mem_iff (abridges : Abridges kept whole fields)
    (distinct : (whole.map Prod.fst).Nodup) {name : String} (member : (name, t) ∈ whole)
    {u : Tree} :
    (name, u) ∈ fields ↔ u = t ∧ kept name = true := by
  obtain ⟨unknown, others, perm⟩ := abridges
  have same : (name, u) ∈ whole ↔ u = t := by
    refine ⟨fun member' => ?_, fun same => same ▸ member⟩
    exact (Prod.mk.inj (List.inj_on_of_nodup_map distinct member' member rfl)).2
  have absent : (name, u) ∉ unknown :=
    fun member' => others _ member' (List.mem_map.mpr ⟨_, member, rfl⟩)
  rw [perm.mem_iff, List.mem_append, List.mem_filter, same]
  exact or_iff_left absent

/-- A field that is left out has the other value, and a field that is kept has its own. -/
theorem Abridges.needOr {β : Type} [TreeForm β] (abridges : Abridges kept whole fields)
    (distinct : (whole.map Prod.fst).Nodup) (name : String) (written : whole.lookup name = some t)
    {v : β} (reads : ofTree? t = some v) (other : β) :
    Tree.needOr fields name other = some (if kept name then v else other) := by
  obtain ⟨before, after, split, _⟩ := List.lookup_eq_some_iff.mp written
  have member : (name, t) ∈ whole := split ▸ List.mem_append_right before List.mem_cons_self
  rw [Tree.needOr]
  cases looked : fields.lookup name with
  | none =>
      have missing : (name, t) ∉ fields := fun there => by
        simpa using List.lookup_eq_none_iff.mp looked _ there
      have dropped : ¬ kept name = true :=
        fun keep => missing ((abridges.mem_iff distinct member).mpr ⟨rfl, keep⟩)
      rw [if_neg dropped]
  | some u =>
      obtain ⟨before, after, split, _⟩ := List.lookup_eq_some_iff.mp looked
      have there : (name, u) ∈ fields := split ▸ List.mem_append_right before List.mem_cons_self
      obtain ⟨rfl, keep⟩ := (abridges.mem_iff distinct member).mp there
      rw [if_pos keep]
      exact reads

end Abridged

/-! ## Materials and settings -/

/-- The material with the standard one in the place of the fields that are left out. -/
def Material.keeping {α : Type} [Scalar α] (m : Material α) (kept : String → Bool) :
    Material α where
  restitution := if kept "restitution" then m.restitution else standard.restitution
  friction := if kept "friction" then m.friction else standard.friction

/-- The settings of a broad phase with the standard ones in the place of the fields that are left
out. -/
def TreeSettings.keeping (s : TreeSettings) (kept : String → Bool) : TreeSettings where
  maxDepth := if kept "max_depth" then s.maxDepth else standard.maxDepth
  nodeCapacity := if kept "node_capacity" then s.nodeCapacity else standard.nodeCapacity
  pairing := if kept "pairing" then s.pairing else standard.pairing

/-- The settings of a memory with the standard ones in the place of the fields that are left out. -/
def MemorySettings.keeping (s : MemorySettings) (kept : String → Bool) : MemorySettings where
  strategy := if kept "strategy" then s.strategy else standard.strategy
  metered := if kept "instrumented" then s.metered else standard.metered

/-- The settings of a world with the standard ones in the place of the fields that are left out. -/
def WorldSettings.keeping {α : Type} [Scalar α] (s : WorldSettings α) (kept : String → Bool) :
    WorldSettings α :=
  let other : WorldSettings α := standard
  { gravity := if kept "gravity" then s.gravity else other.gravity
    bodySlots := if kept "preallocated_bodies" then s.bodySlots else other.bodySlots
    colliderSlots := if kept "preallocated_colliders" then s.colliderSlots else other.colliderSlots
    growth := if kept "growth_factor" then s.growth else other.growth
    bounds := if kept "world_bounds" then s.bounds else other.bounds
    tree := if kept "quad_tree" then s.tree else other.tree
    percent := if kept "positional_correction_percent" then s.percent else other.percent
    slop := if kept "positional_correction_slop" then s.slop else other.slop
    memory := if kept "allocator" then s.memory else other.memory }

theorem Material.reads_abridged {m : Material Float32} (finite : m.IsFinite) :
    ReadsAbridged m m.keeping := by
  intro kept fields abridges
  have distinct : ["restitution", "friction"].Nodup := by decide
  let other : Material Float32 := .standard
  have restitution := abridges.needOr distinct "restitution" rfl (readsBack_float finite.1)
  have friction := abridges.needOr distinct "friction" rfl (readsBack_float finite.2)
  calc ofTree? (.record fields)
      = (do return ⟨← Tree.needOr fields "restitution" other.restitution,
          ← Tree.needOr fields "friction" other.friction⟩) := rfl
    _ = some (m.keeping kept) := by rw [restitution, friction]; rfl

theorem TreeSettings.reads_abridged (s : TreeSettings) : ReadsAbridged s s.keeping := by
  intro kept fields abridges
  have distinct : ["max_depth", "node_capacity", "pairing"].Nodup := by decide
  have maxDepth := abridges.needOr distinct "max_depth" rfl (readsBack_nat s.maxDepth)
  have nodeCapacity := abridges.needOr distinct "node_capacity" rfl (readsBack_nat s.nodeCapacity)
  have pairing := abridges.needOr distinct "pairing" rfl s.pairing.readsBack
  calc ofTree? (.record fields)
      = (do return ⟨← Tree.needOr fields "max_depth" standard.maxDepth,
          ← Tree.needOr fields "node_capacity" standard.nodeCapacity,
          ← Tree.needOr fields "pairing" standard.pairing⟩) := rfl
    _ = some (s.keeping kept) := by rw [maxDepth, nodeCapacity, pairing]; rfl

theorem MemorySettings.reads_abridged (s : MemorySettings) : ReadsAbridged s s.keeping := by
  intro kept fields abridges
  have distinct : ["strategy", "instrumented"].Nodup := by decide
  have strategy := abridges.needOr distinct "strategy" rfl s.strategy.readsBack
  have metered := abridges.needOr distinct "instrumented" rfl (readsBack_bool s.metered)
  calc ofTree? (.record fields)
      = (do return ⟨← Tree.needOr fields "strategy" standard.strategy,
          ← Tree.needOr fields "instrumented" standard.metered⟩) := rfl
    _ = some (s.keeping kept) := by rw [strategy, metered]; rfl

/-- The fields of the settings of a world, with these records of the broad phase and the memory. -/
def WorldSettings.membersWith (s : WorldSettings Float32) (tree memory : List (String × Tree)) :
    List (String × Tree) :=
  putField "quad_tree" (.record tree) (putField "allocator" (.record memory) (toTree s).members)

/-- Settings of a world are read from an abridged record, in which the records of the broad phase
and of the memory are abridged as well. -/
theorem WorldSettings.reads_abridged {s : WorldSettings Float32} (finite : s.IsFinite)
    {kept keptTree keptMemory : String → Bool} {fields tree memory : List (String × Tree)}
    (abridgesTree : Abridges keptTree (toTree s.tree).members tree)
    (abridgesMemory : Abridges keptMemory (toTree s.memory).members memory)
    (abridges : Abridges kept (s.membersWith tree memory) fields) :
    ofTree? (.record fields) = some (keeping
      { s with tree := s.tree.keeping keptTree, memory := s.memory.keeping keptMemory } kept) := by
  have distinct : ((s.membersWith tree memory).map Prod.fst).Nodup := by
    show ["gravity", "preallocated_bodies", "preallocated_colliders", "growth_factor",
      "world_bounds", "quad_tree", "positional_correction_percent", "positional_correction_slop",
      "allocator"].Nodup
    decide
  let other : WorldSettings Float32 := .standard
  have gravity := abridges.needOr distinct "gravity" rfl (Vector2.readsBack finite.gravity)
  have bodySlots := abridges.needOr distinct "preallocated_bodies" rfl (readsBack_nat s.bodySlots)
  have colliderSlots :=
    abridges.needOr distinct "preallocated_colliders" rfl (readsBack_nat s.colliderSlots)
  have growth := abridges.needOr distinct "growth_factor" rfl (readsBack_float finite.growth)
  have bounds := abridges.needOr distinct "world_bounds" rfl (Box.readsBack finite.bounds)
  have treeSettings :=
    abridges.needOr distinct "quad_tree" rfl (s.tree.reads_abridged _ _ abridgesTree)
  have percent :=
    abridges.needOr distinct "positional_correction_percent" rfl (readsBack_float finite.percent)
  have slop :=
    abridges.needOr distinct "positional_correction_slop" rfl (readsBack_float finite.slop)
  have memorySettings :=
    abridges.needOr distinct "allocator" rfl (s.memory.reads_abridged _ _ abridgesMemory)
  have read : ofTree? (.record fields) = (do return ⟨← Tree.needOr fields "gravity" other.gravity,
      ← Tree.needOr fields "preallocated_bodies" other.bodySlots,
      ← Tree.needOr fields "preallocated_colliders" other.colliderSlots,
      ← Tree.needOr fields "growth_factor" other.growth,
      ← Tree.needOr fields "world_bounds" other.bounds,
      ← Tree.needOr fields "quad_tree" other.tree,
      ← Tree.needOr fields "positional_correction_percent" other.percent,
      ← Tree.needOr fields "positional_correction_slop" other.slop,
      ← Tree.needOr fields "allocator" other.memory⟩ : Option (WorldSettings Float32)) := rfl
  rw [read, gravity, bodySlots, colliderSlots, growth, bounds, treeSettings, percent, slop,
    memorySettings]
  rfl

/-- What is read from abridged records is read from whole ones. -/
theorem ReadsAbridged.readsBack {β : Type} [TreeForm β] {v : β} {keeping : (String → Bool) → β}
    (reads : ReadsAbridged v keeping) (isRecord : toTree v = .record (toTree v).members)
    (whole : keeping (fun _ => true) = v) : ReadsBack v :=
  calc ofTree? (toTree v)
      = ofTree? (.record (toTree v).members) := congrArg ofTree? isRecord
    _ = some (keeping fun _ => true) := reads _ _ (abridges_whole _)
    _ = some v := congrArg some whole

theorem WorldSettings.readsBack {s : WorldSettings Float32} (finite : s.IsFinite) : ReadsBack s :=
  reads_abridged finite (abridges_whole _) (abridges_whole _) (abridges_whole (toTree s).members)

/-- **Values of a scene survive being written down.** A value whose measurements are finite is read
back from its written form. From an abridged record a material or settings are read as the value
with standard ones in the place of the fields that are left out, and so are the settings of the
broad phase and of the memory inside the settings of a world. -/
theorem scene_values_survive :
    (∀ v : Vector2 Float32, v.isFinite → ReadsBack v) ∧
    (∀ b : Box Float32, b.IsFinite → ReadsBack b) ∧
    (∀ c : Circle Float32, c.IsFinite → ReadsBack c) ∧
    (∀ r : Rectangle Float32, r.IsFinite → ReadsBack r) ∧
    (∀ p : Polygon Float32, p.IsFinite → ReadsBack p) ∧
    (∀ s : Shape Float32, s.IsFinite → ReadsBack s) ∧
    (∀ k : ShapeKind, ReadsBack k) ∧
    (∀ k : BodyKind, ReadsBack k) ∧
    (∀ m : Material Float32, m.IsFinite → ReadsBack m ∧ ReadsAbridged m m.keeping) ∧
    (∀ p : Pairing, ReadsBack p) ∧
    (∀ s : TreeSettings, ReadsBack s ∧ ReadsAbridged s s.keeping) ∧
    (∀ s : MemoryStrategy, ReadsBack s) ∧
    (∀ s : MemorySettings, ReadsBack s ∧ ReadsAbridged s s.keeping) ∧
    ∀ s : WorldSettings Float32, s.IsFinite → ReadsBack s ∧
      ∀ kept keptTree keptMemory fields tree memory,
        Abridges keptTree (toTree s.tree).members tree →
        Abridges keptMemory (toTree s.memory).members memory →
        Abridges kept (s.membersWith tree memory) fields →
        ofTree? (.record fields) = some (WorldSettings.keeping { s with
          tree := s.tree.keeping keptTree, memory := s.memory.keeping keptMemory } kept) := by
  refine ⟨fun _ => Vector2.readsBack, fun _ => Box.readsBack, fun _ => Circle.readsBack,
    fun _ => Rectangle.readsBack, fun _ => Polygon.readsBack, fun _ => Shape.readsBack,
    ShapeKind.readsBack, BodyKind.readsBack, fun m finite => ?material, Pairing.readsBack,
    fun s => ?tree, MemoryStrategy.readsBack, fun s => ?memory, fun s finite => ?world⟩
  case material =>
      have reads := Material.reads_abridged finite
      exact ⟨reads.readsBack rfl rfl, reads⟩
  case tree => exact ⟨s.reads_abridged.readsBack rfl rfl, s.reads_abridged⟩
  case memory => exact ⟨s.reads_abridged.readsBack rfl rfl, s.reads_abridged⟩
  case world =>
      exact ⟨WorldSettings.readsBack finite, fun _ _ _ _ _ _ => WorldSettings.reads_abridged finite⟩

/-- Settings that differ from the standard ones in every field. -/
def unusualSettings : WorldSettings Float32 :=
  ⟨⟨0, -20⟩, 32, 64, 1.5, ⟨⟨-8, -8⟩, ⟨8, 8⟩⟩, ⟨3, 4, .includeAncestors⟩, 0.8, 0.01,
    ⟨.linear 4096, true⟩⟩

/-- Some of their fields, in the opposite order, and a field of an unknown name. -/
def unusualRecord : List (String × Tree) :=
  [("comment", .text "low ceiling"),
    ("allocator", .record [("instrumented", .bool true),
      ("strategy", .record [("type", .text "linear"), ("capacity_bytes", .integer 4096)])]),
    ("quad_tree", .record [("pairing", .text "IncludeAncestors")]),
    ("gravity", .record [("x", .decimal 0), ("y", .decimal (-20))])]

theorem scene_values_survive_unusual :
    unusualSettings.IsFinite ∧ ReadsBack unusualSettings ∧
      ofTree? (.record unusualRecord) = some ({ WorldSettings.standard with
        gravity := ⟨0, -20⟩
        tree := { TreeSettings.standard with pairing := .includeAncestors }
        memory := ⟨.linear 4096, true⟩ } : WorldSettings Float32) := by
  have finite : unusualSettings.IsFinite := ⟨rfl, rfl, ⟨rfl, rfl⟩, rfl, rfl⟩
  have world := scene_values_survive.2.2.2.2.2.2.2.2.2.2.2.2.2 unusualSettings finite
  let tree := [("pairing", Tree.text "IncludeAncestors")]
  let memory := (toTree unusualSettings.memory).members.reverse
  have abridgesTree : Abridges (fun name => name = "pairing")
      (toTree unusualSettings.tree).members tree := ⟨[], nofun, .refl _⟩
  have abridgesMemory : Abridges (fun _ => true) (toTree unusualSettings.memory).members memory :=
    ⟨[], nofun, List.reverse_perm _⟩
  have abridges : Abridges (fun name => name ∈ ["gravity", "quad_tree", "allocator"])
      (unusualSettings.membersWith tree memory) unusualRecord := by
    refine ⟨[("comment", .text "low ceiling")], fun f member => ?_,
      (List.reverse_perm unusualRecord).symm⟩
    obtain rfl := List.mem_singleton.mp member
    show "comment" ∉ ["gravity", "preallocated_bodies", "preallocated_colliders", "growth_factor",
      "world_bounds", "quad_tree", "positional_correction_percent", "positional_correction_slop",
      "allocator"]
    decide
  exact ⟨finite, world.1, world.2 _ _ _ _ _ _ abridgesTree abridgesMemory abridges⟩

end PlanarDynamics
