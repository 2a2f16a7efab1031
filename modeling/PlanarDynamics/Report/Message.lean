import PlanarDynamics.Decimal.Layout
import PlanarDynamics.Shape.Construct
import PlanarDynamics.World.Basic

/-!
# Messages

The wording of everything that is reported: names of kinds and handles, faults and the lines of
the log. A vector is written with its parts in the structured layout, a single measurement in
the plain one, and the depth and impulse of a contact with four places. What a message has to
name is in the fault or record; this is the only place that turns it into text.
-/

set_option autoImplicit false

namespace PlanarDynamics

/-- The name of a kind of geometry. -/
def ShapeKind.name : ShapeKind → String
  | .empty => "None"
  | .circle => "Circle"
  | .rectangle => "Rectangle"
  | .polygon => "Polygon"

/-- The name of a store. -/
def StoreKind.name : StoreKind → String
  | .body => "body"
  | .collider => "collider"
  | .shape kind => kind.name ++ " shape"

/-- Slot and generation of a handle. -/
def Handle.text {k : StoreKind} (h : Handle k) : String :=
  toString h.index ++ "v" ++ toString h.generation

/-- A handle of a body as it is reported. -/
def BodyRef.report (b : BodyRef) : String := "BodyRef(" ++ b.text ++ ")"

/-- A handle of a collider as it is reported. -/
def ColliderRef.report (c : ColliderRef) : String := "ColliderRef(" ++ c.text ++ ")"

/-- A pair of colliders as it is reported. -/
def ColliderPair.report (p : ColliderPair) : String :=
  "ColliderPair \x7b first: " ++ ColliderRef.report p.first ++ ", second: " ++
    ColliderRef.report p.second ++ " \x7d"

/-- A vector as it is reported. -/
def Vector2.report (v : Vector2 Float32) : String :=
  "Vec2 \x7b x: " ++ Binary32.text .structured v.x ++ ", y: " ++ Binary32.text .structured v.y ++
    " \x7d"

/-- Why a shape was refused, in words. -/
def ShapeFault.message : ShapeFault Float32 → String
  | .negativeRadius radius =>
    "invalid shape: circle radius must be non-negative, got " ++ Binary32.text .plain radius
  | .negativeHalfSize halfSize =>
    "invalid shape: rectangle half size must be non-negative, got " ++ halfSize.report
  | .tooFewVertices count =>
    "invalid shape: polygon needs at least 3 vertices, got " ++ toString count

/-- Why an operation was refused, in words. -/
def Fault.message : Fault → String
  | .stale store index generation current =>
    "stale " ++ store.name ++ " reference " ++ toString index ++ "v" ++ toString generation ++
      " (slot is at generation " ++ toString current ++ ")"
  | .outOfRange store index slots =>
    store.name ++ " index " ++ toString index ++ " out of range (len=" ++ toString slots ++ ")"
  | .aliased store index => store.name ++ " handles both refer to slot " ++ toString index
  | .kindMismatch expected found =>
    "expected a " ++ expected.name ++ " collider, found " ++ found.name
  | .nothingToStore => "invalid shape: a collider needs a circle, rectangle or polygon"
  | .noGeometry => "invalid shape: cannot create a collider without a shape"
  | .allocationFailed requested available =>
    "allocation of " ++ toString requested ++ " bytes failed (" ++ toString available ++
      " bytes available)"

/-- What a metered memory tells, in words. -/
def MemoryNote.message : MemoryNote → String
  | .granted name size inUse =>
    "[" ++ name ++ "] allocate " ++ toString size ++ " bytes (in use: " ++ toString inUse ++ ")"
  | .refused name size => "[" ++ name ++ "] allocation of " ++ toString size ++ " bytes refused"
  | .returned name size inUse =>
    "[" ++ name ++ "] deallocate " ++ toString size ++ " bytes (in use: " ++ toString inUse ++ ")"

/-- What a store tells, in words. -/
def StoreNote.message : StoreNote → String
  | .memory n => n.message
  | .grew store fromSlots toSlots =>
    store.name ++ " store grew from " ++ toString fromSlots ++ " to " ++ toString toSlots ++
      " slots"

/-- The split of a leaf, in words. -/
def Subdivision.message (s : Subdivision) : String :=
  "quad-tree node " ++ toString s.node ++ " subdivided at depth " ++ toString s.depth ++ " (" ++
    toString s.entries ++ " entries)"

/-- A contact that was acted on, in words. -/
def Contact.message (c : Contact Float32) (impulse : Float32) : String :=
  "contact n=" ++ c.normal.report ++ " depth=" ++ Binary32.fixedText 4 c.depth ++ " impulse=" ++
    Binary32.fixedText 4 impulse

/-- The name of a severity. -/
def Severity.name : Severity → String
  | .trace => "TRACE"
  | .debug => "DEBUG"
  | .warn => "WARN"

/-- A line of text at a severity. -/
def Severity.line (s : Severity) (message : String) : String := s.name ++ " " ++ message

namespace LogRecord

/-- A line of the log, in words. -/
def message : LogRecord Float32 → String
  | .store n => n.message
  | .subdivided s => s.message
  | .negativeSlots count => "negative preallocation (" ++ toString count ++ ") clamped to 0"
  | .initialised gravity bodySlots =>
    "world initialised: gravity=" ++ gravity.report ++ ", " ++ toString bodySlots ++ " body slots"
  | .createdBody body => "created " ++ BodyRef.report body
  | .destroyedBody body => "destroyed " ++ BodyRef.report body
  | .createdCollider collider kind place body =>
    "created " ++ ColliderRef.report collider ++ " (" ++ kind.name ++ " #" ++ toString place ++
      ") on " ++ BodyRef.report body
  | .destroyedCollider collider => "destroyed " ++ ColliderRef.report collider
  | .nestedUpdate => "World::update called from a trigger callback; ignored"
  | .integrated bodies => "integrated " ++ toString bodies ++ " bodies"
  | .skippedCollider collider fault =>
    "skipping " ++ ColliderRef.report collider ++ ": " ++ fault.message
  | .populated colliders => "broad phase holds " ++ toString colliders ++ " colliders"
  | .skippedCandidate pair fault => "skipping candidate " ++ pair.report ++ ": " ++ fault.message
  | .settled contact impulse => contact.message impulse
  | .dropped pair => "dropped " ++ pair.report ++ ": collider no longer active"
  | .updated dt tested touching resolved =>
    "update dt=" ++ Binary32.text .plain dt ++ " tested=" ++ toString tested ++ " touching=" ++
      toString touching ++ " resolved=" ++ toString resolved

/-- A line of the log with its severity. -/
def line (r : LogRecord Float32) : String := r.severity.line r.message

end LogRecord

end PlanarDynamics
