import PlanarDynamics.Proofs.BroadPhase.InsertionOrder
import PlanarDynamics.Proofs.BroadPhase.Representation
import PlanarDynamics.Proofs.Store.StaleHandles
import PlanarDynamics.Proofs.World.Findings
import PlanarDynamics.Proofs.World.Motion
import PlanarDynamics.Proofs.World.Names
import PlanarDynamics.Proofs.World.Orphans
import PlanarDynamics.Proofs.World.Triggers
import PlanarDynamics.Report.Message
import PlanarDynamics.Scene.Forms
import PlanarDynamics.Scene.Reader
import PlanarDynamics.Shape.Measure
import PlanarDynamics.World.Frame
import PlanarDynamics.Proofs.Store.Alignment
import PlanarDynamics.Proofs.Store.Metering
import PlanarDynamics.Proofs.Contact.Momentum
import PlanarDynamics.Proofs.World.Momentum
import PlanarDynamics.Proofs.Store.Books
import PlanarDynamics.Proofs.World.Books
import PlanarDynamics.Proofs.Store.RenamedShapes
import PlanarDynamics.Proofs.BroadPhase.Renaming
import PlanarDynamics.Proofs.World.Mirrors
import PlanarDynamics.Proofs.World.MirroredFrames
import PlanarDynamics.Proofs.World.Terms
import PlanarDynamics.Proofs.World.Renewal
import PlanarDynamics.Proofs.World.Attachment
import PlanarDynamics.Proofs.World.Dangling
import PlanarDynamics.Proofs.Shape.Placement
import PlanarDynamics.Proofs.Contact.Depth
import PlanarDynamics.Proofs.Contact.Geometry
import PlanarDynamics.Proofs.Contact.Impulse
import PlanarDynamics.Proofs.Contact.Separation
import PlanarDynamics.Proofs.Contact.Symmetry
import PlanarDynamics.Proofs.Contact.EitherSide
import PlanarDynamics.Proofs.BroadPhase.Pairing
import PlanarDynamics.Proofs.BroadPhase.Splitting
import PlanarDynamics.Proofs.Store.FiniteMap
import PlanarDynamics.Proofs.Shape.ClosedChains
import PlanarDynamics.Proofs.Shape.Centroid
import PlanarDynamics.Proofs.Store.Bumping
import PlanarDynamics.Proofs.Store.Liveness
import PlanarDynamics.Proofs.Store.Columns
import PlanarDynamics.Proofs.Store.ShapeMaps
import PlanarDynamics.Proofs.Plane.Tightness
import PlanarDynamics.Proofs.Scene.RoundTrip
import PlanarDynamics.Proofs.World.FreeMotion
