import PlanarDynamics.Proofs.Contact.Exact
import PlanarDynamics.Proofs.Contact.Geometry
import PlanarDynamics.Proofs.Contact.Momentum
import PlanarDynamics.Proofs.World.Candidates
import PlanarDynamics.Proofs.World.Motion

/-!
# Contacts conserve momentum

A world is isolated when nothing acts on its bodies but their contacts: there is no gravity, no
force and no listener, and every body moves (`World.Isolated`). A quantity of the bodies is added
up over all of them (`Arena.total`), and a write changes the sum by what it changes in one slot
(`Arena.total_write`). With exact arithmetic the contacts of a frame keep the sum of the momenta
and the sum of the moments, however many of them a body takes part in
(`World.conserved_foldl_parted`). So the momentum of an isolated world never changes, and its
bodies together drift along it (`World.momentum_of_frames`).
-/

set_option autoImplicit false

namespace PlanarDynamics

/-! ## Sums over the entities of an arena -/

namespace Arena

variable {k : StoreKind} {ε M : Type} [Entity ε]

/-- A quantity of the live entities, added up. -/
def total [AddCommMonoid M] (a : Arena k ε) (f : ε → M) : M :=
  (a.entries.map fun entry => f entry.2).sum

section Monoid

variable [AddCommMonoid M] {a : Arena k ε} {f g : ε → M}

/-- A vacant slot adds nothing. -/
theorem total_eq_sum_slots (a : Arena k ε) (f : ε → M) :
    a.total f = (a.slots.toList.map fun s => if s.isLive then f s.entity else 0).sum := by
  have numbered : ∀ (slots : List (Slot ε)) (start : Nat),
      (((slots.zipIdx start).filterMap fun x =>
        if x.1.isLive then some ((⟨x.2, x.1.generation⟩ : Handle k), x.1.entity) else none).map
          fun entry => f entry.2).sum =
        (slots.map fun s => if s.isLive then f s.entity else 0).sum := by
    intro slots
    induction slots with
    | nil => exact fun _ => rfl
    | cons s rest ih =>
        intro start
        rw [List.zipIdx_cons, List.filterMap_cons, List.map_cons, List.sum_cons, ← ih (start + 1)]
        cases s.isLive <;> simp
  exact numbered a.slots.toList 0

theorem total_congr (same : ∀ h v, a.get h = .ok v → f v = g v) : a.total f = a.total g := by
  unfold total
  refine congrArg List.sum (List.map_congr_left fun entry listed => ?_)
  exact same entry.1 entry.2 (mem_entries_iff.mp listed)

theorem total_add (a : Arena k ε) (f g : ε → M) :
    a.total (fun v => f v + g v) = a.total f + a.total g :=
  List.sum_map_add

theorem map_total {N : Type} [AddCommMonoid N] (φ : M →+ N) (a : Arena k ε) (f : ε → M) :
    φ (a.total f) = a.total fun v => φ (f v) := by
  rw [total, map_list_sum, List.map_map]
  rfl

theorem total_mapLive {change : ε → ε} (live : ∀ v, Entity.isLive (change v) = Entity.isLive v)
    (a : Arena k ε) (f : ε → M) : (a.mapLive change).total f = a.total fun v => f (change v) := by
  have slots : (a.mapLive change).slots.toList = a.slots.toList.map fun s : Slot ε =>
      if s.isLive then { s with entity := change s.entity } else s := Array.toList_map
  rw [total_eq_sum_slots, total_eq_sum_slots, slots, List.map_map]
  refine congrArg List.sum (List.map_congr_left fun s _ => ?_)
  rw [Function.comp_apply]
  split
  · rename_i alive
    exact if_pos ((live s.entity).trans alive)
  · rfl

end Monoid

/-- Changing an entity in place changes a sum by what the entity adds to it. -/
theorem total_write [AddCommGroup M] {a : Arena k ε} {h : Handle k} {v u : ε}
    (found : a.get h = .ok v) (live : Entity.isLive u = true) (f : ε → M) :
    (a.write h.index u).total f = a.total f - f v + f u := by
  obtain ⟨there, alive⟩ := get_eq_ok_iff.mp found
  let share : Slot ε → M := fun s => if s.isLive then f s.entity else 0
  have slots : (a.write h.index u).slots.toList.map share =
      (a.slots.toList.map share).set h.index (f u) := by
    refine List.ext_getElem? fun i => ?_
    rw [List.getElem?_map, Array.getElem?_toList, slots_write, List.getElem?_set,
      List.getElem?_map, Array.getElem?_toList, List.length_map, Array.length_toList]
    by_cases place : h.index = i
    · rw [if_pos place, if_pos place, ← place, if_pos (Array.getElem?_eq_some_iff.mp there).1,
        there]
      exact congrArg some (if_pos live)
    · rw [if_neg place, if_neg place]
  have before : (a.slots.toList.map share)[h.index]? = some (f v) := by
    rw [List.getElem?_map, Array.getElem?_toList, there]
    exact congrArg some (if_pos alive)
  obtain ⟨inside, here⟩ := List.getElem?_eq_some_iff.mp before
  rw [total_eq_sum_slots, total_eq_sum_slots, slots, List.sum_set', dif_pos inside, here]
  abel

end Arena

variable {L ρ : Type}

namespace World

/-- The sum of the momenta of all bodies. -/
noncomputable def momentum (w : World ℝ L) : Vector2 ℝ := w.bodies.total Body.momentum

/-- The sum of the moments of all bodies. -/
noncomputable def moment (w : World ℝ L) : Vector2 ℝ := w.bodies.total Body.moment

/-- Nothing acts on the bodies but their contacts. -/
structure Isolated (w : World ℝ L) : Prop where
  weightless : w.settings.gravity = 0
  silent : w.listener = none
  idle : w.updating = false
  drifting : ∀ b v, w.bodies.get b = .ok v → v.Drifting

/-! ## Contacts -/

/-- All bodies of the world are drifting. -/
theorem drifting_parted {w : World ℝ L} (drifting : ∀ b v, w.bodies.get b = .ok v → v.Drifting)
    (p : ColliderPair) (b : BodyRef) (u : Body ℝ) (found : (w.parted p).bodies.get b = .ok u) :
    u.Drifting := by
  have there := (Arena.contains_iff_get_eq_ok _ _).mpr ⟨u, found⟩
  rw [(sameOutline_parted w p).contains] at there
  obtain ⟨v, before⟩ := (Arena.contains_iff_get_eq_ok _ _).mp there
  obtain ⟨u', after, nudged, _⟩ := nudged_parted (p := p) before
  obtain rfl := Except.ok.inj (after.symm.trans found)
  exact (drifting b v before).of_nudged nudged

/-- The contact of a pair keeps what is conserved. -/
theorem conserved_parted {w : World ℝ L} (drifting : ∀ b v, w.bodies.get b = .ok v → v.Drifting)
    (p : ColliderPair) :
    (w.parted p).momentum = w.momentum ∧ (w.parted p).moment = w.moment := by
  unfold parted
  split
  case h_2 => exact ⟨rfl, rfl⟩
  case h_1 x c collides =>
    rw [run_resolve]
    split
    case h_1 => exact ⟨rfl, rfl⟩
    case h_2 a b both =>
      obtain ⟨first, second, apart⟩ := Arena.get_of_getPair both
      have liveA := (Arena.get_eq_ok_iff.mp first).2
      have liveB := (Arena.get_eq_ok_iff.mp second).2
      obtain ⟨nudged, nudged'⟩ := w.solver.nudged_resolve a b x.restitutionA x.restitutionB c
      have conserves := Solver.conserves_resolve (decide_eq_true (drifting _ a first).moving)
        (decide_eq_true (drifting _ b second).moving) liveA liveB w.solver x.restitutionA
        x.restitutionB c
      have total : ∀ f : Body ℝ → Vector2 ℝ, ∀ r : Resolution ℝ, a.Nudged r.first →
          b.Nudged r.second → f r.first + f r.second = f a + f b →
          ((w.bodies.write x.bodyA.index r.first).write x.bodyB.index r.second).total f =
            w.bodies.total f := by
        intro f r nudged nudged' kept
        have there := (Arena.get_write_of_ne (u := r.first) (Ne.symm apart)).mpr second
        rw [Arena.total_write there (nudged'.isLive.trans liveB),
          Arena.total_write first (nudged.isLive.trans liveA)]
        calc w.bodies.total f - f a + f r.first - f b + f r.second
            = w.bodies.total f - (f a + f b) + (f r.first + f r.second) := by abel
          _ = w.bodies.total f := by rw [kept]; abel
      exact ⟨total _ _ nudged nudged' conserves.momentum, total _ _ nudged nudged' conserves.moment⟩

/-- **Contacts one after the other keep what is conserved.** -/
theorem conserved_foldl_parted {w : World ℝ L}
    (drifting : ∀ b v, w.bodies.get b = .ok v → v.Drifting) (items : List ColliderPair) :
    (items.foldl parted w).momentum = w.momentum ∧ (items.foldl parted w).moment = w.moment ∧
      ∀ b v, (items.foldl parted w).bodies.get b = .ok v → v.Drifting := by
  induction items generalizing w with
  | nil => exact ⟨rfl, rfl, drifting⟩
  | cons p rest ih =>
      obtain ⟨momentum, moment⟩ := conserved_parted drifting p
      obtain ⟨momentum', moment', drifting'⟩ := ih (drifting_parted drifting p)
      exact ⟨momentum'.trans momentum, moment'.trans moment, drifting'⟩

/-! ## Frames -/

section Frames

variable {w : World ℝ L} (isolated : w.Isolated)

include isolated

/-- Before the contacts of a frame every body has moved along its velocity. -/
theorem Isolated.moved (dt : ℝ) :
    (w.moved dt).momentum = w.momentum ∧ (w.moved dt).moment = w.moment + w.momentum * dt ∧
      ∀ b v, (w.moved dt).bodies.get b = .ok v → v.Drifting := by
  have bodies : (w.moved dt).bodies = w.bodies.mapLive fun b => b.step 0 dt := by
    rw [← isolated.weightless]
    rfl
  have live : ∀ b : Body ℝ, Entity.isLive (b.step 0 dt) = Entity.isLive b :=
    fun b => b.isLive_step 0 dt
  have here : ∀ h v, w.bodies.get h = .ok v → v.Drifting ∧ v.isLive = true := fun h v found =>
    ⟨isolated.drifting h v found, (Arena.get_eq_ok_iff.mp found).2⟩
  rw [momentum, moment, bodies, Arena.total_mapLive live, Arena.total_mapLive live]
  refine ⟨Arena.total_congr fun h v found => ?_, ?_, fun h u found => ?_⟩
  · exact (here h v found).1.momentum_step (here h v found).2 dt
  · rw [Arena.total_congr fun h v found => (here h v found).1.moment_step (here h v found).2 dt,
      Arena.total_add]
    exact congrArg (w.moment + ·) (Arena.map_total (Vector2.scaling dt) _ _).symm
  · obtain ⟨v, before, rfl⟩ := (Arena.get_mapLive_iff live).mp found
    obtain ⟨drifting, alive⟩ := here h v before
    rw [drifting.step alive]
    exact ⟨drifting.moving, drifting.unforced⟩

/-- A frame keeps the momentum and moves the moment along it. -/
theorem Isolated.update (react : Reaction ℝ L ρ) (dt : ℝ) :
    let out := ((World.update react dt).run w).state
    out.Isolated ∧ out.momentum = w.momentum ∧ out.moment = w.moment + w.momentum * dt := by
  obtain ⟨touching, state, _⟩ := state_update_unheard react dt isolated.idle isolated.silent
  obtain ⟨momentum, moment, drifting⟩ := isolated.moved dt
  obtain ⟨momentum', moment', drifting'⟩ := conserved_foldl_parted drifting (w.due dt)
  rw [state]
  exact ⟨⟨isolated.weightless, isolated.silent, isolated.idle, drifting'⟩,
    momentum'.trans momentum, moment'.trans moment⟩

theorem Isolated.after (react : Reaction ℝ L ρ) (dts : List ℝ) :
    (World.after react (dts.map .update) w).Isolated ∧
      (World.after react (dts.map .update) w).momentum = w.momentum := by
  induction dts generalizing w with
  | nil => exact ⟨isolated, rfl⟩
  | cons dt rest ih =>
      obtain ⟨isolated', momentum, _⟩ := isolated.update react dt
      obtain ⟨isolated'', momentum'⟩ := ih isolated'
      exact ⟨isolated'', momentum'.trans momentum⟩

end Frames

/-- **Contacts conserve momentum.** However many frames an isolated world has gone through and
whatever contacts they found, the sum of the momenta is what it was at the start, and the next
frame moves the sum of the moments along it. -/
theorem momentum_of_frames (react : Reaction ℝ L ρ) {w : World ℝ L} (isolated : w.Isolated)
    (dts : List ℝ) (dt : ℝ) :
    let before := after react (dts.map .update) w
    let out := after react ((dts ++ [dt]).map .update) w
    out.momentum = w.momentum ∧ out.moment = before.moment + w.momentum * dt := by
  intro before out
  obtain ⟨isolated', momentum⟩ := isolated.after react dts
  obtain ⟨_, momentum', moment'⟩ := isolated'.update react dt
  have last : out = ((World.update react dt).run before).state := by
    simp only [out, before, World.after, List.map_append, List.foldl_append, List.map_cons,
      List.map_nil, List.foldl_cons, List.foldl_nil]
    rfl
  rw [last]
  exact ⟨momentum'.trans momentum, moment'.trans (by rw [momentum])⟩

/-- Two circles that come towards each other, the second four times as heavy. -/
noncomputable def meetingWorld : World ℝ Unit :=
  { blank .topDown with
    bodies := ⟨#[⟨⟨⟨0, 0⟩, ⟨1, 0⟩, 1, 0, .moving⟩, 0⟩, ⟨⟨⟨9, 0⟩, ⟨-7, 0⟩, 4, 0, .moving⟩, 0⟩],
      0, 2, []⟩
    colliders := ⟨#[⟨⟨.circle, 0, ⟨0, 0⟩, ⟨0, 0⟩, ⟨0, 0⟩, false⟩, 0⟩,
      ⟨⟨.circle, 1, ⟨1, 0⟩, ⟨1, 0⟩, ⟨0, 0⟩, false⟩, 0⟩], 0, 2, []⟩
    shapes := ⟨⟨#[⟨some ⟨0, 1⟩, 0⟩, ⟨some ⟨0, 1⟩, 0⟩], 0, 2, []⟩, .empty 2, .empty 2⟩ }

/-- The bodies after a unit of time, and their circles. -/
theorem meetingWorld_moved :
    let v := meetingWorld.moved 1
    v.bodies.get ⟨0, 0⟩ = .ok ⟨⟨1, 0⟩, ⟨1, 0⟩, 1, 0, .moving⟩ ∧
      v.bodies.get ⟨1, 0⟩ = .ok ⟨⟨2, 0⟩, ⟨-7, 0⟩, 4, 0, .moving⟩ ∧
      v.placedShape ⟨0, 0⟩ = .ok ((Shape.circle ⟨0, 1⟩).translate ⟨1, 0⟩) ∧
      v.placedShape ⟨1, 0⟩ = .ok ((Shape.circle ⟨0, 1⟩).translate ⟨2, 0⟩) := by
  intro v
  have step : ∀ {x y s m : ℝ}, 0 < m → x + s = y →
      (⟨⟨x, 0⟩, ⟨s, 0⟩, m, 0, .moving⟩ : Body ℝ).step 0 1 = ⟨⟨y, 0⟩, ⟨s, 0⟩, m, 0, .moving⟩ := by
    rintro x y s m positive rfl
    refine (Body.step_of_moving rfl (decide_eq_true positive) 0 1).trans ?_
    refine Body.ext (Vector2.ext ?_ ?_) (Vector2.ext ?_ ?_) rfl rfl rfl <;> simp
  have live : ∀ b : Body ℝ, Entity.isLive (b.step 0 1) = Entity.isLive b :=
    fun b => Body.isLive_step b 0 1
  have first : v.bodies.get ⟨0, 0⟩ = .ok ⟨⟨1, 0⟩, ⟨1, 0⟩, 1, 0, .moving⟩ :=
    (Arena.get_mapLive_iff live).mpr ⟨_, Arena.get_eq_ok_iff.mpr ⟨rfl, decide_eq_true one_pos⟩,
      step one_pos (zero_add 1)⟩
  have second : v.bodies.get ⟨1, 0⟩ = .ok ⟨⟨2, 0⟩, ⟨-7, 0⟩, 4, 0, .moving⟩ :=
    (Arena.get_mapLive_iff live).mpr ⟨_, Arena.get_eq_ok_iff.mpr ⟨rfl, decide_eq_true four_pos⟩,
      step four_pos (show (9 : ℝ) + -7 = 2 by norm_num)⟩
  exact ⟨first, second,
    placedShape_eq_ok_iff.mpr ⟨_, _, Arena.get_eq_ok_iff.mpr ⟨rfl, rfl⟩, first, rfl⟩,
    placedShape_eq_ok_iff.mpr ⟨_, _, Arena.get_eq_ok_iff.mpr ⟨rfl, rfl⟩, second, rfl⟩⟩

theorem meetingWorld_due : meetingWorld.due 1 = [.of ⟨0, 0⟩ ⟨1, 0⟩] := by
  obtain ⟨first, second, _, _⟩ := meetingWorld_moved
  have entry : ∀ {c : ColliderRef} {collider : Collider ℝ} {body : Body ℝ} {shape : Shape ℝ}
      {box : Box ℝ}, (meetingWorld.moved 1).bodies.get collider.body = .ok body →
      (meetingWorld.moved 1).shapes.placed collider.kind collider.place body.position = .ok shape →
      shape.bounds? = some box → (meetingWorld.moved 1).entryOf? (c, collider) = some ⟨box, c⟩ :=
    fun there placed bounds =>
      entryOf?_eq_some_iff.mpr ⟨rfl, boxOf_eq_some_iff.mpr ⟨_, _, there, placed, bounds⟩⟩
  have listed : (meetingWorld.moved 1).colliders.entries =
      [(⟨0, 0⟩, ⟨.circle, 0, ⟨0, 0⟩, ⟨0, 0⟩, ⟨0, 0⟩, false⟩),
        (⟨1, 0⟩, ⟨.circle, 1, ⟨1, 0⟩, ⟨1, 0⟩, ⟨0, 0⟩, false⟩)] := rfl
  rw [due, rebuilt, listed, List.filterMap_cons_some (entry first rfl rfl),
    List.filterMap_cons_some (entry second rfl rfl), List.filterMap_nil]
  rfl

/-- The circles are in contact then, one unit deep. -/
theorem meetingWorld_meets : ∃ c : Contact ℝ, ((Shape.circle ⟨0, 1⟩).translate ⟨1, 0⟩).meet
    ((Shape.circle ⟨0, 1⟩).translate ⟨2, 0⟩) = .contact c ∧ c.normal = ⟨-1, 0⟩ ∧ c.depth = 1 := by
  let a : Circle ℝ := (⟨0, 1⟩ : Circle ℝ).translate ⟨1, 0⟩
  let b : Circle ℝ := (⟨0, 1⟩ : Circle ℝ).translate ⟨2, 0⟩
  have way : a.center - b.center = ⟨-1, 0⟩ := by
    ext <;> norm_num [a, b, Circle.translate]
  have distance : a.center.distance b.center = 1 := by
    rw [Vector2.distance, way]
    exact Vector2.length_eq_one (by norm_num [Vector2.lengthSquared, Vector2.dot])
  have notable : (1 : ℝ) > negligibleLength := by norm_num [negligibleLength]
  refine ⟨_, Circle.meet_eq_contact_iff.mpr ⟨?_, rfl⟩, ?_, ?_⟩
  · rw [way]
    norm_num [a, b, Circle.translate, Vector2.lengthSquared, Vector2.dot]
  · rw [distance, way, if_pos notable]
    ext <;> simp
  · rw [distance]
    norm_num [a, b, Circle.translate]

theorem meetingWorld_collides : ∃ c : Contact ℝ, c.normal = ⟨-1, 0⟩ ∧ c.depth = 1 ∧
    (meetingWorld.moved 1).collision? (.of ⟨0, 0⟩ ⟨1, 0⟩) =
      some (⟨⟨0, 0⟩, ⟨1, 0⟩, 0, 0, false, .contact c⟩, c) := by
  obtain ⟨_, _, placed, placed'⟩ := meetingWorld_moved
  obtain ⟨c, met, normal, depth⟩ := meetingWorld_meets
  have examined := examination_of_placed (p := .of ⟨0, 0⟩ ⟨1, 0⟩) (w := meetingWorld.moved 1)
    (a := ⟨.circle, 0, ⟨0, 0⟩, ⟨0, 0⟩, ⟨0, 0⟩, false⟩)
    (b := ⟨.circle, 1, ⟨1, 0⟩, ⟨1, 0⟩, ⟨0, 0⟩, false⟩) rfl rfl (by simp) placed placed'
  refine ⟨c, normal, depth, ?_⟩
  rw [collision?, examined, met]
  rfl

/-- The contact turns the first body back. -/
theorem meetingWorld_parted : ∃ v,
    ((meetingWorld.moved 1).parted (.of ⟨0, 0⟩ ⟨1, 0⟩)).bodies.get ⟨0, 0⟩ = .ok v ∧
      v.velocity = ⟨-27 / 5, 0⟩ := by
  obtain ⟨first, second, _, _⟩ := meetingWorld_moved
  obtain ⟨c, normal, _, collides⟩ := meetingWorld_collides
  let a : Body ℝ := ⟨⟨1, 0⟩, ⟨1, 0⟩, 1, 0, .moving⟩
  let b : Body ℝ := ⟨⟨2, 0⟩, ⟨-7, 0⟩, 4, 0, .moving⟩
  have both : (meetingWorld.moved 1).bodies.getPair ⟨0, 0⟩ ⟨1, 0⟩ = .ok (a, b) := by
    rw [Arena.getPair, first, second]
    rfl
  have heavy : 0 < a.mass := one_pos
  have inverse : a.inverseMass = 1 := (Body.inverseMass_of_moving rfl heavy).trans (div_one 1)
  have inverse' : b.inverseMass = 1 / 4 := Body.inverseMass_of_moving rfl four_pos
  have shared := Solver.shared_resolve (meetingWorld.moved 1).solver 0 0 c (a := a) (b := b)
    (by rw [inverse, inverse']; norm_num)
  have given : Solver.exchanged a b (pairRestitution a.mass 0 b.mass 0) c.normal = 32 / 5 := by
    rw [Solver.exchanged, Solver.impulse, inverse, inverse', normal]
    norm_num [pairRestitution, a, b, Vector2.dot]
  rw [parted, collides]
  dsimp only
  rw [run_resolve, both]
  refine ⟨_, (Arena.get_write_of_ne (i := 1) Nat.zero_ne_one).mpr
    (Arena.get_write_of_get first ?_), ?_⟩
  · rw [shared.first]
    exact decide_eq_true heavy
  · rw [shared.first, shared.impulse, given, inverse, normal]
    ext <;> norm_num [a]

theorem momentum_of_frames_meeting :
    let w := meetingWorld
    let react : Reaction ℝ Unit Unit := fun l _ _ => pure (l, ())
    let dts : List ℝ := [1]
    let before := after react (dts.map .update) w
    let out := after react ((dts ++ [2]).map .update) w
    w.Isolated ∧
      (∃ x c, (w.moved 1).collision? (.of ⟨0, 0⟩ ⟨1, 0⟩) = some (x, c) ∧ c.depth = 1) ∧
      (∃ v, before.bodies.get ⟨0, 0⟩ = .ok v ∧ v.velocity = ⟨-27 / 5, 0⟩) ∧
      out.momentum = w.momentum ∧ out.moment = before.moment + w.momentum * (2 : ℝ) := by
  intro w react dts before out
  have drifting : ∀ b v, w.bodies.get b = .ok v → v.Drifting := by
    rintro ⟨i, generation⟩ v found
    have there := (Arena.get_eq_ok_iff.mp found).1
    match i, there with
    | 0, there =>
        obtain rfl := congrArg Slot.entity (Option.some.inj there)
        exact ⟨rfl, rfl⟩
    | 1, there =>
        obtain rfl := congrArg Slot.entity (Option.some.inj there)
        exact ⟨rfl, rfl⟩
  have isolated : w.Isolated := ⟨rfl, rfl, rfl, drifting⟩
  obtain ⟨c, _, depth, collides⟩ := meetingWorld_collides
  refine ⟨isolated, ⟨_, c, collides, depth⟩, ?_, momentum_of_frames react isolated dts 2⟩
  obtain ⟨touching, state, _⟩ := state_update_unheard react 1 isolated.idle isolated.silent
  have bodies : before.bodies = ((w.due 1).foldl parted (w.moved 1)).bodies := by
    show ((World.update react 1).run w).state.bodies = _
    rw [state]
  rw [bodies, meetingWorld_due]
  exact meetingWorld_parted

end World

end PlanarDynamics
