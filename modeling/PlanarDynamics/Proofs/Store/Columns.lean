import PlanarDynamics.Proofs.Store.Books
import PlanarDynamics.Proofs.Store.Liveness
import PlanarDynamics.Proofs.Store.StaleHandles

/-!
# Arenas in two columns

An arena can be kept in two columns, one of the entities and one of the generations (`Columns`).
They are searched, checked, extended, paired and emptied one by one, and nothing in the columns
themselves says that they are of one length. A look-up behind the end of a column has no answer.

The columns of an arena (`Arena.columns`) are of one length. What is done to them is what is done to
the arena, and no look-up goes behind their ends (`Columns.Follows`, `Columns.follows_perform`).
Hence after any edits of an arena that was empty the columns show what the arena shows, and all
views of the arena agree (`Columns.views_agree`).
-/

set_option autoImplicit false

namespace PlanarDynamics

/-- An arena in two columns. -/
@[ext]
structure Columns (k : StoreKind) (ε : Type) where
  entities : List ε
  generations : List Nat
  /-- The generation of entries to come. -/
  base : Nat
  growth : Float32
  /-- The memory held, oldest first. -/
  blocks : List Request

/-- The columns of an arena. -/
def Arena.columns {k : StoreKind} {ε : Type} (a : Arena k ε) : Columns k ε where
  entities := a.slots.toList.map Slot.entity
  generations := a.slots.toList.map Slot.generation
  base := a.base
  growth := a.growth
  blocks := a.blocks

namespace Columns

variable {k : StoreKind} {ε σ β γ : Type}

/-- Columns without entries. -/
def empty (growth : Float32) : Columns k ε := ⟨[], [], 0, growth, []⟩

/-- What is read off columns: a value or a fault, or nothing where a column has no entry. -/
abbrev Look (β : Type) : Type := ExceptT Fault Option β

/-- A computation on columns and the memory behind them, which breaks off where a column has no
entry. -/
abbrev Work (k : StoreKind) (ε β : Type) : Type :=
  ExceptT Fault (StateT (Memory × Columns k ε) Option) β

/-- The entry of a column at a place. -/
def entry (column : List β) (i : Nat) : Look β := ExceptT.lift column[i]?

/-! ## Reading -/

section Reading

variable [Entity ε]

/-- Accept a handle, or say why not: by its place in the column of generations, and then by the same
place in that of entities. -/
def check (c : Columns k ε) (h : Handle k) : Look Unit :=
  match c.generations[h.index]? with
  | none => throw (.outOfRange k h.index c.generations.length)
  | some current => do
    if current ≠ h.generation then
      throw (.stale k h.index h.generation current)
    let v ← entry c.entities h.index
    if !Entity.isLive v then
      throw (.stale k h.index h.generation current)

/-- The entity that a handle names. -/
protected def get (c : Columns k ε) (h : Handle k) : Look ε := do
  c.check h
  entry c.entities h.index

/-- The entities that two handles name. -/
def getPair (c : Columns k ε) (h₁ h₂ : Handle k) : Look (ε × ε) := do
  c.check h₁
  c.check h₂
  if h₁.index = h₂.index then
    throw (.aliased k h₁.index)
  return (← entry c.entities h₁.index, ← entry c.entities h₂.index)

/-- Whether a handle is accepted. -/
def contains (c : Columns k ε) (h : Handle k) : Option Bool := Except.isOk <$> (c.check h).run

/-- The handle of the live entity at a place. -/
def handleAt? (c : Columns k ε) (i : Nat) : Option (Option (Handle k)) :=
  match c.entities[i]? with
  | none => some none
  | some v =>
    if Entity.isLive v then (fun generation => some ⟨i, generation⟩) <$> c.generations[i]?
    else some none

/-- The live entities of two columns side by side, with their handles, from a place on. The rest
of the longer column is left out. -/
def entriesFrom (i : Nat) (entities : List ε) (generations : List Nat) : List (Handle k × ε) :=
  (((entities.zip generations).zipIdx i).filter fun x => Entity.isLive x.1.1).map
    fun x => (⟨x.2, x.1.2⟩, x.1.1)

/-- The live entities with their handles. -/
def entries (c : Columns k ε) : List (Handle k × ε) := entriesFrom 0 c.entities c.generations

/-- The number of live entities. -/
def liveCount (c : Columns k ε) : Nat := c.entities.countP Entity.isLive

/-- The length of the column of entities. -/
def capacity (c : Columns k ε) : Nat := c.entities.length

/-- Visit the live entities of two columns side by side, from a place on. The visitor is given the
handle and may exchange the entity; what it wants to remember is passed on. -/
def sweepFrom (visit : Handle k → ε → σ → ε × σ) : Nat → List ε → List Nat → σ → List ε × σ
  | i, v :: entities, generation :: generations, s =>
    let first := if Entity.isLive v then visit ⟨i, generation⟩ v s else (v, s)
    let rest := sweepFrom visit (i + 1) entities generations first.2
    (first.1 :: rest.1, rest.2)
  | _, entities, _, s => (entities, s)

/-- Visit the live entities in place. -/
def sweep (c : Columns k ε) (visit : Handle k → ε → σ → ε × σ) (s : σ) : Columns k ε × σ :=
  let swept := sweepFrom visit 0 c.entities c.generations s
  ({ c with entities := swept.1 }, swept.2)

end Reading

/-! ## Editing -/

/-- Read the columns. -/
def look (r : Columns k ε → Look β) : Work k ε β :=
  ExceptT.mk fun s => (·, s) <$> (r s.2).run

/-- Change the columns. -/
def change (f : Columns k ε → Columns k ε) : Work k ε Unit :=
  modifyThe (Memory × Columns k ε) fun s => (s.1, f s.2)

/-- Write an entity to a place of its column. -/
def put (i : Nat) (v : ε) : Work k ε Unit := do
  let _ ← look fun c => entry c.entities i
  change fun c => { c with entities := c.entities.set i v }

/-- Raise the generation at a place of its column. -/
def raise (i : Nat) : Work k ε Unit := do
  let generation ← look fun c => entry c.generations i
  change fun c => { c with generations := c.generations.set i (generation + 1) }

/-- Ask the memory for a block. -/
def allocate (block : Request) : Work k ε Unit :=
  ExceptT.mk fun s => some ((s.1.request block).answer, ((s.1.request block).state, s.2))

/-- A column cut or filled up to a length. -/
def resize (column : List β) (length : Nat) (b : β) : List β :=
  column.take length ++ List.replicate (length - column.length) b

/-- Columns without entries. The entries to come start above every generation there has been. -/
def cleared (c : Columns k ε) : Columns k ε where
  entities := []
  generations := []
  base := match c.generations.max? with
    | some newest => max c.base (newest + 1)
    | none => c.base
  growth := c.growth
  blocks := []

/-- Hand back all blocks and empty the columns. -/
def clear : Work k ε Unit :=
  modifyThe (Memory × Columns k ε) fun s => (s.1.returned s.2.blocks, s.2.cleared)

section Operations

variable [Entity ε]

/-- The columns with vacant entries added, each on its own, against a block of memory. -/
def extended (c : Columns k ε) (length : Nat) (block : Request) : Columns k ε :=
  { c with
    entities := c.entities ++ List.replicate (length - c.entities.length) Entity.vacant
    generations := resize c.generations length c.base
    blocks := c.blocks ++ [block] }

/-- Grow to a length at least, which is that of the entities. -/
def grow (length : Nat) : Work k ε Unit := do
  let (_, c) ← getThe (Memory × Columns k ε)
  if length - c.entities.length ≠ 0 then
    match Arena.blockFor? ε (length - c.entities.length) with
    | none => throw (.allocationFailed wordMax 0)
    | some block =>
      allocate block
      change (·.extended length block)

/-- Put an entity to a place of its column, and read its generation off the other. -/
def store (i : Nat) (v : ε) : Work k ε (Handle k) := do
  put i v
  return ⟨i, ← look fun c => entry c.generations i⟩

/-- Put an entity into the first vacant place, or into the first of those that are added. -/
def create (v : ε) : Work k ε (Handle k) := do
  let (_, c) ← getThe (Memory × Columns k ε)
  match c.entities.findIdx? fun v => !Entity.isLive v with
  | some i => store i v
  | none =>
    grow (Arena.nextLength c.entities.length c.growth)
    store c.entities.length v

/-- Vacate the place of a handle. -/
def destroy (h : Handle k) : Work k ε Unit := do
  look (·.check h)
  put h.index Entity.vacant
  raise h.index

/-- Carry out an edit on columns. -/
def perform : ArenaEdit k ε → Work k ε (Option (Handle k))
  | .create v => some <$> create v
  | .destroy h => do
    destroy h
    return none
  | .reserve length => do
    grow length
    return none
  | .clear => do
    clear
    return none
  | .modify h f => do
    put h.index (f (← look (·.get h)))
    return none
  | .modifyPair h₁ h₂ f => do
    let (v₁, v₂) ← look (·.getPair h₁ h₂)
    put h₁.index (f v₁ v₂).1
    put h₂.index (f v₁ v₂).2
    return none
  | .modifyLive f => do
    change fun c => (c.sweep (fun h v (_ : Unit) => (f h v, ())) ()).1
    return none
  | .share memory => do
    modifyThe (Memory × Columns k ε) fun s => (memory, s.2)
    return none

/-- The memory and the columns after several edits. -/
def runFrom (s : Memory × Columns k ε) (edits : List (ArenaEdit k ε)) :
    Option (Memory × Columns k ε) :=
  edits.foldlM (fun s edit => Prod.snd <$> (perform edit).run.run s) s

/-- The columns show what an arena shows. -/
structure Shows (c : Columns k ε) (a : Arena k ε) : Prop where
  get : ∀ h, (c.get h).run = some (a.get h)
  getPair : ∀ h₁ h₂, (c.getPair h₁ h₂).run = some (a.getPair h₁ h₂)
  contains : ∀ h, c.contains h = some (a.contains h)
  handleAt? : ∀ i, c.handleAt? i = some (a.handleAt? i)
  entries : c.entries = a.entries
  /-- The same entities are visited in place, with the same handles and in the same order. -/
  visited : ∀ {σ : Type} (visit : Handle k → ε → σ → ε × σ) (s : σ),
    (c.sweep visit s).2 = a.entries.foldl (fun s x => (visit x.1 x.2 s).2) s
  liveCount : c.liveCount = a.liveCount
  capacity : c.capacity = a.capacity
  generation? : ∀ i, c.generations[i]? = a.generation? i
  /-- An edit has the same answer, and leaves the columns of what it leaves of the arena. -/
  perform : ∀ (edit : ArenaEdit k ε) m, (perform edit).run.run (m, c) =
    some ((edit.outcome (m, a)).answer, (edit.outcome (m, a)).state.1,
      (edit.outcome (m, a)).state.2.columns)

end Operations

/-! ## The columns of an arena -/

theorem getElem?_entities (a : Arena k ε) (i : Nat) :
    a.columns.entities[i]? = a.slots[i]?.map Slot.entity := by
  simp [Arena.columns]

theorem getElem?_generations (a : Arena k ε) (i : Nat) :
    a.columns.generations[i]? = a.generation? i := by
  simp [Arena.columns, Arena.generation?]

theorem length_entities (a : Arena k ε) : a.columns.entities.length = a.capacity := by
  simp [Arena.columns, Arena.capacity]

theorem length_generations (a : Arena k ε) : a.columns.generations.length = a.capacity := by
  simp [Arena.columns, Arena.capacity]

theorem columns_write (a : Arena k ε) (i : Nat) (v : ε) :
    (a.write i v).columns = { a.columns with entities := a.columns.entities.set i v } := by
  apply Columns.ext
  case entities =>
    apply List.ext_getElem?
    intro j
    rw [getElem?_entities, Arena.slots_write, List.getElem?_set, getElem?_entities, length_entities]
    by_cases here : i = j
    · subst here
      by_cases inside : i < a.capacity
      · simp [inside, Array.getElem?_eq_getElem (show i < a.slots.size from inside)]
      · simp [inside, Array.getElem?_eq_none (show a.slots.size ≤ i from Nat.not_lt.mp inside)]
    · simp [here]
  case generations =>
    apply List.ext_getElem?
    intro j
    show _ = a.columns.generations[j]?
    rw [getElem?_generations, getElem?_generations, Arena.generation?_write]
  case base | growth | blocks => rfl

/-- The newest generation there has been decides about the next base. -/
theorem foldl_generations (generations : List Nat) (base : Nat) :
    generations.foldl (fun b generation => max b (generation + 1)) base =
      match generations.max? with
      | some newest => max base (newest + 1)
      | none => base := by
  induction generations generalizing base with
  | nil => rfl
  | cons generation rest ih =>
      rw [List.foldl_cons, ih, List.max?_cons]
      cases rest.max? with
      | none => rfl
      | some newest =>
          simp only [Option.elim_some]
          omega

theorem columns_cleared (a : Arena k ε) : a.cleared.columns = a.columns.cleared := by
  apply Columns.ext
  case base =>
    show a.slots.foldl _ a.base = _
    rw [cleared, ← foldl_generations, Arena.columns, List.foldl_map, Array.foldl_toList]
  case entities | generations | growth | blocks => rfl

/-! ## Computations on columns -/

theorem run_bind (w : Work k ε β) (f : β → Work k ε γ) (s : Memory × Columns k ε) :
    (w >>= f).run.run s = (w.run.run s).bind fun out =>
      match out.1 with
      | .ok b => (f b).run.run out.2
      | .error fault => some (.error fault, out.2) := by
  show (w.run.run s).bind _ = _
  congr 1
  funext ⟨answer, t⟩
  cases answer <;> rfl

theorem run_look (r : Columns k ε → Look β) (s : Memory × Columns k ε) :
    (look r).run.run s = (·, s) <$> (r s.2).run := rfl

theorem run_get_bind (f : Memory × Columns k ε → Work k ε β) (s : Memory × Columns k ε) :
    (getThe (Memory × Columns k ε) >>= f).run.run s = (f s).run.run s := rfl

/-- An entity can be written where there is a slot. -/
theorem run_put {a : Arena k ε} {i : Nat} (inside : i < a.capacity) (v : ε) (m : Memory) :
    (put i v).run.run (m, a.columns) = some (.ok (), m, (a.write i v).columns) := by
  have there : a.slots[i]? = some a.slots[i] := Array.getElem?_eq_getElem inside
  rw [put, run_bind, run_look, entry, getElem?_entities, there, columns_write]
  rfl

theorem run_store {a : Arena k ε} {i : Nat} (inside : i < a.capacity) (v : ε) (m : Memory) :
    (store i v).run.run (m, a.columns) =
      some (.ok ⟨i, a.generationAt i⟩, m, (a.write i v).columns) := by
  have there : a.generation? i = some a.slots[i].generation := by
    rw [Arena.generation?, Array.getElem?_eq_getElem (show i < a.slots.size from inside)]
    rfl
  rw [store, run_bind, run_put inside, Arena.generationAt, there]
  show (look _ >>= _ : Work k ε (Handle k)).run.run _ = _
  rw [run_bind, run_look, entry, getElem?_generations, Arena.generation?_write, there]
  rfl

/-! ## Columns follow arenas -/

/-- A computation on columns does what one on an arena does, without a look-up behind the end
of a column. -/
def Follows (w : Work k ε β) (m : Fallible StoreNote (Memory × Arena k ε) β) : Prop :=
  ∀ s, w.run.run (s.1, s.2.columns) = some ((m.attempt.run s).answer, (m.attempt.run s).state.1,
    (m.attempt.run s).state.2.columns)

theorem Follows.pure (b : β) : Follows (Pure.pure b : Work k ε β) (Pure.pure b) := fun _ => rfl

theorem Follows.bind {w : Work k ε β} {m : Fallible StoreNote (Memory × Arena k ε) β}
    (first : Follows w m) {f : β → Work k ε γ}
    {g : β → Fallible StoreNote (Memory × Arena k ε) γ} (rest : ∀ b, Follows (f b) (g b)) :
    Follows (w >>= f) (m >>= g) := by
  intro s
  rw [run_bind, first s, Fallible.run_bind]
  cases (m.attempt.run s).answer with
  | ok b => exact rest b (m.attempt.run s).state
  | error fault => rfl

theorem follows_clear : Follows (clear : Work k ε Unit) (Fallible.always Arena.clear) := by
  intro s
  rw [Fallible.run_always, Arena.state_clear_eq]
  show _ = some (Except.ok (), s.1.returned s.2.blocks, s.2.cleared.columns)
  rw [columns_cleared]
  rfl

/-- An arena that is replaced, unless that is refused. -/
theorem follows_replace {w : Work k ε (Option (Handle k))}
    {f : Arena k ε → Except Fault (Arena k ε)}
    (same : ∀ m a, w.run.run (m, a.columns) = some (match f a with
      | .ok b => (.ok none, m, b.columns)
      | .error fault => (.error fault, m, a.columns))) :
    Follows w (ArenaEdit.replace f) := by
  rintro ⟨m, a⟩
  rw [ArenaEdit.run_replace, same]
  dsimp only
  cases f a with
  | ok b => rfl
  | error fault => rfl

variable [Entity ε]

/-! ### What is read -/

/-- A handle is accepted or rejected as by the arena. -/
theorem check_columns (a : Arena k ε) (h : Handle k) :
    (a.columns.check h).run = some ((fun _ => ()) <$> a.get h) := by
  unfold check Arena.get
  rw [getElem?_generations, Arena.generation?, length_generations]
  cases there : a.slots[h.index]? with
  | none => rfl
  | some s =>
      have entity : a.columns.entities[h.index]? = some s.entity := by
        rw [getElem?_entities, there]
        rfl
      simp only [Option.map_some, entry, entity]
      by_cases same : s.generation = h.generation
      · cases live : Entity.isLive s.entity <;> simp [same, live, Slot.isLive]
      · simp only [ne_eq, same, not_false_eq_true, if_true, false_and, if_false]
        rfl

/-- The entity of a handle stands in its column. -/
theorem entry_entities {a : Arena k ε} {h : Handle k} {v : ε} (found : a.get h = .ok v) :
    entry a.columns.entities h.index = pure v := by
  rw [entry, getElem?_entities, (Arena.get_eq_ok_iff.mp found).1]
  rfl

theorem get_columns (a : Arena k ε) (h : Handle k) : (a.columns.get h).run = some (a.get h) := by
  rw [Columns.get, ExceptT.run_bind, check_columns]
  cases found : a.get h with
  | error fault => rfl
  | ok v => exact congrArg ExceptT.run (entry_entities found)

theorem getPair_columns (a : Arena k ε) (h₁ h₂ : Handle k) :
    (a.columns.getPair h₁ h₂).run = some (a.getPair h₁ h₂) := by
  rw [getPair, ExceptT.run_bind, check_columns, Arena.getPair]
  cases first : a.get h₁ with
  | error fault => rfl
  | ok v₁ =>
      show (a.columns.check h₂ >>= _ : Look _).run = _
      rw [ExceptT.run_bind, check_columns]
      cases second : a.get h₂ with
      | error fault => rfl
      | ok v₂ =>
          show ExceptT.run (if h₁.index = h₂.index then _ else _ : Look _) = _
          by_cases same : h₁.index = h₂.index
          · simp only [if_pos same]
            rfl
          · simp only [if_neg same, entry_entities first, entry_entities second]
            rfl

theorem contains_columns (a : Arena k ε) (h : Handle k) :
    a.columns.contains h = some (a.contains h) := by
  rw [contains, check_columns, Arena.contains]
  cases a.get h <;> rfl

theorem handleAt?_columns (a : Arena k ε) (i : Nat) :
    a.columns.handleAt? i = some (a.handleAt? i) := by
  unfold handleAt? Arena.handleAt?
  rw [getElem?_entities, getElem?_generations, Arena.generation?]
  cases a.slots[i]? with
  | none => rfl
  | some s =>
      simp only [Option.map_some]
      cases live : Entity.isLive s.entity <;> simp [live, Slot.isLive]

theorem entries_columns (a : Arena k ε) : a.columns.entries = a.entries := by
  have listed : (fun x : Slot ε × Nat => if x.1.isLive then
      some ((⟨x.2, x.1.generation⟩ : Handle k), x.1.entity) else none) =
      fun x => (Option.guard (fun x : Slot ε × Nat => x.1.isLive) x).map
        fun x => (⟨x.2, x.1.generation⟩, x.1.entity) := by
    funext x
    cases live : x.1.isLive <;> simp [Option.guard, live]
  rw [entries, entriesFrom, Arena.columns, List.zip_map', List.zipIdx_map, List.filter_map,
    List.map_map, Arena.entries, listed, ← List.map_filterMap, List.filterMap_eq_filter]
  rfl

theorem liveCount_columns (a : Arena k ε) : a.columns.liveCount = a.liveCount := by
  rw [liveCount, Arena.columns, List.countP_map, Arena.liveCount, ← Array.countP_toList]
  rfl

/-! ### What is visited -/

/-- The entities that are visited are the entries, whatever the columns. -/
theorem state_sweepFrom (visit : Handle k → ε → σ → ε × σ) (entities : List ε)
    (generations : List Nat) (i : Nat) (s : σ) :
    (sweepFrom visit i entities generations s).2 =
      (entriesFrom i entities generations).foldl (fun s x => (visit x.1 x.2 s).2) s := by
  induction entities generalizing generations i s with
  | nil => rfl
  | cons v entities ih =>
      cases generations with
      | nil => rfl
      | cons generation generations =>
          cases live : Entity.isLive v <;>
            simp [sweepFrom, live, ih, entriesFrom]

/-- A sweep that remembers nothing changes the entities one by one. -/
theorem entities_sweepFrom (f : Handle k → ε → ε) (slots : List (Slot ε)) (i : Nat) :
    (sweepFrom (fun h v (_ : Unit) => (f h v, ())) i (slots.map Slot.entity)
      (slots.map Slot.generation) ()).1 =
      slots.mapIdx fun j s => if s.isLive then f ⟨i + j, s.generation⟩ s.entity else s.entity := by
  induction slots generalizing i with
  | nil => rfl
  | cons s slots ih =>
      have later : ∀ j, i + 1 + j = i + (j + 1) := by omega
      rw [List.mapIdx_cons]
      simp only [List.map_cons, sweepFrom, ih, later]
      cases live : Entity.isLive s.entity <;> simp [live, Slot.isLive]

theorem sweep_columns (a : Arena k ε) (f : Handle k → ε → ε) :
    (a.columns.sweep (fun h v (_ : Unit) => (f h v, ())) ()).1 = (a.editLive f).columns := by
  have swept := entities_sweepFrom f a.slots.toList 0
  simp only [Nat.zero_add] at swept
  apply Columns.ext
  case entities =>
    apply swept.trans
    apply List.ext_getElem?
    intro i
    simp only [List.getElem?_mapIdx, getElem?_entities, Arena.editLive, Array.getElem?_mapIdx,
      Array.getElem?_toList, Option.map_map]
    congr 1
    funext s
    simp only [Function.comp_apply]
    split <;> rfl
  case generations =>
    apply List.ext_getElem?
    intro i
    show a.columns.generations[i]? = _
    rw [getElem?_generations, getElem?_generations, Arena.generation?_editLive]
  case base | growth | blocks => rfl

/-! ### What is edited -/

/-- Extending an arena extends its columns. Nothing is cut off from the column of generations, which
is as long as that of entities. -/
theorem columns_extend {a : Arena k ε} {length : Nat} (short : a.capacity < length)
    (block : Request) : (a.extend length block).columns = a.columns.extended length block := by
  have whole : a.columns.generations.take length = a.columns.generations :=
    List.take_of_length_le (by rw [length_generations]; exact short.le)
  rw [extended, resize, whole, length_generations, length_entities]
  simp [Arena.columns, Arena.extend]

theorem follows_reserve (length : Nat) :
    Follows (grow length : Work k ε Unit) (Arena.reserve length) := by
  rintro ⟨m, a⟩
  rw [Arena.run_reserve, grow, run_get_bind]
  dsimp only
  rw [length_entities]
  by_cases short : a.capacity < length
  · rw [if_pos short, if_pos (by omega)]
    cases Arena.blockFor? ε (length - a.capacity) with
    | none => rfl
    | some block =>
        have asked : (allocate block : Work k ε Unit).run.run (m, a.columns) =
          some ((m.request block).answer, ((m.request block).state, a.columns)) := rfl
        dsimp only
        rw [run_bind, asked]
        cases (m.request block).answer with
        | error fault => rfl
        | ok _ =>
            dsimp only
            rw [columns_extend short]
            rfl
  · rw [if_neg short, if_neg (by omega)]
    rfl

theorem follows_create (v : ε) : Follows (create v : Work k ε (Handle k)) (Arena.create v) := by
  rintro ⟨m, a⟩
  have searched : a.columns.entities.findIdx? (fun v => !Entity.isLive v) = a.firstVacant? := by
    obtain ⟨⟨slots⟩, _, _, _⟩ := a
    simp only [Arena.columns, Arena.firstVacant?, List.findIdx?_map, List.findIdx?_toArray]
    rfl
  rw [Arena.run_create, create, run_get_bind]
  dsimp only
  rw [searched]
  cases free : a.firstVacant? with
  | some i =>
      obtain ⟨inside, _⟩ := Array.findIdx?_eq_some_iff_getElem.mp free
      exact run_store inside v m
  | none =>
      have short := Arena.capacity_lt_nextLength a.capacity a.growth
      have growth : a.columns.growth = a.growth := rfl
      dsimp only
      rw [length_entities, growth, run_bind, follows_reserve _ (m, a)]
      cases granted : ((Arena.reserve (Arena.nextLength a.capacity a.growth)).attempt.run
        (m, a)).answer with
      | error fault => rfl
      | ok _ =>
          obtain ⟨block, _, _, state⟩ := Arena.extend_of_reserve (s := (m, a)) short granted
          have grown := (Arena.capacity_extend a _ block).trans (Nat.add_sub_cancel' short.le)
          have inside := short.trans_eq grown.symm
          dsimp only [Option.bind_some] at state ⊢
          rw [state, run_store inside, Arena.generationAt_extend]

/-- A slot is vacated in both columns. -/
theorem columns_vacated {a : Arena k ε} {i generation : Nat}
    (there : a.generation? i = some generation) :
    ({ a with slots := a.slots.modify i fun s => ⟨Entity.vacant, s.generation + 1⟩ } :
      Arena k ε).columns = { (a.write i Entity.vacant).columns with
        generations := (a.write i Entity.vacant).columns.generations.set i (generation + 1) } := by
  apply Columns.ext
  case entities =>
    apply List.ext_getElem?
    intro j
    rw [getElem?_entities, getElem?_entities, Arena.slots_write, Array.getElem?_modify]
    split
    · rw [Option.map_map, Option.map_map]
      rfl
    · rfl
  case generations =>
    obtain ⟨s, slot, rfl⟩ := Option.map_eq_some_iff.mp there
    have inside : i < a.capacity := (Array.getElem?_eq_some_iff.mp slot).1
    apply List.ext_getElem?
    intro j
    rw [getElem?_generations, List.getElem?_set, getElem?_generations, Arena.generation?_write,
      length_generations, Arena.capacity_write, if_pos inside, Arena.generation?,
      Array.getElem?_modify]
    by_cases here : i = j
    · rw [if_pos here, if_pos here, ← here, slot]
      rfl
    · rw [if_neg here, if_neg here]
      rfl
  case base | growth | blocks => rfl

theorem follows_destroy (h : Handle k) :
    Follows (perform (.destroy h) : Work k ε _) (ArenaEdit.replace (·.destroy h)) := by
  apply follows_replace
  intro m a
  rw [perform, destroy, bind_assoc, run_bind, run_look, check_columns, Arena.destroy]
  cases found : a.get h with
  | error fault => rfl
  | ok v =>
      have there := (Arena.get_eq_ok_iff.mp found).1
      have generation : a.generation? h.index = some h.generation := by
        rw [Arena.generation?, there]
        rfl
      have inside := Arena.inside_of_get found
      show ((put h.index Entity.vacant >>= fun _ => raise h.index) >>= _ :
        Work k ε _).run.run _ = _
      rw [bind_assoc, run_bind, run_put inside]
      show (raise h.index >>= _ : Work k ε _).run.run _ = _
      rw [raise, bind_assoc, run_bind, run_look, entry, getElem?_generations,
        Arena.generation?_write, generation]
      exact congrArg (fun c => some (Except.ok none, m, c)) (columns_vacated generation).symm

theorem follows_modify (h : Handle k) (f : ε → ε) :
    Follows (perform (.modify h f) : Work k ε _) (ArenaEdit.replace (·.modify h f)) := by
  apply follows_replace
  intro m a
  rw [perform, run_bind, run_look, get_columns, Arena.modify]
  cases found : a.get h with
  | error fault => rfl
  | ok v =>
      have inside := Arena.inside_of_get found
      show (put h.index (f v) >>= _ : Work k ε _).run.run _ = _
      rw [run_bind, run_put inside]
      rfl

theorem follows_modifyPair (h₁ h₂ : Handle k) (f : ε → ε → ε × ε) :
    Follows (perform (.modifyPair h₁ h₂ f) : Work k ε _)
      (ArenaEdit.replace (·.modifyPair h₁ h₂ f)) := by
  apply follows_replace
  intro m a
  rw [perform, run_bind, run_look, getPair_columns, Arena.modifyPair]
  cases found : a.getPair h₁ h₂ with
  | error fault => rfl
  | ok both =>
      obtain ⟨v₁, v₂⟩ := both
      obtain ⟨first, second, _⟩ := Arena.get_of_getPair found
      have inside := Arena.inside_of_get first
      have inside' : h₂.index < (a.write h₁.index (f v₁ v₂).1).capacity := by
        rw [Arena.capacity_write]
        exact Arena.inside_of_get second
      show (put h₁.index (f v₁ v₂).1 >>= fun _ => put h₂.index (f v₁ v₂).2 >>= _ :
        Work k ε _).run.run _ = _
      rw [run_bind, run_put inside]
      dsimp only [Option.bind_some]
      rw [run_bind, run_put inside']
      rfl

theorem follows_modifyLive (f : Handle k → ε → ε) :
    Follows (perform (.modifyLive f) : Work k ε _)
      (ArenaEdit.replace fun a => .ok (a.editLive f)) := by
  apply follows_replace
  intro m a
  dsimp only
  rw [← sweep_columns]
  rfl

/-- **Every edit of columns follows the edit of the arena.** -/
theorem follows_perform (edit : ArenaEdit k ε) : Follows (perform edit) edit.perform := by
  cases edit with
  | create v =>
      exact (follows_create v).bind fun h => .pure (some h)
  | destroy h => exact follows_destroy h
  | reserve length => exact (follows_reserve length).bind fun _ => .pure none
  | clear => exact follows_clear.bind fun _ => .pure none
  | modify h f => exact follows_modify h f
  | modifyPair h₁ h₂ f => exact follows_modifyPair h₁ h₂ f
  | modifyLive f => exact follows_modifyLive f
  | share memory => exact fun _ => rfl

theorem shows_columns (a : Arena k ε) : a.columns.Shows a where
  get := get_columns a
  getPair := getPair_columns a
  contains := contains_columns a
  handleAt? := handleAt?_columns a
  entries := entries_columns a
  visited visit s := by
    rw [← entries_columns]
    exact state_sweepFrom visit a.columns.entities a.columns.generations 0 s
  liveCount := liveCount_columns a
  capacity := length_entities a
  generation? := getElem?_generations a
  perform edit m := follows_perform edit (m, a)

/-! ## Whole runs -/

/-- Columns stay those of the arena. -/
theorem runFrom_columns (edits : List (ArenaEdit k ε)) (s : Memory × Arena k ε) :
    runFrom (s.1, s.2.columns) edits =
      some ((ArenaEdit.runFrom s edits).1, (ArenaEdit.runFrom s edits).2.columns) := by
  induction edits generalizing s with
  | nil => rfl
  | cons edit rest ih =>
      rw [runFrom, List.foldlM_cons, follows_perform edit s]
      exact ih (edit.outcome s).state

/-- **All views of an arena agree.** Whatever edits an arena goes through, two columns that are
edited likewise never lack an entry and show what the arena shows; and the arena shows the same live
entities from all sides. -/
theorem views_agree (growth : Float32) (memory : Memory) (edits : List (ArenaEdit k ε)) :
    let s := ArenaEdit.runFrom (memory, .empty growth) edits
    runFrom (memory, .empty growth) edits = some (s.1, s.2.columns) ∧
      s.2.columns.Shows s.2 ∧ s.2.SeenAlike := by
  intro s
  exact ⟨runFrom_columns edits (memory, .empty growth), shows_columns s.2, s.2.seenAlike⟩

end Columns

end PlanarDynamics
