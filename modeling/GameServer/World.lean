/-! A world and the players that live in it. A player is spawned first and enters later; ids are
given out in turn, so two players may share a name but not, until the ids wrap, an id. -/

namespace GameServer

structure Entity where
  id : UInt32
  name : String
  deriving DecidableEq

structure World where
  name : String
  live : List Entity
  nextId : UInt32

namespace World

def create (name : String) : World := { name, live := [], nextId := 1 }

/-- The new player gets the next id and does not live in the world yet. -/
def spawn (world : World) (name : String) : Entity × World :=
  (⟨world.nextId, name⟩, { world with nextId := world.nextId + 1 })

def isLive (world : World) (id : UInt32) : Bool := world.live.any (·.id == id)

/-- Whoever lived under the same id is replaced. -/
def enter (world : World) (entity : Entity) : World :=
  { world with live := world.live.filter (·.id != entity.id) ++ [entity] }

def leave (world : World) (id : UInt32) : World :=
  { world with live := world.live.filter (·.id != id) }

def online (world : World) : Nat := world.live.length

theorem mem_live_enter {world : World} {entity other : Entity} :
    other ∈ (world.enter entity).live ↔
      other ∈ world.live ∧ other.id ≠ entity.id ∨ other = entity := by
  simp [enter]

theorem mem_live_leave {world : World} {id : UInt32} {other : Entity} :
    other ∈ (world.leave id).live ↔ other ∈ world.live ∧ other.id ≠ id := by
  simp [leave]

theorem isLive_iff {world : World} {id : UInt32} :
    world.isLive id ↔ ∃ entity ∈ world.live, entity.id = id := by
  simp [isLive]

@[simp] theorem isLive_enter (world : World) (entity : Entity) (id : UInt32) :
    (world.enter entity).isLive id = (world.isLive id || entity.id == id) := by
  simp only [isLive, enter, List.any_append, List.any_filter, List.any_cons, List.any_nil,
    Bool.or_false]
  by_cases h : entity.id = id
  · simp [h]
  · simp only [beq_eq_false_iff_ne.mpr h, Bool.or_false]
    congr 1
    funext other
    by_cases k : other.id = id
    · simp [k, Ne.symm h]
    · simp [k]

@[simp] theorem isLive_leave (world : World) (left id : UInt32) :
    (world.leave left).isLive id = (world.isLive id && id != left) := by
  simp only [isLive, leave, List.any_filter]
  by_cases h : id = left
  · simp [h]
  · simp only [bne_iff_ne.mpr h, Bool.and_true]
    congr 1
    funext other
    by_cases k : other.id = id
    · simp [k, h]
    · simp [k]

theorem nodup_ids_leave {world : World} (h : (world.live.map (·.id)).Nodup) (id : UInt32) :
    ((world.leave id).live.map (·.id)).Nodup :=
  h.sublist (List.filter_sublist.map _)

theorem nodup_ids_enter {world : World} (h : (world.live.map (·.id)).Nodup) (entity : Entity) :
    ((world.enter entity).live.map (·.id)).Nodup := by
  simp only [enter, List.map_append, List.map_cons, List.map_nil]
  refine List.nodup_append.mpr ⟨nodup_ids_leave h entity.id, by simp, ?_⟩
  intro id hid new hnew
  obtain ⟨other, hother, rfl⟩ := List.mem_map.mp hid
  rw [List.mem_singleton.mp hnew]
  simpa using (List.mem_filter.mp hother).2

end World

inductive Player
  /-- Lives in the server's own world. -/
  | native (entity : Entity)
  /-- Lives in a world kept elsewhere, which is told of it and answers nothing. -/
  | guest (name : String)
  deriving DecidableEq

def Player.name : Player → String
  | .native entity => entity.name
  | .guest name => name

end GameServer
