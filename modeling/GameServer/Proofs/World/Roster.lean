import GameServer.Proofs.Session.Run
import Mathlib.Algebra.Group.Nat.Defs
import Mathlib.Data.List.Nodup

/-! Who is in a world, whatever its players were called. A player is told from the others by the id
that it was spawned with, so that the last call on it alone decides whether it is there. -/

namespace GameServer

/-- A call on a world or on one of its players, which are counted from zero in the order in which
they were spawned. -/
inductive Call
  | spawn (name : String)
  | enter (player : Nat)
  | leave (player : Nat)
  deriving DecidableEq

namespace Call

def player? : Call → Option Nat
  | .spawn _ => none
  | .enter player | .leave player => some player

def name? : Call → Option String
  | .spawn name => some name
  | .enter _ | .leave _ => none

/-- The names of the players that were spawned, in order. -/
def names (calls : List Call) : List String := calls.filterMap name?

/-- The last time that the player was made to enter or to leave. -/
def last? (calls : List Call) (player : Nat) : Option Call :=
  calls.reverse.find? (·.player? = some player)

/-- The player entered, and nothing has been called on it since. -/
def isInside (calls : List Call) (player : Nat) : Bool :=
  last? calls player = some (.enter player)

/-- Players enter and leave only after they have been spawned. -/
inductive Timely : List Call → Prop
  | nil : Timely []
  | concat (calls : List Call) (call : Call) (h : Timely calls)
      (hspawned : ∀ player ∈ call.player?, player < (names calls).length) :
      Timely (calls ++ [call])

theorem last?_concat (calls : List Call) (call : Call) (player : Nat) :
    last? (calls ++ [call]) player =
      if call.player? = some player then some call else last? calls player := by
  rw [last?, List.reverse_concat, List.find?_cons]
  by_cases h : call.player? = some player
  · simp only [h, decide_true, if_true]
  · simp only [h, decide_false, if_false]
    rfl

variable {calls : List Call} {player other : Nat}

@[simp] theorem isInside_spawn (name : String) :
    isInside (calls ++ [.spawn name]) player = isInside calls player := by
  simp only [isInside, last?_concat, player?, reduceCtorEq, if_false]

@[simp] theorem isInside_enter :
    isInside (calls ++ [.enter other]) player = (player == other || isInside calls player) := by
  rw [isInside, last?_concat]
  by_cases h : player = other
  · simp [player?, h]
  · simp [player?, h, Ne.symm h, isInside]

@[simp] theorem isInside_leave :
    isInside (calls ++ [.leave other]) player = (player != other && isInside calls player) := by
  rw [isInside, last?_concat]
  by_cases h : player = other
  · simp [player?, h]
  · simp [player?, h, Ne.symm h, isInside]

theorem names_concat (calls : List Call) (call : Call) :
    names (calls ++ [call]) = names calls ++ call.name?.toList := by
  rw [names, names, List.filterMap_append]
  cases call with
  | spawn name => rfl
  | enter player => rfl
  | leave player => rfl

end Call

open Call

namespace Event

def removal? : Event → Option (String × String)
  | .log (.removed name world) => some (name, world)
  | _ => none

/-- The players that the log says were removed, and the worlds that they were in. -/
def removals (events : List Event) : List (String × String) := events.filterMap removal?

end Event

/-- A scene, and the players that were spawned in its world, in order. -/
structure Roster where
  scene : Scene
  spawned : List Entity

open Event

namespace Roster

def opened (scene : Scene) (worldName : String) : Roster where
  scene := { scene with world := World.create worldName }
  spawned := []

def call (roster : Roster) : Call → Roster
  | .spawn name =>
    let (entity, world) := roster.scene.world.spawn name
    { scene := { roster.scene with world }, spawned := roster.spawned ++ [entity] }
  | .enter player =>
    match roster.spawned[player]? with
    | some entity => { roster with scene := roster.scene.enterWorld (.native entity) }
    | none => roster
  | .leave player =>
    match roster.spawned[player]? with
    | some entity => { roster with scene := roster.scene.leaveWorld (.native entity) }
    | none => roster

def callAll (roster : Roster) (calls : List Call) : Roster := calls.foldl call roster

variable {roster : Roster} {player : Nat} {entity : Entity}

theorem call_enter (h : roster.spawned[player]? = some entity) : roster.call (.enter player) =
    { roster with scene := roster.scene.enterWorld (.native entity) } := by
  simp only [call, h]

theorem call_leave (h : roster.spawned[player]? = some entity) : roster.call (.leave player) =
    { roster with scene := roster.scene.leaveWorld (.native entity) } := by
  simp only [call, h]

theorem call_of_none (h : roster.spawned[player]? = none) {call : Call}
    (hcall : call.player? = some player) : roster.call call = roster := by
  cases call with
  | spawn name => cases hcall
  | enter other =>
    cases hcall
    simp only [Roster.call, h]
  | leave other =>
    cases hcall
    simp only [Roster.call, h]

theorem callAll_concat (roster : Roster) (calls : List Call) (call : Call) :
    roster.callAll (calls ++ [call]) = (roster.callAll calls).call call := by
  rw [callAll, List.foldl_append]
  rfl

/-- The id of the player that is spawned when `player` others have been. -/
def idOf (player : Nat) : UInt32 := UInt32.ofNat (player + 1)

theorem idOf_succ (player : Nat) : idOf (player + 1) = idOf player + 1 := by
  rw [idOf, idOf, UInt32.ofNat_add]
  rfl

theorem nodup_ids {count : Nat} (h : count < 2 ^ 32) : ((List.range count).map idOf).Nodup := by
  refine List.Nodup.map_on (fun a ha b hb hid => ?_) List.nodup_range
  have hnat := congrArg UInt32.toNat hid
  simp only [idOf, UInt32.toNat_ofNat'] at hnat
  have ha := List.mem_range.mp ha
  have hb := List.mem_range.mp hb
  omega

/-- The players have the ids of their turns, and in the world are those that entered it and have not
left it since. -/
structure Sound (roster : Roster) (worldName : String) (calls : List Call) : Prop where
  names_eq : roster.spawned.map (·.name) = names calls
  ids_eq : roster.spawned.map (·.id) = (List.range roster.spawned.length).map idOf
  nextId_eq : roster.scene.world.nextId = idOf roster.spawned.length
  worldName_eq : roster.scene.world.name = worldName
  inside_lt : ∀ player, isInside calls player → player < roster.spawned.length
  live_iff : ∀ entity, entity ∈ roster.scene.world.live ↔
    ∃ player, roster.spawned[player]? = some entity ∧ isInside calls player
  live_nodup : (roster.scene.world.live.map (·.id)).Nodup

variable {worldName : String} {calls : List Call}

theorem sound_opened (scene : Scene) (worldName : String) :
    (opened scene worldName).Sound worldName [] := by
  constructor
  case names_eq => rfl
  case ids_eq => rfl
  case nextId_eq => rfl
  case worldName_eq => rfl
  case inside_lt => exact nofun
  case live_iff => simp [opened, World.create]
  case live_nodup => exact List.nodup_nil

theorem Sound.length_eq (h : roster.Sound worldName calls) :
    roster.spawned.length = (names calls).length := by
  rw [← h.names_eq, List.length_map]

theorem Sound.id_eq (h : roster.Sound worldName calls)
    (hplayer : roster.spawned[player]? = some entity) : entity.id = idOf player := by
  have hlt := (List.getElem?_eq_some_iff.mp hplayer).1
  have hid := congrArg (·[player]?) h.ids_eq
  simp only [List.getElem?_map, hplayer, List.getElem?_range hlt, Option.map_some] at hid
  exact Option.some.inj hid

theorem Sound.nodup (h : roster.Sound worldName calls) (hl : roster.spawned.length < 2 ^ 32) :
    (roster.spawned.map (·.id)).Nodup := by
  rw [h.ids_eq]
  exact nodup_ids hl

theorem Sound.eq_of_id_eq (h : roster.Sound worldName calls)
    (hl : roster.spawned.length < 2 ^ 32) {other : Nat} {entity' : Entity}
    (hentity : roster.spawned[player]? = some entity)
    (hother : roster.spawned[other]? = some entity') (hid : entity.id = entity'.id) :
    player = other := by
  have hlt : player < (roster.spawned.map (·.id)).length := by
    rw [List.length_map]
    exact (List.getElem?_eq_some_iff.mp hentity).1
  refine (List.getElem?_inj hlt (h.nodup hl)).mp ?_
  rw [List.getElem?_map, List.getElem?_map, hentity, hother, Option.map_some, hid, Option.map_some]

theorem Sound.spawn (h : roster.Sound worldName calls) (name : String) :
    (roster.call (.spawn name)).Sound worldName (calls ++ [.spawn name]) := by
  constructor
  case names_eq =>
    rw [names_concat, ← h.names_eq]
    exact List.map_append
  case ids_eq =>
    have hids : [roster.scene.world.nextId] = [roster.spawned.length].map idOf :=
      congrArg (· :: []) h.nextId_eq
    simp only [call, World.spawn, List.map_append, List.length_append, List.length_singleton,
      List.range_succ, h.ids_eq, List.map_singleton, hids]
  case nextId_eq =>
    simp only [call, World.spawn, List.length_append, List.length_singleton, idOf_succ,
      h.nextId_eq]
  case worldName_eq => exact h.worldName_eq
  case inside_lt =>
    intro player hinside
    rw [isInside_spawn] at hinside
    simp only [call, List.length_append]
    exact Nat.lt_add_right _ (h.inside_lt player hinside)
  case live_iff =>
    intro entity
    change entity ∈ roster.scene.world.live ↔ _
    rw [h.live_iff]
    refine exists_congr fun player => ?_
    -- The new player is not inside, since nothing has been called on it.
    rw [isInside_spawn]
    refine and_congr_left fun hinside => ?_
    simp only [call, List.getElem?_append_left (h.inside_lt player hinside)]
  case live_nodup => exact h.live_nodup

theorem Sound.enter (h : roster.Sound worldName calls) (hl : roster.spawned.length < 2 ^ 32)
    (hplayer : roster.spawned[player]? = some entity) :
    (roster.call (.enter player)).Sound worldName (calls ++ [.enter player]) := by
  rw [call_enter hplayer]
  constructor
  case names_eq =>
    rw [names_concat]
    exact h.names_eq.trans (List.append_nil _).symm
  case ids_eq => exact h.ids_eq
  case nextId_eq => exact h.nextId_eq
  case worldName_eq => exact h.worldName_eq
  case inside_lt =>
    intro other hinside
    rw [isInside_enter, Bool.or_eq_true, beq_iff_eq] at hinside
    rcases hinside with rfl | hinside
    · exact (List.getElem?_eq_some_iff.mp hplayer).1
    · exact h.inside_lt other hinside
  case live_iff =>
    intro resident
    change resident ∈ (roster.scene.world.enter entity).live ↔ _
    rw [World.mem_live_enter, h.live_iff]
    simp only [isInside_enter, Bool.or_eq_true, beq_iff_eq]
    constructor
    · rintro (⟨⟨other, hother, hinside⟩, -⟩ | rfl)
      · exact ⟨other, hother, .inr hinside⟩
      · exact ⟨player, hplayer, .inl rfl⟩
    · rintro ⟨other, hother, hinside⟩
      -- Whoever is somebody else has another id, and so is not replaced.
      by_cases he : resident = entity
      · exact .inr he
      · have hne : other ≠ player := by
          rintro rfl
          exact he (Option.some.inj (hother.symm.trans hplayer))
        exact .inl ⟨⟨other, hother, hinside.resolve_left hne⟩,
          fun hid => hne (h.eq_of_id_eq hl hother hplayer hid)⟩
  case live_nodup => exact World.nodup_ids_enter h.live_nodup entity

theorem Sound.leave (h : roster.Sound worldName calls) (hl : roster.spawned.length < 2 ^ 32)
    (hplayer : roster.spawned[player]? = some entity) :
    (roster.call (.leave player)).Sound worldName (calls ++ [.leave player]) := by
  rw [call_leave hplayer]
  have hworld := Scene.world_leaveWorld roster.scene entity
  constructor
  case names_eq =>
    rw [names_concat]
    exact h.names_eq.trans (List.append_nil _).symm
  case ids_eq => exact h.ids_eq
  case nextId_eq => exact (congrArg World.nextId hworld).trans h.nextId_eq
  case worldName_eq => exact (congrArg World.name hworld).trans h.worldName_eq
  case inside_lt =>
    intro other hinside
    rw [isInside_leave, Bool.and_eq_true] at hinside
    exact h.inside_lt other hinside.2
  case live_iff =>
    intro resident
    simp only [hworld, World.mem_live_leave, h.live_iff, isInside_leave, Bool.and_eq_true,
      bne_iff_ne]
    constructor
    · rintro ⟨⟨other, hother, hinside⟩, hid⟩
      refine ⟨other, hother, ?_, hinside⟩
      rintro rfl
      exact hid (congrArg Entity.id (Option.some.inj (hother.symm.trans hplayer)))
    · rintro ⟨other, hother, hne, hinside⟩
      exact ⟨⟨other, hother, hinside⟩, fun hid => hne (h.eq_of_id_eq hl hother hplayer hid)⟩
  case live_nodup =>
    rw [hworld]
    exact World.nodup_ids_leave h.live_nodup entity.id

theorem Sound.call (h : roster.Sound worldName calls) {call : Call}
    (hspawned : ∀ player ∈ call.player?, player < roster.spawned.length)
    (hl : roster.spawned.length < 2 ^ 32) :
    (roster.call call).Sound worldName (calls ++ [call]) := by
  cases call with
  | spawn name => exact h.spawn name
  | enter player => exact h.enter hl (List.getElem?_eq_getElem (hspawned player rfl))
  | leave player => exact h.leave hl (List.getElem?_eq_getElem (hspawned player rfl))

theorem sound_callAll (scene : Scene) (worldName : String) (htimely : Timely calls)
    (hl : (names calls).length < 2 ^ 32) :
    ((opened scene worldName).callAll calls).Sound worldName calls := by
  induction htimely with
  | nil => exact sound_opened scene worldName
  | concat calls call htimely hspawned ih =>
    have hbefore : (names calls).length < 2 ^ 32 := by
      rw [names_concat, List.length_append] at hl
      exact Nat.lt_of_add_right_lt hl
    have h := ih hbefore
    rw [← h.length_eq] at hspawned hbefore
    rw [callAll_concat]
    exact h.call hspawned hbefore

theorem Sound.isLive_eq (h : roster.Sound worldName calls)
    (hl : roster.spawned.length < 2 ^ 32) (hplayer : roster.spawned[player]? = some entity) :
    roster.scene.world.isLive entity.id = isInside calls player := by
  rw [Bool.eq_iff_iff, World.isLive_iff]
  constructor
  · rintro ⟨resident, hlive, hid⟩
    obtain ⟨other, hother, hinside⟩ := (h.live_iff resident).mp hlive
    exact h.eq_of_id_eq hl hother hplayer hid ▸ hinside
  · intro hinside
    exact ⟨entity, (h.live_iff entity).mpr ⟨player, hplayer, hinside⟩, rfl⟩

/-- The ids of those in the world are the ids of the players that are inside. -/
theorem Sound.online_eq (h : roster.Sound worldName calls) (hl : roster.spawned.length < 2 ^ 32) :
    roster.scene.world.online = (List.range roster.spawned.length).countP (isInside calls) := by
  have hinside : (((List.range roster.spawned.length).filter (isInside calls)).map idOf).Nodup :=
    (nodup_ids hl).sublist (List.filter_sublist.map _)
  have hids : ∀ id, id ∈ roster.scene.world.live.map (·.id) ↔
      id ∈ ((List.range roster.spawned.length).filter (isInside calls)).map idOf := by
    intro id
    simp only [List.mem_map, List.mem_filter, List.mem_range, h.live_iff]
    constructor
    · rintro ⟨entity, ⟨player, hplayer, hinside⟩, rfl⟩
      exact ⟨player, ⟨h.inside_lt player hinside, hinside⟩, (h.id_eq hplayer).symm⟩
    · rintro ⟨player, ⟨hlt, hinside⟩, rfl⟩
      have hplayer := List.getElem?_eq_getElem hlt
      exact ⟨_, ⟨player, hplayer, hinside⟩, h.id_eq hplayer⟩
  have hperm := (List.perm_ext_iff_of_nodup h.live_nodup hinside).mpr hids
  have hlength := hperm.length_eq
  rw [List.length_map, List.length_map, ← List.countP_eq_length_filter] at hlength
  exact hlength

/-! One more call. -/

theorem Sound.isLive_call_of_ne (h : roster.Sound worldName calls)
    (hl : roster.spawned.length < 2 ^ 32) (hplayer : roster.spawned[player]? = some entity)
    {call : Call} (hcall : call.player? ≠ some player) :
    (roster.call call).scene.world.isLive entity.id = roster.scene.world.isLive entity.id := by
  cases call with
  | spawn name => rfl
  | enter other =>
    cases hother : roster.spawned[other]? with
    | none => rw [call_of_none hother rfl]
    | some target =>
      have hid : target.id ≠ entity.id :=
        fun hid => hcall (h.eq_of_id_eq hl hother hplayer hid ▸ rfl)
      rw [call_enter hother]
      change (roster.scene.world.enter target).isLive entity.id = _
      rw [World.isLive_enter, beq_eq_false_iff_ne.mpr hid, Bool.or_false]
  | leave other =>
    cases hother : roster.spawned[other]? with
    | none => rw [call_of_none hother rfl]
    | some target =>
      have hid : target.id ≠ entity.id :=
        fun hid => hcall (h.eq_of_id_eq hl hother hplayer hid ▸ rfl)
      rw [call_leave hother]
      simp only [Scene.world_leaveWorld]
      rw [World.isLive_leave, bne_iff_ne.mpr hid.symm, Bool.and_true]

theorem removals_call_leave (hplayer : roster.spawned[player]? = some entity) :
    removals (roster.call (.leave player)).scene.trace = removals roster.scene.trace ++
      if roster.scene.world.isLive entity.id then [(entity.name, roster.scene.world.name)]
      else [] := by
  rw [call_leave hplayer]
  by_cases hlive : roster.scene.world.isLive entity.id
  · simp [removals, List.filterMap_cons, removal?, Scene.leaveWorld, Scene.note, Scene.record,
      hlive]
  · simp [removals, removal?, Scene.leaveWorld, Scene.record, hlive]

theorem removals_call_of_ne {call : Call} (hcall : ∀ player, call ≠ .leave player) :
    removals (roster.call call).scene.trace = removals roster.scene.trace := by
  cases call with
  | spawn name => rfl
  | leave player => exact (hcall player rfl).elim
  | enter player =>
    cases hplayer : roster.spawned[player]? with
    | none => rw [call_of_none hplayer rfl]
    | some entity =>
      rw [call_enter hplayer]
      simp [removals, removal?, Scene.enterWorld, Scene.note, Scene.record]

/-- However players are spawned, enter and leave, under whatever names, each has an id of its own,
and those in the world are the players that were last made to enter. A call on one player keeps the
others where they are, and the log says that a player was removed if it left and was there. -/
theorem live_iff_last_entered (scene : Scene) (worldName : String) (calls : List Call)
    (htimely : Timely calls) (hspawned : (names calls).length < 2 ^ 32) :
    let roster := (opened scene worldName).callAll calls
    let world := roster.scene.world
    roster.spawned.map (·.name) = names calls ∧
      (roster.spawned.map (·.id)).Nodup ∧
      (∀ entity, entity ∈ world.live ↔
        ∃ player, roster.spawned[player]? = some entity ∧
          last? calls player = some (.enter player)) ∧
      world.online = (List.range (names calls).length).countP
        (fun player => last? calls player = some (.enter player)) ∧
      (∀ player entity, roster.spawned[player]? = some entity →
        (world.isLive entity.id ↔ last? calls player = some (.enter player)) ∧
        (∀ call : Call, call.player? ≠ some player →
          (roster.call call).scene.world.isLive entity.id = world.isLive entity.id) ∧
        removals (roster.call (.leave player)).scene.trace = removals roster.scene.trace ++
          if world.isLive entity.id then [(entity.name, worldName)] else []) ∧
      ∀ call : Call, (∀ player, call ≠ .leave player) →
        removals (roster.call call).scene.trace = removals roster.scene.trace := by
  intro roster world
  have h : roster.Sound worldName calls := sound_callAll scene worldName htimely hspawned
  have hl : roster.spawned.length < 2 ^ 32 := h.length_eq ▸ hspawned
  have hinside : ∀ player, isInside calls player ↔ last? calls player = some (.enter player) := by
    intro player
    exact decide_eq_true_iff
  refine ⟨h.names_eq, h.nodup hl, fun entity => ?_, ?_, fun player entity hplayer => ⟨?_, ?_, ?_⟩,
    fun call hcall => removals_call_of_ne hcall⟩
  · simp only [← hinside]
    exact h.live_iff entity
  · rw [← h.length_eq]
    exact h.online_eq hl
  · rw [← hinside, h.isLive_eq hl hplayer]
  · exact fun call hcall => h.isLive_call_of_ne hl hplayer hcall
  · rw [removals_call_leave hplayer, h.worldName_eq]

/-- Two players of one name: the first one enters twice and leaves twice, the second one is made to
leave before it has ever been there. -/
def namesakes : List Call :=
  [.spawn "Alice", .enter 0, .spawn "Alice", .leave 1, .enter 0, .enter 1, .leave 0, .leave 0]

theorem timely_namesakes : Timely namesakes := by
  have h : Timely [.spawn "Alice", .enter 0, .spawn "Alice", .leave 1] :=
    .concat _ _ (.concat _ _ (.concat _ _ (.concat _ _ .nil (by decide)) (by decide))
      (by decide)) (by decide)
  exact .concat _ _ (.concat _ _ (.concat _ _ (.concat _ _ h (by decide)) (by decide))
    (by decide)) (by decide)

theorem live_iff_last_entered_namesakes :
    let roster := (opened (Scene.begin (World.create "lobby") .console 0) "world").callAll namesakes
    Timely namesakes ∧ (names namesakes).length < 2 ^ 32 ∧
      roster.spawned.map (·.name) = ["Alice", "Alice"] ∧
      (roster.spawned.map (·.id)).Nodup ∧
      roster.scene.world.online = 1 ∧
      removals roster.scene.trace = [("Alice", "world")] := by
  intro roster
  have hl : (names namesakes).length < 2 ^ 32 := by decide
  obtain ⟨hnames, hids, -, honline, -⟩ := live_iff_last_entered
    (Scene.begin (World.create "lobby") .console 0) "world" namesakes timely_namesakes hl
  exact ⟨timely_namesakes, hl, hnames, hids, honline.trans (by decide), by decide⟩

end Roster
end GameServer
