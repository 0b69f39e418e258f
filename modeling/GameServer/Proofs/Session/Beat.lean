import GameServer.Service.Standard
import Mathlib.Logic.Relation

/-! Whatever the server does with a session, it does in beats. A beat is what happens together: no
law about sessions looks inside one, and a law that every beat keeps is a law of every run. -/

namespace GameServer

open Service

namespace Scene

section effects

variable (scene : Scene) (player : Player) (reason : String)

theorem exists_enterWorld : ∃ (world : World) (notices : List Notice),
    scene.enterWorld player =
      { scene with world, trace := scene.trace ++ .entered player :: notices.map .log } := by
  cases player with
  | guest name => exact ⟨scene.world, [], rfl⟩
  | native entity =>
    refine ⟨scene.world.enter entity, [.entered entity.name entity.id scene.world.name], ?_⟩
    simp [enterWorld, note, record]

@[simp] theorem session_enterWorld : (scene.enterWorld player).session = scene.session := by
  obtain ⟨world, notices, he⟩ := scene.exists_enterWorld player
  rw [he]

@[simp] theorem policy_enterWorld : (scene.enterWorld player).policy = scene.policy := by
  obtain ⟨world, notices, he⟩ := scene.exists_enterWorld player
  rw [he]

@[simp] theorem asked_enterWorld : (scene.enterWorld player).asked = scene.asked := by
  obtain ⟨world, notices, he⟩ := scene.exists_enterWorld player
  rw [he]

theorem trace_enterWorld : ∃ notices : List Notice,
    (scene.enterWorld player).trace = scene.trace ++ .entered player :: notices.map .log := by
  obtain ⟨world, notices, he⟩ := scene.exists_enterWorld player
  exact ⟨notices, by rw [he]⟩

theorem exists_leaveWorld : ∃ (world : World) (notices : List Notice),
    scene.leaveWorld player =
      { scene with world, trace := scene.trace ++ .left player :: notices.map .log } := by
  cases player with
  | guest name => exact ⟨scene.world, [], rfl⟩
  | native entity =>
    by_cases hlive : scene.world.isLive entity.id
    · refine ⟨scene.world.leave entity.id, [.removed entity.name scene.world.name], ?_⟩
      simp [leaveWorld, note, record, hlive]
    · refine ⟨scene.world, [], ?_⟩
      simp [leaveWorld, record, hlive]

@[simp] theorem session_leaveWorld : (scene.leaveWorld player).session = scene.session := by
  obtain ⟨world, notices, he⟩ := scene.exists_leaveWorld player
  rw [he]

@[simp] theorem policy_leaveWorld : (scene.leaveWorld player).policy = scene.policy := by
  obtain ⟨world, notices, he⟩ := scene.exists_leaveWorld player
  rw [he]

@[simp] theorem asked_leaveWorld : (scene.leaveWorld player).asked = scene.asked := by
  obtain ⟨world, notices, he⟩ := scene.exists_leaveWorld player
  rw [he]

theorem trace_leaveWorld : ∃ notices : List Notice,
    (scene.leaveWorld player).trace = scene.trace ++ .left player :: notices.map .log := by
  obtain ⟨world, notices, he⟩ := scene.exists_leaveWorld player
  exact ⟨notices, by rw [he]⟩

/-- To leave is to be in the world no longer, whether the player was in it or not. -/
theorem world_leaveWorld (entity : Entity) :
    (scene.leaveWorld (.native entity)).world = scene.world.leave entity.id := by
  simp only [leaveWorld]
  split
  · rfl
  · rename_i hn
    have hall : ∀ other ∈ scene.world.live, (other.id != entity.id) = true := by
      simpa [record, World.isLive] using hn
    simp only [World.leave, List.filter_eq_self.mpr hall]
    rfl

@[simp] theorem session_announce (message : Option String) :
    (scene.announce message).session = scene.session := by
  cases message with
  | none => rfl
  | some text =>
    simp only [announce, broadcast]
    repeat' split
    all_goals rfl

theorem dispose_of_none (h : scene.session.player = none) (tell : Bool) :
    scene.dispose tell = scene := by
  simp only [dispose, h]

theorem player_dispose (tell : Bool) : (scene.dispose tell).session.player = none := by
  cases hplayer : scene.session.player with
  | none => rw [scene.dispose_of_none hplayer, hplayer]
  | some player => cases tell <;> simp [dispose, hplayer, ask, record]

def parting (phase : Phase) (reason : String) : List Event :=
  if phase.hasFarewell then [.write (.farewell reason), .closeAfterWrite] else [.close]

theorem sendAway_eq : scene.sendAway reason =
    { scene with trace := scene.trace ++ parting scene.session.phase reason } := by
  by_cases hf : scene.session.phase.hasFarewell
  · simp [sendAway, parting, hf, send, record]
  · simp [sendAway, parting, hf, record]

end effects

def Admits (scene : Scene) : Packet → Prop
  | .loginStart name =>
    scene.session.phase = .login ∧ scene.session.player = none ∧ isValidName name
  | _ => False

def newcomer (scene : Scene) (name : String) : Player := .native (scene.world.spawn name).1

/-- A login from its packet on, as far as the client can tell. -/
def greet (scene : Scene) (setting : Setting) (name : String) : Scene :=
  { scene with
    session := { scene.session with phase := .play }
    world := (scene.world.spawn name).2
    trace := scene.trace ++ [.took .login (.loginStart name),
      .log (.moved setting.who .login .play), .write (.loginSuccess name)] }

def present (scene : Scene) (player : Player) : Scene :=
  { scene with
    session := { scene.session with player := some player }
    asked := scene.asked + 1
    trace := scene.trace ++ [.attached player, .asked (.login player.name)] }

/-- A login from its packet on, up to the question whether the player may stay. -/
def host (scene : Scene) (setting : Setting) (name : String) : Scene :=
  (scene.greet setting name).present (scene.newcomer name)

theorem trace_host (scene : Scene) (setting : Setting) (name : String) :
    (scene.host setting name).trace = scene.trace ++
      [.took .login (.loginStart name), .log (.moved setting.who .login .play),
        .write (.loginSuccess name), .attached (scene.newcomer name), .asked (.login name)] :=
  List.append_assoc _ _ _

theorem trace_admitted (scene : Scene) (setting : Setting) (name : String) :
    ∃ notices : List Notice,
      (((scene.host setting name).enterWorld (scene.newcomer name)).ask (.join name)).trace =
        scene.trace ++
          [.took .login (.loginStart name), .log (.moved setting.who .login .play),
            .write (.loginSuccess name), .attached (scene.newcomer name), .asked (.login name)] ++
          .entered (scene.newcomer name) :: (notices.map .log ++ [.asked (.join name)]) := by
  obtain ⟨notices, ht⟩ := trace_enterWorld (scene.host setting name) (scene.newcomer name)
  exact ⟨notices, by simp [ask, record, ht, trace_host]⟩

def PlayerInPlay (scene : Scene) : Prop :=
  scene.session.player.isSome → scene.session.phase = .play

theorem PlayerInPlay.player_eq_none {scene : Scene} (hp : scene.PlayerInPlay)
    (h : scene.session.phase ≠ .play) : scene.session.player = none :=
  Option.not_isSome_iff_eq_none.mp fun hs => h (hp hs)

end Scene

open Scene

inductive Beat (listing : Listing) (setting : Setting) (scene : Scene) : Scene → Prop
  | noted (notice : Notice) : Beat listing setting scene (scene.note notice)
  | broadcast (text : String) : Beat listing setting scene (scene.record (.broadcast text))
  /-- The session changes in what is neither its phase nor its player. -/
  | adjusted (session : Session) (hphase : session.phase = scene.session.phase)
      (hplayer : session.player = scene.session.player) :
      Beat listing setting scene { scene with session }
  | took (packet : Packet) (h : ¬ scene.Admits packet) :
      Beat listing setting scene (scene.record (.took scene.session.phase packet))
  | opened (next : Phase) (hphase : scene.session.phase = .handshake)
      (hnext : next = .status ∨ next = .login) :
      Beat listing setting scene { scene with session := { scene.session with phase := next } }
  | reported (hphase : scene.session.phase = .status) :
      Beat listing setting scene
        (scene.send (.statusResponse (listing.json scene.world.online).render))
  | echoed (time : Int64) (hphase : scene.session.phase = .status) :
      Beat listing setting scene ((scene.send (.ping time)).record .close)
  | probed (id : KeepAliveId) (hphase : scene.session.phase = .play) :
      Beat listing setting scene (scene.send (.keepAlive id.val))
  | kickAsked (name reason : String) : Beat listing setting scene (scene.ask (.kick name reason))
  | quitAsked (name : String) : Beat listing setting scene (scene.ask (.quit name))
  | parted (player : Player) (hplayer : scene.session.player = some player) :
      Beat listing setting scene
        ({ scene with session := { scene.session with player := none } }.leaveWorld player)
  | sentAway (reason : String) : Beat listing setting scene (scene.sendAway reason)
  | refused (name reason : String) (h : scene.Admits (.loginStart name))
      (hverdict : scene.policy.login scene.asked name = .denied reason) :
      Beat listing setting scene (scene.host setting name)
  | admitted (name : String) (h : scene.Admits (.loginStart name))
      (hverdict : scene.policy.login scene.asked name = .allowed) :
      Beat listing setting scene
        (((scene.host setting name).enterWorld (scene.newcomer name)).ask (.join name))

abbrev Beats (listing : Listing) (setting : Setting) :=
  Relation.ReflTransGen (Beat listing setting)

variable {listing : Listing} {setting : Setting} {scene after : Scene}

theorem Beat.playerInPlay (h : Beat listing setting scene after) (hp : scene.PlayerInPlay) :
    after.PlayerInPlay := by
  cases h with
  | adjusted session hphase hplayer =>
    simpa only [PlayerInPlay, hphase, hplayer] using hp
  | opened next hphase =>
    intro hs
    cases hphase.symm.trans (hp hs)
  | parted player =>
    simp [PlayerInPlay]
  | sentAway => simpa [PlayerInPlay, sendAway_eq] using hp
  | refused => exact fun _ => rfl
  | admitted => exact fun _ => rfl
  | _ => exact hp

theorem Beats.playerInPlay (h : Beats listing setting scene after) (hp : scene.PlayerInPlay) :
    after.PlayerInPlay := by
  induction h with
  | refl => exact hp
  | tail _ hb ih => exact hb.playerInPlay ih

theorem Beat.trace_prefix (h : Beat listing setting scene after) : scene.trace <+: after.trace := by
  cases h with
  | adjusted | opened => exact List.prefix_refl _
  | echoed => exact (List.prefix_append _ _).trans (List.prefix_append _ _)
  | parted player =>
    obtain ⟨notices, ht⟩ :=
      trace_leaveWorld { scene with session := { scene.session with player := none } } player
    exact ht ▸ List.prefix_append _ _
  | sentAway reason => exact sendAway_eq scene reason ▸ List.prefix_append _ _
  | refused name => exact trace_host scene setting name ▸ List.prefix_append _ _
  | admitted name =>
    obtain ⟨notices, ht⟩ := trace_admitted scene setting name
    exact ht ▸ (List.append_assoc _ _ _ ▸ List.prefix_append _ _)
  | _ => exact List.prefix_append _ _

theorem Beats.trace_prefix (h : Beats listing setting scene after) :
    scene.trace <+: after.trace := by
  induction h with
  | refl => exact List.prefix_refl _
  | tail _ hb ih => exact ih.trans hb.trace_prefix

end GameServer
