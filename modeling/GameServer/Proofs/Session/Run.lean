import GameServer.Proofs.Session.Operations

/-! Runs of a session. Its owner calls on it in any order, and between two calls the other sessions
may change whatever they share with it. -/

namespace GameServer

open Service

inductive Move
  | receive (packet : Packet)
  | queue (packet : Packet)
  | pulse
  | disconnect (reason : String) (force : Bool)
  | dispose (tell : Bool)
  /-- Other sessions have been at work, and the owner may have changed its mind. -/
  | elsewhere (world : World) (policy : Policy) (asked : Nat)

/-- A server has its sessions do this, and nothing else: it kicks nobody by force, and a player
does not leave it without a word. -/
def Move.isOrder : Move → Bool
  | .receive _ | .queue _ | .pulse => true
  | .disconnect _ force => !force
  | .dispose tell => tell
  | .elsewhere .. => false

namespace Scene

def begin (world : World) (policy : Policy) (asked : Nat) : Scene :=
  { session := .fresh, world, policy, asked, trace := [] }

def move (scene : Scene) (table : Table) (setting : Setting) : Move → Scene
  | .receive packet => scene.receive table setting packet
  | .queue packet => scene.enqueue packet
  | .pulse => scene.pulse table setting
  | .disconnect reason force => scene.disconnectWith reason force
  | .dispose tell => scene.dispose tell
  | .elsewhere world policy asked => { scene with world, policy, asked }

def run (scene : Scene) (table : Table) (setting : Setting) (moves : List Move) : Scene :=
  moves.foldl (·.move table setting ·) scene

end Scene

open Scene

variable {listing : Listing} {setting : Setting}

theorem Beats.preserves {P : Scene → Prop}
    (hbeat : ∀ {a b}, a.PlayerInPlay → Beat listing setting a b → P a → P b) {scene after : Scene}
    (h : Beats listing setting scene after) (hp : scene.PlayerInPlay) (hs : P scene) : P after := by
  induction h with
  | refl => exact hs
  | tail hbs hb ih => exact hbeat (Beats.playerInPlay hbs hp) hb ih

theorem Scene.beats_own {scene : Scene} (hp : scene.PlayerInPlay) {move : Move}
    (h : ∀ world policy asked, move ≠ .elsewhere world policy asked) :
    Beats listing setting scene (scene.move (standard listing) setting move) := by
  cases move with
  | receive packet => exact beats_receive hp packet
  | queue => exact .single (.adjusted _ rfl rfl)
  | pulse => exact beats_pulse hp
  | disconnect reason force => exact beats_disconnectWith reason force
  | dispose tell => exact beats_dispose tell
  | elsewhere world policy asked => exact absurd rfl (h world policy asked)

theorem Scene.beats_order {scene : Scene} (hp : scene.PlayerInPlay) {move : Move}
    (h : move.isOrder) : Beats listing setting scene (scene.move (standard listing) setting move) := by
  refine beats_own hp ?_
  rintro world policy asked rfl
  cases h

theorem Scene.beats_move {scene : Scene} (hp : scene.PlayerInPlay) (move : Move) :
    Beats listing setting scene (scene.move (standard listing) setting move) ∨
      ∃ world policy asked,
        scene.move (standard listing) setting move = { scene with world, policy, asked } := by
  cases move with
  | elsewhere world policy asked => exact .inr ⟨world, policy, asked, rfl⟩
  | _ => exact .inl (beats_own hp nofun)

theorem Scene.trace_prefix_move {scene : Scene} (hp : scene.PlayerInPlay) (move : Move) :
    scene.trace <+: (scene.move (standard listing) setting move).trace := by
  rcases beats_move hp move with h | ⟨world, policy, asked, h⟩
  · exact Beats.trace_prefix h
  · exact h ▸ List.prefix_refl _

section

variable {P : Scene → Prop}
  (hbeat : ∀ {a b}, a.PlayerInPlay → Beat listing setting a b → P a → P b)
  (helsewhere : ∀ {a} world policy asked, P a → P { a with world, policy, asked })

include hbeat helsewhere

theorem Scene.move_preserves {scene : Scene} (hp : scene.PlayerInPlay) (hs : P scene)
    (move : Move) : (scene.move (standard listing) setting move).PlayerInPlay ∧
      P (scene.move (standard listing) setting move) := by
  rcases beats_move hp move with h | ⟨world, policy, asked, h⟩
  · exact ⟨Beats.playerInPlay h hp, Beats.preserves hbeat h hp hs⟩
  · rw [h]
    exact ⟨hp, helsewhere world policy asked hs⟩

/-- What every beat keeps, whatever goes on elsewhere, is kept by every run. -/
theorem Scene.run_preserves {scene : Scene} (hp : scene.PlayerInPlay) (hs : P scene)
    (moves : List Move) : P (scene.run (standard listing) setting moves) := by
  induction moves generalizing scene with
  | nil => exact hs
  | cons move moves ih =>
    obtain ⟨hp', hs'⟩ := move_preserves hbeat helsewhere hp hs move
    exact ih hp' hs'

end

theorem Scene.playerInPlay_move {scene : Scene} (hp : scene.PlayerInPlay) (move : Move) :
    (scene.move (standard listing) setting move).PlayerInPlay := by
  rcases beats_move hp move with h | ⟨world, policy, asked, h⟩
  · exact Beats.playerInPlay h hp
  · exact h ▸ hp

theorem Scene.playerInPlay_run {scene : Scene} (hp : scene.PlayerInPlay) (moves : List Move) :
    (scene.run (standard listing) setting moves).PlayerInPlay := by
  induction moves generalizing scene with
  | nil => exact hp
  | cons move moves ih => exact ih (playerInPlay_move hp move)

theorem Scene.trace_prefix_run {scene : Scene} (hp : scene.PlayerInPlay) (moves : List Move) :
    scene.trace <+: (scene.run (standard listing) setting moves).trace := by
  induction moves generalizing scene with
  | nil => exact List.prefix_refl _
  | cons move moves ih => exact (trace_prefix_move hp move).trans (ih (playerInPlay_move hp move))

theorem Scene.run_append {scene : Scene} (table : Table) (setting : Setting)
    (moves more : List Move) : scene.run table setting (moves ++ more) =
      (scene.run table setting moves).run table setting more := List.foldl_append

theorem Scene.playerInPlay_begin (world : World) (policy : Policy) (asked : Nat) :
    (begin world policy asked).PlayerInPlay := nofun

end GameServer
