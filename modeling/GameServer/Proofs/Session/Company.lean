import GameServer.Proofs.Session.Likeness

/-! Sessions in company. They share a world and an owner and take their turns in any order, and
still each of them goes on as it would alone in a world of its own. -/

namespace GameServer

open Service

/-- What shows of a session once it has moved: how it stands, with no more than the name of its
player, and what has come of the move. -/
structure Glimpse where
  session : Session
  events : List Event

def Glimpse.Same (listing : Listing) (glimpse other : Glimpse) : Prop :=
  glimpse.session = other.session ∧ List.Forall₂ (Event.Same listing) glimpse.events other.events

namespace Scene

def glimpse (scene : Scene) : Glimpse :=
  { session := scene.session.veiled, events := scene.trace.filter Event.isOpen }

theorem Like.same_glimpse {listing : Listing} {policy : Policy} {scene other : Scene}
    (h : Like listing policy scene other) : Glimpse.Same listing scene.glimpse other.glimpse :=
  ⟨h.session, h.trace⟩

/-- What shows of a session that moves alone, move by move. -/
def watch (scene : Scene) (table : Table) (setting : Setting) : List Move → List Glimpse
  | [] => []
  | move :: moves =>
    let after := { scene with trace := [] }.move table setting move
    after.glimpse :: after.watch table setting moves

end Scene

structure Company (ι : Type) where
  sessions : ι → Session
  world : World
  policy : Policy
  asked : Nat

namespace Company

variable {ι : Type} [DecidableEq ι]

def opened (world : World) (policy : Policy) (asked : Nat) : Company ι :=
  { sessions := fun _ => .fresh, world, policy, asked }

def scene (company : Company ι) (who : ι) : Scene where
  session := company.sessions who
  world := company.world
  policy := company.policy
  asked := company.asked
  trace := []

def act (company : Company ι) (table : Table) (settings : ι → Setting) (who : ι) (move : Move) :
    Company ι :=
  let after := (company.scene who).move table (settings who) move
  { sessions := Function.update company.sessions who after.session
    world := after.world, policy := after.policy, asked := after.asked }

/-- What shows of one of the sessions, move by move of its own. -/
def watch (company : Company ι) (table : Table) (settings : ι → Setting) (who : ι) :
    List (ι × Move) → List Glimpse
  | [] => []
  | (actor, move) :: turns =>
    let rest := (company.act table settings actor move).watch table settings who turns
    if actor = who then
      ((company.scene actor).move table (settings actor) move).glimpse :: rest
    else rest

def movesOf (who : ι) (turns : List (ι × Move)) : List Move :=
  turns.filterMap fun turn => if turn.1 = who then some turn.2 else none

variable {listing : Listing} {policy : Policy} {settings : ι → Setting} {company : Company ι}

theorem policy_act (hsteady : policy.Steady) (hpolicy : company.policy = policy) (actor : ι)
    {move : Move} (hown : move.isOwn) :
    (company.act (standard listing) settings actor move).policy = policy := by
  have hself : Scene.Like listing policy (company.scene actor) (company.scene actor) :=
    .refl hpolicy
  exact (hself.move hsteady (settings actor) hown).policy_eq

/-- The next scene of the one that acts is what has come of its move. -/
theorem scene_act_self (table : Table) (actor : ι) (move : Move) :
    (company.act table settings actor move).scene actor =
      { (company.scene actor).move table (settings actor) move with trace := [] } := by
  simp only [scene, act, Function.update_self]

theorem session_act_of_ne (table : Table) {actor who : ι} (h : who ≠ actor) (move : Move) :
    ((company.act table settings actor move).scene who).session = (company.scene who).session :=
  Function.update_of_ne h _ _

/-- Whatever the others do, a session goes on as it would alone. -/
theorem watch_alone (hsteady : policy.Steady) (who : ι) {scene : Scene}
    (h : Scene.Like listing policy (company.scene who) { scene with trace := [] })
    {turns : List (ι × Move)} (hown : ∀ turn ∈ turns, turn.2.isOwn) :
    List.Forall₂ (Glimpse.Same listing) (company.watch (standard listing) settings who turns)
      (scene.watch (standard listing) (settings who) (movesOf who turns)) := by
  induction turns generalizing company scene with
  | nil => exact .nil
  | cons turn turns ih =>
    obtain ⟨actor, move⟩ := turn
    obtain ⟨hmove, hturns⟩ := List.forall_mem_cons.mp hown
    by_cases hactor : actor = who
    · subst hactor
      have hmoved := h.move hsteady (settings actor) hmove
      simp only [watch, movesOf, List.filterMap_cons, if_true]
      refine .cons hmoved.same_glimpse (ih ?_ hturns)
      rw [scene_act_self]
      exact ⟨hmoved.session, hmoved.policy_eq, hmoved.policy_eq', .refl []⟩
    · simp only [watch, movesOf, List.filterMap_cons, hactor, if_false]
      refine ih ?_ hturns
      constructor
      case session =>
        rw [session_act_of_ne _ (Ne.symm hactor)]
        exact h.session
      case policy_eq => exact policy_act hsteady h.policy_eq actor hmove
      case policy_eq' => exact h.policy_eq'
      case trace => exact .refl []

end Company
end GameServer
