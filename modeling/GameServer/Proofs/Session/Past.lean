import GameServer.Proofs.Session.Guise
import GameServer.Proofs.Session.Run

/-! What a session has done before does not change what it does next. So a server may keep the
traces of its sessions elsewhere, and let each session act on an empty one. -/

namespace GameServer

open Service

/-- Nothing else is different than what had happened before. To wear it is to `prepend` that, by
definition. -/
def Guise.after (past : List Event) : Guise :=
  { past, idle := id, inbox := id, idle_zero := rfl }

namespace Scene

/-- The same scene, with something that had happened before. -/
def prepend (past : List Event) (scene : Scene) : Scene := { scene with trace := past ++ scene.trace }

section

variable (past : List Event) (scene : Scene)

@[simp] theorem session_prepend : (scene.prepend past).session = scene.session := rfl

@[simp] theorem world_prepend : (scene.prepend past).world = scene.world := rfl

@[simp] theorem policy_prepend : (scene.prepend past).policy = scene.policy := rfl

@[simp] theorem asked_prepend : (scene.prepend past).asked = scene.asked := rfl

@[simp] theorem trace_prepend : (scene.prepend past).trace = past ++ scene.trace := rfl

theorem mk_prepend (session : Session) (world : World) (policy : Policy) (asked : Nat)
    (trace : List Event) : (⟨session, world, policy, asked, past ++ trace⟩ : Scene) =
      (⟨session, world, policy, asked, trace⟩ : Scene).prepend past := rfl

@[simp] theorem note_prepend (notice : Notice) :
    (scene.prepend past).note notice = (scene.note notice).prepend past :=
  note_wear (.after past) scene notice

@[simp] theorem send_prepend (packet : Packet) :
    (scene.prepend past).send packet = (scene.send packet).prepend past :=
  send_wear (.after past) scene packet

theorem dispose_prepend (tell : Bool) :
    (scene.prepend past).dispose tell = (scene.dispose tell).prepend past :=
  dispose_wear (.after past) scene tell

theorem disconnectWith_prepend (reason : String) (force : Bool) :
    (scene.prepend past).disconnectWith reason force =
      (scene.disconnectWith reason force).prepend past :=
  disconnectWith_wear (.after past) scene reason force

@[simp] theorem disconnect_prepend (reason : String) :
    (scene.prepend past).disconnect reason = (scene.disconnect reason).prepend past :=
  disconnectWith_prepend past scene reason false

end

section

variable (listing : Listing) (setting : Setting) (past : List Event) (scene : Scene)

theorem dispatch_prepend (packet : Packet) :
    (scene.prepend past).dispatch (standard listing) setting packet =
      (scene.dispatch (standard listing) setting packet).prepend past :=
  dispatch_wear (.after past) scene setting listing packet

theorem receive_prepend (packet : Packet) :
    (scene.prepend past).receive (standard listing) setting packet =
      (scene.receive (standard listing) setting packet).prepend past := by
  unfold receive
  split
  · exact dispatch_prepend listing setting past scene packet
  · rfl

theorem takeUp_prepend (packet : Packet) (rest : List Packet) :
    (scene.prepend past).takeUp (standard listing) setting packet rest =
      (scene.takeUp (standard listing) setting packet rest).prepend past := by
  have htaken := dispatch_prepend listing setting past
    { scene with session := { scene.session with inbox := rest } } packet
  exact congrArg (fun taken : Scene => { taken with session := { taken.session with idle := 0 } })
    htaken

theorem drain_prepend (bound : Nat) :
    drain (standard listing) setting bound (scene.prepend past) =
      (drain (standard listing) setting bound scene).prepend past := by
  induction bound generalizing scene with
  | zero => rfl
  | succ bound ih =>
    have hsame : (scene.prepend past).session.inbox = scene.session.inbox := rfl
    cases hinbox : scene.session.inbox with
    | nil => rw [drain_of_nil hinbox, drain_of_nil (hsame.trans hinbox)]
    | cons packet rest =>
      rw [drain_of_cons hinbox, drain_of_cons (hsame.trans hinbox), takeUp_prepend, ih]

theorem checkSilence_prepend :
    (scene.prepend past).checkSilence setting = (scene.checkSilence setting).prepend past := by
  have hissued : (scene.prepend past).issueKeepAlive setting =
      (scene.issueKeepAlive setting).prepend past := by
    simp only [issueKeepAlive, session_prepend, world_prepend, policy_prepend, asked_prepend,
      trace_prepend, mk_prepend past, note_prepend, send_prepend]
    split <;> rfl
  simp only [checkSilence, session_prepend, hissued, disconnect_prepend]
  repeat' split
  all_goals rfl

theorem pulse_prepend : (scene.prepend past).pulse (standard listing) setting =
    (scene.pulse (standard listing) setting).prepend past := by
  rw [pulse_eq_checkSilence, pulse_eq_checkSilence, ← checkSilence_prepend]
  exact congrArg (·.checkSilence setting) (drain_prepend listing setting past scene.ticked _)

theorem move_prepend (move : Move) : (scene.prepend past).move (standard listing) setting move =
    (scene.move (standard listing) setting move).prepend past := by
  cases move with
  | receive packet => exact receive_prepend listing setting past scene packet
  | queue packet => rfl
  | pulse => exact pulse_prepend listing setting past scene
  | disconnect reason force => exact disconnectWith_prepend past scene reason force
  | dispose tell => exact dispose_prepend past scene tell
  | elsewhere world policy asked => rfl

theorem run_prepend (moves : List Move) :
    (scene.prepend past).run (standard listing) setting moves =
      (scene.run (standard listing) setting moves).prepend past := by
  induction moves generalizing scene with
  | nil => rfl
  | cons move moves ih =>
    have hmove := move_prepend listing setting past scene move
    exact (congrArg (run · (standard listing) setting moves) hmove).trans (ih _)

end

end Scene
end GameServer
