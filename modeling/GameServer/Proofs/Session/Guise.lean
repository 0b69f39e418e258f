import GameServer.Proofs.Session.Operations

/-! What the handlers do not look at: what has happened before, how long the client has been silent,
and which packets are still waiting. A scene may differ from another in these as it likes, and the
same packet still does the same in both. -/

namespace GameServer

open Service

/-- Another past, another count of the silence and another inbox. -/
structure Guise where
  past : List Event
  idle : Nat → Nat
  inbox : List Packet → List Packet
  idle_zero : idle 0 = 0

namespace Scene

def wear (guise : Guise) (scene : Scene) : Scene :=
  { scene with
    session := { scene.session with
      idle := guise.idle scene.session.idle, inbox := guise.inbox scene.session.inbox }
    trace := guise.past ++ scene.trace }

variable (guise : Guise) (scene : Scene)

@[simp] theorem session_wear : (scene.wear guise).session = { scene.session with
    idle := guise.idle scene.session.idle, inbox := guise.inbox scene.session.inbox } := rfl

@[simp] theorem world_wear : (scene.wear guise).world = scene.world := rfl

@[simp] theorem policy_wear : (scene.wear guise).policy = scene.policy := rfl

@[simp] theorem asked_wear : (scene.wear guise).asked = scene.asked := rfl

@[simp] theorem trace_wear : (scene.wear guise).trace = guise.past ++ scene.trace := rfl

theorem mk_wear (phase : Phase) (idle : Nat) (outstanding : Option KeepAliveId) (issued : Nat)
    (player : Option Player) (placement : Option Placement) (inbox : List Packet) (world : World)
    (policy : Policy) (asked : Nat) (trace : List Event) :
    (⟨⟨phase, guise.idle idle, outstanding, issued, player, placement, guise.inbox inbox⟩, world,
      policy, asked, guise.past ++ trace⟩ : Scene) = wear guise ⟨⟨phase, idle, outstanding, issued,
        player, placement, inbox⟩, world, policy, asked, trace⟩ := rfl

/-! Whatever is done to a scene is done to it under any guise. -/

@[simp] theorem record_wear (event : Event) :
    (scene.wear guise).record event = (scene.record event).wear guise := by
  simp [record, wear]

@[simp] theorem note_wear (notice : Notice) :
    (scene.wear guise).note notice = (scene.note notice).wear guise :=
  record_wear guise scene _

@[simp] theorem send_wear (packet : Packet) :
    (scene.wear guise).send packet = (scene.send packet).wear guise :=
  record_wear guise scene _

@[simp] theorem ask_wear (question : Question) :
    (scene.wear guise).ask question = (scene.ask question).wear guise := by
  simp [ask, record, wear]

@[simp] theorem remember_wear (placement : Placement) :
    (scene.wear guise).remember placement = (scene.remember placement).wear guise := rfl

@[simp] theorem pong_wear : (scene.wear guise).pong = scene.pong.wear guise := by
  simp [pong, wear, guise.idle_zero]

@[simp] theorem broadcast_wear (text : String) :
    (scene.wear guise).broadcast text = (scene.broadcast text).wear guise := by
  simp only [broadcast, record_wear, policy_wear, note_wear]
  split <;> rfl

@[simp] theorem announce_wear (message : Option String) :
    (scene.wear guise).announce message = (scene.announce message).wear guise := by
  cases message with
  | none => rfl
  | some text =>
    simp only [announce, broadcast_wear]
    split <;> rfl

@[simp] theorem sendAway_wear (reason : String) :
    (scene.wear guise).sendAway reason = (scene.sendAway reason).wear guise := by
  simp only [sendAway, session_wear, send_wear, record_wear]
  split <;> rfl

@[simp] theorem enterWorld_wear (player : Player) :
    (scene.wear guise).enterWorld player = (scene.enterWorld player).wear guise := by
  cases player with
  | guest name => exact record_wear guise scene _
  | native entity => simp [enterWorld, note, record, wear]

@[simp] theorem leaveWorld_wear (player : Player) :
    (scene.wear guise).leaveWorld player = (scene.leaveWorld player).wear guise := by
  cases player with
  | guest name => exact record_wear guise scene _
  | native entity =>
    simp only [leaveWorld, record_wear, world_wear]
    split
    · simp [note, record, wear]
    · rfl

@[simp] theorem dispose_wear (tell : Bool) :
    (scene.wear guise).dispose tell = (scene.dispose tell).wear guise := by
  cases hplayer : scene.session.player with
  | none => simp only [dispose, session_wear, hplayer]
  | some player =>
    simp only [dispose, session_wear, world_wear, policy_wear, asked_wear, trace_wear, hplayer,
      mk_wear guise, leaveWorld_wear, ask_wear, announce_wear]
    split <;> rfl

@[simp] theorem disconnectWith_wear (reason : String) (force : Bool) :
    (scene.wear guise).disconnectWith reason force =
      (scene.disconnectWith reason force).wear guise := by
  unfold disconnectWith
  cases force with
  | true => exact sendAway_wear guise scene reason
  | false =>
    rw [session_wear]
    cases scene.session.player with
    | none => exact sendAway_wear guise scene reason
    | some player =>
      simp only [ask_wear, policy_wear, asked_wear]
      cases scene.policy.kick scene.asked player.name reason with
      | cancelled => exact note_wear guise _ _
      | proceed given leave => simp only [announce_wear, note_wear, dispose_wear, sendAway_wear]

@[simp] theorem disconnect_wear (reason : String) :
    (scene.wear guise).disconnect reason = (scene.disconnect reason).wear guise :=
  disconnectWith_wear guise scene reason false

theorem setPhase_wear (setting : Setting) (next : Phase) :
    (scene.wear guise).setPhase setting next = (scene.setPhase setting next).map (wear guise) := by
  simp only [setPhase, session_wear, note_wear]
  split
  · rfl
  · split <;> rfl

theorem attach_wear (player : Player) :
    (scene.wear guise).attach player = (scene.attach player).map (wear guise) := by
  simp only [attach, session_wear, world_wear, policy_wear, asked_wear, trace_wear, mk_wear guise,
    record_wear, ask_wear]
  split
  · rfl
  · split
    · simp only [note_wear, disconnectWith_wear]
      rfl
    · simp only [enterWorld_wear, policy_wear, asked_wear, ask_wear, announce_wear]
      rfl

/-! The handlers. -/

variable (setting : Setting) (player : Option Player)

theorem handshake_wear (version : UInt32) (address : String) (port : UInt16) (next : Phase) :
    handshake setting player (.handshake version address port next) (scene.wear guise) =
      (handshake setting player (.handshake version address port next) scene).wear guise := by
  simp only [handshake, setPhase_wear]
  split
  · cases scene.setPhase setting next with
    | error fault => simp only [Except.map, note_wear, disconnect_wear]
    | ok moved =>
      simp only [Except.map, note_wear, disconnect_wear]
      split <;> rfl
  · simp only [note_wear, disconnect_wear]

theorem loginStart_wear (name : String) :
    loginStart setting player (.loginStart name) (scene.wear guise) =
      (loginStart setting player (.loginStart name) scene).wear guise := by
  simp only [loginStart, session_wear, setPhase_wear, note_wear, disconnect_wear]
  split
  · rfl
  · split
    · rfl
    · cases scene.setPhase setting .play with
      | error fault => rfl
      | ok moved =>
        simp only [Except.map, send_wear, session_wear, world_wear, policy_wear, asked_wear,
          trace_wear, mk_wear guise, attach_wear]
        cases attach _ _ <;> simp

theorem keepAlive_wear (id : Int32) :
    keepAlive setting player (.keepAlive id) (scene.wear guise) =
      (keepAlive setting player (.keepAlive id) scene).wear guise := by
  have hping : (scene.wear guise).session.pingId = scene.session.pingId := rfl
  simp only [keepAlive, hping, pong_wear, note_wear]
  split <;> rfl

theorem chat_wear (message : String) :
    chat setting player (.chat message) (scene.wear guise) =
      (chat setting player (.chat message) scene).wear guise := by
  cases player with
  | none => rfl
  | some player =>
    simp only [chat, disconnect_wear, broadcast_wear]
    repeat' split
    all_goals rfl

theorem blockPlacement_wear (placement : Placement) :
    blockPlacement setting player (.blockPlacement placement) (scene.wear guise) =
      (blockPlacement setting player (.blockPlacement placement) scene).wear guise := by
  simp only [blockPlacement, session_wear, remember_wear, note_wear]
  split <;> rfl

theorem dispatch_wear (listing : Listing) (packet : Packet) :
    (scene.wear guise).dispatch (standard listing) setting packet =
      (scene.dispatch (standard listing) setting packet).wear guise := by
  rw [dispatch_standard, dispatch_standard]
  simp only [session_wear, record_wear]
  split
  · exact handshake_wear guise _ _ _ _ _ _ _
  · exact send_wear guise _ _
  · simp only [ping, send_wear, disconnect_wear]
  · exact loginStart_wear guise _ _ _ _
  · exact keepAlive_wear guise _ _ _ _
  · exact chat_wear guise _ _ _ _
  · exact blockPlacement_wear guise _ _ _ _
  · exact note_wear guise _ _

end Scene
end GameServer
