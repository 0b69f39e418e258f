import GameServer.Proofs.Session.Tenure
import GameServer.Proofs.Session.Turn
import GameServer.Server.Config

/-! However its owner and its handlers use a session, every player it is given is parted with
once. The handlers may be any that do with a session what its owner may do with it. -/

namespace GameServer

open Service Event

/-- The handlers do nothing but deeds, and so say nothing by themselves but what they are asked to. -/
def Table.Lawful (table : Table) : Prop :=
  ∀ (setting : Setting) (scene : Scene) (packet : Packet),
    Deeds scene (scene.dispatch table setting packet)

inductive Operation
  | move (move : Move)
  | attach (player : Player)
  | setPhase (next : Phase)
  | pong
  | send (packet : Packet)

/-- Packets are taken up in it, and so the handlers are at work. -/
def Operation.takesUp : Operation → Bool
  | .move (.receive _) | .move .pulse => true
  | _ => false

namespace Scene

/-- What a session refuses leaves it as it is. -/
def operate (scene : Scene) (table : Table) (setting : Setting) : Operation → Scene
  | .move move => scene.move table setting move
  | .attach player => (scene.attach player).toOption.getD scene
  | .setPhase next => (scene.setPhase setting next).toOption.getD scene
  | .pong => scene.pong
  | .send packet => scene.send packet

def operateAll (scene : Scene) (table : Table) (setting : Setting) (operations : List Operation) :
    Scene := operations.foldl (·.operate table setting ·) scene

/-- What the others are told by an operation in which no packet is taken up. -/
def said (scene : Scene) : Operation → List String
  | .attach player =>
    match scene.session.player, scene.policy.login scene.asked player.name with
    | none, .allowed => (worded (scene.policy.join (scene.asked + 1) player.name)).toList
    | _, _ => []
  | .move (.disconnect reason false) =>
    match scene.session.player with
    | none => []
    | some player =>
      match scene.policy.kick scene.asked player.name reason with
      | .cancelled => []
      | .proceed _ leave => (worded leave).toList
  | .move (.dispose true) =>
    match scene.session.player with
    | none => []
    | some player => (worded (scene.policy.quit scene.asked player.name)).toList
  | _ => []

variable {setting : Setting} {scene after : Scene}

theorem tells_adjusted (ht : after.trace = scene.trace) : Tells scene after [] :=
  ⟨[], ht.trans (List.append_nil _).symm, rfl⟩

theorem tells_attach (player : Player) : Tells scene ((scene.attach player).toOption.getD scene)
    (scene.said (.attach player)) := by
  cases hplayer : scene.session.player with
  | some other =>
    have hnothing : scene.said (.attach player) = [] := by simp [said, hplayer]
    rw [attach_of_some hplayer, hnothing]
    exact tells_adjusted rfl
  | none =>
    obtain ⟨after, hattach⟩ : ∃ after, scene.attach player = .ok after :=
      ⟨_, attach_of_none hplayer player⟩
    rw [hattach]
    cases hverdict : scene.policy.login scene.asked player.name with
    | denied reason =>
      obtain ⟨-, ht⟩ := attach_of_denied hattach hverdict
      exact ⟨_, ht, by simp [said, hplayer, hverdict, text?]⟩
    | allowed =>
      obtain ⟨notices, -, ht⟩ := exists_attach_of_allowed hattach hverdict
      exact ⟨_, ht, by simp [said, hplayer, hverdict, text?, texts_told]⟩

theorem tells_disconnectWith (reason : String) (force : Bool) :
    Tells scene (scene.disconnectWith reason force)
      (scene.said (.move (.disconnect reason force))) := by
  rcases scene.unasked_or_asked force with hunasked | ⟨rfl, player, hplayer⟩
  · have hnothing : scene.said (.move (.disconnect reason force)) = [] := by
      rcases hunasked with rfl | hnone
      · rfl
      · cases force <;> simp [said, hnone]
    rw [disconnectWith_of_unasked hunasked, sendAway_eq, hnothing]
    exact ⟨_, rfl, texts_parting _ _⟩
  · change Tells scene (scene.disconnect reason) _
    cases hverdict : scene.policy.kick scene.asked player.name reason with
    | cancelled =>
      rw [disconnect_of_cancelled hplayer hverdict]
      exact ⟨_, rfl, by simp [said, hplayer, hverdict, text?, texts]⟩
    | proceed given leave =>
      obtain ⟨world, notices, he⟩ := exists_disconnect_of_proceed hplayer hverdict
      rw [he]
      exact ⟨_, rfl, by simp [said, hplayer, hverdict, text?, texts_told]⟩

theorem tells_dispose (tell : Bool) :
    Tells scene (scene.dispose tell) (scene.said (.move (.dispose tell))) := by
  cases hplayer : scene.session.player with
  | none =>
    have hnothing : scene.said (.move (.dispose tell)) = [] := by cases tell <;> simp [said, hplayer]
    rw [scene.dispose_of_none hplayer, hnothing]
    exact tells_adjusted rfl
  | some player =>
    obtain ⟨world, notices, he⟩ := exists_dispose hplayer tell
    rw [he]
    refine ⟨_, rfl, ?_⟩
    cases tell <;> simp [said, hplayer, text?, texts_told, worded]

theorem tells_setPhase (setting : Setting) (next : Phase) :
    Tells scene ((scene.setPhase setting next).toOption.getD scene) [] := by
  simp only [setPhase]
  split
  · exact tells_adjusted rfl
  · split
    · exact tells_adjusted rfl
    · exact ⟨[.log (.moved setting.who scene.session.phase next)], rfl, rfl⟩

theorem tells_operate (table : Table) (setting : Setting) {operation : Operation}
    (h : operation.takesUp = false) :
    Tells scene (scene.operate table setting operation) (scene.said operation) := by
  cases operation with
  | move move =>
    cases move with
    | receive | pulse => cases h
    | queue | elsewhere => exact tells_adjusted rfl
    | disconnect reason force => exact tells_disconnectWith reason force
    | dispose tell => exact tells_dispose tell
  | attach player => exact tells_attach player
  | setPhase next => exact tells_setPhase setting next
  | pong => exact tells_adjusted rfl
  | send packet => exact ⟨[.write packet], rfl, rfl⟩

theorem deed_adjusted (hplayer : after.session.player = scene.session.player)
    (ht : after.trace = scene.trace) : Deed scene after :=
  .passed after [] hplayer (by simp [ht]) ⟨rfl, by simp⟩

theorem deed_record (event : Event) (h : event.landmark? false = none) :
    Deed scene (scene.record event) := by
  refine .passed _ [event] rfl rfl ⟨by simp [landmarks, h], ?_⟩
  rintro text he
  obtain rfl : event = .broadcast text := by simpa using he
  simp [landmark?] at h

theorem deed_note (notice : Notice) : Deed scene (scene.note notice) :=
  deed_record (.log notice) rfl

theorem deed_send (packet : Packet) : Deed scene (scene.send packet) :=
  deed_record (.write packet) rfl

theorem deed_disconnect (reason : String) : Deed scene (scene.disconnect reason) :=
  .disconnected reason false

theorem deed_setPhase {next : Phase} (h : scene.setPhase setting next = .ok after) :
    Deed scene after := by
  simp only [setPhase] at h
  split at h
  · cases h
  · obtain rfl := Except.ok.inj h
    split
    · exact deed_adjusted rfl rfl
    · exact .passed _ [.log (.moved setting.who scene.session.phase next)] rfl rfl
        ⟨rfl, by simp⟩

/-! The handlers, each after its packet has been taken up. -/

theorem deeds_note_disconnect (notice : Notice) (reason : String) :
    Deeds scene ((scene.note notice).disconnect reason) :=
  (Relation.ReflTransGen.single (deed_note notice)).tail (deed_disconnect reason)

theorem deeds_handshake (player : Option Player) (version : UInt32) (address : String)
    (port : UInt16) (next : Phase) :
    Deeds scene (handshake setting player (.handshake version address port next) scene) := by
  simp only [handshake]
  split
  · cases hset : scene.setPhase setting next with
    | error fault => exact deeds_note_disconnect _ _
    | ok moved =>
      have hmoved : Deeds scene moved := .single (deed_setPhase hset)
      dsimp only
      split
      · exact hmoved.trans (deeds_note_disconnect _ _)
      · exact hmoved
  · exact deeds_note_disconnect _ _

theorem deeds_loginStart (player : Option Player) (name : String) :
    Deeds scene (loginStart setting player (.loginStart name) scene) := by
  simp only [loginStart]
  split
  · exact .single (deed_note _)
  · split
    · exact .single (deed_disconnect _)
    · cases hset : scene.setPhase setting .play with
      | error fault => exact .single (deed_note _)
      | ok moved =>
        let greeted := moved.send (.loginSuccess name)
        have hgreeted : Deeds scene greeted :=
          (Relation.ReflTransGen.single (deed_setPhase hset)).tail (deed_send _)
        have hspawned : Deeds scene { greeted with world := (greeted.world.spawn name).2 } :=
          hgreeted.tail (deed_adjusted rfl rfl)
        dsimp only
        split
        · exact hspawned.tail (deed_note _)
        · rename_i after hattach
          exact hspawned.tail (.attached _ _ hattach)

theorem deeds_chat (player : Option Player) (message : String) :
    Deeds scene (chat setting player (.chat message)
      (scene.record (.took scene.session.phase (.chat message)))) := by
  have htook : Deed scene (scene.record (.took scene.session.phase (.chat message))) :=
    deed_record _ rfl
  cases player with
  | none => exact .single htook
  | some player =>
    simp only [chat]
    split
    · exact .single htook
    · split
      · exact (Relation.ReflTransGen.single htook).tail (deed_disconnect _)
      · -- What is said here answers the packet that has been taken up.
        rw [broadcast_eq]
        exact .single (.passed _ (.took scene.session.phase (.chat message) :: spoken _ _) rfl
          (List.append_assoc _ _ _) ⟨landmarks_spoken _ _, by simp⟩)

theorem deeds_keepAlive (player : Option Player) (id : Int32) :
    Deeds scene (keepAlive setting player (.keepAlive id) scene) := by
  simp only [keepAlive]
  split
  · exact .single (deed_adjusted rfl rfl)
  · exact .single (deed_note _)

theorem deeds_blockPlacement (player : Option Player) (placement : Placement) :
    Deeds scene (blockPlacement setting player (.blockPlacement placement) scene) := by
  simp only [blockPlacement]
  split
  · exact .single (deed_note _)
  · have hremembered : Deed scene (scene.remember placement) := deed_adjusted rfl rfl
    exact (Relation.ReflTransGen.single hremembered).tail (deed_note _)

theorem lawful_standard (listing : Listing) : (standard listing).Lawful := by
  intro setting scene packet
  have htook : Deeds scene (scene.record (.took scene.session.phase packet)) :=
    .single (deed_record _ rfl)
  rw [dispatch_standard]
  dsimp only
  split
  · exact htook.trans (deeds_handshake _ _ _ _ _)
  · exact htook.tail (deed_send _)
  · exact (htook.tail (deed_send _)).tail (deed_disconnect "")
  · exact htook.trans (deeds_loginStart _ _)
  · exact htook.trans (deeds_keepAlive _ _)
  · exact deeds_chat _ _
  · exact htook.trans (deeds_blockPlacement _ _)
  · exact htook.tail (deed_note _)

/-! The operations of a session, whatever its handlers. -/

section

variable {table : Table} (hlawful : table.Lawful)

include hlawful

theorem deeds_receive (packet : Packet) : Deeds scene (scene.receive table setting packet) := by
  unfold receive
  split
  · exact hlawful setting scene packet
  · exact .single (deed_adjusted rfl rfl)

theorem deeds_takeUp (packet : Packet) (rest : List Packet) :
    Deeds scene (scene.takeUp table setting packet rest) := by
  let opened : Scene := { scene with session := { scene.session with inbox := rest } }
  have hopened : Deeds scene opened := .single (deed_adjusted rfl rfl)
  exact (hopened.trans (hlawful setting opened packet)).tail (deed_adjusted rfl rfl)

theorem deeds_drain (bound : Nat) : Deeds scene (drain table setting bound scene) := by
  induction bound generalizing scene with
  | zero => exact .refl
  | succ bound ih =>
    cases hinbox : scene.session.inbox with
    | nil => rw [drain_of_nil hinbox]
    | cons packet rest =>
      rw [drain_of_cons hinbox]
      exact (deeds_takeUp hlawful packet rest).trans ih

omit hlawful in
theorem deeds_checkSilence : Deeds scene (scene.checkSilence setting) := by
  unfold checkSilence
  split
  · exact .refl
  · split
    · refine .single (.passed _ _ ?_ (trace_issueKeepAlive scene setting) ?_)
      · rw [session_issueKeepAlive]
      · split <;> exact ⟨rfl, by simp⟩
    · exact .single (deed_disconnect timeoutReason)

theorem deeds_pulse : Deeds scene (scene.pulse table setting) := by
  have hticked : Deeds scene scene.ticked := .single (deed_adjusted rfl rfl)
  rw [pulse_eq_checkSilence]
  exact (hticked.trans (deeds_drain hlawful _)).trans deeds_checkSilence

theorem deeds_move (move : Move) : Deeds scene (scene.move table setting move) := by
  cases move with
  | receive packet => exact deeds_receive hlawful packet
  | queue packet => exact .single (deed_adjusted rfl rfl)
  | pulse => exact deeds_pulse hlawful
  | disconnect reason force => exact .single (.disconnected reason force)
  | dispose tell => exact .single (.disposed tell)
  | elsewhere world policy asked => exact .single (deed_adjusted rfl rfl)

theorem deeds_run (moves : List Move) : Deeds scene (scene.run table setting moves) := by
  induction moves generalizing scene with
  | nil => exact .refl
  | cons move moves ih => exact (deeds_move hlawful move).trans ih

theorem deeds_operate (operation : Operation) :
    Deeds scene (scene.operate table setting operation) := by
  cases operation with
  | move move => exact deeds_move hlawful move
  | attach player =>
    cases hattach : scene.attach player with
    | error fault => simpa only [operate, hattach] using .refl
    | ok after => simpa only [operate, hattach] using .single (.attached player after hattach)
  | setPhase next =>
    cases hset : scene.setPhase setting next with
    | error fault => simpa only [operate, hset] using .refl
    | ok after => simpa only [operate, hset] using .single (deed_setPhase hset)
  | pong => exact .single (deed_adjusted rfl rfl)
  | send packet => exact .single (deed_send packet)

theorem deeds_operateAll (operations : List Operation) :
    Deeds scene (scene.operateAll table setting operations) := by
  induction operations generalizing scene with
  | nil => exact .refl
  | cons operation operations ih => exact (deeds_operate hlawful operation).trans ih

omit hlawful in
theorem kept_begin (world : World) (policy : Policy) (asked : Nat) :
    (begin world policy asked).Kept := ⟨[], rfl⟩

/-- However a session is used and whatever its owner answers, its trace is one tenure after the
other, of which the last may last, and no leave is told of but in one of them. An operation that
has no packet taken up tells the others what the owner has answered and nothing else. A kick that is
called off changes nothing, tells nobody anything, and sends nothing to the client. -/
theorem tenures_operateAll (setting : Setting) (world : World) (policy : Policy) (asked : Nat)
    (operations : List Operation) :
    let scene := (begin world policy asked).operateAll table setting operations
    (∃ tenures : List Tenure, landmarks false scene.trace =
      tenures.flatMap Tenure.landmarks ++ (scene.session.player.map .attached).toList) ∧
    (∀ (scene : Scene) (operation : Operation), operation.takesUp = false →
      Tells scene (scene.operate table setting operation) (scene.said operation)) ∧
    ∀ (scene : Scene) (player : Player) (reason : String), scene.session.player = some player →
      scene.policy.kick scene.asked player.name reason = .cancelled →
        scene.disconnectWith reason false = { scene with
          asked := scene.asked + 1
          trace := scene.trace ++
            [.asked (.kick player.name reason), .log (.kickCancelled player.name)] } := by
  exact ⟨Deeds.kept (deeds_operateAll hlawful operations) (kept_begin world policy asked),
    fun _ _ => tells_operate table setting, fun _ _ _ => disconnect_of_cancelled⟩

end

/-- Calls off a kick if it is the third question. -/
def lenient : Policy :=
  { Policy.console with kick := fun asked name reason =>
      if asked = 2 then .cancelled else .proceed reason (some (Policy.leaveMessage name)) }

def hosting : Setting :=
  { address := none, timeoutTicks := defaultTimeoutTicks, drawn := fun _ => default, token := 0 }

/-- One guest is kicked at the second attempt, and the next one leaves. -/
def twoGuests : List Operation :=
  [.attach (.guest "Alice"), .move (.disconnect "Bye" false), .move (.disconnect "Bye" false),
    .attach (.guest "Bob"), .move (.dispose true)]

theorem tenures_operateAll_twoGuests :
    let run (operations : List Operation) : Scene :=
      (begin (World.create "world") lenient 0).operateAll (standard .default) hosting operations
    (standard .default).Lawful ∧
      (∃ tenures : List Tenure, landmarks false (run twoGuests).trace =
        tenures.flatMap Tenure.landmarks ++
          ((run twoGuests).session.player.map .attached).toList) ∧
      landmarks false (run twoGuests).trace =
        [.attached (.guest "Alice"), .farewell "Alice left the game", .left (.guest "Alice"),
          .quit "Alice", .attached (.guest "Bob"), .left (.guest "Bob"), .quit "Bob",
          .farewell "Bob left the game"] ∧
      Tells (run (twoGuests.take 4)) (run twoGuests) ["Bob left the game"] ∧
      (run (twoGuests.take 2)).session = (run (twoGuests.take 1)).session := by
  intro run
  have hlawful := lawful_standard .default
  have h := tenures_operateAll hlawful hosting (World.create "world") lenient 0
  obtain ⟨htenures, htells, hcancelled⟩ := h twoGuests
  have hquit := htells (run (twoGuests.take 4)) (.move (.dispose true)) rfl
  have hsaid : (run (twoGuests.take 4)).said (.move (.dispose true)) = ["Bob left the game"] := by
    decide
  have hspared := hcancelled (run (twoGuests.take 1)) (.guest "Alice") "Bye" rfl rfl
  refine ⟨hlawful, htenures, by decide, hsaid ▸ hquit, ?_⟩
  change ((run (twoGuests.take 1)).disconnectWith "Bye" false).session = _
  rw [hspared]

end Scene
end GameServer
