import GameServer.Proofs.Session.Beat

/-! Every operation on a session, from a single handler to a whole tick, is a chain of beats. -/

namespace GameServer

open Service

variable {listing : Listing} {setting : Setting} {scene after : Scene}

namespace Scene

theorem beats_broadcast (text : String) : Beats listing setting scene (scene.broadcast text) := by
  have ht : Beats listing setting scene (scene.record (.broadcast text)) :=
    .single (.broadcast text)
  have hrecorded : (scene.record (.broadcast text)).policy = scene.policy := rfl
  simp only [Scene.broadcast, hrecorded]
  by_cases hechoes : scene.policy.echoes
  · rw [if_pos hechoes]
    exact ht.tail (.noted (.broadcast text))
  · rw [if_neg hechoes]
    exact ht

theorem beats_announce (message : Option String) :
    Beats listing setting scene (scene.announce message) := by
  cases message with
  | none => exact .refl
  | some text =>
    simp only [announce]
    by_cases hempty : text.isEmpty
    · rw [if_pos hempty]
    · rw [if_neg hempty]
      exact beats_broadcast text

theorem beats_dispose (tell : Bool) : Beats listing setting scene (scene.dispose tell) := by
  cases hplayer : scene.session.player with
  | none =>
    rw [scene.dispose_of_none hplayer]
  | some player =>
    have hquit : Beats listing setting scene _ := Relation.ReflTransGen.head
      (.parted player hplayer) (.single (.quitAsked player.name))
    simp only [dispose, hplayer]
    cases tell with
    | false => exact hquit
    | true => exact hquit.trans (beats_announce _)

theorem beats_disconnectWith (reason : String) (force : Bool) :
    Beats listing setting scene (scene.disconnectWith reason force) := by
  unfold disconnectWith
  split
  · rename_i player hplayer
    refine .head (.kickAsked player.name reason) ?_
    cases scene.policy.kick scene.asked player.name reason with
    | cancelled => exact .single (.noted (.kickCancelled player.name))
    | proceed reason leave =>
      refine Relation.ReflTransGen.tail ?_ (.sentAway reason)
      refine Relation.ReflTransGen.trans ?_ (beats_dispose false)
      exact (beats_announce leave).tail (.noted (.kicked player.name reason))
  · exact .single (.sentAway reason)

theorem beats_disconnect (reason : String) : Beats listing setting scene (scene.disconnect reason) :=
  beats_disconnectWith reason false

/-! The handlers, each after its packet has been taken up. -/

theorem setPhase_of_canAdvanceTo {next : Phase} (hc : scene.session.phase.canAdvanceTo next)
    (hne : scene.session.phase ≠ next) : scene.setPhase setting next =
      .ok { scene.note (.moved setting.who scene.session.phase next) with
        session := { scene.session with phase := next } } := by
  simp only [setPhase, hc, hne, Bool.not_true, Bool.false_eq_true, if_false]
  rfl

theorem beats_handshake (version : UInt32) (address : String) (port : UInt16) (next : Phase)
    (player : Option Player) (hphase : scene.session.phase = .handshake) :
    Beats listing setting scene
      (handshake setting player (.handshake version address port next) scene) := by
  simp only [handshake]
  by_cases hnext : next = .status ∨ next = .login
  · have hc : scene.session.phase.canAdvanceTo next ∧ scene.session.phase ≠ next := by
      rcases hnext with rfl | rfl <;> simp [hphase, Phase.canAdvanceTo]
    have hopened : Beats listing setting scene _ := Relation.ReflTransGen.head
      (.noted (.moved setting.who scene.session.phase next)) (.single (.opened next hphase hnext))
    rw [if_pos hnext, setPhase_of_canAdvanceTo hc.1 hc.2]
    dsimp only
    by_cases hversion : next = .login ∧ version ≠ protocolVersion
    · rw [if_pos hversion]
      exact (hopened.tail (.noted _)).trans (beats_disconnect _)
    · rw [if_neg hversion]
      exact hopened
  · rw [if_neg hnext]
    exact (Relation.ReflTransGen.single (.noted _)).trans (beats_disconnect _)

theorem beats_ping (time : Int64) (player : Option Player) (hp : scene.PlayerInPlay)
    (hphase : scene.session.phase = .status) :
    Beats listing setting scene (ping setting player (.ping time) scene) := by
  have hnone : scene.session.player = none := hp.player_eq_none (by simp [hphase])
  have he : ping setting player (.ping time) scene = (scene.send (.ping time)).record .close := by
    simp [ping, send, record, Scene.disconnect, disconnectWith, sendAway, hnone, hphase,
      Phase.hasFarewell]
  rw [he]
  exact .single (.echoed time hphase)

theorem beats_keepAlive (id : Int32) (player : Option Player) :
    Beats listing setting scene (keepAlive setting player (.keepAlive id) scene) := by
  simp only [keepAlive]
  by_cases hid : id = scene.session.pingId
  · rw [if_pos hid]
    exact .single (.adjusted _ rfl rfl)
  · rw [if_neg hid]
    exact .single (.noted _)

theorem beats_chat (message : String) (player : Option Player) :
    Beats listing setting scene (chat setting player (.chat message) scene) := by
  cases player with
  | none => exact .refl
  | some player =>
    simp only [chat]
    by_cases hempty : (Text.trim message).isEmpty
    · rw [if_pos hempty]
    · rw [if_neg hempty]
      by_cases hlong : (Text.trim message).length > maxChatLength
      · rw [if_pos hlong]
        exact beats_disconnect _
      · rw [if_neg hlong]
        exact beats_broadcast _

theorem beats_blockPlacement (placement : Placement) (player : Option Player) :
    Beats listing setting scene (blockPlacement setting player (.blockPlacement placement) scene) := by
  simp only [blockPlacement]
  by_cases hsame : scene.session.placement = some placement
  · rw [if_pos hsame]
    exact .single (.noted _)
  · rw [if_neg hsame]
    exact (Relation.ReflTransGen.single (.adjusted _ rfl rfl)).tail (.noted _)

theorem attach_of_none (hnone : scene.session.player = none) (player : Player) :
    scene.attach player = .ok (match scene.policy.login scene.asked player.name with
      | .denied reason =>
        ((scene.present player).note (.loginRefused player.name reason)).sendAway reason
      | .allowed =>
        (((scene.present player).enterWorld player).ask (.join player.name)).announce
          (scene.policy.join (scene.asked + 1) player.name)) := by
  have hpresent : (({ scene with session := { scene.session with player := some player } }.record
      (.attached player)).ask (.login player.name)) = scene.present player := by
    simp [present, ask, record]
  simp only [attach, hnone, Option.isSome_none, Bool.false_eq_true, if_false]
  rw [hpresent]
  cases hv : scene.policy.login scene.asked player.name with
  | denied reason => simp only [record, hv, disconnectWith]
  | allowed => simp [record, hv, present]

theorem loginStart_of_attach {moved greeted after : Scene} {name : String} {player : Option Player}
    (hnone : scene.session.player = none) (hname : isValidName name)
    (hset : scene.setPhase setting .play = .ok moved)
    (hgreet : { moved.send (.loginSuccess name) with
      world := ((moved.send (.loginSuccess name)).world.spawn name).2 } = greeted)
    (hattach : greeted.attach (.native ((moved.send (.loginSuccess name)).world.spawn name).1) =
      .ok after) :
    loginStart setting player (.loginStart name) scene = after := by
  simp only [loginStart]
  rw [if_neg (by simp [hnone]), if_neg (by simp [hname]), hset]
  dsimp only
  rw [hgreet, hattach]

theorem loginStart_of_admits {name : String} (h : scene.Admits (.loginStart name))
    (player : Option Player) :
    loginStart setting player (.loginStart name)
        (scene.record (.took .login (.loginStart name))) =
      match scene.policy.login scene.asked name with
      | .denied reason =>
        ((scene.host setting name).note (.loginRefused name reason)).sendAway reason
      | .allowed =>
        (((scene.host setting name).enterWorld (scene.newcomer name)).ask (.join name)).announce
          (scene.policy.join (scene.asked + 1) name) := by
  obtain ⟨hphase, hnone, hname⟩ := h
  have hset : (scene.record (.took .login (.loginStart name))).setPhase setting .play = .ok _ :=
    setPhase_of_canAdvanceTo (by simp [record, hphase, Phase.canAdvanceTo])
      (by simp [record, hphase])
  have hgreet : { ({ (scene.record (.took .login (.loginStart name))).note
      (.moved setting.who scene.session.phase .play) with
        session := { scene.session with phase := .play } }.send (.loginSuccess name)) with
          world := (scene.world.spawn name).2 } = scene.greet setting name := by
    simp [greet, send, note, record, hphase]
  have hnone' : (scene.greet setting name).session.player = none := hnone
  exact loginStart_of_attach (by simpa [record] using hnone) hname hset hgreet
    (attach_of_none hnone' _)

theorem beats_loginStart (name : String) (player : Option Player) (hp : scene.session.phase = .login) :
    Beats listing setting scene (loginStart setting player (.loginStart name)
      (scene.record (.took .login (.loginStart name)))) := by
  by_cases h : scene.Admits (.loginStart name)
  · rw [loginStart_of_admits h]
    cases hverdict : scene.policy.login scene.asked name with
    | denied reason =>
      have hrefused : Beats listing setting scene (scene.host setting name) :=
        .single (.refused name reason h hverdict)
      exact (hrefused.tail (.noted _)).tail (.sentAway reason)
    | allowed =>
      exact (Relation.ReflTransGen.single (.admitted name h hverdict)).trans (beats_announce _)
  · have ht : Beats listing setting scene (scene.record (.took .login (.loginStart name))) := by
      rw [← hp]
      exact .single (.took _ h)
    simp only [loginStart]
    by_cases hseated : (scene.record (.took .login (.loginStart name))).session.player.isSome
    · rw [if_pos hseated]
      exact ht.tail (.noted _)
    · have hnone : scene.session.player = none := Option.not_isSome_iff_eq_none.mp hseated
      have hname : (!isValidName name) = true := by simpa [Admits, hp, hnone] using h
      rw [if_neg hseated, if_pos hname]
      exact ht.trans (beats_disconnect _)

/-! The table, and what leads to it. -/

theorem dispatch_standard (packet : Packet) :
    scene.dispatch (standard listing) setting packet =
      let taken := scene.record (.took scene.session.phase packet)
      let player := scene.session.player
      match scene.session.phase, packet with
      | .handshake, .handshake .. => handshake setting player packet taken
      | .status, .statusRequest => statusRequest listing setting player packet taken
      | .status, .ping _ => ping setting player packet taken
      | .login, .loginStart _ => loginStart setting player packet taken
      | .play, .keepAlive _ => keepAlive setting player packet taken
      | .play, .chat _ => chat setting player packet taken
      | .play, .blockPlacement _ => blockPlacement setting player packet taken
      | phase, _ => taken.note (.unhandled packet.kind setting.who phase) := by
  simp only [dispatch]
  generalize scene.session.phase = phase
  cases phase <;> cases packet <;> rfl

theorem beats_dispatch (hp : scene.PlayerInPlay) (packet : Packet) :
    Beats listing setting scene (scene.dispatch (standard listing) setting packet) := by
  -- A login takes its packet up in its own beat; any other packet is taken up in a beat before.
  by_cases hl : scene.session.phase = .login ∧ packet.kind = .loginStart
  · obtain ⟨hphase, hk⟩ := hl
    cases packet with
    | loginStart name =>
      simp only [dispatch_standard, hphase]
      exact beats_loginStart name _ hphase
    | _ => cases hk
  have ht : Beat listing setting scene (scene.record (.took scene.session.phase packet)) := by
    refine .took packet fun h => hl ?_
    cases packet with
    | loginStart => exact ⟨h.1, rfl⟩
    | _ => exact h.elim
  refine Relation.ReflTransGen.head ht ?_
  rw [dispatch_standard]
  dsimp only
  split
  · rename_i hphase
    exact beats_handshake _ _ _ _ _ hphase
  · rename_i hphase
    exact .single (.reported hphase)
  · rename_i hphase
    exact beats_ping _ _ hp hphase
  · rename_i hphase
    exact absurd ⟨hphase, rfl⟩ hl
  · exact beats_keepAlive _ _
  · exact beats_chat _ _
  · exact beats_blockPlacement _ _
  · exact .single (.noted _)

theorem beats_receive (hp : scene.PlayerInPlay) (packet : Packet) :
    Beats listing setting scene (scene.receive (standard listing) setting packet) := by
  unfold receive
  split
  · exact beats_dispatch hp packet
  · exact .single (.adjusted _ rfl rfl)

section

variable {table : Table} {packet : Packet} {rest : List Packet}

/-- The first packet that waits is taken up, and others wait still. -/
def takeUp (scene : Scene) (table : Table) (setting : Setting) (packet : Packet)
    (rest : List Packet) : Scene :=
  let taken := { scene with session := { scene.session with inbox := rest } }.dispatch table setting
    packet
  { taken with session := { taken.session with idle := 0 } }

theorem drain_of_nil (h : scene.session.inbox = []) (bound : Nat) :
    drain table setting bound scene = scene := by
  cases bound with
  | zero => rfl
  | succ bound => simp only [drain, h]

theorem drain_of_cons (h : scene.session.inbox = packet :: rest) (bound : Nat) :
    drain table setting (bound + 1) scene =
      drain table setting bound (scene.takeUp table setting packet rest) := by
  simp only [drain, h]
  rfl

theorem drain_add (table : Table) (count more : Nat) : drain table setting (count + more) scene =
    drain table setting more (drain table setting count scene) := by
  induction count generalizing scene with
  | zero => rw [Nat.zero_add, drain]
  | succ count ih =>
    rw [Nat.succ_add_eq_add_succ, Nat.add_succ]
    cases hinbox : scene.session.inbox with
    | nil => simp only [drain_of_nil hinbox]
    | cons packet rest => rw [drain_of_cons hinbox, drain_of_cons hinbox, ih]

theorem beats_takeUp (hp : scene.PlayerInPlay) :
    Beats listing setting scene (scene.takeUp (standard listing) setting packet rest) := by
  have ha : Beat listing setting scene
      { scene with session := { scene.session with inbox := rest } } := .adjusted _ rfl rfl
  have hd : Beats listing setting _ _ := beats_dispatch (ha.playerInPlay hp) packet
  exact (hd.head ha).tail (.adjusted _ rfl rfl)

theorem playerInPlay_takeUp (hp : scene.PlayerInPlay) :
    (scene.takeUp (standard listing) setting packet rest).PlayerInPlay :=
  Beats.playerInPlay (beats_takeUp hp) hp

end

theorem beats_drain (hp : scene.PlayerInPlay) (bound : Nat) :
    Beats listing setting scene (drain (standard listing) setting bound scene) := by
  induction bound generalizing scene with
  | zero => exact .refl
  | succ bound ih =>
    cases hinbox : scene.session.inbox with
    | nil =>
      rw [drain_of_nil hinbox]
    | cons packet rest =>
      rw [drain_of_cons hinbox]
      exact (beats_takeUp hp).trans (ih (playerInPlay_takeUp hp))

def ticked (scene : Scene) : Scene :=
  { scene with session := { scene.session with
    idle := min (scene.session.idle + 1) Session.idleLimit } }

/-- A pulse up to where it looks how long the client has been silent. -/
def drained (scene : Scene) (table : Table) (setting : Setting) : Scene :=
  drain table setting (scene.session.inbox.length + table.allowance) scene.ticked

theorem pulse_eq_checkSilence (scene : Scene) (table : Table) (setting : Setting) :
    scene.pulse table setting = (scene.drained table setting).checkSilence setting := rfl

theorem beats_drained (hp : scene.PlayerInPlay) :
    Beats listing setting scene (scene.drained (standard listing) setting) := by
  have ha : Beat listing setting scene scene.ticked := .adjusted _ rfl rfl
  exact (Relation.ReflTransGen.single ha).trans (beats_drain (ha.playerInPlay hp) _)

theorem beats_issueKeepAlive : Beats listing setting scene (scene.issueKeepAlive setting) := by
  have ha : Beat listing setting scene { scene with session := { scene.session with
      outstanding := some (setting.drawn scene.session.issued)
      idle := 0
      issued := scene.session.issued + 1 } } := .adjusted _ rfl rfl
  have hissued := (Relation.ReflTransGen.single ha).tail
    (.noted (.keepAliveIssued (setting.drawn scene.session.issued).val setting.who))
  simp only [issueKeepAlive]
  split
  · rename_i hphase
    exact hissued.tail (.probed _ hphase)
  · exact hissued

theorem beats_checkSilence : Beats listing setting scene (scene.checkSilence setting) := by
  unfold checkSilence
  by_cases hidle : scene.session.idle < setting.timeoutTicks
  · rw [if_pos hidle]
  · rw [if_neg hidle]
    cases scene.session.outstanding with
    | none => exact beats_issueKeepAlive
    | some id => exact beats_disconnect timeoutReason

theorem beats_pulse (hp : scene.PlayerInPlay) :
    Beats listing setting scene (scene.pulse (standard listing) setting) :=
  (beats_drained hp).trans beats_checkSilence

end Scene
end GameServer
