import GameServer.Proofs.Session.Operations

/-! What a packet can bring about when it is taken up, what can follow of itself, and what a pulse
does about silence. A beat tells nothing of how long a client has been silent or which keepalive it
owes, and not whether anybody is told of a player; a turn does. -/

namespace GameServer

open Service

namespace Event

/-- The others are told something, or the owner is asked about a kick or a leave. -/
def isMention : Event → Bool
  | .broadcast _ | .asked (.kick ..) | .asked (.quit _) => true
  | _ => false

def isAttachment : Event → Bool
  | .attached _ => true
  | _ => false

/-- A player enters, or the owner is asked what to tell the others of it. -/
def isArrival : Event → Bool
  | .entered _ | .asked (.join _) => true
  | _ => false

/-- No packet is taken up, no keepalive issued or sent, no placement accepted, nobody is let in or
turned away, and the session refuses nothing to its handlers. -/
def isSequel : Event → Bool
  | .took .. | .write (.keepAlive _) | .log (.loginRefused ..) => false
  | .log (.refused ..) | .log (.secondLogin _) => false
  | .log (.keepAliveIssued ..) | .log (.placed ..) => false
  | .attached _ | .entered _ | .asked (.login _) | .asked (.join _) => false
  | _ => true

end Event

namespace Scene

/-- What can follow of itself. The player may be lost, but not without a mention. -/
structure Aftermath (scene after : Scene) (mentioned : Prop) : Prop where
  session_eq : after.session = { scene.session with player := after.session.player }
  player_eq : after.session.player = scene.session.player ∨
    after.session.player = none ∧ mentioned
  events : ∃ new, after.trace = scene.trace ++ new ∧ (∀ event ∈ new, event.isSequel) ∧
    ((∃ event ∈ new, event.isMention) ↔ mentioned)

namespace Aftermath

variable {scene between after : Scene} {mentioned mentioned' : Prop}

theorem refl (scene : Scene) : Aftermath scene scene False :=
  ⟨rfl, .inl rfl, [], by simp⟩

theorem trans (h : Aftermath scene between mentioned) (h' : Aftermath between after mentioned') :
    Aftermath scene after (mentioned ∨ mentioned') := by
  obtain ⟨new, ht, hs, hm⟩ := h.events
  obtain ⟨new', ht', hs', hm'⟩ := h'.events
  constructor
  case session_eq => rw [h'.session_eq, h.session_eq]
  case player_eq =>
    rcases h'.player_eq with he | ⟨hn, hp⟩
    · rcases h.player_eq with hb | ⟨hn, hp⟩
      · exact .inl (he.trans hb)
      · exact .inr ⟨he.trans hn, .inl hp⟩
    · exact .inr ⟨hn, .inr hp⟩
  case events =>
    refine ⟨new ++ new', by rw [ht', ht, List.append_assoc], ?_, ?_⟩
    · simpa only [List.forall_mem_append] using ⟨hs, hs'⟩
    · simp only [List.mem_append, or_and_right, exists_or, hm, hm']

theorem congr (h : Aftermath scene after mentioned) (hm : mentioned ↔ mentioned') :
    Aftermath scene after mentioned' := propext hm ▸ h

end Aftermath

variable {listing : Listing} {setting : Setting} (scene : Scene)

theorem aftermath_record (event : Event) (h : event.isSequel) :
    Aftermath scene (scene.record event) event.isMention :=
  ⟨rfl, .inl rfl, [event], rfl, by simpa using h, by simp⟩

theorem aftermath_note (notice : Notice) (h : (Event.log notice).isSequel) :
    Aftermath scene (scene.note notice) False :=
  (aftermath_record scene _ h).congr (by simp [Event.isMention])

theorem aftermath_ask (question : Question) (h : (Event.asked question).isSequel) :
    Aftermath scene (scene.ask question) (Event.asked question).isMention :=
  ⟨rfl, .inl rfl, [.asked question], rfl, by simpa using h, by simp⟩

theorem aftermath_broadcast (text : String) : Aftermath scene (scene.broadcast text) True := by
  have ht : Aftermath scene (scene.record (.broadcast text)) True :=
    (aftermath_record scene _ rfl).congr (by simp [Event.isMention])
  simp only [broadcast]
  split
  · exact (ht.trans (aftermath_note _ _ rfl)).congr (by simp)
  · exact ht

theorem aftermath_announce (message : Option String) :
    ∃ mentioned, Aftermath scene (scene.announce message) mentioned := by
  cases message with
  | none => exact ⟨False, .refl scene⟩
  | some text =>
    simp only [announce]
    split
    · exact ⟨False, .refl scene⟩
    · exact ⟨True, aftermath_broadcast scene text⟩

theorem aftermath_leaveWorld (player : Player) :
    Aftermath scene (scene.leaveWorld player) False := by
  have hleft : Aftermath scene (scene.record (.left player)) False :=
    (aftermath_record scene _ rfl).congr (by simp [Event.isMention])
  cases player with
  | guest name => exact hleft
  | native entity =>
    simp only [leaveWorld]
    split
    · have hremoved := aftermath_note
        { scene.record (.left (.native entity)) with world := scene.world.leave entity.id }
        (.removed entity.name scene.world.name) rfl
      exact (hleft.trans ⟨hremoved.session_eq, hremoved.player_eq, hremoved.events⟩).congr (by simp)
    · exact hleft

theorem aftermath_sendAway (reason : String) : Aftermath scene (scene.sendAway reason) False := by
  rw [sendAway_eq]
  refine ⟨rfl, .inl rfl, parting scene.session.phase reason, rfl, ?_⟩
  unfold parting
  split <;> simp [Event.isSequel, Event.isMention, Packet.farewell]

theorem aftermath_dispose (tell : Bool) :
    Aftermath scene (scene.dispose tell) scene.session.player.isSome := by
  cases hplayer : scene.session.player with
  | none =>
    rw [scene.dispose_of_none hplayer]
    exact (Aftermath.refl scene).congr (by simp)
  | some player =>
    -- The player is gone before the owner is asked for a message, so the two go together.
    let alone : Scene := { scene with session := { scene.session with player := none } }
    let parted := (alone.leaveWorld player).ask (.quit player.name)
    have hparted : Aftermath scene parted True := by
      have hasked : Aftermath alone parted True :=
        ((alone.aftermath_leaveWorld player).trans (aftermath_ask _ _ rfl)).congr
          (by simp [Event.isMention])
      have hnone : parted.session.player = none := by simp [parted, alone, ask, record]
      exact ⟨hasked.session_eq, .inr ⟨hnone, trivial⟩, hasked.events⟩
    have htold : ∃ mentioned, Aftermath parted (scene.dispose tell) mentioned := by
      simp only [dispose, hplayer]
      cases tell with
      | false => exact ⟨False, .refl parted⟩
      | true => exact aftermath_announce parted _
    obtain ⟨mentioned, htold⟩ := htold
    exact (hparted.trans htold).congr (by simp)

theorem aftermath_disconnectWith (reason : String) (force : Bool) :
    Aftermath scene (scene.disconnectWith reason force)
      (force = false ∧ scene.session.player.isSome) := by
  unfold disconnectWith
  split
  · rename_i player hplayer
    have hasked : Aftermath scene (scene.ask (.kick player.name reason)) True :=
      (aftermath_ask scene _ rfl).congr (by simp [Event.isMention])
    cases scene.policy.kick scene.asked player.name reason with
    | cancelled => exact (hasked.trans (aftermath_note _ _ rfl)).congr (by simp [hplayer])
    | proceed given leave =>
      obtain ⟨mentioned, htold⟩ := (scene.ask (.kick player.name reason)).aftermath_announce leave
      have hkicked := (hasked.trans htold).trans (aftermath_note _ (.kicked player.name given) rfl)
      have haway := (hkicked.trans (aftermath_dispose _ false)).trans (aftermath_sendAway _ given)
      exact haway.congr (by simp [hplayer])
  · rename_i hn
    refine (aftermath_sendAway scene reason).congr ⟨False.elim, ?_⟩
    rintro ⟨rfl, hs⟩
    obtain ⟨player, hplayer⟩ := Option.isSome_iff_exists.mp hs
    exact hn player rfl hplayer

end Scene

open Scene

def Service.IsSpeech (message : String) : Prop := (Text.trim message).isEmpty = false

/-- What can come of a packet that is taken up. -/
inductive Turn (setting : Setting) (scene : Scene) : Packet → Scene → Prop
  | refused (name reason : String) (h : scene.Admits (.loginStart name))
      (hverdict : scene.policy.login scene.asked name = .denied reason) :
      Turn setting scene (.loginStart name)
        (((scene.host setting name).note (.loginRefused name reason)).sendAway reason)
  | admitted (name : String) (h : scene.Admits (.loginStart name))
      (hverdict : scene.policy.login scene.asked name = .allowed) :
      Turn setting scene (.loginStart name)
        ((((scene.host setting name).enterWorld (scene.newcomer name)).ask (.join name)).announce
          (scene.policy.join (scene.asked + 1) name))
  | echoed (hphase : scene.session.phase = .play) :
      Turn setting scene (.keepAlive scene.session.pingId)
        (scene.record (.took .play (.keepAlive scene.session.pingId))).pong
  | spoken (message : String) (after : Scene) (hphase : scene.session.phase = .play)
      (hplayer : scene.session.player.isSome) (h : IsSpeech message)
      (ha : Aftermath (scene.record (.took .play (.chat message))) after True) :
      Turn setting scene (.chat message) after
  | placed (placement : Placement) (hphase : scene.session.phase = .play)
      (hnew : scene.session.placement ≠ some placement) :
      Turn setting scene (.blockPlacement placement)
        (((scene.record (.took .play (.blockPlacement placement))).remember placement).note
          (.placed setting.who placement))
  /-- Neither is the keepalive answered, nor a placement accepted, nor is anybody mentioned. -/
  | passed (packet : Packet) (after : Scene) (phase : Phase)
      (hphase : phase = scene.session.phase ∨ scene.session.phase = .handshake ∧ phase ≠ .play)
      (hecho : scene.session.phase = .play → packet ≠ .keepAlive scene.session.pingId)
      (hplacement : ∀ placement, scene.session.phase = .play → packet = .blockPlacement placement →
        scene.session.placement = some placement)
      (hspeech : ∀ message, scene.session.phase = .play → packet = .chat message →
        IsSpeech message → scene.session.player = none)
      (ha : Aftermath { scene.record (.took scene.session.phase packet) with
        session := { scene.session with phase } } after False) :
      Turn setting scene packet after

theorem Turn.of_aftermath {scene after : Scene} {packet : Packet}
    (hecho : scene.session.phase = .play → packet ≠ .keepAlive scene.session.pingId)
    (hplacement : ∀ placement, scene.session.phase = .play → packet = .blockPlacement placement →
      scene.session.placement = some placement)
    (hspeech : ∀ message, scene.session.phase = .play → packet = .chat message →
      IsSpeech message → scene.session.player = none)
    (ha : Aftermath (scene.record (.took scene.session.phase packet)) after False) :
    Turn setting scene packet after :=
  .passed packet after scene.session.phase (.inl rfl) hecho hplacement hspeech ha

namespace Scene

/-- What happens from the packet of a login on, up to the question what to say of it. -/
def arrival (scene : Scene) (setting : Setting) (name : String) : List Event :=
  [.took .login (.loginStart name), .log (.moved setting.who .login .play),
    .write (.loginSuccess name), .attached (scene.newcomer name), .asked (.login name),
    .entered (scene.newcomer name), .log (.entered name scene.world.nextId scene.world.name),
    .asked (.join name)]

theorem trace_joined (scene : Scene) (setting : Setting) (name : String) :
    (((scene.host setting name).enterWorld (scene.newcomer name)).ask (.join name)).trace =
      scene.trace ++ scene.arrival setting name := by
  have hentered : ((scene.host setting name).enterWorld (scene.newcomer name)).trace =
      (scene.host setting name).trace ++ [.entered (scene.newcomer name),
        .log (.entered name scene.world.nextId scene.world.name)] := List.append_assoc _ _ _
  simp [ask, record, hentered, trace_host, arrival]

/-- What happens from the packet of a login on, up to the notice that it was refused. -/
def refusal (scene : Scene) (setting : Setting) (name reason : String) : List Event :=
  [.took .login (.loginStart name), .log (.moved setting.who .login .play),
    .write (.loginSuccess name), .attached (scene.newcomer name), .asked (.login name),
    .log (.loginRefused name reason)]

theorem trace_refused (scene : Scene) (setting : Setting) (name reason : String) :
    ((scene.host setting name).note (.loginRefused name reason)).trace =
      scene.trace ++ scene.refusal setting name reason :=
  (congrArg (· ++ _) (trace_host scene setting name)).trans (List.append_assoc _ _ _)

end Scene

/-- A turn, apart from whether anybody is told of it. -/
inductive Gist (setting : Setting) (scene : Scene) : Packet → Scene → Prop
  | hosted (name : String) (between after : Scene) (new : List Event) (mentioned : Prop)
      (h : scene.Admits (.loginStart name))
      (hsession : between.session =
        { scene.session with phase := .play, player := some (scene.newcomer name) })
      (htrace : between.trace = scene.trace ++ new)
      (hnew : new = scene.arrival setting name ∨ ∃ reason, new = scene.refusal setting name reason)
      (ha : Aftermath between after mentioned) : Gist setting scene (.loginStart name) after
  | echoed (hphase : scene.session.phase = .play) :
      Gist setting scene (.keepAlive scene.session.pingId)
        (scene.record (.took .play (.keepAlive scene.session.pingId))).pong
  | placed (placement : Placement) (hphase : scene.session.phase = .play)
      (hnew : scene.session.placement ≠ some placement) :
      Gist setting scene (.blockPlacement placement)
        (((scene.record (.took .play (.blockPlacement placement))).remember placement).note
          (.placed setting.who placement))
  | taken (packet : Packet) (after : Scene) (phase : Phase) (mentioned : Prop)
      (hphase : phase = scene.session.phase ∨ scene.session.phase = .handshake ∧ phase ≠ .play)
      (hecho : scene.session.phase = .play → packet ≠ .keepAlive scene.session.pingId)
      (hplacement : ∀ placement, scene.session.phase = .play → packet = .blockPlacement placement →
        scene.session.placement = some placement)
      (ha : Aftermath { scene.record (.took scene.session.phase packet) with
        session := { scene.session with phase } } after mentioned) :
      Gist setting scene packet after

theorem Turn.gist {scene after : Scene} {packet : Packet} (h : Turn setting scene packet after) :
    Gist setting scene packet after := by
  cases h with
  | refused name reason h =>
    exact .hosted name _ _ _ _ h rfl (trace_refused scene setting name reason) (.inr ⟨reason, rfl⟩)
      (aftermath_sendAway _ reason)
  | admitted name h =>
    obtain ⟨mentioned, htold⟩ := aftermath_announce
      (((scene.host setting name).enterWorld (scene.newcomer name)).ask (.join name))
      (scene.policy.join (scene.asked + 1) name)
    exact .hosted name _ _ _ _ h rfl (trace_joined scene setting name) (.inl rfl) htold
  | echoed hphase => exact .echoed hphase
  | spoken message after hphase hplayer h ha =>
    have htaken : Aftermath (scene.record (.took scene.session.phase (.chat message))) after True := by
      rw [hphase]
      exact ha
    exact .taken (.chat message) after scene.session.phase _ (.inl rfl) nofun nofun htaken
  | placed placement hphase hnew => exact .placed placement hphase hnew
  | passed packet after phase hphase hecho hplacement hspeech ha =>
    exact .taken packet after phase _ hphase hecho hplacement ha

namespace Scene

variable {scene : Scene}

theorem aftermath_disconnect_of_none (hnone : scene.session.player = none) (reason : String) :
    Aftermath scene (scene.disconnect reason) False :=
  (aftermath_disconnectWith scene reason false).congr (by simp [hnone])

theorem aftermath_note_disconnect (hnone : scene.session.player = none) (notice : Notice)
    (h : (Event.log notice).isSequel) (reason : String) :
    Aftermath scene ((scene.note notice).disconnect reason) False := by
  have hnone' : (scene.note notice).session.player = none := hnone
  have hnoted := (aftermath_note scene notice h).trans (aftermath_disconnect_of_none hnone' reason)
  exact hnoted.congr (by simp)

theorem turn_handshake (version : UInt32) (address : String) (port : UInt16) (next : Phase)
    (player : Option Player) (hp : scene.PlayerInPlay) (hphase : scene.session.phase = .handshake) :
    Turn setting scene (.handshake version address port next)
      (handshake setting player (.handshake version address port next)
        (scene.record (.took scene.session.phase (.handshake version address port next)))) := by
  have hnone : scene.session.player = none := hp.player_eq_none (by simp [hphase])
  generalize hpacket : Packet.handshake version address port next = packet
  simp only [← hpacket, handshake]
  rw [hpacket]
  by_cases hnext : next = .status ∨ next = .login
  · -- The move is noted before the phase changes, but the two can be exchanged.
    let opened : Scene := { scene.record (.took scene.session.phase packet) with
      session := { scene.session with phase := next } }
    have hmoved : Aftermath opened (opened.note (.moved setting.who scene.session.phase next)) False :=
      aftermath_note opened _ rfl
    have hset : (scene.record (.took scene.session.phase packet)).setPhase setting next =
        .ok (opened.note (.moved setting.who scene.session.phase next)) := by
      refine setPhase_of_canAdvanceTo ?_ ?_
      · rcases hnext with rfl | rfl <;> simp [record, hphase, Phase.canAdvanceTo]
      · rcases hnext with rfl | rfl <;> simp [record, hphase]
    refine .passed packet _ next (.inr ⟨hphase, ?_⟩) (by simp [hphase]) (by simp [hphase])
      (by simp [hphase]) ?_
    · rcases hnext with rfl | rfl <;> simp
    rw [if_pos hnext, hset]
    dsimp only
    split
    · have hnone' : (opened.note (.moved setting.who scene.session.phase next)).session.player =
          none := hnone
      exact (hmoved.trans (aftermath_note_disconnect hnone' _ rfl _)).congr (by simp)
    · exact hmoved
  · rw [if_neg hnext]
    have hnone' : (scene.record (.took scene.session.phase packet)).session.player = none := hnone
    exact .of_aftermath (by simp [hphase]) (by simp [hphase]) (by simp [hphase])
      (aftermath_note_disconnect hnone' _ rfl _)

theorem turn_loginStart (name : String) (player : Option Player) (hp : scene.PlayerInPlay)
    (hphase : scene.session.phase = .login) :
    Turn setting scene (.loginStart name) (loginStart setting player (.loginStart name)
      (scene.record (.took scene.session.phase (.loginStart name)))) := by
  have hnone : scene.session.player = none := hp.player_eq_none (by simp [hphase])
  by_cases hname : isValidName name
  · have h : scene.Admits (.loginStart name) := ⟨hphase, hnone, hname⟩
    rw [hphase, loginStart_of_admits h]
    cases hverdict : scene.policy.login scene.asked name with
    | denied reason => exact .refused name reason h hverdict
    | allowed => exact .admitted name h hverdict
  · refine .of_aftermath (by simp [hphase]) (by simp [hphase]) (by simp [hphase]) ?_
    have hnone' : (scene.record (.took scene.session.phase (.loginStart name))).session.player =
        none := hnone
    simp only [loginStart]
    rw [if_neg (by simp [hnone']), if_pos (by simpa using hname)]
    exact aftermath_disconnect_of_none hnone' _

theorem turn_keepAlive (id : Int32) (player : Option Player)
    (hphase : scene.session.phase = .play) :
    Turn setting scene (.keepAlive id) (keepAlive setting player (.keepAlive id)
      (scene.record (.took scene.session.phase (.keepAlive id)))) := by
  simp only [keepAlive]
  split
  · rename_i hid
    obtain rfl : id = scene.session.pingId := hid
    rw [hphase]
    exact .echoed hphase
  · rename_i hid
    refine .of_aftermath (fun _ h => hid ?_) (by simp) (by simp) (aftermath_note _ _ rfl)
    exact Packet.keepAlive.inj h

theorem turn_chat (message : String) (hphase : scene.session.phase = .play) :
    Turn setting scene (.chat message) (chat setting scene.session.player (.chat message)
      (scene.record (.took scene.session.phase (.chat message)))) := by
  cases hplayer : scene.session.player with
  | none =>
    exact .of_aftermath (by simp) (by simp) (fun _ _ _ _ => hplayer) (.refl _)
  | some player =>
    simp only [chat]
    cases hempty : (Text.trim message).isEmpty with
    | true =>
      refine .of_aftermath (by simp) (by simp) ?_ (.refl _)
      rintro message - h hspeech
      cases h
      cases hspeech.symm.trans hempty
    | false =>
      rw [hphase]
      refine .spoken message _ hphase (by simp [hplayer]) hempty ?_
      simp only [Bool.false_eq_true, if_false]
      split
      · exact (aftermath_disconnectWith _ _ false).congr (by simp [record, hplayer])
      · exact aftermath_broadcast _ _

theorem turn_blockPlacement (placement : Placement) (player : Option Player)
    (hphase : scene.session.phase = .play) :
    Turn setting scene (.blockPlacement placement)
      (blockPlacement setting player (.blockPlacement placement)
        (scene.record (.took scene.session.phase (.blockPlacement placement)))) := by
  simp only [blockPlacement]
  split
  · rename_i hsame
    refine .of_aftermath (by simp) ?_ (by simp) (aftermath_note _ _ rfl)
    rintro placement - h
    cases h
    exact hsame
  · rename_i hnew
    rw [hphase]
    exact .placed placement hphase hnew

theorem turn_dispatch (hp : scene.PlayerInPlay) (packet : Packet) :
    Turn setting scene packet (scene.dispatch (standard listing) setting packet) := by
  simp only [dispatch_standard]
  split
  · rename_i hphase
    exact turn_handshake _ _ _ _ _ hp hphase
  · rename_i hphase
    have hsent := aftermath_record (scene.record (.took scene.session.phase .statusRequest))
      (.write (.statusResponse (listing.json scene.world.online).render)) rfl
    exact .of_aftermath (by simp) (by simp) (by simp) (hsent.congr (by simp [Event.isMention]))
  · rename_i time hphase
    have hnone : ((scene.record (.took scene.session.phase (.ping time))).send
        (.ping time)).session.player = none := hp.player_eq_none (by simp [hphase])
    have hsent := aftermath_record (scene.record (.took scene.session.phase (.ping time)))
      (.write (.ping time)) rfl
    have haway := hsent.trans (aftermath_disconnect_of_none hnone "")
    exact .of_aftermath (by simp) (by simp) (by simp) (haway.congr (by simp [Event.isMention]))
  · rename_i hphase
    exact turn_loginStart _ _ hp hphase
  · rename_i hphase
    exact turn_keepAlive _ _ hphase
  · rename_i hphase
    exact turn_chat _ hphase
  · rename_i hphase
    exact turn_blockPlacement _ _ hphase
  · rename_i hkeep hchat hplace
    refine .of_aftermath (fun hphase h => ?_) (fun placement hphase h => ?_)
      (fun message hphase h => ?_) (aftermath_note _ _ rfl)
    · exact (hkeep _ hphase h).elim
    · exact (hplace placement hphase h).elim
    · exact (hchat message hphase h).elim

/-! What a pulse does about silence, after the packets that waited have been taken up. -/

section

/-- The next pulse gives the client up. -/
def TimesOut (scene : Scene) (table : Table) (setting : Setting) : Prop :=
  setting.timeoutTicks ≤ (scene.drained table setting).session.idle ∧
    (scene.drained table setting).session.outstanding.isSome

def Issues (scene : Scene) (table : Table) (setting : Setting) (id : KeepAliveId) : Prop :=
  setting.timeoutTicks ≤ (scene.drained table setting).session.idle ∧
    (scene.drained table setting).session.outstanding = none ∧
    setting.drawn (scene.drained table setting).session.issued = id

variable {table : Table} {scene : Scene}

theorem pulse_of_timesOut (h : scene.TimesOut table setting) :
    scene.pulse table setting = (scene.drained table setting).disconnect timeoutReason := by
  obtain ⟨id, hid⟩ := Option.isSome_iff_exists.mp h.2
  rw [pulse_eq_checkSilence, checkSilence, if_neg (Nat.not_lt.mpr h.1), hid]

theorem pulse_of_issues {id : KeepAliveId} (h : scene.Issues table setting id) :
    scene.pulse table setting = (scene.drained table setting).issueKeepAlive setting := by
  rw [pulse_eq_checkSilence, checkSilence, if_neg (Nat.not_lt.mpr h.1), h.2.1]

theorem Issues.not_timesOut {id : KeepAliveId} (h : scene.Issues table setting id) :
    ¬ scene.TimesOut table setting := by
  rintro ⟨-, howed⟩
  simp [h.2.1] at howed

theorem pulse_cases (scene : Scene) (table : Table) (setting : Setting) :
    (scene.drained table setting).session.idle < setting.timeoutTicks ∧
        scene.pulse table setting = scene.drained table setting ∨
      scene.TimesOut table setting ∨ ∃ id, scene.Issues table setting id := by
  by_cases hidle : (scene.drained table setting).session.idle < setting.timeoutTicks
  · exact .inl ⟨hidle, by rw [pulse_eq_checkSilence, checkSilence, if_pos hidle]⟩
  · have hsilent := Nat.not_lt.mp hidle
    cases ho : (scene.drained table setting).session.outstanding with
    | none => exact .inr (.inr ⟨_, hsilent, ho, rfl⟩)
    | some id => exact .inr (.inl ⟨hsilent, by simp [ho]⟩)

theorem session_issueKeepAlive (scene : Scene) (setting : Setting) :
    (scene.issueKeepAlive setting).session = { scene.session with
      outstanding := some (setting.drawn scene.session.issued)
      idle := 0
      issued := scene.session.issued + 1 } := by
  simp only [issueKeepAlive]
  split
  · rfl
  · rfl

theorem trace_issueKeepAlive (scene : Scene) (setting : Setting) :
    (scene.issueKeepAlive setting).trace = scene.trace ++
      .log (.keepAliveIssued (setting.drawn scene.session.issued).val setting.who) ::
        if scene.session.phase = .play then
          [.write (.keepAlive (setting.drawn scene.session.issued).val)]
        else [] := by
  by_cases hplay : scene.session.phase = .play
  · simp [issueKeepAlive, note, send, record, hplay]
  · simp [issueKeepAlive, note, record, hplay]

end

end Scene
end GameServer
