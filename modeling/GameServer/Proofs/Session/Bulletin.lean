import GameServer.Proofs.Session.Tenure
import GameServer.Proofs.Session.Turn

/-! What the others are told of a session if the owner gives the answers it gives by itself: that a
player has joined, what the player says, and that it has left. -/

namespace GameServer

open Service

namespace Text

theorem not_isBlank_of_head?_dropWhile {text : List Char} {c : Char}
    (h : (text.dropWhile isBlank).head? = some c) : isBlank c = false := by
  have hhead := List.head?_dropWhile_not isBlank text
  rw [h] at hhead
  simpa using hhead

theorem getLast?_dropWhile {text : List Char} (h : text.dropWhile isBlank ≠ []) :
    (text.dropWhile isBlank).getLast? = text.getLast? := by
  obtain ⟨blanks, hb⟩ : text.dropWhile isBlank <:+ text := List.dropWhile_suffix isBlank
  have hlast := congrArg List.getLast? hb
  rw [List.getLast?_append] at hlast
  cases hl : (text.dropWhile isBlank).getLast? with
  | none => exact absurd (List.getLast?_eq_none_iff.mp hl) h
  | some c =>
    rw [hl] at hlast
    exact hlast

/-- No blank is left at either end. -/
theorem ends_trimChars (text : List Char) :
    (∀ c, (trimChars text).head? = some c → isBlank c = false) ∧
      ∀ c, (trimChars text).getLast? = some c → isBlank c = false := by
  unfold trimChars
  simp only [List.head?_reverse, List.getLast?_reverse]
  refine ⟨fun c h => ?_, fun c h => not_isBlank_of_head?_dropWhile h⟩
  rw [getLast?_dropWhile, List.getLast?_reverse] at h
  · exact not_isBlank_of_head?_dropWhile h
  · rintro he
    simp [he] at h

end Text

/-- One to a hundred characters, and no blank at either end. -/
structure Service.Presentable (message : String) : Prop where
  length_pos : 1 ≤ message.length
  length_le : message.length ≤ 100
  head_eq : ∀ c, message.toList.head? = some c → Text.isBlank c = false
  last_eq : ∀ c, message.toList.getLast? = some c → Text.isBlank c = false

theorem Service.presentable_trim {message : String} (hempty : (Text.trim message).isEmpty = false)
    (hlength : (Text.trim message).length ≤ maxChatLength) : Presentable (Text.trim message) := by
  have hlist : (Text.trim message).toList = Text.trimChars message.toList := by
    simp [Text.trim]
  obtain ⟨hhead, hlast⟩ := Text.ends_trimChars message.toList
  refine ⟨Nat.one_le_iff_ne_zero.mpr fun hz => ?_, hlength, hlist ▸ hhead, hlist ▸ hlast⟩
  simp [← String.length_eq_zero_iff, hz] at hempty

open Event

/-- What comes of a session by what is said of it. -/
inductive Report (scene after : Scene) : List String → Prop
  | silent (hplayer : after.session.player = scene.session.player)
      (hphase : after.session.phase = scene.session.phase ∨
        scene.session.phase ≠ .play ∧ after.session.phase ≠ .play) : Report scene after []
  | joined (player : Player) (hname : isValidName player.name) (hphase : scene.session.phase = .login)
      (hafter : after.session.phase = .play) (hplayer : after.session.player = some player) :
      Report scene after [Policy.joinMessage player.name]
  | said (player : Player) (message : String) (hmessage : Presentable message)
      (hplayer : scene.session.player = some player) (hsame : after.session = scene.session) :
      Report scene after [chatLine player.name message]
  | left (player : Player) (hplayer : scene.session.player = some player)
      (hphase : after.session.phase = scene.session.phase) (hnone : after.session.player = none) :
      Report scene after [Policy.leaveMessage player.name]

def Reported (scene after : Scene) : Prop :=
  after.policy = scene.policy ∧
    ∃ new, after.trace = scene.trace ++ new ∧ Report scene after (texts new)

abbrev Reports := Relation.ReflTransGen Reported

/-- The owner gives the answers it gives by itself. -/
def Policy.Usual (policy : Policy) : Prop := policy = { Policy.console with echoes := policy.echoes }

/-- What has been said of a session so far. -/
inductive Bulletin (scene : Scene) : Prop
  | silent (hphase : scene.session.phase ≠ .play) (hnone : scene.session.player = none)
      (ht : texts scene.trace = [])
  | present (player : Player) (messages : List String) (hphase : scene.session.phase = .play)
      (hplayer : scene.session.player = some player) (hname : isValidName player.name)
      (hmessages : ∀ message ∈ messages, Presentable message)
      (ht : texts scene.trace =
        Policy.joinMessage player.name :: messages.map (chatLine player.name))
  | gone (name : String) (messages : List String) (hphase : scene.session.phase = .play)
      (hnone : scene.session.player = none) (hname : isValidName name)
      (hmessages : ∀ message ∈ messages, Presentable message)
      (ht : texts scene.trace = Policy.joinMessage name :: messages.map (chatLine name) ++
        [Policy.leaveMessage name])

variable {scene after : Scene}

theorem Reported.bulletin (hr : Reported scene after) (h : Bulletin scene) : Bulletin after := by
  obtain ⟨-, new, htrace, hreport⟩ := hr
  have htexts : texts after.trace = texts scene.trace ++ texts new := by rw [htrace, texts_append]
  generalize texts new = said at hreport htexts
  cases hreport with
  | silent hplayer hphase =>
    rw [List.append_nil] at htexts
    cases h with
    | silent hbefore hnone ht =>
      refine .silent ?_ (hplayer.trans hnone) (htexts.trans ht)
      rcases hphase with he | ⟨-, hne⟩
      · exact he ▸ hbefore
      · exact hne
    | present player messages hbefore hseated hname hmessages ht =>
      have hplay := hphase.resolve_right fun hne => hne.1 hbefore
      exact .present player messages (hplay.trans hbefore) (hplayer.trans hseated) hname hmessages
        (htexts.trans ht)
    | gone name messages hbefore hnone hname hmessages ht =>
      have hplay := hphase.resolve_right fun hne => hne.1 hbefore
      exact .gone name messages (hplay.trans hbefore) (hplayer.trans hnone) hname hmessages
        (htexts.trans ht)
  | joined player hname hphase hafter hplayer =>
    cases h with
    | silent hbefore hnone ht =>
      exact .present player [] hafter hplayer hname nofun (by rw [htexts, ht]; rfl)
    | present _ _ hbefore => cases hphase.symm.trans hbefore
    | gone _ _ hbefore => cases hphase.symm.trans hbefore
  | said player message hmessage hplayer hsame =>
    cases h with
    | silent _ hnone => cases hplayer.symm.trans hnone
    | present other messages hbefore hseated hname hmessages ht =>
      obtain rfl := Option.some.inj (hplayer.symm.trans hseated)
      refine .present player (messages ++ [message]) (hsame ▸ hbefore) (hsame ▸ hseated) hname ?_ ?_
      · simpa [or_imp, forall_and] using ⟨hmessages, hmessage⟩
      · simp [htexts, ht]
    | gone _ _ _ hnone => cases hplayer.symm.trans hnone
  | left player hplayer hphase hnone =>
    cases h with
    | silent _ hnone' => cases hplayer.symm.trans hnone'
    | present other messages hbefore hseated hname hmessages ht =>
      obtain rfl := Option.some.inj (hplayer.symm.trans hseated)
      exact .gone player.name messages (hphase.trans hbefore) hnone hname hmessages
        (by rw [htexts, ht])
    | gone _ _ _ hnone' => cases hplayer.symm.trans hnone'

theorem Reports.bulletin (hr : Reports scene after) (h : Bulletin scene) : Bulletin after := by
  induction hr with
  | refl => exact h
  | tail _ hlast ih => exact hlast.bulletin ih

theorem Reports.usual (hr : Reports scene after) (h : scene.policy.Usual) : after.policy.Usual := by
  induction hr with
  | refl => exact h
  | tail _ hlast ih => exact hlast.1 ▸ ih

/-! The operations, if the owner gives the answers it gives by itself. -/

namespace Scene

variable {listing : Listing} {setting : Setting}

theorem reported_silent (hpolicy : after.policy = scene.policy) {new : List Event}
    (ht : after.trace = scene.trace ++ new) (htexts : texts new = [])
    (hplayer : after.session.player = scene.session.player)
    (hphase : after.session.phase = scene.session.phase) : Reported scene after :=
  ⟨hpolicy, new, ht, htexts ▸ .silent hplayer (.inl hphase)⟩

theorem reported_record (event : Event) (h : event.text? = none) :
    Reported scene (scene.record event) :=
  reported_silent rfl rfl (by simp [texts, h]) rfl rfl

theorem reported_note (notice : Notice) : Reported scene (scene.note notice) :=
  reported_record (.log notice) rfl

theorem reported_adjusted (session : Session) (hplayer : session.player = scene.session.player)
    (hphase : session.phase = scene.session.phase) : Reported scene { scene with session } :=
  reported_silent rfl (List.append_nil _).symm rfl hplayer hphase

theorem worded_append {ending : String} (hne : ending ≠ "") (name : String) :
    worded (some (name ++ ending)) = some (name ++ ending) := by
  simp [worded, Option.filter, hne]

theorem texts_told_leave (scene : Scene) (name : String) :
    texts (scene.told (some (Policy.leaveMessage name))) = [Policy.leaveMessage name] := by
  rw [texts_told, Policy.leaveMessage, worded_append (by decide)]
  rfl

theorem reports_keepAlive (player : Option Player) (id : Int32) :
    Reports scene (keepAlive setting player (.keepAlive id) scene) := by
  simp only [keepAlive]
  split
  · exact .single (reported_adjusted _ rfl rfl)
  · exact .single (reported_note _)

theorem reports_blockPlacement (player : Option Player) (placement : Placement) :
    Reports scene (blockPlacement setting player (.blockPlacement placement) scene) := by
  simp only [blockPlacement]
  split
  · exact .single (reported_note _)
  · have hremembered : Reported scene (scene.remember placement) := reported_adjusted _ rfl rfl
    exact (Relation.ReflTransGen.single hremembered).tail (reported_note _)

section

variable (husual : scene.policy.Usual)

include husual

theorem reported_disconnect (reason : String) : Reported scene (scene.disconnect reason) := by
  cases hplayer : scene.session.player with
  | none =>
    rw [Scene.disconnect, disconnectWith_of_unasked (.inr hplayer), sendAway_eq]
    exact reported_silent rfl rfl (texts_parting _ _) rfl rfl
  | some player =>
    have hverdict : scene.policy.kick scene.asked player.name reason =
        .proceed reason (some (Policy.leaveMessage player.name)) := by
      rw [husual]
      rfl
    obtain ⟨world, notices, he⟩ := exists_disconnect_of_proceed hplayer hverdict
    rw [he]
    refine ⟨rfl, _, rfl, ?_⟩
    simp only [texts_cons, texts_append, texts_told_leave, texts_logs, texts_parting, text?,
      Option.toList_none, List.nil_append, List.append_nil]
    exact .left player hplayer rfl rfl

theorem reported_dispose : Reported scene (scene.dispose true) := by
  cases hplayer : scene.session.player with
  | none =>
    rw [scene.dispose_of_none hplayer]
    exact reported_silent rfl (List.append_nil _).symm rfl rfl rfl
  | some player =>
    have hmessage : scene.policy.quit scene.asked player.name =
        some (Policy.leaveMessage player.name) := by
      rw [husual]
      rfl
    obtain ⟨world, notices, he⟩ := exists_dispose hplayer true
    rw [he, if_pos rfl, hmessage]
    refine ⟨rfl, _, rfl, ?_⟩
    simp only [texts_cons, texts_append, texts_told_leave, texts_logs, text?, Option.toList_none,
      List.nil_append]
    exact .left player hplayer rfl rfl

theorem reports_note_disconnect (notice : Notice) (reason : String) :
    Reports scene ((scene.note notice).disconnect reason) := by
  have hnoted : (scene.note notice).policy.Usual := husual
  exact (Relation.ReflTransGen.single (reported_note notice)).tail
    (reported_disconnect hnoted reason)

/-! The handlers, each after its packet has been taken up. -/

theorem reports_handshake (player : Option Player) (version : UInt32) (address : String)
    (port : UInt16) (next : Phase) (hphase : scene.session.phase = .handshake) :
    Reports scene (handshake setting player (.handshake version address port next) scene) := by
  simp only [handshake]
  by_cases hnext : next = .status ∨ next = .login
  · have hc : scene.session.phase.canAdvanceTo next ∧ scene.session.phase ≠ next := by
      rcases hnext with rfl | rfl <;> simp [hphase, Phase.canAdvanceTo]
    rw [if_pos hnext, setPhase_of_canAdvanceTo hc.1 hc.2]
    dsimp only
    generalize hopened : ({ scene.note (.moved setting.who scene.session.phase next) with
      session := { scene.session with phase := next } } : Scene) = opened
    have hmoved : Reported scene opened := by
      subst hopened
      refine ⟨rfl, [.log (.moved setting.who scene.session.phase next)], rfl, ?_⟩
      refine .silent rfl (.inr ⟨by simp [hphase], ?_⟩)
      rcases hnext with rfl | rfl <;> simp
    have hopen : opened.policy.Usual := hmoved.1 ▸ husual
    split
    · exact (Relation.ReflTransGen.single hmoved).trans (reports_note_disconnect hopen _ _)
    · exact .single hmoved
  · rw [if_neg hnext]
    exact reports_note_disconnect husual _ _

theorem reports_chat (message : String) :
    Reports scene (chat setting scene.session.player (.chat message) scene) := by
  cases hplayer : scene.session.player with
  | none => exact .refl
  | some player =>
    simp only [chat]
    split
    · exact .refl
    · rename_i hempty
      split
      · exact .single (reported_disconnect husual _)
      · rename_i hlong
        rw [broadcast_eq]
        refine .single ⟨rfl, _, rfl, ?_⟩
        rw [texts_spoken]
        exact .said player _ (presentable_trim (Bool.eq_false_iff.mpr hempty)
          (Nat.le_of_not_lt hlong)) hplayer rfl

theorem reports_loginStart (name : String) (hphase : scene.session.phase = .login) :
    Reports scene (loginStart setting scene.session.player (.loginStart name)
      (scene.record (.took .login (.loginStart name)))) := by
  by_cases h : scene.Admits (.loginStart name)
  · have hverdict : scene.policy.login scene.asked name = .allowed := by
      rw [husual]
      rfl
    have hmessage : scene.policy.join (scene.asked + 1) name = some (Policy.joinMessage name) := by
      rw [husual]
      rfl
    rw [loginStart_of_admits h, hverdict]
    dsimp only
    rw [announce_eq, trace_joined, hmessage]
    refine .single ⟨policy_enterWorld _ _, _, List.append_assoc _ _ _, ?_⟩
    have hjoined : texts ((((scene.host setting name).enterWorld (scene.newcomer name)).ask
        (.join name)).told (some (Policy.joinMessage name))) = [Policy.joinMessage name] := by
      rw [texts_told, Policy.joinMessage, worded_append (by decide)]
      rfl
    rw [texts_append, hjoined]
    exact .joined (scene.newcomer name) h.2.2 hphase rfl rfl
  · have htook : Reports scene (scene.record (.took .login (.loginStart name))) :=
      .single (reported_record _ rfl)
    simp only [loginStart]
    by_cases hseated : (scene.record (.took .login (.loginStart name))).session.player.isSome
    · rw [if_pos hseated]
      exact htook.tail (reported_note _)
    · have hnone : scene.session.player = none := Option.not_isSome_iff_eq_none.mp hseated
      have hname : (!isValidName name) = true := by simpa [Admits, hphase, hnone] using h
      have htaken : (scene.record (.took .login (.loginStart name))).policy.Usual := husual
      rw [if_neg hseated, if_pos hname]
      exact htook.tail (reported_disconnect htaken _)

theorem reports_dispatch (packet : Packet) :
    Reports scene (scene.dispatch (standard listing) setting packet) := by
  have htook : Reports scene (scene.record (.took scene.session.phase packet)) :=
    .single (reported_record _ rfl)
  have htaken : (scene.record (.took scene.session.phase packet)).policy.Usual := husual
  rw [dispatch_standard]
  dsimp only
  split
  · rename_i hphase
    exact htook.trans (reports_handshake htaken _ _ _ _ _ hphase)
  · exact htook.tail (reported_record _ rfl)
  · rename_i time _
    let echoed := (scene.record (.took scene.session.phase (.ping time))).send (.ping time)
    have hechoed : Reports scene echoed := htook.tail (reported_record (.write (.ping time)) rfl)
    exact hechoed.tail (reported_disconnect (hechoed.usual husual) "")
  · rename_i hphase
    rw [hphase]
    exact reports_loginStart husual _ hphase
  · exact htook.trans (reports_keepAlive _ _)
  · exact htook.trans (reports_chat htaken _)
  · exact htook.trans (reports_blockPlacement _ _)
  · exact htook.tail (reported_note _)

/-! The orders of a server. -/

theorem reports_receive (packet : Packet) :
    Reports scene (scene.receive (standard listing) setting packet) := by
  unfold receive
  split
  · exact reports_dispatch husual packet
  · exact .single (reported_adjusted _ rfl rfl)

theorem reports_takeUp (packet : Packet) (rest : List Packet) :
    Reports scene (scene.takeUp (standard listing) setting packet rest) := by
  let opened : Scene := { scene with session := { scene.session with inbox := rest } }
  have hopened : Reports scene opened := .single (reported_adjusted _ rfl rfl)
  have husual' : opened.policy.Usual := husual
  exact (hopened.trans (reports_dispatch husual' packet)).tail (reported_adjusted _ rfl rfl)

theorem reports_drain (bound : Nat) :
    Reports scene (drain (standard listing) setting bound scene) := by
  induction bound generalizing scene with
  | zero => exact .refl
  | succ bound ih =>
    cases hinbox : scene.session.inbox with
    | nil => rw [drain_of_nil hinbox]
    | cons packet rest =>
      rw [drain_of_cons hinbox]
      have htaken : Reports scene (scene.takeUp (standard listing) setting packet rest) :=
        reports_takeUp husual packet rest
      exact htaken.trans (ih (htaken.usual husual))

theorem reports_checkSilence : Reports scene (scene.checkSilence setting) := by
  unfold checkSilence
  split
  · exact .refl
  · split
    · refine .single (reported_silent ?_ (trace_issueKeepAlive scene setting) ?_ ?_ ?_)
      · simp only [issueKeepAlive]
        split <;> rfl
      · rw [texts_cons]
        split <;> rfl
      · rw [session_issueKeepAlive]
      · rw [session_issueKeepAlive]
    · exact .single (reported_disconnect husual timeoutReason)

theorem reports_pulse : Reports scene (scene.pulse (standard listing) setting) := by
  have hticked : Reports scene scene.ticked := .single (reported_adjusted _ rfl rfl)
  have hdrained : Reports scene (scene.drained (standard listing) setting) :=
    hticked.trans (reports_drain (hticked.usual husual) _)
  rw [pulse_eq_checkSilence]
  exact hdrained.trans (reports_checkSilence (hdrained.usual husual))

theorem reports_order {move : Move} (h : move.isOrder) :
    Reports scene (scene.move (standard listing) setting move) := by
  cases move with
  | receive packet => exact reports_receive husual packet
  | queue packet => exact .single (reported_adjusted _ rfl rfl)
  | pulse => exact reports_pulse husual
  | disconnect reason force =>
    obtain rfl : force = false := by simpa [Move.isOrder] using h
    exact .single (reported_disconnect husual reason)
  | dispose tell =>
    obtain rfl : tell = true := h
    exact .single (reported_dispose husual)
  | elsewhere => cases h

end

theorem bulletin_begin (world : World) (policy : Policy) (asked : Nat) :
    Bulletin (begin world policy asked) := .silent nofun rfl rfl

end Scene
end GameServer
