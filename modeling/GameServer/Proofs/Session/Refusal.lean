import GameServer.Proofs.Session.Run
import GameServer.Proofs.Session.Turn
import GameServer.Server.Config

/-! Players that are refused when they log in. Such a player never enters the world, but it stays
with its session until that parts with it, and so it can still chat, be kicked and quit. -/

namespace GameServer

open Service

namespace Event

def isRefusal : Event → Bool
  | .log (.loginRefused ..) => true
  | _ => false

theorem not_isArrival_of_isSequel {event : Event} (h : event.isSequel) :
    event.isArrival = false := by
  unfold isArrival
  split
  · cases h
  · cases h
  · rfl

theorem not_isRefusal_of_isSequel {event : Event} (h : event.isSequel) :
    event.isRefusal = false := by
  unfold isRefusal
  split
  · cases h
  · rfl

def Mentions (events : List Event) : Prop := ∃ event ∈ events, event.isMention

def Arrives (events : List Event) : Prop := ∃ event ∈ events, event.isArrival

def Speaks (events : List Event) : Prop :=
  ∃ message, IsSpeech message ∧ .took .play (.chat message) ∈ events

variable {events more : List Event}

theorem mentions_append : Mentions (events ++ more) ↔ Mentions events ∨ Mentions more := by
  simp only [Mentions, List.mem_append, or_and_right, exists_or]

theorem arrives_append : Arrives (events ++ more) ↔ Arrives events ∨ Arrives more := by
  simp only [Arrives, List.mem_append, or_and_right, exists_or]

theorem speaks_append : Speaks (events ++ more) ↔ Speaks events ∨ Speaks more := by
  simp only [Speaks, List.mem_append, and_or_left, exists_or]

theorem not_speaks_of_isSequel (h : ∀ event ∈ events, event.isSequel) : ¬ Speaks events := by
  rintro ⟨message, -, hm⟩
  cases h _ hm

end Event

open Event

namespace Scene

/-- Where the player of a session is, by what has happened so far. -/
structure Accounted (scene : Scene) : Prop where
  playerInPlay : scene.PlayerInPlay
  outside : scene.session.phase ≠ .play →
    ∀ event ∈ scene.trace, event.isArrival = false ∧ event.isRefusal = false
  barred : (∃ event ∈ scene.trace, event.isRefusal) → ¬ Arrives scene.trace
  seated : scene.session.phase = .play → scene.session.player.isSome ∨ Mentions scene.trace

/-- What happens on the way, where the player of a session may be dismissed. -/
structure Passage (dismissed : Prop) (scene after : Scene) : Prop where
  accounted : after.Accounted
  events : ∃ new, after.trace = scene.trace ++ new ∧
    (Mentions new → Arrives new ∨ Speaks new ∨ dismissed) ∧
    (Speaks new ∨ dismissed → Mentions after.trace)

variable {listing : Listing} {setting : Setting} {scene between after : Scene}
  {dismissed dismissed' mentioned : Prop}

theorem Accounted.extend (h : scene.Accounted) {new : List Event}
    (ht : after.trace = scene.trace ++ new)
    (hnew : ∀ event ∈ new, event.isArrival = false ∧ event.isRefusal = false)
    (hphase : after.session.phase = .play ↔ scene.session.phase = .play)
    (hplayer : after.session.player = scene.session.player ∨
      after.session.player = none ∧ Mentions new) : after.Accounted := by
  constructor
  case playerInPlay =>
    intro hs
    rcases hplayer with he | ⟨hn, -⟩
    · exact hphase.mpr (h.playerInPlay (he ▸ hs))
    · simp [hn] at hs
  case outside =>
    intro hn
    rw [ht]
    exact List.forall_mem_append.mpr ⟨h.outside (mt hphase.mpr hn), hnew⟩
  case barred =>
    rintro ⟨event, hm, hr⟩
    rw [ht] at hm
    rw [ht, arrives_append]
    rcases List.mem_append.mp hm with hm | hm
    · rintro (ha | ⟨event', hm', ha⟩)
      · exact h.barred ⟨event, hm, hr⟩ ha
      · cases (hnew event' hm').1.symm.trans ha
    · cases (hnew event hm).2.symm.trans hr
  case seated =>
    intro hplay
    rw [ht, mentions_append]
    rcases hplayer with he | ⟨-, hm⟩
    · rw [he]
      rcases h.seated (hphase.mp hplay) with hs | hm
      · exact .inl hs
      · exact .inr (.inl hm)
    · exact .inr (.inr hm)

theorem Accounted.aftermath (h : scene.Accounted) (ha : Aftermath scene after mentioned) :
    after.Accounted := by
  obtain ⟨new, ht, hs, hm⟩ := ha.events
  refine h.extend ht (fun event he => ?_) (by rw [ha.session_eq]) ?_
  · exact ⟨not_isArrival_of_isSequel (hs event he), not_isRefusal_of_isSequel (hs event he)⟩
  · rcases ha.player_eq with he | ⟨hn, hmentioned⟩
    · exact .inl he
    · exact .inr ⟨hn, hm.mpr hmentioned⟩

theorem Accounted.login (h : scene.Accounted) {new : List Event}
    (ht : after.trace = scene.trace ++ new) (hphase : scene.session.phase ≠ .play)
    (hplay : after.session.phase = .play) (hplayer : after.session.player.isSome)
    (hnew : (∃ event ∈ new, event.isRefusal) → ¬ Arrives new) : after.Accounted := by
  constructor
  case playerInPlay => exact fun _ => hplay
  case outside => exact fun hn => absurd hplay hn
  case barred =>
    rintro ⟨event, hm, hr⟩
    rw [ht] at hm
    rw [ht, arrives_append]
    rcases List.mem_append.mp hm with hm | hm
    · cases (h.outside hphase event hm).2.symm.trans hr
    · rintro (⟨event', hm', ha⟩ | ha)
      · cases (h.outside hphase event' hm').1.symm.trans ha
      · exact hnew ⟨event, hm, hr⟩ ha
  case seated => exact fun _ => .inl hplayer

theorem Passage.trans (h : Passage dismissed scene between) (h' : Passage dismissed' between after) :
    Passage (dismissed ∨ dismissed') scene after := by
  obtain ⟨new, ht, htold, htells⟩ := h.events
  obtain ⟨new', ht', htold', htells'⟩ := h'.events
  refine ⟨h'.accounted, new ++ new', by rw [ht', ht, List.append_assoc], fun hm => ?_, fun hd => ?_⟩
  · rw [arrives_append, speaks_append]
    rcases mentions_append.mp hm with hm | hm
    · rcases htold hm with ha | hs | hd
      · exact .inl (.inl ha)
      · exact .inr (.inl (.inl hs))
      · exact .inr (.inr (.inl hd))
    · rcases htold' hm with ha | hs | hd
      · exact .inl (.inr ha)
      · exact .inr (.inl (.inr hs))
      · exact .inr (.inr (.inr hd))
  · have hkept : Mentions between.trace → Mentions after.trace := by
      rw [ht', mentions_append]
      exact .inl
    rw [speaks_append] at hd
    rcases hd with (hs | hs) | hd | hd
    · exact hkept (htells (.inl hs))
    · exact htells' (.inl hs)
    · exact hkept (htells (.inr hd))
    · exact htells' (.inr hd)

theorem Passage.congr (h : Passage dismissed scene after) (hd : dismissed ↔ dismissed') :
    Passage dismissed' scene after := propext hd ▸ h

theorem Passage.refl (h : scene.Accounted) : Passage False scene scene :=
  ⟨h, [], (List.append_nil _).symm, by simp [Mentions], by simp [Speaks]⟩

theorem Passage.of_quiet (h : scene.Accounted) {new : List Event}
    (ht : after.trace = scene.trace ++ new)
    (hnew : ∀ event ∈ new, event.isArrival = false ∧ event.isRefusal = false ∧
      event.isMention = false)
    (hspeaks : Speaks new → Mentions scene.trace)
    (hphase : after.session.phase = .play ↔ scene.session.phase = .play)
    (hplayer : after.session.player = scene.session.player) : Passage False scene after := by
  refine ⟨h.extend ht (fun event he => ⟨(hnew event he).1, (hnew event he).2.1⟩) hphase
    (.inl hplayer), new, ht, ?_, ?_⟩
  · rintro ⟨event, he, hm⟩
    cases (hnew event he).2.2.symm.trans hm
  · rintro (hs | hd)
    · rw [ht, mentions_append]
      exact .inl (hspeaks hs)
    · exact hd.elim

theorem Passage.of_aftermath (h : scene.Accounted) (ha : Aftermath scene after mentioned)
    (htold : mentioned → dismissed)
    (htells : dismissed → scene.session.phase = .play ∧ (scene.session.player.isSome → mentioned)) :
    Passage dismissed scene after := by
  obtain ⟨new, ht, hs, hm⟩ := ha.events
  refine ⟨h.aftermath ha, new, ht, ?_, ?_⟩
  · exact fun hmentions => .inr (.inr (htold (hm.mp hmentions)))
  · rintro (hspeaks | hd)
    · exact absurd hspeaks (not_speaks_of_isSequel hs)
    · -- Where there is no player to dismiss any more, there was one that has been mentioned.
      obtain ⟨hplay, hmentioned⟩ := htells hd
      rw [ht, mentions_append]
      rcases h.seated hplay with hseated | hbefore
      · exact .inr (hm.mpr (hmentioned hseated))
      · exact .inl hbefore

theorem passage_refused (h : scene.Accounted) {name : String}
    (hadmits : scene.Admits (.loginStart name)) (reason : String) :
    Passage False scene
      (((scene.host setting name).note (.loginRefused name reason)).sendAway reason) := by
  let noted := (scene.host setting name).note (.loginRefused name reason)
  have hoff : scene.session.phase ≠ .play := by simp [hadmits.1]
  have ht : noted.trace = scene.trace ++ (_ ++ [.log (.loginRefused name reason)]) :=
    (congrArg (· ++ _) (trace_host scene setting name)).trans (List.append_assoc _ _ _)
  have hlogin : noted.Accounted := h.login ht hoff rfl rfl fun _ => by simp [Arrives, isArrival]
  have hnoted : Passage False scene noted :=
    ⟨hlogin, _, ht, by simp [Mentions, isMention], by simp [Speaks]⟩
  exact (hnoted.trans (.of_aftermath hlogin (aftermath_sendAway noted reason) id False.elim)).congr
    (or_self_iff)

theorem passage_admitted (h : scene.Accounted) {name : String}
    (hadmits : scene.Admits (.loginStart name)) (message : Option String) :
    Passage False scene ((((scene.host setting name).enterWorld (scene.newcomer name)).ask
      (.join name)).announce message) := by
  let joined := ((scene.host setting name).enterWorld (scene.newcomer name)).ask (.join name)
  have hoff : scene.session.phase ≠ .play := by simp [hadmits.1]
  have hlogin : joined.Accounted := by
    refine h.login (trace_joined scene setting name) hoff rfl rfl ?_
    simp [arrival, isRefusal]
  -- The announcement mentions the newcomer, but after its arrival.
  obtain ⟨mentioned, ha⟩ := joined.aftermath_announce message
  obtain ⟨new, ht, hs, -⟩ := ha.events
  have harrives : Arrives (scene.arrival setting name ++ new) :=
    ⟨.entered (scene.newcomer name), by simp [arrival], rfl⟩
  refine ⟨hlogin.aftermath ha, scene.arrival setting name ++ new,
    by rw [ht, trace_joined, List.append_assoc], fun _ => .inl harrives, ?_⟩
  rintro (hspeaks | hd)
  · rcases speaks_append.mp hspeaks with hspeaks | hspeaks
    · simp [Speaks, arrival] at hspeaks
    · exact absurd hspeaks (not_speaks_of_isSequel hs)
  · exact hd.elim

theorem passage_turn (h : scene.Accounted) {packet : Packet}
    (hturn : Turn setting scene packet after) : Passage False scene after := by
  cases hturn with
  | refused name reason hadmits => exact passage_refused h hadmits reason
  | admitted name hadmits => exact passage_admitted h hadmits _
  | echoed hphase =>
    exact .of_quiet h rfl (by simp [isArrival, isRefusal, isMention]) (by simp [Speaks]) Iff.rfl rfl
  | spoken message after hphase hplayer hspeech ha =>
    let taken := scene.record (.took .play (.chat message))
    have htaken : taken.Accounted :=
      h.extend rfl (by simp [isArrival, isRefusal]) Iff.rfl (.inl rfl)
    have hpassage : Passage True taken after :=
      .of_aftermath htaken ha (fun _ => trivial) fun _ => ⟨hphase, fun _ => trivial⟩
    -- The packet is told of only by what comes after it, so the two are one passage.
    obtain ⟨new, ht, -, htells⟩ := hpassage.events
    have hspeaks : Speaks (.took .play (.chat message) :: new) := ⟨message, hspeech, by simp⟩
    exact ⟨hpassage.accounted, _, ht.trans (List.append_assoc _ _ _), fun _ => .inr (.inl hspeaks),
      fun _ => htells (.inr trivial)⟩
  | placed =>
    exact .of_quiet h (List.append_assoc _ _ _) (by simp [isArrival, isRefusal, isMention])
      (by simp [Speaks]) Iff.rfl rfl
  | passed packet after phase hphase hecho hplacement hspeech ha =>
    let taken : Scene := { scene.record (.took scene.session.phase packet) with
      session := { scene.session with phase } }
    have hplay : phase = .play ↔ scene.session.phase = .play := by
      rcases hphase with rfl | ⟨hh, hn⟩
      · exact Iff.rfl
      · simp [hh, hn]
    have htaken : Passage False scene taken := by
      refine .of_quiet h rfl (by simp [isArrival, isRefusal, isMention]) ?_ hplay rfl
      rintro ⟨message, hm, hmem⟩
      obtain ⟨hp, rfl⟩ := Event.took.inj (List.mem_singleton.mp hmem)
      rcases h.seated hp.symm with hs | hbefore
      · simp [hspeech message hp.symm rfl hm] at hs
      · exact hbefore
    exact (htaken.trans (.of_aftermath htaken.accounted ha id False.elim)).congr or_self_iff

theorem passage_dispatch (h : scene.Accounted) (packet : Packet) :
    Passage False scene (scene.dispatch (standard listing) setting packet) :=
  passage_turn h (turn_dispatch h.playerInPlay packet)

theorem Passage.of_player_eq (h : scene.Accounted) (ht : after.trace = scene.trace)
    (hphase : after.session.phase = scene.session.phase)
    (hplayer : after.session.player = scene.session.player) : Passage False scene after :=
  .of_quiet h (by rw [ht, List.append_nil]) (by simp) (by simp [Speaks]) (by rw [hphase]) hplayer

theorem passage_takeUp (h : scene.Accounted) (packet : Packet) (rest : List Packet) :
    Passage False scene (scene.takeUp (standard listing) setting packet rest) := by
  let left : Scene := { scene with session := { scene.session with inbox := rest } }
  have hleft : Passage False scene left := .of_player_eq h rfl rfl rfl
  have htaken : Passage False left (left.dispatch (standard listing) setting packet) :=
    passage_dispatch hleft.accounted packet
  have hheard : Passage False (left.dispatch (standard listing) setting packet)
      (scene.takeUp (standard listing) setting packet rest) :=
    .of_player_eq htaken.accounted rfl rfl rfl
  exact ((hleft.trans htaken).trans hheard).congr (by simp)

theorem passage_drain (h : scene.Accounted) (bound : Nat) :
    Passage False scene (drain (standard listing) setting bound scene) := by
  induction bound generalizing scene with
  | zero => exact .refl h
  | succ bound ih =>
    cases hinbox : scene.session.inbox with
    | nil =>
      rw [drain_of_nil hinbox]
      exact .refl h
    | cons packet rest =>
      rw [drain_of_cons hinbox]
      have htaken : Passage False scene (scene.takeUp (standard listing) setting packet rest) :=
        passage_takeUp h packet rest
      exact (htaken.trans (ih htaken.accounted)).congr or_self_iff

theorem passage_drained (h : scene.Accounted) :
    Passage False scene (scene.drained (standard listing) setting) := by
  have hticked : Passage False scene scene.ticked := .of_player_eq h rfl rfl rfl
  exact (hticked.trans (passage_drain hticked.accounted _)).congr or_self_iff

theorem passage_issueKeepAlive (h : scene.Accounted) :
    Passage False scene (scene.issueKeepAlive setting) := by
  refine .of_quiet h (trace_issueKeepAlive scene setting) ?_ ?_ ?_ ?_
  · split <;> simp [isArrival, isRefusal, isMention]
  · split <;> simp [Speaks]
  · rw [session_issueKeepAlive]
  · rw [session_issueKeepAlive]

/-- The player of a session in play is to go, though the owner may call a kick off. -/
def Dismisses (scene : Scene) (table : Table) (setting : Setting) : Move → Prop
  | .dispose _ => scene.session.phase = .play
  | .disconnect _ force => force = false ∧ scene.session.phase = .play
  | .pulse => scene.TimesOut table setting ∧ (scene.drained table setting).session.phase = .play
  | _ => False

theorem passage_disconnect (h : scene.Accounted) (reason : String) (force : Bool) :
    Passage (force = false ∧ scene.session.phase = .play) scene
      (scene.disconnectWith reason force) := by
  refine .of_aftermath h (aftermath_disconnectWith scene reason force) ?_ ?_
  · exact fun ⟨hforce, hs⟩ => ⟨hforce, h.playerInPlay hs⟩
  · exact fun ⟨hforce, hplay⟩ => ⟨hplay, fun hs => ⟨hforce, hs⟩⟩

theorem passage_pulse (h : scene.Accounted) :
    Passage (scene.Dismisses (standard listing) setting .pulse) scene
      (scene.pulse (standard listing) setting) := by
  have hd : Passage False scene (scene.drained (standard listing) setting) := passage_drained h
  rcases pulse_cases scene (standard listing) setting with ⟨hidle, he⟩ | ht | ⟨id, hi⟩
  · rw [he]
    exact hd.congr (iff_of_false id fun h => Nat.not_le.mpr hidle h.1.1)
  · rw [pulse_of_timesOut ht]
    refine (hd.trans (passage_disconnect hd.accounted timeoutReason false)).congr ?_
    simp [Dismisses, ht]
  · rw [pulse_of_issues hi]
    refine (hd.trans (passage_issueKeepAlive hd.accounted)).congr ?_
    simp [Dismisses, hi.not_timesOut]

theorem passage_move (h : scene.Accounted) (move : Move) :
    Passage (scene.Dismisses (standard listing) setting move) scene
      (scene.move (standard listing) setting move) := by
  cases move with
  | receive packet =>
    simp only [Scene.move, receive]
    split
    · exact passage_dispatch h packet
    · exact .of_player_eq h rfl rfl rfl
  | queue packet => exact .of_player_eq h rfl rfl rfl
  | pulse => exact passage_pulse h
  | disconnect reason force => exact passage_disconnect h reason force
  | dispose tell =>
    exact .of_aftermath h (aftermath_dispose scene tell) h.playerInPlay fun hplay => ⟨hplay, id⟩
  | elsewhere world policy asked => exact .of_player_eq h rfl rfl rfl

theorem passage_run (h : scene.Accounted) (moves : List Move) :
    Passage (∃ early move late, moves = early ++ move :: late ∧
        (scene.run (standard listing) setting early).Dismisses (standard listing) setting move)
      scene (scene.run (standard listing) setting moves) := by
  induction moves generalizing scene with
  | nil => exact (Passage.refl h).congr (by simp)
  | cons move moves ih =>
    have hm : Passage _ scene (scene.move (standard listing) setting move) := passage_move h move
    refine (hm.trans (ih hm.accounted)).congr ⟨?_, ?_⟩
    · rintro (hd | ⟨early, move', late, rfl, hd⟩)
      · exact ⟨[], move, moves, rfl, hd⟩
      · exact ⟨move :: early, move', late, rfl, hd⟩
    · rintro ⟨early, move', late, he, hd⟩
      cases early with
      | nil =>
        obtain ⟨rfl, rfl⟩ := List.cons.inj he
        exact .inl hd
      | cons first early =>
        obtain ⟨rfl, rfl⟩ := List.cons.inj he
        exact .inr ⟨early, move', late, rfl, hd⟩

theorem accounted_begin (world : World) (policy : Policy) (asked : Nat) :
    (begin world policy asked).Accounted where
  playerInPlay := playerInPlay_begin world policy asked
  outside _ := nofun
  barred := by simp [begin]
  seated := by simp [begin, Session.fresh]

section

variable (scene : Scene) (table : Table) (setting : Setting)

/-- The next pulse takes the packet up, in the scene `taken`. -/
def Takes (packet : Packet) (taken : Scene) : Prop :=
  ∃ count rest, count < scene.session.inbox.length + table.allowance ∧
    (drain table setting count scene.ticked).session.inbox = packet :: rest ∧
    taken = { drain table setting count scene.ticked with
      session := { (drain table setting count scene.ticked).session with inbox := rest } }

/-- In the course of the run the owner is asked whether a player may log in, and says no. -/
def Denied (moves : List Move) : Prop :=
  ∃ early late name reason taken, moves = early ++ .pulse :: late ∧
    (scene.run table setting early).Takes table setting (.loginStart name) taken ∧
    taken.Admits (.loginStart name) ∧ taken.policy.login taken.asked name = .denied reason

end

theorem Takes.trace_prefix {packet : Packet} {taken : Scene} (hp : scene.PlayerInPlay)
    (h : scene.Takes (standard listing) setting packet taken) :
    (taken.dispatch (standard listing) setting packet).trace <+:
      (scene.pulse (standard listing) setting).trace := by
  obtain ⟨count, rest, hlt, hinbox, rfl⟩ := h
  obtain ⟨more, hmore⟩ := Nat.exists_eq_add_of_lt hlt
  have hpticked : scene.ticked.PlayerInPlay := hp
  let waiting : Scene := drain (standard listing) setting count scene.ticked
  have hpwaiting : waiting.PlayerInPlay := Beats.playerInPlay (beats_drain hpticked count) hpticked
  have hdrained : scene.drained (standard listing) setting = drain (standard listing) setting more
      (waiting.takeUp (standard listing) setting packet rest) := by
    rw [drained, hmore, Nat.add_assoc, drain_add]
    exact drain_of_cons hinbox more
  have hrest : Beats listing setting (waiting.takeUp (standard listing) setting packet rest)
      (scene.pulse (standard listing) setting) := by
    rw [pulse_eq_checkSilence, hdrained]
    exact (beats_drain (playerInPlay_takeUp hpwaiting) more).trans beats_checkSilence
  have hprefix : (waiting.takeUp (standard listing) setting packet rest).trace <+:
      (scene.pulse (standard listing) setting).trace := Beats.trace_prefix hrest
  exact hprefix

theorem exists_isRefusal_of_denied (hp : scene.PlayerInPlay) {moves : List Move}
    (h : scene.Denied (standard listing) setting moves) :
    ∃ event ∈ (scene.run (standard listing) setting moves).trace, event.isRefusal := by
  obtain ⟨early, late, name, reason, taken, rfl, htakes, hadmits, hverdict⟩ := h
  let run := scene.run (standard listing) setting
  have hp' : ∀ moves, (run moves).PlayerInPlay := playerInPlay_run hp
  have hpulse : run (early ++ [.pulse]) = (run early).pulse (standard listing) setting :=
    run_append _ _ early [.pulse]
  have hsplit : run (early ++ .pulse :: late) =
      (run (early ++ [.pulse])).run (standard listing) setting late := by
    simp only [run, ← run_append, List.append_assoc, List.singleton_append]
  have hlater : (run (early ++ [.pulse])).trace <+: (run (early ++ .pulse :: late)).trace :=
    hsplit ▸ trace_prefix_run (hp' _) late
  have hprefix := (htakes.trace_prefix (hp' early)).trans (hpulse ▸ hlater)
  have hrefused : taken.dispatch (standard listing) setting (.loginStart name) =
      ((taken.host setting name).note (.loginRefused name reason)).sendAway reason := by
    simp only [dispatch_standard, hadmits.1]
    rw [loginStart_of_admits hadmits, hverdict]
  refine ⟨.log (.loginRefused name reason), hprefix.subset ?_, rfl⟩
  rw [hrefused, sendAway_eq]
  simp [note, record]

/-- A refused player never enters. It is mentioned all the same if and only if it says something
or is dismissed. -/
theorem mentions_iff_of_denied (listing : Listing) (setting : Setting) (world : World)
    (policy : Policy) (asked : Nat) (moves : List Move)
    (h : (begin world policy asked).Denied (standard listing) setting moves) :
    let run := (begin world policy asked).run (standard listing) setting
    ¬ Arrives (run moves).trace ∧
      (Mentions (run moves).trace ↔ Speaks (run moves).trace ∨
        ∃ early move late, moves = early ++ move :: late ∧
          (run early).Dismisses (standard listing) setting move) := by
  intro run
  have hpassage : Passage (∃ early move late, moves = early ++ move :: late ∧
      (run early).Dismisses (standard listing) setting move) _ (run moves) :=
    passage_run (accounted_begin world policy asked) moves
  have harrives : ¬ Arrives (run moves).trace :=
    hpassage.accounted.barred (exists_isRefusal_of_denied (playerInPlay_begin _ _ _) h)
  obtain ⟨new, ht, htold, htells⟩ := hpassage.events
  obtain rfl : (run moves).trace = new := ht
  refine ⟨harrives, fun hm => ?_, htells⟩
  rcases htold hm with ha | hs | hd
  · exact absurd ha harrives
  · exact .inl hs
  · exact .inr hd

def banning : Policy := { Policy.console with login := fun _ _ => .denied "Banned" }

/-- A refused player chats, and then its connection is found closed. -/
def refusedLogin : List Move :=
  [.receive (.handshake 4 "localhost" 25565 .login), .queue (.loginStart "Mallory"), .pulse,
    .queue (.chat "hi"), .pulse, .dispose true]

def usual : Setting :=
  { address := none, timeoutTicks := defaultTimeoutTicks, drawn := fun _ => default, token := 0 }

theorem denied_refusedLogin :
    (begin (World.create "world") banning 0).Denied (standard .default) usual refusedLogin :=
  ⟨refusedLogin.take 2, refusedLogin.drop 3, "Mallory", "Banned", _, rfl,
    ⟨0, [], by decide, rfl, rfl⟩, ⟨rfl, rfl, by decide⟩, rfl⟩

theorem mentions_iff_of_denied_refusedLogin :
    let run := (begin (World.create "world") banning 0).run (standard .default) usual
    (begin (World.create "world") banning 0).Denied (standard .default) usual refusedLogin ∧
      ¬ Arrives (run refusedLogin).trace ∧
      (Mentions (run refusedLogin).trace ↔ Speaks (run refusedLogin).trace ∨
        ∃ early move late, refusedLogin = early ++ move :: late ∧
          (run early).Dismisses (standard .default) usual move) :=
  ⟨denied_refusedLogin, mentions_iff_of_denied .default usual _ _ _ refusedLogin denied_refusedLogin⟩

/-- That a player was refused does not mean that nothing is heard of it. -/
theorem not_unmentioned_of_denied :
    ¬ ∀ (listing : Listing) (setting : Setting) (world : World) (policy : Policy) (asked : Nat)
      (moves : List Move), (begin world policy asked).Denied (standard listing) setting moves →
      ¬ Arrives ((begin world policy asked).run (standard listing) setting moves).trace ∧
        ¬ Mentions ((begin world policy asked).run (standard listing) setting moves).trace := by
  intro h
  refine (h .default usual (World.create "world") banning 0 refusedLogin denied_refusedLogin).2 ?_
  unfold Mentions
  decide

end Scene
end GameServer
