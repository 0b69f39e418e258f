import GameServer.Proofs.Server.Mailbox
import GameServer.Proofs.Server.Reader

/-! Whatever a server does comes to one passage, at most, of the packets of a connection. -/

namespace GameServer

open Service Channel

namespace Server

variable {server after : Server} {setup : Setup} {listing : Listing} {key other : Key}

theorem channel_answer_of_ne (h : key ≠ other) (asker : Asker) :
    (server.answer other asker).channel key = server.channel key := by
  unfold answer
  split
  · exact channel_reader_of_ne h _
  · exact channel_reader_of_ne h _
  · exact channel_of_view (view_record server key rfl)
  · rfl

theorem channel_remove_of_ne (h : key ≠ other) :
    (server.remove setup other).channel key = server.channel key := by
  unfold remove
  split
  · rfl
  · exact (channel_unseat_of_ne h).trans ((channel_note _ _ key).trans (channel_act_of_ne h _))

def pulse (setup : Setup) (server : Server) (key : Key) : Server :=
  server.act setup key fun setting scene => scene.pulse setup.table setting

theorem view_pulse_of_ne (server : Server) {other : Key} (h : other ≠ key) :
    (pulse setup server other).view key = server.view key :=
  view_act_of_ne h.symm setup _

theorem view_tick_eq (hrunning : server.running) (key : Key) :
    (server.tick setup).view key = (server.keys.foldl (pulse setup) server).view key := by
  unfold tick
  rw [if_neg (by simp [hrunning])]
  dsimp only
  split
  · exact view_note _ key _
  · rfl

theorem channel_tick_eq (hrunning : server.running) (key : Key) :
    (server.tick setup).channel key = (server.keys.foldl (pulse setup) server).channel key :=
  channel_of_view (view_tick_eq hrunning key)

/-- A tick has a session take up all that waits for it. -/
theorem channel_tick (htable : setup.table = standard listing) (hsound : server.Sound setup listing)
    (hrunning : server.running) {seat : Seat} (hs : server.seat? key = some seat) :
    (server.tick setup).channel key = { server.channel key with
      inbox := some []
      taken := (server.channel key).taken ++ seat.session.inbox } := by
  obtain ⟨before, rest, -, hbefore, hturn⟩ := exists_turn (f := pulse setup)
    (fun server other hne => view_pulse_of_ne server hne) (mem_keys_of_seat? hs) hsound.keys_nodup
  let between := before.foldl (pulse setup) server
  have hs' : between.seat? key = some seat := (congrArg View.seat hbefore).trans hs
  have hpulsed : Scene.TakesUp (between.scene seat)
      ((between.scene seat).pulse setup.table (setup.setting seat)) seat.session.inbox [] := by
    rw [htable]
    exact Scene.takesUp_pulse (between.scene seat)
  rw [channel_tick_eq hrunning, channel_of_view hturn, pulse, channel_act hs' hpulsed,
    channel_of_view hbefore]

theorem passage_tick (htable : setup.table = standard listing)
    (hsound : server.Sound setup listing) :
    Passage key (server.channel key) ((server.tick setup).channel key) := by
  by_cases hrunning : server.running
  · cases hs : server.seat? key with
    | some seat =>
      rw [channel_tick htable hsound hrunning hs]
      exact .ticked seat.session.inbox (channel_inbox hs)
    | none =>
      have hview : (server.keys.foldl (pulse setup) server).view key = server.view key :=
        view_foldl (fun server other hne => view_pulse_of_ne server hne) (not_mem_keys hs)
      rw [channel_tick_eq hrunning, channel_of_view hview]
      exact .idle
  · rw [tick, if_pos (by simpa using hrunning)]
    exact .idle

theorem view_abandon (server : Server) (key : Key) :
    { server with
      running := false
      mailbox := []
      connections := server.connections.map Connection.abandon }.view key = { server.view key with
        running := false
        mailbox := []
        reader := (server.view key).reader.map ReaderState.abandon } := by
  have habandon : ∀ connection : Connection, connection.abandon.key = connection.key ∧
      connection.abandon.reader = connection.reader.abandon ∧
      connection.abandon.outbox = connection.outbox := by
    intro connection
    unfold Connection.abandon ReaderState.abandon
    split <;> exact ⟨rfl, rfl, rfl⟩
  simp only [view, outbox?, connection?, connection?_map fun connection => (habandon connection).1,
    Option.map_map, Function.comp_def, habandon]
  rfl

/-- To part with a session takes nothing up, and what waits for it is lost. -/
theorem channel_evicted (hnodup : server.keys.Nodup) (key : Key) :
    (server.keys.foldl (evict setup) server).channel key =
      { server.channel key with inbox := none } := by
  cases hs : server.seat? key with
  | none =>
    have hview : (server.keys.foldl (evict setup) server).view key = server.view key :=
      view_foldl (fun server other hne => view_evict_of_ne server hne.symm) (not_mem_keys hs)
    have hinbox : (server.channel key).inbox = none := congrArg (Option.map _) hs
    rw [channel_of_view hview, ← hinbox]
  | some seat =>
    obtain ⟨between, rest, -, hview, -⟩ := exists_dismissed setup hnodup hs
    have htaken : Event.taken ((between.scene seat).dismiss closingReason).trace = [] :=
      (Scene.takesUp_dismiss (between.scene seat) closingReason).taken_eq
    unfold channel
    rw [hview]
    simp [View.channel, View.act, View.leave, htaken]

theorem channel_stop (hsound : server.Sound setup listing) (key : Key) :
    (server.stop setup).channel key = { server.channel key with
      running := false
      letters := []
      reader := (server.channel key).reader.map ReaderState.abandon
      inbox := none } := by
  have hnoted := alike_note server .shuttingDown
  have hevicted : ((server.note .shuttingDown).keys.foldl (evict setup)
      (server.note .shuttingDown)).channel key = { server.channel key with inbox := none } := by
    rw [channel_evicted (hsound.of_alike hnoted).keys_nodup, channel_note]
  unfold stop
  rw [channel_of_view (view_record _ key rfl), channel, view_abandon]
  exact congrArg (fun channel : Channel => { channel with
    running := false
    letters := []
    reader := channel.reader.map ReaderState.abandon }) hevicted

/-- A handshake is taken up at once, and the reader is told where it has led to. -/
theorem exists_channel_answered (htable : setup.table = standard listing) {seat : Seat}
    (hs : server.seat? key = some seat) {packet : Packet} (hroute : packet.route = .immediate) :
    ∃ phase,
      ((server.act setup key fun setting scene =>
        scene.receive setup.table setting packet).answer key .reader).channel key =
          { server.channel key with
            reader := (server.channel key).reader.map fun _ => .told phase
            taken := (server.channel key).taken ++ [packet] } := by
  let receive : Setting → Scene → Scene := fun setting scene =>
    scene.receive setup.table setting packet
  have hreceived : Scene.TakesUp (server.scene seat)
      (receive (setup.setting seat) (server.scene seat)) [packet] seat.session.inbox := by
    simp only [receive, htable, Scene.receive, hroute]
    exact Scene.takesUp_dispatch (server.scene seat) packet
  have hacted : (server.act setup key receive).channel key = _ := channel_act hs hreceived
  rw [← channel_inbox hs] at hacted
  obtain ⟨after, hafter⟩ : ∃ after, after = server.act setup key receive := ⟨_, rfl⟩
  have hseat : (server.act setup key receive).seat? key = _ := seat?_act server key receive hs key
  rw [if_pos rfl, ← hafter] at hseat
  rw [← hafter] at hacted ⊢
  refine ⟨(receive (setup.setting seat) (server.scene seat)).session.phase, ?_⟩
  simp only [answer, hseat]
  rw [channel_reader, hacted]

theorem channel_removed {seat : Seat} (hs : server.seat? key = some seat) :
    (server.remove setup key).channel key = { server.channel key with inbox := none } := by
  have hdisposed : (server.act setup key fun _ scene => scene.dispose true).channel key = _ :=
    channel_act hs (Scene.takesUp_dispose (server.scene seat) true)
  rw [List.append_nil] at hdisposed
  simp only [remove, hs]
  rw [channel_unseat, channel_note, hdisposed]

section

variable {rest : List Message}

theorem channel_popped {message : Message} (hmailbox : server.mailbox = message :: rest)
    (h : message.about key = false) :
    { server with mailbox := rest }.channel key = server.channel key := by
  have hletters : (server.channel key).letters = (message :: rest).filter (·.about key) :=
    congrArg (List.filter _) hmailbox
  rw [List.filter_cons_of_neg (by simp [h])] at hletters
  exact congrArg (fun letters => { server.channel key with letters }) hletters.symm

theorem letters_of_mailbox {message : Message} (hmailbox : server.mailbox = message :: rest)
    (h : message.about key) :
    (server.channel key).letters = message :: rest.filter (·.about key) := by
  refine (congrArg (List.filter _) hmailbox).trans ?_
  rw [List.filter_cons_of_pos h]

/-- The loop serves a handshake. -/
theorem exists_channel_served (htable : setup.table = standard listing)
    (h : (server.channel key).Sound key) (hrunning : server.running) {packet : Packet} {asker : Asker}
    (hmailbox : server.mailbox = .handshake key packet asker :: rest) : ∃ phase,
      (server.serve setup).channel key = { server.channel key with
        reader := (server.channel key).reader.map fun _ => .told phase
        letters := rest.filter (·.about key)
        taken := (server.channel key).taken ++ [packet] } := by
  have hletters : (server.channel key).letters = _ :=
    letters_of_mailbox hmailbox (by simp [Message.about])
  obtain ⟨rfl, hroute, hseated, -⟩ := h.of_handshake hletters
  obtain ⟨seat, hs⟩ := exists_seat hseated
  have hs' : { server with mailbox := rest }.seat? key = some seat := hs
  rw [serve_handshake hrunning hmailbox]
  exact exists_channel_answered htable hs' hroute

theorem passage_serve_handshake (htable : setup.table = standard listing)
    (h : (server.channel key).Sound key) (hrunning : server.running) {packet : Packet} {asker : Asker}
    (hmailbox : server.mailbox = .handshake other packet asker :: rest) :
    Passage key (server.channel key) ((server.serve setup).channel key) := by
  by_cases hkey : key = other
  · subst hkey
    have hletters : (server.channel key).letters = _ :=
      letters_of_mailbox hmailbox (by simp [Message.about])
    obtain ⟨rfl, hroute, -⟩ := h.of_handshake hletters
    obtain ⟨phase, he⟩ := exists_channel_served htable h hrunning hmailbox
    rw [he]
    exact .answered packet _ phase hletters hroute
  · have habout : (Message.handshake other packet asker).about key = false := by
      simpa [Message.about] using Ne.symm hkey
    rw [serve_handshake hrunning hmailbox, channel_answer_of_ne hkey, channel_act_of_ne hkey,
      channel_popped hmailbox habout]
    exact .idle

/-- The loop learns that a connection is closed. -/
theorem channel_served_closed (h : (server.channel key).Sound key) (hrunning : server.running)
    (hmailbox : server.mailbox = .closed key :: rest) :
    (server.serve setup).channel key = { server.channel key with
      letters := rest.filter (·.about key)
      inbox := none } := by
  obtain ⟨-, hseated, -⟩ := h.of_closed (letters_of_mailbox hmailbox (by simp [Message.about]))
  obtain ⟨seat, hs⟩ := exists_seat hseated
  have hs' : { server with mailbox := rest }.seat? key = some seat := hs
  rw [serve_closed hrunning hmailbox]
  exact channel_removed hs'

theorem passage_serve_closed (h : (server.channel key).Sound key) (hrunning : server.running)
    (hmailbox : server.mailbox = .closed other :: rest) :
    Passage key (server.channel key) ((server.serve setup).channel key) := by
  by_cases hkey : key = other
  · subst hkey
    rw [channel_served_closed h hrunning hmailbox]
    exact .removed _ (letters_of_mailbox hmailbox (by simp [Message.about]))
  · have habout : (Message.closed other).about key = false := by
      simpa [Message.about] using Ne.symm hkey
    rw [serve_closed hrunning hmailbox, channel_remove_of_ne hkey, channel_popped hmailbox habout]
    exact .idle

end

theorem passage_serve (htable : setup.table = standard listing)
    (hsound : server.Sound setup listing) (h : (server.channel key).Sound key) :
    Passage key (server.channel key) ((server.serve setup).channel key) := by
  by_cases hrunning : server.running
  · cases hmailbox : server.mailbox with
    | nil =>
      rw [show server.serve setup = server by simp [serve, hrunning, hmailbox]]
      exact .idle
    | cons message rest =>
      cases message with
      | handshake other packet asker =>
        exact passage_serve_handshake htable h hrunning hmailbox
      | closed other => exact passage_serve_closed h hrunning hmailbox
      | shutdown =>
        have hpopped : { server with mailbox := rest }.channel key = server.channel key :=
          channel_popped hmailbox rfl
        have hsound' : { server with mailbox := rest }.Sound setup listing :=
          hsound.of_alike ⟨rfl, rfl, rfl, rfl, rfl, rfl⟩
        rw [serve_shutdown hrunning (by rw [hmailbox]; rfl), hmailbox, List.tail_cons,
          channel_stop hsound', hpopped]
        exact .stopped
  · rw [show server.serve setup = server by simp [serve, hrunning]]
    exact .idle

theorem channel_install (hseat : server.seat? server.nextKey = none)
    (hconnection : server.connection? server.nextKey = none) (address : String) (sink : Sink) :
    (server.install address sink).channel server.nextKey = { server.channel server.nextKey with
      given := true
      reader := some .reading
      inbox := some [] } := by
  have hgiven : decide (server.nextKey < server.nextKey + 1) = true := by simp
  unfold channel
  rw [view_install server hseat hconnection]
  simp only [View.channel, hgiven]
  rfl

theorem channel_install_of_ne (h : key ≠ server.nextKey) (address : String) (sink : Sink) :
    (server.install address sink).channel key = server.channel key := by
  have hgiven : decide (key < server.nextKey + 1) = decide (key < server.nextKey) :=
    decide_eq_decide.mpr (Nat.lt_succ_iff_lt_or_eq.trans (or_iff_left h))
  unfold channel
  rw [view_install_of_ne server key h]
  simp only [View.channel, hgiven]
  rfl

theorem blank_of_sound (h : (server.channel server.nextKey).Sound server.nextKey) :
    (server.channel server.nextKey).Blank := by
  rcases h with hblank | ⟨reader, pending, hflows⟩
  · exact hblank
  · have hgiven : decide (server.nextKey < server.nextKey) = true := hflows.given_eq
    simp at hgiven

theorem passage_install (h : (server.channel key).Sound key) (hrunning : server.running)
    (address : String) (sink : Sink) :
    Passage key (server.channel key) ((server.install address sink).channel key) := by
  by_cases hkey : key = server.nextKey
  · subst hkey
    -- The key has not been given out, so nothing can be there under it.
    have hblank := blank_of_sound h
    have hseat : server.seat? server.nextKey = none := Option.map_eq_none_iff.mp hblank.inbox_eq
    have hconnection : server.connection? server.nextKey = none :=
      Option.map_eq_none_iff.mp hblank.reader_eq
    rw [channel_install hseat hconnection]
    exact .opened (decide_eq_false (Nat.lt_irrefl _)) hrunning
  · rw [channel_install_of_ne hkey]
    exact .idle

theorem passage_accept (h : (server.channel key).Sound key) (address : String) (sink : Sink) :
    Passage key (server.channel key)
      ((server.perform setup (.accept address sink)).channel key) := by
  simp only [perform]
  split
  · rename_i hrunning
    have hnoted := channel_note server (.connected server.nextKey address) key
    rw [accept_eq]
    split
    · rw [channel_note]
      exact .idle
    · rw [← hnoted] at h ⊢
      exact passage_install h hrunning address sink
  · exact .idle

/-- Every step is one passage, or none, of the packets of each connection. -/
theorem passage_perform (htable : setup.table = standard listing)
    (hsound : server.Sound setup listing) (h : (server.channel key).Sound key) {step : Step}
    (hpost : ∀ message, step = .post message → message = .shutdown) :
    Passage key (server.channel key) ((server.perform setup step).channel key) := by
  cases step with
  | accept address sink => exact passage_accept h address sink
  | arrive other bytes =>
    have hsame : (server.perform setup (.arrive other bytes)).channel key = server.channel key :=
      channel_updateConnection (fun _ => rfl) (fun _ => rfl) fun _ => rfl
    rw [hsame]
    exact .idle
  | cease other ending =>
    have hsame : (server.perform setup (.cease other ending)).channel key = server.channel key :=
      channel_updateConnection (fun _ => rfl) (fun _ => rfl) fun _ => rfl
    rw [hsame]
    exact .idle
  | read other =>
    by_cases hkey : key = other
    · exact hkey ▸ passage_read h
    · rw [perform, channel_read_of_ne hkey]
      exact .idle
  | heed other =>
    by_cases hkey : key = other
    · exact hkey ▸ passage_heed
    · rw [perform, channel_heed_of_ne hkey]
      exact .idle
  | write other =>
    rw [perform, channel_write]
    exact .idle
  | post message =>
    obtain rfl := hpost message rfl
    rw [perform, channel_post_of_not_about rfl]
    exact .idle
  | serve => exact passage_serve htable hsound h
  | tick => exact passage_tick htable hsound
  | shuffle first =>
    rw [perform, channel_of_view (view_shuffle server key first)]
    exact .idle

end Server
end GameServer
