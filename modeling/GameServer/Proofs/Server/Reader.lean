import GameServer.Proofs.Server.Channel
import GameServer.Proofs.Server.View
import GameServer.Proofs.Session.Intake

/-! The way of the packets of a connection at a server, and what the reader does about it. Whatever
step it takes is one passage. -/

namespace GameServer

open Service Channel

def View.channel (key : Key) (view : View) : Channel where
  running := view.running
  given := decide (key < view.nextKey)
  letters := view.mailbox.filter (·.about key)
  reader := view.reader
  read := view.read
  inbox := view.seat.map (·.session.inbox)
  taken := Event.taken view.story

namespace Server

def channel (server : Server) (key : Key) : Channel := (server.view key).channel key

variable {server after : Server} {setup : Setup} {listing : Listing} {key other : Key}

theorem channel_of_view (h : after.view key = server.view key) :
    after.channel key = server.channel key := congrArg (View.channel key) h

theorem channel_post_of_not_about {message : Message} (h : message.about key = false) :
    (server.post message).channel key = server.channel key := by
  unfold channel
  rw [view_post, View.post]
  split
  · simp [View.channel, h]
  · rfl

theorem channel_post {message : Message} (h : message.about key) :
    (server.post message).channel key = { server.channel key with
      letters := if (server.channel key).running then (server.channel key).letters ++ [message]
        else (server.channel key).letters } := by
  have hrunning : (server.channel key).running = (server.view key).running := rfl
  rw [hrunning]
  unfold channel
  rw [view_post, View.post]
  split
  · simp [View.channel, h]
  · rfl

theorem channel_reader (server : Server) (key : Key) (reader : ReaderState) :
    (server.updateConnection key ({ · with reader })).channel key =
      { server.channel key with reader := (server.channel key).reader.map fun _ => reader } := by
  unfold channel
  rw [view_reader, if_pos rfl]
  rfl

theorem channel_reader_of_ne (h : key ≠ other) (reader : ReaderState) :
    (server.updateConnection other ({ · with reader })).channel key = server.channel key := by
  unfold channel
  rw [view_reader, if_neg h]

/-- What a session does, as far as its packets go. -/
theorem channel_act {action : Setting → Scene → Scene} {seat : Seat}
    (hs : server.seat? key = some seat) {packets waiting : List Packet}
    (h : Scene.TakesUp (server.scene seat) (action (setup.setting seat) (server.scene seat)) packets
      waiting) : (server.act setup key action).channel key = { server.channel key with
        inbox := some waiting
        taken := (server.channel key).taken ++ packets } := by
  have htaken : Event.taken (action (setup.setting seat) (server.scene seat)).trace = packets :=
    h.taken_eq
  have hseat : (server.view key).seat = some seat := hs
  unfold channel
  rw [view_act server key key setup action hs, if_pos rfl]
  simp [View.channel, View.act, hseat, htaken, h.inbox_eq]

theorem channel_act_of_ne (h : key ≠ other) (action : Setting → Scene → Scene) :
    (server.act setup other action).channel key = server.channel key :=
  channel_of_view (view_act_of_ne h setup action)

theorem channel_unseat (server : Server) (key : Key) :
    (server.unseat key).channel key = { server.channel key with inbox := none } := by
  unfold channel
  rw [view_unseat, if_pos rfl]
  rfl

theorem channel_unseat_of_ne (h : key ≠ other) :
    (server.unseat other).channel key = server.channel key :=
  channel_of_view (view_unseat_of_ne h)

/-- Something changes about a connection that has nothing to do with its packets. -/
theorem channel_updateConnection {change : Connection → Connection}
    (hkey : ∀ connection, (change connection).key = connection.key)
    (hreader : ∀ connection, (change connection).reader = connection.reader)
    (houtbox : ∀ connection, (change connection).outbox = connection.outbox) :
    (server.updateConnection other change).channel key = server.channel key := by
  refine channel_of_view ?_
  rw [view_updateConnection server other key change id id hkey hreader houtbox]
  split
  · rw [Option.map_id, Option.map_id]
    rfl
  · rfl

theorem channel_write (server : Server) (other key : Key) :
    (server.write other).channel key = server.channel key := by
  unfold channel
  rw [view_write]
  split <;> rfl

theorem channel_note (server : Server) (notice : Notice) (key : Key) :
    (server.note notice).channel key = server.channel key :=
  channel_of_view (view_note server key notice)

/-! The reader. -/

theorem channel_endReader_of_ne (h : key ≠ other) :
    (server.endReader other).channel key = server.channel key := by
  have habout : (Message.closed other).about key = false := by simpa [Message.about] using Ne.symm h
  exact (channel_post_of_not_about habout).trans (channel_reader_of_ne h _)

theorem channel_endReader (hreader : (server.channel key).reader.isSome) :
    (server.endReader key).channel key = { server.channel key with
      reader := some .ended
      letters := if (server.channel key).running then
        (server.channel key).letters ++ [.closed key] else (server.channel key).letters } := by
  have habout : (Message.closed key).about key := by simp [Message.about]
  obtain ⟨reader, hr⟩ := Option.isSome_iff_exists.mp hreader
  rw [endReader, channel_post habout, channel_reader, hr]
  rfl

theorem channel_deliver_of_ne (h : key ≠ other) (packet : Packet) :
    (server.deliver setup other packet).channel key = server.channel key := by
  unfold deliver
  repeat' split
  · exact (channel_act_of_ne h _).trans (channel_reader_of_ne h _)
  · exact channel_endReader_of_ne h
  · have habout : (Message.handshake other packet .reader).about key = false := by
      simpa [Message.about] using Ne.symm h
    exact (channel_post_of_not_about habout).trans (channel_reader_of_ne h _)
  · exact channel_endReader_of_ne h

theorem channel_read_of_ne (h : key ≠ other) :
    (server.read setup other).channel key = server.channel key := by
  unfold read
  repeat' split
  · rfl
  · rfl
  · rfl
  · exact (channel_note _ _ key).trans (channel_reader_of_ne h _)
  · exact channel_endReader_of_ne h
  · exact channel_deliver_of_ne h _
  · rfl
  · refine channel_of_view ?_
    rw [view_read, if_neg h]
    exact view_updateConnection_of_ne server other key h fun _ => rfl
  · exact (channel_endReader_of_ne h).trans (channel_note server _ key)
  · exact (channel_endReader_of_ne h).trans (channel_note server _ key)

/-- The next packet has come in, and what has come in of the ones behind it is left there. -/
theorem channel_hold (hreader : (server.channel key).reader.isSome) (packet : Packet)
    (arrived : List UInt8) :
    ((server.updateConnection key ({ · with arrived, reader := .holding packet })).record
      (.read key packet)).channel key = { server.channel key with
        reader := some (.holding packet)
        read := (server.channel key).read ++ [packet] } := by
  obtain ⟨reader, hr⟩ := Option.isSome_iff_exists.mp hreader
  have hr' : (server.view key).reader = some reader := hr
  have hheld := view_updateConnection server key key ({ · with arrived, reader := .holding packet })
    (fun _ => .holding packet) id (fun _ => rfl) (fun _ => rfl) fun _ => rfl
  rw [if_pos rfl, hr', Option.map_some, Option.map_id] at hheld
  unfold channel
  rw [view_read, if_pos rfl, hheld]
  rfl

theorem channel_inbox {seat : Seat} (hs : server.seat? key = some seat) :
    (server.channel key).inbox = some seat.session.inbox :=
  congrArg (Option.map fun seat : Seat => seat.session.inbox) hs

theorem isSome_inbox (server : Server) (key : Key) :
    (server.channel key).inbox.isSome = (server.seat? key).isSome := Option.isSome_map

theorem exists_seat (hseated : (server.channel key).inbox.isSome) :
    ∃ seat, server.seat? key = some seat :=
  Option.isSome_iff_exists.mp (isSome_inbox server key ▸ hseated)

section

variable {packet : Packet} (hr : (server.channel key).reader = some (.holding packet))

include hr

theorem channel_deliver_queued (hroute : packet.route = .queued) {seat : Seat}
    (hs : server.seat? key = some seat) :
    (server.deliver setup key packet).channel key = { server.channel key with
      reader := some .reading
      inbox := some (seat.session.inbox ++ [packet]) } := by
  let turned := server.updateConnection key ({ · with reader := .reading })
  have hs' : turned.seat? key = some seat := hs
  have hput : Scene.TakesUp (turned.scene seat) ((turned.scene seat).enqueue packet) []
      (seat.session.inbox ++ [packet]) := ⟨rfl, rfl⟩
  simp only [deliver, hroute, hs, Option.isSome_some, if_true]
  rw [channel_act hs' hput, channel_reader, hr, List.append_nil]
  rfl

theorem channel_deliver_immediate (hroute : packet.route = .immediate) (hrunning : server.running) :
    (server.deliver setup key packet).channel key = { server.channel key with
      reader := some .asking
      letters := (server.channel key).letters ++ [.handshake key packet .reader] } := by
  have hopen : (server.channel key).running = true := hrunning
  have habout : (Message.handshake key packet .reader).about key := by simp [Message.about]
  simp only [deliver, hroute, hrunning, if_true]
  rw [channel_post habout, channel_reader, hr]
  dsimp only
  rw [if_pos hopen]
  rfl

/-- There is a session to hand the packet to if and only if the loop runs. -/
theorem isSome_seat?_of_holding (h : (server.channel key).Sound key) :
    (server.seat? key).isSome = server.running := by
  rcases h with hblank | ⟨reader, pending, hflows⟩
  · cases hblank.reader_eq.symm.trans hr
  · obtain rfl := hflows.obtain_reader hr
    rw [← isSome_inbox]
    exact hflows.stage.of_holding.2.1

theorem exists_seat_of_holding (h : (server.channel key).Sound key) (hrunning : server.running) :
    ∃ seat, server.seat? key = some seat :=
  Option.isSome_iff_exists.mp ((isSome_seat?_of_holding hr h).trans hrunning)

theorem channel_deliver_ended (h : (server.channel key).Sound key)
    (hended : server.running = false) :
    (server.deliver setup key packet).channel key = (server.endReader key).channel key := by
  have hnone : (server.seat? key).isSome = false := (isSome_seat?_of_holding hr h).trans hended
  unfold deliver
  split <;> simp [hnone, hended]

theorem passage_deliver (h : (server.channel key).Sound key) :
    Passage key (server.channel key) ((server.deliver setup key packet).channel key) := by
  cases hrunning : server.running with
  | true =>
    cases hroute : packet.route with
    | queued =>
      obtain ⟨seat, hs⟩ := exists_seat_of_holding hr h hrunning
      rw [channel_deliver_queued hr hroute hs]
      exact .queued packet _ hr hroute (channel_inbox hs)
    | immediate =>
      rw [channel_deliver_immediate hr hroute hrunning]
      exact .asked packet hr hroute hrunning
  | false =>
    rw [channel_deliver_ended hr h hrunning, channel_endReader (by simp [hr])]
    exact .ended (.inr ⟨hrunning, .inr ⟨packet, hr⟩⟩)

/-- What the reader has in its hand it hands over at its next step. -/
theorem handed_read (h : (server.channel key).Sound key) (hrunning : server.running) :
    ((server.read setup key).channel key).handed = (server.channel key).read := by
  obtain ⟨connection, hc, hreader⟩ := Option.map_eq_some_iff.mp hr
  have hread : server.read setup key = server.deliver setup key packet := by
    simp only [read, hc, hreader]
  rw [hread]
  cases hroute : packet.route with
  | queued =>
    obtain ⟨seat, hs⟩ := exists_seat_of_holding hr h hrunning
    rw [channel_deliver_queued hr hroute hs, handed_of_not_holding (by simp)]
  | immediate =>
    rw [channel_deliver_immediate hr hroute hrunning, handed_of_not_holding (by simp)]

end

theorem passage_read (h : (server.channel key).Sound key) :
    Passage key (server.channel key) ((server.read setup key).channel key) := by
  unfold read
  cases hc : server.connection? key with
  | none => exact .idle
  | some connection =>
    have hreader : (server.channel key).reader = some connection.reader :=
      congrArg (Option.map fun connection : Connection => connection.reader) hc
    have hends : ∀ notice, connection.reader = .reading → Passage key (server.channel key)
        (((server.note notice).endReader key).channel key) := by
      intro notice hr
      have hnoted := channel_note server notice key
      rw [channel_endReader (by simp [hnoted, hreader]), hnoted]
      exact .ended (.inl (hr ▸ hreader))
    dsimp only
    split
    · exact .idle
    · exact .idle
    · rename_i phase hr
      rw [channel_note, channel_reader, hreader]
      exact .heard phase (hr ▸ hreader)
    · rename_i hr
      rw [hr] at hreader
      have hended : (server.channel key).running = false := by
        rcases h with hblank | ⟨reader, pending, hflows⟩
        · cases hblank.reader_eq.symm.trans hreader
        · obtain rfl := Option.some.inj (hflows.reader_eq.symm.trans hreader)
          exact hflows.stage.of_untold.2.2
      rw [channel_endReader (by simp [hreader])]
      exact .ended (.inr ⟨hended, .inl hreader⟩)
    · rename_i packet hr
      exact passage_deliver (hr ▸ hreader) h
    · rename_i hr
      split
      · exact .idle
      · rename_i packet rest _
        rw [channel_hold (by simp [hreader])]
        exact .read packet (hr ▸ hreader)
      · exact hends _ hr
      · exact hends _ hr

theorem passage_heed : Passage key (server.channel key) ((server.heed key).channel key) := by
  unfold heed
  cases hc : server.connection? key with
  | none => exact .idle
  | some connection =>
    have hreader : (server.channel key).reader = some connection.reader :=
      congrArg (Option.map fun connection : Connection => connection.reader) hc
    dsimp only
    split
    · rename_i h
      rw [channel_endReader (by simp [hreader])]
      exact .ended (.inl (h.1 ▸ hreader))
    · exact .idle

theorem channel_heed_of_ne (h : key ≠ other) :
    (server.heed other).channel key = server.channel key := by
  unfold heed
  repeat' split
  · rfl
  · exact channel_endReader_of_ne h
  · rfl

end Server
end GameServer
