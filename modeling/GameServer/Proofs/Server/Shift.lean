import GameServer.Proofs.Server.Alike
import GameServer.Proofs.Session.Run

/-! What a step of a server comes to as far as its sessions and their outboxes go. Apart from
taking a session in, whatever the loop, the readers and the writers do is one shift after the
other, so what every shift keeps is kept by every step. -/

namespace GameServer

namespace Server

def outbox? (server : Server) (key : Key) : Option Outbox :=
  (server.connection? key).map (·.outbox)

/-- Nothing changes about the sessions and their outboxes. A loop that has ended stays so, and what is
on record stays on it. -/
structure Quiet (server after : Server) : Prop where
  alike : after.Alike server
  outbox_eq : ∀ key, after.outbox? key = server.outbox? key
  ended : server.running = false → after.running = false
  records_prefix : server.records <+: after.records

inductive Shift (setup : Setup) (server : Server) : Server → Prop
  | quiet (after : Server) (h : server.Quiet after) : Shift setup server after
  | shuffled (first : Key) : Shift setup server (server.shuffle first)
  | acted (key : Key) (moves : List Move) (h : ∀ move ∈ moves, move.isOrder) :
      Shift setup server
        (server.act setup key fun setting scene => scene.run setup.table setting moves)
  /-- The session's last move is to part with its player. -/
  | removed (key : Key) (moves : List Move) (h : ∀ move ∈ moves, move.isOrder) :
      Shift setup server
        ((server.act setup key fun setting scene =>
          scene.run setup.table setting (moves ++ [.dispose true])).unseat key)
  | wrote (key : Key) : Shift setup server (server.write key)

abbrev Shifts (setup : Setup) := Relation.ReflTransGen (Shift setup)

variable {setup : Setup} {server after : Server} {key : Key}

theorem Quiet.refl (server : Server) : server.Quiet server :=
  ⟨.refl server, fun _ => rfl, id, List.prefix_refl _⟩

theorem Quiet.trans {between : Server} (h : server.Quiet between) (h' : between.Quiet after) :
    server.Quiet after :=
  ⟨h'.alike.trans h.alike, fun key => (h'.outbox_eq key).trans (h.outbox_eq key),
    fun hended => h'.ended (h.ended hended), h.records_prefix.trans h'.records_prefix⟩

theorem Quiet.shifts (h : server.Quiet after) : Shifts setup server after :=
  .single (.quiet after h)

theorem quiet_of_connections (h : after.Alike server)
    (hconnections : after.connections = server.connections)
    (hrunning : after.running = server.running) (hrecords : server.records <+: after.records) :
    server.Quiet after :=
  ⟨h, fun key => by rw [outbox?, connection?, hconnections, outbox?, connection?],
    fun hended => hrunning.trans hended, hrecords⟩

theorem quiet_updateConnection (server : Server) (key : Key) (change : Connection → Connection)
    (hkey : ∀ connection, (change connection).key = connection.key)
    (houtbox : ∀ connection, (change connection).outbox = connection.outbox) :
    server.Quiet (server.updateConnection key change) := by
  refine ⟨alike_updateConnection server key change, fun other => ?_, id, List.prefix_refl _⟩
  rw [outbox?, outbox?, connection?_updateConnection hkey]
  split
  · simp [Function.comp_def, houtbox]
  · rfl

theorem quiet_reader (server : Server) (key : Key) (reader : ReaderState) :
    server.Quiet (server.updateConnection key ({ · with reader })) :=
  quiet_updateConnection server key _ (fun _ => rfl) fun _ => rfl

theorem quiet_record (server : Server) {record : Record} (h : record.event? = none) :
    server.Quiet (server.record record) :=
  quiet_of_connections (alike_record server h) rfl rfl (List.prefix_append _ _)

theorem quiet_note (server : Server) (notice : Notice) : server.Quiet (server.note notice) :=
  quiet_record server rfl

theorem quiet_post (server : Server) (message : Message) : server.Quiet (server.post message) := by
  unfold post
  split
  · exact quiet_of_connections ⟨rfl, rfl, rfl, rfl, rfl, rfl⟩ rfl rfl (List.prefix_refl _)
  · exact .refl server

theorem quiet_endReader (server : Server) (key : Key) : server.Quiet (server.endReader key) :=
  (quiet_reader server key .ended).trans (quiet_post _ _)

theorem quiet_answer (server : Server) (key : Key) (asker : Asker) :
    server.Quiet (server.answer key asker) := by
  unfold answer
  split
  · exact quiet_reader server key _
  · exact quiet_reader server key _
  · exact quiet_record server rfl
  · exact .refl server

theorem quiet_heed (server : Server) (key : Key) : server.Quiet (server.heed key) := by
  unfold heed
  repeat' split
  · exact .refl server
  · exact quiet_endReader server key
  · exact .refl server

theorem quiet_abandon (server : Server) : server.Quiet { server with
    running := false, mailbox := [], connections := server.connections.map Connection.abandon } := by
  have habandon : ∀ connection : Connection, connection.abandon.key = connection.key ∧
      connection.abandon.outbox = connection.outbox := by
    intro connection
    unfold Connection.abandon
    split <;> exact ⟨rfl, rfl⟩
  refine ⟨⟨rfl, rfl, rfl, rfl, rfl, rfl⟩, fun key => ?_, fun _ => rfl,
    List.prefix_refl _⟩
  rw [outbox?, connection?, connection?_map fun connection => (habandon connection).1]
  simp [outbox?, connection?, Function.comp_def, habandon]

/-! The steps. -/

theorem shift_move (server : Server) (key : Key) (move : Move) (h : move.isOrder) :
    Shift setup server
      (server.act setup key fun setting scene => scene.move setup.table setting move) :=
  .acted key [move] (by simpa using h)

theorem shifts_foldl {f : Server → Key → Server}
    (hf : ∀ server key, Shift setup server (f server key)) (keys : List Key) :
    Shifts setup server (keys.foldl f server) := by
  induction keys generalizing server with
  | nil => exact .refl
  | cons key keys ih => exact (Relation.ReflTransGen.single (hf server key)).trans ih

theorem shift_evict (server : Server) (key : Key) : Shift setup server (evict setup server key) :=
  .removed key [.disconnect closingReason false] (by simp [Move.isOrder])

theorem shifts_remove (key : Key) : Shifts setup server (server.remove setup key) := by
  unfold remove
  split
  · exact .refl
  · -- The line in the log comes before the session is taken out, which makes no difference.
    have hremoved : Shift setup server
        ((server.act setup key fun _ scene => scene.dispose true).unseat key) := .removed key [] nofun
    exact (Relation.ReflTransGen.single hremoved).trans (quiet_note _ (.disconnected key)).shifts

theorem shifts_stop : Shifts setup server (server.stop setup) := by
  have hevicted : Shifts setup (server.note .shuttingDown) _ :=
    shifts_foldl shift_evict (server.seats.map (·.key))
  refine ((quiet_note server .shuttingDown).shifts.trans hevicted).trans (Quiet.shifts ?_)
  exact (quiet_abandon _).trans (quiet_record _ rfl)

theorem shifts_tick : Shifts setup server (server.tick setup) := by
  have hpulsed : Shifts setup server _ := shifts_foldl (f := fun server key =>
    server.act setup key fun setting scene => scene.pulse setup.table setting)
    (fun server key => shift_move server key .pulse rfl) (server.seats.map (·.key))
  unfold tick
  split
  · exact .refl
  · dsimp only
    generalize (server.seats.map (·.key)).foldl _ server = pulsed at hpulsed
    have hcounted : pulsed.Quiet { pulsed with ticks := pulsed.ticks + 1 } :=
      quiet_of_connections ⟨rfl, rfl, rfl, rfl, rfl, rfl⟩ rfl rfl (List.prefix_refl _)
    split
    · exact hpulsed.trans (hcounted.trans (quiet_note _ _)).shifts
    · exact hpulsed.trans hcounted.shifts

theorem shifts_serve : Shifts setup server (server.serve setup) := by
  unfold serve
  split
  · exact .refl
  · split
    · exact .refl
    · rename_i message rest _
      have hrest : server.Quiet { server with mailbox := rest } :=
        quiet_of_connections ⟨rfl, rfl, rfl, rfl, rfl, rfl⟩ rfl rfl (List.prefix_refl _)
      cases message with
      | handshake key packet asker =>
        have hreceived : Shifts setup server ({ server with mailbox := rest }.act setup key
            fun setting scene => scene.receive setup.table setting packet) :=
          hrest.shifts.tail (shift_move _ key (.receive packet) rfl)
        exact hreceived.trans (quiet_answer _ key asker).shifts
      | closed key => exact hrest.shifts.trans (shifts_remove key)
      | shutdown => exact hrest.shifts.trans shifts_stop

theorem shifts_deliver (key : Key) (packet : Packet) :
    Shifts setup server (server.deliver setup key packet) := by
  unfold deliver
  repeat' split
  · exact (quiet_reader server key .reading).shifts.tail
      (shift_move _ key (.queue packet) rfl)
  · exact (quiet_endReader server key).shifts
  · exact ((quiet_reader server key .asking).trans (quiet_post _ _)).shifts
  · exact (quiet_endReader server key).shifts

theorem shifts_read (key : Key) : Shifts setup server (server.read setup key) := by
  unfold read
  repeat' split
  · exact .refl
  · exact .refl
  · exact .refl
  · exact ((quiet_reader server key .reading).trans (quiet_note _ _)).shifts
  · exact (quiet_endReader server key).shifts
  · exact shifts_deliver key _
  · exact .refl
  · rename_i packet rest _
    have hheld := quiet_updateConnection server key
      ({ · with arrived := rest.arrived, reader := .holding packet }) (fun _ => rfl) fun _ => rfl
    exact Quiet.shifts (hheld.trans (quiet_record _ rfl))
  · exact ((quiet_note server _).trans (quiet_endReader _ key)).shifts
  · exact ((quiet_note server _).trans (quiet_endReader _ key)).shifts

/-- A client that has got through to the server is given a session. -/
def install (server : Server) (address : String) (sink : Sink) : Server :=
  { server.welcome address with
    connections := server.connections ++ [{
      key := server.nextKey, address, reader := .reading, arrived := [], ending := .pending
      outbox := .empty address sink }] }

theorem accept_eq (address : String) (sink : Sink) : server.accept setup address sink =
    if setup.maxSessions ≤ server.seats.length then server.note (.serverFull address)
    else (server.note (.connected server.nextKey address)).install address sink := by
  unfold accept
  split <;> rfl

/-- A step either takes a session in or is one shift after the other. -/
theorem perform_cases (step : Step) : Shifts setup server (server.perform setup step) ∨
    ∃ address sink, step = .accept address sink ∧ server.running ∧
      server.seats.length < setup.maxSessions ∧ server.perform setup step =
        (server.note (.connected server.nextKey address)).install address sink := by
  cases step with
  | accept address sink =>
    simp only [perform]
    split
    · rename_i hrunning
      rw [accept_eq]
      split
      · exact .inl (quiet_note _ _).shifts
      · rename_i hroom
        exact .inr ⟨address, sink, rfl, hrunning, Nat.lt_of_not_le hroom, rfl⟩
    · exact .inl .refl
  | arrive key bytes =>
    refine .inl (Quiet.shifts (quiet_updateConnection server key _ ?_ ?_)) <;> exact fun _ => rfl
  | cease key ending =>
    refine .inl (Quiet.shifts (quiet_updateConnection server key _ ?_ ?_)) <;> exact fun _ => rfl
  | read key => exact .inl (shifts_read key)
  | heed key => exact .inl (quiet_heed server key).shifts
  | write key => exact .inl (.single (.wrote key))
  | post message => exact .inl (quiet_post server message).shifts
  | serve => exact .inl shifts_serve
  | tick => exact .inl shifts_tick
  | shuffle first => exact .inl (.single (.shuffled first))

end Server
end GameServer
