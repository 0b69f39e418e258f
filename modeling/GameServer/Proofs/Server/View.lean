import GameServer.Proofs.Outbox.Settlement
import GameServer.Proofs.Server.Story
import GameServer.Proofs.Session.Sending

/-! The server as seen from one of its connections: all that has to do with its reader, its session
and its writer, together with what they share with the others of the loop. What is done for one
connection does not show in the view of another. -/

namespace GameServer

/-- What is read off the connection. -/
def Record.read? (key : Key) : Record → Option Packet
  | .read other packet => if other = key then some packet else none
  | _ => none

/-- Neither is a packet read nor does a session do anything. -/
def Record.isAside : Record → Bool
  | .session .. | .read .. => false
  | _ => true

structure View where
  running : Bool
  mailbox : List Message
  nextKey : Key
  reader : Option ReaderState
  read : List Packet
  seat : Option Seat
  outbox : Option Outbox
  story : List Event

namespace View

def turn (view : View) (reader : ReaderState) : View :=
  { view with reader := view.reader.map fun _ => reader }

def post (view : View) (message : Message) : View :=
  if view.running then { view with mailbox := view.mailbox ++ [message] } else view

def handle (view : View) (change : Outbox → Outbox) : View :=
  { view with outbox := view.outbox.map change }

def act (view : View) (scene : Scene) : View :=
  { view with
    seat := view.seat.map ({ · with session := scene.session })
    outbox := view.outbox.map fun outbox => (outbox.putAll (Event.sent scene.trace)).1
    story := view.story ++ scene.trace }

def leave (view : View) : View :=
  { view with seat := none, outbox := view.outbox.map Outbox.release }

end View

namespace Server

def view (server : Server) (key : Key) : View where
  running := server.running
  mailbox := server.mailbox
  nextKey := server.nextKey
  reader := (server.connection? key).map (·.reader)
  read := server.records.filterMap (Record.read? key)
  seat := server.seat? key
  outbox := server.outbox? key
  story := server.story key

variable (server : Server) (key other : Key)

theorem view_records {new : List Record} (h : ∀ record ∈ new, record.isAside) :
    { server with records := server.records ++ new }.view key = server.view key := by
  have hread : new.filterMap (Record.read? key) = [] := by
    refine List.filterMap_eq_nil_iff.mpr fun record hm => ?_
    cases record with
    | read => cases h _ hm
    | _ => rfl
  have hevent : new.filterMap Record.event? = [] := by
    refine List.filterMap_eq_nil_iff.mpr fun record hm => ?_
    cases record with
    | session => cases h _ hm
    | _ => rfl
  have hstory : { server with records := server.records ++ new }.story key = server.story key := by
    simp only [story, history, List.filterMap_append, hevent, List.append_nil]
  have hreads : (server.records ++ new).filterMap (Record.read? key) =
      server.records.filterMap (Record.read? key) := by
    rw [List.filterMap_append, hread, List.append_nil]
  simp only [view, hstory, hreads]
  rfl

theorem view_record {record : Record} (h : record.isAside) :
    (server.record record).view key = server.view key :=
  view_records server key (by simpa using h)

theorem view_note (notice : Notice) : (server.note notice).view key = server.view key :=
  view_record server key rfl

theorem view_post (message : Message) :
    (server.post message).view key = (server.view key).post message := by
  have hrunning : (server.view key).running = server.running := rfl
  unfold post View.post
  rw [hrunning]
  split <;> rfl

theorem view_updateConnection (change : Connection → Connection)
    (turn : ReaderState → ReaderState) (handle : Outbox → Outbox)
    (hkey : ∀ connection, (change connection).key = connection.key)
    (hreader : ∀ connection, (change connection).reader = turn connection.reader)
    (houtbox : ∀ connection, (change connection).outbox = handle connection.outbox) :
    (server.updateConnection key change).view other =
      if other = key then { server.view other with
        reader := (server.view other).reader.map turn
        outbox := (server.view other).outbox.map handle }
      else server.view other := by
  simp only [view, outbox?, connection?_updateConnection hkey]
  split
  · simp only [Option.map_map, Function.comp_def, hreader, houtbox]
    rfl
  · rfl

theorem view_updateConnection_of_ne (h : other ≠ key) {change : Connection → Connection}
    (hkey : ∀ connection, (change connection).key = connection.key) :
    (server.updateConnection key change).view other = server.view other := by
  simp only [view, outbox?, connection?_updateConnection hkey, if_neg h]
  rfl

theorem view_reader (reader : ReaderState) :
    (server.updateConnection key ({ · with reader })).view other =
      if other = key then (server.view other).turn reader else server.view other := by
  rw [view_updateConnection server key other ({ · with reader }) (fun _ => reader) id
    (fun _ => rfl) (fun _ => rfl) fun _ => rfl, Option.map_id]
  rfl

/-- What is done to the outbox of a connection, and reported of it. -/
theorem view_outbox (handle : Outbox → Outbox) (report : Outbox → List WriterEvent) :
    (match server.connection? key with
      | none => server
      | some connection =>
        let handled := server.updateConnection key ({ · with outbox := handle connection.outbox })
        { handled with
          records := handled.records ++
            (report connection.outbox).map (Record.writer key) }).view other =
      if other = key then (server.view other).handle handle else server.view other := by
  cases hc : server.connection? key with
  | none =>
    have hview : (server.view key).handle handle = server.view key := by
      simp [View.handle, view, outbox?, hc]
    dsimp only
    split
    · rename_i he
      rw [he, hview]
    · rfl
  | some connection =>
    dsimp only
    rw [view_records _ _ (by simp [Record.isAside]), view_updateConnection server key other
      ({ · with outbox := handle connection.outbox }) id (fun _ => handle connection.outbox)
      (fun _ => rfl) (fun _ => rfl) fun _ => rfl, Option.map_id]
    split
    · rename_i he
      have hfound : (server.view other).outbox = some connection.outbox := by
        rw [he]
        exact congrArg (Option.map (·.outbox)) hc
      simp only [View.handle, hfound]
      rfl
    · rfl

theorem view_put (item : Outgoing) : (server.put key item).view other =
    if other = key then (server.view other).handle (·.put item |>.1) else server.view other :=
  view_outbox server key other (·.put item |>.1) (·.put item |>.2)

theorem view_write : (server.write key).view other =
    if other = key then (server.view other).handle (·.run.1) else server.view other :=
  view_outbox server key other (·.run.1) (·.run.2)

theorem view_read (packet : Packet) : (server.record (.read key packet)).view other =
    if other = key then { server.view other with read := (server.view other).read ++ [packet] }
    else server.view other := by
  have hstory : (server.record (.read key packet)).story other = server.story other := by
    rw [story, (alike_record server rfl).history, story]
  have hread : (server.record (.read key packet)).records.filterMap (Record.read? other) =
      server.records.filterMap (Record.read? other) ++ if other = key then [packet] else [] := by
    rw [record, List.filterMap_append]
    split
    · rename_i he
      simp [Record.read?, he]
    · rename_i hne
      simp [Record.read?, Ne.symm hne]
  simp only [view, hstory, hread]
  split <;> simp [seat?, outbox?, connection?, record]

theorem view_session (event : Event) : (server.record (.session key event)).view other =
    if other = key then { server.view other with story := (server.view other).story ++ [event] }
    else server.view other := by
  have hstory : (server.record (.session key event)).story other =
      server.story other ++ if other = key then [event] else [] := by
    have hhistory : (server.record (.session key event)).history =
        server.history ++ .of key [event] := history_session server key [event]
    rw [story, hhistory, History.story_append]
    split
    · rename_i he
      rw [he, History.story_of_self]
      rfl
    · rename_i hne
      rw [History.story_of_ne hne]
      rfl
  have hread : (server.record (.session key event)).records.filterMap (Record.read? other) =
      server.records.filterMap (Record.read? other) := by
    simp [record, Record.read?]
  simp only [view, hstory, hread]
  split <;> simp [seat?, outbox?, connection?, record]

theorem view_relay (event : Event) : (server.relay key event).view other =
    if other = key then { server.view other with
      outbox := (server.view other).outbox.map fun outbox => (outbox.putAll (Event.sent [event])).1
      story := (server.view other).story ++ [event] }
    else server.view other := by
  unfold relay
  cases hitem : event.outgoing? with
  | none =>
    dsimp only
    rw [view_session]
    split <;> simp [hitem, Outbox.putAll]
  | some item =>
    dsimp only
    rw [view_put, view_session]
    split <;> simp [hitem, View.handle, Outbox.putAll]

theorem view_relays (events : List Event) : (events.foldl (·.relay key ·) server).view other =
    if other = key then { server.view other with
      outbox := (server.view other).outbox.map fun outbox => (outbox.putAll (Event.sent events)).1
      story := (server.view other).story ++ events }
    else server.view other := by
  induction events generalizing server with
  | nil => split <;> simp [Outbox.putAll]
  | cons event events ih =>
    rw [List.foldl_cons, ih, view_relay]
    split
    · cases hitem : event.outgoing? <;>
        simp [hitem, Outbox.putAll, Function.comp_def]
    · rfl

theorem view_act (setup : Setup) (action : Setting → Scene → Scene) {seat : Seat}
    (h : server.seat? key = some seat) : (server.act setup key action).view other =
      if other = key then (server.view other).act (action (setup.setting seat) (server.scene seat))
      else server.view other := by
  let scene := action (setup.setting seat) (server.scene seat)
  let reseated : Server := { server with
    world := scene.world
    policy := scene.policy
    asked := scene.asked
    seats := server.reseat key scene.session }
  have hacted : server.act setup key action = scene.trace.foldl (·.relay key ·) reseated := by
    simp only [act, h]
    rfl
  have hreseated : reseated.view other = { server.view other with
      seat := (server.seat? other).map fun seat =>
        if other = key then { seat with session := scene.session } else seat } := by
    rw [← find?_reseat]
    rfl
  rw [hacted, view_relays, hreseated]
  split
  · rfl
  · rw [Option.map_id']
    rfl

theorem view_unseat : (server.unseat key).view other =
    if other = key then (server.view other).leave else server.view other := by
  let gone : Server := { server with seats := server.seats.filter (·.key != key) }
  have hgone : gone.view other =
      { server.view other with seat := if other = key then none else server.seat? other } := by
    rw [← seat?_unseat]
    rfl
  have hunseated := view_updateConnection gone key other
    (fun connection => { connection with outbox := connection.outbox.release }) id Outbox.release
    (fun _ => rfl) (fun _ => rfl) fun _ => rfl
  rw [hgone] at hunseated
  refine hunseated.trans ?_
  split
  · rw [Option.map_id]
    rfl
  · rfl

theorem view_shuffle (first : Key) : (server.shuffle first).view key = server.view key := by
  simp only [view, seat?_shuffle]
  rfl

/-! The sessions take their turns, and what is done for the others does not show. -/

section

variable {server} {key} {f : Server → Key → Server}
  (hf : ∀ server other, other ≠ key → (f server other).view key = server.view key)

include hf

theorem view_foldl {keys : List Key} (h : key ∉ keys) :
    (keys.foldl f server).view key = server.view key := by
  induction keys generalizing server with
  | nil => rfl
  | cons other keys ih =>
    obtain ⟨hne, hkeys⟩ := not_or.mp (List.mem_cons.not.mp h)
    exact (ih hkeys).trans (hf server other (Ne.symm hne))

theorem exists_turn {keys : List Key} (h : key ∈ keys) (hnodup : keys.Nodup) :
    ∃ before after, keys = before ++ key :: after ∧
      (before.foldl f server).view key = server.view key ∧
      (keys.foldl f server).view key = (f (before.foldl f server) key).view key := by
  obtain ⟨before, after, rfl⟩ := List.append_of_mem h
  obtain ⟨-, hafter, hdisjoint⟩ := List.nodup_append.mp hnodup
  have hbefore : key ∉ before := fun hm => hdisjoint key hm key List.mem_cons_self rfl
  refine ⟨before, after, rfl, view_foldl hf hbefore, ?_⟩
  rw [List.foldl_append, List.foldl_cons]
  exact view_foldl hf (List.nodup_cons.mp hafter).1

end

theorem view_act_of_ne {server : Server} {key other : Key} (h : other ≠ key) (setup : Setup)
    (action : Setting → Scene → Scene) :
    (server.act setup key action).view other = server.view other := by
  cases hs : server.seat? key with
  | none => rw [act_of_none server key setup action hs]
  | some seat => rw [view_act server key other setup action hs, if_neg h]

theorem view_unseat_of_ne {server : Server} {key other : Key} (h : other ≠ key) :
    (server.unseat key).view other = server.view other := by
  rw [view_unseat, if_neg h]

theorem view_install_of_ne (h : other ≠ server.nextKey) (address : String) (sink : Sink) :
    (server.install address sink).view other =
      { server.view other with nextKey := server.nextKey + 1 } := by
  have hseat : (server.install address sink).seat? other = server.seat? other := by
    simp [seat?, install, welcome, Ne.symm h]
  have hconnection : (server.install address sink).connection? other = server.connection? other := by
    simp [connection?, install, welcome, Ne.symm h]
  simp only [view, outbox?, hseat, hconnection]
  rfl

theorem view_install (hseat : server.seat? server.nextKey = none)
    (hconnection : server.connection? server.nextKey = none) (address : String) (sink : Sink) :
    (server.install address sink).view server.nextKey = { server.view server.nextKey with
      nextKey := server.nextKey + 1
      reader := some .reading
      seat := some { key := server.nextKey, address, session := .fresh }
      outbox := some (.empty address sink) } := by
  have hseated : (server.install address sink).seat? server.nextKey =
      some { key := server.nextKey, address, session := .fresh } := by
    have hnone : server.seats.find? (·.key == server.nextKey) = none := hseat
    simp only [seat?, install, welcome, List.find?_append, hnone]
    simp
  have hinstalled : (server.install address sink).connection? server.nextKey = some {
      key := server.nextKey, address, reader := .reading, arrived := [], ending := .pending
      outbox := .empty address sink } := by
    have hnone : server.connections.find? (·.key == server.nextKey) = none := hconnection
    simp only [connection?, install, List.find?_append, hnone]
    simp
  simp only [view, outbox?, hseated, hinstalled]
  rfl

end Server
end GameServer
