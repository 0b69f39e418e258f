import GameServer.Proofs.Server.Books
import GameServer.Server.Step

/-! What a step of a server changes about its sessions. The mailbox, the connections and the
writers are left out of it. -/

namespace GameServer

open Service

def Record.event? : Record → Option (Key × Event)
  | .session key event => some (key, event)
  | _ => none

namespace Server

def history (server : Server) : History := server.records.filterMap Record.event?

def keys (server : Server) : List Key := server.seats.map (·.key)

def player (server : Server) (key : Key) : Option Player :=
  (server.seat? key).bind (·.session.player)

def ledger (server : Server) : Ledger where
  player := server.player
  world := server.world
  asked := server.asked
  history := server.history

/-- The two servers differ in nothing that concerns the sessions. -/
structure Alike (a b : Server) : Prop where
  seats : a.seats = b.seats
  world : a.world = b.world
  policy : a.policy = b.policy
  asked : a.asked = b.asked
  nextKey : a.nextKey = b.nextKey
  history : a.history = b.history

theorem Alike.refl (server : Server) : server.Alike server := ⟨rfl, rfl, rfl, rfl, rfl, rfl⟩

theorem Alike.trans {a b c : Server} (hab : a.Alike b) (hbc : b.Alike c) : a.Alike c :=
  ⟨hab.seats.trans hbc.seats, hab.world.trans hbc.world, hab.policy.trans hbc.policy,
    hab.asked.trans hbc.asked, hab.nextKey.trans hbc.nextKey, hab.history.trans hbc.history⟩

variable (server : Server) (key : Key)

theorem alike_updateConnection (change : Connection → Connection) :
    (server.updateConnection key change).Alike server := ⟨rfl, rfl, rfl, rfl, rfl, rfl⟩

theorem alike_records (new : List Record) (h : ∀ record ∈ new, record.event? = none) :
    { server with records := server.records ++ new }.Alike server := by
  refine ⟨rfl, rfl, rfl, rfl, rfl, ?_⟩
  simp only [history, List.filterMap_append, List.filterMap_eq_nil_iff.mpr h, List.append_nil]

theorem alike_record {record : Record} (h : record.event? = none) :
    (server.record record).Alike server :=
  alike_records server [record] (by simpa using h)

theorem alike_note (notice : Notice) : (server.note notice).Alike server :=
  alike_record server rfl

theorem alike_writer (events : List WriterEvent) :
    { server with records := server.records ++ events.map (Record.writer key) }.Alike server :=
  alike_records server _ (by simp [Record.event?])

theorem alike_put (item : Outgoing) : (server.put key item).Alike server := by
  unfold put
  split
  · exact .refl server
  · exact (alike_writer _ key _).trans (alike_updateConnection server key _)

theorem alike_write : (server.write key).Alike server := by
  unfold write
  split
  · exact .refl server
  · exact (alike_writer _ key _).trans (alike_updateConnection server key _)

theorem alike_relay (event : Event) :
    (server.relay key event).Alike { server with records := server.records ++ [.session key event] } := by
  unfold relay
  dsimp only
  split
  · exact alike_put _ key _
  · exact .refl _

theorem history_session (events : List Event) :
    { server with records := server.records ++ events.map (Record.session key) }.history =
      server.history ++ .of key events := by
  simp [history, History.of, List.filterMap_map, Function.comp_def, Record.event?]

theorem alike_relays (events : List Event) :
    (events.foldl (·.relay key ·) server).Alike
      { server with records := server.records ++ events.map (Record.session key) } := by
  induction events generalizing server with
  | nil => exact ⟨rfl, rfl, rfl, rfl, rfl, by simp⟩
  | cons event events ih =>
    have hr := alike_relay server key event
    refine (ih (server.relay key event)).trans
      ⟨hr.seats, hr.world, hr.policy, hr.asked, hr.nextKey, ?_⟩
    rw [history_session, hr.history, ← history_session]
    simp

def scene (seat : Seat) : Scene where
  session := seat.session
  world := server.world
  policy := server.policy
  asked := server.asked
  trace := []

def reseat (session : Session) : List Seat :=
  server.seats.map fun other => if other.key = key then { other with session } else other

theorem act_of_none (setup : Setup) (action : Setting → Scene → Scene)
    (h : server.seat? key = none) : server.act setup key action = server := by
  simp only [act, h]

theorem alike_act (setup : Setup) (action : Setting → Scene → Scene) {seat : Seat}
    (h : server.seat? key = some seat) :
    (server.act setup key action).Alike
      (let scene := action (setup.setting seat) (server.scene seat)
      { server with
        world := scene.world
        policy := scene.policy
        asked := scene.asked
        seats := server.reseat key scene.session
        records := server.records ++ scene.trace.map (Record.session key) }) := by
  simp only [act, h]
  exact alike_relays _ key _

theorem history_act (setup : Setup) (action : Setting → Scene → Scene) {seat : Seat}
    (h : server.seat? key = some seat) : (server.act setup key action).history =
      server.history ++ .of key (action (setup.setting seat) (server.scene seat)).trace :=
  (alike_act server key setup action h).history.trans (history_session _ key _)

theorem keys_reseat (session : Session) :
    (server.reseat key session).map (·.key) = server.keys := by
  simp only [reseat, keys, List.map_map]
  refine List.map_congr_left fun seat _ => ?_
  simp only [Function.comp]
  split <;> rfl

theorem key_of_seat? {server : Server} {key : Key} {seat : Seat}
    (h : server.seat? key = some seat) : seat.key = key := by
  simpa using List.find?_some h

theorem mem_keys_iff {server : Server} {key : Key} :
    key ∈ server.keys ↔ (server.seat? key).isSome := by
  simp [keys, seat?, List.find?_isSome]

theorem mem_keys_of_seat? {server : Server} {key : Key} {seat : Seat}
    (h : server.seat? key = some seat) : key ∈ server.keys :=
  mem_keys_iff.mpr (by rw [h]; rfl)

theorem not_mem_keys {server : Server} {key : Key} (h : server.seat? key = none) :
    key ∉ server.keys := by
  simp [mem_keys_iff, h]

theorem find?_reseat (session : Session) (other : Key) :
    (server.reseat key session).find? (·.key == other) =
      (server.seat? other).map fun seat => if other = key then { seat with session } else seat := by
  have hkey : ((fun seat : Seat => seat.key == other) ∘ fun seat : Seat =>
      if seat.key = key then { seat with session } else seat) = fun seat => seat.key == other := by
    funext seat
    simp only [Function.comp]
    split <;> rfl
  rw [reseat, List.find?_map, hkey]
  cases hs : server.seats.find? (·.key == other) with
  | none => simp [seat?, hs]
  | some seat => simp [seat?, hs, key_of_seat? hs]

theorem player_act (setup : Setup) (action : Setting → Scene → Scene) {seat : Seat}
    (h : server.seat? key = some seat) (other : Key) :
    (server.act setup key action).player other =
      if other = key then (action (setup.setting seat) (server.scene seat)).session.player
      else server.player other := by
  have hseats := (alike_act server key setup action h).seats
  have hseat := (congrArg (List.find? (·.key == other)) hseats).trans (find?_reseat server key _ other)
  rw [player, seat?, hseat, player]
  by_cases he : other = key
  · subst he
    simp [h]
  · simp [he]

variable {server key} {setup : Setup}

theorem Alike.ledger {a b : Server} (h : a.Alike b) : a.ledger = b.ledger := by
  have hp : a.player = b.player := by
    funext key
    simp only [player, seat?, h.seats]
  simp only [Server.ledger, hp, h.world, h.asked, h.history]

theorem ledger_act (action : Setting → Scene → Scene) {seat : Seat}
    (h : server.seat? key = some seat) : (server.act setup key action).ledger =
      (action (setup.setting seat) (server.scene seat)).ledger key server.player
        server.history := by
  have ha := alike_act server key setup action h
  have hh := history_act server key setup action h
  simp only [ledger, Scene.ledger, Ledger.mk.injEq]
  exact ⟨funext (player_act server key setup action h), ha.world, ha.asked, hh⟩

theorem ledger_scene {seat : Seat} (h : server.seat? key = some seat) :
    (server.scene seat).ledger key server.player server.history = server.ledger := by
  have hplayer : (fun other => if other = key then seat.session.player else server.player other) =
      server.player := by
    funext other
    by_cases he : other = key
    · rw [if_pos he, player, he, h]
      rfl
    · rw [if_neg he]
  have hnothing : server.history ++ .of key [] = server.history := List.append_nil _
  simp only [Scene.ledger, ledger, scene, hplayer, hnothing]

theorem seat?_unseat (server : Server) (key other : Key) :
    (server.unseat key).seat? other = if other = key then none else server.seat? other := by
  simp only [seat?, unseat, updateConnection, List.find?_filter]
  by_cases he : other = key
  · rw [if_pos he]
    refine List.find?_eq_none.mpr fun seat _ => ?_
    simp [he]
  · rw [if_neg he]
    congr 1
    funext seat
    by_cases hk : seat.key = other
    · simp [hk, he]
    · simp [hk]

theorem ledger_unseat (hnone : server.player key = none) :
    (server.unseat key).ledger = server.ledger := by
  have hplayer : (server.unseat key).player = server.player := by
    funext other
    rw [player, seat?_unseat]
    by_cases he : other = key
    · rw [if_pos he, he, hnone]
      rfl
    · rw [if_neg he]
      rfl
  simp only [ledger, hplayer]
  rfl

theorem seat?_shuffle (server : Server) (first key : Key) :
    (server.shuffle first).seat? key = server.seat? key := by
  have hfirst : (fun seat : Seat => decide ((seat.key == first) = true ∧ (seat.key == key) = true)) =
      fun seat => decide (key = first) && seat.key == key := by
    funext seat
    by_cases hk : seat.key = key <;> simp [hk]
  have hrest : (fun seat : Seat => decide ((seat.key != first) = true ∧ (seat.key == key) = true)) =
      fun seat => decide (key ≠ first) && seat.key == key := by
    funext seat
    by_cases hk : seat.key = key <;> simp [hk]
  have hnobody : server.seats.find? (fun _ => false) = none := by simp
  simp only [seat?, shuffle, List.find?_append, List.find?_filter, hfirst, hrest]
  by_cases hk : key = first <;> simp [hk, hnobody]

theorem seats_shuffle_perm (server : Server) (first : Key) :
    (server.shuffle first).seats.Perm server.seats := List.filter_append_perm _ _

theorem ledger_shuffle (server : Server) (first : Key) :
    (server.shuffle first).ledger = server.ledger := by
  have hplayer : (server.shuffle first).player = server.player := by
    funext key
    rw [player, seat?_shuffle, player]
  simp only [ledger, hplayer]
  rfl

def welcome (server : Server) (address : String) : Server :=
  { server with
    nextKey := server.nextKey + 1
    seats := server.seats ++ [{ key := server.nextKey, address, session := .fresh }] }

theorem keys_welcome (server : Server) (address : String) :
    (server.welcome address).keys = server.keys ++ [server.nextKey] := List.map_append

theorem ledger_welcome (server : Server) (address : String) :
    (server.welcome address).ledger = server.ledger := by
  have hplayer : (server.welcome address).player = server.player := by
    funext other
    simp only [player, seat?, welcome, List.find?_append]
    cases server.seats.find? (·.key == other) with
    | some seat => rfl
    | none =>
      simp only [Option.none_or, List.find?_singleton]
      split <;> rfl
  simp only [ledger, hplayer]
  rfl

theorem connection?_map {change : Connection → Connection} {connections : List Connection}
    (hkey : ∀ connection, (change connection).key = connection.key) (key : Key) :
    (connections.map change).find? (·.key == key) =
      (connections.find? (·.key == key)).map change := by
  have hsame : ((fun connection : Connection => connection.key == key) ∘ change) =
      fun connection => connection.key == key := by
    funext connection
    simp [hkey]
  rw [List.find?_map, hsame]

theorem key_of_connection? {connection : Connection} (h : server.connection? key = some connection) :
    connection.key = key := by
  simpa using List.find?_some h

theorem connection?_updateConnection {change : Connection → Connection}
    (hkey : ∀ connection, (change connection).key = connection.key) (other : Key) :
    (server.updateConnection key change).connection? other =
      if other = key then (server.connection? other).map change else server.connection? other := by
  have hchange : ∀ connection : Connection,
      (if connection.key = key then change connection else connection).key = connection.key := by
    intro connection
    split
    · exact hkey connection
    · rfl
  rw [connection?, updateConnection, connection?_map hchange]
  cases hc : server.connections.find? (·.key == other) with
  | none => simp [connection?, hc]
  | some connection =>
    have hk : connection.key = other := key_of_connection? (show server.connection? other = _ from hc)
    simp only [connection?, hc, hk, Option.map_some]
    split <;> rfl

end Server
end GameServer
