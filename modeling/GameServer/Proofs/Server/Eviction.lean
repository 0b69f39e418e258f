import GameServer.Proofs.Server.Endurance

/-! How a server parts with its sessions when its loop ends: one after the other, and whatever is said
of it. -/

namespace GameServer

open Service

namespace Server

variable {server : Server} {setup : Setup} {key : Key}

theorem view_evict_of_ne (server : Server) {other : Key} (h : key ≠ other) :
    (evict setup server other).view key = server.view key :=
  (view_unseat_of_ne h).trans (view_act_of_ne h _ _)

theorem seat?_evict (server : Server) (key : Key) :
    (evict setup server key).seat? key = none := by
  rw [evict, seat?_unseat, if_pos rfl]

/-- No session outlasts its turn, and none has more than one. -/
theorem seats_evicted (hnodup : server.keys.Nodup) :
    (server.keys.foldl (evict setup) server).seats = [] := by
  let evicted := server.keys.foldl (evict setup) server
  have hother : ∀ key (server : Server) other, other ≠ key →
      (evict setup server other).view key = server.view key :=
    fun key server other hne => view_evict_of_ne server hne.symm
  have hnone : ∀ key, evicted.seat? key = none := by
    intro key
    by_cases hk : key ∈ server.keys
    · obtain ⟨before, rest, -, -, hturn⟩ := exists_turn (hother key) hk hnodup
      exact (congrArg View.seat hturn).trans (seat?_evict _ key)
    · refine (congrArg View.seat (view_foldl (hother key) hk)).trans ?_
      exact Option.not_isSome_iff_eq_none.mp (mem_keys_iff.not.mp hk)
  refine List.eq_nil_iff_forall_not_mem.mpr fun seat hm => ?_
  simpa using List.find?_eq_none.mp (hnone seat.key) seat hm

/-- When the turn of a session comes, it is still what it was. -/
theorem exists_dismissed (setup : Setup) (hnodup : server.keys.Nodup) {seat : Seat}
    (hs : server.seat? key = some seat) :
    ∃ (between : Server) (rest : History), Shifts setup server between ∧
      let evicted := server.keys.foldl (evict setup) server
      let scene := (between.scene seat).dismiss closingReason
      evicted.view key = ((server.view key).act scene).leave ∧
        evicted.history = between.history ++ (.of key scene.trace ++ rest) := by
  obtain ⟨before, rest, hkeys, hbefore, hturn⟩ := exists_turn (f := evict setup)
    (fun server other hne => view_evict_of_ne server hne.symm) (mem_keys_of_seat? hs) hnodup
  let between := before.foldl (evict setup) server
  have hseat : between.seat? key = some seat := (congrArg View.seat hbefore).trans hs
  have hlater : Shifts setup (evict setup between key) (server.keys.foldl (evict setup) server) := by
    rw [hkeys, List.foldl_append]
    exact shifts_foldl shift_evict rest
  obtain ⟨new, hnew⟩ := history_prefix_shifts hlater
  refine ⟨between, new, shifts_foldl shift_evict before, ?_, ?_⟩
  · have hview := view_act between key key setup (fun _ scene => scene.dismiss closingReason) hseat
    rw [if_pos rfl, hbefore] at hview
    rw [hturn, evict, view_unseat, if_pos rfl]
    exact congrArg View.leave hview
  · have hacted : (evict setup between key).history = _ :=
      history_act between key setup (fun _ scene => scene.dismiss closingReason) hseat
    rw [← hnew, hacted, List.append_assoc]

theorem serve_shutdown (hrunning : server.running)
    (hshutdown : server.mailbox.head? = some .shutdown) :
    server.serve setup = { server with mailbox := server.mailbox.tail }.stop setup := by
  cases hm : server.mailbox with
  | nil => simp [hm] at hshutdown
  | cons message rest =>
    obtain rfl : message = .shutdown := by simpa [hm] using hshutdown
    simp only [serve, hrunning, hm, List.tail_cons]
    rfl

end Server
end GameServer
