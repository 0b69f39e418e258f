import GameServer.Proofs.Server.Passage
import GameServer.Proofs.Server.Census
import GameServer.Proofs.Session.Company

/-! The sessions of a server take their pulses one after the other, and it does not show to any of
them in which order. -/

namespace GameServer

open Service

namespace Server

variable {server other : Server} {setup : Setup} {listing : Listing} {policy : Policy} {key : Key}

theorem policy_pulse (htable : setup.table = standard listing) (hsteady : policy.Steady)
    (hpolicy : server.policy = policy) (key : Key) : (pulse setup server key).policy = policy := by
  cases hs : server.seat? key with
  | none => rwa [pulse, act_of_none server key setup _ hs]
  | some seat =>
    have hself : Scene.Like listing policy (server.scene seat) (server.scene seat) := .refl hpolicy
    have hpulsed := (alike_act server key setup
      (fun setting scene => scene.pulse setup.table setting) hs).policy
    rw [pulse, hpulsed, htable]
    exact (hself.pulse hsteady).policy_eq

theorem policy_pulses (htable : setup.table = standard listing) (hsteady : policy.Steady)
    (hpolicy : server.policy = policy) (keys : List Key) :
    (keys.foldl (pulse setup) server).policy = policy := by
  induction keys generalizing server with
  | nil => exact hpolicy
  | cons key keys ih => exact ih (policy_pulse htable hsteady hpolicy key)

/-- When its turn has come a session pulses as it is, in whatever world the others have left. -/
theorem exists_pulse_of_tick (htable : setup.table = standard listing) (hsteady : policy.Steady)
    (hpolicy : server.policy = policy) (hnodup : server.keys.Nodup) (hrunning : server.running)
    {seat : Seat} (hs : server.seat? key = some seat) :
    ∃ between : Server, between.policy = policy ∧ (server.tick setup).view key =
      (server.view key).act
        ((between.scene seat).pulse (standard listing) (setup.setting seat)) := by
  obtain ⟨before, rest, -, hbefore, hturn⟩ := exists_turn (f := pulse setup)
    (fun server other hne => view_pulse_of_ne server hne) (mem_keys_of_seat? hs) hnodup
  have hs' : (before.foldl (pulse setup) server).seat? key = some seat :=
    (congrArg View.seat hbefore).trans hs
  refine ⟨before.foldl (pulse setup) server, policy_pulses htable hsteady hpolicy before, ?_⟩
  rw [view_tick_eq hrunning, hturn, pulse, view_act _ key key setup _ hs', if_pos rfl, hbefore,
    htable]

/-- A tick does nothing for a session that is not there, and nothing at all once the loop has
ended. -/
theorem view_tick_of_not (h : ¬ (server.running ∧ (server.seat? key).isSome)) :
    (server.tick setup).view key = server.view key := by
  by_cases hrunning : server.running
  · have hs : server.seat? key = none := by simpa [hrunning] using h
    rw [view_tick_eq hrunning]
    exact view_foldl (fun server other hne => view_pulse_of_ne server hne) (not_mem_keys hs)
  · rw [tick, if_pos (by simpa using hrunning)]

theorem seat?_of_mem (hnodup : server.keys.Nodup) {seat : Seat} (h : seat ∈ server.seats) :
    server.seat? seat.key = some seat := by
  cases hs : server.seat? seat.key with
  | none => exact absurd (List.mem_map_of_mem h) (not_mem_keys hs)
  | some found =>
    have hfound : found ∈ server.seats := List.mem_of_find?_eq_some hs
    exact congrArg some (List.inj_on_of_nodup_map hnodup hfound h (key_of_seat? hs))

theorem seat?_of_perm (hnodup : server.keys.Nodup) {seats : List Seat}
    (hperm : seats.Perm server.seats) (key : Key) :
    { server with seats }.seat? key = server.seat? key := by
  have hturned : { server with seats }.keys.Nodup := (hperm.map _).nodup_iff.mpr hnodup
  cases hs : server.seat? key with
  | some seat =>
    obtain rfl := key_of_seat? hs
    exact seat?_of_mem hturned (hperm.mem_iff.mpr (List.mem_of_find?_eq_some hs))
  | none =>
    cases hs' : { server with seats }.seat? key with
    | none => rfl
    | some seat =>
      have hkey : key ∈ server.keys := (hperm.map _).mem_iff.mp (mem_keys_of_seat? hs')
      exact absurd hkey (not_mem_keys hs)

theorem view_of_perm (hnodup : server.keys.Nodup) {seats : List Seat}
    (hperm : seats.Perm server.seats) (key : Key) :
    { server with seats }.view key = server.view key := by
  simp only [view, seat?_of_perm hnodup hperm]
  rfl

/-- Two servers that look the same from a connection go on to look alike from it, whatever else is
in them. -/
theorem tick_alike (htable : setup.table = standard listing) (hsteady : policy.Steady)
    (hpolicy : server.policy = policy) (hpolicy' : other.policy = policy)
    (hnodup : server.keys.Nodup) (hnodup' : other.keys.Nodup)
    (hview : server.view key = other.view key) :
    ((server.tick setup).seat? key).map (·.session.veiled) =
        ((other.tick setup).seat? key).map (·.session.veiled) ∧
      Event.Agree listing ((server.tick setup).story key) ((other.tick setup).story key) := by
  suffices h : ((server.tick setup).view key).seat.map (·.session.veiled) =
        ((other.tick setup).view key).seat.map (·.session.veiled) ∧
      Event.Agree listing ((server.tick setup).view key).story
        ((other.tick setup).view key).story from h
  have hseat : server.seat? key = other.seat? key := congrArg View.seat hview
  have hrunning : server.running = other.running := congrArg View.running hview
  by_cases hpulses : server.running ∧ (server.seat? key).isSome
  · obtain ⟨hruns, hsome⟩ := hpulses
    obtain ⟨seat, hs⟩ := Option.isSome_iff_exists.mp hsome
    obtain ⟨between, hbetween, hticked⟩ :=
      exists_pulse_of_tick htable hsteady hpolicy hnodup hruns hs
    obtain ⟨between', hbetween', hticked'⟩ :=
      exists_pulse_of_tick htable hsteady hpolicy' hnodup' (hrunning ▸ hruns) (hseat ▸ hs)
    have hlike : Scene.Like listing policy (between.scene seat) (between'.scene seat) :=
      ⟨rfl, hbetween, hbetween', .refl []⟩
    have hpulsed : Scene.Like listing policy
        ((between.scene seat).pulse (standard listing) (setup.setting seat))
        ((between'.scene seat).pulse (standard listing) (setup.setting seat)) :=
      hlike.pulse hsteady
    rw [hticked, hticked', hview]
    refine ⟨?_, (Event.Agree.refl _).append hpulsed.trace⟩
    simp only [View.act, Option.map_map, Function.comp_def, hpulsed.session]
  · have hpulses' : ¬ (other.running ∧ (other.seat? key).isSome) := by
      rwa [← hrunning, ← hseat]
    rw [view_tick_of_not hpulses, view_tick_of_not hpulses', hview]
    exact ⟨rfl, .refl _⟩

theorem tick_of_perm (htable : setup.table = standard listing) (hsteady : policy.Steady)
    (hpolicy : server.policy = policy) (hnodup : server.keys.Nodup) {seats : List Seat}
    (hperm : seats.Perm server.seats) (key : Key) :
    let turned : Server := { server with seats }
    ((turned.tick setup).seat? key).map (·.session.veiled) =
        ((server.tick setup).seat? key).map (·.session.veiled) ∧
      Event.Agree listing ((turned.tick setup).story key) ((server.tick setup).story key) := by
  intro turned
  have hturned : turned.keys.Nodup := (hperm.map _).nodup_iff.mpr hnodup
  exact tick_alike htable hsteady hpolicy hpolicy hturned hnodup (view_of_perm hnodup hperm key)

/-- If the owner's answers hang on nothing but what is asked, then sessions that share a world do
not disturb each other: whatever the others do in between, what shows of each of them is what would
show if it were alone in any other world, but for how many players a status says to be online. So it
does not show to any session of a server in which order they take their pulses. -/
theorem undisturbed (listing : Listing) (policy : Policy) (hsteady : policy.Steady) :
    (∀ (ι : Type) [DecidableEq ι] (settings : ι → Setting) (world world' : World)
      (asked asked' : Nat) (turns : List (ι × Move)), (∀ turn ∈ turns, turn.2.isOwn) →
      ∀ who : ι, List.Forall₂ (Glimpse.Same listing)
        ((Company.opened world policy asked).watch (standard listing) settings who turns)
        ((Scene.begin world' policy asked').watch (standard listing) (settings who)
          (Company.movesOf who turns))) ∧
    ∀ (setup : Setup) (address worldName : String) (steps : List Step) (seats : List Seat),
      setup.table = standard listing → setup.policy = policy →
      let server := (start setup address worldName).runSteps setup steps
      let turned : Server := { server with seats }
      seats.Perm server.seats → ∀ key,
        ((turned.tick setup).seat? key).map (·.session.veiled) =
            ((server.tick setup).seat? key).map (·.session.veiled) ∧
          Event.Agree listing ((turned.tick setup).story key) ((server.tick setup).story key) := by
  constructor
  · intro ι _ settings world world' asked asked' turns hown who
    exact Company.watch_alone hsteady who ⟨rfl, rfl, rfl, .refl []⟩ hown
  · intro setup address worldName steps seats htable hpolicy server turned hperm key
    have hsound : server.Sound setup listing := sound_runSteps htable address worldName steps
    exact tick_of_perm htable hsteady (hsound.policy_eq.trans hpolicy) hsound.keys_nodup hperm key

theorem steady_console : Policy.console.Steady :=
  ⟨fun _ _ _ => rfl, fun _ _ _ => rfl, fun _ _ _ _ => rfl, fun _ _ _ => rfl⟩

/-- One of the two logs in, and then the other asks for the status. -/
def twoTurns : List (Bool × Move) :=
  [(true, .receive (.handshake 4 "localhost" 25565 .login)), (true, .queue (.loginStart "Alice")),
    (true, .pulse), (false, .receive (.handshake 4 "localhost" 25565 .status)),
    (false, .queue .statusRequest), (false, .pulse)]

def twoClients : List Step :=
  [.accept "127.0.0.1:40000" .unlimited, .accept "127.0.0.1:40001" .unlimited]

theorem undisturbed_twoTurns :
    let table := standard Config.default.listing
    let setting (key : Key) := usualSetup.setting ⟨key, "127.0.0.1:40000", .fresh⟩
    let company : Company Bool := .opened (World.create "world") .console 0
    let among := company.watch table (fun first => setting (if first then 1 else 2)) false twoTurns
    let alone := (Scene.begin (World.create "elsewhere") .console 0).watch table (setting 2)
      (Company.movesOf false twoTurns)
    let server := (start usualSetup "127.0.0.1:25565" "world").runSteps usualSetup twoClients
    let turned : Server := { server with seats := server.seats.reverse }
    Policy.console.Steady ∧ (∀ turn ∈ twoTurns, turn.2.isOwn) ∧
      List.Forall₂ (Glimpse.Same Config.default.listing) among alone ∧
      among.getLast?.map (·.events) = some [.took .status .statusRequest,
        .write (.statusResponse (Config.default.listing.json 1).render)] ∧
      alone.getLast?.map (·.events) = some [.took .status .statusRequest,
        .write (.statusResponse (Config.default.listing.json 0).render)] ∧
      ((turned.tick usualSetup).seat? 1).map (·.session.veiled) =
        ((server.tick usualSetup).seat? 1).map (·.session.veiled) := by
  intro table setting company among alone server turned
  have hown : ∀ turn ∈ twoTurns, turn.2.isOwn := by decide
  obtain ⟨hcompany, hserver⟩ := undisturbed Config.default.listing .console steady_console
  refine ⟨steady_console, hown, ?_, rfl, rfl, ?_⟩
  · exact hcompany Bool _ (World.create "world") (World.create "elsewhere") 0 0 twoTurns hown false
  · exact (hserver usualSetup "127.0.0.1:25565" "world" twoClients server.seats.reverse rfl rfl
      (List.reverse_perm _) 1).1

end Server
end GameServer
