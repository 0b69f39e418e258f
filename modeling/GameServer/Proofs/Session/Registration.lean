import GameServer.Proofs.Session.Run
import Mathlib.Data.List.Induction

/-! Tables filled by one registration after another. What a table does with a packet is settled by
the last registration for just its kind and the phase of the session; the others might as well not
have been made. -/

namespace GameServer

structure Registration where
  phase : Phase
  kind : Kind
  handler : Handler

namespace Registration

def isFor (registration : Registration) (phase : Phase) (kind : Kind) : Bool :=
  registration.phase = phase ∧ registration.kind = kind

theorem isFor_iff {registration : Registration} {phase : Phase} {kind : Kind} :
    registration.isFor phase kind ↔ (registration.phase, registration.kind) = (phase, kind) := by
  simp [isFor]

/-- The last registration for packets of the kind in the phase, if there is one. -/
def last? (registrations : List Registration) (phase : Phase) (kind : Kind) :
    Option Registration :=
  registrations.reverse.find? (·.isFor phase kind)

theorem last?_concat (registrations : List Registration) (registration : Registration)
    (phase : Phase) (kind : Kind) : last? (registrations ++ [registration]) phase kind =
      if registration.isFor phase kind then some registration
      else last? registrations phase kind := by
  rw [last?, List.reverse_concat, List.find?_cons]
  cases registration.isFor phase kind with
  | true => rfl
  | false => rfl

end Registration

open Registration

namespace Table

def register (table : Table) (registration : Registration) : Table :=
  table.on registration.phase registration.kind registration.handler

def of (registrations : List Registration) : Table := registrations.foldl register empty

theorem of_concat (registrations : List Registration) (registration : Registration) :
    of (registrations ++ [registration]) = (of registrations).register registration := by
  rw [of, List.foldl_append]
  rfl

/-- A table is what it looks up: each phase has its handlers, if only an empty set of them. -/
theorem ext_handler? {table other : Table} (hallowance : table.allowance = other.allowance)
    (h : ∀ phase kind,
      (table.handlersFor phase).handler? kind = (other.handlersFor phase).handler? kind) :
    table = other := by
  have hhandlers : table.handlers? = other.handlers? := by
    funext phase
    rw [handlers?_eq, handlers?_eq, HandlerSet.ext (funext (h phase))]
  cases table
  cases other
  cases hhandlers
  cases hallowance
  rfl

theorem handler?_register (table : Table) (registration : Registration) (phase : Phase)
    (kind : Kind) : ((table.register registration).handlersFor phase).handler? kind =
      if registration.isFor phase kind then some registration.handler
      else (table.handlersFor phase).handler? kind := by
  by_cases hphase : registration.phase = phase
  · subst hphase
    rw [register, handlersFor_on_self]
    simp [HandlerSet.on, isFor, eq_comm]
  · rw [register, handlersFor_on_of_ne (Ne.symm hphase)]
    simp [isFor, hphase]

theorem handler?_of (registrations : List Registration) (phase : Phase) (kind : Kind) :
    ((of registrations).handlersFor phase).handler? kind =
      (last? registrations phase kind).map (·.handler) := by
  induction registrations using List.reverseRecOn with
  | nil =>
    rw [of, List.foldl_nil, handlersFor_empty]
    rfl
  | append_singleton registrations registration ih =>
    rw [of_concat, handler?_register, last?_concat, ih]
    split
    · rfl
    · rfl

/-- No pair of a phase and a kind is looked up that both registrations are for. -/
theorem register_comm (table : Table) {a b : Registration}
    (h : (a.phase, a.kind) ≠ (b.phase, b.kind)) :
    (table.register a).register b = (table.register b).register a := by
  refine ext_handler? rfl fun phase kind => ?_
  simp only [handler?_register]
  by_cases ha : a.isFor phase kind
  · have hb : ¬ b.isFor phase kind := by
      intro hb
      exact h ((isFor_iff.mp ha).trans (isFor_iff.mp hb).symm)
    rw [if_neg hb]
    simp only [if_pos ha]
  · simp only [if_neg ha]

end Table

namespace Scene

variable {scene : Scene} {table : Table} {packet : Packet} (setting : Setting)

theorem dispatch_of_handler {handler : Handler}
    (h : (table.handlersFor scene.session.phase).handler? packet.kind = some handler) :
    scene.dispatch table setting packet = handler setting scene.session.player packet
      (scene.record (.took scene.session.phase packet)) := by
  simp only [dispatch, Table.handle?, HandlerSet.handle?, h, Option.map_some]
  rfl

theorem dispatch_of_no_handler
    (h : (table.handlersFor scene.session.phase).handler? packet.kind = none) :
    scene.dispatch table setting packet = (scene.record (.took scene.session.phase packet)).note
      (.unhandled packet.kind setting.who scene.session.phase) := by
  simp only [dispatch, Table.handle?, HandlerSet.handle?, h, Option.map_none]

end Scene

/-- Whatever has been registered, there are handlers for every phase. A packet goes to the handler
of the last registration for its kind in the phase, and to that one alone. If there is none, then
nothing changes but for what is written to the log. Two registrations for different phases or
kinds can be made in either order. -/
theorem Table.answers_as_last_registered (registrations : List Registration) :
    let table := Table.of registrations
    (∀ phase, ∃ set, table.handlers? phase = some set ∧ table.handlersFor phase = set ∧
      ∀ (setting : Setting) (player : Option Player) (packet : Packet) (scene : Scene),
        set.handle? setting player packet scene = (last? registrations phase packet.kind).map
          fun registration => registration.handler setting player packet scene) ∧
    (∀ (setting : Setting) (packet : Packet) (scene : Scene),
      let phase := scene.session.phase
      let after := scene.dispatch table setting packet
      match last? registrations phase packet.kind with
      | some registration =>
        after = registration.handler setting scene.session.player packet
          (scene.record (.took phase packet))
      | none =>
        after.session = scene.session ∧ after.world = scene.world ∧ after.policy = scene.policy ∧
          after.asked = scene.asked ∧ after.trace = scene.trace ++
            [.took phase packet, .log (.unhandled packet.kind setting.who phase)]) ∧
    ∀ (filled : Table) (a b : Registration), (a.phase, a.kind) ≠ (b.phase, b.kind) →
      (filled.register a).register b = (filled.register b).register a := by
  intro table
  refine ⟨fun phase => ?_, fun setting packet scene => ?_, fun filled a b h => register_comm filled h⟩
  · refine ⟨table.handlersFor phase, handlers?_eq, rfl, fun setting player packet scene => ?_⟩
    rw [HandlerSet.handle?, handler?_of, Option.map_map]
    rfl
  · have hfound := handler?_of registrations scene.session.phase packet.kind
    intro phase after
    cases hlast : last? registrations phase packet.kind with
    | some registration =>
      rw [hlast, Option.map_some] at hfound
      exact Scene.dispatch_of_handler setting hfound
    | none =>
      rw [hlast, Option.map_none] at hfound
      have hafter : after = _ := Scene.dispatch_of_no_handler setting hfound
      rw [hafter]
      exact ⟨rfl, rfl, rfl, rfl, List.append_assoc ..⟩

def echo : Handler := fun _ _ packet scene => scene.send packet

/-- Chat is broadcast until it is echoed instead, and what answers it before play is of no
account in play. -/
theorem Table.answers_as_last_registered_echo :
    let spoken : Registration := ⟨.play, .chat, Service.chat⟩
    let echoed : Registration := ⟨.play, .chat, echo⟩
    let early : Registration := ⟨.login, .chat, Service.ping⟩
    let table := Table.of [spoken, echoed, early]
    (echoed.phase, echoed.kind) ≠ (early.phase, early.kind) ∧
      table = Table.of [spoken, early, echoed] ∧
      ∀ (setting : Setting) (player : Option Player) (scene : Scene),
        (table.handlersFor .play).handle? setting player (.chat "hello") scene =
            some (scene.send (.chat "hello")) ∧
          (table.handlersFor .status).handle? setting player (.chat "hello") scene = none := by
  intro spoken echoed early table
  have hne : (echoed.phase, echoed.kind) ≠ (early.phase, early.kind) := by decide
  obtain ⟨hhandle, -, hcomm⟩ := Table.answers_as_last_registered [spoken, echoed, early]
  refine ⟨hne, hcomm (Table.of [spoken]) echoed early hne, fun setting player scene => ?_⟩
  obtain ⟨play, -, hplay, hheard⟩ := hhandle .play
  obtain ⟨status, -, hstatus, hunheard⟩ := hhandle .status
  rw [hplay, hstatus]
  exact ⟨hheard setting player (.chat "hello") scene, hunheard setting player (.chat "hello") scene⟩

end GameServer
