import GameServer.Session.Basic

/-! Which handler answers a packet. Every phase has handlers of its own, and among them one is found
by the kind of the packet. -/

namespace GameServer

/-- Answers a packet, given the player that the session has when the packet is taken up. -/
abbrev Handler := Setting → Option Player → Packet → Scene → Scene

/-- The handlers of one phase. -/
@[ext]
structure HandlerSet where
  handler? : Kind → Option Handler

namespace HandlerSet

def empty : HandlerSet := { handler? := fun _ => none }

/-- A handler for packets of the same kind is replaced. -/
def on (set : HandlerSet) (kind : Kind) (handler : Handler) : HandlerSet where
  handler? other := if other = kind then some handler else set.handler? other

/-- What the handler for the packet makes of the scene, if there is such a handler. -/
def handle? (set : HandlerSet) (setting : Setting) (player : Option Player) (packet : Packet)
    (scene : Scene) : Option Scene :=
  (set.handler? packet.kind).map fun handler => handler setting player packet scene

end HandlerSet

structure Table where
  handlers? : Phase → Option HandlerSet
  /-- A phase in which nothing is answered has an empty set of handlers. -/
  complete : ∀ phase, (handlers? phase).isSome
  /-- How many packets the handlers may put into an inbox, in all, while it is being drained. -/
  allowance : Nat

namespace Table

def empty : Table where
  handlers? phase := if phase ∈ Phase.all then some .empty else none
  complete phase := by simp [Phase.mem_all]
  allowance := 0

def on (table : Table) (phase : Phase) (kind : Kind) (handler : Handler) : Table where
  handlers? other :=
    if other = phase then some (((table.handlers? phase).getD .empty).on kind handler)
    else table.handlers? other
  complete other := by
    split
    · rfl
    · exact table.complete other
  allowance := table.allowance

def handlersFor (table : Table) (phase : Phase) : HandlerSet :=
  (table.handlers? phase).get (table.complete phase)

def handle? (table : Table) (phase : Phase) (setting : Setting) (player : Option Player)
    (packet : Packet) (scene : Scene) : Option Scene :=
  (table.handlersFor phase).handle? setting player packet scene

variable {table : Table} {phase : Phase}

theorem handlers?_eq : table.handlers? phase = some (table.handlersFor phase) :=
  (Option.some_get (table.complete phase)).symm

@[simp] theorem handlersFor_empty : empty.handlersFor phase = .empty := by
  apply Option.some.inj
  rw [← handlers?_eq]
  exact if_pos (Phase.mem_all phase)

@[simp] theorem handlersFor_on_self (kind : Kind) (handler : Handler) :
    (table.on phase kind handler).handlersFor phase =
      (table.handlersFor phase).on kind handler := by
  apply Option.some.inj
  rw [← handlers?_eq]
  refine (if_pos rfl).trans ?_
  rw [handlers?_eq, Option.getD_some]

theorem handlersFor_on_of_ne {other : Phase} (h : other ≠ phase) (kind : Kind) (handler : Handler) :
    (table.on phase kind handler).handlersFor other = table.handlersFor other := by
  apply Option.some.inj
  rw [← handlers?_eq, ← handlers?_eq]
  exact if_neg h

end Table

end GameServer
