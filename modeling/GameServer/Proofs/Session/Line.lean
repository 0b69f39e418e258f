import GameServer.Proofs.Session.Dialogue

/-! A session at one end of a connection, its client at the other, and the writer between them. -/

namespace GameServer

open Service Outbox

structure Line where
  scene : Scene
  /-- How much of what the session has sent is in the outbox or has been. -/
  passed : Nat
  outbox : Outbox

/-- The writer runs when it likes, also between two packets that the session sends in one move. -/
inductive Line.Step
  | move (move : Move)
  | pass
  | write
  | release

namespace Line

def begin (world : World) (policy : Policy) (asked : Nat) (address : String) (sink : Sink) : Line where
  scene := .begin world policy asked
  passed := 0
  outbox := .empty address { sink with taken := [] }

def step (line : Line) (table : Table) (setting : Setting) : Step → Line
  | .move move => { line with scene := line.scene.move table setting move }
  | .pass =>
    match line.scene.outgoing[line.passed]? with
    | none => line
    | some item => { line with passed := line.passed + 1, outbox := (line.outbox.put item).1 }
  | .write => { line with outbox := line.outbox.run.1 }
  | .release => { line with outbox := line.outbox.release }

def run (line : Line) (table : Table) (setting : Setting) (steps : List Step) : Line :=
  steps.foldl (·.step table setting ·) line

/-- The session is orderly, and the writer sends nothing but what the session has passed on. -/
structure Sound (line : Line) : Prop where
  playerInPlay : line.scene.PlayerInPlay
  orderly : Orderly line.scene.session.phase line.scene.outgoing
  passed_le : line.passed ≤ line.scene.outgoing.length
  sends : line.outbox.Sends (line.scene.outgoing.take line.passed)

theorem sound_begin (world : World) (policy : Policy) (asked : Nat) (address : String)
    (sink : Sink) : (begin world policy asked address sink).Sound where
  playerInPlay := Scene.playerInPlay_begin world policy asked
  orderly := .of_heard rfl
  passed_le := Nat.le_refl 0
  sends := sends_empty address sink

variable {line : Line} {listing : Listing} {setting : Setting}

theorem Sound.move (h : line.Sound) (move : Move) :
    (line.step (standard listing) setting (.move move)).Sound := by
  obtain ⟨new, hnew⟩ : line.scene.trace <+:
      (line.scene.move (standard listing) setting move).trace :=
    Scene.trace_prefix_move h.playerInPlay move
  have hout := Scene.outgoing_of_trace hnew.symm
  obtain ⟨hp, ho⟩ := Scene.move_preserves
    (fun _ hb ho => hb.orderly ho) (fun _ _ _ ho => ho) h.playerInPlay h.orderly move
  refine ⟨hp, ho, ?_, ?_⟩
  · have hle := h.passed_le
    simp only [step, hout, List.length_append]
    omega
  · simp only [step, hout]
    rw [List.take_append_of_le_length h.passed_le]
    exact h.sends

theorem Sound.pass (h : line.Sound) :
    (line.step (standard listing) setting .pass).Sound := by
  simp only [step]
  split
  · exact h
  · rename_i item hi
    obtain ⟨hlt, hget⟩ := List.getElem?_eq_some_iff.mp hi
    refine ⟨h.playerInPlay, h.orderly, hlt, ?_⟩
    dsimp only
    rw [List.take_succ_eq_append_getElem hlt, hget]
    exact h.sends.put item

theorem Sound.step (h : line.Sound) (step : Step) :
    (line.step (standard listing) setting step).Sound := by
  cases step with
  | move move => exact h.move move
  | pass => exact h.pass
  | write => exact ⟨h.playerInPlay, h.orderly, h.passed_le, h.sends.run⟩
  | release => exact ⟨h.playerInPlay, h.orderly, h.passed_le, h.sends.release⟩

theorem Sound.run (h : line.Sound) (steps : List Step) :
    (line.run (standard listing) setting steps).Sound := by
  induction steps generalizing line with
  | nil => exact h
  | cons step steps ih => exact ih (h.step step)

theorem Sound.dialogue (h : line.Sound) : Dialogue line.outbox.received := by
  refine h.orderly.dialogue.of_prefix (h.sends.received_prefix.trans ?_)
  have hb := beforeClose_append (line.scene.outgoing.take line.passed)
    (line.scene.outgoing.drop line.passed)
  rw [List.take_append_drop] at hb
  exact hb ▸ List.prefix_append _ _

/-! What a line can bring the client. -/

variable {table : Table}

theorem run_append (steps more : List Step) : line.run table setting (steps ++ more) =
    (line.run table setting steps).run table setting more := List.foldl_append

theorem run_moves (moves : List Move) : line.run table setting (moves.map .move) =
    { line with scene := line.scene.run table setting moves } := by
  induction moves generalizing line with
  | nil => rfl
  | cons move moves ih => exact ih

theorem run_passes (hopen : line.outbox.closed = false) (count : Nat)
    (hcount : line.passed + count ≤ line.scene.outgoing.length) :
    line.run table setting (List.replicate count .pass) =
      { line with
        passed := line.passed + count
        outbox := { line.outbox with
          waiting := line.outbox.waiting ++ (line.scene.outgoing.drop line.passed).take count } } := by
  induction count generalizing line with
  | zero => simp [run]
  | succ count ih =>
    have hlt : line.passed < line.scene.outgoing.length := by omega
    let next : Line := { line with
      passed := line.passed + 1
      outbox := { line.outbox with
        waiting := line.outbox.waiting ++ [line.scene.outgoing[line.passed]] } }
    have hpassed : line.step table setting .pass = next := by
      simp [next, step, List.getElem?_eq_getElem hlt, Outbox.put, hopen]
    have hrun : line.run table setting (List.replicate (count + 1) .pass) =
        (line.step table setting .pass).run table setting (List.replicate count .pass) := rfl
    have hrest := @ih next hopen (by simp only [next]; omega)
    have hsum : line.passed + 1 + count = line.passed + (count + 1) := by omega
    rw [hrun, hpassed, hrest, List.drop_eq_getElem_cons hlt, List.take_succ_cons]
    simp [next, hsum]

/-- On a line that loses nothing the client comes to hear all that is said to it before the first
closing. -/
theorem exists_received (world : World) (policy : Policy) (asked : Nat) (address : String)
    (moves : List Move)
    (hframes : ∀ packet ∈ Outbox.beforeClose
      ((Scene.begin world policy asked).run table setting moves).outgoing,
        ∃ frame, packet.frame = .ok frame) :
    ∃ steps, ((begin world policy asked address .unlimited).run table setting steps).outbox.received =
      Outbox.beforeClose ((Scene.begin world policy asked).run table setting moves).outgoing := by
  let scene := (Scene.begin world policy asked).run table setting moves
  refine ⟨moves.map .move ++ (List.replicate scene.outgoing.length .pass ++ [.write]), ?_⟩
  rw [run_append, run_moves, run_append, run_passes rfl _ (by simp [begin, scene])]
  simp only [run, List.foldl_cons, List.foldl_nil, step]
  have hwaiting : ([] : List Outgoing) ++ (scene.outgoing.drop 0).take scene.outgoing.length =
      scene.outgoing := by simp
  refine (Outbox.received_run rfl rfl rfl rfl ?_).trans ?_
  · dsimp only [begin, Outbox.empty]
    rw [hwaiting]
    exact hframes
  · dsimp only [begin, Outbox.empty]
    rw [hwaiting]

end Line
end GameServer
