import GameServer.Proofs.Session.Course
import Mathlib.Data.List.Destutter

/-! The placements of a client. A session remembers the last one that it was sent in play, and so
accepts all but those that are sent again at once. -/

namespace GameServer

open Service

section

variable {α : Type} [DecidableEq α]

theorem destutter'_ne_concat (first last : α) (l : List α) :
    (l ++ [last]).destutter' (· ≠ ·) first =
      if l.getLastD first = last then l.destutter' (· ≠ ·) first
      else l.destutter' (· ≠ ·) first ++ [last] := by
  induction l generalizing first with
  | nil => by_cases h : first = last <;> simp [h]
  | cons next l ih =>
    rw [List.cons_append, List.getLastD_cons]
    by_cases h : first = next
    · subst h
      rw [List.destutter'_cons_neg _ (by simp), List.destutter'_cons_neg _ (by simp), ih]
    · rw [List.destutter'_cons_pos _ h, List.destutter'_cons_pos _ h, ih]
      split <;> rfl

/-- What comes after a list is kept if it is not a repetition. -/
theorem destutter_ne_concat (l : List α) (last : α) :
    (l ++ [last]).destutter (· ≠ ·) =
      if l.getLast? = some last then l.destutter (· ≠ ·) else l.destutter (· ≠ ·) ++ [last] := by
  cases l with
  | nil => simp
  | cons first l =>
    rw [List.cons_append, List.destutter_cons', List.destutter_cons', destutter'_ne_concat,
      List.getLast?_cons]
    simp

end

namespace Event

def accepted? : Event → Option Placement
  | .log (.placed _ placement) => some placement
  | _ => none

def offered? : Event → Option Placement
  | .took .play (.blockPlacement placement) => some placement
  | _ => none

/-- The placements that were accepted, in this order. -/
def accepted (events : List Event) : List Placement := events.filterMap accepted?

/-- The placements that were taken up in play, in this order. -/
def offered (events : List Event) : List Placement := events.filterMap offered?

theorem eq_of_offered? {event : Event} {placement : Placement}
    (h : event.offered? = some placement) : event = .took .play (.blockPlacement placement) := by
  unfold offered? at h
  split at h
  · rw [Option.some.inj h]
  · cases h

end Event

open Event

/-- The placements that a session has let through, those it was offered, and the one it remembers. -/
structure Sieve where
  accepted : List Placement
  offered : List Placement
  remembered : Option Placement

namespace Sieve

def put (sieve : Sieve) (placement : Placement) : Sieve where
  accepted :=
    if sieve.remembered = some placement then sieve.accepted else sieve.accepted ++ [placement]
  offered := sieve.offered ++ [placement]
  remembered := some placement

theorem put_of_eq {sieve : Sieve} {placement : Placement} (h : sieve.remembered = some placement) :
    sieve.put placement = { sieve with offered := sieve.offered ++ [placement] } := by
  rw [put, if_pos h, h]

theorem put_of_ne {sieve : Sieve} {placement : Placement} (h : sieve.remembered ≠ some placement) :
    sieve.put placement = {
      accepted := sieve.accepted ++ [placement]
      offered := sieve.offered ++ [placement]
      remembered := some placement } := by
  simp only [put, if_neg h]

/-- All but immediate repetitions have been let through, and the last one is remembered. -/
structure Sound (sieve : Sieve) : Prop where
  accepted_eq : sieve.accepted = sieve.offered.destutter (· ≠ ·)
  last_accepted : sieve.remembered = sieve.accepted.getLast?
  last_offered : sieve.remembered = sieve.offered.getLast?

theorem Sound.put {sieve : Sieve} (h : sieve.Sound) (placement : Placement) :
    (sieve.put placement).Sound := by
  constructor
  case accepted_eq =>
    simp only [Sieve.put, destutter_ne_concat, ← h.last_offered, ← h.accepted_eq]
  case last_accepted =>
    simp only [Sieve.put]
    split
    · rename_i hsame
      rw [← h.last_accepted, hsame]
    · rw [List.getLast?_concat]
  case last_offered => exact List.getLast?_concat.symm

end Sieve

namespace Scene

def sieve (scene : Scene) : Sieve where
  accepted := accepted scene.trace
  offered := offered scene.trace
  remembered := scene.session.placement

variable {listing : Listing} {setting : Setting} {scene after : Scene}

theorem sieve_of_trace_eq {new : List Event} (ht : after.trace = scene.trace ++ new)
    (hplacement : after.session.placement = scene.session.placement)
    (hnew : ∀ event ∈ new, event.accepted? = none ∧ event.offered? = none) :
    after.sieve = scene.sieve := by
  have haccepted : accepted new = [] :=
    List.filterMap_eq_nil_iff.mpr fun event he => (hnew event he).1
  have hoffered : offered new = [] :=
    List.filterMap_eq_nil_iff.mpr fun event he => (hnew event he).2
  simp only [accepted, offered] at haccepted hoffered
  simp only [sieve, ht, hplacement, accepted, offered, List.filterMap_append, haccepted, hoffered,
    List.append_nil]

theorem Aftermath.sieve_eq {mentioned : Prop} (h : Aftermath scene after mentioned) :
    after.sieve = scene.sieve := by
  obtain ⟨new, ht, hsequel, -⟩ := h.events
  refine sieve_of_trace_eq ht (by rw [h.session_eq]) fun event he => ?_
  have hse := hsequel event he
  cases event with
  | took => cases hse
  | log notice =>
    cases notice with
    | placed => cases hse
    | _ => exact ⟨rfl, rfl⟩
  | _ => exact ⟨rfl, rfl⟩

theorem sieve_turn {packet : Packet} (h : Turn setting scene packet after) :
    after.sieve = scene.sieve ∨ ∃ placement, after.sieve = scene.sieve.put placement := by
  cases h.gist with
  | hosted name between after new mentioned hadmits hsession htrace hnew ha =>
    have hhosted : between.sieve = scene.sieve := by
      refine sieve_of_trace_eq htrace (by rw [hsession]) ?_
      rcases hnew with rfl | ⟨reason, rfl⟩ <;> simp [arrival, refusal, accepted?, offered?]
    exact .inl (ha.sieve_eq.trans hhosted)
  | echoed => exact .inl (sieve_of_trace_eq rfl rfl (by simp [accepted?, offered?]))
  | placed placement hphase hnew =>
    refine .inr ⟨placement, ?_⟩
    have hnew' : scene.sieve.remembered ≠ some placement := hnew
    rw [Sieve.put_of_ne hnew']
    simp only [sieve, note, remember, record, accepted, offered, List.append_assoc,
      List.filterMap_append]
    rfl
  | taken packet after phase mentioned hphase hecho hplacement ha =>
    rw [ha.sieve_eq]
    cases hoffered : (Event.took scene.session.phase packet).offered? with
    | none =>
      exact .inl (sieve_of_trace_eq rfl rfl (by simp [accepted?, hoffered]))
    | some placement =>
      -- A placement that is passed over in play is the one that is remembered.
      obtain ⟨hplay, rfl⟩ := Event.took.inj (eq_of_offered? hoffered)
      have hsame : scene.sieve.remembered = some placement := hplacement placement hplay rfl
      refine .inr ⟨placement, ?_⟩
      rw [Sieve.put_of_eq hsame, hplay]
      simp only [sieve, record, accepted, offered, List.filterMap_append]
      exact congrArg (Sieve.mk · _ _) (List.append_nil _)

theorem sieve_pace (h : Pace setting scene after) :
    after.sieve = scene.sieve ∨ ∃ placement, after.sieve = scene.sieve.put placement := by
  cases h with
  | adjusted => exact .inl rfl
  | turned inbox packet turned idle h =>
    have hturned := sieve_turn h
    exact hturned
  | followed after mentioned h => exact .inl h.sieve_eq
  | elsewhere => exact .inl rfl

theorem sieve_issueKeepAlive (scene : Scene) (setting : Setting) :
    (scene.issueKeepAlive setting).sieve = scene.sieve := by
  refine sieve_of_trace_eq (trace_issueKeepAlive scene setting) ?_ ?_
  · rw [session_issueKeepAlive]
  · split <;> simp [accepted?, offered?]

theorem sound_leg (h : Leg setting scene after) (hs : scene.sieve.Sound) : after.sieve.Sound := by
  cases h with
  | pace after h =>
    rcases sieve_pace h with hsame | ⟨placement, hput⟩
    · exact hsame ▸ hs
    · exact hput ▸ hs.put placement
  | issued => exact sieve_issueKeepAlive scene setting ▸ hs

/-- Wherever a run comes by, the placements that were accepted are those that were taken up in play,
without the ones that repeat the one taken up before, and the last one is remembered. -/
theorem accepted_eq_destutter (listing : Listing) (setting : Setting) (world : World)
    (policy : Policy) (asked : Nat) (moves : List Move) :
    let start := begin world policy asked
    let course := start :: start.course (standard listing) setting moves
    course.getLast? = some (start.run (standard listing) setting moves) ∧
      ∀ stage ∈ course,
        accepted stage.trace = (offered stage.trace).destutter (· ≠ ·) ∧
        stage.session.placement = (offered stage.trace).getLast? ∧
        stage.session.placement = (accepted stage.trace).getLast? := by
  intro start course
  have hp : start.PlayerInPlay := playerInPlay_begin world policy asked
  have hway : Way (Leg setting) start (start.course (standard listing) setting moves)
      (start.run (standard listing) setting moves) := way_course hp moves
  have hstart : start.sieve.Sound := ⟨rfl, rfl, rfl⟩
  refine ⟨hway.last, fun stage hm => ?_⟩
  have hstage : stage.sieve.Sound :=
    hway.preserves (P := fun stage => stage.sieve.Sound) sound_leg hstart stage hm
  exact ⟨hstage.accepted_eq, hstage.last_offered, hstage.last_accepted⟩

end Scene
end GameServer
