import GameServer.Proofs.Server.View

/-! What a session writes to its client goes into its outbox and comes out of it in that order, for
as long as the session is in the table; after that nothing is added to it. -/

namespace GameServer

open Service

namespace Outbox

theorem exact_empty (address : String) {sink : Sink} (hfresh : sink.taken = []) :
    (empty address sink).Exact [] :=
  ⟨fun _ => ⟨[], rfl, rfl, hfresh, fun _ _ => Nat.zero_le _⟩, nofun⟩

theorem released_run (outbox : Outbox) : outbox.run.1.released = outbox.released := by
  unfold run
  split
  · rfl
  · exact (work_leaves _).1

end Outbox

/-- The writer has come somewhere with what the session has sent, and the outbox is open for more
as long as there is a session. A key that has not been given out has no outbox. -/
structure View.Corresponds (key : Key) (view : View) : Prop where
  exact : ∀ outbox, view.outbox = some outbox →
    outbox.Exact (Event.sent view.story) ∧ outbox.released = view.seat.isNone
  opened : view.seat.isSome → view.outbox.isSome
  unknown : view.nextKey ≤ key → view.outbox = none

namespace View.Corresponds

variable {key : Key} {view : View}

theorem handle (h : view.Corresponds key) {change : Outbox → Outbox}
    (hexact : ∀ outbox, outbox.Exact (Event.sent view.story) →
      (change outbox).Exact (Event.sent view.story))
    (hreleased : ∀ outbox, (change outbox).released = outbox.released) :
    (view.handle change).Corresponds key := by
  constructor
  case exact =>
    intro outbox ho
    obtain ⟨before, hb, rfl⟩ := Option.map_eq_some_iff.mp ho
    obtain ⟨hbefore, hsame⟩ := h.exact before hb
    exact ⟨hexact before hbefore, (hreleased before).trans hsame⟩
  case opened =>
    intro hseat
    simpa [View.handle] using h.opened hseat
  case unknown =>
    intro hk
    simpa [View.handle] using h.unknown hk

theorem act (h : view.Corresponds key) (hseat : view.seat.isSome) (scene : Scene) :
    (view.act scene).Corresponds key := by
  constructor
  case exact =>
    intro outbox ho
    obtain ⟨before, hb, rfl⟩ := Option.map_eq_some_iff.mp ho
    obtain ⟨hexact, hreleased⟩ := h.exact before hb
    have hopen : before.released = false := by
      rw [hreleased, Option.isNone_eq_false_iff]
      exact hseat
    have hsent : Event.sent (view.act scene).story =
        Event.sent view.story ++ Event.sent scene.trace := Event.sent_append _ _
    obtain ⟨hsame, -⟩ := before.putAll_leaves (Event.sent scene.trace)
    rw [hsent]
    refine ⟨hexact.putAll hopen _, hsame.trans (hreleased.trans ?_)⟩
    simp [View.act]
  case opened =>
    intro _
    simpa [View.act] using h.opened hseat
  case unknown =>
    intro hk
    simpa [View.act] using h.unknown hk

theorem leave (h : view.Corresponds key) : view.leave.Corresponds key := by
  constructor
  case exact =>
    intro outbox ho
    obtain ⟨before, hb, rfl⟩ := Option.map_eq_some_iff.mp ho
    exact ⟨(h.exact before hb).1.release, rfl⟩
  case opened => exact nofun
  case unknown =>
    intro hk
    simpa [View.leave] using h.unknown hk

end View.Corresponds

namespace Server

def Corresponds (server : Server) : Prop := ∀ key, (server.view key).Corresponds key

variable {server after : Server} {setup : Setup} {listing : Listing} {key : Key}

theorem Corresponds.quiet (h : server.Corresponds) (hquiet : server.Quiet after) :
    after.Corresponds := by
  intro key
  have hseat : after.seat? key = server.seat? key := by rw [seat?, seat?, hquiet.alike.seats]
  have hstory : after.story key = server.story key := by
    rw [story, story, hquiet.alike.history]
  obtain ⟨hexact, hopened, hunknown⟩ := h key
  constructor
  · simpa only [view, hseat, hstory, hquiet.outbox_eq] using hexact
  · simpa only [view, hseat, hquiet.outbox_eq] using hopened
  · simpa only [view, hquiet.alike.nextKey, hquiet.outbox_eq] using hunknown

theorem Corresponds.act (h : server.Corresponds) (action : Setting → Scene → Scene) :
    (server.act setup key action).Corresponds := by
  cases hs : server.seat? key with
  | none => rwa [act_of_none server key setup action hs]
  | some seat =>
    intro other
    rw [view_act server key other setup action hs]
    split
    · rename_i he
      obtain rfl := he
      exact (h other).act (by simp [view, hs]) _
    · exact h other

theorem Corresponds.shift (h : server.Corresponds) (hs : Shift setup server after) :
    after.Corresponds := by
  cases hs with
  | quiet _ hquiet => exact h.quiet hquiet
  | shuffled first =>
    intro key
    rw [view_shuffle]
    exact h key
  | acted key moves => exact h.act _
  | removed key moves =>
    intro other
    rw [view_unseat]
    split
    · exact (h.act _ other).leave
    · exact h.act _ other
  | wrote key =>
    intro other
    rw [view_write]
    split
    · exact (h other).handle (fun _ hexact => hexact.run.exact) Outbox.released_run
    · exact h other

theorem Corresponds.install (hsound : server.Sound setup listing) (h : server.Corresponds)
    (address : String) {sink : Sink} (hfresh : sink.taken = [])
    (hstory : server.story server.nextKey = []) : (server.install address sink).Corresponds := by
  intro key
  by_cases hk : key = server.nextKey
  · subst hk
    have hseat : server.seat? server.nextKey = none := by
      cases hs : server.seat? server.nextKey with
      | none => rfl
      | some seat => exact absurd (hsound.key_lt hs) (Nat.lt_irrefl _)
    have hconnection : server.connection? server.nextKey = none :=
      Option.map_eq_none_iff.mp ((h server.nextKey).unknown (Nat.le_refl _))
    rw [view_install server hseat hconnection]
    constructor
    case exact =>
      intro outbox ho
      obtain rfl := Option.some.inj ho
      have hsent : Event.sent (server.view server.nextKey).story = [] :=
        congrArg Event.sent hstory
      rw [hsent]
      exact ⟨Outbox.exact_empty address hfresh, rfl⟩
    case opened => exact fun _ => rfl
    case unknown => exact fun hk => absurd hk (Nat.not_succ_le_self _)
  · obtain ⟨hexact, hopened, hunknown⟩ := h key
    rw [view_install_of_ne server key hk]
    exact ⟨hexact, hopened, fun hle => hunknown (Nat.le_of_succ_le hle)⟩

/-- Nothing has reached a client before its connection is accepted. -/
theorem corresponds_runSteps (htable : setup.table = standard listing) (address worldName : String)
    {steps : List Step} (hfresh : ∀ address sink, .accept address sink ∈ steps → sink.taken = []) :
    ((start setup address worldName).runSteps setup steps).Corresponds := by
  have hcreated : (create worldName setup.policy).Corresponds := fun key =>
    ⟨nofun, nofun, fun _ => rfl⟩
  refine (runSteps_induction (P := fun server => server.Recounts setup ∧ server.Corresponds) htable
    address worldName steps ⟨recounts_create worldName, hcreated⟩ ?_ ?_).2
  · rintro server after hsound hs ⟨hrecounts, h⟩
    exact ⟨hrecounts.shift htable hsound hs, h.shift hs⟩
  · rintro server address sink hm hsound ⟨hrecounts, h⟩
    have hstory := hrecounts.unborn _ (.inr (Nat.le_refl _))
    exact ⟨hrecounts.install hsound address sink, h.install hsound address (hfresh _ _ hm) hstory⟩

end Server
end GameServer
