/-
  Ultralight.Proofs.Selection
  ───────────────────────────
  **What a selection does to a session, whatever the reader answers.**

  Selecting again makes exactly one exchange, a selection of the UID that the
  session wants (`hold_mustSelect`).  The target of a session is the one that
  the last selection with a find reported: `Session.tracking` says so of a
  whole list of exchanges, and `tracking_append` lets such lists be cut.
-/
import Ultralight.Proofs.Traffic
import Ultralight.Session.ReadPass

namespace Ultralight

/-! ## §1. Exchanges that select. -/

namespace Exchange

/-- The tag that a selection found. -/
def found? : Exchange → Option Target
  | ⟨.select _, .ok found⟩ => found
  | _ => none

/-- Whether the exchange is a selection, fruitful or not. -/
def isSelection : Exchange → Bool
  | ⟨.select _, _⟩ => true
  | _ => false

end Exchange

namespace Session

/-- The session after these exchanges as far as its target goes: the target
is the last tag found. -/
def tracking (session : Session) (exchanges : List Exchange) : Session :=
  { session with target := (exchanges.filterMap Exchange.found?).getLast?.or session.target }

@[simp] theorem tracking_nil (session : Session) : session.tracking [] = session := rfl

theorem tracking_append (session : Session) (exchanges more : List Exchange) :
    session.tracking (exchanges ++ more) = (session.tracking exchanges).tracking more := by
  simp only [tracking, List.filterMap_append, List.getLast?_append, Option.or_assoc]

theorem tracking_cons (session : Session) (made : Exchange) (more : List Exchange) :
    session.tracking (made :: more) = (session.tracking [made]).tracking more :=
  tracking_append session [made] more

/-- A selection that found a tag makes it the target. -/
theorem tracking_of_found {made : Exchange} {target : Target} (h : made.found? = some target)
    (session : Session) : session.tracking [made] = { session with target := some target } := by
  simp [tracking, h]

/-- An exchange that found no tag leaves the target alone. -/
theorem tracking_of_not_found {made : Exchange} (h : made.found? = none) (session : Session) :
    session.tracking [made] = session := by
  simp [tracking, h]

/-! ## §2. Selecting. -/

variable {σ : Type} [Reader σ]

/-- One selection: a tag found becomes the target. -/
theorem hold_selectUid {uid : Option Uid} {reader after : σ} {reply : Except Error (Option Target)}
    (h : Reader.answer (.select uid) reader = (reply, after)) (session : Session) :
    (selectUid uid).hold session reader =
      match reply with
      | .ok (some target) =>
          ⟨(.ok (some target), { session with target := some target }), after,
            [.exchange ⟨.select uid, reply⟩, .notice (.targetSelected target)]⟩
      | .ok none => ⟨(.ok none, session), after, [.exchange ⟨.select uid, reply⟩]⟩
      | .error error => ⟨(.error error, session), after, [.exchange ⟨.select uid, reply⟩]⟩ := by
  unfold selectUid
  rcases reply with error | found | target
  · exact Action.hold_bind_error (Action.hold_lift_of (Talk.hold_ask_of h) session) _
  · exact Action.hold_bind_ok (Action.hold_lift_of (Talk.hold_ask_of h) session) _
  · refine (Action.hold_bind_ok (Action.hold_lift_of (Talk.hold_ask_of h) session) _).trans ?_
    rfl

/-- One selection makes one exchange and follows it. -/
theorem hasEffect_selectUid {rel : Session → List Exchange → Session → Prop} {uid : Option Uid}
    (h : ∀ reply session,
      rel session [⟨.select uid, reply⟩] (session.tracking [⟨.select uid, reply⟩])) :
    (selectUid uid).HasEffect rel := by
  intro σ _ session reader
  rcases answered : Reader.answer (.select uid) reader with ⟨reply, after⟩
  have effect := h reply session
  rw [hold_selectUid answered session]
  rcases reply with error | _ | target
  · rwa [tracking_of_not_found rfl] at effect
  · rwa [tracking_of_not_found rfl] at effect
  · rwa [tracking_of_found rfl] at effect

/-- A selection that has to find a tag makes one exchange.  The tag found
becomes the target; an empty or failed selection is an error and leaves the
session as it was. -/
theorem hold_mustSelect {uid : Option Uid} {reader after : σ}
    {reply : Except Error (Option Target)} (h : Reader.answer (.select uid) reader = (reply, after))
    (session : Session) :
    let made : Exchange := ⟨.select uid, reply⟩
    (∃ target, reply = .ok (some target) ∧
      (mustSelect uid).hold session reader =
        ⟨(.ok target, { session with target := some target }), after,
          [.exchange made, .notice (.targetSelected target)]⟩) ∨
    (made.found? = none ∧ ∃ error,
      (mustSelect uid).hold session reader =
        ⟨(.error error, session), after, [.exchange made]⟩) := by
  have selected := hold_selectUid h session
  unfold mustSelect
  rcases reply with error | found | target
  · exact .inr ⟨rfl, error, Action.hold_bind_error selected _⟩
  · -- no failure of the reader, but an error of the session
    exact .inr ⟨rfl, .noTag, Action.hold_bind_ok selected _⟩
  · exact .inl ⟨target, rfl, Action.hold_bind_ok selected _⟩

/-- Selecting again asks for the tag that the session wants. -/
theorem hold_reselect (session : Session) (reader : σ) :
    reselect.hold session reader = (mustSelect session.wantedUid).hold session reader := by
  unfold reselect
  rw [Action.hold_get_bind]

/-- Nothing is asked of a tag that is awake. -/
theorem hold_wake_false (session : Session) (reader : σ) :
    (wake false).hold session reader = ⟨(.ok (), session), reader, []⟩ := rfl

/-- A tag that sleeps is selected again, in one exchange. -/
theorem hold_wake_true {session : Session} {reader after : σ}
    {reply : Except Error (Option Target)}
    (h : Reader.answer (.select session.wantedUid) reader = (reply, after)) :
    let made : Exchange := ⟨.select session.wantedUid, reply⟩
    (∃ target, reply = .ok (some target) ∧
      (wake true).hold session reader =
        ⟨(.ok (), { session with target := some target }), after,
          [.exchange made, .notice (.targetSelected target)]⟩) ∨
    (made.found? = none ∧ ∃ error,
      (wake true).hold session reader = ⟨(.error error, session), after, [.exchange made]⟩) := by
  have woken := Action.hold_discard reselect session reader
  rw [hold_reselect] at woken
  rcases hold_mustSelect h session with ⟨target, rfl, held⟩ | ⟨missing, error, held⟩
  · exact .inl ⟨target, rfl, woken.trans (by rw [held]; rfl)⟩
  · exact .inr ⟨missing, error, woken.trans (by rw [held]; rfl)⟩

end Session

end Ultralight
