/-
  Ultralight.Proofs.Monitor
  ─────────────────────────
  **Monitors of the traffic of a dialogue.**

  A monitor is a state machine over exchanges, `step : s → Exchange → Option s`,
  that stops (`none`) at the first exchange it forbids.  `Watched step` says of
  a dialogue, before it is held with any reader, that no answers can make the
  monitor stop, and what holds of the value and of the state of the monitor at
  the end.

    • one rule for each way to make a talk or an action, so a proof follows
      the text of the program (`watched_bind` and the rules after it),
    • `watched_run` takes the result to a reader, which only has to leave a
      frame in front when it closes it.
-/
import Ultralight.Proofs.Traffic

namespace Ultralight

/-- Closing a frame puts something behind it. -/
def ClosesBehind (σ : Type) [Reader σ] : Prop :=
  ∀ (frame : Bytes) (reader : σ), ∃ tail, (Reader.close frame reader).1 = frame ++ tail

namespace Dialogue

variable {s α β : Type} {step : s → Exchange → Option s}

/-- Whatever the answers, the monitor does not stop, and the condition holds
of the value and of the last state of the monitor. -/
def Watched (step : s → Exchange → Option s) : Dialogue α → (α → s → Prop) → s → Prop
  | done value, post, state => post value state
  | ask request next, post, state => ∀ reply, ∃ after,
      step state ⟨request, reply⟩ = some after ∧ Watched step (next reply) post after
  | close frame next, post, state => ∀ tail, Watched step (next (frame ++ tail)) post state
  | report _ rest, post, state => Watched step rest post state
  | pause _ rest, post, state => Watched step rest post state

theorem watched_mono {dialogue : Dialogue α} {post weaker : α → s → Prop} {state : s}
    (watched : dialogue.Watched step post state)
    (h : ∀ value after, post value after → weaker value after) :
    dialogue.Watched step weaker state := by
  induction dialogue generalizing state with
  | done value => exact h value state watched
  | ask request next ih =>
      intro reply
      obtain ⟨after, stepped, watched⟩ := watched reply
      exact ⟨after, stepped, ih reply watched⟩
  | close frame next ih => exact fun tail => ih (frame ++ tail) (watched tail)
  | report notice rest ih => exact ih watched
  | pause milliseconds rest ih => exact ih watched

theorem watched_bind {dialogue : Dialogue α} {next : α → Dialogue β} {post : β → s → Prop}
    {state : s}
    (first : dialogue.Watched step (fun value after => (next value).Watched step post after)
      state) :
    (dialogue >>= next).Watched step post state := by
  show (bind dialogue next).Watched step post state
  -- the monitor reaches each leaf in a state of its own
  induction dialogue generalizing state with
  | done value => exact first
  | ask request answer ih =>
      intro reply
      obtain ⟨after, stepped, first⟩ := first reply
      exact ⟨after, stepped, ih reply first⟩
  | close frame answer ih => exact fun tail => ih (frame ++ tail) (first tail)
  | report notice tail ih => exact ih first
  | pause milliseconds tail ih => exact ih first

theorem watched_map {dialogue : Dialogue α} (f : α → β) {post : β → s → Prop} {state : s}
    (first : dialogue.Watched step (fun value after => post (f value) after) state) :
    (f <$> dialogue).Watched step post state := by
  rw [map_eq_pure_bind]
  exact watched_bind first

/-- The traffic of a watched dialogue never stops the monitor. -/
theorem watched_run {σ : Type} [Reader σ] (closes : ClosesBehind σ) {dialogue : Dialogue α}
    {post : α → s → Prop} {state : s} (watched : dialogue.Watched step post state) (reader : σ) :
    ∃ last, (dialogue.run reader).exchanges.foldlM step state = some last ∧
      post (dialogue.run reader).value last := by
  induction dialogue generalizing state reader with
  | done value => exact ⟨state, rfl, watched⟩
  | ask request next ih =>
      obtain ⟨after, stepped, watched⟩ := watched (Reader.answer request reader).1
      obtain ⟨last, folded, held⟩ := ih _ watched (Reader.answer request reader).2
      refine ⟨last, ?_, held⟩
      show List.foldlM step state (⟨request, (Reader.answer request reader).1⟩ ::
        (run (next (Reader.answer request reader).1) (Reader.answer request reader).2).exchanges) =
          some last
      rw [List.foldlM_cons, stepped]
      exact folded
  | close frame next ih =>
      -- what the reader puts behind the frame is one of the tails that were watched
      obtain ⟨tail, closed⟩ := closes frame reader
      have watched := watched tail
      rw [← closed] at watched
      exact ih _ watched _
  | report notice rest ih => exact ih watched reader
  | pause milliseconds rest ih => exact ih watched reader

end Dialogue

/-! ## §1. Talks. -/

namespace Talk

variable {s α β : Type} {step : s → Exchange → Option s} {state : s}

/-- Whatever the answers, the monitor does not stop, and the condition holds
of the result and of the last state of the monitor. -/
def Watched (step : s → Exchange → Option s) (talk : Talk α)
    (post : Except Error α → s → Prop) (state : s) : Prop :=
  Dialogue.Watched step talk.run post state

theorem watched_bind {talk : Talk α} {next : α → Talk β} {post : Except Error β → s → Prop}
    (first : talk.Watched step (fun result after =>
      match result with
      | .ok value => (next value).Watched step post after
      | .error error => post (.error error) after) state) :
    (talk >>= next).Watched step post state := by
  refine Dialogue.watched_bind (Dialogue.watched_mono first fun result after h => ?_)
  cases result with
  | ok value => exact h
  | error error => exact h

theorem watched_pure {post : Except Error α → s → Prop} {value : α} (h : post (.ok value) state) :
    (pure value : Talk α).Watched step post state := h

theorem watched_throw {post : Except Error α → s → Prop} {error : Error}
    (h : post (.error error) state) : (throw error : Talk α).Watched step post state := h

theorem watched_ofExcept {post : Except Error α → s → Prop} {result : Except Error α}
    (h : post result state) : (ofExcept result).Watched step post state := h

theorem watched_report {post : Except Error Unit → s → Prop} {notice : Notice}
    (h : post (.ok ()) state) : (report notice).Watched step post state := h

theorem watched_report_bind {notice : Notice} {next : Unit → Talk α}
    {post : Except Error α → s → Prop} (rest : (next ()).Watched step post state) :
    (report notice >>= next).Watched step post state := watched_bind (watched_report rest)

theorem watched_pause {post : Except Error Unit → s → Prop} {milliseconds : Nat}
    (h : post (.ok ()) state) : (pause milliseconds).Watched step post state := h

theorem watched_close {post : Except Error Bytes → s → Prop} {frame : Bytes}
    (h : ∀ tail, post (.ok (frame ++ tail)) state) : (close frame).Watched step post state := h

theorem watched_ask {request : Request} {post : request.Reply → s → Prop}
    (h : ∀ reply, ∃ after, step state ⟨request, reply⟩ = some after ∧ post reply after) :
    (ask request).Watched step post state := h

theorem watched_attempt {talk : Talk α} {post : Except Error (Except Error α) → s → Prop}
    (h : talk.Watched step (fun result after => post (.ok result) after) state) :
    (attempt talk).Watched step post state := Dialogue.watched_map Except.ok h

end Talk

/-! ## §2. Actions. -/

namespace Action

variable {s t α β : Type} {step : s → Exchange → Option s} {state : s}

/-- The same of an action, whatever state it starts in. -/
def Watched (step : s → Exchange → Option s) (action : Action t α)
    (post : Except Error α → s → Prop) (state : s) : Prop :=
  ∀ start, Dialogue.Watched step (action.dialogue start) (fun result after => post result.1 after)
    state

theorem watched_bind {action : Action t α} {next : α → Action t β}
    {post : Except Error β → s → Prop}
    (first : action.Watched step (fun result after =>
      match result with
      | .ok value => (next value).Watched step post after
      | .error error => post (.error error) after) state) :
    (action >>= next).Watched step post state := by
  intro start
  refine Dialogue.watched_bind (Dialogue.watched_mono (first start)
    fun (result, changed) after h => ?_)
  cases result with
  | ok value => exact h changed
  | error error => exact h

theorem watched_pure {post : Except Error α → s → Prop} {value : α} (h : post (.ok value) state) :
    (pure value : Action t α).Watched step post state := fun _ => h

theorem watched_throw {post : Except Error α → s → Prop} {error : Error}
    (h : post (.error error) state) : (throw error : Action t α).Watched step post state :=
  fun _ => h

theorem watched_get_bind {next : t → Action t α} {post : Except Error α → s → Prop}
    (rest : ∀ found, (next found).Watched step post state) :
    (get >>= next).Watched step post state := fun start => rest start start

theorem watched_set {post : Except Error PUnit → s → Prop} {changed : t}
    (h : post (.ok ⟨⟩) state) : (set changed : Action t PUnit).Watched step post state := fun _ => h

theorem watched_modify {post : Except Error PUnit → s → Prop} {change : t → t}
    (h : post (.ok ⟨⟩) state) : (modify change : Action t PUnit).Watched step post state :=
  fun _ => h

theorem watched_lift {talk : Talk α} {post : Except Error α → s → Prop}
    (h : talk.Watched step post state) : (liftM talk : Action t α).Watched step post state :=
  fun _ => Dialogue.watched_map _ h

theorem watched_report_bind {notice : Notice} {next : Unit → Action t α}
    {post : Except Error α → s → Prop} (rest : (next ()).Watched step post state) :
    (liftM (Talk.report notice) >>= next).Watched step post state :=
  watched_bind (watched_lift (Talk.watched_report rest))

theorem watched_attempt {action : Action t α} {post : Except Error (Except Error α) → s → Prop}
    (h : action.Watched step (fun result after => post (.ok result) after) state) :
    (attempt action).Watched step post state := fun start => Dialogue.watched_map _ (h start)

theorem watched_map {action : Action t α} (f : α → β) {post : Except Error β → s → Prop}
    (h : action.Watched step (fun result after => post (result.map f) after) state) :
    (f <$> action).Watched step post state := by
  rw [map_eq_pure_bind]
  refine watched_bind fun start => Dialogue.watched_mono (h start)
    fun (result, changed) after held => ?_
  cases result with
  | ok value => exact watched_pure held
  | error error => exact held

end Action

end Ultralight
