/-
  Ultralight.Proofs.Recovery
  ──────────────────────────
  **When the operations of a session select a tag again.**

  No operation addresses a tag that one of its own commands put to sleep:
  each of them keeps to the phases of a traffic, whatever the answers
  (`Operation.watched`).  What an operation does not look at is whether the
  one before it left a failure pending.

  So a run of operations selects the tag after every failed command exactly
  if none of them addresses the tag while a failure of an earlier one is
  pending (`performAll_reselected_iff`).
-/
import Ultralight.Proofs.Monitor
import Ultralight.Proofs.OperationEffects
import Ultralight.Proofs.SleepingTag
import Ultralight.SimulatedTag

namespace Ultralight

variable {phase : Phase}

/-! ## §1. Commands and raw mode. -/

/-- A tag that listens answers a command, or refuses it and may fall asleep. -/
theorem Talk.watched_command {request : Request} {post : request.Reply → Phase → Prop}
    (listens : phase.Listens) (command : ∀ reply, Exchange.addresses ⟨request, reply⟩ = true)
    (answered : ∀ value, post (.ok value) .awake)
    (failed : ∀ error after, after.Settled → post (.error error) after) :
    (Talk.ask request).Watched Phase.step post phase := by
  refine Talk.watched_ask fun reply => ⟨_, Phase.step_command listens (command reply), ?_⟩
  rcases reply with error | value
  · refine failed error _ ?_
    -- only the tag's own failures put it to sleep, those of the reader do not
    split
    · exact .inr rfl
    · exact .inl rfl
  · exact answered value

namespace RawMode

/-- Entering raw mode is no matter of the tag. -/
theorem watched_enter {post : Except Error Unit → Phase → Prop} (h : ∀ result, post result phase) :
    enter.Watched Phase.step post phase := by
  unfold enter
  refine Talk.watched_bind (Talk.watched_ask fun crc => ⟨phase, rfl, ?_⟩)
  rcases crc with error | ⟨⟩
  · exact h _
  · refine Talk.watched_bind (Talk.watched_attempt (Talk.watched_ask fun framing =>
      ⟨phase, rfl, ?_⟩))
    rcases framing with error | ⟨⟩
    · -- the first property is switched back
      exact Talk.watched_bind (Talk.watched_attempt (Talk.watched_ask fun _ => ⟨phase, rfl, h _⟩))
    · exact h _

/-- Nor is leaving it. -/
theorem watched_leave {post : Except Error Unit → Phase → Prop} (h : ∀ result, post result phase) :
    leave.Watched Phase.step post phase := by
  unfold leave
  refine Talk.watched_bind (Talk.watched_attempt (Talk.watched_ask fun crc => ⟨phase, rfl, ?_⟩))
  refine Talk.watched_bind (Talk.watched_attempt (Talk.watched_ask fun framing =>
    ⟨phase, rfl, ?_⟩))
  refine Talk.watched_bind (Talk.watched_ofExcept ?_)
  rcases crc with error | ⟨⟩
  · exact h _
  · exact h _

/-- A frame that opens with the code of a command is a command, closed or
not. -/
theorem watched_sendCommand {post : Except Error Bytes → Phase → Prop} {code : UInt8}
    (known : code = Frame.versionCode ∨ code = Frame.authCode) (rest : Bytes)
    (listens : phase.Listens) (answered : ∀ answer, post (.ok answer) .awake)
    (failed : ∀ error after, after.Settled → post (.error error) after) :
    (sendFrame (code :: rest)).Watched Phase.step post phase := by
  unfold sendFrame sendBytes
  refine Talk.watched_bind (Talk.watched_close fun tail => ?_)
  refine Talk.watched_report_bind ?_
  refine Talk.watched_command listens (fun reply => ?_) answered failed
  -- the checksum stands behind the code, so the frame opens as before
  rcases known with rfl | rfl <;> rfl

end RawMode

namespace Session

/-! ## §2. Selecting and detecting. -/

theorem watched_selectUid {uid : Option Uid} {post : Except Error (Option Target) → Phase → Prop}
    (h : ∀ result, post result phase.revived) : (selectUid uid).Watched Phase.step post phase := by
  unfold selectUid
  refine Action.watched_bind (Action.watched_lift (Talk.watched_ask fun reply =>
    ⟨phase.revived, Phase.step_revival rfl phase, ?_⟩))
  rcases reply with error | found | target
  · exact h _
  · exact Action.watched_pure (h _)
  · refine Action.watched_report_bind ?_
    exact Action.watched_bind (Action.watched_modify (Action.watched_pure (h _)))

theorem watched_mustSelect {uid : Option Uid} {post : Except Error Target → Phase → Prop}
    (h : ∀ result, post result phase.revived) : (mustSelect uid).Watched Phase.step post phase := by
  unfold mustSelect
  refine Action.watched_bind (watched_selectUid fun result => ?_)
  rcases result with error | found | target
  · exact h _
  · exact Action.watched_throw (h _)
  · exact Action.watched_pure (h _)

theorem watched_reselect {post : Except Error Target → Phase → Prop}
    (h : ∀ result, post result phase.revived) : reselect.Watched Phase.step post phase :=
  Action.watched_get_bind fun _ => watched_mustSelect h

/-- A tag that may sleep is selected, any other is left as it is: either way
it listens. -/
theorem watched_wake {asleep : Bool} {post : Except Error Unit → Phase → Prop}
    (ready : if asleep then phase.Settled else phase.Listens)
    (h : ∀ result after, after.Listens → post result after) :
    (wake asleep).Watched Phase.step post phase := by
  cases asleep with
  | false => exact Action.watched_pure (h _ _ ready)
  | true =>
      -- the attempt is enough, whether or not it finds the tag
      refine Action.watched_map _ (watched_reselect fun result => h _ _ (.inr ?_))
      rcases ready with rfl | rfl <;> rfl

theorem watched_waitFrom (filter : Option Uid) (pollMs attempts : Nat)
    {post : Except Error (Option Target) → Phase → Prop} (h : ∀ result after, post result after) :
    ∀ (announced : Bool) (phase : Phase),
      (waitFrom filter pollMs attempts announced).Watched Phase.step post phase := by
  induction attempts with
  | zero => intro announced phase; exact Action.watched_pure (h _ _)
  | succ attempts ih =>
      intro announced phase
      -- a fruitless selection, empty or failed, goes on in the same way
      have again : ∀ phase, (do
          unless announced do
            Talk.report .waiting
          Talk.pause pollMs
          waitFrom filter pollMs attempts true : Action Session (Option Target)).Watched
            Phase.step post phase := by
        intro phase
        cases announced with
        | false =>
            refine Action.watched_report_bind ?_
            exact Action.watched_bind (Action.watched_lift (Talk.watched_pause (ih true phase)))
        | true =>
            exact Action.watched_bind (Action.watched_lift (Talk.watched_pause (ih true phase)))
      unfold waitFrom
      refine Action.watched_bind (Action.watched_attempt (watched_selectUid fun result => ?_))
      rcases result with error | found | target
      · by_cases htransport : error.isTransport = true
        · simp only [htransport]
          exact Action.watched_report_bind (again _)
        · simp only [htransport]
          exact Action.watched_throw (h _ _)
      · exact again _
      · exact Action.watched_pure (h _ _)

/-- Logging targets is no matter of the tags. -/
theorem watched_logTargets (targets : List Target) {post : Except Error PUnit → Phase → Prop}
    (h : post (.ok ⟨⟩) phase) :
    (targets.forM fun target => Action.ofTalk (Talk.report (.targetListed target.uid)) :
      Action Session PUnit).Watched Phase.step post phase := by
  induction targets with
  | nil => exact Action.watched_pure h
  | cons target targets ih => exact Action.watched_report_bind ih

theorem watched_listTargets :
    listTargets.Watched Phase.step (fun _ _ => True) phase := by
  unfold listTargets
  refine Action.watched_get_bind fun session => ?_
  refine Action.watched_bind (Action.watched_lift (Talk.watched_ask fun reply => ?_))
  -- a list of no tags is no selection, any other is one
  obtain ⟨after, stepped⟩ :=
    Phase.step_quiet ⟨.list session.config.maxTargets, reply⟩ rfl phase
  refine ⟨after, stepped, ?_⟩
  rcases reply with error | targets
  · trivial
  · by_cases hempty : targets.isEmpty = true
    · simp only [hempty]
      exact Action.watched_bind (watched_logTargets targets (Action.watched_pure trivial))
    · simp only [hempty]
      refine Action.watched_report_bind ?_
      exact Action.watched_bind (watched_logTargets targets (Action.watched_pure trivial))

/-- The answer to GET_VERSION, if it counts, left the tag awake. -/
theorem watched_getVersion {post : Except Error (Option Bytes) → Phase → Prop}
    (listens : phase.Listens) (refused : ∀ error, post (.error error) phase)
    (answered : ∀ answer, post (.ok (some answer)) .awake)
    (unanswered : ∀ after, after.Settled → post (.ok none) after) :
    getVersion.Watched Phase.step post phase := by
  unfold getVersion
  refine Talk.watched_bind (RawMode.watched_enter fun entered => ?_)
  rcases entered with error | ⟨⟩
  · exact refused error
  · refine Talk.watched_bind (Talk.watched_attempt ?_)
    -- raw mode is left whether or not the tag answered
    refine RawMode.watched_sendCommand (.inl rfl) [] listens (fun answer => ?_)
      fun error after settled => ?_
    · refine Talk.watched_bind (Talk.watched_attempt (RawMode.watched_leave fun left => ?_))
      rcases left with error | ⟨⟩
      · exact Talk.watched_report_bind (unanswered _ (.inl rfl))
      · by_cases hlength : versionStorageIndex < answer.length
        · simp only [hlength, if_true]
          exact answered answer
        · simp only [hlength, if_false]
          exact Talk.watched_report_bind (unanswered _ (.inl rfl))
    · refine Talk.watched_bind (Talk.watched_attempt (RawMode.watched_leave fun left => ?_))
      rcases left with error | ⟨⟩
      · exact Talk.watched_report_bind (unanswered _ settled)
      · exact Talk.watched_report_bind (unanswered _ settled)

theorem watched_detectVariant (listens : phase.Listens) :
    detectVariant.Watched Phase.step (fun _ _ => True) phase := by
  have classified : ∀ (answer : Option Bytes) (phase : Phase), (do
      let variant ← Talk.ofExcept (Variant.classify answer)
      modify (adopt variant)
      Talk.report (.variantDetected variant)
      if variant.secretLayout.isSome && !(← get).credentials.isKnown then
        Talk.report .passwordAdvised
      pure variant : Action Session Variant).Watched Phase.step (fun _ _ => True) phase := by
    intro answer phase
    refine Action.watched_bind (Action.watched_lift (Talk.watched_ofExcept ?_))
    rcases Variant.classify answer with error | variant
    · trivial
    · refine Action.watched_bind (Action.watched_modify ?_)
      refine Action.watched_report_bind ?_
      refine Action.watched_get_bind fun session => ?_
      split
      · exact Action.watched_report_bind (Action.watched_pure trivial)
      · exact Action.watched_pure trivial
  unfold detectVariant
  refine Action.watched_bind (Action.watched_lift ?_)
  refine watched_getVersion listens (fun _ => trivial) (fun answer => ?_) (fun after settled => ?_)
  · exact classified (some answer) _
  · -- no answer is an answer too, but it may have put the tag to sleep
    refine Action.watched_bind (Action.watched_map _ (watched_reselect fun result => ?_))
    rcases result with error | target
    · trivial
    · exact classified none _

/-! ## §3. Authenticating and reading. -/

theorem watched_presentPassword {password : Password}
    {post : Except Error (Except Error Bytes × Except Error Unit) → Phase → Prop}
    (listens : phase.Listens) (refused : ∀ error, post (.error error) phase)
    (presented : ∀ answer left after, post (.ok (answer, left)) after) :
    (presentPassword password).Watched Phase.step post phase := by
  unfold presentPassword
  refine Talk.watched_bind (RawMode.watched_enter fun entered => ?_)
  rcases entered with error | ⟨⟩
  · exact refused error
  · refine Talk.watched_bind (Talk.watched_attempt ?_)
    refine RawMode.watched_sendCommand (.inr rfl) password.bytes listens (fun answer => ?_)
      fun error after _ => ?_
    · exact Talk.watched_bind (Talk.watched_attempt (RawMode.watched_leave fun left =>
        presented _ left _))
    · exact Talk.watched_bind (Talk.watched_attempt (RawMode.watched_leave fun left =>
        presented _ left _))

theorem watched_acknowledgement {password : Password} {post : Except Error Pack → Phase → Prop}
    (listens : phase.Listens) (h : ∀ result after, post result after) :
    (acknowledgement password).Watched Phase.step post phase := by
  unfold acknowledgement
  refine Talk.watched_bind (watched_presentPassword listens (fun error => h _ _) ?_)
  intro answer left after
  rcases answer with error | bytes
  · exact Talk.watched_report_bind (Talk.watched_throw (h _ _))
  · dsimp only
    rcases Pack.ofAnswer bytes with error | pack
    · exact Talk.watched_throw (h _ _)
    · rcases left with error | ⟨⟩
      · exact Talk.watched_report_bind (Talk.watched_throw (h _ _))
      · exact Talk.watched_pure (h _ _)

theorem watched_authenticate (password : Password) (listens : phase.Listens) :
    (authenticate password).Watched Phase.step (fun _ _ => True) phase := by
  unfold authenticate
  refine Action.watched_report_bind ?_
  refine Action.watched_bind (Action.watched_lift (watched_acknowledgement listens ?_))
  intro result after
  rcases result with error | pack
  · trivial
  · refine Action.watched_bind (Action.watched_modify ?_)
    exact Action.watched_report_bind (Action.watched_pure trivial)

theorem watched_readBlock {first : Nat} {post : Except Error Nat → Phase → Prop}
    (listens : phase.Listens) (copied : ∀ count, post (.ok count) .awake)
    (failed : ∀ error after, after.Settled → post (.error error) after) :
    (readBlock first).Watched Phase.step post phase := by
  unfold readBlock
  refine Action.watched_bind (Action.watched_lift
    (Talk.watched_command listens (fun _ => rfl) (fun block => ?_) failed))
  refine Action.watched_get_bind fun session => ?_
  refine Action.watched_bind (Action.watched_lift (Talk.watched_ofExcept ?_))
  rcases session.image.copyBlock first block with error | ⟨image, count⟩
  · -- a block without a place in the image counts as failed, though the tag is awake
    exact failed error _ (.inl rfl)
  · exact Action.watched_bind (Action.watched_set (Action.watched_pure (copied count)))

/-- Every block is read from a tag that listens: after a failure it is woken
first, and if that fails no block is read any more. -/
theorem watched_readBlocks (pages : Nat) (firsts : List Nat)
    {post : Except Error (List Marker) → Phase → Prop} (h : ∀ result after, post result after) :
    ∀ (asleep : Bool) (markers : List Marker) (phase : Phase),
      (if asleep then phase.Settled else phase.Listens) →
      (readBlocks pages firsts asleep markers).Watched Phase.step post phase := by
  induction firsts with
  | nil => intro asleep markers phase _; exact Action.watched_pure (h _ _)
  | cons first rest ih =>
      intro asleep markers phase ready
      unfold readBlocks
      refine Action.watched_bind (Action.watched_attempt (watched_wake ready
        fun woken after listens => ?_))
      rcases woken with error | ⟨⟩
      · exact Action.watched_report_bind (Action.watched_pure (h _ _))
      · -- the flag handed on tells that the block failed, so the invariant is met again
        refine Action.watched_bind (Action.watched_attempt ?_)
        refine watched_readBlock listens (fun count => ?_) fun error last settled => ?_
        · exact ih false _ _ (.inr rfl)
        · exact Action.watched_report_bind (ih true _ _ settled)

theorem watched_readAll (listens : phase.Listens) :
    readAll.Watched Phase.step (fun _ _ => True) phase := by
  unfold readAll
  refine Action.watched_get_bind fun session => ?_
  refine Action.watched_report_bind ?_
  refine Action.watched_bind
    (watched_readBlocks _ _ (fun result after => ?_) false [] phase listens)
  rcases result with error | markers
  · trivial
  · refine Action.watched_report_bind ?_
    refine Action.watched_bind ?_
    -- what is left is a matter of the image
    unfold placeSecrets
    refine Action.watched_get_bind fun session => ?_
    split
    · refine Action.watched_bind (Action.watched_set (Action.watched_lift (Talk.watched_report ?_)))
      exact Action.watched_report_bind (Action.watched_pure trivial)
    · refine Action.watched_pure ?_
      exact Action.watched_report_bind (Action.watched_pure trivial)

/-! ## §4. Writing. -/

/-- Pages that are written back leave the tag awake if all are accepted. -/
theorem watched_writeBack (pages : List Page) {post : Except Error Bool → Phase → Prop}
    (accepted : post (.ok true) .awake)
    (refused : ∀ after, after.Settled → post (.ok false) after) :
    ∀ number, (writeBack number pages).Watched Phase.step post .awake := by
  induction pages with
  | nil => intro number; exact Talk.watched_pure accepted
  | cons page rest ih =>
      intro number
      unfold writeBack
      refine Talk.watched_bind (Talk.watched_attempt (Talk.watched_command (.inr rfl) (fun _ => rfl)
        (fun _ => ?_) fun error after settled => ?_))
      · exact ih (number + 1)
      · exact Talk.watched_report_bind (Talk.watched_pure (refused after settled))

theorem watched_probeDirectWrite {post : Except Error Bool → Phase → Prop}
    (listens : phase.Listens) (accepted : post (.ok true) .awake)
    (refused : ∀ after, after.Settled → post (.ok false) after) :
    probeDirectWrite.Watched Phase.step post phase := by
  unfold probeDirectWrite
  refine Talk.watched_report_bind ?_
  refine Talk.watched_bind (Talk.watched_attempt (Talk.watched_command listens (fun _ => rfl)
    (fun block => ?_) fun error after settled => ?_))
  · refine Talk.watched_report_bind (Talk.watched_report_bind ?_)
    exact watched_writeBack _ accepted refused 0
  · exact Talk.watched_report_bind (Talk.watched_pure (refused after settled))

/-- The frames of the back door are no commands, and the answer to the last
one wakes the tag. -/
theorem watched_knock {post : Except Error Bool → Phase → Prop} (settled : phase.Settled)
    (opened : post (.ok true) .awake) (shut : post (.ok false) phase) :
    knock.Watched Phase.step post phase := by
  unfold knock RawMode.sendFrame RawMode.sendBytes RawMode.sendBits
  refine Talk.watched_bind (Talk.watched_attempt (Talk.watched_bind
    (Talk.watched_close fun tail => ?_)))
  refine Talk.watched_report_bind (Talk.watched_ask fun halted => ⟨phase, ?_, ?_⟩)
  · -- the code that halts a tag is none of a command, nor of the back door
    rcases halted with error | answer <;> rfl
  · refine Talk.watched_bind (Talk.watched_attempt (Talk.watched_report_bind
      (Talk.watched_ask fun first => ⟨phase, rfl, ?_⟩)))
    rcases first with error | answer
    · exact Talk.watched_report_bind (Talk.watched_pure shut)
    · refine Talk.watched_bind (Talk.watched_attempt (Talk.watched_report_bind
        (Talk.watched_ask fun second => ?_)))
      rcases second with error | answer
      · exact ⟨phase, rfl, Talk.watched_pure shut⟩
      · -- a command came before, so the revival leaves the tag awake
        refine ⟨phase.revived, Phase.step_revival rfl phase, Talk.watched_pure ?_⟩
        rcases settled with rfl | rfl <;> exact opened

theorem watched_unlockBackdoor {post : Except Error Bool → Phase → Prop} (settled : phase.Settled)
    (opened : post (.ok true) .awake) (shut : ∀ after, post (.ok false) after)
    (failed : ∀ error after, post (.error error) after) :
    unlockBackdoor.Watched Phase.step post phase := by
  unfold unlockBackdoor
  refine Talk.watched_bind (RawMode.watched_enter fun entered => ?_)
  rcases entered with error | ⟨⟩
  · exact failed _ _
  · refine Talk.watched_bind (watched_knock settled ?_ ?_)
    · refine Talk.watched_bind (RawMode.watched_leave fun left => ?_)
      rcases left with error | ⟨⟩
      · exact failed _ _
      · exact Talk.watched_pure opened
    · refine Talk.watched_bind (RawMode.watched_leave fun left => ?_)
      rcases left with error | ⟨⟩
      · exact failed _ _
      · exact Talk.watched_pure (shut _)

/-- A tag whose UID pages were made writable is awake. -/
theorem watched_ensureWritable {post : Except Error Bool → Phase → Prop} (listens : phase.Listens)
    (opened : post (.ok true) .awake) (shut : ∀ after, post (.ok false) after)
    (failed : ∀ error after, post (.error error) after) :
    ensureWritable.Watched Phase.step post phase := by
  unfold ensureWritable
  refine Talk.watched_bind (watched_probeDirectWrite listens ?_ fun after settled => ?_)
  · exact Talk.watched_report_bind (Talk.watched_pure opened)
  · exact Talk.watched_report_bind (watched_unlockBackdoor settled opened shut failed)

/-- So a pass that follows meets a tag that listens. -/
theorem watched_openUidPages {policy : WritePolicy} {post : Except Error Unit → Phase → Prop}
    (listens : phase.Listens) (opened : ∀ after, after.Listens → post (.ok ()) after)
    (failed : ∀ error after, post (.error error) after) :
    (openUidPages policy).Watched Phase.step post phase := by
  unfold openUidPages
  cases policy.uid with
  | false => exact opened phase listens
  | true =>
      refine Talk.watched_bind (watched_ensureWritable listens ?_ (fun after => ?_) failed)
      · exact opened _ (.inr rfl)
      · exact Talk.watched_report_bind (Talk.watched_throw (failed _ after))

theorem watched_wakeOrLose {asleep : Bool} {markers : List Marker}
    {post : Except Error Unit → Phase → Prop}
    (ready : if asleep then phase.Settled else phase.Listens)
    (found : ∀ after, after.Listens → post (.ok ()) after)
    (lost : ∀ error after, post (.error error) after) :
    (wakeOrLose asleep markers).Watched Phase.step post phase := by
  unfold wakeOrLose
  refine Action.watched_bind (Action.watched_attempt (watched_wake ready
    fun woken after listens => ?_))
  rcases woken with error | ⟨⟩
  · refine Action.watched_report_bind ?_
    exact Action.watched_report_bind (Action.watched_throw (lost _ _))
  · exact Action.watched_pure (found after listens)

/-- Every page is written to a tag that listens, or the pass is over. -/
theorem watched_writeEach (policy : WritePolicy) (variant : Variant) (numbers : List Nat)
    {post : Except Error (List Marker) → Phase → Prop} (h : ∀ result after, post result after) :
    ∀ (asleep : Bool) (markers : List Marker) (phase : Phase),
      (if asleep then phase.Settled else phase.Listens) →
      (writeEach policy variant numbers asleep markers).Watched Phase.step post phase := by
  induction numbers with
  | nil => intro asleep markers phase _; exact Action.watched_pure (h _ _)
  | cons number rest ih =>
      intro asleep markers phase ready
      unfold writeEach
      split
      · exact ih asleep _ phase ready
      · refine Action.watched_bind (watched_wakeOrLose ready (fun after listens => ?_)
          fun error after => h _ _)
        refine Action.watched_get_bind fun session => ?_
        refine Action.watched_bind (Action.watched_lift (Talk.watched_ofExcept ?_))
        rcases session.image.page number with error | page
        · exact h _ _
        · refine Action.watched_bind (Action.watched_lift (Talk.watched_attempt
            (Talk.watched_command listens (fun _ => rfl) (fun _ => ?_)
              fun error last settled => ?_)))
          · exact ih false _ _ (.inr rfl)
          · exact Action.watched_report_bind (ih true _ _ settled)

theorem watched_writePages (policy : WritePolicy) (start stop : Nat) (listens : phase.Listens) :
    (writePages policy start stop).Watched Phase.step (fun _ _ => True) phase := by
  unfold writePages
  refine Action.watched_get_bind fun session => ?_
  by_cases beyond : session.variant.pages < stop
  · simp only [beyond, if_true]
    exact Action.watched_bind (Action.watched_throw trivial)
  · simp only [beyond, if_false]
    refine Action.watched_report_bind ?_
    refine Action.watched_bind
      (watched_writeEach _ _ _ (fun result after => ?_) false [] phase listens)
    rcases result with error | markers
    · trivial
    · refine Action.watched_report_bind ?_
      exact Action.watched_report_bind (Action.watched_pure trivial)

theorem watched_writeAll (policy : WritePolicy) (listens : phase.Listens) :
    (writeAll policy).Watched Phase.step (fun _ _ => True) phase := by
  unfold writeAll
  refine Action.watched_bind (Action.watched_lift (watched_openUidPages listens
    (fun after listens => ?_) fun _ _ => trivial))
  exact Action.watched_get_bind fun session => watched_writePages policy 0 _ listens

/-! ## §5. Operations. -/

/-- **No operation addresses a tag that it put to sleep itself**, and none
selects the tag before its first command. -/
theorem Operation.watched (operation : Operation) :
    operation.perform.Watched Phase.step (fun _ _ => True) .untouched := by
  have listens : Phase.untouched.Listens := .inl rfl
  cases operation with
  | select =>
      refine Action.watched_map _ (Action.watched_get_bind fun session => ?_)
      exact watched_mustSelect fun _ => trivial
  | reselect => exact Action.watched_map _ (watched_reselect fun _ => trivial)
  | waitForTag attempts =>
      refine Action.watched_bind (Action.watched_get_bind fun session => ?_)
      refine watched_waitFrom _ _ attempts (fun result after => ?_) false .untouched
      rcases result with error | found | target
      · trivial
      · exact Action.watched_pure trivial
      · exact Action.watched_pure trivial
  | listTargets => exact Action.watched_map _ watched_listTargets
  | checkUltralight =>
      refine Action.watched_get_bind fun session => ?_
      refine Action.watched_bind (Action.watched_lift (Talk.watched_ofExcept ?_))
      rcases session.checkUltralight with error | target
      · trivial
      · exact Action.watched_pure trivial
  | detectVariant => exact Action.watched_map _ (watched_detectVariant listens)
  | authenticate password => exact Action.watched_map _ (watched_authenticate password listens)
  | readAll => exact Action.watched_map _ (watched_readAll listens)
  | writeAll policy => exact Action.watched_map _ (watched_writeAll policy listens)
  | writePages policy start stop =>
      exact Action.watched_map _ (watched_writePages policy start stop listens)
  | ensureWritable =>
      refine Action.watched_bind (Action.watched_lift (watched_ensureWritable listens ?_ ?_ ?_))
      · exact Action.watched_pure trivial
      · exact fun _ => Action.watched_pure trivial
      · exact fun _ _ => trivial
  | loadImage image =>
      refine Action.watched_bind (Action.watched_get_bind fun session => ?_)
      split
      · exact Action.watched_set (Action.watched_pure trivial)
      · exact Action.watched_throw trivial
  | edit change =>
      refine Action.watched_get_bind fun session => ?_
      exact Action.watched_bind (Action.watched_set
        (Action.watched_map _ (Action.watched_lift (Talk.watched_ofExcept trivial))))

/-- The traffic of one operation, by itself, obeys the rule; after a failure
that was pending it does so only if it gives no command. -/
theorem obeys_perform (operation : Operation) (session : Session) (tag : SimulatedTag)
    (pending : Bool) :
    obeys pending (operation.perform.hold session tag).exchanges = true ↔
      (pending = true →
        ∀ made ∈ (operation.perform.hold session tag).exchanges, made.addresses = false) := by
  have closes : ClosesBehind SimulatedTag := fun frame _ => ⟨Crc.tail (Crc.checksum frame), rfl⟩
  obtain ⟨last, passed, -⟩ := Dialogue.watched_run closes (operation.watched session) tag
  exact Phase.obeys_of_phases passed pending

/-- The traffic of operations is that of the first one and then that of the
rest, from where the first one left off. -/
theorem exchanges_performAll_cons (operation : Operation) (operations : List Operation)
    (session : Session) (tag : SimulatedTag) :
    let first := operation.perform.hold session tag
    let rest := (performAll operations).hold first.value.2 first.reader
    let whole := (performAll (operation :: operations)).hold session tag
    whole.exchanges = first.exchanges ++ rest.exchanges ∧ whole.value.2 = rest.value.2 ∧
      whole.reader = rest.reader := by
  intro first rest whole
  rw [show whole = _ from hold_performAll_cons operation operations session tag]
  exact ⟨Dialogue.Event.exchanges_append _ _, rfl, rfl⟩

/-- Whether a run of operations obeys the rule is a matter of the places where
one operation follows another. -/
theorem obeys_performAll (operations : List Operation) :
    ∀ (session : Session) (tag : SimulatedTag) (pending : Bool),
      obeys pending ((performAll operations).hold session tag).exchanges = true ↔
        ∀ before operation after, operations = before ++ operation :: after →
          let reached := (performAll before).hold session tag
          reached.exchanges.foldl pendingAfter pending = true →
            ∀ made ∈ (operation.perform.hold reached.value.2 reached.reader).exchanges,
              made.addresses = false := by
  induction operations with
  | nil =>
      intro session tag pending
      exact ⟨fun _ before operation after split => by simp at split, fun _ => rfl⟩
  | cons operation operations ih =>
      intro session tag pending
      obtain ⟨traffic, -, -⟩ := exchanges_performAll_cons operation operations session tag
      -- the flag after the first operation is the flag that the rest start with
      rw [traffic, obeys_append, Bool.and_eq_true, obeys_perform, ih]
      constructor
      · rintro ⟨here, later⟩ before next after split
        rcases before with _ | ⟨first, before⟩
        · -- nothing was done before, so only the pending failure at the start counts
          obtain ⟨rfl, -⟩ := List.cons.inj split
          exact here
        · obtain ⟨rfl, tail⟩ := List.cons.inj split
          obtain ⟨made, state, reader⟩ := exchanges_performAll_cons operation before session tag
          dsimp only
          rw [made, state, reader, List.foldl_append]
          exact later before next after tail
      · intro h
        refine ⟨h [] operation operations rfl, fun before next after split => ?_⟩
        have later := h (operation :: before) next after (by rw [split]; rfl)
        obtain ⟨made, state, reader⟩ := exchanges_performAll_cons operation before session tag
        dsimp only at later
        rw [made, state, reader, List.foldl_append] at later
        exact later

/-- **When a run of operations selects the tag after every failed command**:
exactly if no operation addresses the tag while a failure of an earlier one is
pending. -/
theorem performAll_reselected_iff (operations : List Operation) (session : Session)
    (tag : SimulatedTag) :
    Reselected ((performAll operations).hold session tag).exchanges ↔
      ∀ before operation after, operations = before ++ operation :: after →
        let reached := (performAll before).hold session tag
        FailurePending reached.exchanges →
          ∀ made ∈ (operation.perform.hold reached.value.2 reached.reader).exchanges,
            made.addresses = false := by
  rw [← obeys_false_iff, obeys_performAll]
  simp only [foldl_pendingAfter_iff, Bool.false_eq_true, false_and, or_false]

/-- A read pass whose last block is refused leaves the tag asleep, and the
write pass after it addresses the tag at once: the first WRITE goes
unanswered. -/
theorem not_reselected_last_block :
    let tag : SimulatedTag :=
      { SimulatedTag.fresh .ultralight with faults := { Faults.none with reads := [12] } }
    let outcome := (performAll [.select, .readAll, .writeAll .none]).hold (fresh .default) tag
    ¬ Reselected outcome.exchanges ∧
      (outcome.value.1.toOption.bind List.getLast?).map Except.toOption =
        some (some (.written { pages := 16, written := 11, skipped := 4, failed := 1 })) := by
  intro tag outcome
  refine ⟨fun reselected => ?_, by decide +kernel⟩
  have obeyed := (obeys_false_iff _).mpr reselected
  revert obeyed
  decide +kernel

end Session

end Ultralight
