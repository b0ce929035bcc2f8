/-
  Ultralight.Proofs.OpenTag
  ─────────────────────────
  **How the UID pages of a clone are opened.**

  On a steady tag each frame of the opening has one answer, and the answers
  fit together (`ends_unlockBackdoor`).  The probe before it can only end in
  two ways (`ends_probeDirectWrite`): all three pages are written back, which
  leaves the tag exactly as it was, or something is refused, which puts it to
  sleep at most.

  In both cases the tag ends up `opened`, with its memory untouched
  (`ends_openUidPages`).  A clone that takes plain writes and refuses none
  passes the probe as it is (`ends_openUidPages_plain`).
-/
import Ultralight.Proofs.SteadyTag
import Ultralight.Session.WritePass

namespace Ultralight

/-! ## §1. The answers. -/

namespace SimulatedTag

/-- The tag with its back door open, and the reader out of raw mode. -/
def opened (tag : SimulatedTag) (armed : Bool) (closedFrames : Nat) : SimulatedTag :=
  { tag with
    halted := false
    armed := armed
    unlocked := true
    handleCrc := true
    easyFraming := true
    closedFrames := closedFrames }

variable {tag : SimulatedTag}

/-- A tag in reach whose back door is open is opened already. -/
theorem opened_self (ready : tag.ready = .ok ()) (unlocked : tag.unlocked = true) :
    tag.opened tag.armed tag.closedFrames = tag := by
  obtain ⟨framed, awake⟩ := awake_of_ready ready
  obtain ⟨crc, framing⟩ : tag.handleCrc = true ∧ tag.easyFraming = true := by
    simpa [inRawMode] using framed
  cases tag
  dsimp only at awake unlocked crc framing
  subst awake unlocked crc framing
  rfl

theorem answer_handleCrc (tag : SimulatedTag) {enable : Bool}
    (h : tag.faults.property ≠ some (.handleCrc, enable)) :
    Reader.answer (.setProperty .handleCrc enable) tag =
      (.ok (), { tag with handleCrc := enable }) := by
  show tag.setProperty .handleCrc enable = _
  unfold setProperty
  rw [if_neg h]

theorem answer_easyFraming (tag : SimulatedTag) {enable : Bool}
    (h : tag.faults.property ≠ some (.easyFraming, enable)) :
    Reader.answer (.setProperty .easyFraming enable) tag =
      (.ok (), { tag with easyFraming := enable }) := by
  show tag.setProperty .easyFraming enable = _
  unfold setProperty
  rw [if_neg h]

/-- In raw mode a command closed by its checksum reaches a tag that is awake. -/
theorem answer_command (present : tag.present = true) (raw : tag.handleCrc = false)
    (command : Bytes) :
    Reader.answer (.bytes (Crc.append command)) tag =
      if tag.halted then (.error .noAnswer, tag) else tag.obey command := by
  have opens : (Crc.append command).take command.length = command := List.take_left
  have heard : tag.command? (Crc.append command) = some command := by
    unfold command?
    rw [raw, if_neg Bool.false_ne_true, Crc.check_append, if_pos rfl, Crc.length_append,
      Nat.add_sub_cancel, opens]
  -- the second knock is too short to be closed by a checksum
  have other : Crc.append command ≠ Frame.unlock2 := by
    intro same
    have length := congrArg List.length same
    rw [Crc.length_append] at length
    unfold Frame.unlock2 at length
    simp at length
  show tag.exchangeBytes (Crc.append command) = _
  unfold exchangeBytes
  rw [if_neg (by rw [present]; exact Bool.false_ne_true), if_neg fun both => other both.1, heard]

/-- Halting, without the help of the reader, puts a tag to sleep that does not
sleep yet. -/
theorem answer_halt (tag : SimulatedTag) (present : tag.present = true)
    (raw : tag.handleCrc = false) :
    ∃ error, Reader.answer (.bytes (Crc.append Frame.halt)) tag =
      (.error error, { tag with halted := true }) := by
  refine ⟨.noAnswer, ?_⟩
  rw [answer_command present raw]
  cases asleep : tag.halted with
  | true => rw [if_pos rfl, ← asleep]
  | false => rfl

/-- The first knock is answered, whether the tag sleeps or not. -/
theorem answer_unlock1 (door : tag.magic = .backdoor) (present : tag.present = true) :
    Reader.answer (.bits Frame.unlock1 Frame.unlockBits1) tag =
      (.ok [Frame.ack], { tag with armed := true }) := by
  show tag.exchangeBits Frame.unlock1 Frame.unlockBits1 = _
  unfold exchangeBits
  rw [if_pos ⟨door, present, rfl, rfl⟩]

/-- The second knock opens the door and wakes the tag. -/
theorem answer_unlock2 (present : tag.present = true) (raw : tag.handleCrc = false)
    (armed : tag.armed = true) (heard : tag.faults.unlock2 = false) :
    Reader.answer (.bytes Frame.unlock2) tag =
      (.ok [Frame.ack], { tag with armed := false, unlocked := true, halted := false }) := by
  show tag.exchangeBytes Frame.unlock2 = _
  unfold exchangeBytes
  rw [if_neg (by rw [present]; exact Bool.false_ne_true), if_pos ⟨rfl, by rw [raw]; rfl⟩,
    if_pos (by rw [armed, heard]; rfl)]

end SimulatedTag

open SimulatedTag

variable {tag : SimulatedTag}

namespace RawMode

/-- Raw mode is entered if the reader accepts both switches. -/
theorem ends_enter (crc : tag.faults.property ≠ some (.handleCrc, false))
    (framing : tag.faults.property ≠ some (.easyFraming, false)) :
    enter.Ends tag (.ok ()) { tag with handleCrc := false, easyFraming := false } := by
  refine .bind (Talk.ends_ask (answer_handleCrc tag crc)) ?_
  refine .bind (Talk.Ends.attempt (Talk.ends_ask (answer_easyFraming _ framing))) ?_
  exact Talk.ends_pure () _

/-- It is left under the same condition. -/
theorem ends_leave (crc : tag.faults.property ≠ some (.handleCrc, true))
    (framing : tag.faults.property ≠ some (.easyFraming, true)) :
    leave.Ends tag (.ok ()) { tag with handleCrc := true, easyFraming := true } := by
  refine .bind (Talk.Ends.attempt (Talk.ends_ask (answer_handleCrc tag crc))) ?_
  refine .bind (Talk.Ends.attempt (Talk.ends_ask (answer_easyFraming _ framing))) ?_
  exact .bind (Talk.ends_pure () _) (Talk.ends_pure () _)

/-- In between, a frame closed by its checksum is a command that a tag that is
awake obeys. -/
theorem ends_sendFrame {payload : Bytes} {reply : Except Error Bytes} {after : SimulatedTag}
    (present : tag.present = true) (awake : tag.halted = false) (raw : tag.handleCrc = false)
    (obeyed : ({ tag with closedFrames := tag.closedFrames + 1 } : SimulatedTag).obey payload =
      (reply, after)) : (sendFrame payload).Ends tag reply after := by
  let closing : SimulatedTag := { tag with closedFrames := tag.closedFrames + 1 }
  refine .bind ⟨_, Talk.hold_close _ tag⟩ (.bind (Talk.ends_report _ _) (Talk.ends_ask ?_))
  refine (answer_command (show closing.present = true from present) raw _).trans ?_
  rw [show closing.halted = false from awake, if_neg Bool.false_ne_true]
  exact obeyed

end RawMode

namespace Session

/-! ## §2. The back door. -/

/-- **The back door opens**, whether the tag sleeps or not. -/
theorem ends_unlockBackdoor (present : tag.present = true) (door : tag.magic = .backdoor)
    (switches : tag.faults.property = none) (heard : tag.faults.unlock2 = false) :
    unlockBackdoor.Ends tag (.ok true) (tag.opened false (tag.closedFrames + 1)) := by
  -- in raw mode the tag is put to sleep, and hears the two knocks
  let raw : SimulatedTag := { tag with handleCrc := false, easyFraming := false }
  let asleep : SimulatedTag :=
    { raw with closedFrames := tag.closedFrames + 1, halted := true }
  let knocked : SimulatedTag := { asleep with armed := true }
  let opened : SimulatedTag := { knocked with armed := false, unlocked := true, halted := false }
  have accepted : ∀ change, tag.faults.property ≠ some change := by simp [switches]
  have entered : RawMode.enter.Ends tag (.ok ()) raw :=
    RawMode.ends_enter (accepted _) (accepted _)
  have slept : ∃ error, (RawMode.sendFrame Frame.halt).Ends raw (.error error) asleep := by
    let closing : SimulatedTag := { raw with closedFrames := tag.closedFrames + 1 }
    obtain ⟨error, halted⟩ := answer_halt closing present rfl
    refine ⟨error, .bind ⟨_, Talk.hold_close _ raw⟩ ?_⟩
    exact .bind (Talk.ends_report _ _) (Talk.ends_ask halted)
  have first : (RawMode.sendBits Frame.unlock1 Frame.unlockBits1).Ends asleep
      (.ok [Frame.ack]) knocked :=
    .bind (Talk.ends_report _ _) (Talk.ends_ask (answer_unlock1 door present))
  have second : (RawMode.sendBytes Frame.unlock2).Ends knocked (.ok [Frame.ack]) opened :=
    .bind (Talk.ends_report _ _) (Talk.ends_ask (answer_unlock2 present rfl rfl heard))
  have left : RawMode.leave.Ends opened (.ok ()) (tag.opened false (tag.closedFrames + 1)) :=
    RawMode.ends_leave (accepted _) (accepted _)
  have knocks : knock.Ends raw (.ok true) opened := by
    obtain ⟨error, slept⟩ := slept
    refine .bind slept.attempt ?_
    refine .bind first.attempt ?_
    exact .bind second.attempt (Talk.ends_pure true opened)
  exact .bind entered (.bind knocks (.bind left (Talk.ends_pure true _)))

/-! ## §3. The probe. -/

/-- Writing pages back as they are ends with the first that is refused, which
puts the tag to sleep; if none is, the tag is as it was. -/
theorem ends_writeBack (steady : tag.Steady) (framed : tag.inRawMode = false)
    (awake : tag.halted = false) (pages : List Page) :
    ∀ number, number + pages.length ≤ tag.variant.pages →
      (∀ i page, pages[i]? = some page → page = tag.page (number + i)) →
      ((writeBack number pages).Ends tag (.ok false) { tag with halted := true } ∧
        ∃ i, i < pages.length ∧ tag.refuses tag.uidWritable (number + i) = true) ∨
      ((writeBack number pages).Ends tag (.ok true) tag ∧
        ∀ i, i < pages.length → tag.refuses tag.uidWritable (number + i) = false) := by
  induction pages with
  | nil =>
      intro number _ _
      exact .inr ⟨Talk.ends_pure true tag, fun i hi => absurd hi (Nat.not_lt_zero i)⟩
  | cons page rest ih =>
      intro number within own
      rw [List.length_cons] at within
      obtain rfl : page = tag.page number := own 0 page rfl
      cases hrefused : tag.refuses tag.uidWritable number with
      | true =>
          obtain ⟨error, answered⟩ := answer_write_refused steady awake
            (by omega : number < tag.variant.pages) hrefused (tag.page number)
          rw [framed] at answered
          refine .inl ⟨.bind (Talk.ends_ask answered).attempt ?_, 0, Nat.succ_pos _, hrefused⟩
          exact .bind (Talk.ends_report _ _) (Talk.ends_pure false _)
      | false =>
          have answered := answer_write_stored steady awake
            (by omega : number < tag.variant.pages) hrefused (tag.page number)
          rw [storing_own, setPage_page] at answered
          have later := ih (number + 1) (by omega) fun i page hpage => by
            rw [own (i + 1) page hpage]
            congr 1
            omega
          rcases later with ⟨ended, i, hi, refused⟩ | ⟨ended, accepted⟩
          · refine .inl ⟨.bind (Talk.ends_ask answered).attempt ended, i + 1, ?_, ?_⟩
            · rw [List.length_cons]
              omega
            · rwa [show number + 1 + i = number + (i + 1) by omega] at refused
          · refine .inr ⟨.bind (Talk.ends_ask answered).attempt ended, fun i hi => ?_⟩
            match i with
            | 0 => exact hrefused
            | i + 1 =>
                have next := accepted i (by rw [List.length_cons] at hi; omega)
                rwa [show number + 1 + i = number + (i + 1) by omega] at next

/-- **How the probe ends.**  Either the three pages are written back, which
takes a tag that is in reach and whose UID pages are open and leaves it as it
was, or something is refused and the tag sleeps at most.  What can be refused
is the first block and each of the three pages. -/
theorem ends_probeDirectWrite (steady : tag.Steady) :
    ((∃ halted, probeDirectWrite.Ends tag (.ok false) { tag with halted := halted }) ∧
      (tag.ready = .ok () → tag.faults.reads.contains 0 = true ∨
        ∃ number, tag.refuses tag.uidWritable number = true)) ∨
      (probeDirectWrite.Ends tag (.ok true) tag ∧ tag.ready = .ok () ∧
        tag.uidWritable = true) := by
  have size := tag.variant.le_pages
  cases hready : tag.ready with
  | error error =>
      have answered : Reader.answer (.read 0) tag = (.error error, tag) := by
        show tag.readBlock 0 = _
        unfold SimulatedTag.readBlock
        rw [hready]
      refine .inl ⟨⟨tag.halted, .bind (Talk.ends_report _ tag) ?_⟩, nofun⟩
      refine .bind (Talk.ends_ask answered).attempt ?_
      exact .bind (Talk.ends_report _ _) (Talk.ends_pure false _)
  | ok =>
      obtain ⟨framed, awake⟩ := awake_of_ready hready
      have first : 0 < tag.variant.pages := by omega
      cases hrefused : tag.faults.reads.contains (UInt8.ofNat 0) with
      | true =>
          have answered := answer_read_refused hready first hrefused
          rw [steady.stays, Bool.not_false, Bool.and_true] at answered
          refine .inl ⟨⟨true, .bind (Talk.ends_report _ tag) ?_⟩, fun _ => .inl rfl⟩
          refine .bind (Talk.ends_ask answered).attempt ?_
          exact .bind (Talk.ends_report _ _) (Talk.ends_pure false _)
      | false =>
          -- what is written back is what the block shows of pages 0 to 2
          have answered := answer_read_shown hready first hrefused
          obtain ⟨_, h0, h1, h2⟩ := readBlock_first answered
          have shown : ∀ {result after},
              (writeBack 0 [tag.page 0, tag.page 1, tag.page 2]).Ends tag (.ok result) after →
              probeDirectWrite.Ends tag (.ok result) after := by
            intro result after ended
            rw [← h0, ← h1, ← h2] at ended
            refine .bind (Talk.ends_report _ tag) ?_
            refine .bind (Talk.ends_ask answered).attempt ?_
            exact .bind (Talk.ends_report _ _) (.bind (Talk.ends_report _ _) ended)
          have own : ∀ i page, [tag.page 0, tag.page 1, tag.page 2][i]? = some page →
              page = tag.page (0 + i) := by
            intro i page hpage
            match i with
            | 0 => cases hpage; rfl
            | 1 => cases hpage; rfl
            | 2 => cases hpage; rfl
            | i + 3 => cases hpage
          rcases ends_writeBack steady framed awake _ 0 (by simp; omega) own with
            ⟨ended, i, _, refused⟩ | ⟨ended, accepted⟩
          · exact .inl ⟨⟨true, shown ended⟩, fun _ => .inr ⟨_, refused⟩⟩
          · refine .inr ⟨shown ended, rfl, ?_⟩
            -- page 0 is a UID page, and was accepted
            have open0 := accepted 0 (by simp)
            unfold refuses at open0
            simpa [firstDataPage] using (Bool.or_eq_false_iff.mp open0).2

/-! ## §4. Opening the UID pages. -/

/-- **A back door ends up open**, and the tag in reach, whether the probe finds
it open or the knocks open it. -/
theorem ends_openUidPages {policy : WritePolicy} (uid : policy.uid = true) (steady : tag.Steady)
    (door : tag.magic = .backdoor) (switches : tag.faults.property = none)
    (heard : tag.faults.unlock2 = false) :
    ∃ armed closedFrames,
      (openUidPages policy).Ends tag (.ok ()) (tag.opened armed closedFrames) := by
  have writable : ∃ armed closedFrames,
      ensureWritable.Ends tag (.ok true) (tag.opened armed closedFrames) := by
    rcases ends_probeDirectWrite steady with ⟨⟨halted, probed⟩, _⟩ | ⟨probed, ready, found⟩
    · refine ⟨false, tag.closedFrames + 1, .bind probed (.bind (Talk.ends_report _ _) ?_)⟩
      exact ends_unlockBackdoor steady.present door switches heard
    · have unlocked : tag.unlocked = true := by simpa [uidWritable, door] using found
      refine ⟨tag.armed, tag.closedFrames, .bind probed (.bind (Talk.ends_report _ _) ?_)⟩
      rw [opened_self ready unlocked]
      exact Talk.ends_pure true tag
  obtain ⟨armed, closedFrames, ended⟩ := writable
  refine ⟨armed, closedFrames, ?_⟩
  unfold openUidPages
  rw [if_pos uid]
  exact .bind ended (Talk.ends_pure () _)

/-- A clone in reach that takes plain writes and refuses none is taken as it
is. -/
theorem ends_openUidPages_plain {policy : WritePolicy} (uid : policy.uid = true)
    (steady : tag.Steady) (ready : tag.ready = .ok ()) (plain : tag.magic = .directWrite)
    (reads : tag.faults.reads = []) (writes : tag.faults.writes = []) :
    (openUidPages policy).Ends tag (.ok ()) tag := by
  have opens : tag.uidWritable = true := by
    unfold uidWritable
    rw [plain]
  have accepts : ∀ number, tag.refuses tag.uidWritable number = false := by
    intro number
    unfold refuses
    rw [(awake_of_ready ready).1, writes, opens]
    rfl
  have probed : probeDirectWrite.Ends tag (.ok true) tag := by
    rcases ends_probeDirectWrite steady with ⟨_, refused⟩ | ⟨probed, _⟩
    · rcases refused ready with read | ⟨number, write⟩
      · rw [reads] at read
        cases read
      · rw [accepts number] at write
        cases write
    · exact probed
  have writable : ensureWritable.Ends tag (.ok true) tag :=
    .bind probed (.bind (Talk.ends_report _ _) (Talk.ends_pure true _))
  unfold openUidPages
  rw [if_pos uid]
  exact .bind writable (Talk.ends_pure () _)

end Session

end Ultralight
