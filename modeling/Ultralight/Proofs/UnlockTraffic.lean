/-
  Ultralight.Proofs.UnlockTraffic
  ───────────────────────────────
  **What making the UID pages writable asks of a reader.**

  Whatever the answers, `ensureWritable` takes one course:

    • the probe: READ of page 0, and WRITEs of what it showed of pages 0 to 2
      up to the first one refused (`Probed`); if all goes well, that is all,
    • the back door, if the probe failed: the frame that halts a tag, the
      knock of seven bits, the byte that follows only an answer to it, and
      then both switches of raw mode (`BackDoor`).

  `UnlockCourse` is both, with the readers that the answers lead through.
  From it the result is told by the last exchanges alone
  (`UnlockCourse.verdict`), also where the probe fails in one of its three
  ways, and `ensureWritable_traffic` puts this together.
-/
import Ultralight.Proofs.RawStretches
import Ultralight.Session.Unlock

namespace Ultralight.Session

open RawMode (switchedOff askedBack)

/-! ## §1. The course of the exchanges. -/

/-- WRITEs of pages one after the other, from the given number on, up to the
first one refused, and whether none was. -/
inductive WrittenBack : Nat → List Page → List Exchange → Bool → Prop where
  /-- No page is left. -/
  | done (number : Nat) : WrittenBack number [] [] true
  /-- A WRITE is refused, and no other one is tried. -/
  | refused (number : Nat) (page : Page) (rest : List Page) (error : Error) :
      WrittenBack number (page :: rest)
        [⟨.write (UInt8.ofNat number) page.padded, .error error⟩] false
  /-- A WRITE is accepted, and the next page is written. -/
  | accepted {number : Nat} {page : Page} {rest : List Page} {more : List Exchange} {passed : Bool}
      (h : WrittenBack (number + 1) rest more passed) :
      WrittenBack number (page :: rest)
        (⟨.write (UInt8.ofNat number) page.padded, .ok ()⟩ :: more) passed

/-- READ of page 0 and, if it is answered, what it showed of the first three
pages written back; whether all of that was accepted. -/
inductive Probed : List Exchange → Bool → Prop where
  | unreadable (error : Error) : Probed [⟨.read 0, .error error⟩] false
  | shown {block : Block} {writes : List Exchange} {passed : Bool}
      (h : WrittenBack 0 [block.p0, block.p1, block.p2] writes passed) :
      Probed (⟨.read 0, .ok block⟩ :: writes) passed

/-- A frame that halts the tag, the knock of seven bits and, if the knock is
answered, the byte that opens the door; whether that one is answered, too. -/
inductive Knocks (halt : Bytes) : List Exchange → Bool → Prop where
  | unheard (halted : Except Error Bytes) (error : Error) :
      Knocks halt [⟨.bytes halt, halted⟩, ⟨.bits [0x40] 7, .error error⟩] false
  | heard (halted : Except Error Bytes) (answer : Bytes) (second : Except Error Bytes) :
      Knocks halt
        [⟨.bytes halt, halted⟩, ⟨.bits [0x40] 7, .ok answer⟩, ⟨.bytes [0x43], second⟩] second.isOk

section

variable {σ : Type} [Reader σ]

/-- A visit to the back door: the exchanges made, the reader after them and
the outcome. -/
inductive BackDoor (reader : σ) : List Exchange → σ → Except Error Bool → Prop where
  /-- The first switch is refused, and nothing else is asked. -/
  | refused {after : σ} {error : Error}
      (h : Conversed reader [⟨.setProperty .handleCrc false, .error error⟩] after) :
      BackDoor reader [⟨.setProperty .handleCrc false, .error error⟩] after (.error error)
  /-- The second switch is refused, and the first one is switched back. -/
  | undone {after : σ} {error : Error} {back : Except Error Unit}
      (h : Conversed reader [⟨.setProperty .handleCrc false, .ok ()⟩,
        ⟨.setProperty .easyFraming false, .error error⟩, ⟨.setProperty .handleCrc true, back⟩]
          after) :
      BackDoor reader [⟨.setProperty .handleCrc false, .ok ()⟩,
        ⟨.setProperty .easyFraming false, .error error⟩, ⟨.setProperty .handleCrc true, back⟩]
          after (.error error)
  /-- In raw mode the reader closes the frame that halts a tag, the knocks
  follow, and raw mode is left. -/
  | held {inside closing after : σ} {halt : Bytes} {frames : List Exchange} {unlocked : Bool}
      {crc framing : Except Error Unit}
      (entered : Conversed reader switchedOff inside)
      (closed : Reader.close [0x50, 0x00] inside = (halt, closing))
      (knocks : Knocks halt frames unlocked)
      (left : Conversed closing (frames ++ askedBack crc framing) after) :
      BackDoor reader (switchedOff ++ frames ++ askedBack crc framing) after
        (do crc; framing; pure unlocked)

/-- The exchanges made to have the UID pages writable, the reader after them
and the outcome. -/
inductive UnlockCourse (reader : σ) : List Exchange → σ → Except Error Bool → Prop where
  /-- The probe passes, and nothing else is asked. -/
  | direct {probe : List Exchange} {after : σ} (probed : Probed probe true)
      (h : Conversed reader probe after) : UnlockCourse reader probe after (.ok true)
  /-- The probe fails, and the back door is tried. -/
  | backDoor {probe visit : List Exchange} {between after : σ} {result : Except Error Bool}
      (probed : Probed probe false) (h : Conversed reader probe between)
      (door : BackDoor between visit after result) :
      UnlockCourse reader (probe ++ visit) after result

/-! ## §2. The talk takes this course. -/

theorem hold_writeBack (pages : List Page) : ∀ (number : Nat) (reader : σ),
    let outcome := (writeBack number pages).hold reader
    ∃ passed, outcome.value = .ok passed ∧
      WrittenBack number pages outcome.exchanges passed ∧
      Conversed reader outcome.exchanges outcome.reader := by
  induction pages with
  | nil => exact fun number reader => ⟨true, rfl, .done number, rfl⟩
  | cons page rest ih =>
      intro number reader
      unfold writeBack
      rcases answered : Reader.answer (.write (UInt8.ofNat number) page.padded) reader
        with ⟨reply, after⟩
      have asked := Talk.hold_attempt_of (Talk.hold_ask_of answered)
      cases reply with
      | error error =>
          rw [Talk.hold_bind_ok asked]
          exact ⟨false, rfl, .refused number page rest error, conversed_one answered⟩
      | ok value =>
          obtain ⟨passed, value, written, conversed⟩ := ih (number + 1) after
          rw [Talk.hold_bind_ok asked]
          refine ⟨passed, value, .accepted written, congrArg Prod.fst answered, ?_⟩
          rw [show (Reader.answer _ reader).2 = after from congrArg Prod.snd answered]
          exact conversed

theorem hold_probeDirectWrite (reader : σ) :
    let outcome := probeDirectWrite.hold reader
    ∃ passed, outcome.value = .ok passed ∧ Probed outcome.exchanges passed ∧
      Conversed reader outcome.exchanges outcome.reader := by
  unfold probeDirectWrite
  rw [Talk.hold_bind_ok (Talk.hold_report _ _)]
  rcases answered : Reader.answer (.read 0) reader with ⟨reply, after⟩
  have asked := Talk.hold_attempt_of (Talk.hold_ask_of answered)
  cases reply with
  | error error =>
      rw [Talk.hold_bind_ok asked]
      exact ⟨false, rfl, .unreadable error, conversed_one answered⟩
  | ok block =>
      obtain ⟨passed, value, written, conversed⟩ :=
        hold_writeBack [block.p0, block.p1, block.p2] 0 after
      rw [Talk.hold_bind_ok asked]
      refine ⟨passed, value, .shown written, congrArg Prod.fst answered, ?_⟩
      rw [show (Reader.answer _ reader).2 = after from congrArg Prod.snd answered]
      exact conversed

/-- The outcome of halting decides nothing, so the knocks are told apart by
the answers to the two frames that follow. -/
theorem hold_knock (reader : σ) :
    let closed := Reader.close Frame.halt reader
    let outcome := knock.hold reader
    ∃ unlocked, outcome.value = .ok unlocked ∧ Knocks closed.1 outcome.exchanges unlocked ∧
      Conversed closed.2 outcome.exchanges outcome.reader := by
  intro closed
  unfold knock
  rcases halted : Reader.answer (.bytes closed.1) closed.2 with ⟨halting, asleep⟩
  rw [Talk.hold_bind_ok (Talk.hold_attempt_of (RawMode.hold_sendFrame halted))]
  rcases first : Reader.answer (.bits Frame.unlock1 Frame.unlockBits1) asleep with ⟨reply, knocked⟩
  have halts := conversed_one halted
  have sent := conversed_one first
  cases reply with
  | error error =>
      rw [Talk.hold_bind_ok (Talk.hold_attempt_of (RawMode.hold_sendBits first))]
      exact ⟨false, rfl, .unheard halting error, conversed_append.mpr ⟨asleep, halts, sent⟩⟩
  | ok answer =>
      rw [Talk.hold_bind_ok (Talk.hold_attempt_of (RawMode.hold_sendBits first))]
      rcases second : Reader.answer (.bytes Frame.unlock2) knocked with ⟨last, after⟩
      have all : Conversed closed.2 [⟨.bytes closed.1, halting⟩, ⟨.bits [0x40] 7, .ok answer⟩,
          ⟨.bytes [0x43], last⟩] after :=
        conversed_append.mpr
          ⟨asleep, halts, conversed_append.mpr ⟨knocked, sent, conversed_one second⟩⟩
      dsimp only
      rw [Talk.hold_bind_ok (Talk.hold_attempt_of (RawMode.hold_sendBytes second))]
      cases last with
      | error error => exact ⟨false, rfl, .heard halting answer (.error error), all⟩
      | ok value => exact ⟨true, rfl, .heard halting answer (.ok value), all⟩

theorem hold_unlockBackdoor (reader : σ) :
    let outcome := unlockBackdoor.hold reader
    BackDoor reader outcome.exchanges outcome.reader outcome.value := by
  unfold unlockBackdoor
  rcases first : Reader.answer (.setProperty .handleCrc false) reader with ⟨error | _, between⟩
  · rw [Talk.hold_bind_error (RawMode.hold_enter_refused first)]
    exact .refused (conversed_one first)
  rcases second : Reader.answer (.setProperty .easyFraming false) between with ⟨error | _, inside⟩
  · rcases undone : Reader.answer (.setProperty .handleCrc true) inside with ⟨back, after⟩
    rw [Talk.hold_bind_error (RawMode.hold_enter_undone first second undone)]
    refine .undone (conversed_append.mpr ⟨between, conversed_one first, ?_⟩)
    exact conversed_append.mpr ⟨inside, conversed_one second, conversed_one undone⟩
  -- raw mode is entered, and the knocks end without a failure
  have entered : Conversed reader switchedOff inside :=
    conversed_append.mpr ⟨between, conversed_one first, conversed_one second⟩
  obtain ⟨unlocked, value, knocks, sent⟩ := hold_knock inside
  rcases held : knock.hold inside with ⟨result, knocked, events⟩
  rw [held] at value knocks sent
  obtain rfl : result = .ok unlocked := value
  rcases third : Reader.answer (.setProperty .handleCrc true) knocked with ⟨crc, framed⟩
  rcases fourth : Reader.answer (.setProperty .easyFraming true) framed with ⟨framing, after⟩
  have left : Conversed (Reader.close Frame.halt inside).2
      (Dialogue.Event.exchanges events ++ askedBack crc framing) after :=
    conversed_append.mpr
      ⟨knocked, sent, conversed_append.mpr ⟨framed, conversed_one third, conversed_one fourth⟩⟩
  have ended : (RawMode.leave >>= fun _ => pure unlocked).hold knocked =
      ⟨do crc; framing; pure unlocked, after,
        (askedBack crc framing).map Dialogue.Event.exchange⟩ := by
    have leaving := RawMode.hold_leave third fourth
    cases crc with
    | error error => exact Talk.hold_bind_error leaving _
    | ok value =>
        cases framing with
        | error error => exact Talk.hold_bind_error leaving _
        | ok value => exact Talk.hold_bind_ok leaving _
  rw [Talk.hold_bind_ok (RawMode.hold_enter first second), Talk.hold_bind_ok held, ended]
  show BackDoor reader (switchedOff ++ Dialogue.Event.exchanges (events ++ _)) after _
  rw [Dialogue.Event.exchanges_append, ← List.append_assoc]
  exact .held entered rfl knocks left

theorem ensureWritable_takesCourse (reader : σ) :
    let outcome := ensureWritable.hold reader
    UnlockCourse reader outcome.exchanges outcome.reader outcome.value := by
  unfold ensureWritable
  obtain ⟨passed, value, probed, conversed⟩ := hold_probeDirectWrite reader
  rcases held : probeDirectWrite.hold reader with ⟨result, between, events⟩
  rw [held] at value probed conversed
  obtain rfl : result = .ok passed := value
  rw [Talk.hold_bind_ok held]
  cases passed with
  | true =>
      show UnlockCourse reader (Dialogue.Event.exchanges (events ++ _)) between (.ok true)
      rw [Dialogue.Event.exchanges_append]
      show UnlockCourse reader (Dialogue.Event.exchanges events ++ []) between (.ok true)
      rw [List.append_nil]
      exact .direct probed conversed
  | false =>
      show UnlockCourse reader (Dialogue.Event.exchanges (events ++ _)) _ _
      rw [Dialogue.Event.exchanges_append]
      exact .backDoor probed conversed (hold_unlockBackdoor between)

end

/-! ## §3. What the last exchanges tell. -/

/-- The last frame was the byte that opens the door, it was answered, and raw
mode was left. -/
def Opened (trace : List Exchange) : Prop :=
  ∃ answer, ⟨.bytes [0x43], .ok answer⟩ :: askedBack (.ok ()) (.ok ()) <:+ trace

/-- The last frame was one of the two knocks, it was not answered, and raw
mode was left. -/
def StayedShut (trace : List Exchange) : Prop :=
  ∃ error, ⟨.bits [0x40] 7, .error error⟩ :: askedBack (.ok ()) (.ok ()) <:+ trace ∨
    ⟨.bytes [0x43], .error error⟩ :: askedBack (.ok ()) (.ok ()) <:+ trace

/-- A change of a property was refused with this error. -/
def ChangeRefused (error : Error) (trace : List Exchange) : Prop :=
  ∃ property enable, ⟨.setProperty property enable, .error error⟩ ∈ trace

/-- A result is what the exchanges say: a yes of the probe or of the back
door, a no of the back door, and an error only if a property was not
changed. -/
structure Verdict (trace : List Exchange) (result : Except Error Bool) : Prop where
  yes : result = .ok true ↔ Probed trace true ∨ Opened trace
  no : result = .ok false ↔ StayedShut trace
  refused : ∀ error, result = .error error → ChangeRefused error trace
  failed : ∀ error, ChangeRefused error trace → ∃ first, result = .error first

variable {trace before probe frames visit : List Exchange} {made knock : Exchange} {passed : Bool}

theorem WrittenBack.framed {number : Nat} {pages : List Page}
    (h : WrittenBack number pages trace passed) : ∀ made ∈ trace, made.request.isFramed = true := by
  induction h with
  | done number => intro made hmade; cases hmade
  | refused number page rest error => exact List.forall_mem_singleton.mpr rfl
  | accepted _ ih => exact List.forall_mem_cons.mpr ⟨rfl, ih⟩

theorem Probed.framed (h : Probed probe passed) :
    ∀ made ∈ probe, made.request.isFramed = true := by
  cases h with
  | unreadable error => exact List.forall_mem_singleton.mpr rfl
  | shown writes => exact List.forall_mem_cons.mpr ⟨rfl, writes.framed⟩

/-- No property is changed where everything is framed. -/
theorem not_changeRefused_of_framed (framed : ∀ made ∈ trace, made.request.isFramed = true)
    (error : Error) : ¬ ChangeRefused error trace := by
  rintro ⟨property, enable, listed⟩
  cases framed _ listed

/-- A traffic that ends with both switches back ends with the second one. -/
theorem last_of_askedBack
    (h : knock :: askedBack (.ok ()) (.ok ()) <:+ before ++ [made]) :
    made = ⟨.setProperty .easyFraming true, .ok ()⟩ := by
  have ends : [⟨.setProperty .easyFraming true, .ok ()⟩] <:+ before ++ [made] :=
    (List.suffix_append [knock, _] _).trans h
  obtain ⟨lead, same⟩ := ends
  exact (List.cons.inj (List.append_inj_right' same rfl)).1.symm

/-- A traffic that does not end so tells of a failure only. -/
theorem verdict_of_refused {error : Error} (unprobed : ¬ Probed (before ++ [made]) true)
    (other : made ≠ ⟨.setProperty .easyFraming true, .ok ()⟩)
    (refused : ChangeRefused error (before ++ [made])) :
    Verdict (before ++ [made]) (.error error) := by
  have shut : ¬ Opened (before ++ [made]) := by
    rintro ⟨answer, ended⟩
    exact other (last_of_askedBack ended)
  have unheard : ¬ StayedShut (before ++ [made]) := by
    rintro ⟨first, ended | ended⟩
    · exact other (last_of_askedBack ended)
    · exact other (last_of_askedBack ended)
  constructor
  · simp [unprobed, shut]
  · simp [unheard]
  · intro first same
    cases same
    exact refused
  · exact fun _ _ => ⟨error, rfl⟩

/-- The last frame before the switches is told by the end of a traffic. -/
theorem askedBack_suffix {crc framing : Except Error Unit} :
    made :: askedBack (.ok ()) (.ok ()) <:+ before ++ knock :: askedBack crc framing ↔
      made = knock ∧ crc = .ok () ∧ framing = .ok () := by
  constructor
  · rintro ⟨lead, ends⟩
    have same := List.append_inj_right' ends rfl
    simp only [askedBack, List.cons.injEq, Exchange.mk.injEq, heq_eq_eq, true_and, and_true] at same
    exact ⟨same.1, same.2.1.symm, same.2.2.symm⟩
  · rintro ⟨rfl, rfl, rfl⟩
    exact List.suffix_append before _

/-- The last frame sent is the one that decides. -/
theorem Knocks.last {halt : Bytes} {unlocked : Bool} (h : Knocks halt frames unlocked) :
    ∃ lead last, frames = lead ++ [last] ∧
      (unlocked = true ↔ ∃ answer, ⟨.bytes [0x43], .ok answer⟩ = last) ∧
      (unlocked = false ↔ ∃ error, ⟨.bits [0x40] 7, .error error⟩ = last ∨
        ⟨.bytes [0x43], .error error⟩ = last) ∧
      ∀ made ∈ frames, made.request.isFrame = true := by
  cases h with
  | unheard halted error =>
      refine ⟨[_], _, rfl, by simp, by simp, ?_⟩
      simp [Request.isFrame]
  | heard halted answer second =>
      refine ⟨[_, _], _, rfl, ?_, ?_, by simp [Request.isFrame]⟩
      · cases second <;> simp [Except.isOk, Except.toBool]
      · cases second <;> simp [Except.isOk, Except.toBool]

/-- Only if both switches are back is there a yes or a no. -/
theorem leaving_eq_ok {crc framing : Except Error Unit} {unlocked answer : Bool} :
    (do crc; framing; pure unlocked) = (.ok answer : Except Error Bool) ↔
      unlocked = answer ∧ crc = .ok () ∧ framing = .ok () := by
  cases crc <;> cases framing <;> simp [bind, Except.bind, pure, Except.pure]

theorem leaving_eq_error {crc framing : Except Error Unit} {unlocked : Bool} {error : Error}
    (h : (do crc; framing; pure unlocked) = (.error error : Except Error Bool)) :
    crc = .error error ∨ framing = .error error := by
  cases crc with
  | error first =>
      cases h
      exact .inl rfl
  | ok value =>
      cases framing with
      | error first =>
          cases h
          exact .inr rfl
      | ok value => cases h

variable {σ : Type} [Reader σ] {reader after : σ} {result : Except Error Bool}

/-- A visit to the back door begins with a switch. -/
theorem BackDoor.unframed (h : BackDoor reader visit after result) :
    ∃ made ∈ visit, made.request.isFramed = false := by
  cases h with
  | refused _ => exact ⟨_, List.mem_cons_self, rfl⟩
  | undone _ => exact ⟨_, List.mem_cons_self, rfl⟩
  | held _ _ _ _ => exact ⟨_, List.mem_cons_self, rfl⟩

theorem BackDoor.verdict (h : BackDoor reader visit after result) (probed : Probed probe false) :
    Verdict (probe ++ visit) result := by
  -- the probe writes and reads only, so it is not all that was exchanged
  have unprobed : ¬ Probed (probe ++ visit) true := by
    intro all
    obtain ⟨made, listed, unframed⟩ := h.unframed
    rw [all.framed made (List.mem_append_right probe listed)] at unframed
    cases unframed
  cases h with
  | @refused _ error _ =>
      apply verdict_of_refused unprobed
      · simp
      · exact ⟨.handleCrc, false, by simp⟩
  | @undone _ error back _ =>
      let switched : List Exchange := [⟨.setProperty .handleCrc false, .ok ()⟩,
        ⟨.setProperty .easyFraming false, .error error⟩]
      have split : probe ++ (switched ++ [⟨.setProperty .handleCrc true, back⟩]) =
          (probe ++ switched) ++ [⟨.setProperty .handleCrc true, back⟩] :=
        (List.append_assoc probe switched _).symm
      show Verdict (probe ++ (switched ++ _)) _
      rw [split]
      apply verdict_of_refused (split ▸ unprobed)
      · simp
      · exact ⟨.easyFraming, false, by simp [switched]⟩
  | @held inside closing _ halt frames unlocked crc framing _ _ knocks _ =>
      obtain ⟨lead, last, rfl, heard, unheard, sent⟩ := knocks.last
      have split : probe ++ (switchedOff ++ (lead ++ [last]) ++ askedBack crc framing) =
          (probe ++ switchedOff ++ lead) ++ last :: askedBack crc framing := by simp
      -- raw mode was entered and frames were sent, so only leaving can be refused
      have leaving : ∀ error, ChangeRefused error
          (probe ++ (switchedOff ++ (lead ++ [last]) ++ askedBack crc framing)) ↔
            crc = .error error ∨ framing = .error error := by
        intro error
        constructor
        · rintro ⟨property, enable, listed⟩
          rcases List.mem_append.mp listed with early | later
          · cases probed.framed _ early
          · rcases List.mem_append.mp later with inside | back
            · rcases List.mem_append.mp inside with entered | frame
              · simp [switchedOff] at entered
              · cases sent _ frame
            · rcases List.mem_cons.mp back with first | second
              · cases first
                exact .inl rfl
              · cases List.mem_singleton.mp second
                exact .inr rfl
        · rintro (rfl | rfl)
          · exact ⟨.handleCrc, true, by simp [askedBack]⟩
          · exact ⟨.easyFraming, true, by simp [askedBack]⟩
      rw [split] at unprobed leaving ⊢
      constructor
      · rw [leaving_eq_ok, heard]
        simp only [unprobed, false_or, Opened, askedBack_suffix, exists_and_right]
      · rw [leaving_eq_ok, unheard]
        simp only [StayedShut, askedBack_suffix, ← or_and_right, exists_and_right]
      · intro error same
        exact (leaving error).mpr (leaving_eq_error same)
      · intro error refused
        -- with an error of either switch there is no yes and no no
        cases ended : (do crc; framing; pure unlocked : Except Error Bool) with
        | error first => exact ⟨first, rfl⟩
        | ok answer =>
            obtain ⟨-, rfl, rfl⟩ := leaving_eq_ok.mp ended
            rcases (leaving error).mp refused with switched | switched <;> cases switched

/-- **The exchanges tell the result.** -/
theorem UnlockCourse.verdict (h : UnlockCourse reader trace after result) :
    Verdict trace result := by
  cases h with
  | backDoor probed _ door => exact door.verdict probed
  | direct probed _ =>
      -- nothing but READ and WRITEs, so no switch was turned
      have unswitched : ∀ knock, ¬ knock :: askedBack (.ok ()) (.ok ()) <:+ trace := by
        intro knock ended
        have listed := ended.subset (List.mem_cons_of_mem knock List.mem_cons_self)
        cases probed.framed _ listed
      constructor
      · simp [probed]
      · simp [StayedShut, unswitched]
      · exact fun error same => by cases same
      · exact fun error refused => absurd refused (not_changeRefused_of_framed probed.framed error)

/-- **What making the UID pages writable asks.**  Whatever a reader answers, it
is asked for page 0; if that is shown, for WRITEs of pages 0 to 2 as they were
shown, up to the first one refused; and unless all of them are accepted, for
one visit to the back door.  The result is yes if the probe passed, or if the
byte that opens the door was answered and raw mode was left; no if a knock was
not answered and raw mode was left; and an error exactly if a property was not
changed. -/
theorem ensureWritable_traffic {σ : Type} [Reader σ] (reader : σ) :
    let outcome := ensureWritable.hold reader
    UnlockCourse reader outcome.exchanges outcome.reader outcome.value ∧
      Verdict outcome.exchanges outcome.value := by
  have course := ensureWritable_takesCourse reader
  exact ⟨course, course.verdict⟩

end Ultralight.Session
