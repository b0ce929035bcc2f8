/-
  Ultralight.Proofs.OneTimeMemory
  ───────────────────────────────
  **What no command changes of a tag whose back door is shut.**

  The UID pages are fixed, and the bits of the lock and OTP bytes can only be
  set (`KeepsFixed`).  The one exception is a WRITE to a clone whose back door
  is open, and whether it is open is a matter of what was asked before:

    • `DoorOpened` says of a traffic that, since the last selection that found
      a tag, both knocks at the back door were answered, in order,
    • `Doorkeeping` ties the flags of a tag to the traffic that it has seen,
      and every answer keeps it (`Doorkeeping.answer`),
    • so each exchange keeps the fixed bytes or is such a WRITE
      (`Doorkeeping.encounter`), and a dialogue without such a WRITE keeps them
      from its start to its end (`Doorkeeping.run`).

  `one_time_memory` says so of every dialogue with a tag as it was made.
-/
import Ultralight.Proofs.ExcludedTag
import Ultralight.Proofs.RawScope

namespace Ultralight

/-! ## §1. What a traffic says of a back door. -/

namespace Exchange

/-- The first knock at a back door was answered: a frame of seven bits. -/
def knocks : Exchange → Bool
  | ⟨.bits frame count, .ok _⟩ =>
      count == Frame.unlockBits1 && frame.head? == some Frame.unlockCode1
  | _ => false

/-- The second knock was answered: a frame of one byte. -/
def opensDoor : Exchange → Bool
  | ⟨.bytes frame, .ok _⟩ => frame == Frame.unlock2
  | _ => false

/-- A selection found a tag, or a listing showed one. -/
def selects : Exchange → Bool
  | ⟨.select _, .ok (some _)⟩ => true
  | ⟨.list _, .ok (_ :: _)⟩ => true
  | _ => false

end Exchange

/-- Something was exchanged, after the exchanges that it is told of with it,
and no tag was selected since. -/
def SinceSelected (P : List Exchange → Exchange → Prop) (past : List Exchange) : Prop :=
  ∃ before made since, past = before ++ made :: since ∧ P before made ∧
    ∀ later ∈ since, later.selects = false

/-- The first knock was answered since the last selection. -/
def Knocked : List Exchange → Prop := SinceSelected fun _ made => made.knocks = true

/-- The checksums are off after these exchanges, if they were on before. -/
def CrcOff (past : List Exchange) : Prop :=
  (past.foldl Exchange.turned (true, true)).1 = false

/-- The first knock and, after it and with the checksums off, the second one
were answered since the last selection. -/
def DoorOpened : List Exchange → Prop :=
  SinceSelected fun before made => Knocked before ∧ CrcOff before ∧ made.opensDoor = true

namespace SinceSelected

variable {P : List Exchange → Exchange → Prop} {past : List Exchange} {made : Exchange}

theorem here (h : P past made) : SinceSelected P (past ++ [made]) :=
  ⟨past, made, [], rfl, h, nofun⟩

/-- What does not select lets it stand. -/
theorem later (h : SinceSelected P past) (unselected : made.selects = false) :
    SinceSelected P (past ++ [made]) := by
  obtain ⟨before, first, since, rfl, holds, still⟩ := h
  refine ⟨before, first, since ++ [made], by simp, holds, fun next listed => ?_⟩
  rcases List.mem_append.mp listed with earlier | last
  · exact still next earlier
  · rw [List.mem_singleton.mp last]
    exact unselected

end SinceSelected

/-! ## §2. Bytes that can only be set. -/

/-- A bit that is set stays set. -/
theorem and_or_self_byte (old new : UInt8) : old &&& (old ||| new) = old := by
  apply UInt8.eq_of_toBitVec_eq
  ext i
  simpa using Or.inl

theorem and_trans_byte {a b c : UInt8} (first : a &&& b = a) (second : b &&& c = b) :
    a &&& c = a := by
  rw [← first, UInt8.and_assoc, second]

/-- What may become of page `p` while the UID pages are closed. -/
structure KeepsFixed (p : Nat) (old new : Page) : Prop where
  /-- Pages 0 and 1 do not change. -/
  uid : p < firstDataPage → new = old
  /-- Neither do the first two bytes of the lock page. -/
  check : p = lockPage → new.b0 = old.b0 ∧ new.b1 = old.b1
  /-- No bit of its other two bytes is cleared. -/
  lock : p = lockPage → old.b2 &&& new.b2 = old.b2 ∧ old.b3 &&& new.b3 = old.b3
  /-- No bit of the OTP page is cleared. -/
  otp : p = otpPage → old.b0 &&& new.b0 = old.b0 ∧ old.b1 &&& new.b1 = old.b1 ∧
    old.b2 &&& new.b2 = old.b2 ∧ old.b3 &&& new.b3 = old.b3

namespace KeepsFixed

variable {p : Nat} {old new last : Page}

theorem refl (p : Nat) (page : Page) : KeepsFixed p page page where
  uid _ := rfl
  check _ := ⟨rfl, rfl⟩
  lock _ := ⟨UInt8.and_self, UInt8.and_self⟩
  otp _ := ⟨UInt8.and_self, UInt8.and_self, UInt8.and_self, UInt8.and_self⟩

theorem trans (first : KeepsFixed p old new) (second : KeepsFixed p new last) :
    KeepsFixed p old last where
  uid h := (second.uid h).trans (first.uid h)
  check h := ⟨(second.check h).1.trans (first.check h).1, (second.check h).2.trans (first.check h).2⟩
  lock h := ⟨and_trans_byte (first.lock h).1 (second.lock h).1,
    and_trans_byte (first.lock h).2 (second.lock h).2⟩
  otp h := by
    obtain ⟨a0, a1, a2, a3⟩ := first.otp h
    obtain ⟨b0, b1, b2, b3⟩ := second.otp h
    exact ⟨and_trans_byte a0 b0, and_trans_byte a1 b1, and_trans_byte a2 b2, and_trans_byte a3 b3⟩

/-- Merging a page with what is there keeps what is fixed of it. -/
theorem merged (later : firstDataPage ≤ p) (old new : Page) :
    KeepsFixed p old (SimulatedTag.merged p old new) where
  uid h := absurd h (Nat.not_lt.mpr later)
  check h := by
    subst h
    exact ⟨rfl, rfl⟩
  lock h := by
    subst h
    exact ⟨and_or_self_byte _ _, and_or_self_byte _ _⟩
  otp h := by
    subst h
    exact ⟨and_or_self_byte _ _, and_or_self_byte _ _, and_or_self_byte _ _, and_or_self_byte _ _⟩

end KeepsFixed

namespace SimulatedTag

/-- What is fixed of the memory of a tag is kept. -/
def OneTime (tag after : SimulatedTag) : Prop :=
  ∀ p, KeepsFixed p (tag.page p) (after.page p)

variable {tag after last : SimulatedTag} {past : List Exchange}

theorem OneTime.trans (first : OneTime tag after) (second : OneTime after last) :
    OneTime tag last :=
  fun p => (first p).trans (second p)

theorem oneTime_of_contents (h : after.contents = tag.contents) : OneTime tag after := by
  intro p
  rw [page_eq_of_contents h]
  exact .refl p _

/-- A WRITE keeps what is fixed while the UID pages are closed. -/
theorem oneTime_writePage (closed : tag.uidWritable = false) (number : UInt8) (data : Page) :
    OneTime tag (tag.writePage number data).2 := by
  rcases writePage_closed closed number data with ⟨_, _, _, held⟩ | ⟨later, held⟩
  · rw [held]
    exact oneTime_of_contents rfl
  · rw [held]
    intro q
    rw [page_setPage]
    split
    · next stored =>
      obtain ⟨rfl, -⟩ := stored
      exact .merged later _ _
    · exact .refl q _

/-! ## §3. The flags of a tag and the traffic that it has seen. -/

/-- Whether the first knock was answered, and whether the door is open. -/
def door (tag : SimulatedTag) : Bool × Bool := (tag.armed, tag.unlocked)

/-- The traffic so far accounts for the switches and the door of a tag. -/
structure Doorkeeping (past : List Exchange) (tag : SimulatedTag) : Prop where
  switches : tag.switches = past.foldl Exchange.turned (true, true)
  knocked : tag.armed = true → Knocked past
  opened : tag.unlocked = true → DoorOpened past

namespace Doorkeeping

theorem switches_append (keeping : Doorkeeping past tag) {made : Exchange}
    (turned : after.switches = made.turned tag.switches) :
    after.switches = (past ++ [made]).foldl Exchange.turned (true, true) := by
  rw [turned, keeping.switches, List.foldl_append]
  rfl

/-- An exchange that neither selects nor touches the door. -/
theorem kept (keeping : Doorkeeping past tag) {made : Exchange}
    (turned : after.switches = made.turned tag.switches) (unselected : made.selects = false)
    (same : after.door = tag.door) : Doorkeeping (past ++ [made]) after where
  switches := keeping.switches_append turned
  knocked h := (keeping.knocked ((congrArg Prod.fst same).symm.trans h)).later unselected
  opened h := (keeping.opened ((congrArg Prod.snd same).symm.trans h)).later unselected

/-- A selection shuts the door, or finds no tag. -/
theorem select (keeping : Doorkeeping past tag) {made : Exchange} {wanted : Option Uid}
    (turned : (tag.select wanted).2.switches = made.turned tag.switches)
    (found : made.selects = true → ∃ target, (tag.select wanted).1 = .ok (some target)) :
    Doorkeeping (past ++ [made]) (tag.select wanted).2 := by
  rcases tag.select_cases wanted with ⟨reply, faults, held, -, missing⟩ | ⟨-, held⟩
  · have unselected : made.selects = false := by
      cases selected : made.selects with
      | false => rfl
      | true =>
          obtain ⟨target, same⟩ := found selected
          rw [held] at same
          exact absurd same (missing target)
    rw [held] at turned ⊢
    exact keeping.kept turned unselected rfl
  · rw [held] at turned ⊢
    exact ⟨keeping.switches_append turned, nofun, nofun⟩

/-- **Every answer keeps the account**: the two knocks open the door, and
selections shut it. -/
theorem answer (keeping : Doorkeeping past tag) (request : Request) :
    Doorkeeping (past ++ [⟨request, (Reader.answer request tag).1⟩])
      (Reader.answer request tag).2 := by
  have turned := switches_answer request tag
  cases request with
  | init => exact keeping.kept turned rfl rfl
  | setProperty property enable =>
      obtain ⟨_, _, _, held⟩ := tag.setProperty_cases property enable
      exact keeping.kept turned rfl (congrArg (fun step => door step.2) held)
  | select wanted =>
      refine keeping.select turned fun selected => ?_
      rcases held : (Reader.answer (.select wanted) tag).1 with error | _ | target <;>
        rw [held] at selected
      · cases selected
      · cases selected
      · exact ⟨target, held⟩
  | list most =>
      rcases tag.list_cases most with held | held
      · have same : Reader.answer (.list most) tag = (.ok [], tag) := held
        rw [same] at turned ⊢
        exact keeping.kept turned rfl rfl
      · have same : Reader.answer (.list most) tag =
          ((tag.select none).1.map Option.toList, (tag.select none).2) := held
        rw [same] at turned ⊢
        refine keeping.select turned fun selected => ?_
        rcases found : (tag.select none).1 with error | _ | target <;> rw [found] at selected
        · cases selected
        · cases selected
        · exact ⟨target, rfl⟩
  | bits frame count =>
      rcases tag.exchangeBits_cases frame count with ⟨-, held⟩ | held
      · have same : Reader.answer (.bits frame count) tag =
          (.ok [Frame.ack], { tag with armed := true }) := held
        obtain ⟨bits, code⟩ := of_exchangeBits_ok held
        rw [same] at turned ⊢
        refine ⟨keeping.switches_append turned, fun _ => .here ?_, fun set =>
          (keeping.opened set).later rfl⟩
        simp [Exchange.knocks, bits, code]
      · exact keeping.kept turned rfl (congrArg (fun step => door step.2) held)
  | bytes frame =>
      rcases tag.exchangeBytes_cases frame with ⟨rfl, armed, held⟩ | ⟨_, _, held, -⟩
      · have same : Reader.answer (.bytes Frame.unlock2) tag =
          (.ok [Frame.ack], { tag with armed := false, unlocked := true, halted := false }) := held
        have off : CrcOff past := (congrArg Prod.fst keeping.switches).symm.trans
          (of_exchangeBytes_unlock2 held)
        rw [same] at turned ⊢
        exact ⟨keeping.switches_append turned, nofun, fun _ =>
          .here ⟨keeping.knocked armed, off, rfl⟩⟩
      · exact keeping.kept turned rfl (congrArg (fun step => door step.2) held)
  | read page =>
      obtain ⟨_, _, _, held⟩ := tag.readBlock_cases page
      exact keeping.kept turned rfl (congrArg (fun step => door step.2) held)
  | write page data =>
      rcases tag.writePage_cases page data.p0 with ⟨_, _, _, held⟩ | held | held <;>
        exact keeping.kept turned rfl (congrArg (fun step => door step.2) held)

/-- Closing a frame is no exchange. -/
theorem close (keeping : Doorkeeping past tag) (frame : Bytes) :
    Doorkeeping past (Reader.close frame tag).2 :=
  ⟨keeping.switches, keeping.knocked, keeping.opened⟩

/-- **One exchange** keeps what is fixed, or is a WRITE through an open
door. -/
theorem exchange (keeping : Doorkeeping past tag) (shut : tag.magic ≠ .directWrite)
    (request : Request) :
    OneTime tag (Reader.answer request tag).2 ∨
      (request.isWrite = true ∧ tag.magic = .backdoor ∧ DoorOpened past) := by
  cases written : request.isWrite with
  | false => exact .inl (oneTime_of_contents (contents_answer written tag))
  | true =>
      cases request with
      | write page data =>
          cases closed : tag.uidWritable with
          | false => exact .inl (oneTime_writePage closed page data.p0)
          | true =>
              -- only the back door of a clone is left to have opened them
              unfold uidWritable at closed
              split at closed
              · cases closed
              · next direct => exact absurd direct shut
              · next backdoor => exact .inr ⟨rfl, backdoor, keeping.opened closed⟩
      | _ => cases written

end Doorkeeping

/-! ## §4. Dialogues. -/

theorem magic_answer (request : Request) (tag : SimulatedTag) :
    (Reader.answer request tag).2.magic = tag.magic :=
  congrArg Prod.snd (nature_answer request tag)

/-- Every exchange of a dialogue keeps what is fixed, or is a WRITE through a
door that the exchanges before it opened. -/
theorem Doorkeeping.encounter {α : Type} (dialogue : Dialogue α) (keeping : Doorkeeping past tag)
    (shut : tag.magic ≠ .directWrite) {before more : List (SimulatedTag × Exchange)}
    {met : SimulatedTag} {made : Exchange}
    (split : dialogue.encounters tag = before ++ (met, made) :: more) :
    OneTime met (Reader.answer made.request met).2 ∨
      (made.request.isWrite = true ∧ tag.magic = .backdoor ∧
        DoorOpened (past ++ before.map Prod.snd)) := by
  induction dialogue generalizing tag past before with
  | done value => exact absurd split.symm (by simp [Dialogue.encounters])
  | ask request next ih =>
      rcases before with _ | ⟨first, before⟩
      · obtain ⟨here, -⟩ := List.cons.inj split
        obtain ⟨rfl, rfl⟩ := Prod.mk.inj here
        simpa using keeping.exchange shut request
      · obtain ⟨rfl, later⟩ := List.cons.inj split
        have same := magic_answer request tag
        have rest := ih _ (keeping.answer request) (by rw [same]; exact shut) later
        rw [same, List.append_assoc] at rest
        exact rest
  | close frame next ih => exact ih _ (keeping.close frame) shut split
  | report notice rest ih => exact ih keeping shut split
  | pause milliseconds rest ih => exact ih keeping shut split

/-- A dialogue without a WRITE through an open door keeps what is fixed from
its start to its end. -/
theorem Doorkeeping.run {α : Type} (dialogue : Dialogue α) (keeping : Doorkeeping past tag)
    (shut : tag.magic ≠ .directWrite)
    (never : ∀ before made more, (dialogue.run tag).exchanges = before ++ made :: more →
      made.request.isWrite = true → tag.magic = .backdoor → ¬ DoorOpened (past ++ before)) :
    OneTime tag (dialogue.run tag).reader := by
  induction dialogue generalizing tag past with
  | done value => exact oneTime_of_contents rfl
  | ask request next ih =>
      have same := magic_answer request tag
      have first : OneTime tag (Reader.answer request tag).2 := by
        rcases keeping.exchange shut request with kept | ⟨written, backdoor, opened⟩
        · exact kept
        · have closed := never [] _ _ rfl written backdoor
          rw [List.append_nil] at closed
          exact absurd opened closed
      refine first.trans (ih _ (keeping.answer request) (by rw [same]; exact shut) ?_)
      intro before made more split written backdoor
      rw [List.append_assoc]
      exact never (_ :: before) made more (congrArg (List.cons _) split) written
        (same ▸ backdoor)
  | close frame next ih => exact ih _ (keeping.close frame) shut never
  | report notice rest ih => exact ih keeping shut never
  | pause milliseconds rest ih => exact ih keeping shut never

/-- A tag as it was made: its door is shut, and the switches of its reader are
on. -/
structure AsMade (tag : SimulatedTag) : Prop where
  switches : tag.switches = (true, true)
  unarmed : tag.armed = false
  locked : tag.unlocked = false

/-- What is fixed along a dialogue with a tag. -/
structure KeepsOneTime {α : Type} (tag : SimulatedTag) (dialogue : Dialogue α) : Prop where
  /-- Each exchange keeps what is fixed, or is a WRITE to a clone whose back
  door the exchanges before it opened. -/
  exchange : ∀ before met made more, dialogue.encounters tag = before ++ (met, made) :: more →
    OneTime met (Reader.answer made.request met).2 ∨
      (made.request.isWrite = true ∧ tag.magic = .backdoor ∧ DoorOpened (before.map Prod.snd))
  /-- Without such a WRITE the whole dialogue keeps what is fixed. -/
  whole : (∀ before made more, (dialogue.run tag).exchanges = before ++ made :: more →
      made.request.isWrite = true → tag.magic = .backdoor → ¬ DoorOpened before) →
    OneTime tag (dialogue.run tag).reader

/-- **UID and one-time memory.**  Of a tag as it was made that takes no direct
writes, whatever it holds and whatever goes wrong: no dialogue changes the
UID pages or clears a bit of the lock and OTP bytes, except by a WRITE through
a back door that was opened since the last selection.  So does no sequence of
operations of a session. -/
theorem one_time_memory {tag : SimulatedTag} (made : tag.AsMade)
    (shut : tag.magic ≠ .directWrite) :
    (∀ (α : Type) (dialogue : Dialogue α), KeepsOneTime tag dialogue) ∧
    ∀ (operations : List Session.Operation) (session : Session),
      KeepsOneTime tag ((Session.performAll operations).dialogue session) := by
  have keeping : Doorkeeping [] tag :=
    { switches := made.switches
      knocked := fun armed => absurd armed (by rw [made.unarmed]; exact Bool.false_ne_true)
      opened := fun unlocked => absurd unlocked (by rw [made.locked]; exact Bool.false_ne_true) }
  have all : ∀ (α : Type) (dialogue : Dialogue α), KeepsOneTime tag dialogue :=
    fun α dialogue =>
      ⟨fun before met made more split => keeping.encounter dialogue shut split,
        keeping.run dialogue shut⟩
  exact ⟨all, fun operations session => all _ _⟩

/-- A clone with a back door, read and written by a session. -/
theorem one_time_memory_clone :
    let tag := { fresh .ntag213 with magic := .backdoor }
    tag.AsMade ∧ tag.magic ≠ .directWrite ∧
      KeepsOneTime tag ((Session.performAll [.select, .detectVariant, .readAll, .writeAll .all]).dialogue
        (Session.fresh .default)) :=
  ⟨⟨rfl, rfl, rfl⟩, by decide, (one_time_memory ⟨rfl, rfl, rfl⟩ (by decide)).2 _ _⟩

end SimulatedTag

end Ultralight
