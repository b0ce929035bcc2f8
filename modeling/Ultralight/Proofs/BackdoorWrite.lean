/-
  Ultralight.Proofs.BackdoorWrite
  ───────────────────────────────
  **Writing everything to a clone with a back door.**

  The back door is open when the first page is written.  A refused page costs
  more than itself here: the selection that wakes the tag shuts the door, and
  nothing opens it again.  From then on the clone keeps the rules of a genuine
  tag (`SimulatedTag.shutBefore`), which shows on pages 1 to 3 only: page 1 is
  refused, and the lock and OTP bytes can only be set.

  `writeAll_effect_backdoor` says which WRITEs fail, what each page holds
  afterwards, and what is reported.
-/
import Ultralight.Proofs.OpenTag
import Ultralight.Proofs.StoredPages

namespace Ultralight

/-! ## §1. When the door is shut. -/

namespace SimulatedTag

/-- Whether a page before page `p` is refused, so that the back door is shut
when a pass from page 0 on comes to page `p`. -/
def shutBefore (tag : SimulatedTag) (p : Nat) : Bool :=
  (List.range p).any fun q => tag.faults.writes.contains (UInt8.ofNat q)

/-- Whether such a pass fails page `p`: by plan, or since it is page 1 and the
door was shut at page 0. -/
def failsOpened (tag : SimulatedTag) (p : Nat) : Bool :=
  tag.faults.writes.contains (UInt8.ofNat p) || (p == 1 && tag.faults.writes.contains 0)

variable {tag : SimulatedTag} (door : tag.magic = .backdoor) (armed : Bool) (closedFrames : Nat)
  {n p : Nat}

include door

/-- The UID pages are open until the door is shut. -/
theorem opensAt_opened (hp : p < n) :
    (tag.opened armed closedFrames).opensAt (List.range n) p = !tag.shutBefore p := by
  have open0 : (tag.opened armed closedFrames).uidWritable = true := by
    simp [uidWritable, opened, door]
  have shuts : ((tag.opened armed closedFrames).magic != .backdoor) = false := by
    rw [show (tag.opened armed closedFrames).magic = .backdoor from door]
    rfl
  unfold opensAt shutBefore
  rw [open0, shuts, Bool.true_and, Bool.false_or, List.not_any_eq_all_not, Bool.eq_iff_iff,
    List.all_eq_true, List.all_eq_true]
  constructor
  · intro all q hq
    have later : ¬ p ≤ q := Nat.not_le.mpr (List.mem_range.mp hq)
    have := all q (List.mem_range.mpr (by rw [List.mem_range] at hq; omega))
    rwa [decide_eq_false later, Bool.false_or] at this
  · intro all q _
    by_cases later : p ≤ q
    · rw [decide_eq_true later, Bool.true_or]
    · rw [decide_eq_false later, Bool.false_or]
      exact all q (List.mem_range.mpr (by omega))

/-- Of the UID pages only page 1 comes after a page. -/
theorem refusesAt_opened (hp : p < n) :
    (tag.opened armed closedFrames).refusesAt (List.range n) p = tag.failsOpened p := by
  have framed : (tag.opened armed closedFrames).inRawMode = false := rfl
  have faults : (tag.opened armed closedFrames).faults = tag.faults := rfl
  unfold refusesAt refuses failsOpened
  rw [opensAt_opened door armed closedFrames hp, framed, faults, Bool.false_or, Bool.not_not]
  congr 1
  match p with
  | 0 => rfl
  | 1 => simp [shutBefore, firstDataPage]
  | p + 2 =>
      have other : (p + 2 == 1) = false := by simp
      rw [decide_eq_false (by unfold firstDataPage; omega), other, Bool.and_false, Bool.false_and]

/-- Once the door is shut, the lock and OTP bytes are only set. -/
theorem storedAt_opened (hp : p < n) (new : Page) :
    (tag.opened armed closedFrames).storedAt (List.range n) p new =
      let old := tag.page p
      if p = lockPage ∧ tag.shutBefore lockPage then
        ⟨old.b0, old.b1, old.b2 ||| new.b2, old.b3 ||| new.b3⟩
      else if p = otpPage ∧ tag.shutBefore otpPage then
        ⟨old.b0 ||| new.b0, old.b1 ||| new.b1, old.b2 ||| new.b2, old.b3 ||| new.b3⟩
      else new := by
  have pages : (tag.opened armed closedFrames).page p = tag.page p := rfl
  unfold storedAt storing merged
  rw [opensAt_opened door armed closedFrames hp, pages]
  by_cases lock : p = lockPage
  · subst lock
    cases tag.shutBefore lockPage <;> simp [lockPage, otpPage]
  · by_cases otp : p = otpPage
    · subst otp
      cases tag.shutBefore otpPage <;> simp [lockPage, otpPage]
    · simp [lock, otp]

end SimulatedTag

namespace Session

open Dialogue (Outcome)

/-! ## §2. The whole write. -/

/-- The effect of writing everything to a clone with a back door. -/
structure BackdoorEffect (session : Session) (tag : SimulatedTag)
    (outcome : Outcome SimulatedTag (Except Error WriteReport × Session)) : Prop where
  /-- The tag is of the variant it was. -/
  variant : outcome.reader.variant = tag.variant
  /-- A page that fails holds what it held, and any other page the image's,
  except that once the door is shut the lock and OTP bytes are only set. -/
  page : ∀ p, p < tag.variant.pages → outcome.reader.page p =
    let old := tag.page p
    let new := session.image.pageAt p
    if tag.failsOpened p then old
    else if p = lockPage ∧ tag.shutBefore lockPage then
      ⟨old.b0, old.b1, old.b2 ||| new.b2, old.b3 ||| new.b3⟩
    else if p = otpPage ∧ tag.shutBefore otpPage then
      ⟨old.b0 ||| new.b0, old.b1 ||| new.b1, old.b2 ||| new.b2, old.b3 ||| new.b3⟩
    else new
  /-- After what opening took, every page is written once, in order. -/
  verdicts : ((List.range tag.variant.pages).map fun p => (UInt8.ofNat p, !tag.failsOpened p)) <:+
    outcome.exchanges.filterMap Exchange.verdict?
  /-- The write ends well, leaves no page alone, and counts those that fail. -/
  report : outcome.value.1 = .ok
    { pages := tag.variant.pages
      written := (List.range tag.variant.pages).countP (fun p => !tag.failsOpened p)
      skipped := 0
      failed := (List.range tag.variant.pages).countP tag.failsOpened }

section

variable {session : Session} {tag : SimulatedTag} (attached : session.Attached tag)
  (steady : tag.Steady) (door : tag.magic = .backdoor) (switches : tag.faults.property = none)
  (heard : tag.faults.unlock2 = false)

include attached steady door switches heard

/-- Writing everything is a pass over all pages of the opened tag. -/
theorem writeAll_opened :
    let outcome := (writeAll .all).hold session tag
    ∃ armed closedFrames before pass, outcome.exchanges = before ++ pass ∧
      PassEffect (List.range tag.variant.pages) session outcome.value.2
        (tag.opened armed closedFrames) outcome.reader pass ∧
      pass.filterMap Exchange.verdict? =
        (List.range tag.variant.pages).map (fun p => (UInt8.ofNat p, !tag.failsOpened p)) ∧
      outcome.value.1 = .ok
        { pages := tag.variant.pages
          written := (List.range tag.variant.pages).countP (fun p => !tag.failsOpened p)
          skipped := (List.range tag.variant.pages).countP (WritePolicy.all.skips tag.variant)
          failed := (List.range tag.variant.pages).countP tag.failsOpened } := by
  intro outcome
  obtain ⟨armed, closedFrames, events, opens⟩ :=
    ends_openUidPages (show WritePolicy.all.uid = true from rfl) steady door switches heard
  have openAttached : session.Attached (tag.opened armed closedFrames) :=
    ⟨attached.detected, attached.selected, attached.fits⟩
  have openSteady : (tag.opened armed closedFrames).Steady :=
    ⟨⟨steady.found, steady.heard⟩, steady.present, steady.stays⟩
  have planned : plannedPages .all (tag.opened armed closedFrames).variant =
      List.range tag.variant.pages := plannedPages_all tag.variant
  have fails : ∀ p ∈ List.range tag.variant.pages,
      (tag.opened armed closedFrames).refusesAt (List.range tag.variant.pages) p =
        tag.failsOpened p := fun p hp =>
    SimulatedTag.refusesAt_opened door armed closedFrames (List.mem_range.mp hp)
  obtain ⟨effect, verdicts, value⟩ := writePages_passEffect openAttached openSteady rfl .all
    (by rw [planned]; exact fails)
  rw [planned] at effect verdicts value
  have whole : outcome = _ := hold_writeAll_opened opens session
  rw [whole]
  exact ⟨armed, closedFrames, _, _, Outcome.exchanges_precededBy _ _, effect, verdicts, value⟩

theorem page_writeAll_backdoor {p : Nat} (hp : p < tag.variant.pages) :
    ((writeAll .all).hold session tag).reader.page p =
      let old := tag.page p
      let new := session.image.pageAt p
      if tag.failsOpened p then old
      else if p = lockPage ∧ tag.shutBefore lockPage then
        ⟨old.b0, old.b1, old.b2 ||| new.b2, old.b3 ||| new.b3⟩
      else if p = otpPage ∧ tag.shutBefore otpPage then
        ⟨old.b0 ||| new.b0, old.b1 ||| new.b1, old.b2 ||| new.b2, old.b3 ||| new.b3⟩
      else new := by
  obtain ⟨armed, closedFrames, _, _, _, effect, _, _⟩ :=
    writeAll_opened attached steady door switches heard
  rw [effect.page p, SimulatedTag.refusesAt_opened door armed closedFrames hp]
  cases tag.failsOpened p with
  | true => rw [if_neg fun both => absurd both.2 Bool.true_eq_false.mp, if_pos rfl]; rfl
  | false =>
      rw [if_pos ⟨List.mem_range.mpr hp, rfl⟩, if_neg Bool.false_ne_true,
        SimulatedTag.storedAt_opened door armed closedFrames hp]

theorem report_writeAll_backdoor :
    ((writeAll .all).hold session tag).value.1 = .ok
      { pages := tag.variant.pages
        written := (List.range tag.variant.pages).countP (fun p => !tag.failsOpened p)
        skipped := 0
        failed := (List.range tag.variant.pages).countP tag.failsOpened } := by
  obtain ⟨_, _, _, _, _, _, _, value⟩ := writeAll_opened attached steady door switches heard
  rw [value, countP_skips_all]

end

/-- **Writing everything through a back door.**  On a steady clone that was
detected and is the target, and whose reader refuses no property, the write
ends well.  It fails the pages that are refused by plan, and page 1 after page
0. -/
theorem writeAll_effect_backdoor {session : Session} {tag : SimulatedTag}
    (attached : session.Attached tag) (steady : tag.Steady) (door : tag.magic = .backdoor)
    (switches : tag.faults.property = none) (heard : tag.faults.unlock2 = false) :
    BackdoorEffect session tag ((writeAll .all).hold session tag) := by
  obtain ⟨_, _, before, pass, made, effect, verdicts, _⟩ :=
    writeAll_opened attached steady door switches heard
  refine ⟨(SimulatedTag.variant_eq_of_setup effect.setup).trans rfl,
    fun p hp => page_writeAll_backdoor attached steady door switches heard hp, ?_,
    report_writeAll_backdoor attached steady door switches heard⟩
  rw [made, List.filterMap_append, verdicts]
  exact List.suffix_append _ _

/-- A clone that refuses pages 1 and 9: page 0 is written, and of page 3 only
bits are set. -/
theorem writeAll_effect_backdoor_refused :
    let tag := { (SimulatedTag.fresh .ultralight).setPage otpPage ⟨0x0f, 0x00, 0x00, 0x00⟩ with
      magic := .backdoor, halted := false, faults := { Faults.none with writes := [1, 9] } }
    let session : Session :=
      { fresh .default with
        target := some tag.target
        image := (Image.blank .ultralight).overlay 0 (List.replicate 64 0xf0) }
    let outcome := (writeAll .all).hold session tag
    session.Attached tag ∧ tag.Steady ∧ tag.magic = .backdoor ∧ tag.faults.property = none ∧
      tag.faults.unlock2 = false ∧ BackdoorEffect session tag outcome ∧
      outcome.value.1 = .ok { pages := 16, written := 14, skipped := 0, failed := 2 } ∧
      outcome.reader.page 0 = ⟨0xf0, 0xf0, 0xf0, 0xf0⟩ ∧
      outcome.reader.page 1 = ⟨0x03, 0x04, 0x05, 0x06⟩ ∧
      outcome.reader.page 3 = ⟨0xff, 0xf0, 0xf0, 0xf0⟩ ∧
      outcome.reader.page 9 = .zero := by
  intro tag session outcome
  have attached : session.Attached tag := ⟨rfl, rfl, rfl⟩
  have steady : tag.Steady := ⟨⟨rfl, rfl⟩, rfl, rfl⟩
  have effect : BackdoorEffect session tag outcome :=
    writeAll_effect_backdoor attached steady rfl rfl rfl
  refine ⟨attached, steady, rfl, rfl, rfl, effect, ?_, ?_, ?_, ?_, ?_⟩
  · exact effect.report.trans (congrArg Except.ok (by decide))
  · exact (effect.page 0 (by decide)).trans (by decide +kernel)
  · exact (effect.page 1 (by decide)).trans (by decide +kernel)
  · exact (effect.page 3 (by decide)).trans (by decide +kernel)
  · exact (effect.page 9 (by decide)).trans (by decide +kernel)

/-- A refused page may cost others than itself: where only page 0 is refused,
page 1 fails too, and the first bytes of page 2 stay. -/
theorem backdoor_refusal_spreads :
    let tag := { SimulatedTag.fresh .ultralight with
      magic := .backdoor, halted := false, faults := { Faults.none with writes := [0] } }
    let session := { fresh .default with target := some tag.target }
    let outcome := (writeAll .all).hold session tag
    session.Attached tag ∧ tag.Steady ∧ tag.magic = .backdoor ∧ tag.faults.property = none ∧
      tag.faults.unlock2 = false ∧
      outcome.value.1 = .ok { pages := 16, written := 14, skipped := 0, failed := 2 } ∧
      session.image.pageAt 1 = .zero ∧ outcome.reader.page 1 = ⟨0x03, 0x04, 0x05, 0x06⟩ ∧
      session.image.pageAt 2 = .zero ∧ outcome.reader.page 2 = ⟨0x04, 0x48, 0x00, 0x00⟩ := by
  intro tag session outcome
  have attached : session.Attached tag := ⟨rfl, rfl, rfl⟩
  have steady : tag.Steady := ⟨⟨rfl, rfl⟩, rfl, rfl⟩
  refine ⟨attached, steady, rfl, rfl, rfl, ?_, by decide +kernel, ?_, by decide +kernel, ?_⟩
  · exact (report_writeAll_backdoor attached steady rfl rfl rfl).trans
      (congrArg Except.ok (by decide))
  · exact (page_writeAll_backdoor attached steady rfl rfl rfl (by decide)).trans
      (by decide +kernel)
  · exact (page_writeAll_backdoor attached steady rfl rfl rfl (by decide)).trans
      (by decide +kernel)

end Session

end Ultralight
