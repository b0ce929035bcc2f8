/-
  Ultralight.Proofs.WriteEffect
  ─────────────────────────────
  **What a write pass leaves on the tag.**

  A `Reliable` tag stays in the field, is found by every selection and has no
  back door.  Whether it refuses a page does not hang on the pages before
  (`Reliable.refusesAt`), so of the effect of a course on any steady tag
  (`WriteCourse.passEffect`) remains that of one WRITE for each page
  (`WriteCourse.effect`): a page that is refused costs no other page.

  `writePages_effect` reads this off page by page and counts the failures.
-/
import Ultralight.Proofs.StoredPages

namespace Ultralight

/-! ## §1. A tag that is found again. -/

namespace SimulatedTag

/-- In the field and there to stay, found by every selection, in reach of
READ and WRITE, and without a back door. -/
structure Reliable (tag : SimulatedTag) : Prop where
  present : tag.present = true
  framed : tag.inRawMode = false
  stays : tag.faults.removeOnFailure = false
  found : tag.faults.emptySelections = 0
  heard : tag.faults.failedSelections = 0
  plain : tag.magic ≠ .backdoor

/-- Whether the tag refuses a WRITE of page `p`: by plan, or since the page
is read-only. -/
def refusesWrite (tag : SimulatedTag) (p : Nat) : Bool :=
  tag.faults.writes.contains (UInt8.ofNat p) ||
    (tag.magic == .genuine && decide (p < firstDataPage))

/-- What page `p` holds after a WRITE that is not refused. -/
def stored (tag : SimulatedTag) (p : Nat) (data : Page) : Page :=
  if tag.magic = .genuine then merged p (tag.page p) data else data

namespace Reliable

variable {tag : SimulatedTag} (reliable : tag.Reliable)

include reliable

theorem steady : tag.Steady := ⟨⟨reliable.found, reliable.heard⟩, reliable.present, reliable.stays⟩

/-- Without a back door no refusal shuts the UID pages. -/
theorem opensAt (plan : List Nat) (p : Nat) :
    tag.opensAt plan p = (tag.magic == .directWrite) := by
  have kind := reliable.plain
  unfold SimulatedTag.opensAt uidWritable
  cases hmagic : tag.magic with
  | genuine => rfl
  | directWrite => exact Bool.true_and _
  | backdoor => exact absurd hmagic kind

/-- Each page is refused or not, whatever was planned before it. -/
theorem refusesAt (plan : List Nat) (p : Nat) : tag.refusesAt plan p = tag.refusesWrite p := by
  have kind := reliable.plain
  unfold SimulatedTag.refusesAt refuses refusesWrite
  rw [reliable.opensAt, reliable.framed, Bool.false_or]
  cases hmagic : tag.magic with
  | backdoor => exact absurd hmagic kind
  | _ => rfl

/-- Each page is stored alike, whatever was planned before it. -/
theorem storedAt (plan : List Nat) (p : Nat) (data : Page) :
    tag.storedAt plan p data = tag.stored p data := by
  have kind := reliable.plain
  unfold SimulatedTag.storedAt storing stored
  rw [reliable.opensAt]
  cases hmagic : tag.magic with
  | backdoor => exact absurd hmagic kind
  | _ => rfl

end Reliable

end SimulatedTag

namespace Session

open Dialogue (Outcome)

/-! ## §2. The effect of a course. -/

/-- The WRITE of each planned page that is not refused is stored. -/
def pageAfter (plan : List Nat) (session : Session) (tag : SimulatedTag) (p : Nat) : Page :=
  if p ∈ plan ∧ tag.refusesWrite p = false then tag.stored p (session.image.pageAt p)
  else tag.page p

variable {session : Session} {tag : SimulatedTag} {plan : List Nat}

/-- **Every course on a reliable tag is a complete one.**  It keeps what kind
of tag it is, stores each planned page that is not refused, and a refusal is
all that counts as a failure. -/
theorem WriteCourse.effect {final : Session} {complete : Bool} {last : SimulatedTag}
    {exchanges : List Exchange}
    (course : WriteCourse session plan false tag exchanges final last complete)
    (reliable : tag.Reliable) (awake : tag.halted = false)
    (selected : session.target.map Target.uid = some tag.uid) (sorted : plan.Pairwise (· < ·))
    (within : ∀ p ∈ plan, p < tag.variant.pages) :
    complete = true ∧ last.variant = tag.variant ∧
      (∀ p, last.page p = pageAfter plan session tag p) ∧
      exchanges.countP Exchange.isAccepted = plan.countP (fun p => !tag.refusesWrite p) ∧
      exchanges.countP Exchange.isRefused = plan.countP tag.refusesWrite := by
  obtain ⟨whole, effect⟩ := course.passEffect reliable.steady (fun _ => awake) selected sorted within
  rw [if_neg Bool.false_ne_true] at effect
  have verdicts := effect.verdicts_of fun p _ => reliable.refusesAt plan p
  obtain ⟨written, failed⟩ := Exchange.countP_verdicts plan tag.refusesWrite
  refine ⟨whole, SimulatedTag.variant_eq_of_setup effect.setup, fun p => ?_, ?_, ?_⟩
  · rw [effect.page p, reliable.refusesAt, reliable.storedAt]
    rfl
  · rw [Exchange.countP_isAccepted, verdicts, written]
  · rw [Exchange.countP_isRefused, verdicts, failed]

/-! ## §3. The effect of a pass. -/

/-- The effect of a pass over the pages from `start` up to `stop`. -/
structure WriteEffect (policy : WritePolicy) (start stop : Nat) (session : Session)
    (tag : SimulatedTag) (outcome : Outcome SimulatedTag (Except Error WriteReport × Session)) :
    Prop where
  /-- The tag is of the variant it was. -/
  variant : outcome.reader.variant = tag.variant
  /-- A page of the range that is neither protected nor refused holds the
  image, except that a genuine tag only sets bits of lock and OTP bytes;
  every other page holds what it held. -/
  pages : ∀ p, outcome.reader.page p =
    let old := tag.page p
    let new := session.image.pageAt p
    if start ≤ p ∧ p < stop ∧ policy.skips tag.variant p = false ∧
        tag.refusesWrite p = false then
      if tag.magic = .genuine ∧ p = lockPage then
        ⟨old.b0, old.b1, old.b2 ||| new.b2, old.b3 ||| new.b3⟩
      else if tag.magic = .genuine ∧ p = otpPage then
        ⟨old.b0 ||| new.b0, old.b1 ||| new.b1, old.b2 ||| new.b2, old.b3 ||| new.b3⟩
      else new
    else old
  /-- The pass ends well, and the failures it counts are the pages that the
  tag refuses, each for itself. -/
  report :
    let numbers := List.range' start (stop - start)
    outcome.value.1 = .ok
      { pages := tag.variant.pages
        written := (planned policy tag.variant numbers).countP (fun p => !tag.refusesWrite p)
        skipped := numbers.countP (policy.skips tag.variant)
        failed := (planned policy tag.variant numbers).countP tag.refusesWrite }

/-- **The effect of a write pass.**  On a reliable tag that is awake, was
detected and is the target, a pass within the tag ends well, writes what it
can, and counts what it cannot. -/
theorem writePages_effect (policy : WritePolicy) {start stop : Nat} {session : Session}
    {tag : SimulatedTag} (reliable : tag.Reliable) (awake : tag.halted = false)
    (detected : session.variant = tag.variant)
    (selected : session.target.map Target.uid = some tag.uid) (within : stop ≤ tag.variant.pages)
    (fits : stop ≤ session.image.pages) :
    WriteEffect policy start stop session tag
      ((writePages policy start stop).hold session tag) := by
  have mem_planned : ∀ p, p ∈ planned policy tag.variant (List.range' start (stop - start)) ↔
      (start ≤ p ∧ p < stop) ∧ policy.skips tag.variant p = false := by
    intro p
    unfold planned
    rw [List.mem_filter, List.mem_range'_1, Bool.not_eq_true']
    refine and_congr_left fun _ => ?_
    omega
  obtain ⟨complete, course, value⟩ :=
    writePages_takesCourse policy start session tag (by rw [detected]; exact within) fits
  rw [detected] at course value
  obtain ⟨rfl, variant, pages, accepted, refused⟩ :=
    course.effect reliable awake selected (List.Pairwise.filter _ List.pairwise_lt_range')
      (fun p hp => Nat.lt_of_lt_of_le ((mem_planned p).mp hp).1.2 within)
  refine ⟨variant, fun p => ?_, ?_⟩
  · rw [pages p]
    unfold pageAfter SimulatedTag.stored SimulatedTag.merged
    simp only [mem_planned, and_assoc]
    by_cases hgenuine : tag.magic = .genuine
    · simp only [hgenuine, true_and, if_true]
    · simp only [hgenuine, false_and, if_false]
  · rw [value, if_pos rfl, accepted, refused]

/-- A genuine tag that also refuses page 5, written in full: three failures,
and the page after each of them is stored. -/
theorem writePages_effect_genuine :
    let tag : SimulatedTag :=
      { SimulatedTag.fresh .ultralight with
        halted := false, faults := { Faults.none with writes := [5] } }
    let session : Session :=
      { fresh .default with
        target := some ⟨0x00, 0x44, 0x00, tag.uid⟩
        image := (Image.blank .ultralight).overlay 0 (List.replicate 64 0xf0) }
    let outcome := (writePages .all 0 16).hold session tag
    tag.Reliable ∧ tag.halted = false ∧ session.variant = tag.variant ∧
      session.target.map Target.uid = some tag.uid ∧ 16 ≤ tag.variant.pages ∧
      16 ≤ session.image.pages ∧ WriteEffect .all 0 16 session tag outcome ∧
      outcome.value.1 = .ok { pages := 16, written := 13, skipped := 0, failed := 3 } ∧
      outcome.reader.page 2 = ⟨0x04, 0x48, 0xf0, 0xf0⟩ ∧
      outcome.reader.page 5 = .zero ∧ outcome.reader.page 6 = ⟨0xf0, 0xf0, 0xf0, 0xf0⟩ := by
  intro tag session outcome
  have reliable : tag.Reliable := ⟨rfl, rfl, rfl, rfl, rfl, by decide⟩
  refine ⟨reliable, rfl, rfl, rfl, by decide, by decide, ?_, ?_, ?_, ?_, ?_⟩
  · exact writePages_effect .all reliable rfl rfl rfl (by decide) (by decide)
  all_goals decide +kernel

end Session

end Ultralight
