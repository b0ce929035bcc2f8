/-
  Ultralight.Proofs.RepeatedWrite
  ───────────────────────────────
  **Writing the same image twice.**

  The second of two passes over what is never protected stores what is there
  already, so the memory is at rest after the first (`PassEffect.page_again`).
  The reports need not agree: a pass whose last page was refused leaves the
  tag asleep, and the next pass begins as if it were awake.  Its first WRITE
  is not heard and counts as a failure, whatever becomes of the page; only
  then is the tag selected (`WriteCourse.passEffect_unheard`).

  `writeAll_twice` gives both reports and says when they are the same.
-/
import Ultralight.Proofs.StoredPages

namespace Ultralight

namespace SimulatedTag

/-- Whether a WRITE of a page that is never protected fails on a tag that is
awake. -/
def failsWrite (tag : SimulatedTag) (p : Nat) : Bool :=
  tag.inRawMode || tag.faults.writes.contains (UInt8.ofNat p)

/-- Whether a first pass leaves the tag asleep, its last page being refused,
so that a second pass fails page 4 although the tag takes it. -/
def missesPage4 (tag : SimulatedTag) : Bool :=
  !tag.inRawMode && tag.faults.writes.contains (UInt8.ofNat (tag.variant.pages - 1)) &&
    !tag.faults.writes.contains 4

theorem failsWrite_eq_of_setup {tag last : SimulatedTag} (h : last.setup = tag.setup) (p : Nat) :
    last.failsWrite p = tag.failsWrite p := by
  unfold failsWrite
  rw [inRawMode_eq_of_setup h, faults_eq_of_setup h]

end SimulatedTag

namespace Session

open Dialogue (Outcome)

/-! ## §1. A pass over pages that are never protected. -/

namespace PassEffect

variable {plan : List Nat} {session final : Session} {tag last : SimulatedTag}
  {exchanges : List Exchange} (effect : PassEffect plan session final tag last exchanges)
  (unprotected : ∀ p ∈ plan, WritePolicy.none.skips tag.variant p = false)

include effect unprotected

/-- A planned page that does not fail is the image's. -/
theorem page_of_not_skips (p : Nat) :
    last.page p =
      if p ∈ plan ∧ tag.failsWrite p = false then session.image.pageAt p else tag.page p := by
  rw [effect.page p]
  by_cases planned : p ∈ plan
  · rw [refusesAt_of_not_skips (unprotected p planned), storedAt_of_not_skips (unprotected p planned)]
    rfl
  · rw [if_neg fun both => planned both.1, if_neg fun both => planned both.1]

/-- Each planned page is written once, and fails or not. -/
theorem verdicts_of_not_skips :
    exchanges.filterMap Exchange.verdict? =
      plan.map fun p => (UInt8.ofNat p, !tag.failsWrite p) :=
  effect.verdicts_of fun p hp => refusesAt_of_not_skips (unprotected p hp) plan

/-- **The memory is at rest after one pass.**  A pass from where another one
ended stores again what that one stored. -/
theorem page_again {more : List Nat} {afterwards : Session} {again : SimulatedTag}
    {others : List Exchange} {between : SimulatedTag}
    (setup : between.setup = tag.setup) (kept : ∀ p, between.page p = last.page p)
    (second : PassEffect more final afterwards between again others)
    (among : ∀ p ∈ more, p ∈ plan) (p : Nat) : again.page p = last.page p := by
  have variant := SimulatedTag.variant_eq_of_setup setup
  rw [second.page_of_not_skips (fun q hq => by rw [variant]; exact unprotected q (among q hq)) p,
    SimulatedTag.failsWrite_eq_of_setup setup]
  obtain ⟨target, huid, rfl⟩ := effect.kept
  split
  · next both =>
    rw [effect.page_of_not_skips unprotected p, if_pos ⟨among p both.1, both.2⟩]
  · exact kept p

end PassEffect

/-! ## §2. One pass. -/

/-- What a pass over everything that is never protected reports of a tag that
is awake. -/
def reportOf (tag : SimulatedTag) : WriteReport where
  pages := tag.variant.pages
  written := (plannedPages .none tag.variant).countP fun p => !tag.failsWrite p
  skipped := (List.range tag.variant.pages).countP (WritePolicy.none.skips tag.variant)
  failed := (plannedPages .none tag.variant).countP tag.failsWrite

theorem reportOf_eq_of_setup {tag last : SimulatedTag} (h : last.setup = tag.setup) :
    reportOf last = reportOf tag := by
  unfold reportOf
  rw [SimulatedTag.variant_eq_of_setup h, funext (SimulatedTag.failsWrite_eq_of_setup h)]

/-- The first WRITE of a pass to a tag that sleeps is not heard and counts as
refused; the rest of the pass meets the tag newly selected. -/
theorem WriteCourse.passEffect_unheard {session final : Session} {number : Nat} {plan : List Nat}
    {complete : Bool} {tag last : SimulatedTag} {exchanges : List Exchange}
    (course : WriteCourse session (number :: plan) false tag exchanges final last complete)
    (steady : tag.Steady) (framed : tag.inRawMode = false) (asleep : tag.halted = true)
    (selected : session.target.map Target.uid = some tag.uid)
    (sorted : (number :: plan).Pairwise (· < ·))
    (within : ∀ p ∈ number :: plan, p < tag.variant.pages) :
    ∃ others, complete = true ∧ PassEffect plan session final tag.selected last others ∧
      exchanges.filterMap Exchange.verdict? =
        (UInt8.ofNat number, false) :: others.filterMap Exchange.verdict? := by
  cases course with
  | @attempted _ _ _ _ _ after _ reply others _ answered rest =>
      rw [SimulatedTag.answer_write_asleep framed asleep] at answered
      obtain ⟨rfl, rfl⟩ := Prod.mk.inj answered
      obtain ⟨whole, effect⟩ := rest.passEffect steady (fun h => by cases h) selected
        (List.pairwise_cons.mp sorted).2 (fun p hp => within p (List.mem_cons_of_mem _ hp))
      exact ⟨others, whole, effect, rfl⟩

section

variable {session : Session} {tag : SimulatedTag} (attached : session.Attached tag)
  (steady : tag.Steady)

include attached steady

/-- A pass that begins at a tag that is awake leaves it asleep if the last page
was refused. -/
theorem writeAll_awake (awake : tag.halted = false) :
    let outcome := (writeAll .none).hold session tag
    PassEffect (plannedPages .none tag.variant) session outcome.value.2 tag outcome.reader
        outcome.exchanges ∧
      outcome.value.1 = .ok (reportOf tag) ∧
      outcome.reader.halted = (tag.failsWrite (tag.variant.pages - 1) && !tag.inRawMode) := by
  intro outcome
  have fails : ∀ p ∈ plannedPages .none tag.variant,
      tag.refusesAt (plannedPages .none tag.variant) p = tag.failsWrite p :=
    fun p hp => refusesAt_of_not_skips (mem_plannedPages.mp hp).2 _
  obtain ⟨effect, _, value⟩ := writePages_passEffect attached steady awake .none fails
  rw [← hold_writeAll_closed rfl] at effect value
  refine ⟨effect, value, ?_⟩
  obtain ⟨rest, plan, last⟩ := plannedPages_none tag.variant
  rw [← plan] at last
  rw [effect.halted _ last, fails _ (List.mem_of_getLast? last)]

/-- A pass that begins at a tag that sleeps fails page 4, and does to the others
what it does to those of a tag that is awake. -/
theorem writeAll_asleep (framed : tag.inRawMode = false) (asleep : tag.halted = true)
    {rest : List Nat} (plan : plannedPages .none tag.variant = 4 :: rest) :
    let outcome := (writeAll .none).hold session tag
    ∃ others, PassEffect rest session outcome.value.2 tag.selected outcome.reader others ∧
      outcome.value.1 = .ok
        { reportOf tag with
          written := rest.countP fun p => !tag.failsWrite p
          failed := rest.countP tag.failsWrite + 1 } := by
  intro outcome
  have sorted := sorted_plannedPages .none tag.variant
  have within : ∀ p ∈ plannedPages .none tag.variant,
      p < tag.variant.pages ∧ WritePolicy.none.skips tag.variant p = false :=
    fun p hp => mem_plannedPages.mp hp
  obtain ⟨complete, course, value⟩ := writePages_wholeCourse attached .none
  rw [← hold_writeAll_closed rfl] at course value
  rw [plan] at course sorted within
  obtain ⟨others, rfl, effect, verdicts⟩ := course.passEffect_unheard steady framed asleep
    attached.selected sorted fun p hp => (within p hp).1
  have heard : others.filterMap Exchange.verdict? =
      rest.map fun p => (UInt8.ofNat p, !tag.failsWrite p) :=
    effect.verdicts_of_not_skips fun p hp => (within p (List.mem_cons_of_mem _ hp)).2
  obtain ⟨written, failed⟩ := Exchange.countP_verdicts rest tag.failsWrite
  refine ⟨others, effect, ?_⟩
  rw [value, if_pos rfl, verdicts, heard, List.countP_cons, List.countP_cons, written, failed]
  rfl

end

/-! ## §3. Two passes. -/

/-- The second of two passes: from a tag that the first one left awake it
reports the same, otherwise page 4 fails for a reason of its own. -/
theorem writeAll_again {session : Session} {tag : SimulatedTag} (attached : session.Attached tag)
    (steady : tag.Steady) (awake : tag.halted = false) {rest : List Nat}
    (plan : plannedPages .none tag.variant = 4 :: rest) :
    let first := (writeAll .none).hold session tag
    let second := (writeAll .none).hold first.value.2 first.reader
    second.reader.contents = first.reader.contents ∧
      second.value.1 = .ok
        (if first.reader.halted then
          { reportOf tag with
            written := rest.countP fun p => !tag.failsWrite p
            failed := rest.countP tag.failsWrite + 1 }
        else reportOf tag) := by
  intro first second
  obtain ⟨effect, _, halted⟩ := writeAll_awake attached steady awake
  have again : first.value.2.Attached first.reader := effect.attached attached
  have still : first.reader.Steady := .of_setup effect.setup steady
  have variant : first.reader.variant = tag.variant :=
    SimulatedTag.variant_eq_of_setup effect.setup
  have fails : first.reader.failsWrite = tag.failsWrite :=
    funext (SimulatedTag.failsWrite_eq_of_setup effect.setup)
  have unprotected : ∀ p ∈ plannedPages .none tag.variant,
      WritePolicy.none.skips tag.variant p = false := fun p hp => (mem_plannedPages.mp hp).2
  cases asleep : first.reader.halted with
  | false =>
      obtain ⟨other, value, _⟩ := writeAll_awake again still asleep
      rw [variant] at other
      rw [reportOf_eq_of_setup effect.setup] at value
      have pages := effect.page_again unprotected effect.setup (fun _ => rfl) other fun _ hp => hp
      exact ⟨SimulatedTag.contents_eq_of_pages
        (SimulatedTag.variant_eq_of_setup other.setup) pages, value⟩
  | true =>
      -- a tag that a pass leaves asleep heard of the refusal
      have framed : first.reader.inRawMode = false := by
        rw [asleep] at halted
        rw [SimulatedTag.inRawMode_eq_of_setup effect.setup]
        simpa using (Bool.and_eq_true_iff.mp halted.symm).2
      obtain ⟨others, other, value⟩ := writeAll_asleep again still framed asleep
        (by rw [variant]; exact plan)
      rw [reportOf_eq_of_setup effect.setup, fails] at value
      have woken : first.reader.selected.setup = tag.setup := effect.setup
      have among : ∀ p ∈ rest, p ∈ plannedPages .none tag.variant := fun p hp => by
        rw [plan]
        exact List.mem_cons_of_mem _ hp
      have pages := effect.page_again unprotected woken (fun _ => rfl) other among
      exact ⟨SimulatedTag.contents_eq_of_pages
        (SimulatedTag.variant_eq_of_setup other.setup) pages, value⟩

/-- How two passes over everything that is never protected compare. -/
structure WrittenTwice (tag : SimulatedTag)
    (first second : Outcome SimulatedTag (Except Error WriteReport × Session)) : Prop where
  /-- The second pass leaves the memory as the first one did. -/
  contents : second.reader.contents = first.reader.contents
  /-- The first pass ends well. -/
  first_report : first.value.1 = .ok (reportOf tag)
  /-- So does the second, which may count page 4 as failed that the first one
  wrote. -/
  second_report : second.value.1 = .ok
    (if tag.missesPage4 then
      { reportOf tag with
        written := (reportOf tag).written - 1, failed := (reportOf tag).failed + 1 }
    else reportOf tag)
  /-- The reports are the same exactly if the tag is not left asleep, or
  refuses page 4 anyway. -/
  same_iff : second.value.1 = first.value.1 ↔ tag.missesPage4 = false

/-- **Writing twice.**  On a steady tag that is awake, and was detected and is
the target, two passes over everything that is never protected both end well,
and the second one changes nothing.  They report the same unless the first one
leaves asleep a tag that takes page 4. -/
theorem writeAll_twice {session : Session} {tag : SimulatedTag} (attached : session.Attached tag)
    (steady : tag.Steady) (awake : tag.halted = false) :
    let first := (writeAll .none).hold session tag
    WrittenTwice tag first ((writeAll .none).hold first.value.2 first.reader) := by
  intro first
  obtain ⟨rest, plan, _⟩ := plannedPages_none tag.variant
  obtain ⟨_, report, halted⟩ := writeAll_awake attached steady awake
  obtain ⟨contents, again⟩ := writeAll_again attached steady awake plan
  -- the tag sleeps after the first pass if its last page was refused
  have unheard : tag.missesPage4 = (first.reader.halted && !tag.failsWrite 4) := by
    rw [halted]
    unfold SimulatedTag.missesPage4 SimulatedTag.failsWrite
    cases tag.inRawMode with
    | true => rfl
    | false => simp
  have second : ((writeAll .none).hold first.value.2 first.reader).value.1 = .ok
      (if tag.missesPage4 then
        { reportOf tag with
          written := (reportOf tag).written - 1, failed := (reportOf tag).failed + 1 }
      else reportOf tag) := by
    rw [again, unheard]
    cases first.reader.halted with
    | false => rfl
    | true =>
        unfold reportOf
        rw [plan, if_pos rfl, Bool.true_and, List.countP_cons, List.countP_cons]
        cases tag.failsWrite 4 with
        | true => rfl
        | false => simp
  refine ⟨contents, report, second, ?_⟩
  rw [second, report]
  cases tag.missesPage4 with
  | false => exact iff_of_true rfl rfl
  | true =>
      -- one more failure is another report
      refine iff_of_false (fun same => ?_) Bool.true_eq_false.mp
      exact Nat.succ_ne_self _ (congrArg WriteReport.failed (Except.ok.inj same))

/-- A tag that refuses pages 7 and 15: the second pass also fails page 4, and
the memory stays. -/
theorem writeAll_twice_last_refused :
    let tag := { SimulatedTag.fresh .ultralight with
      halted := false, faults := { Faults.none with writes := [7, 15] } }
    let session : Session :=
      { fresh .default with
        target := some tag.target
        image := (Image.blank .ultralight).overlay 0 (List.replicate 64 0xf0) }
    let first := (writeAll .none).hold session tag
    let second := (writeAll .none).hold first.value.2 first.reader
    session.Attached tag ∧ tag.Steady ∧ tag.halted = false ∧ WrittenTwice tag first second ∧
      first.value.1 = .ok { pages := 16, written := 10, skipped := 4, failed := 2 } ∧
      second.value.1 = .ok { pages := 16, written := 9, skipped := 4, failed := 3 } := by
  intro tag session first second
  have attached : session.Attached tag := ⟨rfl, rfl, rfl⟩
  have steady : tag.Steady := ⟨⟨rfl, rfl⟩, rfl, rfl⟩
  have twice : WrittenTwice tag first second := writeAll_twice attached steady rfl
  refine ⟨attached, steady, rfl, twice, ?_, ?_⟩
  · exact twice.first_report.trans (congrArg Except.ok (by decide))
  · exact twice.second_report.trans (congrArg Except.ok (by decide))

/-- Two passes need not report the same: where only the last page is refused,
the second pass fails another page than the first. -/
theorem second_report_differs :
    let tag := { SimulatedTag.fresh .ultralight with
      halted := false, faults := { Faults.none with writes := [15] } }
    let session := { fresh .default with target := some tag.target }
    let first := (writeAll .none).hold session tag
    let second := (writeAll .none).hold first.value.2 first.reader
    session.Attached tag ∧ tag.Steady ∧ tag.halted = false ∧
      first.value.1 = .ok { pages := 16, written := 11, skipped := 4, failed := 1 } ∧
      second.value.1 = .ok { pages := 16, written := 10, skipped := 4, failed := 2 } :=
  ⟨⟨rfl, rfl, rfl⟩, ⟨⟨rfl, rfl⟩, rfl, rfl⟩, rfl, rfl, rfl⟩

end Session

end Ultralight
