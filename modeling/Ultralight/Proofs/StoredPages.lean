/-
  Ultralight.Proofs.StoredPages
  ─────────────────────────────
  **What a write pass leaves on a tag that is always found again.**

  Every course of a write pass on a steady tag is a complete one, and what
  it does to a page is what one WRITE does, with one thing to remember from
  the pages before: a selection shuts a back door, so the UID pages of a
  clone stay open only as long as nothing was refused (`opensAt`).

  `WriteCourse.passEffect` is one induction over courses for every kind of
  tag, in raw mode and out of it.  Its two steps are `PassEffect.refused`,
  where the rest of the pass meets the tag newly selected, and
  `PassEffect.stored`.
-/
import Ultralight.Proofs.SteadyTag
import Ultralight.Proofs.WriteSequence

namespace Ultralight

/-- Where a WRITE went, and whether it was accepted. -/
def Exchange.verdict? : Exchange → Option (UInt8 × Bool)
  | ⟨.write page _, .ok ()⟩ => some (page, true)
  | ⟨.write page _, .error _⟩ => some (page, false)
  | _ => none

namespace Exchange

theorem countP_isAccepted (exchanges : List Exchange) :
    exchanges.countP isAccepted = (exchanges.filterMap verdict?).countP Prod.snd := by
  induction exchanges with
  | nil => rfl
  | cons made more ih =>
      rw [List.countP_cons, List.filterMap_cons, ih]
      rcases made with ⟨request, reply⟩
      cases request with
      | write page data => rcases reply with error | ⟨⟩ <;> simp [isAccepted, verdict?]
      | _ => rfl

theorem countP_isRefused (exchanges : List Exchange) :
    exchanges.countP isRefused = (exchanges.filterMap verdict?).countP (fun made => !made.2) := by
  induction exchanges with
  | nil => rfl
  | cons made more ih =>
      rw [List.countP_cons, List.filterMap_cons, ih]
      rcases made with ⟨request, reply⟩
      cases request with
      | write page data => rcases reply with error | ⟨⟩ <;> simp [isRefused, verdict?]
      | _ => rfl

/-- Counting verdicts is counting the pages that they are about. -/
theorem countP_verdicts (plan : List Nat) (fails : Nat → Bool) :
    (plan.map fun p => (UInt8.ofNat p, !fails p)).countP Prod.snd =
        plan.countP (fun p => !fails p) ∧
      (plan.map fun p => (UInt8.ofNat p, !fails p)).countP (fun made => !made.2) =
        plan.countP fails := by
  rw [List.countP_map, List.countP_map]
  refine ⟨rfl, List.countP_congr fun p _ => ?_⟩
  show (!!fails p) = true ↔ fails p = true
  rw [Bool.not_not]

end Exchange

/-! ## §1. Whether the UID pages are still open. -/

namespace SimulatedTag

/-- Whether the UID pages are open when a pass over these pages comes to page
`p`: they are open to begin with, and no refusal before had the tag selected
again if that shuts its back door. -/
def opensAt (tag : SimulatedTag) (plan : List Nat) (p : Nat) : Bool :=
  tag.uidWritable && (tag.magic != .backdoor ||
    plan.all fun q => decide (p ≤ q) || !tag.faults.writes.contains (UInt8.ofNat q))

/-- Whether the tag refuses page `p` when a pass over these pages comes to
it. -/
def refusesAt (tag : SimulatedTag) (plan : List Nat) (p : Nat) : Bool :=
  tag.refuses (tag.opensAt plan p) p

/-- What page `p` holds after a pass over these pages, if it is not
refused. -/
def storedAt (tag : SimulatedTag) (plan : List Nat) (p : Nat) (data : Page) : Page :=
  tag.storing (tag.opensAt plan p) p data

variable {tag : SimulatedTag} {plan : List Nat} {number p : Nat}

/-- Nothing comes before the first page. -/
theorem opensAt_first (sorted : ∀ q ∈ plan, number < q) :
    tag.opensAt (number :: plan) number = tag.uidWritable := by
  have first : (number :: plan).all (fun q => decide (number ≤ q) ||
      !tag.faults.writes.contains (UInt8.ofNat q)) = true := by
    refine List.all_eq_true.mpr fun q hq => ?_
    rcases List.mem_cons.mp hq with rfl | hq
    · simp
    · simp [Nat.le_of_lt (sorted q hq)]
  unfold opensAt
  rw [first, Bool.or_true, Bool.and_true]

/-- A page that the plan of faults does not refuse changes nothing. -/
theorem opensAt_accepted (h : tag.faults.writes.contains (UInt8.ofNat number) = false) :
    tag.opensAt (number :: plan) p = tag.opensAt plan p := by
  unfold opensAt
  rw [List.all_cons, h, Bool.not_false, Bool.or_true, Bool.true_and]

/-- After a refusal the UID pages are open only if a selection leaves them
open. -/
theorem opensAt_refused (framed : tag.inRawMode = false)
    (h : tag.refuses tag.uidWritable number = true) (later : number < p) :
    tag.selected.opensAt plan p = tag.opensAt (number :: plan) p := by
  unfold refuses at h
  rw [framed, Bool.false_or] at h
  unfold opensAt
  cases hmagic : tag.magic with
  | genuine => simp [uidWritable, selected, hmagic]
  | directWrite =>
      have kind : (Magic.directWrite != Magic.backdoor) = true := rfl
      have opened : tag.uidWritable = true := by simp [uidWritable, hmagic]
      have stillOpen : tag.selected.uidWritable = true := by simp [uidWritable, selected, hmagic]
      rw [opened, stillOpen, show tag.selected.magic = .directWrite from hmagic, kind,
        Bool.true_or, Bool.true_or]
  | backdoor =>
      have shut : tag.selected.uidWritable = false := by simp [uidWritable, selected, hmagic]
      rw [shut, Bool.false_and]
      cases hopen : tag.uidWritable with
      | false => rfl
      | true =>
          -- an open tag refuses by plan only
          have planned : tag.faults.writes.contains (UInt8.ofNat number) = true := by
            simpa [hopen] using h
          rw [List.all_cons, planned, decide_eq_false (by omega)]
          rfl

/-- A pass refuses the same pages after a refusal and a selection. -/
theorem refusesAt_refused (h : tag.refuses tag.uidWritable number = true) (later : number < p) :
    tag.selected.refusesAt plan p = tag.refusesAt (number :: plan) p := by
  cases hraw : tag.inRawMode with
  | true =>
      unfold refusesAt refuses
      rw [hraw, show tag.selected.inRawMode = true from hraw]
      rfl
  | false =>
      unfold refusesAt
      rw [opensAt_refused hraw h later]
      rfl

/-- A pass in raw mode stores nothing, and any other stores the same after a
refusal and a selection. -/
theorem storedAt_refused (h : tag.refuses tag.uidWritable number = true) (later : number < p)
    (accepted : tag.refusesAt (number :: plan) p = false) (data : Page) :
    tag.selected.storedAt plan p data = tag.storedAt (number :: plan) p data := by
  have framed : tag.inRawMode = false := by
    unfold refusesAt refuses at accepted
    simp only [Bool.or_eq_false_iff] at accepted
    exact accepted.1.1
  unfold storedAt
  rw [opensAt_refused framed h later]
  rfl

end SimulatedTag

/-! ## §2. The effect of a course. -/

namespace Session

open Dialogue (Event Outcome)

/-- What a pass over these pages leaves behind: on the tag, in the traffic and
in the session. -/
structure PassEffect (plan : List Nat) (session final : Session) (tag last : SimulatedTag)
    (exchanges : List Exchange) : Prop where
  /-- Nothing changes but the memory, and whether the tag sleeps and is
  open. -/
  setup : last.setup = tag.setup
  /-- The session has the tag for its target, and is as it was otherwise. -/
  kept : ∃ target, target.uid = tag.uid ∧ final = { session with target := some target }
  /-- The WRITE of each planned page that is not refused is stored. -/
  page : ∀ p, last.page p =
    if p ∈ plan ∧ tag.refusesAt plan p = false then tag.storedAt plan p (session.image.pageAt p)
    else tag.page p
  /-- Each planned page is written once, and refused or not. -/
  verdicts : exchanges.filterMap Exchange.verdict? =
    plan.map fun p => (UInt8.ofNat p, !tag.refusesAt plan p)
  /-- The tag sleeps if the last page was refused and the tag heard of it. -/
  halted : ∀ p ∈ plan.getLast?, last.halted = (tag.refusesAt plan p && !tag.inRawMode)

namespace PassEffect

variable {plan : List Nat} {session final : Session} {tag last : SimulatedTag}
  {exchanges : List Exchange} {number : Nat}

/-- A pass over no pages. -/
theorem nil (selected : session.target.map Target.uid = some tag.uid) :
    PassEffect [] session session tag tag [] where
  setup := rfl
  kept := by
    obtain ⟨target, htarget, huid⟩ := Option.map_eq_some_iff.mp selected
    exact ⟨target, huid, by rw [← htarget]⟩
  page p := by rw [if_neg fun both => List.not_mem_nil both.1]
  verdicts := rfl
  halted p hp := by cases hp

/-- A page that is refused comes before what the rest of the pass does to the
tag once it is selected again. -/
theorem refused (sorted : ∀ q ∈ plan, number < q)
    (h : tag.refuses tag.uidWritable number = true) {data : Block} {error : Error}
    (rest : PassEffect plan session final tag.selected last exchanges)
    (ended : plan = [] → last.halted = !tag.inRawMode) :
    PassEffect (number :: plan) session final tag last
      (⟨.write (UInt8.ofNat number) data, .error error⟩ :: exchanges) := by
  have now : tag.refusesAt (number :: plan) number = true := by
    unfold SimulatedTag.refusesAt
    rw [SimulatedTag.opensAt_first sorted]
    exact h
  refine ⟨rest.setup, rest.kept, fun p => ?_, ?_, fun p hp => ?_⟩
  · rw [rest.page p]
    by_cases planned : p ∈ plan
    · have later := sorted p planned
      rw [SimulatedTag.refusesAt_refused h later]
      by_cases accepted : tag.refusesAt (number :: plan) p = false
      · rw [if_pos ⟨planned, accepted⟩, if_pos ⟨List.mem_cons_of_mem _ planned, accepted⟩,
          SimulatedTag.storedAt_refused h later accepted]
      · rw [if_neg fun both => accepted both.2, if_neg fun both => accepted both.2]
        rfl
    · rw [if_neg fun both => planned both.1, if_neg]
      · rfl
      · rintro ⟨hp, accepted⟩
        obtain rfl := (List.mem_cons.mp hp).resolve_right planned
        rw [now] at accepted
        cases accepted
  · rw [List.map_cons, now, ← List.map_congr_left fun p hp => by
      rw [← SimulatedTag.refusesAt_refused h (sorted p hp)]]
    exact congrArg _ rest.verdicts
  · cases plan with
    | nil =>
        obtain rfl : number = p := by simpa using hp
        rw [now, Bool.true_and]
        exact ended rfl
    | cons q plan =>
        rw [List.getLast?_cons_cons] at hp
        rw [rest.halted p hp, SimulatedTag.refusesAt_refused h
          (sorted p (List.mem_of_getLast? hp))]
        rfl

/-- A page that is stored comes before what the rest of the pass does. -/
theorem stored (sorted : ∀ q ∈ plan, number < q)
    (h : tag.refuses tag.uidWritable number = false) (bound : number < tag.variant.pages)
    {data : Block}
    (rest : PassEffect plan session final
      (tag.setPage number (tag.storing tag.uidWritable number (session.image.pageAt number))) last
      exchanges)
    (ended : plan = [] → last.halted = false) :
    PassEffect (number :: plan) session final tag last
      (⟨.write (UInt8.ofNat number) data, .ok ()⟩ :: exchanges) := by
  have accepted : tag.faults.writes.contains (UInt8.ofNat number) = false := by
    unfold SimulatedTag.refuses at h
    simp only [Bool.or_eq_false_iff] at h
    exact h.1.2
  have opens : ∀ p, tag.opensAt (number :: plan) p = tag.opensAt plan p :=
    fun p => SimulatedTag.opensAt_accepted accepted
  have refuses : ∀ p, tag.refusesAt (number :: plan) p = tag.refusesAt plan p := by
    intro p
    unfold SimulatedTag.refusesAt
    rw [opens]
  have now : tag.refusesAt (number :: plan) number = false := by
    unfold SimulatedTag.refusesAt
    rw [SimulatedTag.opensAt_first sorted]
    exact h
  refine ⟨rest.setup, rest.kept, fun p => ?_, ?_, fun p hp => ?_⟩
  · rw [rest.page p]
    by_cases same : p = number
    · -- no later WRITE reaches the page
      subst same
      have other : p ∉ plan := fun hp => Nat.lt_irrefl p (sorted p hp)
      rw [if_neg fun both => other both.1, if_pos ⟨List.mem_cons_self, now⟩,
        SimulatedTag.page_setPage, if_pos ⟨rfl, bound⟩]
      unfold SimulatedTag.storedAt
      rw [SimulatedTag.opensAt_first sorted]
    · have kept : ∀ data, (tag.setPage number data).page p = tag.page p := fun data => by
        rw [SimulatedTag.page_setPage, if_neg fun both => same both.1.symm]
      unfold SimulatedTag.storedAt SimulatedTag.storing
      rw [kept, opens, refuses]
      simp only [List.mem_cons, same, false_or]
      rfl
  · rw [List.map_cons, now, List.map_congr_left fun p _ => by rw [refuses p]]
    exact congrArg _ rest.verdicts
  · cases plan with
    | nil =>
        obtain rfl : number = p := by simpa using hp
        rw [now, Bool.false_and]
        exact ended rfl
    | cons q plan =>
        rw [List.getLast?_cons_cons] at hp
        rw [rest.halted p hp, refuses]
        rfl

end PassEffect

/-- The verdicts, told by the pages that fail. -/
theorem PassEffect.verdicts_of {plan : List Nat} {session final : Session}
    {tag last : SimulatedTag} {exchanges : List Exchange}
    (effect : PassEffect plan session final tag last exchanges) {fails : Nat → Bool}
    (h : ∀ p ∈ plan, tag.refusesAt plan p = fails p) :
    exchanges.filterMap Exchange.verdict? = plan.map fun p => (UInt8.ofNat p, !fails p) := by
  rw [effect.verdicts]
  exact List.map_congr_left fun p hp => by rw [h p hp]

/-- The session stays attached to the tag. -/
theorem PassEffect.attached {plan : List Nat} {session final : Session} {tag last : SimulatedTag}
    {exchanges : List Exchange} (effect : PassEffect plan session final tag last exchanges)
    (attached : session.Attached tag) : final.Attached last := by
  obtain ⟨target, huid, rfl⟩ := effect.kept
  refine ⟨?_, ?_, attached.fits⟩
  · rw [SimulatedTag.variant_eq_of_setup effect.setup]
    exact attached.detected
  · rw [SimulatedTag.uid_eq_of_setup effect.setup, ← huid]
    rfl

/-- **Every course on a steady tag is a complete one**, and leaves behind what
one WRITE for each planned page leaves. -/
theorem WriteCourse.passEffect {session final : Session} {plan : List Nat}
    {asleep complete : Bool} {tag last : SimulatedTag} {exchanges : List Exchange}
    (course : WriteCourse session plan asleep tag exchanges final last complete)
    (steady : tag.Steady) (awake : asleep = false → tag.halted = false)
    (selected : session.target.map Target.uid = some tag.uid) (sorted : plan.Pairwise (· < ·))
    (within : ∀ p ∈ plan, p < tag.variant.pages) :
    complete = true ∧
      PassEffect plan session final (if asleep then tag.selected else tag) last exchanges := by
  induction course with
  | finished session asleep tag =>
      refine ⟨rfl, ?_⟩
      cases asleep with
      | false => exact .nil selected
      | true =>
          exact ⟨rfl, (PassEffect.nil selected).kept, fun p => rfl, rfl, fun p hp => by cases hp⟩
  | @attempted session final number plan tag after last reply exchanges complete answered rest ih =>
      obtain ⟨first, sorted⟩ := List.pairwise_cons.mp sorted
      have bound := within number List.mem_cons_self
      have withinRest : ∀ p ∈ plan, p < tag.variant.pages :=
        fun p hp => within p (List.mem_cons_of_mem _ hp)
      have settled : plan = [] → last = after := by
        rintro rfl
        cases rest
        rfl
      cases hrefused : tag.refuses tag.uidWritable number with
      | true =>
          obtain ⟨error, refused⟩ := SimulatedTag.answer_write_refused steady (awake rfl) bound
            hrefused (session.image.pageAt number)
          rw [refused] at answered
          obtain ⟨rfl, rfl⟩ := Prod.mk.inj answered
          obtain ⟨whole, effect⟩ := ih
            ⟨⟨steady.found, steady.heard⟩, steady.present, steady.stays⟩ (fun h => by cases h)
            selected sorted withinRest
          exact ⟨whole, .refused first hrefused effect fun h => by rw [settled h]⟩
      | false =>
          rw [SimulatedTag.answer_write_stored steady (awake rfl) bound hrefused] at answered
          obtain ⟨rfl, rfl⟩ := Prod.mk.inj answered
          obtain ⟨whole, effect⟩ := ih
            ⟨⟨steady.found, steady.heard⟩, steady.present, steady.stays⟩ (fun _ => awake rfl)
            selected sorted withinRest
          exact ⟨whole, .stored first hrefused bound effect fun h => by
            rw [settled h]
            exact awake rfl⟩
  | @woken session final number plan tag after last target exchanges complete answered rest ih =>
      -- the tag that is found is the one that was wanted
      rw [wantedUid_of_selected selected, SimulatedTag.answer_select steady.toSelectable,
        if_pos steady.present] at answered
      obtain ⟨found, rfl⟩ := Prod.mk.inj answered
      cases found
      obtain ⟨whole, effect⟩ := ih
        ⟨⟨steady.found, steady.heard⟩, steady.present, steady.stays⟩ (fun _ => rfl) rfl sorted
        within
      exact ⟨whole, effect.setup, effect.kept, effect.page, effect.verdicts, effect.halted⟩
  | @lost session number plan tag after reply answered missing =>
      -- a steady tag is never lost
      rw [wantedUid_of_selected selected, SimulatedTag.answer_select steady.toSelectable,
        if_pos steady.present] at answered
      obtain ⟨rfl, rfl⟩ := Prod.mk.inj answered
      cases missing

/-! ## §3. Whole passes. -/

/-- The pages that a pass over the whole tag attempts. -/
def plannedPages (policy : WritePolicy) (variant : Variant) : List Nat :=
  planned policy variant (List.range variant.pages)

section

variable {policy : WritePolicy} {variant : Variant} {p : Nat}

theorem mem_plannedPages :
    p ∈ plannedPages policy variant ↔ p < variant.pages ∧ policy.skips variant p = false := by
  unfold plannedPages planned
  rw [List.mem_filter, List.mem_range, Bool.not_eq_true']

theorem sorted_plannedPages (policy : WritePolicy) (variant : Variant) :
    (plannedPages policy variant).Pairwise (· < ·) :=
  List.Pairwise.filter _ List.pairwise_lt_range

/-- What is never protected comes after the OTP page. -/
theorem otpPage_lt_of_not_skips (h : WritePolicy.none.skips variant p = false) : otpPage < p := by
  unfold WritePolicy.skips at h
  unfold firstDataPage lockPage otpPage at *
  split at h
  · cases h
  · split at h
    · cases h
    · split at h
      · cases h
      · omega

/-- A pass that leaves all protected pages alone begins at page 4 and ends at
the last page. -/
theorem plannedPages_none (variant : Variant) :
    ∃ rest, plannedPages .none variant = 4 :: rest ∧
      (4 :: rest).getLast? = some (variant.pages - 1) := by
  cases variant <;> exact ⟨_, rfl, rfl⟩

theorem skips_all (variant : Variant) (p : Nat) : WritePolicy.all.skips variant p = false := by
  unfold WritePolicy.skips
  split
  · rfl
  · split
    · rfl
    · split
      · rfl
      · split <;> rfl

/-- Nothing is left alone if everything may be written. -/
theorem plannedPages_all (variant : Variant) :
    plannedPages .all variant = List.range variant.pages :=
  List.filter_eq_self.mpr fun p _ => by rw [skips_all]; rfl

theorem countP_skips_all (variant : Variant) (numbers : List Nat) :
    numbers.countP (WritePolicy.all.skips variant) = 0 :=
  List.countP_eq_zero.mpr fun p _ => by rw [skips_all]; exact Bool.false_ne_true

variable {tag : SimulatedTag}

/-- Whether a page that is never protected is refused does not hang on the
pages before. -/
theorem refusesAt_of_not_skips (h : WritePolicy.none.skips variant p = false) (plan : List Nat) :
    tag.refusesAt plan p = (tag.inRawMode || tag.faults.writes.contains (UInt8.ofNat p)) := by
  have data := otpPage_lt_of_not_skips h
  unfold otpPage at data
  exact SimulatedTag.refuses_of_data (by unfold firstDataPage; omega) _

/-- A page that is never protected is stored as it is written. -/
theorem storedAt_of_not_skips (h : WritePolicy.none.skips variant p = false) (plan : List Nat)
    (data : Page) : tag.storedAt plan p data = data :=
  SimulatedTag.storing_of_data (otpPage_lt_of_not_skips h) _ _

end

/-- The whole image is written once the UID pages are open, if they have to
be. -/
theorem hold_writeAll_opened {σ : Type} [Reader σ] {policy : WritePolicy} {reader after : σ}
    {events : List Event} (opened : (openUidPages policy).hold reader = ⟨.ok (), after, events⟩)
    (session : Session) :
    (writeAll policy).hold session reader =
      Outcome.precededBy ((writePages policy 0 session.variant.pages).hold session after) events := by
  unfold writeAll
  rw [Action.hold_bind_ok (Action.hold_lift_of opened session), Action.hold_get_bind]

/-- A policy that leaves the UID pages alone opens nothing. -/
theorem hold_openUidPages_closed {σ : Type} [Reader σ] {policy : WritePolicy}
    (closed : policy.uid = false) (reader : σ) :
    (openUidPages policy).hold reader = ⟨.ok (), reader, []⟩ := by
  unfold openUidPages
  rw [closed]
  rfl

/-- Without the UID pages, writing the whole image is a pass over all pages. -/
theorem hold_writeAll_closed {σ : Type} [Reader σ] {policy : WritePolicy}
    (closed : policy.uid = false) (session : Session) (reader : σ) :
    (writeAll policy).hold session reader =
      (writePages policy 0 session.variant.pages).hold session reader := by
  rw [hold_writeAll_opened (hold_openUidPages_closed closed reader), Outcome.precededBy_nil]

/-- A pass over the whole of a tag that the session is attached to takes one
of the courses, and its report counts the answers. -/
theorem writePages_wholeCourse {session : Session} {tag : SimulatedTag}
    (attached : session.Attached tag) (policy : WritePolicy) :
    let outcome := (writePages policy 0 session.variant.pages).hold session tag
    ∃ complete, WriteCourse session (plannedPages policy tag.variant) false tag outcome.exchanges
        outcome.value.2 outcome.reader complete ∧
      outcome.value.1 =
        if complete then .ok
          { pages := tag.variant.pages
            written := (outcome.exchanges.filterMap Exchange.verdict?).countP Prod.snd
            skipped := (List.range tag.variant.pages).countP (policy.skips tag.variant)
            failed := (outcome.exchanges.filterMap Exchange.verdict?).countP
              (fun made => !made.2) }
        else .error .tagRemoved := by
  intro outcome
  obtain ⟨complete, course, value⟩ := writePages_takesCourse policy 0 session tag
    (Nat.le_refl session.variant.pages) (Nat.le_of_eq attached.fits.symm)
  rw [Exchange.countP_isAccepted, Exchange.countP_isRefused] at value
  refine ⟨complete, ?_, ?_⟩
  · unfold plannedPages
    rw [← attached.detected, List.range_eq_range']
    exact course
  · rw [← attached.detected, List.range_eq_range']
    exact value

/-- What a pass over the whole of a steady tag leaves behind and reports, told
by the pages that fail. -/
theorem writePages_passEffect {session : Session} {tag : SimulatedTag}
    (attached : session.Attached tag) (steady : tag.Steady) (awake : tag.halted = false)
    (policy : WritePolicy) {fails : Nat → Bool}
    (hfails : ∀ p ∈ plannedPages policy tag.variant,
      tag.refusesAt (plannedPages policy tag.variant) p = fails p) :
    let plan := plannedPages policy tag.variant
    let outcome := (writePages policy 0 session.variant.pages).hold session tag
    PassEffect plan session outcome.value.2 tag outcome.reader outcome.exchanges ∧
      outcome.exchanges.filterMap Exchange.verdict? =
        plan.map (fun p => (UInt8.ofNat p, !fails p)) ∧
      outcome.value.1 = .ok
        { pages := tag.variant.pages
          written := plan.countP (fun p => !fails p)
          skipped := (List.range tag.variant.pages).countP (policy.skips tag.variant)
          failed := plan.countP fails } := by
  intro plan outcome
  obtain ⟨complete, course, value⟩ := writePages_wholeCourse attached policy
  obtain ⟨rfl, effect⟩ := course.passEffect steady (fun _ => awake) attached.selected
    (sorted_plannedPages policy tag.variant) (fun p hp => (mem_plannedPages.mp hp).1)
  rw [if_neg Bool.false_ne_true] at effect
  have verdicts := effect.verdicts_of hfails
  refine ⟨effect, verdicts, ?_⟩
  obtain ⟨written, failed⟩ := Exchange.countP_verdicts plan fails
  rw [value, if_pos rfl, verdicts, written, failed]

end Session

end Ultralight
