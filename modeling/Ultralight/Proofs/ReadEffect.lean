/-
  Ultralight.Proofs.ReadEffect
  ────────────────────────────
  **What a read pass leaves in the image.**

  A refused block costs its own pages; if the tag leaves the field over it,
  every later page too.  `SimulatedTag.yieldsFrom` says so of each page, and
  by induction over the courses of a read pass it is all that decides whether
  the image takes a page from the tag or keeps its own
  (`ReadCourse.passShows`).

  `readAll_effect` reads this off page by page: with the known secrets put
  over it, the bytes past the last page, and the counts of the report.
-/
import Ultralight.Proofs.ReadSequence
import Ultralight.Proofs.SteadyTag

namespace Ultralight

/-! ## §1. Which pages a pass gets. -/

namespace SimulatedTag

/-- Whether the block that page `p` is in is refused. -/
def refusesRead (tag : SimulatedTag) (p : Nat) : Bool :=
  tag.faults.reads.contains (UInt8.ofNat (p - p % blockPages))

/-- Whether a pass that begins at page `first` gets page `p`: its block is
not refused, and neither is any block before it if the tag leaves the field
over a refusal. -/
def yieldsFrom (tag : SimulatedTag) (first p : Nat) : Bool :=
  if tag.faults.removeOnFailure then
    (List.range' first (p + 1 - first)).all fun q => !tag.refusesRead q
  else !tag.refusesRead p

variable {tag : SimulatedTag} {k p : Nat}

/-- The pages of a block are refused together. -/
theorem refusesRead_of_block (first : k * blockPages ≤ p) (last : p < k * blockPages + blockPages) :
    tag.refusesRead p = tag.faults.reads.contains (UInt8.ofNat (k * blockPages)) := by
  have start : p - p % blockPages = k * blockPages := by
    unfold blockPages at first last ⊢
    omega
  unfold refusesRead
  rw [start]

/-- A pass gets the pages of its first block unless that is refused. -/
theorem yieldsFrom_of_block (first : k * blockPages ≤ p)
    (last : p < k * blockPages + blockPages) :
    tag.yieldsFrom (k * blockPages) p =
      !tag.faults.reads.contains (UInt8.ofNat (k * blockPages)) := by
  unfold yieldsFrom
  split
  · -- every page from the first one on is in the same block
    have same : ∀ q ∈ List.range' (k * blockPages) (p + 1 - k * blockPages),
        (!tag.refusesRead q) = !tag.faults.reads.contains (UInt8.ofNat (k * blockPages)) := by
      intro q hq
      have := List.mem_range'_1.mp hq
      rw [refusesRead_of_block (k := k) (by omega) (by omega)]
    cases hrefused : tag.faults.reads.contains (UInt8.ofNat (k * blockPages)) with
    | true =>
        rw [hrefused] at same
        refine List.all_eq_false.mpr ⟨p, List.mem_range'_1.mpr (by omega), ?_⟩
        rw [same p (List.mem_range'_1.mpr (by omega))]
        exact Bool.false_ne_true
    | false =>
        rw [hrefused] at same
        exact List.all_eq_true.mpr same
  · rw [refusesRead_of_block first last]

/-- A first block that is refused is the end on a tag that leaves the field
over it, and makes no difference to later pages otherwise. -/
theorem yieldsFrom_of_beyond (beyond : k * blockPages + blockPages ≤ p) :
    tag.yieldsFrom (k * blockPages) p =
      (!(tag.faults.reads.contains (UInt8.ofNat (k * blockPages)) && tag.faults.removeOnFailure) &&
        tag.yieldsFrom ((k + 1) * blockPages) p) := by
  have next : (k + 1) * blockPages = k * blockPages + blockPages := Nat.succ_mul k blockPages
  unfold yieldsFrom
  cases hremoved : tag.faults.removeOnFailure with
  | false => simp
  | true =>
      rw [if_pos rfl, if_pos rfl, Bool.and_true]
      have cut : List.range' (k * blockPages) (p + 1 - k * blockPages) =
          List.range' (k * blockPages) blockPages ++
            List.range' ((k + 1) * blockPages) (p + 1 - (k + 1) * blockPages) := by
        rw [next, List.range'_append_1]
        congr 1
        omega
      rw [cut, List.all_append]
      congr 1
      -- the four pages of the first block are refused together
      have same : ∀ q ∈ List.range' (k * blockPages) blockPages, tag.refusesRead q =
          tag.faults.reads.contains (UInt8.ofNat (k * blockPages)) := by
        intro q hq
        have := List.mem_range'_1.mp hq
        exact refusesRead_of_block (by omega) (by omega)
      have start : k * blockPages ∈ List.range' (k * blockPages) blockPages :=
        List.mem_range'_1.mpr ⟨Nat.le_refl _, Nat.lt_add_of_pos_right (by decide)⟩
      rw [Bool.eq_iff_iff, List.all_eq_true]
      refine ⟨fun all => ?_, fun shown q hq => ?_⟩
      · rw [← same _ start]
        exact all _ start
      · rw [same q hq]
        exact shown

end SimulatedTag

/-! ## §2. The effect of a course. -/

namespace Session

open Dialogue (Outcome)

/-- The markers of the pages from `first` on, by whether they were read. -/
def readMarkers (got : Nat → Bool) (first pages : Nat) : List Marker :=
  (List.range' first (pages - first)).map fun p => if got p then .done else .failed

theorem count_done_readMarkers (got : Nat → Bool) (first pages : Nat) :
    (readMarkers got first pages).count .done = (List.range' first (pages - first)).countP got := by
  unfold readMarkers
  rw [List.count_eq_countP, List.countP_map]
  refine List.countP_congr fun p _ => ?_
  cases h : got p <;> simp [h]

theorem count_failed_readMarkers (got : Nat → Bool) (first pages : Nat) :
    (readMarkers got first pages).count .failed =
      (List.range' first (pages - first)).countP (fun p => !got p) := by
  unfold readMarkers
  rw [List.count_eq_countP, List.countP_map]
  refine List.countP_congr fun p _ => ?_
  cases h : got p <;> simp [h]

/-- The markers of a block, as far as it is on the tag, come before those of
the pages after it. -/
theorem readMarkers_block {got later : Nat → Bool} {first pages : Nat} {shown : Bool}
    (block : ∀ p, first ≤ p → p < first + blockPages → got p = shown)
    (beyond : ∀ p, first + blockPages ≤ p → got p = later p) :
    readMarkers got first pages =
      List.replicate (min (pages - first) blockPages) (if shown then .done else .failed) ++
        readMarkers later (first + blockPages) pages := by
  have cut : List.range' first (pages - first) =
      List.range' first (min (pages - first) blockPages) ++
        List.range' (first + blockPages) (pages - (first + blockPages)) := by
    by_cases whole : blockPages ≤ pages - first
    · rw [Nat.min_eq_right whole, List.range'_append_1]
      congr 1
      omega
    · -- the last block is cut, and nothing comes after it
      rw [Nat.min_eq_left (by omega), show pages - (first + blockPages) = 0 by omega]
      simp
  unfold readMarkers
  rw [cut, List.map_append]
  congr 1
  · rw [List.eq_replicate_iff]
    refine ⟨by simp, fun marker hmarker => ?_⟩
    obtain ⟨p, hp, rfl⟩ := List.mem_map.mp hmarker
    have := List.mem_range'_1.mp hp
    rw [block p (by omega) (by omega)]
  · refine List.map_congr_left fun p hp => ?_
    have := List.mem_range'_1.mp hp
    rw [beyond p (by omega)]

/-- Every page fails from which nothing was got. -/
theorem readMarkers_of_never {got : Nat → Bool} {first pages : Nat}
    (never : ∀ p, first ≤ p → got p = false) :
    readMarkers got first pages = List.replicate (pages - first) .failed := by
  unfold readMarkers
  rw [List.eq_replicate_iff]
  refine ⟨by simp, fun marker hmarker => ?_⟩
  obtain ⟨p, hp, rfl⟩ := List.mem_map.mp hmarker
  rw [never p (List.mem_range'_1.mp hp).1]
  rfl

/-- A stretch of a pass, from page `first` on, that got some pages of the
tag and none of the others. -/
structure PassShows (got : Nat → Bool) (first : Nat) (tag : SimulatedTag) (session final : Session)
    (markers : List Marker) : Prop where
  variant : final.variant = session.variant
  credentials : final.credentials = session.credentials
  fits : final.image.pages = session.image.pages
  markers : markers = readMarkers got first session.image.pages
  page : ∀ p, final.image.pageAt p =
    if first ≤ p ∧ p < session.image.pages ∧ got p then tag.shown p else session.image.pageAt p
  past : ∀ i, session.image.pages * pageSize ≤ i →
    final.image.bytes[i]? = session.image.bytes[i]?

namespace PassShows

variable {got later : Nat → Bool} {first : Nat} {tag : SimulatedTag} {session final : Session}
  {markers : List Marker}

/-- Past the end of the tag there is nothing to get. -/
theorem nil (past : session.image.pages ≤ first) :
    PassShows got first tag session session [] where
  variant := rfl
  credentials := rfl
  fits := rfl
  markers := by
    unfold readMarkers
    rw [Nat.sub_eq_zero_of_le past]
    rfl
  page p := by rw [if_neg (by omega)]
  past _ _ := rfl

/-- A block that is shown comes before what the rest of the pass gets. -/
theorem shown (fits : session.image.pages = tag.variant.pages) (hfirst : first < tag.variant.pages)
    (block : ∀ p, first ≤ p → p < first + blockPages → got p = true)
    (beyond : ∀ p, first + blockPages ≤ p → got p = later p)
    (rest : PassShows later (first + blockPages) tag
      { session with image := session.image.withBlock first (tag.blockAt first) } final markers) :
    PassShows got first tag session final
      (List.replicate (session.image.blockCount first) .done ++ markers) where
  variant := rest.variant
  credentials := rest.credentials
  fits := rest.fits
  markers := by
    rw [readMarkers_block block beyond, rest.markers]
    rfl
  page p := by
    rw [rest.page p]
    dsimp only
    rw [Image.pages_withBlock, Image.pageAt_withBlock]
    by_cases onTag : p < session.image.pages
    · by_cases before : p < first
      · rw [if_neg (by omega), if_neg (by omega), if_neg (by omega)]
      · by_cases inBlock : p < first + blockPages
        · -- later blocks leave the page as this one set it
          rw [if_neg (by omega), if_pos ⟨by omega, inBlock, onTag⟩,
            if_pos ⟨by omega, onTag, block p (by omega) inBlock⟩]
          exact SimulatedTag.pageAt_blockAt (by omega) inBlock (by omega)
        · rw [if_neg (c := first ≤ p ∧ p < first + blockPages ∧ _) (by omega), beyond p (by omega)]
          simp only [onTag, true_and, show first ≤ p by omega, show first + blockPages ≤ p by omega]
    · rw [if_neg (by omega), if_neg (by omega), if_neg (by omega)]
  past i hi := by
    rw [rest.past i hi]
    exact Image.getElem?_withBlock_past _ (by omega) _ hi

/-- A block that is not read comes before what the rest of the pass gets. -/
theorem refused (block : ∀ p, first ≤ p → p < first + blockPages → got p = false)
    (beyond : ∀ p, first + blockPages ≤ p → got p = later p)
    (rest : PassShows later (first + blockPages) tag session final markers) :
    PassShows got first tag session final
      (List.replicate (min (session.image.pages - first) blockPages) .failed ++ markers) where
  variant := rest.variant
  credentials := rest.credentials
  fits := rest.fits
  markers := by
    rw [readMarkers_block block beyond, rest.markers]
    rfl
  page p := by
    rw [rest.page p]
    by_cases inBlock : first ≤ p ∧ p < first + blockPages
    · rw [if_neg (by omega), if_neg]
      rw [block p inBlock.1 inBlock.2]
      simp
    · by_cases after : first + blockPages ≤ p
      · rw [beyond p after]
        simp only [after, show first ≤ p by omega]
      · rw [if_neg (by omega), if_neg (by omega)]
  past := rest.past

/-- A tag that is gone yields nothing more. -/
theorem none (never : ∀ p, first ≤ p → got p = false) :
    PassShows got first tag session session
      (List.replicate (session.image.pages - first) .failed) where
  variant := rfl
  credentials := rfl
  fits := rfl
  markers := (readMarkers_of_never never).symm
  page p := by
    rw [if_neg]
    rintro ⟨hfirst, _, hgot⟩
    rw [never p hfirst] at hgot
    exact Bool.false_ne_true hgot
  past _ _ := rfl

end PassShows

/-- **What each course of a read pass gets** from a tag that selections find.
A tag that sleeps is found again unless it left the field over the refusal
that put it to sleep. -/
theorem ReadCourse.passShows {session final : Session} {plan : List Nat} {asleep : Bool}
    {tag last : SimulatedTag} {exchanges : List Exchange} {markers : List Marker}
    (course : ReadCourse session.variant.pages session plan asleep tag exchanges markers final last)
    (selectable : tag.Selectable) (framed : tag.inRawMode = false)
    (awake : asleep = false → tag.present = true ∧ tag.halted = false)
    (gone : asleep = true → tag.present = !tag.faults.removeOnFailure)
    (detected : session.variant = tag.variant) (fits : session.image.pages = tag.variant.pages)
    (wanted : session.wantedUid = some tag.uid) {k m : Nat}
    (blocks : plan = (List.range' k m).map (· * blockPages))
    (within : ∀ first ∈ plan, first < tag.variant.pages)
    (covers : tag.variant.pages ≤ (k + m) * blockPages) :
    last.contents = tag.contents ∧
      PassShows
        (fun p => !(asleep && tag.faults.removeOnFailure) && tag.yieldsFrom (k * blockPages) p)
        (k * blockPages) tag session final markers := by
  generalize hpages : session.variant.pages = pages at course
  induction course generalizing k m with
  | finished session asleep tag =>
      obtain rfl : m = 0 := by simpa using blocks.symm
      exact ⟨rfl, .nil (by rw [fits]; exact covers)⟩
  | @shown session final first plan tag after last block exchanges markers answered rest ih =>
      obtain ⟨m, rfl⟩ : ∃ n, m = n + 1 := by
        cases m with
        | zero => simp at blocks
        | succ n => exact ⟨n, rfl⟩
      obtain ⟨rfl, rfl⟩ := List.cons.inj blocks
      have next : (k + 1) * blockPages = k * blockPages + blockPages := Nat.succ_mul k blockPages
      have hfirst := within _ List.mem_cons_self
      have ready := SimulatedTag.ready_of_awake (awake rfl).1 framed (awake rfl).2
      cases hrefused : tag.faults.reads.contains (UInt8.ofNat (k * blockPages)) with
      | true =>
          -- a block that the plan of faults refuses is not shown
          rw [SimulatedTag.answer_read_refused ready hfirst hrefused] at answered
          cases (Prod.mk.inj answered).1
      | false =>
          rw [SimulatedTag.answer_read_shown ready hfirst hrefused] at answered
          obtain ⟨hblock, rfl⟩ := Prod.mk.inj answered
          cases hblock
          obtain ⟨same, shows⟩ := ih selectable framed (fun _ => awake rfl) (fun h => by cases h)
            detected fits wanted rfl (fun f hf => within f (List.mem_cons_of_mem _ hf))
            (by rw [show k + 1 + m = k + (m + 1) by omega]; exact covers) hpages
          rw [next] at shows
          refine ⟨same, .shown fits hfirst (fun p h1 h2 => ?_) (fun p h => ?_) shows⟩
          · rw [SimulatedTag.yieldsFrom_of_block h1 h2, hrefused]
            rfl
          · rw [SimulatedTag.yieldsFrom_of_beyond h, hrefused, next]
            rfl
  | @refused session final first plan tag after last error exchanges markers answered rest ih =>
      obtain ⟨m, rfl⟩ : ∃ n, m = n + 1 := by
        cases m with
        | zero => simp at blocks
        | succ n => exact ⟨n, rfl⟩
      obtain ⟨rfl, rfl⟩ := List.cons.inj blocks
      have next : (k + 1) * blockPages = k * blockPages + blockPages := Nat.succ_mul k blockPages
      have hfirst := within _ List.mem_cons_self
      have ready := SimulatedTag.ready_of_awake (awake rfl).1 framed (awake rfl).2
      cases hrefused : tag.faults.reads.contains (UInt8.ofNat (k * blockPages)) with
      | false =>
          rw [SimulatedTag.answer_read_shown ready hfirst hrefused] at answered
          cases (Prod.mk.inj answered).1
      | true =>
          rw [SimulatedTag.answer_read_refused ready hfirst hrefused] at answered
          obtain ⟨_, rfl⟩ := Prod.mk.inj answered
          obtain ⟨same, shows⟩ := ih ⟨selectable.found, selectable.heard⟩ framed
            (fun h => by cases h) (fun _ => by dsimp only; rw [(awake rfl).1, Bool.true_and])
            detected fits wanted rfl (fun f hf => within f (List.mem_cons_of_mem _ hf))
            (by rw [show k + 1 + m = k + (m + 1) by omega]; exact covers) hpages
          rw [next] at shows
          rw [← hpages, detected, ← fits]
          refine ⟨same, .refused (fun p h1 h2 => ?_) (fun p h => ?_) ⟨shows.variant,
            shows.credentials, shows.fits, shows.markers, shows.page, shows.past⟩⟩
          · rw [SimulatedTag.yieldsFrom_of_block h1 h2, hrefused]
            rfl
          · rw [SimulatedTag.yieldsFrom_of_beyond h, hrefused, next]
            rfl
  | @woken session final first plan tag after last target exchanges markers answered rest ih =>
      -- a selection finds a tag that is there, as it was but awake
      rw [wanted, SimulatedTag.answer_select selectable] at answered
      split at answered
      · next present =>
        obtain ⟨found, rfl⟩ := Prod.mk.inj answered
        cases found
        have stays : tag.faults.removeOnFailure = false := by
          have := gone rfl
          rw [present] at this
          simpa using this
        obtain ⟨same, shows⟩ := ih ⟨selectable.found, selectable.heard⟩ framed
          (fun _ => ⟨present, rfl⟩) (fun h => by cases h) detected fits rfl blocks within covers
          hpages
        refine ⟨same, ?_⟩
        rw [stays, Bool.and_false]
        exact ⟨shows.variant, shows.credentials, shows.fits, shows.markers, shows.page,
          shows.past⟩
      · cases (Prod.mk.inj answered).1
  | @lost session first plan tag after reply answered missing =>
      obtain ⟨m, rfl⟩ : ∃ n, m = n + 1 := by
        cases m with
        | zero => simp at blocks
        | succ n => exact ⟨n, rfl⟩
      obtain ⟨rfl, rfl⟩ := List.cons.inj blocks
      rw [wanted, SimulatedTag.answer_select selectable] at answered
      split at answered
      · -- a tag that is there would have been found
        obtain ⟨rfl, rfl⟩ := Prod.mk.inj answered
        cases missing
      · next absent =>
        obtain ⟨rfl, rfl⟩ := Prod.mk.inj answered
        have removed : tag.faults.removeOnFailure = true := by
          have := gone rfl
          simpa [absent] using this
        rw [← hpages, detected, ← fits]
        refine ⟨rfl, .none fun p _ => ?_⟩
        rw [removed]
        rfl

/-! ## §3. The effect of a pass. -/

/-- The effect of a read pass over the whole tag. -/
structure ReadEffect (session : Session) (tag : SimulatedTag)
    (outcome : Outcome SimulatedTag (Except Error ReadReport × Session)) : Prop where
  /-- Reading leaves the memory of the tag alone. -/
  contents : outcome.reader.contents = tag.contents
  /-- The image is of the size it was. -/
  fits : outcome.value.2.image.pages = tag.variant.pages
  /-- A page that the pass gets is the tag's as READ shows it, any other page
  is what it was; then the known secrets are put in. -/
  page : ∀ p, p < tag.variant.pages → outcome.value.2.image.pageAt p =
    session.credentials.putInto tag.variant p
      (if tag.yieldsFrom 0 p then tag.shown p else session.image.pageAt p)
  /-- The bytes past the last page are what they were. -/
  past : ∀ i, tag.variant.pages * pageSize ≤ i →
    outcome.value.2.image.bytes[i]? = session.image.bytes[i]?
  /-- The pass ends well, and counts the two kinds of pages. -/
  report : outcome.value.1 = .ok
    { pages := tag.variant.pages
      read := (List.range tag.variant.pages).countP (tag.yieldsFrom 0)
      failed := (List.range tag.variant.pages).countP (fun p => !tag.yieldsFrom 0 p) }

section

variable {session : Session} {tag : SimulatedTag} (attached : session.Attached tag)
  (present : tag.present = true) (awake : tag.halted = false) (framed : tag.inRawMode = false)
  (selectable : tag.Selectable)

include attached present awake framed selectable

/-- A read pass takes pages as `PassShows` says; then the known secrets go
in. -/
theorem readAll_passShows :
    let outcome := readAll.hold session tag
    ∃ markers final, outcome.reader.contents = tag.contents ∧
      PassShows (tag.yieldsFrom 0) 0 tag session final markers ∧
      outcome.value = (.ok (ReadReport.ofMarkers session.variant.pages markers),
        { final with image := final.image.withSecrets final.variant final.credentials }) := by
  intro outcome
  obtain ⟨markers, final, course, value⟩ := readAll_takesCourse session tag attached.fits
  have fits : session.image.pages = tag.variant.pages := attached.fits.trans
    (congrArg Variant.pages attached.detected)
  have covers : tag.variant.pages ≤
      (0 + (tag.variant.pages + (blockPages - 1)) / blockPages) * blockPages := by
    unfold blockPages
    omega
  obtain ⟨contents, shows⟩ := course.passShows selectable framed (fun _ => ⟨present, awake⟩)
    (fun h => by cases h) attached.detected fits attached.wanted (k := 0)
    (by rw [attached.detected, ← List.range_eq_range']; rfl)
    (fun first hfirst => by
      rw [← attached.detected]
      exact lt_pages_of_mem_blockStarts hfirst)
    covers
  simp only [Bool.false_and, Bool.not_false, Bool.true_and, Nat.zero_mul] at shows
  exact ⟨markers, final, contents, shows, value⟩

/-- A page that the pass gets is the tag's as READ shows it, any other page is
what it was; then the known secrets are put in. -/
theorem pageAt_readAll {p : Nat} (hp : p < tag.variant.pages) :
    (readAll.hold session tag).value.2.image.pageAt p =
      session.credentials.putInto tag.variant p
        (if tag.yieldsFrom 0 p then tag.shown p else session.image.pageAt p) := by
  obtain ⟨markers, final, _, shows, value⟩ :=
    readAll_passShows attached present awake framed selectable
  have finalFits : final.image.pages = final.variant.pages := by
    rw [shows.fits, shows.variant]
    exact attached.fits
  rw [value]
  dsimp only
  rw [Image.pageAt_withSecrets finalFits, shows.page p, shows.variant, shows.credentials,
    attached.fits, attached.detected]
  simp only [Nat.zero_le, hp, true_and]

/-- The pass ends well, and counts the pages it gets and the others. -/
theorem report_readAll :
    (readAll.hold session tag).value.1 = .ok
      { pages := tag.variant.pages
        read := (List.range tag.variant.pages).countP (tag.yieldsFrom 0)
        failed := (List.range tag.variant.pages).countP (fun p => !tag.yieldsFrom 0 p) } := by
  obtain ⟨markers, final, _, shows, value⟩ :=
    readAll_passShows attached present awake framed selectable
  rw [value]
  dsimp only
  unfold ReadReport.ofMarkers
  rw [shows.markers, count_done_readMarkers, count_failed_readMarkers, attached.fits,
    attached.detected, Nat.sub_zero, ← List.range_eq_range']

end

/-- **The effect of a read pass.**  On a tag that is there and awake, that was
detected and is the target, and that selections find as long as it is there,
a pass leaves the memory alone, takes the pages of every block that it gets,
and counts the others. -/
theorem readAll_effect {session : Session} {tag : SimulatedTag} (attached : session.Attached tag)
    (present : tag.present = true) (awake : tag.halted = false) (framed : tag.inRawMode = false)
    (selectable : tag.Selectable) : ReadEffect session tag (readAll.hold session tag) := by
  obtain ⟨markers, final, contents, shows, value⟩ :=
    readAll_passShows attached present awake framed selectable
  have fits : final.image.pages = final.variant.pages := by
    rw [shows.fits, shows.variant]
    exact attached.fits
  have size : final.image.pages = tag.variant.pages := by
    rw [shows.fits, attached.fits, attached.detected]
  refine ⟨contents, ?_, fun p hp => ?_, fun i hi => ?_, ?_⟩
  · rw [value]
    dsimp only
    rw [Image.pages_withSecrets, size]
  · exact pageAt_readAll attached present awake framed selectable hp
  · rw [value]
    dsimp only
    rw [Image.getElem?_withSecrets_past fits _ (by rw [size]; exact hi),
      shows.past i (by rw [attached.fits, attached.detected]; exact hi)]
  · exact report_readAll attached present awake framed selectable

/-- A protected tag of 41 pages that refuses its third block, read by a
session that knows the password and whose image holds something already: the
refused pages keep it, the last block is one page, and PWD and PACK are those
of the session. -/
theorem readAll_effect_protected :
    let tag : SimulatedTag :=
      { SimulatedTag.fresh .ev1Ul21 with
        password := some ⟨⟨0x12, 0x34, 0x56, 0x78⟩⟩
        halted := false
        faults := { Faults.none with reads := [8] } }
    let session : Session :=
      { fresh .default with
        target := some tag.target
        variant := .ev1Ul21
        credentials := .of ⟨⟨0x12, 0x34, 0x56, 0x78⟩⟩ ⟨0xaa, 0x55⟩
        image := (Image.blank .ev1Ul21).overlay 0 (List.replicate 168 0xf0) }
    let outcome := readAll.hold session tag
    session.Attached tag ∧ tag.present = true ∧ tag.halted = false ∧ tag.inRawMode = false ∧
      tag.Selectable ∧ ReadEffect session tag outcome ∧
      outcome.value.1 = .ok { pages := 41, read := 37, failed := 4 } ∧
      outcome.value.2.image.pageAt 0 = ⟨0x04, 0x01, 0x02, 0x8f⟩ ∧
      outcome.value.2.image.pageAt 8 = ⟨0xf0, 0xf0, 0xf0, 0xf0⟩ ∧
      outcome.value.2.image.pageAt 0x27 = ⟨0x12, 0x34, 0x56, 0x78⟩ ∧
      outcome.value.2.image.pageAt 0x28 = ⟨0xaa, 0x55, 0x00, 0x00⟩ := by
  intro tag session outcome
  have attached : session.Attached tag := ⟨rfl, rfl, rfl⟩
  have effect : ReadEffect session tag outcome :=
    readAll_effect attached rfl rfl rfl ⟨rfl, rfl⟩
  refine ⟨attached, rfl, rfl, rfl, ⟨rfl, rfl⟩, effect, ?_, ?_, ?_, ?_, ?_⟩
  · exact effect.report.trans (congrArg Except.ok (by decide))
  · exact (effect.page 0 (by decide)).trans (by decide +kernel)
  · exact (effect.page 8 (by decide)).trans (by decide +kernel)
  · exact (effect.page 0x27 (by decide)).trans (by decide +kernel)
  · exact (effect.page 0x28 (by decide)).trans (by decide +kernel)

end Session

end Ultralight
