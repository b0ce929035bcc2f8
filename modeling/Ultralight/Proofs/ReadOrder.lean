/-
  Ultralight.Proofs.ReadOrder
  ───────────────────────────
  **The order of a read pass, and what becomes of what it was shown.**

  Nothing is assumed of the reader here.  What a read pass asks, reports and
  leaves in the image depends on the answers it got and on nothing else:

    • a refused READ is followed by a selection, a block that was shown and a
      selection with a find by a READ (`ReadCourse.order`),
    • the READs begin at the blocks of the tag, in order and none of them
      twice (`ReadCourse.reads`),
    • `pageShown?` is what the READs showed of a page; the markers tell of
      which pages there is any (`ReadCourse.markers_eq`), and the image takes
      those and keeps the others (`ReadCourse.pageAt`).

  `readAll_sequence` puts them together with the report and the line that is
  logged.
-/
import Mathlib.Data.List.Sort
import Ultralight.Proofs.ReadEffect
import Ultralight.Proofs.WriteSequence

namespace Ultralight

/-! ## §1. Exchanges of a read pass. -/

namespace Exchange

/-- The page that a READ begins at. -/
def read? : Exchange → Option Nat
  | ⟨.read page, _⟩ => some page.toNat
  | _ => none

/-- The block that a READ from this page on showed. -/
def showed? (first : Nat) : Exchange → Option Block
  | ⟨.read page, .ok block⟩ => if page.toNat = first then some block else none
  | _ => none

/-- Only a READ from that page on shows its block. -/
theorem showed?_of_not_read {made : Exchange} {first : Nat} (h : made.read? ≠ some first) :
    made.showed? first = none := by
  rcases made with ⟨request, reply⟩
  cases request with
  | read page =>
      cases reply with
      | error error => rfl
      | ok block => exact if_neg fun same => h (congrArg some same)
  | _ => rfl

end Exchange

/-- What may open the rest of a read pass, by whether the tag sleeps. -/
inductive OpensRead : Bool → Exchange → Prop where
  /-- A tag that is awake is read. -/
  | awake (page : UInt8) (reply : Except Error Block) : OpensRead false ⟨.read page, reply⟩
  /-- A tag that sleeps is selected. -/
  | asleep (uid : Option Uid) (reply : Except Error (Option Target)) :
      OpensRead true ⟨.select uid, reply⟩

/-- What may follow what in a read pass. -/
inductive FollowsRead : Exchange → Exchange → Prop where
  /-- After a block that was shown, the next READ. -/
  | shown {page : UInt8} {block : Block} {next : Exchange} :
      OpensRead false next → FollowsRead ⟨.read page, .ok block⟩ next
  /-- After a refused READ, a selection. -/
  | refused {page : UInt8} {error : Error} {next : Exchange} :
      OpensRead true next → FollowsRead ⟨.read page, .error error⟩ next
  /-- After a selection that found a tag, a READ. -/
  | found {uid : Option Uid} {target : Target} {next : Exchange} :
      OpensRead false next → FollowsRead ⟨.select uid, .ok (some target)⟩ next

/-- What READs among these exchanges showed of page `p`, as part of the block
that it is in. -/
def pageShown? (exchanges : List Exchange) (p : Nat) : Option Page :=
  (exchanges.findSome? (Exchange.showed? (p - p % blockPages))).map
    (·.pageAt (p % blockPages))

/-- The first pages of the blocks of a tag of so many pages, from page `first`
on. -/
def blocksFrom (first pages : Nat) : List Nat :=
  (List.range' first (pages - first)).filter (· % blockPages = 0)

/-! ## §2. Blocks in order. -/

section

variable {first pages p q : Nat}

theorem mem_blocksFrom : q ∈ blocksFrom first pages ↔ first ≤ q ∧ q < pages ∧ q % blockPages = 0 := by
  unfold blocksFrom
  rw [List.mem_filter, List.mem_range'_1, decide_eq_true_iff]
  omega

theorem sorted_blocksFrom (first pages : Nat) : (blocksFrom first pages).Pairwise (· < ·) :=
  List.Pairwise.filter _ List.pairwise_lt_range'

theorem blocksFrom_of_le (h : pages ≤ first) : blocksFrom first pages = [] := by
  unfold blocksFrom
  rw [Nat.sub_eq_zero_of_le h]
  rfl

/-- The block that page `first` opens comes first. -/
theorem blocksFrom_cons (aligned : first % blockPages = 0) (h : first < pages) :
    blocksFrom first pages = first :: blocksFrom (first + blockPages) pages := by
  have sorted : (first :: blocksFrom (first + blockPages) pages).Pairwise (· < ·) := by
    refine List.pairwise_cons.mpr ⟨fun q hq => ?_, sorted_blocksFrom _ _⟩
    have := (mem_blocksFrom.mp hq).1
    unfold blockPages at this
    omega
  refine (sorted_blocksFrom first pages).eq_of_mem_iff sorted fun q => ?_
  rw [List.mem_cons, mem_blocksFrom, mem_blocksFrom]
  unfold blockPages at aligned ⊢
  omega

/-- What is left of a list of blocks after the first one. -/
theorem of_blocksFrom_cons {plan : List Nat} (aligned : first % blockPages = 0)
    (h : q :: plan = blocksFrom first pages) :
    q = first ∧ first < pages ∧ plan = blocksFrom (first + blockPages) pages := by
  have within : first < pages := by
    by_contra beyond
    rw [blocksFrom_of_le (by omega)] at h
    cases h
  rw [blocksFrom_cons aligned within] at h
  obtain ⟨rfl, rfl⟩ := List.cons.inj h
  exact ⟨rfl, within, rfl⟩

/-- A read pass goes over all the blocks of the tag. -/
theorem Session.blockStarts_eq (pages : Nat) : blockStarts pages = blocksFrom 0 pages := by
  refine List.Pairwise.eq_of_mem_iff (r := (· < ·)) ?_ (sorted_blocksFrom 0 pages) fun q => ?_
  · refine List.pairwise_map.mpr (List.pairwise_lt_range.imp ?_)
    intro a b less
    unfold blockPages
    omega
  · rw [mem_blocksFrom]
    unfold blockStarts blockPages
    rw [List.mem_map]
    constructor
    · rintro ⟨k, hk, rfl⟩
      have := List.mem_range.mp hk
      omega
    · rintro ⟨-, within, aligned⟩
      exact ⟨q / 4, List.mem_range.mpr (by omega), by omega⟩

end

/-! ## §3. What was shown of a page. -/

section

variable {exchanges : List Exchange} {first p : Nat}

/-- An exchange other than the READ of its block tells nothing of a page. -/
theorem pageShown?_cons_of_none {made : Exchange} (h : made.showed? (p - p % blockPages) = none) :
    pageShown? (made :: exchanges) p = pageShown? exchanges p := by
  unfold pageShown?
  rw [List.findSome?_cons, h]

/-- Nothing is shown of a page whose block is not read. -/
theorem pageShown?_of_not_read
    (h : p - p % blockPages ∉ exchanges.filterMap Exchange.read?) :
    pageShown? exchanges p = none := by
  unfold pageShown?
  rw [List.findSome?_eq_none_iff.mpr fun made listed => Exchange.showed?_of_not_read fun read =>
    h (List.mem_filterMap.mpr ⟨made, listed, read⟩)]
  rfl

/-- A block that is shown shows its pages. -/
theorem pageShown?_cons_block (aligned : first % blockPages = 0) (small : first < maxPages)
    (block : Block) (after : first ≤ p) (before : p < first + blockPages) :
    pageShown? (⟨.read (UInt8.ofNat first), .ok block⟩ :: exchanges) p =
      some (block.pageAt (p - first)) := by
  have start : p - p % blockPages = first := by unfold blockPages at aligned before ⊢; omega
  have place : p % blockPages = p - first := by unfold blockPages at aligned before ⊢; omega
  have shown : Exchange.showed? first ⟨.read (UInt8.ofNat first), .ok block⟩ = some block :=
    if_pos (toNat_ofNat_page small)
  unfold pageShown?
  rw [start, place, List.findSome?_cons, shown]
  rfl

/-- The READ of a block shows nothing of the pages of another. -/
theorem pageShown?_cons_other (aligned : first % blockPages = 0) (small : first < maxPages)
    (reply : Except Error Block) (other : p < first ∨ first + blockPages ≤ p) :
    pageShown? (⟨.read (UInt8.ofNat first), reply⟩ :: exchanges) p = pageShown? exchanges p := by
  refine pageShown?_cons_of_none (Exchange.showed?_of_not_read fun same => ?_)
  have start := (toNat_ofNat_page small).symm.trans (Option.some.inj same)
  unfold blockPages at aligned other start
  omega

end

/-! ## §4. The order of a course. -/

namespace Session

variable {σ : Type} [Reader σ]

namespace ReadCourse

variable {pages : Nat} {session final : Session} {plan : List Nat} {asleep : Bool}
  {reader last : σ} {exchanges : List Exchange} {markers : List Marker}

/-- The answers are those of the reader, which was asked nothing else. -/
theorem conversed (course : ReadCourse pages session plan asleep reader exchanges markers final
    last) : Conversed reader exchanges last := by
  induction course with
  | finished => rfl
  | shown answered rest ih => exact ⟨by rw [answered], by rw [answered]; exact ih⟩
  | refused answered rest ih => exact ⟨by rw [answered], by rw [answered]; exact ih⟩
  | woken answered rest ih => exact ⟨by rw [answered], by rw [answered]; exact ih⟩
  | lost answered missing => exact ⟨by rw [answered], by rw [answered]; rfl⟩

/-- A tag that is awake is read first, one that sleeps is selected. -/
theorem opens (course : ReadCourse pages session plan asleep reader exchanges markers final
    last) : ∀ made ∈ exchanges.head?, OpensRead asleep made := by
  cases course with
  | finished => intro made hmade; cases hmade
  | shown answered rest => rintro made ⟨⟩; exact .awake _ _
  | refused answered rest => rintro made ⟨⟩; exact .awake _ _
  | woken answered rest => rintro made ⟨⟩; exact .asleep _ _
  | lost answered missing => rintro made ⟨⟩; exact .asleep _ _

/-- Each exchange calls for the next one. -/
theorem order (course : ReadCourse pages session plan asleep reader exchanges markers final
    last) : exchanges.IsChain FollowsRead := by
  induction course with
  | finished => exact .nil
  | shown answered rest ih =>
      exact List.isChain_cons.mpr ⟨fun next hnext => .shown (rest.opens next hnext), ih⟩
  | refused answered rest ih =>
      exact List.isChain_cons.mpr ⟨fun next hnext => .refused (rest.opens next hnext), ih⟩
  | woken answered rest ih =>
      exact List.isChain_cons.mpr ⟨fun next hnext => .found (rest.opens next hnext), ih⟩
  | lost answered missing => exact .singleton _

/-- A tag that was found again is read: its selection is never the last
exchange. -/
theorem presses_on (course : ReadCourse pages session plan asleep reader exchanges markers final
    last) : ∀ made ∈ exchanges.getLast?, made.found? = none := by
  have later : ∀ {made : Exchange} {more : List Exchange}, made.found? = none →
      (∀ made ∈ more.getLast?, made.found? = none) →
      ∀ ended ∈ (made :: more).getLast?, ended.found? = none := by
    intro made more missing rest
    rcases more with _ | ⟨next, more⟩
    · rintro ended ⟨⟩
      exact missing
    · exact rest
  induction course with
  | finished => intro made hmade; cases hmade
  | shown answered rest ih => exact later rfl ih
  | refused answered rest ih => exact later rfl ih
  | woken answered rest ih =>
      -- a block is still planned, so a READ follows
      cases rest with
      | shown answered rest => exact ih
      | refused answered rest => exact ih
  | lost answered missing =>
      rintro made ⟨⟩
      exact missing

/-- The READs begin at the planned blocks, in order, as far as they go. -/
theorem reads (course : ReadCourse pages session plan asleep reader exchanges markers final
    last) (small : ∀ q ∈ plan, q < maxPages) : exchanges.filterMap Exchange.read? <+: plan := by
  induction course with
  | finished => exact List.prefix_rfl
  | shown answered rest ih =>
      obtain ⟨first, later⟩ := List.forall_mem_cons.mp small
      exact List.cons_prefix_cons.mpr ⟨toNat_ofNat_page first, ih later⟩
  | refused answered rest ih =>
      obtain ⟨first, later⟩ := List.forall_mem_cons.mp small
      exact List.cons_prefix_cons.mpr ⟨toNat_ofNat_page first, ih later⟩
  | woken answered rest ih => exact ih small
  | lost answered missing => exact List.nil_prefix

/-- A pass that did not lose the tag made as many READs as there are blocks
planned. -/
theorem length_reads_of_not_lost (course : ReadCourse pages session plan asleep reader exchanges
    markers final last) (kept : ¬ TagLost exchanges) :
    (exchanges.filterMap Exchange.read?).length = plan.length := by
  induction course with
  | finished => rfl
  | shown answered rest ih =>
      exact congrArg Nat.succ (ih (by rwa [tagLost_cons (.inl rfl)] at kept))
  | refused answered rest ih =>
      exact congrArg Nat.succ (ih (by rwa [tagLost_cons (.inl rfl)] at kept))
  | woken answered rest ih => exact ih (by rwa [tagLost_cons (.inr rfl)] at kept)
  | lost answered missing => exact absurd ⟨_, rfl, rfl, missing⟩ kept

/-- A pass that lost the tag left a planned block unread. -/
theorem length_reads_lt (course : ReadCourse pages session plan asleep reader exchanges markers
    final last) (lost : TagLost exchanges) :
    (exchanges.filterMap Exchange.read?).length < plan.length := by
  induction course with
  | finished => simp [TagLost] at lost
  | shown answered rest ih =>
      exact Nat.succ_lt_succ (ih (by rwa [tagLost_cons (.inl rfl)] at lost))
  | refused answered rest ih =>
      exact Nat.succ_lt_succ (ih (by rwa [tagLost_cons (.inl rfl)] at lost))
  | woken answered rest ih => exact ih (by rwa [tagLost_cons (.inr rfl)] at lost)
  | lost answered missing => exact Nat.succ_pos _

/-- Every selection asks for the tag that the session wants at that time. -/
theorem asks (course : ReadCourse pages session plan asleep reader exchanges markers final last)
    {before more : List Exchange} {uid : Option Uid} {reply : Except Error (Option Target)}
    (h : exchanges = before ++ ⟨.select uid, reply⟩ :: more) :
    uid = (session.tracking before).wantedUid := by
  induction course generalizing before with
  | finished => exact absurd h.symm (List.append_ne_nil_of_right_ne_nil _ (List.cons_ne_nil _ _))
  | shown answered rest ih =>
      rcases before with _ | ⟨first, before⟩
      · cases h
      · obtain ⟨rfl, later⟩ := List.cons.inj h
        rw [tracking_cons, tracking_of_not_found rfl]
        -- the image plays no part in what is wanted
        exact ih later
  | refused answered rest ih =>
      rcases before with _ | ⟨first, before⟩
      · cases h
      · obtain ⟨rfl, later⟩ := List.cons.inj h
        rw [tracking_cons, tracking_of_not_found rfl]
        exact ih later
  | woken answered rest ih =>
      rcases before with _ | ⟨first, before⟩
      · cases h
        rfl
      · obtain ⟨rfl, later⟩ := List.cons.inj h
        rw [tracking_cons, tracking_of_found rfl]
        exact ih later
  | lost answered missing =>
      rcases before with _ | ⟨first, before⟩
      · cases h
        rfl
      · exact absurd (List.cons.inj h).2.symm
          (List.append_ne_nil_of_right_ne_nil _ (List.cons_ne_nil _ _))

/-- Only the image of the session changes, and the target, which is the last
tag found. -/
theorem session_eq (course : ReadCourse pages session plan asleep reader exchanges markers final
    last) : final = { session.tracking exchanges with image := final.image } := by
  induction course with
  | finished => rfl
  | shown answered rest ih => rw [tracking_cons, tracking_of_not_found rfl]; exact ih
  | refused answered rest ih => rw [tracking_cons, tracking_of_not_found rfl]; exact ih
  | woken answered rest ih => rw [tracking_cons, tracking_of_found rfl]; exact ih
  | lost answered missing => rw [tracking_of_not_found missing]

/-! ## §5. What a course makes of what it was shown. -/

/-- The image keeps its size. -/
theorem pages_image (course : ReadCourse pages session plan asleep reader exchanges markers final
    last) : final.image.pages = session.image.pages := by
  induction course with
  | finished => rfl
  | shown answered rest ih => exact ih
  | refused answered rest ih => exact ih
  | woken answered rest ih => exact ih
  | lost answered missing => rfl

/-- Nothing is shown of the pages before the first block that is planned. -/
theorem pageShown?_of_before (course : ReadCourse pages session plan asleep reader exchanges
    markers final last) (small : pages ≤ maxPages) {first p : Nat}
    (blocks : plan = blocksFrom first pages) (before : p < first) :
    pageShown? exchanges p = none := by
  have within : ∀ q ∈ plan, first ≤ q ∧ q < maxPages := by
    intro q planned
    rw [blocks, mem_blocksFrom] at planned
    omega
  refine pageShown?_of_not_read fun read => ?_
  have := (within _ ((course.reads fun q planned => (within q planned).2).subset read)).1
  omega

/-- **The image takes what was shown** of each page, and keeps the page as it
was if nothing was. -/
theorem pageAt (course : ReadCourse pages session plan asleep reader exchanges markers final last)
    (fits : session.image.pages = pages) {first p : Nat} (aligned : first % blockPages = 0)
    (blocks : plan = blocksFrom first pages) (hp : p < pages) :
    final.image.pageAt p = (pageShown? exchanges p).getD (session.image.pageAt p) := by
  have small : pages ≤ maxPages := fits ▸ session.image.pages_le
  induction course generalizing first with
  | finished => rfl
  | @shown session final number plan reader after last block exchanges markers answered rest ih =>
      obtain ⟨rfl, within, later⟩ := of_blocksFrom_cons aligned blocks
      rw [ih fits ((Nat.add_mod_right _ _).trans aligned) later, Image.pageAt_withBlock]
      by_cases inBlock : number ≤ p ∧ p < number + blockPages
      · -- the rest of the pass begins after the block
        rw [if_pos ⟨inBlock.1, inBlock.2, fits ▸ hp⟩,
          pageShown?_cons_block aligned (by omega) block inBlock.1 inBlock.2,
          rest.pageShown?_of_before small later inBlock.2]
        rfl
      · rw [if_neg (by omega), pageShown?_cons_other aligned (by omega) _ (by omega)]
  | refused answered rest ih =>
      obtain ⟨rfl, -, later⟩ := of_blocksFrom_cons aligned blocks
      rw [ih fits ((Nat.add_mod_right _ _).trans aligned) later, pageShown?_cons_of_none rfl]
  | woken answered rest ih => rw [ih fits aligned blocks, pageShown?_cons_of_none rfl]
  | lost answered missing => rfl

/-- The bytes past the last page stay as they are. -/
theorem past (course : ReadCourse pages session plan asleep reader exchanges markers final last)
    (fits : session.image.pages = pages) (within : ∀ q ∈ plan, q < pages) {i : Nat}
    (hi : pages * pageSize ≤ i) : final.image.bytes[i]? = session.image.bytes[i]? := by
  induction course with
  | finished => rfl
  | shown answered rest ih =>
      rw [ih fits fun q planned => within q (List.mem_cons_of_mem _ planned)]
      exact Image.getElem?_withBlock_past _ (fits ▸ within _ List.mem_cons_self) _ (fits ▸ hi)
  | refused answered rest ih =>
      exact ih fits fun q planned => within q (List.mem_cons_of_mem _ planned)
  | woken answered rest ih => exact ih fits within
  | lost answered missing => rfl

/-- **The markers tell of which pages something was shown**, of a pass that
begins at page `first`. -/
theorem markers_eq (course : ReadCourse pages session plan asleep reader exchanges markers final
    last) (fits : session.image.pages = pages) {first : Nat} (aligned : first % blockPages = 0)
    (blocks : plan = blocksFrom first pages) :
    markers = readMarkers (fun p => (pageShown? exchanges p).isSome) first pages := by
  have small : pages ≤ maxPages := fits ▸ session.image.pages_le
  induction course generalizing first with
  | finished =>
      have past : pages ≤ first := by
        by_contra before
        rw [blocksFrom_cons aligned (by omega)] at blocks
        cases blocks
      unfold readMarkers
      rw [Nat.sub_eq_zero_of_le past]
      rfl
  | @shown session final number plan reader after last block exchanges markers answered rest ih =>
      obtain ⟨rfl, within, later⟩ := of_blocksFrom_cons aligned blocks
      have here : ∀ p, number ≤ p → p < number + blockPages →
          (pageShown? (⟨.read (UInt8.ofNat number), .ok block⟩ :: exchanges) p).isSome = true := by
        intro p start before
        rw [pageShown?_cons_block aligned (by omega) block start before]
        rfl
      have beyond : ∀ p, number + blockPages ≤ p →
          (pageShown? (⟨.read (UInt8.ofNat number), .ok block⟩ :: exchanges) p).isSome =
            (pageShown? exchanges p).isSome := by
        intro p after
        rw [pageShown?_cons_other aligned (by omega) _ (.inr after)]
      rw [ih fits ((Nat.add_mod_right _ _).trans aligned) later, readMarkers_block here beyond,
        Image.blockCount, fits]
      rfl
  | @refused session final number plan reader after last error exchanges markers answered rest ih =>
      obtain ⟨rfl, -, later⟩ := of_blocksFrom_cons aligned blocks
      have here : ∀ p, number ≤ p → p < number + blockPages →
          (pageShown? (⟨.read (UInt8.ofNat number), .error error⟩ :: exchanges) p).isSome =
            false := by
        intro p _ before
        rw [pageShown?_cons_of_none rfl, rest.pageShown?_of_before small later before]
        rfl
      have beyond : ∀ p, number + blockPages ≤ p →
          (pageShown? (⟨.read (UInt8.ofNat number), .error error⟩ :: exchanges) p).isSome =
            (pageShown? exchanges p).isSome := by
        intro p _
        rw [pageShown?_cons_of_none rfl]
      rw [ih fits ((Nat.add_mod_right _ _).trans aligned) later, readMarkers_block here beyond]
      rfl
  | @woken session final number plan reader after last target exchanges markers answered rest ih =>
      have unseen : ∀ p, pageShown? (⟨.select session.wantedUid, .ok (some target)⟩ :: exchanges) p =
          pageShown? exchanges p := fun p => pageShown?_cons_of_none rfl
      simp only [unseen]
      exact ih fits aligned blocks
  | lost answered missing =>
      obtain ⟨rfl, -, -⟩ := of_blocksFrom_cons aligned blocks
      exact (readMarkers_of_never fun _ _ => rfl).symm

end ReadCourse

/-! ## §6. The whole pass. -/

open Dialogue

/-- A read pass over a tag as a sequence of exchanges, what it logs and
reports, and what it leaves in the image. -/
structure ReadSequenced (session : Session) (reader : σ)
    (outcome : Outcome σ (Except Error ReadReport × Session)) : Prop where
  /-- The answers are the reader's, and nothing else was asked of it. -/
  conversed : Conversed reader outcome.exchanges outcome.reader
  /-- The pass opens with a READ, if it asks anything. -/
  opens : ∀ made ∈ outcome.exchanges.head?, OpensRead false made
  /-- One selection follows each refused READ, a READ anything else; nothing
  follows a selection in vain. -/
  order : outcome.exchanges.IsChain FollowsRead
  /-- A tag that was found again is read. -/
  presses_on : ∀ made ∈ outcome.exchanges.getLast?, made.found? = none
  /-- The READs begin at the blocks of the tag, in order, … -/
  reads : outcome.exchanges.filterMap Exchange.read? <+: blocksFrom 0 session.variant.pages
  /-- … none of them twice. -/
  once : (outcome.exchanges.filterMap Exchange.read?).Nodup
  /-- A selection in vain leaves blocks unread. -/
  lost : TagLost outcome.exchanges → (outcome.exchanges.filterMap Exchange.read?).length <
    (blocksFrom 0 session.variant.pages).length
  /-- Otherwise every block is read. -/
  complete : ¬ TagLost outcome.exchanges →
    outcome.exchanges.filterMap Exchange.read? = blocksFrom 0 session.variant.pages
  /-- A selection asks for the tag of the session at that time. -/
  asks : ∀ before uid reply more, outcome.exchanges = before ++ ⟨.select uid, reply⟩ :: more →
    uid = (session.tracking before).wantedUid
  /-- The session keeps all but its target, which is the last tag found, and
  its image. -/
  session_eq : outcome.value.2 =
    { session.tracking outcome.exchanges with image := outcome.value.2.image }
  /-- One line of markers is logged: a character for each page, a dot if the
  page was shown. -/
  line : ∃ markers, (Event.notices outcome.events).filterMap Notice.markers? = [markers] ∧
    (Notice.markers markers).text = "|" ++ String.ofList (markers.map Marker.char) ++ "|" ∧
    (markers.map Marker.char).length = session.variant.pages ∧
    ∀ p, p < session.variant.pages → (markers.map Marker.char)[p]? =
      some (if (pageShown? outcome.exchanges p).isSome then '.' else 'f')
  /-- The pass ends well, and counts the pages that were shown and the
  others. -/
  report : outcome.value.1 = .ok
    { pages := session.variant.pages
      read := (List.range session.variant.pages).countP
        fun p => (pageShown? outcome.exchanges p).isSome
      failed := (List.range session.variant.pages).countP
        fun p => !(pageShown? outcome.exchanges p).isSome }
  /-- These are all pages. -/
  total : ∀ report, outcome.value.1 = .ok report →
    report.read + report.failed = session.variant.pages
  /-- The image is of the size it was. -/
  fits : outcome.value.2.image.pages = session.variant.pages
  /-- A page that was shown is in the image, any other page is what it was;
  then the known secrets are put in. -/
  page : ∀ p, p < session.variant.pages → outcome.value.2.image.pageAt p =
    session.credentials.putInto session.variant p
      ((pageShown? outcome.exchanges p).getD (session.image.pageAt p))
  /-- The bytes past the last page are what they were. -/
  past : ∀ i, session.variant.pages * pageSize ≤ i →
    outcome.value.2.image.bytes[i]? = session.image.bytes[i]?

/-- The characters of a whole line of markers. -/
theorem getElem?_readMarkers_char (got : Nat → Bool) {pages p : Nat} (hp : p < pages) :
    ((readMarkers got 0 pages).map Marker.char)[p]? = some (if got p then '.' else 'f') := by
  unfold readMarkers
  rw [List.getElem?_map, List.getElem?_map, Nat.sub_zero, ← List.range_eq_range',
    List.getElem?_range hp]
  cases h : got p <;> simp [h, Marker.char]

/-- What a pass leaves in the image. -/
theorem readAll_image (session : Session) (reader : σ)
    (fits : session.image.pages = session.variant.pages) :
    let outcome := readAll.hold session reader
    outcome.value.2.image.pages = session.variant.pages ∧
      (∀ p, p < session.variant.pages → outcome.value.2.image.pageAt p =
        session.credentials.putInto session.variant p
          ((pageShown? outcome.exchanges p).getD (session.image.pageAt p))) ∧
      ∀ i, session.variant.pages * pageSize ≤ i →
        outcome.value.2.image.bytes[i]? = session.image.bytes[i]? := by
  intro outcome
  obtain ⟨markers, final, course, value⟩ := readAll_takesCourse session reader fits
  have sized : final.image.pages = session.variant.pages := course.pages_image.trans fits
  have variant : final.variant = session.variant := by rw [course.session_eq]; rfl
  have credentials : final.credentials = session.credentials := by rw [course.session_eq]; rfl
  have finalFits : final.image.pages = final.variant.pages := by rw [sized, variant]
  rw [show outcome.value = _ from value]
  refine ⟨(Image.pages_withSecrets _).trans sized, fun p hp => ?_, fun i hi => ?_⟩
  · dsimp only
    rw [Image.pageAt_withSecrets finalFits, course.pageAt fits (Nat.zero_mod _)
      (blockStarts_eq session.variant.pages) hp, variant, credentials]
  · dsimp only
    rw [Image.getElem?_withSecrets_past finalFits _ (by rw [sized]; exact hi)]
    exact course.past fits (fun q planned => lt_pages_of_mem_blockStarts planned) hi

/-- **The order of a read pass.**  Whatever the reader answers: a pass is a
sequence as `ReadSequenced` says, for any session whose image has the pages of
its variant. -/
theorem readAll_sequence (session : Session) (reader : σ)
    (fits : session.image.pages = session.variant.pages) :
    ReadSequenced session reader (readAll.hold session reader) := by
  obtain ⟨markers, final, course, value, logged⟩ := readAll_marksCourse session reader fits
  have blocks := blockStarts_eq session.variant.pages
  have small : ∀ q ∈ blockStarts session.variant.pages, q < maxPages := fun q planned =>
    Nat.lt_of_lt_of_le (lt_pages_of_mem_blockStarts planned) session.variant.pages_le
  have marked := course.markers_eq fits (Nat.zero_mod _) blocks
  have reads := blocks ▸ course.reads small
  obtain ⟨sized, page, past⟩ := readAll_image session reader fits
  have report : (readAll.hold session reader).value.1 = .ok
      { pages := session.variant.pages
        read := (List.range session.variant.pages).countP
          fun p => (pageShown? (readAll.hold session reader).exchanges p).isSome
        failed := (List.range session.variant.pages).countP
          fun p => !(pageShown? (readAll.hold session reader).exchanges p).isSome } := by
    rw [value]
    dsimp only
    unfold ReadReport.ofMarkers
    rw [marked, count_done_readMarkers, count_failed_readMarkers, Nat.sub_zero,
      ← List.range_eq_range']
  refine
    { conversed := course.conversed
      opens := course.opens
      order := course.order
      presses_on := course.presses_on
      reads := reads
      once := (sorted_blocksFrom 0 session.variant.pages).imp Nat.ne_of_lt |>.sublist reads.sublist
      lost := fun lost => ?_
      complete := fun kept => ?_
      asks := fun before uid reply more h => course.asks h
      session_eq := ?_
      line := ⟨markers, logged, rfl, ?_, fun p hp => ?_⟩
      report := report
      total := fun counted same => ?_
      fits := sized
      page := page
      past := past }
  · exact blocks ▸ course.length_reads_lt lost
  · exact reads.eq_of_length (blocks ▸ course.length_reads_of_not_lost kept)
  · rw [value]
    dsimp only
    rw [course.session_eq]
  · rw [marked]
    simp [readMarkers]
  · rw [marked]
    exact getElem?_readMarkers_char _ hp
  · -- every page was shown or was not
    cases report.symm.trans same
    have all := List.length_eq_countP_add_countP
      (fun p => (pageShown? (readAll.hold session reader).exchanges p).isSome)
      (l := List.range session.variant.pages)
    rw [List.length_range] at all
    refine Eq.trans ?_ all.symm
    congr 1
    exact List.countP_congr fun p _ => by simp

/-- A pass over a tag that shows its first block, refuses the second one and
is gone: the last two blocks are not read, and twelve pages failed. -/
theorem readAll_sequence_gone :
    let block : Block := ⟨⟨0x04, 0x01, 0x02, 0x8f⟩, .zero, .zero, .zero⟩
    let reader : ScriptedReader :=
      { ScriptedReader.silent with
        read := [.ok block, .error .refused]
        select := [.ok none] }
    let session := fresh .default
    let outcome := readAll.hold session reader
    session.image.pages = session.variant.pages ∧ ReadSequenced session reader outcome ∧
      outcome.exchanges =
        [⟨.read 0, .ok block⟩, ⟨.read 4, .error .refused⟩, ⟨.select none, .ok none⟩] ∧
      outcome.value.1 = .ok { pages := 16, read := 4, failed := 12 } :=
  ⟨rfl, readAll_sequence (fresh .default) _ rfl, rfl, rfl⟩

end Session

end Ultralight
