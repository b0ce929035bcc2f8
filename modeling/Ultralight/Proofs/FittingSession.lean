/-
  Ultralight.Proofs.FittingSession
  ────────────────────────────────
  **The image of a session fits its variant, at all times.**

  `Session.Fitting` says so: the image has the pages of the variant, its
  buffer is that of the largest tag, and what is past the last page is zero.
  A fresh session fits, and whatever the reader answers every operation keeps
  it so, also one that fails half way (`Operation.keepsFitting`).  This is
  shown of the parts of an operation; a read pass is the one that needs the
  invariant to keep it.

  In a session that fits

    • no block that was read is refused by the image
      (`unreadable_readAll`), and
    • a range that leaves the tag is refused before anything is written
      (`quiet_of_pageOutOfRange`).

  `performAll_fitting` is all of this for any operations from a fresh session
  on, as long as the images that are loaded were made and edited by the
  operations on images.
-/
import Ultralight.Proofs.ImageBounds
import Ultralight.Proofs.OperationEffects
import Ultralight.Proofs.ReadOrder

namespace Ultralight

/-- The block that could not be read, and why, if the notice tells of one. -/
def Notice.unreadable? : Notice → Option (UInt8 × Error)
  | .blockUnreadable first error => some (UInt8.ofNat first, error)
  | _ => none

/-- The block whose READ was refused, and how. -/
def Exchange.refusedRead? : Exchange → Option (UInt8 × Error)
  | ⟨.read first, .error error⟩ => some (first, error)
  | _ => none

namespace Session

open Dialogue (Event Outcome)

/-! ## §1. The invariant. -/

/-- The image is one of the session's variant: it has that many pages, its
buffer is that of the largest tag, and all bytes past the last page are
zero. -/
structure Fitting (session : Session) : Prop where
  pages : session.image.pages = session.variant.pages
  length : session.image.bytes.length = 924
  past : ∀ i, session.variant.pages * 4 ≤ i → i < 924 → session.image.bytes[i]? = some 0

variable {session : Session}

/-- The length is that of every buffer, so the pages and the zeros decide. -/
theorem fitting_of_clear (pages : session.image.pages = session.variant.pages)
    (clear : session.image.Clear) : session.Fitting := by
  refine ⟨pages, session.image.length_bytes, ?_⟩
  rw [← pages]
  exact clear

theorem Fitting.clear (fitting : session.Fitting) : session.image.Clear := by
  intro i past bound
  apply fitting.past i _ bound
  rw [← fitting.pages]
  exact past

theorem fitting_adopt (variant : Variant) (session : Session) : (adopt variant session).Fitting :=
  fitting_of_clear rfl (Image.clear_blank variant)

theorem fitting_fresh (config : SessionConfig) : (fresh config).Fitting :=
  fitting_of_clear rfl (Image.clear_blank .ultralight)

/-! ## §2. What an operation does to it. -/

/-- A session that fits is left fitting. -/
def KeepsFitting (session : Session) (_ : List Exchange) (after : Session) : Prop :=
  session.Fitting → after.Fitting

theorem composes_keepsFitting : Action.Composes KeepsFitting where
  nothing _ := id
  append first rest := rest ∘ first

/-- Only the target is tracked. -/
theorem keepsFitting_tracking (session : Session) (trace exchanges : List Exchange) :
    KeepsFitting session trace (session.tracking exchanges) := by
  intro fitting
  exact ⟨fitting.pages, fitting.length, fitting.past⟩

/-- A talk leaves the session alone. -/
theorem keepsFitting_lift {α : Type} (talk : Talk α) :
    (liftM talk : Action Session α).HasEffect KeepsFitting :=
  Action.hasEffect_lift fun _ _ _ _ => id

/-- A read pass puts blocks and secrets on the pages of the tag. -/
theorem keepsFitting_readAll : readAll.HasEffect KeepsFitting := by
  intro σ _ session reader fitting
  obtain ⟨pages, -, past⟩ := readAll_image session reader fitting.pages
  have variant : (readAll.hold session reader).value.2.variant = session.variant := by
    obtain ⟨markers, final, course, value⟩ := readAll_takesCourse session reader fitting.pages
    rw [value, course.session_eq]
    rfl
  refine ⟨?_, Image.length_bytes _, fun i beyond bound => ?_⟩
  · rw [pages, variant]
  · rw [variant] at beyond
    rw [past i beyond]
    exact fitting.past i beyond bound

/-- The parts of an operation keep to the invariant; an image that is loaded
has to be clear by itself. -/
theorem Operation.parts_keepsFitting (operation : Operation)
    (built : ∀ image, operation = .loadImage image → image.Built) :
    operation.Parts KeepsFitting where
  composes := composes_keepsFitting
  select session _ := keepsFitting_tracking session _ _
  reselect session _ := keepsFitting_tracking session _ _
  list _ _ _ _ := id
  write _ _ _ _ := id
  writable _ := keepsFitting_lift Session.ensureWritable
  detect := hasEffect_detectVariant composes_keepsFitting
    (fun session _ => keepsFitting_tracking session _ _) (keepsFitting_lift getVersion)
    fun variant session _ => fitting_adopt variant session
  authenticate password _ := hasEffect_authenticate composes_keepsFitting
    (keepsFitting_lift (acknowledgement password))
    fun _ _ fitting => ⟨fitting.pages, fitting.length, fitting.past⟩
  read := keepsFitting_readAll
  load image _ same fits _ := fitting_of_clear fits (built image same).clear
  edit change session _ fitting := by
    apply fitting_of_clear
    · exact (Image.Edit.pages_apply session.image change).trans fitting.pages
    · exact fitting.clear.apply change

/-- **Every operation keeps a session fitting**, whatever the reader answers
and whatever becomes of the operation. -/
theorem Operation.keepsFitting (operation : Operation)
    (built : ∀ image, operation = .loadImage image → image.Built) :
    operation.perform.HasEffect KeepsFitting :=
  (operation.parts_keepsFitting built).hasEffect

/-! ## §3. What a session that fits is spared. -/

variable {σ : Type} [Reader σ]

/-- Blocks that fit the image are logged as unreadable only where their READ
was refused. -/
theorem unreadable_readBlocks (pages : Nat) (plan : List Nat) :
    ∀ (asleep : Bool) (markers : List Marker) (session : Session) (reader : σ),
      (∀ first ∈ plan, first < session.image.pages) →
      let outcome := (readBlocks pages plan asleep markers).hold session reader
      (Event.notices outcome.events).filterMap Notice.unreadable? =
        outcome.exchanges.filterMap Exchange.refusedRead? := by
  induction plan with
  | nil => intro asleep markers session reader _; rfl
  | cons first rest ih =>
      -- a tag found again is a tag awake, so the step of the one comes before the other
      have awake : ∀ (markers : List Marker) (session : Session) (reader : σ),
          (∀ number ∈ first :: rest, number < session.image.pages) →
          let outcome := (readBlocks pages (first :: rest) false markers).hold session reader
          (Event.notices outcome.events).filterMap Notice.unreadable? =
            outcome.exchanges.filterMap Exchange.refusedRead? := by
        intro markers session reader fits
        obtain ⟨fitsFirst, fitsRest⟩ := List.forall_mem_cons.mp fits
        rcases answered : Reader.answer (.read (UInt8.ofNat first)) reader with
          ⟨error | block, after⟩
        · rw [hold_readBlocks_refused answered]
          exact congrArg (List.cons (UInt8.ofNat first, error)) (ih true _ session after fitsRest)
        · rw [hold_readBlocks_shown fitsFirst answered]
          exact ih false _ { session with image := session.image.withBlock first block } after
            fitsRest
      intro asleep markers session reader fits
      cases asleep with
      | false => exact awake markers session reader fits
      | true =>
          rcases answered : Reader.answer (.select session.wantedUid) reader with ⟨reply, after⟩
          rcases hold_readBlocks_asleep answered rest markers with
            ⟨target, rfl, held⟩ | ⟨missing, error, held⟩
          · rw [held]
            exact awake markers { session with target := some target } after fits
          · rw [held]
            rfl

/-- **No block that was shown is refused by the image**: what a read pass
logs as unreadable is what the reader refused. -/
theorem unreadable_readAll (session : Session) (reader : σ)
    (fits : session.image.pages = session.variant.pages) :
    let outcome := readAll.hold session reader
    (Event.notices outcome.events).filterMap Notice.unreadable? =
      outcome.exchanges.filterMap Exchange.refusedRead? := by
  have within : ∀ first ∈ blockStarts session.variant.pages, first < session.image.pages :=
    fun first h => by rw [fits]; exact lt_pages_of_mem_blockStarts h
  obtain ⟨markers, value, -⟩ := readBlocks_takesCourse
    (blockStarts session.variant.pages) false [] session reader within
  have blocks := unreadable_readBlocks session.variant.pages (blockStarts session.variant.pages)
    false [] session reader within
  rcases held : (readBlocks session.variant.pages (blockStarts session.variant.pages) false
    []).hold session reader with ⟨⟨result, final⟩, after, events⟩
  rw [held] at value blocks
  obtain rfl : result = .ok markers := value
  obtain ⟨placing, quiet, logged, whole⟩ := hold_readAll held
  have silent : (Event.notices placing).filterMap Notice.unreadable? = [] :=
    List.filterMap_eq_nil_iff.mpr fun notice listed => by rw [logged notice listed]; rfl
  rw [whole]
  -- the notices around the blocks are none of those, and no exchanges
  simpa [quiet, silent, List.filterMap_cons, Notice.unreadable?] using blocks

/-- A pass that refuses a page as out of range has asked nothing. -/
theorem quiet_of_pageOutOfRange (policy : WritePolicy) (start stop : Nat) (session : Session)
    (reader : σ) (fits : session.image.pages = session.variant.pages) {page pages : Nat}
    (h : ((writePages policy start stop).hold session reader).value.1 =
      .error (.pageOutOfRange page pages)) :
    ((writePages policy start stop).hold session reader).exchanges = [] := by
  by_cases within : stop ≤ session.variant.pages
  · -- a range of the tag can only end early because the tag is gone
    obtain ⟨complete, -, value⟩ :=
      writePages_takesCourse policy start session reader within (by rw [fits]; exact within)
    rw [h] at value
    cases complete <;> cases value
  · rw [hold_writePages_beyond policy session reader (Nat.lt_of_not_le within)]
    rfl

/-- What cannot happen to the image of a session, whatever the reader
answers. -/
structure Spared (session : Session) (reader : σ) : Prop where
  /-- A read pass logs no block as unreadable but those that the reader
  refused, so none because the image had no room for it. -/
  readable : (Event.notices (readAll.hold session reader).events).filterMap Notice.unreadable? =
    (readAll.hold session reader).exchanges.filterMap Exchange.refusedRead?
  /-- A write pass does not report a page out of range after it has asked
  anything. -/
  writable : ∀ policy start stop page pages,
    ((writePages policy start stop).hold session reader).value.1 =
      .error (.pageOutOfRange page pages) →
    ((writePages policy start stop).hold session reader).exchanges = []

theorem Fitting.spared (fitting : session.Fitting) (reader : σ) : session.Spared reader where
  readable := unreadable_readAll session reader fitting.pages
  writable policy start stop _ _ :=
    quiet_of_pageOutOfRange policy start stop session reader fitting.pages

/-! ## §4. Every session that can be reached. -/

/-- **A session fits at all times.**  After any operations from a fresh session
on, with any reader and whatever becomes of each of them, the image has the
pages of the variant, its buffer 924 bytes, and zeros past the last page; the
images that are loaded only have to be made and edited by the operations on
images.  So nothing is read or written outside of a buffer; what a read pass
logs as unreadable is what the reader refused, none of it a block that the
image had no room for; and a write pass that reports a page out of range has
asked nothing. -/
theorem performAll_fitting (config : SessionConfig) (reader : σ) (operations : List Operation)
    (built : ∀ image, .loadImage image ∈ operations → image.Built) :
    let session := ((performAll operations).hold (fresh config) reader).value.2
    session.Fitting ∧ (∀ image : Image, image.Indexed) ∧
      ∀ (τ : Type) [Reader τ] (next : τ), session.Spared next := by
  intro session
  have keeps : (performAll operations).HasEffect KeepsFitting := by
    apply hasEffect_performAll composes_keepsFitting
    intro operation listed
    exact operation.keepsFitting fun image same => built image (same ▸ listed)
  have fitting : session.Fitting := keeps σ (fresh config) reader (fitting_fresh config)
  exact ⟨fitting, Image.indexed, fun τ _ next => fitting.spared next⟩

/-- A tag of 41 pages that refuses its third block: a block is laid over its
last page, secrets of a smaller variant are placed, an image of another size is
not taken over, and the tag is read. -/
theorem performAll_fitting_last_page :
    let tag := { SimulatedTag.patterned .ev1Ul21 7 with
      faults := { Faults.none with reads := [8] } }
    let filled : Page := ⟨0xff, 0xff, 0xff, 0xff⟩
    let operations : List Operation := [.select, .detectVariant,
      .edit (.copyBlock 40 ⟨filled, filled, filled, filled⟩),
      .edit (.placeSecrets .ev1Ul11 (.of ⟨filled⟩ ⟨0xff, 0xff⟩)),
      .loadImage (.blank .ntag216), .readAll]
    let outcome := (performAll operations).hold (fresh .default) tag
    (∀ image, .loadImage image ∈ operations → image.Built) ∧
      outcome.value.2.Fitting ∧ outcome.value.2.image.pages = 41 ∧
      outcome.value.1.toOption.map (List.map Except.isOk) =
        some [true, true, true, true, false, true] := by
  intro tag filled operations outcome
  have built : ∀ image, .loadImage image ∈ operations → image.Built := by
    intro image listed
    obtain rfl : image = .blank .ntag216 := by simpa [operations] using listed
    exact .blank .ntag216
  exact ⟨built, (performAll_fitting .default tag operations built).1, by decide +kernel,
    by decide +kernel⟩

end Session

end Ultralight
