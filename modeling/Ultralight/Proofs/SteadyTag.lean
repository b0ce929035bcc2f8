/-
  Ultralight.Proofs.SteadyTag
  ───────────────────────────
  **What a tag that selections find makes of READ, WRITE and selecting.**

  A session is `Attached` to a tag once it selected and detected it.  From
  then on three kinds of requests matter, and each has one equation for each
  outcome:

    • a selection finds the tag if it is in the field (`answer_select`),
    • READ shows a block or refuses it (`answer_read_shown`,
      `answer_read_refused`),
    • WRITE stores a page or refuses it (`answer_write_stored`,
      `answer_write_refused`), in raw mode too, where every WRITE is refused
      but the tag does not hear of it; a tag that sleeps hears none
      (`answer_write_asleep`).

  `setup` is what none of them changes.
-/
import Ultralight.Proofs.ImagePages
import Ultralight.Proofs.Selection
import Ultralight.Proofs.TagMemory

namespace Ultralight

/-- A number of one byte names each page of the largest tag. -/
theorem toNat_ofNat_page {p : Nat} (h : p < maxPages) : (UInt8.ofNat p).toNat = p := by
  unfold maxPages at h
  exact UInt8.toNat_ofNat_of_lt' (by show p < 256; omega)

theorem Variant.toNat_ofNat_page {variant : Variant} {p : Nat} (h : p < variant.pages) :
    (UInt8.ofNat p).toNat = p :=
  Ultralight.toNat_ofNat_page (Nat.lt_of_lt_of_le h variant.pages_le)

namespace SimulatedTag

/-! ## §1. Tags that are found. -/

/-- No fault keeps a selection from finding the tag while it is in the
field. -/
structure Selectable (tag : SimulatedTag) : Prop where
  found : tag.faults.emptySelections = 0
  heard : tag.faults.failedSelections = 0

/-- In the field and there to stay, and found by every selection. -/
structure Steady (tag : SimulatedTag) : Prop extends tag.Selectable where
  present : tag.present = true
  stays : tag.faults.removeOnFailure = false

theorem Steady.of_faultless {tag : SimulatedTag} (present : tag.present = true)
    (faultless : tag.faults = .none) : tag.Steady := by
  refine ⟨⟨?_, ?_⟩, present, ?_⟩ <;> rw [faultless] <;> rfl

/-- The tag as a selection reports it. -/
def target (tag : SimulatedTag) : Target := ⟨tag.atqa0, tag.atqa1, 0x00, tag.uid⟩

/-- The tag as a selection leaves it: awake, and its back door shut. -/
def selected (tag : SimulatedTag) : SimulatedTag :=
  { tag with halted := false, armed := false, unlocked := false }

/-- What reading, writing and selecting leave as it is of a tag that stays in
the field: all but its memory, whether it sleeps, and its back door. -/
def setup (tag : SimulatedTag) : SimulatedTag :=
  { tag with
    memory := Vector.replicate tag.variant.pages .zero
    halted := false
    armed := false
    unlocked := false }

variable {tag : SimulatedTag}

section

variable {last : SimulatedTag} (h : last.setup = tag.setup)

include h

theorem variant_eq_of_setup : last.variant = tag.variant := congrArg (fun kept => kept.variant) h

theorem uid_eq_of_setup : last.uid = tag.uid := congrArg (fun kept => kept.uid) h

theorem password_eq_of_setup : last.password = tag.password :=
  congrArg (fun kept => kept.password) h

theorem faults_eq_of_setup : last.faults = tag.faults := congrArg (fun kept => kept.faults) h

theorem inRawMode_eq_of_setup : last.inRawMode = tag.inRawMode :=
  congrArg (fun kept => kept.inRawMode) h

theorem Steady.of_setup (steady : tag.Steady) : last.Steady := by
  have faults := faults_eq_of_setup h
  refine ⟨⟨?_, ?_⟩, (congrArg (fun kept => kept.present) h).trans steady.present, ?_⟩
  · rw [faults]
    exact steady.found
  · rw [faults]
    exact steady.heard
  · rw [faults]
    exact steady.stays

end

/-- A selection of any tag, or of this one, finds it if it is there. -/
theorem answer_select_of (selectable : tag.Selectable) {wanted : Option Uid}
    (own : wanted.all (· == tag.uid) = true) :
    Reader.answer (.select wanted) tag =
      if tag.present then (.ok (some tag.target), tag.selected) else (.ok none, tag) := by
  show tag.select wanted = _
  unfold select
  rw [selectable.heard, selectable.found]
  cases hpresent : tag.present with
  | false => rfl
  | true => simp [hpresent, own, selected, target]

/-- A selection of its own UID finds the tag if it is there. -/
theorem answer_select (selectable : tag.Selectable) :
    Reader.answer (.select (some tag.uid)) tag =
      if tag.present then (.ok (some tag.target), tag.selected) else (.ok none, tag) :=
  answer_select_of selectable (beq_self_eq_true tag.uid)

/-! ## §2. READ. -/

/-- READ and WRITE reach a tag that is there and awake, out of raw mode, and
no other one. -/
theorem ready_iff :
    tag.ready = .ok () ↔ tag.present = true ∧ tag.inRawMode = false ∧ tag.halted = false := by
  unfold ready
  cases tag.inRawMode <;> cases tag.present <;> cases tag.halted <;> simp

theorem ready_of_awake (present : tag.present = true) (framed : tag.inRawMode = false)
    (awake : tag.halted = false) : tag.ready = .ok () :=
  ready_iff.mpr ⟨present, framed, awake⟩

/-- A tag that READ and WRITE reach is awake, and the reader is out of raw
mode. -/
theorem awake_of_ready (ready : tag.ready = .ok ()) :
    tag.inRawMode = false ∧ tag.halted = false :=
  (ready_iff.mp ready).2

/-- The four pages that READ shows from page `p` on; past the last page it
goes on with page 0. -/
def blockAt (tag : SimulatedTag) (p : Nat) : Block :=
  ⟨tag.shown (p % tag.variant.pages), tag.shown ((p + 1) % tag.variant.pages),
    tag.shown ((p + 2) % tag.variant.pages), tag.shown ((p + 3) % tag.variant.pages)⟩

/-- As far as a block is on the tag it shows the pages there. -/
theorem pageAt_blockAt {p q : Nat} (first : p ≤ q) (block : q < p + blockPages)
    (last : q < tag.variant.pages) : (tag.blockAt p).pageAt (q - p) = tag.shown q := by
  obtain ⟨k, rfl⟩ : ∃ k, q = p + k := ⟨q - p, by omega⟩
  have four : k < 4 := by unfold blockPages at block; omega
  rw [Nat.add_sub_cancel_left]
  rw [show tag.shown (p + k) = tag.shown ((p + k) % tag.variant.pages) by
    rw [Nat.mod_eq_of_lt last]]
  match k, four with
  | 0, _ => rfl
  | 1, _ => rfl
  | 2, _ => rfl
  | 3, _ => rfl

/-- A block that is not refused is shown, and the tag stays as it is. -/
theorem answer_read_shown (ready : tag.ready = .ok ()) {p : Nat} (hp : p < tag.variant.pages)
    (h : tag.faults.reads.contains (UInt8.ofNat p) = false) :
    Reader.answer (.read (UInt8.ofNat p)) tag = (.ok (tag.blockAt p), tag) := by
  show tag.readBlock (UInt8.ofNat p) = _
  unfold readBlock
  rw [ready]
  dsimp only
  rw [Variant.toNat_ofNat_page hp, if_neg (by omega),
    if_neg (by rw [h]; exact Bool.false_ne_true)]
  rfl

/-- A block that is refused puts the tag to sleep, or out of the field. -/
theorem answer_read_refused (ready : tag.ready = .ok ()) {p : Nat} (hp : p < tag.variant.pages)
    (h : tag.faults.reads.contains (UInt8.ofNat p) = true) :
    Reader.answer (.read (UInt8.ofNat p)) tag =
      (.error .refused,
        { tag with present := tag.present && !tag.faults.removeOnFailure, halted := true }) := by
  show tag.readBlock (UInt8.ofNat p) = _
  unfold readBlock
  rw [ready]
  dsimp only
  rw [Variant.toNat_ofNat_page hp, if_neg (by omega), if_pos h]
  rfl

/-! ## §3. WRITE. -/

/-- Whether a tag whose UID pages are open or not refuses a WRITE of page
`p`: since the reader is in raw mode, by plan, or since the page is
read-only. -/
def refuses (tag : SimulatedTag) (opened : Bool) (p : Nat) : Bool :=
  tag.inRawMode || tag.faults.writes.contains (UInt8.ofNat p) ||
    (!opened && decide (p < firstDataPage))

/-- What page `p` holds after a WRITE that is not refused. -/
def storing (tag : SimulatedTag) (opened : Bool) (p : Nat) (data : Page) : Page :=
  if opened then data else merged p (tag.page p) data

/-- Nothing but the plan of faults and raw mode keeps a WRITE from a page that
is not a UID page. -/
theorem refuses_of_data {p : Nat} (h : firstDataPage ≤ p) (opened : Bool) :
    tag.refuses opened p = (tag.inRawMode || tag.faults.writes.contains (UInt8.ofNat p)) := by
  unfold refuses
  rw [decide_eq_false (Nat.not_lt.mpr h), Bool.and_false, Bool.or_false]

/-- Past the lock and OTP pages a WRITE stores what it carries. -/
theorem storing_of_data {p : Nat} (h : otpPage < p) (opened : Bool) (data : Page) :
    tag.storing opened p data = data := by
  have lock : p ≠ lockPage := by
    unfold otpPage at h
    unfold lockPage
    omega
  unfold storing merged
  rw [if_neg lock, if_neg (Nat.ne_of_gt h), ite_self]

/-- Whatever a WRITE makes of a page, it keeps one that is written back. -/
theorem storing_own (opened : Bool) (p : Nat) : tag.storing opened p (tag.page p) = tag.page p := by
  unfold storing
  rw [merged_self, ite_self]

/-- A WRITE that is refused changes nothing, but puts a tag that heard of it
to sleep. -/
theorem answer_write_refused (steady : tag.Steady) (awake : tag.halted = false) {p : Nat}
    (hp : p < tag.variant.pages) (h : tag.refuses tag.uidWritable p = true) (data : Page) :
    ∃ error, Reader.answer (.write (UInt8.ofNat p) data.padded) tag =
      (.error error, { tag with halted := !tag.inRawMode }) := by
  show ∃ error, tag.writePage (UInt8.ofNat p) data = _
  unfold writePage
  cases hraw : tag.inRawMode with
  | true =>
      -- the reader refuses by itself
      refine ⟨.driver .commandInRawMode, ?_⟩
      unfold ready
      rw [hraw, if_pos rfl, Bool.not_true, ← awake]
  | false =>
      refine ⟨.refused, ?_⟩
      rw [ready_of_awake steady.present hraw awake]
      unfold refuses at h
      rw [hraw, Bool.false_or, Bool.or_eq_true] at h
      dsimp only
      rw [Variant.toNat_ofNat_page hp, if_neg (by omega)]
      by_cases hplan : tag.faults.writes.contains (UInt8.ofNat p) = true
      · have planned : ({ tag with present := tag.present && !tag.faults.removeOnFailure } :
            SimulatedTag) = tag := by
          rw [steady.stays, Bool.not_false, Bool.and_true]
        rw [if_pos hplan]
        unfold failAsPlanned
        rw [planned]
        rfl
      · obtain ⟨closed, uidPage⟩ : tag.uidWritable = false ∧ p < firstDataPage := by
          simpa using h.resolve_left hplan
        rw [if_neg hplan, closed, if_neg Bool.false_ne_true, if_pos uidPage]
        rfl

/-- A WRITE that is not refused is stored. -/
theorem answer_write_stored (steady : tag.Steady) (awake : tag.halted = false) {p : Nat}
    (hp : p < tag.variant.pages) (h : tag.refuses tag.uidWritable p = false) (data : Page) :
    Reader.answer (.write (UInt8.ofNat p) data.padded) tag =
      (.ok (), tag.setPage p (tag.storing tag.uidWritable p data)) := by
  show tag.writePage (UInt8.ofNat p) data = _
  unfold refuses at h
  simp only [Bool.or_eq_false_iff] at h
  obtain ⟨⟨hraw, hplan⟩, hopen⟩ := h
  unfold writePage storing
  rw [ready_of_awake steady.present hraw awake]
  dsimp only
  rw [Variant.toNat_ofNat_page hp, if_neg (by omega),
    if_neg (by rw [hplan]; exact Bool.false_ne_true)]
  cases hwritable : tag.uidWritable with
  | true => rfl
  | false =>
      have dataPage : ¬ p < firstDataPage := by simpa [hwritable] using hopen
      rw [if_neg Bool.false_ne_true, if_neg dataPage, if_neg Bool.false_ne_true]

/-- A tag that sleeps does not hear a WRITE. -/
theorem answer_write_asleep (framed : tag.inRawMode = false) (asleep : tag.halted = true)
    (number : UInt8) (data : Block) :
    Reader.answer (.write number data) tag = (.error .noAnswer, tag) := by
  have silent : tag.ready = .error .noAnswer := by
    unfold ready
    rw [framed, asleep, Bool.or_true]
    rfl
  show tag.writePage number data.p0 = _
  unfold writePage
  rw [silent]

end SimulatedTag

/-! ## §4. Sessions at a tag. -/

namespace Session

/-- The session selected the tag and detected what it is; detection gives it
an image of that size. -/
structure Attached (session : Session) (tag : SimulatedTag) : Prop where
  detected : session.variant = tag.variant
  selected : session.target.map Target.uid = some tag.uid
  fits : session.image.pages = session.variant.pages

variable {session : Session} {tag : SimulatedTag}

/-- Selecting again asks for the target. -/
theorem wantedUid_of_selected (h : session.target.map Target.uid = some tag.uid) :
    session.wantedUid = some tag.uid := by
  unfold wantedUid
  rw [h]
  rfl

theorem Attached.wanted (attached : session.Attached tag) : session.wantedUid = some tag.uid :=
  wantedUid_of_selected attached.selected

end Session

end Ultralight
