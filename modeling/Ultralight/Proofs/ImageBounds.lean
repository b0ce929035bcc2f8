/-
  Ultralight.Proofs.ImageBounds
  ─────────────────────────────
  **Every access to an image stays where it belongs.**

  The operations on images are total: a byte beyond the buffer reads as zero,
  and what would be written there is dropped.  Neither ever happens.  Two
  accesses that do check their bounds, `Bytes.slice?` and `Bytes.replace?`,
  come to the same bytes wherever an operation succeeds:

    • `Image.Indexed` says so of every operation, and `Image.indexed` of every
      image,
    • what an operation writes even ends by the last page of the tag
      (`Image.OverlayWithin`), so bytes that are zero past the last page stay
      zero (`Image.Clear`), whatever edits are made, and
    • an image that was made and edited by hand (`Image.Built`) is clear.
-/
import Ultralight.Image.Edit
import Ultralight.Proofs.ImagePages

namespace Ultralight

/-! ## §1. Accesses that check their bounds. -/

namespace Bytes

/-- Bytes `start` up to `stop` of a buffer that has them. -/
def slice? (buffer : Bytes) (start stop : Nat) : Option Bytes :=
  if start ≤ stop ∧ stop ≤ buffer.length then some ((buffer.take stop).drop start) else none

/-- A buffer with as many bytes from `start` on replaced as there are in
`data`, if the buffer has so many. -/
def replace? (buffer : Bytes) (start : Nat) (data : Bytes) : Option Bytes :=
  if start + data.length ≤ buffer.length then
    some (buffer.take start ++ data ++ buffer.drop (start + data.length))
  else none

/-- Within the buffer a splice replaces just that stretch of it. -/
theorem replace?_eq_splice {buffer data : Bytes} {start : Nat}
    (within : start + data.length ≤ buffer.length) :
    buffer.replace? start data = some (splice buffer start data) := by
  unfold replace?
  rw [if_pos within]
  congr 1
  apply List.ext_getElem?
  intro i
  rw [getElem?_splice]
  have taken : (buffer.take start).length = start := List.length_take_of_le (by omega)
  by_cases before : i < start
  · rw [if_neg (by omega), List.append_assoc, List.getElem?_append_left (by omega),
      List.getElem?_take_of_lt before]
  · rw [List.append_assoc, List.getElem?_append_right (by omega), taken]
    by_cases inside : i < start + data.length
    · rw [if_pos (by omega), List.getElem?_append_left (by omega)]
    · rw [if_neg (by omega), List.getElem?_append_right (by omega), List.getElem?_drop]
      congr 1
      omega

/-- Bytes in a row that the buffer has, one by one. -/
theorem slice?_eq_map {buffer : Bytes} {start count : Nat}
    (within : start + count ≤ buffer.length) :
    buffer.slice? start (start + count) =
      some ((List.range count).map fun k => buffer.getD (start + k) 0) := by
  unfold slice?
  rw [if_pos ⟨Nat.le_add_right start count, within⟩]
  congr 1
  apply List.ext_getElem?
  intro i
  rw [List.getElem?_drop, List.getElem?_map]
  by_cases inside : i < count
  · have here : start + i < buffer.length := by omega
    rw [List.getElem?_take_of_lt (by omega), List.getElem?_range inside]
    simp [here]
  · rw [List.getElem?_take_eq_none (by omega), List.getElem?_eq_none (by simpa using inside)]
    rfl

end Bytes

namespace Image

variable {image changed : Image}

/-! ## §2. Overlays within the pages of the tag. -/

/-- The second image is the first one with data laid over it that ends by the
last page of the tag. -/
def OverlayWithin (image : Image) (start : Nat) (data : Bytes) (changed : Image) : Prop :=
  start + data.length ≤ image.activeLength ∧ changed = image.overlay start data

theorem OverlayWithin.replace? {start : Nat} {data : Bytes}
    (h : image.OverlayWithin start data changed) :
    image.bytes.replace? start data = some changed.bytes := by
  obtain ⟨within, rfl⟩ := h
  exact Bytes.replace?_eq_splice (Nat.le_trans within image.activeLength_le)

theorem overlayWithin_ofDump {variant : Variant} {dump : Bytes}
    (h : ofDump variant dump = .ok changed) : (blank variant).OverlayWithin 0 dump changed := by
  unfold ofDump at h
  dsimp only at h
  split at h
  · cases h
  · next within =>
    refine ⟨?_, (Except.ok.inj h).symm⟩
    rw [Nat.zero_add]
    exact Nat.le_of_not_lt within

theorem overlayWithin_setPage {p : Nat} {data : Page} (h : image.setPage p data = .ok changed) :
    image.OverlayWithin (p * pageSize) data.toList changed := by
  unfold setPage onPage at h
  split at h
  · next bound =>
    cases h
    refine ⟨?_, rfl⟩
    show p * 4 + 4 ≤ image.pages * 4
    omega
  · cases h

theorem overlayWithin_copyBlock {p copied : Nat} {block : Block}
    (h : image.copyBlock p block = .ok (changed, copied)) :
    copied ≤ blockPages ∧
      image.OverlayWithin (p * pageSize) (block.toList.take (copied * pageSize)) changed := by
  unfold copyBlock onPage at h
  split at h
  · next bound =>
    cases h
    have count : image.blockCount p = min (image.pages - p) 4 := rfl
    refine ⟨Nat.min_le_right _ _, ?_, rfl⟩
    rw [length_take_block]
    show p * 4 + image.blockCount p * 4 ≤ image.pages * 4
    omega
  · cases h

/-- Secrets are placed on pages of the tag, also those of another variant:
PACK must be on the tag, and PWD is the page before it. -/
theorem overlayWithin_placeSecrets? {variant : Variant} {credentials : Credentials}
    (h : image.placeSecrets? variant credentials = some changed) :
    ∃ layout password between, variant.secretLayout = some layout ∧
      credentials.password = some password ∧
      image.OverlayWithin layout.pwdByte password.bytes between ∧
      between.OverlayWithin layout.packByte (credentials.pack.getD .zero).bytes changed := by
  obtain ⟨layout, password, hlayout, hpassword, bound, rfl⟩ := placeSecrets?_eq_some.mp h
  obtain ⟨hpwd, hpack⟩ := Variant.secrets_at_end hlayout
  refine ⟨layout, password, _, hlayout, hpassword, ⟨?_, rfl⟩, ?_, rfl⟩
  · show layout.pwdPage * 4 + 4 ≤ image.pages * 4
    omega
  · show layout.packPage * 4 + 2 ≤ image.pages * 4
    omega

/-! ## §3. Every access. -/

/-- Whatever an operation on the image reads or writes, an access that checks
its bounds would have read or written. -/
structure Indexed (image : Image) : Prop where
  /-- An image of a dump is made by laying the dump over zeros. -/
  ofDump : ∀ variant dump, ofDump variant dump = .ok image →
    (blank variant).bytes.replace? 0 dump = some image.bytes
  /-- A page is read. -/
  page : ∀ p page, image.page p = .ok page →
    image.bytes.slice? (p * 4) (p * 4 + 4) = some page.toList
  /-- A page is stored. -/
  setPage : ∀ p page changed, image.setPage p page = .ok changed →
    image.bytes.replace? (p * 4) page.toList = some changed.bytes
  /-- A part of a block is copied. -/
  copyBlock : ∀ p block changed copied, image.copyBlock p block = .ok (changed, copied) →
    ∃ part, block.toList.slice? 0 (copied * 4) = some part ∧
      image.bytes.replace? (p * 4) part = some changed.bytes
  /-- A password and its acknowledgement are placed. -/
  placeSecrets : ∀ variant credentials changed,
    image.placeSecrets? variant credentials = some changed →
      ∃ layout password, variant.secretLayout = some layout ∧
        credentials.password = some password ∧
        (do
          let between ← image.bytes.replace? layout.pwdByte password.bytes
          between.replace? layout.packByte (credentials.pack.getD .zero).bytes) =
            some changed.bytes
  /-- The bytes of the tag are read. -/
  active : image.bytes.slice? 0 image.activeLength = some image.active
  /-- A range of bytes is read, both ends cut at the end of the buffer. -/
  byteRange : ∀ start stop, let stop := min stop image.bytes.length
    image.bytes.slice? (min start stop) stop = some (image.byteRange start stop)
  /-- The UID is read. -/
  uid : [0, 1, 2, 4, 5, 6, 7].mapM (fun i => image.bytes[i]?) = some image.uid

/-- **No operation reads or writes outside of the buffer.** -/
theorem indexed (image : Image) : image.Indexed where
  ofDump variant dump h := (overlayWithin_ofDump h).replace?
  page p page h := by
    unfold Image.page onPage at h
    split at h
    · next bound =>
      cases h
      have within : p * 4 + 4 ≤ image.bytes.length := by
        have all := image.activeLength_le
        unfold activeLength pageSize at all
        omega
      exact Bytes.slice?_eq_map within
    · cases h
  setPage p page changed h := (overlayWithin_setPage h).replace?
  copyBlock p block changed copied h := by
    obtain ⟨most, within⟩ := overlayWithin_copyBlock h
    refine ⟨block.toList.take (copied * 4), ?_, within.replace?⟩
    unfold blockPages at most
    unfold Bytes.slice?
    rw [if_pos ⟨Nat.zero_le _, by rw [Block.length_toList]; omega⟩, List.drop_zero]
  placeSecrets variant credentials changed h := by
    obtain ⟨layout, password, between, hlayout, hpassword, first, second⟩ :=
      overlayWithin_placeSecrets? h
    refine ⟨layout, password, hlayout, hpassword, ?_⟩
    rw [first.replace?]
    exact second.replace?
  active := by
    unfold Bytes.slice?
    rw [if_pos ⟨Nat.zero_le _, image.activeLength_le⟩]
    rfl
  byteRange start stop := by
    unfold Bytes.slice?
    dsimp only
    rw [if_pos ⟨Nat.min_le_right _ _, Nat.min_le_right _ _⟩]
    unfold Image.byteRange
    congr 1
    apply List.ext_getElem?
    intro i
    -- from the end of the range on there is nothing, cut or not
    simp only [List.getElem?_drop, List.getElem?_take]
    grind
  uid := by
    have present : ∀ i, i < 8 → image.bytes[i]? = some (image.byteAt i) := by
      intro i hi
      have within : i < image.bytes.length := by
        rw [image.length_bytes]
        unfold maxDumpSize
        omega
      simp [byteAt, within]
    simp [present, Image.uid]

/-! ## §4. Zeros past the last page. -/

/-- The bytes past the pages of the tag are zero. -/
def Clear (image : Image) : Prop :=
  ∀ i, image.activeLength ≤ i → i < maxDumpSize → image.bytes[i]? = some 0

theorem clear_blank (variant : Variant) : (blank variant).Clear := by
  intro i _ bound
  show (List.replicate maxDumpSize 0)[i]? = some 0
  rw [List.getElem?_replicate, if_pos bound]

/-- What ends by the last page leaves the zeros after it. -/
theorem Clear.overlayWithin (clear : image.Clear) {start : Nat} {data : Bytes}
    (h : image.OverlayWithin start data changed) : changed.Clear := by
  obtain ⟨within, rfl⟩ := h
  intro i past bound
  rw [getElem?_overlay_past image (Nat.le_trans within past)]
  exact clear i past bound

theorem clear_ofDump {variant : Variant} {dump : Bytes} (h : ofDump variant dump = .ok image) :
    image.Clear := (clear_blank variant).overlayWithin (overlayWithin_ofDump h)

/-- **No edit leaves anything past the last page**, whatever its arguments. -/
theorem Clear.apply (clear : image.Clear) (edit : Edit) : (edit.apply image).2.Clear := by
  cases edit with
  | setPage number page =>
      simp only [Edit.apply]
      split
      · next stored => exact clear.overlayWithin (overlayWithin_setPage stored)
      · exact clear
  | copyBlock first block =>
      simp only [Edit.apply]
      split
      · next copied => exact clear.overlayWithin (overlayWithin_copyBlock copied).2
      · exact clear
  | placeSecrets variant credentials =>
      simp only [Edit.apply]
      split
      · next placed =>
        obtain ⟨_, _, _, _, _, first, second⟩ := overlayWithin_placeSecrets? placed
        exact (clear.overlayWithin first).overlayWithin second
      · exact clear

/-- An image that was made from nothing or from a dump, and then edited. -/
inductive Built : Image → Prop where
  | blank (variant : Variant) : Built (blank variant)
  | ofDump {image : Image} (variant : Variant) (dump : Bytes)
      (h : ofDump variant dump = .ok image) : Built image
  | edited {image : Image} (edit : Edit) (h : Built image) : Built (edit.apply image).2

theorem Built.clear (built : image.Built) : image.Clear := by
  induction built with
  | blank variant => exact clear_blank variant
  | ofDump variant dump h => exact clear_ofDump h
  | edited edit _ ih => exact ih.apply edit

end Image

end Ultralight
