/-
  Ultralight.Proofs.DumpPages
  ───────────────────────────
  **A dump is the pages of a tag, one after the other.**

  The bytes of an image that a dump holds are its pages in order
  (`Image.active_eq_flatMap`), and so is the memory of a tag
  (`SimulatedTag.dump_eq_flatMap`).  So an image that agrees with a tag page
  by page dumps to its memory (`Image.active_eq_dump`), and an image made of
  a dump has its pages (`Image.pageAt_ofDump`), so it agrees with the image
  that was dumped (`Image.ofDump_active`).
-/
import Ultralight.Proofs.ImagePages
import Ultralight.SimulatedTag

namespace Ultralight

/-! ## §1. Bytes, four at a time. -/

namespace Bytes

/-- Page `p` of a byte string, filled up with zeros. -/
def pageAt (bytes : Bytes) (p : Nat) : Page :=
  ⟨bytes.getD (p * pageSize) 0, bytes.getD (p * pageSize + 1) 0,
    bytes.getD (p * pageSize + 2) 0, bytes.getD (p * pageSize + 3) 0⟩

/-- The four bytes that a page is cut out of a byte string at. -/
theorem take_drop_four {bytes : Bytes} {i : Nat} (h : i + 4 ≤ bytes.length) :
    (bytes.drop i).take 4 =
      [bytes.getD i 0, bytes.getD (i + 1) 0, bytes.getD (i + 2) 0, bytes.getD (i + 3) 0] := by
  have known : ∀ j, j < bytes.length → bytes[j]? = some (bytes.getD j 0) := by
    intro j hj
    rw [List.getD_eq_getElem?_getD, List.getElem?_eq_getElem hj]
    rfl
  refine List.ext_getElem? fun n => ?_
  rw [List.getElem?_take, List.getElem?_drop]
  match n with
  | 0 => exact known i (by omega)
  | 1 => exact known (i + 1) (by omega)
  | 2 => exact known (i + 2) (by omega)
  | 3 => exact known (i + 3) (by omega)
  | n + 4 => rfl

end Bytes

namespace Image

variable {image : Image}

/-! ## §2. What a dump holds. -/

/-- **A dump has four bytes for each page.** -/
theorem length_active (image : Image) : image.active.length = image.pages * pageSize :=
  List.length_take_of_le image.activeLength_le

/-- As far as pages go, a dump and the buffer hold the same bytes. -/
theorem getD_active {i : Nat} (h : i < image.pages * pageSize) :
    image.active.getD i 0 = image.byteAt i := by
  unfold active byteAt activeLength
  rw [List.getD_eq_getElem?_getD, List.getD_eq_getElem?_getD, List.getElem?_take_of_lt h]

/-- The pages of an image, one after the other, are what a dump holds. -/
theorem active_eq_flatMap (image : Image) :
    image.active = (List.range image.pages).flatMap fun p => (image.pageAt p).toList := by
  have upTo : ∀ n, n ≤ image.pages → image.bytes.take (n * pageSize) =
      (List.range n).flatMap fun p => (image.pageAt p).toList := by
    intro n
    induction n with
    | zero => intro _; rfl
    | succ n ih =>
        intro within
        have bound := image.activeLength_le
        have four : n * pageSize + 4 ≤ image.bytes.length := by
          unfold activeLength pageSize at bound
          unfold pageSize
          omega
        rw [Nat.succ_mul, List.take_add, ih (Nat.le_of_lt within), List.range_succ,
          List.flatMap_append, List.flatMap_singleton]
        exact congrArg _ (Bytes.take_drop_four four)
  exact upTo image.pages (Nat.le_refl _)

/-! ## §3. The image of a dump. -/

/-- **An image is made of a dump that is no longer than the tag**, and its
pages are those of the dump. -/
theorem ofDump_eq_ok {variant : Variant} {dump : Bytes} :
    ofDump variant dump = .ok image ↔ dump.length ≤ variant.pages * pageSize ∧
      image = (blank variant).overlay 0 dump := by
  unfold ofDump
  dsimp only
  split
  · next longer => exact ⟨nofun, fun h => absurd longer (Nat.not_lt.mpr h.1)⟩
  · next within =>
    refine ⟨fun h => ?_, fun h => h.2 ▸ rfl⟩
    cases h
    exact ⟨Nat.not_lt.mp within, rfl⟩

theorem byteAt_blank (variant : Variant) (i : Nat) : (blank variant).byteAt i = 0 := by
  show (List.replicate maxDumpSize 0).getD i 0 = 0
  rw [List.getD_eq_getElem?_getD, List.getElem?_replicate]
  split <;> rfl

theorem pageAt_blank (variant : Variant) (p : Nat) : (blank variant).pageAt p = .zero := by
  unfold pageAt
  simp only [byteAt_blank]
  rfl

theorem pageAt_ofDump {variant : Variant} (dump : Bytes) {p : Nat} (hp : p < variant.pages) :
    ((blank variant).overlay 0 dump).pageAt p = dump.pageAt p := by
  have largest := variant.pages_le
  unfold maxPages at largest
  -- where the dump ends the blank image begins, and both are zeros
  have byte : ∀ n, n < 4 → ((blank variant).overlay 0 dump).byteAt (p * pageSize + n) =
      dump.getD (p * pageSize + n) 0 := by
    intro n hn
    rw [byteAt_overlay]
    split
    · rw [Nat.sub_zero]
    · next outside =>
      have bound : p * pageSize + n < maxDumpSize := by unfold pageSize maxDumpSize; omega
      have past : dump.length ≤ p * pageSize + n := by omega
      rw [byteAt_blank, List.getD_eq_getElem?_getD, List.getElem?_eq_none past, Option.getD_none]
  unfold pageAt Bytes.pageAt
  rw [byte 1 (by decide), byte 2 (by decide), byte 3 (by decide),
    show ((blank variant).overlay 0 dump).byteAt (p * pageSize) = dump.getD (p * pageSize) 0
      from byte 0 (by decide)]

/-- What an image dumps, page by page. -/
theorem pageAt_active {p : Nat} (hp : p < image.pages) :
    image.active.pageAt p = image.pageAt p := by
  have own : ∀ n, n < 4 →
      image.active.getD (p * pageSize + n) 0 = image.byteAt (p * pageSize + n) :=
    fun n hn => getD_active (by unfold pageSize; omega)
  unfold pageAt Bytes.pageAt
  rw [own 1 (by decide), own 2 (by decide), own 3 (by decide)]
  exact congrArg (Page.mk · _ _ _) (own 0 (by decide))

/-- **An image made of a dump has the pages of the image that was dumped.** -/
theorem ofDump_active {variant : Variant} (fits : image.pages = variant.pages) :
    ∃ restored, ofDump variant image.active = .ok restored ∧ restored.pages = variant.pages ∧
      ∀ p, p < variant.pages → restored.pageAt p = image.pageAt p := by
  refine ⟨(blank variant).overlay 0 image.active, ofDump_eq_ok.mpr ⟨?_, rfl⟩, rfl, fun p hp => ?_⟩
  · exact Nat.le_of_eq (by rw [image.length_active, fits])
  · rw [pageAt_ofDump _ hp, pageAt_active (by rwa [fits])]

end Image

/-! ## §4. The memory of a tag. -/

namespace SimulatedTag

variable {tag : SimulatedTag}

/-- The pages of a tag, one after the other, are its memory. -/
theorem dump_eq_flatMap (tag : SimulatedTag) :
    tag.dump = (List.range tag.variant.pages).flatMap fun p => (tag.page p).toList := by
  have pages : tag.memory.toList = (List.range tag.variant.pages).map tag.page := by
    refine List.ext_getElem (by simp) fun p hp _ => ?_
    have within : p < tag.variant.pages := by simpa using hp
    simp [page, within]
  unfold dump
  rw [pages, List.flatMap_map]

/-- The memory of a tag has four bytes for each page. -/
theorem length_dump (tag : SimulatedTag) : tag.dump.length = tag.variant.pages * pageSize := by
  rw [tag.dump_eq_flatMap, List.length_flatMap]
  show ((List.range tag.variant.pages).map fun _ => pageSize).sum = _
  rw [List.map_const', List.sum_replicate_nat, List.length_range]

end SimulatedTag

/-- **An image that agrees with a tag dumps to its memory.** -/
theorem Image.active_eq_dump {image : Image} {tag : SimulatedTag}
    (fits : image.pages = tag.variant.pages)
    (pages : ∀ p, p < tag.variant.pages → image.pageAt p = tag.page p) :
    image.active = tag.dump := by
  rw [image.active_eq_flatMap, tag.dump_eq_flatMap, fits]
  exact congrArg List.flatten
    (List.map_congr_left fun p hp => by rw [pages p (List.mem_range.mp hp)])

end Ultralight
