/-
  Ultralight.Proofs.PageArray
  ───────────────────────────
  **An image is an array of pages.**

  An image is one buffer and computes offsets into it.  What is seen of it
  through its operations is an array of `pages` pages:

    • `Image.IsPageArray` says so of each operation on its own: the pages
      beyond the end are refused, an edit changes the pages it names and no
      others, and the bytes are those of the pages in order,
    • `Edit.stores?` says which byte of which page an edit stores, and
      `Image.bytes_pageAt_editedBy` that after any edits each byte is the one
      that was stored last, or else the one the image was made with.

  `Image.editedBy_isPageArray` holds both of every image that was made and
  edited.
-/
import Ultralight.Proofs.DumpPages
import Ultralight.Proofs.ImageBounds

namespace Ultralight

/-! ## §1. Pages and their bytes. -/

namespace Page

/-- The four bytes of a page tell it. -/
theorem eq_of_getElem? {a b : Page} (h : ∀ k, k < 4 → a.toList[k]? = b.toList[k]?) : a = b := by
  have b0 : a.b0 = b.b0 := Option.some.inj (h 0 (by decide))
  have b1 : a.b1 = b.b1 := Option.some.inj (h 1 (by decide))
  have b2 : a.b2 = b.b2 := Option.some.inj (h 2 (by decide))
  have b3 : a.b3 = b.b3 := Option.some.inj (h 3 (by decide))
  cases a
  cases b
  congr

/-- A page has no byte that another one has not. -/
theorem getElem?_or (new old : Page) (k : Nat) :
    new.toList[k]?.or old.toList[k]? = new.toList[k]? := by
  match k with
  | 0 | 1 | 2 | 3 => rfl
  | _ + 4 => rfl

end Page

namespace Image

variable {image : Image}

/-- A page that is stored is there, and the others stay. -/
theorem pageAt_overlay_page (image : Image) {p : Nat} (bound : p < maxPages) (data : Page)
    (q : Nat) : (image.overlay (p * pageSize) data.toList).pageAt q =
      if q = p then data else image.pageAt q := by
  split
  · next here =>
    subst here
    exact pageAt_overlay_of_inside (k := 0) image (Nat.le_refl 4) bound
  · next elsewhere =>
    refine pageAt_overlay_of_outside image ?_
    rw [Page.length_toList]
    unfold pageSize
    omega

/-! ## §2. One edit. -/

/-- What an edit stores as byte `k` of page `p` of a tag with so many pages.
Nothing if it is refused, or leaves that byte alone. -/
def Edit.stores? (pages p k : Nat) : Edit → Option UInt8
  | .setPage number page => if p = number ∧ p < pages then page.toList[k]? else none
  | .copyBlock first block =>
      if first ≤ p ∧ p < first + blockPages ∧ p < pages then
        (block.pageAt (p - first)).toList[k]?
      else none
  | .placeSecrets variant credentials =>
      match variant.secretLayout, credentials.password with
      | some layout, some password =>
          if pages ≤ layout.packPage then none
          else if p = layout.pwdPage then password.bytes[k]?
          else if p = layout.packPage then (credentials.pack.getD .zero).bytes[k]?
          else none
      | _, _ => none

theorem apply_setPage {p : Nat} (hp : p < image.pages) (data : Page) :
    (Edit.setPage p data).apply image =
      (.ok .stored, image.overlay (p * pageSize) data.toList) := by
  simp only [Edit.apply, Image.setPage, onPage, if_pos hp]

theorem apply_copyBlock {p : Nat} (hp : p < image.pages) (block : Block) :
    (Edit.copyBlock p block).apply image =
      (.ok (.copied (image.blockCount p)), image.withBlock p block) := by
  simp only [Edit.apply, copyBlock_eq_ok hp]

theorem apply_setPage_beyond {p : Nat} (hp : image.pages ≤ p) (data : Page) :
    (Edit.setPage p data).apply image = (.error (.pageOutOfRange p image.pages), image) := by
  simp only [Edit.apply, Image.setPage, onPage, if_neg (Nat.not_lt.mpr hp)]

theorem apply_copyBlock_beyond {p : Nat} (hp : image.pages ≤ p) (block : Block) :
    (Edit.copyBlock p block).apply image = (.error (.pageOutOfRange p image.pages), image) := by
  simp only [Edit.apply, Image.copyBlock, onPage, if_neg (Nat.not_lt.mpr hp)]

/-- Where PWD and PACK are on the tag, they are placed. -/
theorem apply_placeSecrets {variant : Variant} {credentials : Credentials} {layout : SecretLayout}
    {password : Password} (hlayout : variant.secretLayout = some layout)
    (hpassword : credentials.password = some password) (bound : layout.packPage < image.pages) :
    (Edit.placeSecrets variant credentials).apply image =
      (.ok (.placed true), (image.overlay layout.pwdByte password.bytes).overlay layout.packByte
        (credentials.pack.getD .zero).bytes) := by
  have placed := placeSecrets?_eq_some.mpr ⟨layout, password, hlayout, hpassword, bound, rfl⟩
  simp only [Edit.apply, placed]

/-- Where there is no place for them on the tag, or no password, nothing is. -/
theorem apply_placeSecrets_of_none {variant : Variant} {credentials : Credentials}
    (h : image.placeSecrets? variant credentials = none) :
    (Edit.placeSecrets variant credentials).apply image = (.ok (.placed false), image) := by
  simp only [Edit.apply, h]

/-- **One edit replaces the bytes it stores** and no others. -/
theorem bytes_pageAt_apply (image : Image) (edit : Edit) {p : Nat} (hp : p < image.pages)
    (k : Nat) : ((edit.apply image).2.pageAt p).toList[k]? =
      (edit.stores? image.pages p k).or (image.pageAt p).toList[k]? := by
  have largest := image.pages_le
  cases edit with
  | setPage number page =>
      simp only [Edit.stores?]
      by_cases within : number < image.pages
      · rw [apply_setPage within, pageAt_overlay_page image (by omega)]
        by_cases here : p = number
        · rw [if_pos here, if_pos ⟨here, hp⟩, Page.getElem?_or]
        · rw [if_neg here, if_neg (fun h => here h.1), Option.none_or]
      · rw [apply_setPage_beyond (by omega), if_neg (by omega), Option.none_or]
  | copyBlock first block =>
      simp only [Edit.stores?]
      by_cases within : first < image.pages
      · rw [apply_copyBlock within, pageAt_withBlock]
        split
        · rw [Page.getElem?_or]
        · rw [Option.none_or]
      · rw [apply_copyBlock_beyond (by omega), if_neg (by omega), Option.none_or]
  | placeSecrets variant credentials =>
      simp only [Edit.stores?]
      cases placing : image.placeSecrets? variant credentials with
      | some changed =>
          obtain ⟨layout, password, hlayout, hpassword, bound, same⟩ :=
            placeSecrets?_eq_some.mp placing
          rw [apply_placeSecrets hlayout hpassword bound, ← same,
            pageAt_placeSecrets? placing, Credentials.putInto]
          simp only [hlayout, hpassword, if_neg (Nat.not_le.mpr bound)]
          split
          · exact (Page.getElem?_or _ _ k).symm
          · split
            · -- PACK takes the first two bytes of its page
              match k with
              | 0 | 1 | 2 | 3 => rfl
              | _ + 4 => rfl
            · rw [Option.none_or]
      | none =>
          rw [apply_placeSecrets_of_none placing]
          split
          · next layout password hlayout hpassword =>
            have outside : ¬layout.packPage < image.pages := fun inside =>
              nomatch placing.symm.trans (placeSecrets?_eq_some.mpr
                ⟨layout, password, hlayout, hpassword, inside, rfl⟩)
            rw [if_pos (Nat.not_lt.mp outside), Option.none_or]
          · rw [Option.none_or]

/-! ## §3. Any edits. -/

/-- The image after edits, one after the other; those that fail are passed
over. -/
def editedBy (image : Image) (edits : List Edit) : Image :=
  edits.foldl (fun image edit => (edit.apply image).2) image

/-- What edits stored last as byte `k` of page `p`, if any of them did. -/
def lastStored? (pages p k : Nat) (edits : List Edit) : Option UInt8 :=
  edits.reverse.findSome? fun edit => edit.stores? pages p k

theorem pages_editedBy (image : Image) (edits : List Edit) :
    (image.editedBy edits).pages = image.pages := by
  induction edits generalizing image with
  | nil => rfl
  | cons edit edits ih => exact (ih (edit.apply image).2).trans (Edit.pages_apply image edit)

theorem Built.editedBy (built : image.Built) (edits : List Edit) :
    (image.editedBy edits).Built := by
  induction edits generalizing image with
  | nil => exact built
  | cons edit edits ih => exact ih (built.edited edit)

/-- **After any edits each byte of a page is the one stored last**, or else
the one that was there before them. -/
theorem bytes_pageAt_editedBy (image : Image) (edits : List Edit) {p : Nat}
    (hp : p < image.pages) (k : Nat) : ((image.editedBy edits).pageAt p).toList[k]? =
      (lastStored? image.pages p k edits).or (image.pageAt p).toList[k]? := by
  induction edits generalizing image with
  | nil => rfl
  | cons edit edits ih =>
      have size : (edit.apply image).2.pages = image.pages := Edit.pages_apply image edit
      have rest := ih (edit.apply image).2 (by rwa [size])
      -- the first edit shows where no later one stored anything
      have first : lastStored? image.pages p k (edit :: edits) =
          (lastStored? image.pages p k edits).or (edit.stores? image.pages p k) := by
        unfold lastStored?
        rw [List.reverse_cons, List.findSome?_append, List.findSome?_singleton]
      rw [first, Option.or_assoc, ← bytes_pageAt_apply image edit hp, ← size]
      exact rest

/-! ## §4. Each operation on its own. -/

/-- Seen through its operations, the image is an array of its pages. -/
structure IsPageArray (image : Image) : Prop where
  /-- Beyond the last page nothing is read or stored. -/
  beyond : ∀ p, image.pages ≤ p →
    image.page p = .error (.pageOutOfRange p image.pages) ∧
    (∀ data, (Edit.setPage p data).apply image =
      (.error (.pageOutOfRange p image.pages), image)) ∧
    ∀ block, (Edit.copyBlock p block).apply image =
      (.error (.pageOutOfRange p image.pages), image)
  /-- A page is read. -/
  page : ∀ p, p < image.pages → image.page p = .ok (image.pageAt p)
  /-- A page is stored, and the others stay. -/
  setPage : ∀ p data, p < image.pages → ∃ changed,
    (Edit.setPage p data).apply image = (.ok .stored, changed) ∧
      ∀ q, changed.page q = if q = p then .ok data else image.page q
  /-- A block is copied as far as the tag goes, and told how far. -/
  copyBlock : ∀ p block, p < image.pages → ∃ changed,
    (Edit.copyBlock p block).apply image =
        (.ok (.copied (min 4 (image.pages - p))), changed) ∧
      ∀ q, changed.page q =
        if p ≤ q ∧ q < p + min 4 (image.pages - p) then .ok (block.pageAt (q - p))
        else image.page q
  /-- Secrets with a place on the tag take just the bytes of PWD and PACK. -/
  placeSecrets : ∀ variant credentials layout password,
    variant.secretLayout = some layout → credentials.password = some password →
    layout.packPage < image.pages → ∃ changed,
      (Edit.placeSecrets variant credentials).apply image = (.ok (.placed true), changed) ∧
        changed.pages = image.pages ∧
        ∀ i, changed.bytes[i]? =
          if layout.pwdByte ≤ i ∧ i < layout.pwdByte + 4 then
            password.bytes[i - layout.pwdByte]?
          else if layout.packByte ≤ i ∧ i < layout.packByte + 2 then
            (credentials.pack.getD ⟨0, 0⟩).bytes[i - layout.packByte]?
          else image.bytes[i]?
  /-- Otherwise nothing is placed. -/
  keepSecrets : ∀ variant credentials,
    (∀ layout, variant.secretLayout = some layout → credentials.isKnown = true →
      image.pages ≤ layout.packPage) →
    (Edit.placeSecrets variant credentials).apply image = (.ok (.placed false), image)
  /-- The buffer holds the pages in order, and zeros after them. -/
  linear : image.bytes = ((List.range image.pages).flatMap fun p => (image.pageAt p).toList) ++
    List.replicate (maxDumpSize - image.pages * pageSize) 0
  /-- A range of bytes is cut at the end of the buffer. -/
  byteRange : ∀ start stop, image.byteRange start stop =
    (List.range' start (min stop maxDumpSize - start)).map image.byteAt
  /-- What is dumped makes the same image again. -/
  restored : ∀ variant, variant.pages = image.pages →
    Image.ofDump variant image.active = .ok image

/-- Reading a page of a tag and reading one beyond its end. -/
theorem page_eq (image : Image) (p : Nat) : image.page p =
    if p < image.pages then .ok (image.pageAt p)
    else .error (.pageOutOfRange p image.pages) := rfl

/-- Reading after an edit that changes some pages of the tag. -/
theorem page_of_pageAt {changed : Image} {f : Nat → Page} {changes : Nat → Prop}
    [DecidablePred changes] (size : changed.pages = image.pages)
    (within : ∀ q, changes q → q < image.pages)
    (h : ∀ q, changed.pageAt q = if changes q then f q else image.pageAt q) (q : Nat) :
    changed.page q = if changes q then .ok (f q) else image.page q := by
  rw [page_eq, page_eq, size, h]
  by_cases change : changes q
  · rw [if_pos (within q change), if_pos change, if_pos change]
  · rw [if_neg change, if_neg change]

/-- Where the layout has PWD, PACK follows in the next page. -/
theorem getElem?_bytes_placed {layout : SecretLayout} {variant : Variant}
    (hlayout : variant.secretLayout = some layout) (bound : layout.packPage < image.pages)
    (password : Password) (pack : Pack) (i : Nat) :
    ((image.overlay layout.pwdByte password.bytes).overlay layout.packByte pack.bytes).bytes[i]? =
      if layout.pwdByte ≤ i ∧ i < layout.pwdByte + 4 then password.bytes[i - layout.pwdByte]?
      else if layout.packByte ≤ i ∧ i < layout.packByte + 2 then pack.bytes[i - layout.packByte]?
      else image.bytes[i]? := by
  obtain ⟨hpwd, hpack⟩ := Variant.secrets_at_end hlayout
  have largest := image.pages_le
  have fits : image.bytes.length = 924 := image.length_bytes
  have four : password.bytes.length = 4 := rfl
  have two : pack.bytes.length = 2 := rfl
  unfold maxPages at largest
  unfold SecretLayout.pwdByte SecretLayout.packByte pageSize
  rw [bytes_overlay, Bytes.getElem?_splice, bytes_overlay, Bytes.getElem?_splice,
    Bytes.length_splice, fits, four, two]
  -- PACK was laid last, but the two do not overlap
  grind

/-- Bytes of the buffer, one by one. -/
theorem byteRange_eq_map (image : Image) (start stop : Nat) : image.byteRange start stop =
    (List.range' start (min stop maxDumpSize - start)).map image.byteAt := by
  have fits : image.bytes.length = maxDumpSize := image.length_bytes
  unfold Image.byteRange
  refine List.ext_getElem (by simp [fits]) fun k hk _ => ?_
  have inside : start + k < image.bytes.length := by
    rw [List.length_drop, List.length_take] at hk
    omega
  simp [byteAt, inside]

/-- Of a buffer that is zero past the tag, nothing else is left than pages. -/
theorem Clear.bytes_eq (clear : image.Clear) : image.bytes =
    image.active ++ List.replicate (maxDumpSize - image.activeLength) 0 := by
  have fits : image.bytes.length = maxDumpSize := image.length_bytes
  have zeros : image.bytes.drop image.activeLength =
      List.replicate (maxDumpSize - image.activeLength) 0 := by
    refine List.ext_getElem? fun i => ?_
    rw [List.getElem?_drop, List.getElem?_replicate]
    split
    · next inside => exact clear _ (Nat.le_add_right _ _) (by omega)
    · next outside => exact List.getElem?_eq_none (by omega)
  rw [← zeros]
  exact (List.take_append_drop image.activeLength image.bytes).symm

/-- **A dump of a clear image makes the same image again.** -/
theorem Clear.ofDump_active (clear : image.Clear) {variant : Variant}
    (fits : variant.pages = image.pages) : ofDump variant image.active = .ok image := by
  have length := image.length_active
  refine ofDump_eq_ok.mpr ⟨Nat.le_of_eq (by rw [length, fits]), ?_⟩
  have bytes : image.bytes = ((blank variant).overlay 0 image.active).bytes := by
    have all : image.active.length ≤ maxDumpSize := by
      rw [length, ← image.length_bytes]
      exact image.activeLength_le
    refine List.ext_getElem? fun i => ?_
    have zeros : (blank variant).bytes = List.replicate maxDumpSize 0 := rfl
    rw [bytes_overlay, Bytes.getElem?_splice, clear.bytes_eq, List.getElem?_append, zeros,
      List.length_replicate]
    split
    · next inside => rw [if_pos (by omega), Nat.sub_zero]
    · next outside =>
      -- what the dump leaves out are the zeros of the blank image
      have tail : image.activeLength = image.active.length := length.symm
      rw [if_neg (by omega), List.getElem?_replicate, List.getElem?_replicate, tail]
      exact ite_congr (propext (by omega)) (fun _ => rfl) fun _ => rfl
  have pages : image.pages = ((blank variant).overlay 0 image.active).pages := fits.symm
  generalize (blank variant).overlay 0 image.active = restored at bytes pages
  cases image
  cases restored
  congr

/-- **A clear image is an array of its pages.** -/
theorem Clear.isPageArray (clear : image.Clear) : image.IsPageArray where
  beyond p hp := ⟨(page_eq image p).trans (if_neg (Nat.not_lt.mpr hp)),
    apply_setPage_beyond hp, apply_copyBlock_beyond hp⟩
  page p hp := if_pos hp
  setPage p data hp := by
    have largest := image.pages_le
    refine ⟨_, apply_setPage hp data, page_of_pageAt rfl ?_ fun q => ?_⟩
    · rintro q rfl
      exact hp
    · exact pageAt_overlay_page image (by omega) data q
  copyBlock p block hp := by
    have count : image.blockCount p = min 4 (image.pages - p) := Nat.min_comm _ _
    refine ⟨image.withBlock p block, count ▸ apply_copyBlock hp block,
      page_of_pageAt rfl (fun q => by omega) fun q => ?_⟩
    rw [pageAt_withBlock]
    unfold blockPages
    exact ite_congr (propext (by omega)) (fun _ => rfl) fun _ => rfl
  placeSecrets variant credentials layout password hlayout hpassword bound :=
    ⟨_, apply_placeSecrets hlayout hpassword bound, rfl, getElem?_bytes_placed hlayout bound _ _⟩
  keepSecrets variant credentials nowhere := by
    refine apply_placeSecrets_of_none (Option.eq_none_iff_forall_ne_some.mpr fun changed h => ?_)
    obtain ⟨layout, password, hlayout, hpassword, bound, _⟩ := placeSecrets?_eq_some.mp h
    have known : credentials.isKnown = true := by rw [Credentials.isKnown, hpassword]; rfl
    exact absurd bound (Nat.not_lt.mpr (nowhere layout hlayout known))
  linear := by
    rw [← image.active_eq_flatMap]
    exact clear.bytes_eq
  byteRange := image.byteRange_eq_map
  restored variant fits := clear.ofDump_active fits

/-! ## §5. Images that were made and edited. -/

/-- An image as it is made for a variant, and the bytes its pages are made of:
none at all, or a dump. -/
inductive Made (variant : Variant) : Bytes → Image → Prop where
  | blank : Made variant [] (blank variant)
  | ofDump {image : Image} (dump : Bytes) (h : ofDump variant dump = .ok image) :
      Made variant dump image

section Made

variable {variant : Variant} {dump : Bytes} (made : Made variant dump image)

include made

theorem Made.built : image.Built := by
  cases made with
  | blank => exact .blank variant
  | ofDump _ h => exact .ofDump variant dump h

theorem Made.pages_eq : image.pages = variant.pages := by
  cases made with
  | blank => rfl
  | ofDump _ h =>
      rw [(ofDump_eq_ok.mp h).2]
      rfl

/-- A new image has the pages of its dump, and zeros where the dump is short. -/
theorem Made.pageAt_eq {p : Nat} (hp : p < variant.pages) : image.pageAt p = dump.pageAt p := by
  cases made with
  | blank => exact pageAt_blank variant p
  | ofDump _ h =>
      rw [(ofDump_eq_ok.mp h).2]
      exact pageAt_ofDump dump hp

/-- **An image that was made and edited is an array of the pages of its
variant**, and each byte of a page is the one that was stored last, or else
that of the dump. -/
theorem editedBy_isPageArray (edits : List Edit) :
    (image.editedBy edits).pages = variant.pages ∧
    (image.editedBy edits).IsPageArray ∧
    ∀ p, p < variant.pages → ∃ page, (image.editedBy edits).page p = .ok page ∧
      ∀ k, page.toList[k]? =
        (lastStored? variant.pages p k edits).or (dump.pageAt p).toList[k]? := by
  have size : (image.editedBy edits).pages = variant.pages :=
    (pages_editedBy image edits).trans made.pages_eq
  have array : (image.editedBy edits).IsPageArray := (made.built.editedBy edits).clear.isPageArray
  refine ⟨size, array, fun p hp => ⟨_, array.page p (by rwa [size]), fun k => ?_⟩⟩
  rw [bytes_pageAt_editedBy image edits (by rwa [made.pages_eq]), made.pages_eq,
    made.pageAt_eq hp]

end Made

/-- Edits one over the other, at the end of the larger EV1: a page that a
block replaces, a page and two pages of the block beyond the end, and secrets
without a PACK. -/
def overlappingEdits (password : Password) : List Edit :=
  [.setPage 39 ⟨1, 2, 3, 4⟩, .setPage 41 ⟨1, 2, 3, 4⟩,
    .copyBlock 39 ⟨.zero, ⟨0xa0, 0xa1, 0xa2, 0xa3⟩, .zero, .zero⟩,
    .placeSecrets .ev1Ul21 ⟨some password, none⟩]

/-- They are made on the image of a dump that ends within a page. -/
theorem editedBy_isPageArray_overlapping :
    let dump : Bytes := [0x04, 0x61, 0x9b]
    let made := (blank .ev1Ul21).overlay 0 dump
    let image := made.editedBy (overlappingEdits ⟨⟨0x12, 0x34, 0x56, 0x78⟩⟩)
    Made .ev1Ul21 dump made ∧ image.IsPageArray ∧
      image.page 0 = .ok ⟨0x04, 0x61, 0x9b, 0⟩ ∧
      image.page 39 = .ok ⟨0x12, 0x34, 0x56, 0x78⟩ ∧
      image.page 40 = .ok ⟨0, 0, 0xa2, 0xa3⟩ ∧
      image.page 41 = .error (.pageOutOfRange 41 41) ∧
      ofDump .ev1Ul21 image.active = .ok image := by
  intro dump made image
  have source : Made .ev1Ul21 dump made := .ofDump dump (ofDump_eq_ok.mpr ⟨by decide, rfl⟩)
  obtain ⟨size, array, stored⟩ :=
    editedBy_isPageArray source (overlappingEdits ⟨⟨0x12, 0x34, 0x56, 0x78⟩⟩)
  have pageOf : ∀ p page, p < 41 → (∀ k, k < 4 →
      (lastStored? 41 p k (overlappingEdits ⟨⟨0x12, 0x34, 0x56, 0x78⟩⟩)).or
        (Bytes.pageAt [0x04, 0x61, 0x9b] p).toList[k]? = page.toList[k]?) →
      image.page p = .ok page := by
    intro p page hp bytes
    obtain ⟨read, h, last⟩ := stored p hp
    exact h.trans (congrArg Except.ok (Page.eq_of_getElem? fun k hk => (last k).trans (bytes k hk)))
  refine ⟨source, array, pageOf 0 _ (by decide) (by decide), pageOf 39 _ (by decide) (by decide),
    pageOf 40 _ (by decide) (by decide), ?_, array.restored _ size.symm⟩
  exact (array.beyond 41 (by rw [size]; decide)).1.trans (by rw [size]; rfl)

end Image

end Ultralight
