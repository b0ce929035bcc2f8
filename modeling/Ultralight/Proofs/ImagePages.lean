/-
  Ultralight.Proofs.ImagePages
  ────────────────────────────
  **What a block and what secrets change of an image, page by page.**

  An image is one buffer of bytes, and `byteAt_overlay` says which bytes an
  overlay changes.  Read four bytes at a time this becomes a statement about
  pages:

    • `pageAt_copyBlock` — a block changes the pages it covers and no others,
    • `pageAt_withSecrets` — the known secrets change the page of PWD and two
      bytes of the page of PACK,
    • neither reaches a byte past the last page.
-/
import Ultralight.Image

namespace Ultralight

/-- Page `k` of a block; zeros past its end. -/
def Block.pageAt (block : Block) (k : Nat) : Page := block.pages.getD k .zero

/-- What a page that a tag stores at `p` becomes when the known secrets are
put into it: PWD fills its page, PACK opens the next one, and zeros stand for
a PACK that is not known. -/
def Credentials.putInto (credentials : Credentials) (variant : Variant) (p : Nat) (page : Page) :
    Page :=
  match variant.secretLayout, credentials.password with
  | some layout, some password =>
      if p = layout.pwdPage then password.page
      else if p = layout.packPage then
        let pack := credentials.pack.getD .zero
        ⟨pack.b0, pack.b1, page.b2, page.b3⟩
      else page
  | _, _ => page

namespace Image

/-! ## §1. Overlays, byte by byte. -/

/-- The pages of a tag lie within the buffer. -/
theorem activeLength_le (image : Image) : image.activeLength ≤ image.bytes.length := by
  have largest := image.pages_le
  rw [image.length_bytes]
  unfold activeLength pageSize maxDumpSize
  unfold maxPages at largest
  omega

/-- Byte `i` comes from the data exactly where the data reaches. -/
theorem byteAt_overlay (image : Image) (start : Nat) (data : Bytes) (i : Nat) :
    (image.overlay start data).byteAt i =
      if start ≤ i ∧ i < start + data.length ∧ i < maxDumpSize then data.getD (i - start) 0
      else image.byteAt i := by
  unfold byteAt
  rw [List.getD_eq_getElem?_getD, bytes_overlay, Bytes.getElem?_splice, image.length_bytes]
  split
  · rw [List.getD_eq_getElem?_getD]
  · rw [List.getD_eq_getElem?_getD]

/-- A page that the data does not reach stays as it is. -/
theorem pageAt_overlay_of_outside (image : Image) {start : Nat} {data : Bytes} {q : Nat}
    (h : q * pageSize + pageSize ≤ start ∨ start + data.length ≤ q * pageSize) :
    (image.overlay start data).pageAt q = image.pageAt q := by
  unfold pageSize at h
  -- none of the four bytes of the page is one of the data
  have kept : ∀ n, n < 4 → (image.overlay start data).byteAt (q * pageSize + n) =
      image.byteAt (q * pageSize + n) := by
    intro n hn
    rw [byteAt_overlay, if_neg]
    unfold pageSize
    omega
  unfold pageAt
  rw [kept 1 (by decide), kept 2 (by decide), kept 3 (by decide)]
  rw [show (image.overlay start data).byteAt (q * pageSize) = image.byteAt (q * pageSize)
    from kept 0 (by decide)]

/-- A page that the data fills holds the four bytes of the data there. -/
theorem pageAt_overlay_of_inside (image : Image) {data : Bytes} {p k : Nat}
    (reaches : k * pageSize + pageSize ≤ data.length) (bound : p + k < maxPages) :
    (image.overlay (p * pageSize) data).pageAt (p + k) =
      ⟨data.getD (k * 4) 0, data.getD (k * 4 + 1) 0, data.getD (k * 4 + 2) 0,
        data.getD (k * 4 + 3) 0⟩ := by
  unfold pageSize at reaches
  unfold maxPages at bound
  have taken : ∀ n, n < 4 → (image.overlay (p * pageSize) data).byteAt ((p + k) * pageSize + n) =
      data.getD (k * 4 + n) 0 := by
    intro n hn
    rw [byteAt_overlay, if_pos]
    · congr 1
      unfold pageSize
      omega
    · unfold pageSize maxDumpSize
      omega
  unfold pageAt
  rw [taken 1 (by decide), taken 2 (by decide), taken 3 (by decide)]
  rw [show (image.overlay (p * pageSize) data).byteAt ((p + k) * pageSize) = data.getD (k * 4) 0
    from taken 0 (by decide)]

/-- The two bytes of a PACK open a page, and the other two stay. -/
theorem pageAt_overlay_pack (image : Image) (pack : Pack) {p : Nat} (bound : p < maxPages) :
    (image.overlay (p * pageSize) pack.bytes).pageAt p =
      ⟨pack.b0, pack.b1, (image.pageAt p).b2, (image.pageAt p).b3⟩ := by
  unfold maxPages at bound
  have length : pack.bytes.length = 2 := rfl
  have taken : ∀ n, n < 2 → (image.overlay (p * pageSize) pack.bytes).byteAt (p * pageSize + n) =
      pack.bytes.getD n 0 := by
    intro n hn
    rw [byteAt_overlay, if_pos, Nat.add_sub_cancel_left]
    unfold pageSize maxDumpSize
    omega
  have kept : ∀ n, 2 ≤ n → (image.overlay (p * pageSize) pack.bytes).byteAt (p * pageSize + n) =
      image.byteAt (p * pageSize + n) := by
    intro n hn
    rw [byteAt_overlay, if_neg]
    omega
  unfold pageAt
  rw [taken 1 (by decide), kept 2 (by decide), kept 3 (by decide)]
  exact congrArg (Page.mk · _ _ _) (taken 0 (by decide))

/-- An overlay that ends by the last page of the tag leaves what follows. -/
theorem getElem?_overlay_past (image : Image) {start : Nat} {data : Bytes} {i : Nat}
    (h : start + data.length ≤ i) : (image.overlay start data).bytes[i]? = image.bytes[i]? := by
  rw [bytes_overlay, Bytes.getElem?_splice, if_neg]
  omega

/-! ## §2. Blocks. -/

/-- The image with a block copied over it from page `p` on. -/
def withBlock (image : Image) (p : Nat) (block : Block) : Image :=
  image.overlay (p * pageSize) (block.toList.take (image.blockCount p * pageSize))

theorem copyBlock_eq_ok {image : Image} {p : Nat} (h : p < image.pages) (block : Block) :
    image.copyBlock p block = .ok (image.withBlock p block, image.blockCount p) := by
  unfold copyBlock onPage
  rw [if_pos h]
  rfl

theorem pages_of_copyBlock {image changed : Image} {p copied : Nat} {block : Block}
    (h : image.copyBlock p block = .ok (changed, copied)) : changed.pages = image.pages := by
  unfold copyBlock onPage at h
  split at h
  · cases h
    rfl
  · cases h

/-- The part of a block that is copied. -/
theorem length_take_block (image : Image) (p : Nat) (block : Block) :
    (block.toList.take (image.blockCount p * pageSize)).length =
      image.blockCount p * pageSize := by
  have most : image.blockCount p ≤ 4 := Nat.min_le_right _ _
  rw [List.length_take, Block.length_toList]
  unfold pageSize
  omega

/-- **A block changes the pages it covers**, as far as they are on the tag,
and no others. -/
theorem pageAt_withBlock (image : Image) (p q : Nat) (block : Block) :
    (image.withBlock p block).pageAt q =
      if p ≤ q ∧ q < p + blockPages ∧ q < image.pages then block.pageAt (q - p)
      else image.pageAt q := by
  have count : image.blockCount p = min (image.pages - p) 4 := rfl
  have length := image.length_take_block p block
  have largest := image.pages_le
  split
  · next inside =>
    obtain ⟨k, rfl⟩ : ∃ k, q = p + k := ⟨q - p, by omega⟩
    unfold blockPages at inside
    have reaches : k * pageSize + pageSize ≤ image.blockCount p * pageSize := by
      unfold pageSize
      omega
    unfold withBlock
    rw [pageAt_overlay_of_inside image (by rw [length]; exact reaches) (by omega),
      Nat.add_sub_cancel_left]
    -- the four bytes stand in the block, and the cut comes after them
    have uncut : ∀ n, n < 4 →
        (block.toList.take (image.blockCount p * pageSize)).getD (k * 4 + n) 0 =
          block.toList.getD (k * 4 + n) 0 := by
      intro n hn
      rw [List.getD_eq_getElem?_getD, List.getD_eq_getElem?_getD, List.getElem?_take_of_lt]
      unfold pageSize at reaches ⊢
      omega
    rw [uncut 1 (by decide), uncut 2 (by decide), uncut 3 (by decide)]
    rw [show (block.toList.take (image.blockCount p * pageSize)).getD (k * 4) 0 =
      block.toList.getD (k * 4) 0 from uncut 0 (by decide)]
    have four : k < 4 := by omega
    match k, four with
    | 0, _ => rfl
    | 1, _ => rfl
    | 2, _ => rfl
    | 3, _ => rfl
  · next outside =>
    unfold blockPages at outside
    refine image.pageAt_overlay_of_outside ?_
    rw [length]
    unfold pageSize
    omega

/-- A block leaves what follows the last page. -/
theorem getElem?_withBlock_past (image : Image) {p i : Nat} (hp : p < image.pages) (block : Block)
    (h : image.pages * pageSize ≤ i) : (image.withBlock p block).bytes[i]? = image.bytes[i]? := by
  refine image.getElem?_overlay_past ?_
  rw [image.length_take_block p block]
  have count : image.blockCount p = min (image.pages - p) 4 := rfl
  unfold pageSize at h ⊢
  omega

/-! ## §3. Secrets. -/

/-- The image with the known secrets put into it; the same image if there are
none to put or no place for them. -/
def withSecrets (image : Image) (variant : Variant) (credentials : Credentials) : Image :=
  (image.placeSecrets? variant credentials).getD image

variable {image : Image} {variant : Variant}

/-- Secrets are placed if the variant has a place for them, a password is
known and PACK is on the tag. -/
theorem placeSecrets?_eq_some {changed : Image} {credentials : Credentials} :
    image.placeSecrets? variant credentials = some changed ↔
      ∃ layout password, variant.secretLayout = some layout ∧
        credentials.password = some password ∧ layout.packPage < image.pages ∧
        changed = (image.overlay layout.pwdByte password.bytes).overlay layout.packByte
          (credentials.pack.getD .zero).bytes := by
  unfold placeSecrets?
  constructor
  · intro h
    split at h
    · next layout password hlayout hpassword =>
      split at h
      · next bound =>
        cases h
        exact ⟨layout, password, hlayout, hpassword, bound, rfl⟩
      · cases h
    · cases h
  · rintro ⟨layout, password, hlayout, hpassword, bound, rfl⟩
    rw [hlayout, hpassword]
    exact if_pos bound

/-- Only known secrets are placed, and no page is added for them. -/
theorem of_placeSecrets? {changed : Image} {credentials : Credentials}
    (h : image.placeSecrets? variant credentials = some changed) :
    credentials.isKnown = true ∧ changed.pages = image.pages := by
  obtain ⟨layout, password, _, known, _, rfl⟩ := placeSecrets?_eq_some.mp h
  exact ⟨by rw [Credentials.isKnown, known]; rfl, rfl⟩

/-- **Secrets that are placed change the pages that store them** and no
others, also where the image is not one of the variant. -/
theorem pageAt_placeSecrets? {changed : Image} {credentials : Credentials}
    (h : image.placeSecrets? variant credentials = some changed) (q : Nat) :
    changed.pageAt q = credentials.putInto variant q (image.pageAt q) := by
  obtain ⟨layout, password, hlayout, hpassword, bound, rfl⟩ := placeSecrets?_eq_some.mp h
  obtain ⟨hpwd, hpack⟩ := Variant.secrets_at_end hlayout
  have largest := image.pages_le
  unfold Credentials.putInto
  rw [hlayout, hpassword]
  unfold SecretLayout.pwdByte SecretLayout.packByte
  dsimp only
  split
  · -- PWD stands one page before PACK
    next hq =>
    subst hq
    rw [pageAt_overlay_of_outside _ (.inl (by unfold pageSize; omega))]
    exact pageAt_overlay_of_inside (k := 0) image (Nat.le_refl 4) (by omega)
  · next hnotPwd =>
    have pwdOutside : (image.overlay (layout.pwdPage * pageSize) password.bytes).pageAt q =
        image.pageAt q := by
      refine image.pageAt_overlay_of_outside ?_
      rw [show password.bytes.length = 4 from rfl]
      unfold pageSize
      omega
    split
    · next hq =>
      subst hq
      rw [pageAt_overlay_pack _ _ (by omega), pwdOutside]
    · next hnotPack =>
      rw [← pwdOutside]
      refine pageAt_overlay_of_outside _ ?_
      rw [show (credentials.pack.getD .zero).bytes.length = 2 from rfl]
      unfold pageSize
      omega

/-- What putting secrets into an image of the variant comes to. -/
theorem withSecrets_cases (fits : image.pages = variant.pages) (credentials : Credentials) :
    (∃ layout password, variant.secretLayout = some layout ∧
      credentials.password = some password ∧
      image.withSecrets variant credentials =
        (image.overlay layout.pwdByte password.bytes).overlay layout.packByte
          (credentials.pack.getD .zero).bytes) ∨
    ((variant.secretLayout = none ∨ credentials.password = none) ∧
      image.withSecrets variant credentials = image) := by
  unfold withSecrets placeSecrets?
  cases hlayout : variant.secretLayout with
  | none => exact .inr ⟨.inl rfl, rfl⟩
  | some layout =>
      cases hpassword : credentials.password with
      | none => exact .inr ⟨.inr rfl, rfl⟩
      | some password =>
          have last := (Variant.secrets_at_end hlayout).2
          refine .inl ⟨layout, password, rfl, rfl, ?_⟩
          dsimp only
          rw [if_pos (by omega)]
          rfl

/-- **The known secrets change the pages that store them** and no others. -/
theorem pageAt_withSecrets (fits : image.pages = variant.pages) (credentials : Credentials)
    (q : Nat) :
    (image.withSecrets variant credentials).pageAt q =
      credentials.putInto variant q (image.pageAt q) := by
  rcases withSecrets_cases fits credentials with
    ⟨layout, password, hlayout, hpassword, placed⟩ | ⟨nothing, same⟩
  · have last := (Variant.secrets_at_end hlayout).2
    rw [placed]
    exact pageAt_placeSecrets?
      (placeSecrets?_eq_some.mpr ⟨layout, password, hlayout, hpassword, by omega, rfl⟩) q
  · rw [same]
    unfold Credentials.putInto
    rcases nothing with h | h <;> rw [h]
    cases variant.secretLayout <;> rfl

@[simp] theorem pages_withBlock (image : Image) (p : Nat) (block : Block) :
    (image.withBlock p block).pages = image.pages := rfl

theorem pages_withSecrets (credentials : Credentials) :
    (image.withSecrets variant credentials).pages = image.pages := by
  unfold withSecrets
  cases placing : image.placeSecrets? variant credentials with
  | none => rfl
  | some changed => exact (of_placeSecrets? placing).2

/-- The known secrets leave what follows the last page. -/
theorem getElem?_withSecrets_past (fits : image.pages = variant.pages) (credentials : Credentials)
    {i : Nat} (h : image.pages * pageSize ≤ i) :
    (image.withSecrets variant credentials).bytes[i]? = image.bytes[i]? := by
  rcases withSecrets_cases fits credentials with ⟨layout, password, hlayout, _, placed⟩ | ⟨_, same⟩
  · obtain ⟨hpwd, hpack⟩ := Variant.secrets_at_end hlayout
    rw [placed]
    unfold pageSize at h
    rw [getElem?_overlay_past _ (by
      rw [show (credentials.pack.getD .zero).bytes.length = 2 from rfl]
      unfold SecretLayout.packByte pageSize
      omega)]
    refine getElem?_overlay_past _ ?_
    rw [show password.bytes.length = 4 from rfl]
    unfold SecretLayout.pwdByte pageSize
    omega
  · rw [same]

end Image

end Ultralight
