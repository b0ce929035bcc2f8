/-
  Ultralight.Proofs.ProtectedPages
  ────────────────────────────────
  **A write never alters a protected page.**

  Two arguments, one for each part of a write:

    • the pass asks for WRITEs of open pages of its range only, whatever the
      answers (`mayAsk_writeEach`), and no other WRITE can reach a page
      (`keepsPage_answer`),
    • making the UID pages writable does write pages 0 to 2, but writes back
      what READ showed of them, and READ shows them as they are
      (`contents_ensureWritable`).

  `protected_pages_kept` is both, for every tag and every session.
-/
import Ultralight.Proofs.SessionEffects
import Ultralight.Proofs.TagMemory
import Ultralight.Proofs.WriteSequence

namespace Ultralight

namespace Session

/-! ## §1. Making the UID pages writable. -/

theorem contents_unlockBackdoor (tag : SimulatedTag) :
    (unlockBackdoor.hold tag).reader.contents = tag.contents := by
  -- switches and frames are no WRITEs
  have asks : unlockBackdoor.Asks fun request => request.isWrite = false :=
    asks_unlockBackdoor (fun _ _ => rfl) (fun _ => rfl) (fun _ _ => rfl)
  exact Dialogue.run_keeps (fun held : SimulatedTag => held.contents = tag.contents)
    (fun _ held h kept => (SimulatedTag.contents_answer h held).trans kept)
    (fun _ _ kept => kept) (Dialogue.asks_exchanges asks tag) rfl

/-- Writing pages back as they are changes nothing, however far it comes. -/
theorem contents_writeBack (pages : List Page) :
    ∀ (number : Nat) (tag : SimulatedTag), number + pages.length ≤ 256 →
      (∀ i page, pages[i]? = some page → page = tag.page (number + i)) →
      ((writeBack number pages).hold tag).reader.contents = tag.contents := by
  induction pages with
  | nil => intro number tag _ _; rfl
  | cons first rest ih =>
      intro number tag bounded same
      rw [List.length_cons] at bounded
      have toNat_number : (UInt8.ofNat number).toNat = number :=
        UInt8.toNat_ofNat_of_lt' (by show number < 256; omega)
      obtain rfl : first = tag.page number := same 0 first rfl
      rcases answered : Reader.answer (.write (UInt8.ofNat number) (tag.page number).padded) tag
        with ⟨reply, after⟩
      have kept : after.contents = tag.contents := by
        have own := SimulatedTag.contents_writePage_own tag (UInt8.ofNat number)
        rw [toNat_number] at own
        rwa [show tag.writePage (UInt8.ofNat number) (tag.page number) = (reply, after)
          from answered] at own
      unfold writeBack
      rcases reply with error | ⟨⟩
      · rw [Talk.hold_bind_ok (Talk.hold_attempt_of (Talk.hold_ask_of answered))]
        exact kept
      · rw [Talk.hold_bind_ok (Talk.hold_attempt_of (Talk.hold_ask_of answered))]
        -- the memory is what it was, so the pages that are left are still as they were read
        refine (ih (number + 1) after (by omega) fun i page hpage => ?_).trans kept
        rw [SimulatedTag.page_eq_of_contents kept, same (i + 1) page hpage]
        congr 1
        omega

/-- The probe writes pages 0 to 2 back as they are. -/
theorem contents_probeDirectWrite (tag : SimulatedTag) :
    (probeDirectWrite.hold tag).reader.contents = tag.contents := by
  unfold probeDirectWrite
  rw [Talk.hold_bind_ok (Talk.hold_report _ tag)]
  rcases answered : Reader.answer (.read 0) tag with ⟨error | block, after⟩
  · rw [Talk.hold_bind_ok (Talk.hold_attempt_of (Talk.hold_ask_of answered))]
    have kept := SimulatedTag.contents_readBlock tag 0
    rw [show tag.readBlock 0 = (.error error, after) from answered] at kept
    exact kept
  · rw [Talk.hold_bind_ok (Talk.hold_attempt_of (Talk.hold_ask_of answered))]
    obtain ⟨rfl, h0, h1, h2⟩ := SimulatedTag.readBlock_first answered
    refine contents_writeBack [block.p0, block.p1, block.p2] 0 after (Nat.le_of_ble_eq_true rfl) ?_
    intro i page hpage
    match i with
    | 0 => cases hpage; exact h0
    | 1 => cases hpage; exact h1
    | 2 => cases hpage; exact h2
    | i + 3 => cases hpage

/-- Whether by plain writes or by the back door, making the UID pages
writable leaves the memory as it is. -/
theorem contents_ensureWritable (tag : SimulatedTag) :
    (ensureWritable.hold tag).reader.contents = tag.contents := by
  have probed := contents_probeDirectWrite tag
  unfold ensureWritable
  rcases held : probeDirectWrite.hold tag with ⟨error | direct, after, events⟩ <;>
    rw [held] at probed
  · rw [Talk.hold_bind_error held]
    exact probed
  · rw [Talk.hold_bind_ok held]
    cases direct with
    | true => exact probed
    | false =>
        -- the back door is tried from where the probe stopped
        exact (contents_unlockBackdoor after).trans probed

theorem contents_openUidPages (policy : WritePolicy) (tag : SimulatedTag) :
    ((openUidPages policy).hold tag).reader.contents = tag.contents := by
  unfold openUidPages
  cases policy.uid with
  | false => rfl
  | true =>
      have opened := contents_ensureWritable tag
      show ((ensureWritable >>= _ : Talk Unit).hold tag).reader.contents = _
      rcases held : ensureWritable.hold tag with ⟨error | writable, after, events⟩ <;>
        rw [held] at opened
      · rw [Talk.hold_bind_error held]
        exact opened
      · rw [Talk.hold_bind_ok held]
        cases writable <;> exact opened

/-! ## §2. The pass itself. -/

/-- What a pass over the pages from `start` up to `stop` may ask. -/
inductive MayAsk (policy : WritePolicy) (variant : Variant) (start stop : Nat) :
    Request → Prop where
  | select (uid : Option Uid) : MayAsk policy variant start stop (.select uid)
  | write {number : Nat} (data : Block) (first : start ≤ number) (last : number < stop)
      (opened : policy.skips variant number = false) :
      MayAsk policy variant start stop (.write (UInt8.ofNat number) data)

open SimulatedTag (KeepsPage keepsPage_of_contents)

variable {policy : WritePolicy} {variant : Variant} {start stop : Nat}

/-- **No answer makes a pass ask for the WRITE of a protected page**, or of
one outside its range. -/
theorem mayAsk_writeEach {numbers : List Nat} (asleep : Bool) (markers : List Marker)
    (range : ∀ number ∈ numbers, start ≤ number ∧ number < stop) :
    (writeEach policy variant numbers asleep markers).HasEffect fun _ trace _ =>
      ∀ made ∈ trace, MayAsk policy variant start stop made.request :=
  hasEffect_writeEach (Action.composes_forall _)
    (fun _ _ => List.forall_mem_singleton.mpr (MayAsk.select _)) numbers asleep markers
    fun number listed opened data _ _ => List.forall_mem_singleton.mpr
      (.write data (range number listed).1 (range number listed).2 opened)

/-- An answer to what a pass may ask keeps a page that is protected or out of
the range. -/
theorem keepsPage_answer {p : Nat} (small : stop ≤ 256)
    (h : policy.skips variant p = true ∨ p < start ∨ stop ≤ p) {request : Request}
    (asked : MayAsk policy variant start stop request) (tag : SimulatedTag) :
    KeepsPage p tag (Reader.answer request tag).2 := by
  cases asked with
  | select uid => exact keepsPage_of_contents (SimulatedTag.contents_select tag uid) p
  | @write number data first last opened =>
      -- a page that may be written is open and in the range, page `p` is not
      have other : number ≠ p := by
        rintro rfl
        rcases h with h | h | h
        · rw [opened] at h
          exact Bool.false_ne_true h
        · omega
        · omega
      have toNat_number : (UInt8.ofNat number).toNat = number :=
        UInt8.toNat_ofNat_of_lt' (by show number < 256; omega)
      exact ⟨SimulatedTag.variant_writePage tag _ _,
        SimulatedTag.page_writePage_of_ne tag (by rw [toNat_number]; exact other) _⟩

/-- A pass keeps every page that is protected or out of its range. -/
theorem keepsPage_writePages {p : Nat} (session : Session) (tag : SimulatedTag)
    (h : policy.skips session.variant p = true ∨ p < start ∨ stop ≤ p) :
    KeepsPage p tag ((writePages policy start stop).hold session tag).reader := by
  by_cases within : stop ≤ session.variant.pages
  · -- a number of one byte names each page, so no WRITE comes round to another one
    have small := session.variant.pages_le
    unfold maxPages at small
    rw [(hold_writePages_within policy start session tag within).2.1]
    refine Dialogue.run_keeps (KeepsPage p tag)
      (fun request held asked kept => kept.trans (keepsPage_answer (by omega) h asked held))
      (fun frame held kept => kept.trans
        (keepsPage_of_contents (SimulatedTag.contents_close frame held) p))
      (mayAsk_writeEach false [] (fun number hnumber => ?_) SimulatedTag session tag) ⟨rfl, rfl⟩
    have := List.mem_range'_1.mp hnumber
    omega
  · rw [hold_writePages_beyond policy session tag (by omega)]
    exact ⟨rfl, rfl⟩

/-- Writing everything keeps every protected page, also when the UID pages
have to be made writable first. -/
theorem keepsPage_writeAll {p : Nat} (session : Session) (tag : SimulatedTag)
    (h : policy.skips session.variant p = true) :
    KeepsPage p tag ((writeAll policy).hold session tag).reader := by
  have opened := contents_openUidPages policy tag
  unfold writeAll
  rcases held : (openUidPages policy).hold tag with ⟨error | ⟨⟩, after, events⟩ <;>
    rw [held] at opened
  · rw [Action.hold_bind_error (Action.hold_lift_of held session)]
    exact keepsPage_of_contents opened p
  · rw [Action.hold_bind_ok (Action.hold_lift_of held session), Action.hold_get_bind]
    exact (keepsPage_of_contents opened p).trans (keepsPage_writePages session after (.inl h))

/-- **Protected memory is never altered.**  Whatever the tag, its faults, its
state and its answers, and whatever a write ends in: a page that the policy
protects, and for a pass over a range a page outside it, holds what it
held. -/
theorem protected_pages_kept (policy : WritePolicy) (session : Session) (tag : SimulatedTag) :
    (∀ start stop p, policy.skips session.variant p = true ∨ p < start ∨ stop ≤ p →
      KeepsPage p tag ((writePages policy start stop).hold session tag).reader) ∧
    (∀ p, policy.skips session.variant p = true →
      KeepsPage p tag ((writeAll policy).hold session tag).reader) :=
  ⟨fun _ _ _ h => keepsPage_writePages session tag h, fun _ h => keepsPage_writeAll session tag h⟩

/-- The lock page of a clone that takes plain writes, whose UID pages are
written: the probe and the pass reach the tag, and the lock page is kept. -/
theorem protected_pages_kept_clone :
    let tag := { SimulatedTag.fresh .ultralight with magic := .directWrite, halted := false }
    let policy : WritePolicy := ⟨false, false, false, true⟩
    let session := fresh .default
    let outcome := (writeAll policy).hold session tag
    policy.skips session.variant lockPage = true ∧
      KeepsPage lockPage tag outcome.reader ∧
      tag.page lockPage ≠ .zero ∧ tag.page 0 ≠ outcome.reader.page 0 ∧
      outcome.value.1 = .ok { pages := 16, written := 14, skipped := 2, failed := 0 } :=
  ⟨rfl, (protected_pages_kept ⟨false, false, false, true⟩ (fresh .default) _).2 lockPage rfl,
    by decide, by decide, rfl⟩

end Session

end Ultralight
