/-
  Ultralight.Proofs.TagSteps
  ──────────────────────────
  **What each request leaves of a simulated tag.**

  One lemma for each kind of request says what comes back and which fields
  change.  What is said of all requests, such as that the memory or the
  switches of a tag stay, is read off these lemmas.
-/
import Ultralight.SimulatedTag

namespace Ultralight.SimulatedTag

/-- Only the two switches of raw mode change anything. -/
theorem setProperty_cases (tag : SimulatedTag) (property : Property) (enable : Bool) :
    ∃ reply crc framing, tag.setProperty property enable =
      (reply, { tag with handleCrc := crc, easyFraming := framing }) := by
  unfold setProperty
  split
  · exact ⟨_, _, _, rfl⟩
  · cases property <;> exact ⟨_, _, _, rfl⟩

/-- Selecting finds nothing, which may use up a planned fault, or finds the
tag asked for, which is awake then. -/
theorem select_cases (tag : SimulatedTag) (wanted : Option Uid) :
    (∃ reply faults, tag.select wanted = (reply, { tag with faults := faults }) ∧
      faults.property = tag.faults.property ∧ ∀ target, reply ≠ .ok (some target)) ∨
    (wanted.all (· == tag.uid) = true ∧
      tag.select wanted = (.ok (some ⟨tag.atqa0, tag.atqa1, 0x00, tag.uid⟩),
        { tag with halted := false, armed := false, unlocked := false })) := by
  unfold select
  split
  · exact .inl ⟨_, _, rfl, rfl, nofun⟩
  · split
    · exact .inl ⟨_, _, rfl, rfl, nofun⟩
    · split
      · exact .inl ⟨_, _, rfl, rfl, nofun⟩
      · split
        · next asked => exact .inr ⟨asked, rfl⟩
        · exact .inl ⟨_, _, rfl, rfl, nofun⟩

/-- Listing is selecting whatever is there, if anything is to be listed. -/
theorem list_cases (tag : SimulatedTag) (most : Nat) :
    listBySelecting (fun wanted tag => tag.select wanted) most tag = (.ok [], tag) ∨
    listBySelecting (fun wanted tag => tag.select wanted) most tag =
      ((tag.select none).1.map Option.toList, (tag.select none).2) := by
  unfold listBySelecting
  split
  · exact .inl rfl
  · exact .inr rfl

/-- Only a back door answers to a short frame. -/
theorem exchangeBits_cases (tag : SimulatedTag) (frame : Bytes) (count : Nat) :
    (tag.magic = .backdoor ∧
      tag.exchangeBits frame count = (.ok [Frame.ack], { tag with armed := true })) ∨
    tag.exchangeBits frame count = tag.ignore := by
  unfold exchangeBits
  split
  · next knock => exact .inl ⟨knock.1, rfl⟩
  · exact .inr rfl

/-- The short frame that is answered is the first knock. -/
theorem of_exchangeBits_ok {tag after : SimulatedTag} {frame answer : Bytes} {count : Nat}
    (h : tag.exchangeBits frame count = (.ok answer, after)) :
    count = Frame.unlockBits1 ∧ frame.head? = some Frame.unlockCode1 := by
  unfold exchangeBits at h
  split at h
  · next knock => exact knock.2.2
  · cases h

/-- A command changes at most whether the tag sleeps. -/
theorem obey_cases (tag : SimulatedTag) (command : Bytes) :
    ∃ reply halted, tag.obey command = (reply, { tag with halted := halted }) := by
  have checked : ∀ given, ∃ reply halted,
      tag.checkPassword given = (reply, { tag with halted := halted }) := by
    intro given
    unfold checkPassword
    split
    · split <;> exact ⟨_, _, rfl⟩
    · split <;> exact ⟨_, _, rfl⟩
    · exact ⟨_, _, rfl⟩
  unfold obey
  split
  · exact ⟨_, _, rfl⟩
  · split
    · split <;> exact ⟨_, _, rfl⟩
    · split
      · exact checked _
      · split <;> exact ⟨_, _, rfl⟩

/-- A command that is answered leaves the tag as it was. -/
theorem obey_ok {tag after : SimulatedTag} {command answer : Bytes}
    (h : tag.obey command = (.ok answer, after)) : after = tag := by
  have checked : ∀ given, tag.checkPassword given = (.ok answer, after) → after = tag := by
    intro given held
    unfold checkPassword at held
    split at held
    · split at held <;> cases held
      rfl
    · split at held <;> cases held
      rfl
    · cases held
  unfold obey at h
  split at h
  · cases h
  · split at h
    · split at h <;> cases h
      rfl
    · split at h
      · exact checked _ h
      · split at h <;> cases h

/-- A byte frame is the second knock at an armed back door, which wakes the
tag, or a command, which a tag that sleeps does not answer; that frame is no
command that any tag answers. -/
theorem exchangeBytes_cases (tag : SimulatedTag) (frame : Bytes) :
    (frame = Frame.unlock2 ∧ tag.armed = true ∧ tag.exchangeBytes frame =
      (.ok [Frame.ack], { tag with armed := false, unlocked := true, halted := false })) ∨
    ∃ reply halted, tag.exchangeBytes frame = (reply, { tag with halted := halted }) ∧
      (tag.halted = true → halted = true) ∧
      (frame = Frame.unlock2 ∨ tag.halted = true → ∃ error, reply = .error error) := by
  unfold exchangeBytes
  split
  · exact .inr ⟨_, _, rfl, id, fun _ => ⟨_, rfl⟩⟩
  · split
    · next knock =>
      split
      · next armed => exact .inl ⟨knock.1, (Bool.and_eq_true_iff.mp armed).1, rfl⟩
      · exact .inr ⟨_, _, rfl, fun _ => rfl, fun _ => ⟨_, rfl⟩⟩
    · next plain =>
      split
      · exact .inr ⟨_, _, rfl, fun _ => rfl, fun _ => ⟨_, rfl⟩⟩
      · next command told =>
        split
        · exact .inr ⟨_, _, rfl, id, fun _ => ⟨_, rfl⟩⟩
        · next awake =>
          obtain ⟨reply, halted, obeyed⟩ := tag.obey_cases command
          refine .inr ⟨reply, halted, obeyed, fun asleep => absurd asleep awake, ?_⟩
          rintro (knock | asleep)
          · -- a knock that the reader would close by a checksum
            have closes : tag.handleCrc = true := by
              cases on : tag.handleCrc with
              | true => rfl
              | false => exact absurd ⟨knock, by rw [on]; rfl⟩ plain
            rw [command?, if_pos closes, knock] at told
            cases told
            exact ⟨.refused, (congrArg Prod.fst obeyed).symm⟩
          · exact absurd asleep awake

/-- A byte frame is answered by a tag that is there: it is a command, which
leaves the tag as it was, or the second knock. -/
theorem exchangeBytes_ok {tag after : SimulatedTag} {frame answer : Bytes}
    (h : tag.exchangeBytes frame = (.ok answer, after)) :
    tag.present = true ∧
      (after = tag ∨ after = { tag with armed := false, unlocked := true, halted := false }) := by
  unfold exchangeBytes at h
  split at h
  · cases h
  · next there =>
    refine ⟨by simpa using there, ?_⟩
    split at h
    · split at h
      · cases h
        exact .inr rfl
      · cases h
    · split at h
      · cases h
      · split at h
        · cases h
        · exact .inl (obey_ok h)

/-- The second knock is answered if the reader adds no checksum to it. -/
theorem of_exchangeBytes_unlock2 {tag after : SimulatedTag} {answer : Bytes}
    (h : tag.exchangeBytes Frame.unlock2 = (.ok answer, after)) : tag.handleCrc = false := by
  cases on : tag.handleCrc with
  | false => rfl
  | true =>
      -- with a checksum it is a command, and none that a tag knows
      have told : tag.command? Frame.unlock2 = some Frame.unlock2 := if_pos on
      have refused : tag.obey Frame.unlock2 = tag.refuse := rfl
      unfold exchangeBytes at h
      rw [told] at h
      split at h
      · cases h
      · split at h
        · next knock => exact absurd knock.2 (by rw [on]; decide)
        · dsimp only at h
          rw [refused] at h
          split at h <;> cases h

/-- READ changes at most whether the tag is there and awake. -/
theorem readBlock_cases (tag : SimulatedTag) (first : UInt8) :
    ∃ reply present halted, tag.readBlock first =
      (reply, { tag with present := present, halted := halted }) := by
  unfold readBlock
  split
  · exact ⟨_, _, _, rfl⟩
  · dsimp only
    split
    · exact ⟨_, _, _, rfl⟩
    · split <;> exact ⟨_, _, _, rfl⟩

/-- A READ that is answered met a tag that was ready, and leaves it as it
was. -/
theorem readBlock_ok {tag after : SimulatedTag} {first : UInt8} {block : Block}
    (h : tag.readBlock first = (.ok block, after)) : tag.ready = .ok () ∧ after = tag := by
  unfold readBlock at h
  split at h
  · cases h
  · next ready =>
    refine ⟨ready, ?_⟩
    dsimp only at h
    split at h
    · cases h
    · split at h <;> cases h
      rfl

/-- A WRITE is refused, or stores the page as it is, or merges it with what is
there. -/
theorem writePage_cases (tag : SimulatedTag) (number : UInt8) (data : Page) :
    (∃ error present halted, tag.writePage number data =
      (.error error, { tag with present := present, halted := halted })) ∨
    tag.writePage number data = (.ok (), tag.setPage number.toNat data) ∨
    tag.writePage number data =
      (.ok (), tag.setPage number.toNat (merged number.toNat (tag.page number.toNat) data)) := by
  unfold writePage
  split
  · exact .inl ⟨_, _, _, rfl⟩
  · dsimp only
    split
    · exact .inl ⟨_, _, _, rfl⟩
    · split
      · exact .inl ⟨_, _, _, rfl⟩
      · split
        · exact .inr (.inl rfl)
        · split
          · exact .inl ⟨_, _, _, rfl⟩
          · exact .inr (.inr rfl)

/-- A WRITE that is accepted met a tag that was ready, and one to a UID page
met a tag whose UID pages are open; it stores a page. -/
theorem writePage_ok {tag after : SimulatedTag} {number : UInt8} {data : Page}
    (h : tag.writePage number data = (.ok (), after)) :
    tag.ready = .ok () ∧ (number.toNat < firstDataPage → tag.uidWritable = true) ∧
      ∃ stored, after = tag.setPage number.toNat stored := by
  unfold writePage at h
  split at h
  · cases h
  · next ready =>
    refine ⟨ready, ?_⟩
    dsimp only at h
    split at h
    · cases h
    · split at h
      · cases h
      · split at h
        · next opened =>
          cases h
          exact ⟨fun _ => opened, _, rfl⟩
        · split at h
          · cases h
          · next later =>
            cases h
            exact ⟨fun first => absurd first later, _, rfl⟩

/-- While the UID pages are closed, a WRITE is refused, or goes to a later page
and is merged with what is there. -/
theorem writePage_closed {tag : SimulatedTag} (closed : tag.uidWritable = false) (number : UInt8)
    (data : Page) :
    (∃ error present halted, tag.writePage number data =
      (.error error, { tag with present := present, halted := halted })) ∨
    (firstDataPage ≤ number.toNat ∧ tag.writePage number data =
      (.ok (), tag.setPage number.toNat (merged number.toNat (tag.page number.toNat) data))) := by
  unfold writePage
  rw [closed]
  split
  · exact .inl ⟨_, _, _, rfl⟩
  · dsimp only
    split
    · exact .inl ⟨_, _, _, rfl⟩
    · split
      · exact .inl ⟨_, _, _, rfl⟩
      · split
        · next opened => cases opened
        · split
          · exact .inl ⟨_, _, _, rfl⟩
          · next later => exact .inr ⟨Nat.le_of_not_lt later, rfl⟩

end Ultralight.SimulatedTag
