/-
  Ultralight.Proofs.WritableTag
  ─────────────────────────────
  **What the yes of `ensureWritable` is worth.**

  A tag is `Writable` if READ and WRITE reach it and its UID pages are open;
  then a WRITE stores any page as it is given (`Writable.write`).  A yes is
  given for one of two reasons, and each of them leaves a writable tag:

    • WRITEs of pages 0 to 2 were accepted, which no tag does whose UID pages
      are closed,
    • both knocks were answered and both switches are on again.  A genuine tag
      answers no knock, whatever its flags say, and the second one is answered
      only where the first one was.

  Of the exchanges that follow, those that succeed keep a tag writable, unless
  they select or switch framing or checksums off (`Writable.answer`), so the
  yes lasts (`Writable.encounter`).
-/
import Ultralight.Proofs.ProtectedPages
import Ultralight.Proofs.RawScope
import Ultralight.Proofs.SteadyTag
import Ultralight.Proofs.UnlockTraffic

namespace Ultralight

/-! ## §1. Writable tags. -/

namespace Request

/-- Whether a request selects a tag; a listing of no tags does not. -/
def selects : Request → Bool
  | select _ => true
  | list most => most != 0
  | _ => false

/-- A request that shuts the back door of a tag or takes the reader's framing
or checksums away, if it is granted: selections, and the switches of raw mode
switched off. -/
def disturbs : Request → Bool
  | setProperty .handleCrc enable | setProperty .easyFraming enable => !enable
  | request => request.selects

theorem selects_of_undisturbed {request : Request} (h : request.disturbs = false) :
    request.selects = false := by
  cases request with
  | select wanted => cases h
  | list most => exact h
  | _ => rfl

end Request

/-- An exchange that succeeded and disturbs nothing. -/
def Exchange.Undisturbing (made : Exchange) : Prop :=
  made.reply.isOk = true ∧ made.request.disturbs = false

namespace SimulatedTag

/-- The tag is there and awake, and its UID pages are open. -/
structure Open (tag : SimulatedTag) : Prop where
  present : tag.present = true
  awake : tag.halted = false
  opened : tag.uidWritable = true

/-- Besides, the reader is out of raw mode, so READ and WRITE reach the tag. -/
structure Writable (tag : SimulatedTag) : Prop extends tag.Open where
  framed : tag.inRawMode = false

variable {tag after : SimulatedTag}

/-- A writable tag stores a page as it is given, unless a fault is planned. -/
theorem Writable.write (writable : tag.Writable) {number : UInt8} (data : Block)
    (bound : number.toNat < tag.variant.pages) (unplanned : number ∉ tag.faults.writes) :
    Reader.answer (.write number data) tag = (.ok (), tag.setPage number.toNat data.p0) := by
  have ready := ready_of_awake writable.present writable.framed writable.awake
  show tag.writePage number data.p0 = _
  unfold writePage
  rw [ready]
  show (if tag.variant.pages ≤ number.toNat then _ else _) = _
  rw [if_neg (Nat.not_le_of_lt bound), if_neg (by simpa using unplanned), if_pos writable.opened]

/-- A WRITE to a UID page is accepted by a writable tag only, and keeps it
so. -/
theorem writable_of_writePage {number : UInt8} {data : Page}
    (h : tag.writePage number data = (.ok (), after)) (first : number.toNat < firstDataPage) :
    after.Writable := by
  obtain ⟨ready, opened, stored, rfl⟩ := writePage_ok h
  obtain ⟨present, framed, awake⟩ := ready_iff.mp ready
  exact ⟨⟨present, awake, opened first⟩, framed⟩

/-- What opens the back door of a clone shuts no other UID pages. -/
theorem uidWritable_unlocked (opened : tag.uidWritable = true) :
    ({ tag with armed := false, unlocked := true, halted := false } : SimulatedTag).uidWritable =
      true := by
  unfold uidWritable at opened ⊢
  cases kind : tag.magic with
  | genuine =>
      rw [kind] at opened
      cases opened
  | directWrite => rfl
  | backdoor => rfl

/-- Switches are the reader's. -/
theorem Open.setProperty (h : tag.Open) (property : Property) (enable : Bool) :
    (Reader.answer (.setProperty property enable) tag).2.Open := by
  obtain ⟨_, _, _, held⟩ := tag.setProperty_cases property enable
  rw [show Reader.answer (.setProperty property enable) tag = _ from held]
  exact ⟨h.present, h.awake, h.opened⟩

/-- Switching on, and a switch that is none of raw mode, keep a tag
writable. -/
theorem Writable.setProperty (writable : tag.Writable) {property : Property} {enable : Bool}
    (undisturbed : (Request.setProperty property enable).disturbs = false) :
    (Reader.answer (.setProperty property enable) tag).2.Writable := by
  refine ⟨writable.toOpen.setProperty property enable, (inRawMode_iff _).mpr ?_⟩
  rw [switches_answer, (inRawMode_iff tag).mp writable.framed]
  generalize (Reader.answer (.setProperty property enable) tag).1 = reply
  cases property with
  | infiniteSelect => rfl
  | handleCrc =>
      obtain rfl : enable = true := by simpa [Request.disturbs] using undisturbed
      cases reply <;> rfl
  | easyFraming =>
      obtain rfl : enable = true := by simpa [Request.disturbs] using undisturbed
      cases reply <;> rfl

/-- **An exchange that succeeds keeps a tag writable**, unless it selects or
switches off. -/
theorem Writable.answer (writable : tag.Writable) (request : Request)
    (undisturbing : Exchange.Undisturbing ⟨request, (Reader.answer request tag).1⟩) :
    (Reader.answer request tag).2.Writable := by
  obtain ⟨granted, undisturbed⟩ := undisturbing
  rcases held : Reader.answer request tag with ⟨error | value, after⟩
  · rw [held] at granted
    cases granted
  show after.Writable
  cases request with
  | init =>
      cases held
      exact writable
  | setProperty property enable =>
      have kept := writable.setProperty undisturbed
      rw [held] at kept
      exact kept
  | select wanted => cases undisturbed
  | list most =>
      obtain rfl : most = 0 := by simpa [Request.disturbs, Request.selects] using undisturbed
      cases held
      exact writable
  | bits frame count =>
      rcases tag.exchangeBits_cases frame count with ⟨-, knocked⟩ | ignored
      · cases knocked.symm.trans held
        exact ⟨⟨writable.present, writable.awake, writable.opened⟩, writable.framed⟩
      · cases ignored.symm.trans held
  | bytes frame =>
      obtain ⟨-, rfl | rfl⟩ := exchangeBytes_ok held
      · exact writable
      · exact ⟨⟨writable.present, rfl, uidWritable_unlocked writable.opened⟩, writable.framed⟩
  | read page =>
      obtain ⟨-, rfl⟩ := readBlock_ok held
      exact writable
  | write page data =>
      obtain ⟨-, -, stored, rfl⟩ := writePage_ok held
      exact ⟨⟨writable.present, writable.awake, writable.opened⟩, writable.framed⟩

/-- So does a conversation of such exchanges. -/
theorem Writable.conversed (writable : tag.Writable) {trace : List Exchange}
    (h : Conversed tag trace after) (undisturbing : ∀ made ∈ trace, made.Undisturbing) :
    after.Writable := by
  induction trace generalizing tag with
  | nil =>
      cases h
      exact writable
  | cons made trace ih =>
      obtain ⟨first, later⟩ := List.forall_mem_cons.mp undisturbing
      obtain ⟨replied, rest⟩ := h
      have same : (⟨made.request, (Reader.answer made.request tag).1⟩ : Exchange) = made := by
        rw [replied]
      exact ih (writable.answer made.request (same ▸ first)) rest later

/-! ## §2. What is planned for a tag. -/

/-- Only selections use up planned faults. -/
theorem faults_answer {request : Request} (h : request.selects = false) (tag : SimulatedTag) :
    (Reader.answer request tag).2.faults = tag.faults := by
  cases request with
  | init => rfl
  | setProperty property enable =>
      obtain ⟨_, _, _, held⟩ := tag.setProperty_cases property enable
      exact congrArg (fun step => step.2.faults) held
  | select wanted => cases h
  | list most =>
      obtain rfl : most = 0 := by simpa [Request.selects] using h
      rfl
  | bits frame count =>
      rcases tag.exchangeBits_cases frame count with ⟨-, held⟩ | held <;>
        exact congrArg (fun step => step.2.faults) held
  | bytes frame =>
      rcases tag.exchangeBytes_cases frame with ⟨-, -, held⟩ | ⟨_, _, held, -⟩ <;>
        exact congrArg (fun step => step.2.faults) held
  | read page =>
      obtain ⟨_, _, _, held⟩ := tag.readBlock_cases page
      exact congrArg (fun step => step.2.faults) held
  | write page data =>
      rcases tag.writePage_cases page data.p0 with ⟨_, _, _, held⟩ | held | held <;>
        exact congrArg (fun step => step.2.faults) held

end SimulatedTag

namespace Session

/-- Making the UID pages writable selects nothing, so what is planned stays
planned. -/
theorem faults_ensureWritable (tag : SimulatedTag) :
    (ensureWritable.hold tag).reader.faults = tag.faults := by
  have asks : ensureWritable.Asks fun request => request.selects = false := by
    apply asks_ensureWritable
    · exact fun _ _ => rfl
    · exact fun _ => rfl
    · exact fun _ _ => rfl
    · exact fun _ => rfl
    · exact fun _ _ => rfl
  exact Dialogue.run_keeps (fun held : SimulatedTag => held.faults = tag.faults)
    (fun _ held h kept => (SimulatedTag.faults_answer h held).trans kept)
    (fun _ _ kept => kept) (Dialogue.asks_exchanges asks tag) rfl

/-! ## §3. What a yes is given for. -/

open SimulatedTag (Writable)
open RawMode (askedBack)

variable {tag after : SimulatedTag} {trace : List Exchange}

/-- If none is refused, all that is written back is accepted. -/
theorem WrittenBack.accepts {number : Nat} {pages : List Page} {passed : Bool}
    (h : WrittenBack number pages trace passed) (all : passed = true) :
    ∀ made ∈ trace, made.Undisturbing := by
  induction h with
  | done number => intro made hmade; cases hmade
  | refused number page rest error => cases all
  | accepted _ ih => exact List.forall_mem_cons.mpr ⟨⟨rfl, rfl⟩, ih all⟩

/-- A probe that passes wrote to a UID page, so the tag takes such WRITEs. -/
theorem writable_of_probed (probed : Probed trace true) (h : Conversed tag trace after) :
    after.Writable := by
  cases probed with
  | @shown block writes _ written =>
      obtain ⟨-, rest⟩ := h
      have accepts := written.accepts rfl
      cases written with
      | accepted more =>
          obtain ⟨accepted, rest⟩ := rest
          obtain ⟨-, undisturbing⟩ := List.forall_mem_cons.mp accepts
          refine Writable.conversed ?_ rest undisturbing
          exact SimulatedTag.writable_of_writePage (Prod.ext accepted rfl) (by decide)

/-- Only a clone with a back door answers a knock, and the byte that follows
wakes it with its UID pages open. -/
theorem opened_of_knocks {halt : Bytes} (knocks : Knocks halt trace true)
    (h : Conversed tag trace after) : after.Open := by
  generalize answered : true = unlocked at knocks
  cases knocks with
  | unheard halted error => cases answered
  | heard halted answer second =>
      obtain ⟨-, first, opened, rfl⟩ := h
      generalize (Reader.answer (.bytes halt) tag).2 = asleep at first opened ⊢
      rcases asleep.exchangeBits_cases [0x40] 7 with ⟨clone, knocked⟩ | ignored
      · rw [show Reader.answer (.bits [0x40] 7) asleep = _ from knocked] at opened ⊢
        obtain ⟨value, rfl⟩ : ∃ value, second = .ok value := by
          cases second with
          | error error => cases answered
          | ok value => exact ⟨value, rfl⟩
        -- the byte is answered as a knock, since no tag answers it as a command
        have byte : SimulatedTag.exchangeBytes { asleep with armed := true } Frame.unlock2 =
            (.ok value, _) := Prod.ext opened rfl
        obtain ⟨present, -⟩ := SimulatedTag.exchangeBytes_ok byte
        rcases SimulatedTag.exchangeBytes_cases { asleep with armed := true } Frame.unlock2 with
          ⟨-, -, held⟩ | ⟨reply, halted, held, -, failed⟩
        · rw [show Reader.answer (.bytes [0x43]) _ = _ from held]
          refine ⟨present, rfl, ?_⟩
          show SimulatedTag.uidWritable _ = true
          unfold SimulatedTag.uidWritable
          rw [clone]
        · obtain ⟨error, rfl⟩ := failed (.inl rfl)
          rw [held] at byte
          cases congrArg Prod.fst byte
      · rw [show Reader.answer (.bits [0x40] 7) asleep = _ from ignored] at first
        cases first

/-- With both switches on again an open tag is writable. -/
theorem writable_of_askedBack (opened : tag.Open)
    (h : Conversed tag (askedBack (.ok ()) (.ok ())) after) : after.Writable := by
  obtain ⟨first, second, rfl⟩ := h
  have crc := SimulatedTag.switches_answer (.setProperty .handleCrc true) tag
  rw [first] at crc
  replace opened := opened.setProperty .handleCrc true
  generalize (Reader.answer (.setProperty .handleCrc true) tag).2 = between at second crc opened ⊢
  have framing := SimulatedTag.switches_answer (.setProperty .easyFraming true) between
  rw [second, crc] at framing
  exact ⟨opened.setProperty .easyFraming true, (SimulatedTag.inRawMode_iff _).mpr framing⟩

theorem UnlockCourse.writable (course : UnlockCourse tag trace after (.ok true)) :
    after.Writable := by
  generalize result : Except.ok true = answer at course
  cases course with
  | direct probed h => exact writable_of_probed probed h
  | backDoor probed h door =>
      cases door with
      | refused h => cases result
      | undone h => cases result
      | held entered closed knocks left =>
          obtain ⟨rfl, rfl, rfl⟩ := leaving_eq_ok.mp result.symm
          obtain ⟨knocked, sent, back⟩ := conversed_append.mp left
          exact writable_of_askedBack (opened_of_knocks knocks sent) back

end Session

/-! ## §4. How long it lasts. -/

/-- Whatever succeeds and disturbs nothing may come before an exchange: it
still meets a writable tag, with the same faults planned, and is answered by
it. -/
theorem SimulatedTag.Writable.encounter {α : Type} (dialogue : Dialogue α) {tag : SimulatedTag}
    (writable : tag.Writable) {before more : List (SimulatedTag × Exchange)} {met : SimulatedTag}
    {made : Exchange} (split : dialogue.encounters tag = before ++ (met, made) :: more)
    (undisturbing : ∀ earlier ∈ before, earlier.2.Undisturbing) :
    met.Writable ∧ met.faults = tag.faults ∧
      made.reply = (Reader.answer made.request met).1 := by
  -- along the tree, with the tag that the exchanges so far leave behind
  induction dialogue generalizing tag before with
  | done value => exact absurd split.symm (by simp [Dialogue.encounters])
  | ask request next ih =>
      cases before with
      | nil =>
          obtain ⟨here, -⟩ := List.cons.inj split
          obtain ⟨rfl, rfl⟩ := Prod.mk.inj here
          exact ⟨writable, rfl, rfl⟩
      | cons first before =>
          obtain ⟨rfl, later⟩ := List.cons.inj split
          obtain ⟨here, still⟩ := List.forall_mem_cons.mp undisturbing
          obtain ⟨ready, planned, replied⟩ := ih _ (writable.answer request here) later still
          have unselected := Request.selects_of_undisturbed here.2
          exact ⟨ready, planned.trans (faults_answer unselected tag), replied⟩
  | close frame next ih =>
      have closed : (Reader.close frame tag).2.Writable :=
        ⟨⟨writable.present, writable.awake, writable.opened⟩, writable.framed⟩
      have rest := ih _ closed split undisturbing
      exact rest
  | report notice rest ih => exact ih writable split undisturbing
  | pause milliseconds rest ih => exact ih writable split undisturbing

namespace Session

/-- **Asking for writable UID pages does no harm, and its yes holds.**  Of
every tag, whatever its flags and faults, the memory stays as it is.  After a
yes the tag is there and awake and the reader is out of raw mode; and whatever
is done with it then, each WRITE to one of the first four pages for which no
fault is planned stores the page as given and changes no other page, as long as
the exchanges before it succeed, select nothing, and switch neither framing nor
checksums off. -/
theorem ensureWritable_reliable (tag : SimulatedTag) :
    let outcome := ensureWritable.hold tag
    outcome.reader.contents = tag.contents ∧
    (outcome.value = .ok true →
      outcome.reader.present = true ∧ outcome.reader.halted = false ∧
      outcome.reader.inRawMode = false ∧
      ∀ {α : Type} (dialogue : Dialogue α) (before more : List (SimulatedTag × Exchange))
        (met : SimulatedTag) (page : UInt8) (data : Block) (reply : Except Error Unit),
        dialogue.encounters outcome.reader =
          before ++ (met, ⟨.write page data, reply⟩) :: more →
        (∀ earlier ∈ before, earlier.2.Undisturbing) →
        page.toNat ≤ 3 → page ∉ tag.faults.writes →
          reply = .ok () ∧
          Reader.answer (.write page data) met = (.ok (), met.setPage page.toNat data.p0) ∧
          ∀ q, (met.setPage page.toNat data.p0).page q =
            if q = page.toNat then data.p0 else met.page q) := by
  refine ⟨contents_ensureWritable tag, fun yes => ?_⟩
  have course := ensureWritable_takesCourse tag
  dsimp only at course
  rw [yes] at course
  have writable := course.writable
  refine ⟨writable.present, writable.awake, writable.framed, ?_⟩
  intro α dialogue before more met page data reply split undisturbing first unplanned
  obtain ⟨ready, planned, replied⟩ := writable.encounter dialogue split undisturbing
  rw [faults_ensureWritable tag] at planned
  -- no tag is so small that it has no page 3
  have bound : page.toNat < met.variant.pages := by
    have least := met.variant.le_pages
    omega
  have stored := ready.write data bound (by rw [planned]; exact unplanned)
  refine ⟨replied.trans (congrArg Prod.fst stored), stored, fun q => ?_⟩
  rw [SimulatedTag.page_setPage]
  by_cases same : page.toNat = q
  · rw [if_pos ⟨same, bound⟩, if_pos same.symm]
  · rw [if_neg (fun both => same both.1), if_neg (Ne.symm same)]

/-- A clone that sleeps, with stale flags and with a fault planned for page 3:
the probe is not heard, the back door says yes, and after a READ the lock
bytes are written as given. -/
theorem ensureWritable_reliable_backdoor :
    let tag := { SimulatedTag.patterned .ultralight 7 with
      magic := .backdoor
      armed := true
      faults := { Faults.none with writes := [3] } }
    let after := (ensureWritable.hold tag).reader
    let data : Page := ⟨0x12, 0x34, 0x00, 0x00⟩
    tag.halted = true ∧ (ensureWritable.hold tag).value = .ok true ∧
      Reader.answer (.write 2 data.padded) after = (.ok (), after.setPage 2 data) ∧
      after.page 2 ≠ data := by
  intro tag after data
  have yes : (ensureWritable.hold tag).value = .ok true := rfl
  obtain ⟨-, reliable⟩ := ensureWritable_reliable tag
  obtain ⟨-, -, -, writes⟩ := reliable yes
  let dialogue : Talk Unit := do
    let _ ← Talk.ask (.read 0)
    Talk.ask (.write 2 data.padded)
  have stored := writes dialogue.run [(after, ⟨.read 0, (Reader.answer (.read 0) after).1⟩)] []
    after 2 data.padded (.ok ()) rfl (List.forall_mem_singleton.mpr ⟨rfl, rfl⟩) (by decide)
    (by decide)
  exact ⟨rfl, yes, stored.2.1, by decide⟩

end Session

end Ultralight
