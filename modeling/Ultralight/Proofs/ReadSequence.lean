/-
  Ultralight.Proofs.ReadSequence
  ──────────────────────────────
  **The courses of a read pass, whatever the reader answers.**

  `ReadCourse` is one course that a read pass can take: a relation between
  the blocks still to be read, whether the tag sleeps, the answers of the
  reader, the markers left behind and the session at the end.  A read pass
  never fails, so every course ends with markers (`readBlocks_takesCourse`):
  where a write pass gives up, a read pass counts what is left as failed.

  `readAll_marksCourse` adds what happens after the pass: the markers are
  logged, the known secrets go into the image, and the report counts the
  markers.
-/
import Ultralight.Proofs.ImagePages
import Ultralight.Proofs.Selection

namespace Ultralight

/-- The markers that a notice tells. -/
def Notice.markers? : Notice → Option (List Marker)
  | .markers line => some line
  | _ => none

namespace Session

open Dialogue

variable {σ : Type} [Reader σ]

/-! ## §1. Courses of a read pass. -/

/-- One course of a read pass over a tag of so many pages: from a session,
the first pages of the blocks to be read, whether the tag sleeps and a
reader, by these exchanges and with these markers to a session and a
reader. -/
inductive ReadCourse (pages : Nat) :
    Session → List Nat → Bool → σ → List Exchange → List Marker → Session → σ → Prop where
  /-- Nothing is left to be read. -/
  | finished (session : Session) (asleep : Bool) (reader : σ) :
      ReadCourse pages session [] asleep reader [] [] session reader
  /-- A tag that is awake shows a block, and the image takes it. -/
  | shown {session final : Session} {first : Nat} {plan : List Nat} {reader after last : σ}
      {block : Block} {exchanges : List Exchange} {markers : List Marker}
      (answered : Reader.answer (.read (UInt8.ofNat first)) reader = (.ok block, after))
      (rest : ReadCourse pages { session with image := session.image.withBlock first block } plan
        false after exchanges markers final last) :
      ReadCourse pages session (first :: plan) false reader
        (⟨.read (UInt8.ofNat first), .ok block⟩ :: exchanges)
        (List.replicate (session.image.blockCount first) .done ++ markers) final last
  /-- A tag that is awake refuses a block and falls asleep. -/
  | refused {session final : Session} {first : Nat} {plan : List Nat} {reader after last : σ}
      {error : Error} {exchanges : List Exchange} {markers : List Marker}
      (answered : Reader.answer (.read (UInt8.ofNat first)) reader = (.error error, after))
      (rest : ReadCourse pages session plan true after exchanges markers final last) :
      ReadCourse pages session (first :: plan) false reader
        (⟨.read (UInt8.ofNat first), .error error⟩ :: exchanges)
        (List.replicate (min (pages - first) blockPages) .failed ++ markers) final last
  /-- A tag that sleeps is found again. -/
  | woken {session final : Session} {first : Nat} {plan : List Nat} {reader after last : σ}
      {target : Target} {exchanges : List Exchange} {markers : List Marker}
      (answered : Reader.answer (.select session.wantedUid) reader = (.ok (some target), after))
      (rest : ReadCourse pages { session with target := some target } (first :: plan) false after
        exchanges markers final last) :
      ReadCourse pages session (first :: plan) true reader
        (⟨.select session.wantedUid, .ok (some target)⟩ :: exchanges) markers final last
  /-- A tag that sleeps is not found again, and no other block is tried. -/
  | lost {session : Session} {first : Nat} {plan : List Nat} {reader after : σ}
      {reply : Except Error (Option Target)}
      (answered : Reader.answer (.select session.wantedUid) reader = (reply, after))
      (missing : Exchange.found? ⟨.select session.wantedUid, reply⟩ = none) :
      ReadCourse pages session (first :: plan) true reader [⟨.select session.wantedUid, reply⟩]
        (List.replicate (pages - first) .failed) session after

/-! ## §2. The pass takes one of these courses. -/

variable {pages first : Nat} {session : Session} {reader after : σ}

/-- A block that is shown is copied into the image. -/
theorem hold_readBlock_shown {block : Block} (fits : first < session.image.pages)
    (answered : Reader.answer (.read (UInt8.ofNat first)) reader = (.ok block, after)) :
    (readBlock first).hold session reader =
      ⟨(.ok (session.image.blockCount first),
          { session with image := session.image.withBlock first block }), after,
        [.exchange ⟨.read (UInt8.ofNat first), .ok block⟩]⟩ := by
  unfold readBlock
  rw [Action.hold_bind_ok (Action.hold_lift_of (Talk.hold_ask_of answered) session),
    Action.hold_get_bind, Image.copyBlock_eq_ok fits,
    Action.hold_bind_ok (Action.hold_lift_of (Talk.hold_ofExcept _ after) session),
    Action.hold_bind_ok (Action.hold_set _ session after)]
  rfl

/-- A block that is refused leaves the session as it is. -/
theorem hold_readBlock_refused {error : Error}
    (answered : Reader.answer (.read (UInt8.ofNat first)) reader = (.error error, after)) :
    (readBlock first).hold session reader =
      ⟨(.error error, session), after, [.exchange ⟨.read (UInt8.ofNat first), .error error⟩]⟩ := by
  unfold readBlock
  exact Action.hold_bind_error (Action.hold_lift_of (Talk.hold_ask_of answered) session) _

/-- Nothing is asked of a tag that is awake before its next block. -/
theorem hold_readBlocks_shown {block : Block} (fits : first < session.image.pages)
    (answered : Reader.answer (.read (UInt8.ofNat first)) reader = (.ok block, after))
    (rest : List Nat) (markers : List Marker) :
    (readBlocks pages (first :: rest) false markers).hold session reader =
      ((readBlocks pages rest false
          (markers ++ List.replicate (session.image.blockCount first) .done)).hold
        { session with image := session.image.withBlock first block } after).precededBy
          [.exchange ⟨.read (UInt8.ofNat first), .ok block⟩] := by
  rw [readBlocks, Action.hold_bind_ok (Action.hold_attempt_of (hold_wake_false session reader)),
    Outcome.precededBy_nil,
    Action.hold_bind_ok (Action.hold_attempt_of (hold_readBlock_shown fits answered))]

/-- A refused block puts the tag to sleep. -/
theorem hold_readBlocks_refused {error : Error}
    (answered : Reader.answer (.read (UInt8.ofNat first)) reader = (.error error, after))
    (rest : List Nat) (markers : List Marker) :
    (readBlocks pages (first :: rest) false markers).hold session reader =
      ((readBlocks pages rest true
          (markers ++ List.replicate (min (pages - first) blockPages) .failed)).hold
        session after).precededBy
          [.exchange ⟨.read (UInt8.ofNat first), .error error⟩,
            .notice (.blockUnreadable first error)] := by
  rw [readBlocks, Action.hold_bind_ok (Action.hold_attempt_of (hold_wake_false session reader)),
    Outcome.precededBy_nil,
    Action.hold_bind_ok (Action.hold_attempt_of (hold_readBlock_refused answered)),
    Action.hold_bind_ok (Action.hold_lift_of (Talk.hold_report _ after) session),
    Outcome.precededBy_precededBy]
  rfl

/-- A tag that sleeps is selected before the next block; if it is not found
the pages that are left count as failed. -/
theorem hold_readBlocks_asleep {reply : Except Error (Option Target)}
    (answered : Reader.answer (.select session.wantedUid) reader = (reply, after))
    (rest : List Nat) (markers : List Marker) :
    let made : Exchange := ⟨.select session.wantedUid, reply⟩
    (∃ target, reply = .ok (some target) ∧
      (readBlocks pages (first :: rest) true markers).hold session reader =
        ((readBlocks pages (first :: rest) false markers).hold
          { session with target := some target } after).precededBy
            [.exchange made, .notice (.targetSelected target)]) ∨
    (made.found? = none ∧ ∃ error,
      (readBlocks pages (first :: rest) true markers).hold session reader =
        ⟨(.ok (markers ++ List.replicate (pages - first) .failed), session), after,
          [.exchange made, .notice (.tagLost error)]⟩) := by
  simp only [readBlocks]
  rcases hold_wake_true answered with ⟨target, rfl, held⟩ | ⟨missing, error, held⟩
  · refine .inl ⟨target, rfl, ?_⟩
    rw [Action.hold_bind_ok (Action.hold_attempt_of held),
      Action.hold_bind_ok (Action.hold_attempt_of (hold_wake_false _ after)),
      Outcome.precededBy_nil]
  · exact .inr ⟨missing, error, Action.hold_bind_ok (Action.hold_attempt_of held) _⟩

/-- **The pass takes one of the courses**, and appends its markers to those
so far. -/
theorem readBlocks_takesCourse (plan : List Nat) :
    ∀ (asleep : Bool) (markers : List Marker) (session : Session) (reader : σ),
      (∀ first ∈ plan, first < session.image.pages) →
      let outcome := (readBlocks pages plan asleep markers).hold session reader
      ∃ new, outcome.value.1 = .ok (markers ++ new) ∧
        ReadCourse pages session plan asleep reader outcome.exchanges new outcome.value.2
          outcome.reader := by
  induction plan with
  | nil =>
      intro asleep markers session reader _
      exact ⟨[], by simp [readBlocks], .finished session asleep reader⟩
  | cons first rest ih =>
      -- a tag found again is a tag awake, so the step of the one comes before the other
      have awake : ∀ (markers : List Marker) (session : Session) (reader : σ),
          (∀ number ∈ first :: rest, number < session.image.pages) →
          let outcome := (readBlocks pages (first :: rest) false markers).hold session reader
          ∃ new, outcome.value.1 = .ok (markers ++ new) ∧
            ReadCourse pages session (first :: rest) false reader outcome.exchanges new
              outcome.value.2 outcome.reader := by
        intro markers session reader fits
        have fitsRest : ∀ number ∈ rest, number < session.image.pages :=
          fun number hnumber => fits number (List.mem_cons_of_mem _ hnumber)
        rcases answered : Reader.answer (.read (UInt8.ofNat first)) reader with
          ⟨error | block, after⟩
        · rw [hold_readBlocks_refused answered]
          obtain ⟨new, value, course⟩ := ih true
            (markers ++ List.replicate (min (pages - first) blockPages) .failed) session after
            fitsRest
          exact ⟨_, by rw [Outcome.value_precededBy, value, List.append_assoc],
            .refused answered course⟩
        · rw [hold_readBlocks_shown (fits first List.mem_cons_self) answered]
          obtain ⟨new, value, course⟩ := ih false
            (markers ++ List.replicate (session.image.blockCount first) .done)
            { session with image := session.image.withBlock first block } after fitsRest
          exact ⟨_, by rw [Outcome.value_precededBy, value, List.append_assoc],
            .shown answered course⟩
      intro asleep markers session reader fits
      cases asleep with
      | false => exact awake markers session reader fits
      | true =>
          rcases answered : Reader.answer (.select session.wantedUid) reader with ⟨reply, after⟩
          rcases hold_readBlocks_asleep answered rest markers with
            ⟨target, rfl, held⟩ | ⟨missing, error, held⟩
          · rw [held]
            obtain ⟨new, value, course⟩ := awake markers { session with target := some target }
              after fits
            exact ⟨new, value, .woken answered course⟩
          · rw [held]
            exact ⟨_, rfl, .lost answered missing⟩

/-- Reading blocks logs no markers; they come after the last block. -/
theorem unmarked_readBlocks (pages : Nat) (plan : List Nat) :
    ∀ (asleep : Bool) (markers : List Marker) (session : Session) (reader : σ),
      (∀ first ∈ plan, first < session.image.pages) →
      (Event.notices ((readBlocks pages plan asleep markers).hold session reader).events).filterMap
        Notice.markers? = [] := by
  induction plan with
  | nil => intro asleep markers session reader _; rfl
  | cons first rest ih =>
      have awake : ∀ (markers : List Marker) (session : Session) (reader : σ),
          (∀ number ∈ first :: rest, number < session.image.pages) →
          (Event.notices ((readBlocks pages (first :: rest) false markers).hold session
            reader).events).filterMap Notice.markers? = [] := by
        intro markers session reader fits
        obtain ⟨fitsFirst, fitsRest⟩ := List.forall_mem_cons.mp fits
        rcases answered : Reader.answer (.read (UInt8.ofNat first)) reader with
          ⟨error | block, after⟩
        · rw [hold_readBlocks_refused answered]
          exact ih true _ session after fitsRest
        · rw [hold_readBlocks_shown fitsFirst answered]
          exact ih false _ { session with image := session.image.withBlock first block } after
            fitsRest
      intro asleep markers session reader fits
      cases asleep with
      | false => exact awake markers session reader fits
      | true =>
          rcases answered : Reader.answer (.select session.wantedUid) reader with ⟨reply, after⟩
          rcases hold_readBlocks_asleep answered rest markers with
            ⟨target, rfl, held⟩ | ⟨missing, error, held⟩
          · rw [held]
            exact awake markers { session with target := some target } after fits
          · rw [held]
            rfl

/-! ## §3. The whole pass. -/

/-- Putting the secrets into the image is no exchange, and logs nothing but
that it was done. -/
theorem hold_placeSecrets (session : Session) (reader : σ) :
    ∃ events, Event.exchanges events = [] ∧
      (∀ logged ∈ Event.notices events, logged = .secretsPlaced) ∧
      placeSecrets.hold session reader =
        ⟨(.ok (), { session with
            image := session.image.withSecrets session.variant session.credentials }), reader,
          events⟩ := by
  unfold placeSecrets Image.withSecrets
  rw [Action.hold_get_bind]
  cases session.image.placeSecrets? session.variant session.credentials with
  | none => exact ⟨[], rfl, nofun, rfl⟩
  | some image => exact ⟨[.notice .secretsPlaced], rfl, by simp, rfl⟩

/-- What a pass comes to once its blocks are read. -/
theorem hold_readAll {markers : List Marker} {final : Session} {events : List Event}
    (held : (readBlocks session.variant.pages (blockStarts session.variant.pages) false []).hold
      session reader = ⟨(.ok markers, final), after, events⟩) :
    let report := ReadReport.ofMarkers session.variant.pages markers
    ∃ placing, Event.exchanges placing = [] ∧
      (∀ logged ∈ Event.notices placing, logged = .secretsPlaced) ∧
      readAll.hold session reader =
        ⟨(.ok report, { final with
            image := final.image.withSecrets final.variant final.credentials }), after,
          .notice (.reading session.variant.pages) :: events ++
            (.notice (.markers markers) :: placing ++ [.notice (.readDone report)])⟩ := by
  intro report
  obtain ⟨placing, quiet, logged, placed⟩ := hold_placeSecrets final after
  refine ⟨placing, quiet, logged, ?_⟩
  unfold readAll
  rw [Action.hold_get_bind,
    Action.hold_bind_ok (Action.hold_lift_of (Talk.hold_report _ reader) session),
    Action.hold_bind_ok held,
    Action.hold_bind_ok (Action.hold_lift_of (Talk.hold_report _ after) final),
    Action.hold_bind_ok placed,
    Action.hold_bind_ok (Action.hold_lift_of (Talk.hold_report _ after) _)]
  simp [Outcome.precededBy, report]

theorem lt_pages_of_mem_blockStarts {first : Nat} (h : first ∈ blockStarts pages) :
    first < pages := by
  unfold blockStarts at h
  obtain ⟨k, hk, rfl⟩ := List.mem_map.mp h
  rw [List.mem_range] at hk
  unfold blockPages at hk ⊢
  omega

/-- **A read pass takes one of the courses**; then its markers are logged,
the known secrets go into the image, and the report counts the markers. -/
theorem readAll_marksCourse (session : Session) (reader : σ)
    (fits : session.image.pages = session.variant.pages) :
    let outcome := readAll.hold session reader
    ∃ markers final, ReadCourse session.variant.pages session (blockStarts session.variant.pages)
        false reader outcome.exchanges markers final outcome.reader ∧
      outcome.value =
        (.ok (ReadReport.ofMarkers session.variant.pages markers),
          { final with image := final.image.withSecrets final.variant final.credentials }) ∧
      (Event.notices outcome.events).filterMap Notice.markers? = [markers] := by
  intro outcome
  have within : ∀ first ∈ blockStarts session.variant.pages, first < session.image.pages :=
    fun first h => by rw [fits]; exact lt_pages_of_mem_blockStarts h
  obtain ⟨markers, value, course⟩ := readBlocks_takesCourse
    (blockStarts session.variant.pages) false [] session reader within
  have unmarked := unmarked_readBlocks session.variant.pages (blockStarts session.variant.pages)
    false [] session reader within
  rcases held : (readBlocks session.variant.pages (blockStarts session.variant.pages) false
    []).hold session reader with ⟨⟨result, final⟩, after, events⟩
  rw [held] at value course unmarked
  obtain rfl : result = .ok markers := value
  obtain ⟨placing, quiet, logged, whole⟩ := hold_readAll held
  have silent : (Event.notices placing).filterMap Notice.markers? = [] :=
    List.filterMap_eq_nil_iff.mpr fun notice listed => by rw [logged notice listed]; rfl
  rw [show outcome = _ from whole]
  refine ⟨markers, final, by simpa [quiet] using course, rfl, ?_⟩
  simp [List.filterMap_cons, unmarked, silent, Notice.markers?]

/-- A read pass takes one of the courses, and the report counts its
markers. -/
theorem readAll_takesCourse (session : Session) (reader : σ)
    (fits : session.image.pages = session.variant.pages) :
    let outcome := readAll.hold session reader
    ∃ markers final, ReadCourse session.variant.pages session (blockStarts session.variant.pages)
        false reader outcome.exchanges markers final outcome.reader ∧
      outcome.value =
        (.ok (ReadReport.ofMarkers session.variant.pages markers),
          { final with image := final.image.withSecrets final.variant final.credentials }) := by
  obtain ⟨markers, final, course, value, -⟩ := readAll_marksCourse session reader fits
  exact ⟨markers, final, course, value⟩

end Session

end Ultralight
