/-
  Ultralight.Proofs.ShortAnswers
  ──────────────────────────────
  **Where a checksum is taken for an answer.**

  In raw mode an answer comes closed by its checksum, and its length is looked
  at with those two bytes on.  An answer that lacks one or two bytes is
  therefore filled up from its checksum:

    • of five or six bytes of a version a byte of the checksum counts as the
      storage byte (`decisive`),
    • of no byte or one of an acknowledgement the checksum gives the rest
      (`opening`), so no answer is too short for one.

  `closedAnswer_outcome` tells what becomes of every payload, and that these
  are the only lengths with which it is not what it should be: `VersionRule`
  and `PackRule` say what it should be.
-/
import Ultralight.Proofs.IntactSession
import Ultralight.ScriptedReader

namespace Ultralight

/-! ## §1. What a closed answer shows. -/

/-- The byte that stands where the storage byte is looked for, in a version
answer closed by its checksum. -/
def decisive (payload : Bytes) : Option UInt8 :=
  if payload.length = 5 then some (Crc.checksum payload >>> 8).toUInt8
  else if payload.length = 6 then some (Crc.checksum payload).toUInt8
  else payload[versionStorageIndex]?

/-- The acknowledgement that an answer closed by its checksum opens with. -/
def opening : Bytes → Pack
  | [] => ⟨0x63, 0x63⟩
  | [byte] => ⟨byte, (Crc.checksum [byte]).toUInt8⟩
  | b0 :: b1 :: _ => ⟨b0, b1⟩

variable {payload : Bytes}

theorem getElem?_append_storage (payload : Bytes) :
    (Crc.append payload)[versionStorageIndex]? = decisive payload := by
  unfold decisive versionStorageIndex Crc.append
  rcases Nat.lt_or_ge 6 payload.length with long | short
  · rw [List.getElem?_append_left long, if_neg (by omega), if_neg (by omega)]
  · rw [List.getElem?_append_right short]
    by_cases five : payload.length = 5
    · rw [if_pos five, five]
      rfl
    · rw [if_neg five]
      by_cases six : payload.length = 6
      · rw [if_pos six, six]
        rfl
      · -- the checksum ends before it
        rw [if_neg six, List.getElem?_eq_none short, List.getElem?_eq_none]
        simp only [Crc.tail, List.length_cons, List.length_nil]
        omega

theorem decisive_eq_none : decisive payload = none ↔ payload.length < 5 := by
  rw [← getElem?_append_storage, List.getElem?_eq_none_iff, Crc.length_append]
  unfold versionStorageIndex
  omega

theorem decisive_of_full (full : versionStorageIndex < payload.length) :
    decisive payload = payload[versionStorageIndex]? := by
  unfold versionStorageIndex at full
  unfold decisive
  rw [if_neg (by omega), if_neg (by omega)]

/-- Only from two bytes on is the acknowledgement the payload's own. -/
theorem opening_bytes_iff : (opening payload).bytes = payload.take 2 ↔ 2 ≤ payload.length := by
  rcases payload with _ | ⟨b0, _ | ⟨b1, rest⟩⟩
  · simp [Pack.bytes]
  · simp [Pack.bytes]
  · simp [opening, Pack.bytes]

namespace Variant

/-- What a storage byte is classified as. -/
theorem classify_of_storage {answer : Bytes} {byte : UInt8}
    (h : answer[versionStorageIndex]? = some byte) :
    classify (some answer) = (ofStorageByte? byte).elim (.error (.unknownVersion byte)) .ok := by
  unfold classify
  rw [Option.bind_some, h]
  dsimp only
  cases ofStorageByte? byte with
  | none => rfl
  | some variant => rfl

end Variant

/-! ## §2. What should become of an answer. -/

namespace Session

open Dialogue (Event Outcome)

/-- A payload too short to hold the storage byte is no answer, and the tag can
only be a plain Ultralight; of any other the storage byte decides. -/
structure VersionRule (payload : Bytes) (session : Session)
    (version : Except Error (Option Bytes)) (detected : Except Error Variant × Session) :
    Prop where
  short : payload.length ≤ versionStorageIndex →
    version = .ok none ∧ ∀ variant, detected.1 = .ok variant → variant = .ultralight
  full : versionStorageIndex < payload.length →
    version ≠ .ok none ∧ detected = session.concluded (Variant.classify (some payload))

/-- A payload too short for an acknowledgement fails; of any other the first
two bytes are stored. -/
structure PackRule (payload : Bytes) (password : Password) (session : Session)
    (presented : Except Error Pack × Session) : Prop where
  short : payload.length < 2 → presented = (.error .authFailed, session)
  full : 2 ≤ payload.length → ∃ pack, pack.bytes = payload.take 2 ∧
    presented = (.ok pack, { session with credentials := .of password pack })

/-- The tag counts as one that does not know the command: it is selected again
and, if that finds it, a plain Ultralight. -/
structure TakenForPlain {σ : Type} (session : Session)
    (version : Outcome σ (Except Error (Option Bytes)))
    (detected : Outcome σ (Except Error Variant × Session)) : Prop where
  absent : version.value = .ok none
  selected : ∃ reply,
    detected.exchanges = version.exchanges ++ [⟨.select session.wantedUid, reply⟩] ∧
    ((∃ target, reply = .ok (some target) ∧ detected.value =
        (.ok .ultralight, adopt .ultralight { session with target := some target })) ∨
      (Exchange.found? ⟨.select session.wantedUid, reply⟩ = none ∧
        ∃ error, detected.value = (.error error, session)))

/-- The tag is classified by this byte, and not selected again. -/
structure TakenFor {σ : Type} (byte : UInt8) (session : Session)
    (version : Outcome σ (Except Error (Option Bytes)))
    (detected : Outcome σ (Except Error Variant × Session)) : Prop where
  answer : version.value ≠ .ok none
  classified : detected.value = session.concluded
    ((Variant.ofStorageByte? byte).elim (.error (.unknownVersion byte)) .ok)
  unselected : detected.exchanges = version.exchanges

/-- A byte frame is answered by this payload, closed by its checksum. -/
def AnsweredBy (payload : Bytes) (trace : List Exchange) : Prop :=
  ∃ frame, ⟨.bytes frame, .ok (Crc.append payload)⟩ ∈ trace

/-- Raw mode is left: both switches are on again, last of all. -/
def LeftRawMode (trace : List Exchange) : Prop :=
  RawMode.askedBack (.ok ()) (.ok ()) <:+ trace

theorem leftRawMode_iff {before : List Exchange} {crc framing : Except Error Unit} :
    LeftRawMode (before ++ RawMode.askedBack crc framing) ↔ (do crc; framing) = .ok () := by
  rw [RawMode.leave_eq_ok]
  constructor
  · rintro ⟨lead, ends⟩
    have same := List.append_inj_right' ends rfl
    simp only [RawMode.askedBack, List.cons.injEq, Exchange.mk.injEq, heq_eq_eq, true_and,
      and_true] at same
    exact ⟨same.1.symm, same.2.symm⟩
  · rintro ⟨rfl, rfl⟩
    exact List.suffix_append before _

section

variable {σ : Type} [Reader σ] {reader : σ} {session : Session} {password : Password}

/-! ## §3. One answer in raw mode. -/

/-- If the frame of a visit to raw mode is answered, this answer is judged,
and whether raw mode was left. -/
theorem judged_of_answered {α : Type} {frame : Bytes}
    {judge : Except Error Bytes → Except Error Unit → Except Error α}
    {outcome : Outcome σ (Except Error α)} (visit : RawMode.Exchanged frame judge outcome)
    (answered : AnsweredBy payload outcome.exchanges) :
    ∃ left, outcome.value = judge (.ok (Crc.append payload)) left ∧
      (LeftRawMode outcome.exchanges ↔ left = .ok ()) := by
  obtain ⟨sent, listed⟩ := answered
  cases visit with
  | refused error value switches =>
      -- raw mode was not entered, so no frame was sent
      cases switches _ listed
  | sent inside answer crc framing value made =>
      rw [made] at listed ⊢
      obtain ⟨-, rfl⟩ : sent = (Reader.close frame inside).1 ∧
          answer = .ok (Crc.append payload) := by
        simpa [RawMode.switchedOff, RawMode.askedBack, eq_comm] using listed
      refine ⟨do crc; framing, value, ?_⟩
      rw [List.append_cons]
      exact leftRawMode_iff

/-! ## §4. Detecting. -/

/-- Once raw mode was left, an answer counts if with its checksum it reaches
the place of the storage byte. -/
theorem getVersion_of_left (answered : AnsweredBy payload (getVersion.hold reader).exchanges)
    (left : LeftRawMode (getVersion.hold reader).exchanges) :
    (getVersion.hold reader).value =
      .ok (if payload.length < 5 then none else some (Crc.append payload)) := by
  obtain ⟨leaving, value, outside⟩ := judged_of_answered (hold_getVersion reader) answered
  obtain rfl := outside.mp left
  rw [value]
  simp only [versionOf, versionStorageIndex, Crc.length_append]
  split
  · rw [if_neg (by omega)]
  · rw [if_pos (by omega)]

/-- A reader that stays in raw mode leaves no version, whatever the answer. -/
theorem getVersion_of_kept (answered : AnsweredBy payload (getVersion.hold reader).exchanges)
    (kept : ¬ LeftRawMode (getVersion.hold reader).exchanges) :
    (getVersion.hold reader).value = .ok none := by
  obtain ⟨leaving, value, outside⟩ := judged_of_answered (hold_getVersion reader) answered
  rw [value]
  cases leaving with
  | error error => rfl
  | ok value => exact absurd (outside.mpr rfl) kept

theorem takenForPlain_of_absent (absent : (getVersion.hold reader).value = .ok none) :
    TakenForPlain session (getVersion.hold reader) (detectVariant.hold session reader) := by
  refine ⟨absent, ?_⟩
  rcases asked : getVersion.hold reader with ⟨result, between, events⟩
  obtain rfl : result = .ok none := by rw [← absent, asked]
  rcases selected : Reader.answer (.select session.wantedUid) between with ⟨reply, after⟩
  refine ⟨reply, ?_⟩
  rcases hold_detectVariant_unanswered asked selected with
    ⟨target, more, found, made, held⟩ | ⟨missing, error, held⟩
  · rw [held, Outcome.exchanges_mk, Event.exchanges_append, made]
    exact ⟨rfl, .inl ⟨target, found, rfl⟩⟩
  · rw [held, Outcome.exchanges_mk, Event.exchanges_append]
    exact ⟨rfl, .inr ⟨missing, error, rfl⟩⟩

theorem takenFor_of_storage {bytes : Bytes} {byte : UInt8}
    (storage : bytes[versionStorageIndex]? = some byte)
    (told : (getVersion.hold reader).value = .ok (some bytes)) :
    TakenFor byte session (getVersion.hold reader) (detectVariant.hold session reader) := by
  rcases asked : getVersion.hold reader with ⟨result, after, events⟩
  obtain rfl : result = .ok (some bytes) := by rw [← told, asked]
  obtain ⟨notices, silent, held⟩ := hold_detectVariant_answered asked session
  rw [held, Variant.classify_of_storage storage]
  refine ⟨nofun, rfl, ?_⟩
  rw [Outcome.exchanges_mk, Event.exchanges_append, silent, List.append_nil]
  rfl

/-- **Where the rule of a version answer holds.**  A payload of five or six
bytes breaks it: that is no answer, and yet one is classified. -/
theorem versionRule_iff {σ : Type} {version : Outcome σ (Except Error (Option Bytes))}
    {detected : Outcome σ (Except Error Variant × Session)}
    (plain : decisive payload = none → TakenForPlain session version detected)
    (told : ∀ byte, decisive payload = some byte → TakenFor byte session version detected) :
    VersionRule payload session version.value detected.value ↔
      payload.length ≠ 5 ∧ payload.length ≠ 6 := by
  constructor
  · intro rule
    have apart : ¬ (5 ≤ payload.length ∧ payload.length ≤ versionStorageIndex) := by
      rintro ⟨long, short⟩
      cases storage : decisive payload with
      | none => exact absurd (decisive_eq_none.mp storage) (Nat.not_lt.mpr long)
      | some byte => exact (told byte storage).answer (rule.short short).1
    unfold versionStorageIndex at apart
    omega
  · rintro ⟨five, six⟩
    constructor
    · intro short
      unfold versionStorageIndex at short
      have taken := plain (decisive_eq_none.mpr (by omega))
      refine ⟨taken.absent, ?_⟩
      intro variant detected
      obtain ⟨reply, -, ⟨target, -, found⟩ | ⟨-, error, failed⟩⟩ := taken.selected
      · rw [found] at detected
        exact (Except.ok.inj detected).symm
      · rw [failed] at detected
        cases detected
    · intro full
      have storage : payload[versionStorageIndex]? = some payload[versionStorageIndex] :=
        List.getElem?_eq_getElem full
      have taken := told _ ((decisive_of_full full).trans storage)
      rw [Variant.classify_of_storage storage]
      exact ⟨taken.answer, taken.classified⟩

/-! ## §5. Authenticating. -/

/-- No closed answer is too short for an acknowledgement. -/
theorem packOf_append (payload : Bytes) :
    packOf (.ok (Crc.append payload)) (.ok ()) = .ok (opening payload) := by
  rcases payload with _ | ⟨b0, _ | ⟨b1, rest⟩⟩
  · rfl
  · rfl
  · rfl

/-- In raw mode no answer is one. -/
theorem packOf_kept (answer : Except Error Bytes) (error : Error) :
    packOf answer (.error error) = .error .authFailed := by
  rcases answer with error | _ | ⟨b0, _ | ⟨b1, rest⟩⟩
  · rfl
  · rfl
  · rfl
  · rfl

/-- So only a reader that stays in raw mode makes an answered authentication
fail. -/
theorem authenticate_of_answered
    (answered : AnsweredBy payload ((authenticate password).hold session reader).exchanges) :
    let presented := (authenticate password).hold session reader
    (LeftRawMode presented.exchanges → presented.value =
      (.ok (opening payload),
        { session with credentials := .of password (opening payload) })) ∧
    (¬ LeftRawMode presented.exchanges → presented.value = (.error .authFailed, session)) := by
  rcases presented : (acknowledgement password).hold reader with ⟨result, after, events⟩
  have visit := hold_acknowledgement password reader
  rw [presented] at visit
  obtain ⟨notices, silent, held⟩ := hold_authenticate presented session
  have trace : ((authenticate password).hold session reader).exchanges =
      Event.exchanges events := by
    rw [held, Outcome.exchanges_mk, Event.exchanges_append, silent, List.append_nil]
    rfl
  rw [trace] at answered
  obtain ⟨leaving, judged, outside⟩ := judged_of_answered visit answered
  have value : ((authenticate password).hold session reader).value =
      session.acknowledged password (packOf (.ok (Crc.append payload)) leaving) := by
    rw [held, ← judged]
  dsimp only
  rw [trace, value]
  constructor
  · intro left
    obtain rfl := outside.mp left
    rw [packOf_append]
    rfl
  · intro kept
    cases leaving with
    | error error =>
        rw [packOf_kept]
        rfl
    | ok value => exact absurd (outside.mpr rfl) kept

/-- **Where the rule of an acknowledgement holds.** -/
theorem packRule_iff {presented : Except Error Pack × Session}
    (stored : presented =
      (.ok (opening payload), { session with credentials := .of password (opening payload) })) :
    PackRule payload password session presented ↔ 2 ≤ payload.length := by
  subst stored
  constructor
  · intro rule
    apply Nat.le_of_not_lt
    intro short
    cases rule.short short
  · intro full
    constructor
    · intro short
      exact absurd full (Nat.not_le.mpr short)
    · intro _
      exact ⟨opening payload, opening_bytes_iff.mpr full, rfl⟩

/-! ## §6. Every closed answer. -/

/-- **What becomes of a closed answer**, for every reader and every payload
that it closes by a checksum.  A version of fewer than five bytes is no
answer, and the tag is selected again; of a longer one the decisive byte
classifies the tag, which is what should be unless the payload has five or six
bytes.  An acknowledgement is always found and stored, which is what should be
if the payload has at least two bytes.  A reader that stays in raw mode makes
any version count as missing, and any authentication fail. -/
theorem closedAnswer_outcome {σ : Type} [Reader σ] (reader : σ) (session : Session)
    (password : Password) (payload : Bytes) :
    let version := getVersion.hold reader
    let detected := detectVariant.hold session reader
    let presented := (authenticate password).hold session reader
    (AnsweredBy payload version.exchanges →
      (LeftRawMode version.exchanges →
        (decisive payload = none → TakenForPlain session version detected) ∧
        (∀ byte, decisive payload = some byte → TakenFor byte session version detected) ∧
        (VersionRule payload session version.value detected.value ↔
          payload.length ≠ 5 ∧ payload.length ≠ 6)) ∧
      (¬ LeftRawMode version.exchanges → TakenForPlain session version detected)) ∧
    (AnsweredBy payload presented.exchanges →
      (LeftRawMode presented.exchanges →
        presented.value =
          (.ok (opening payload),
            { session with credentials := .of password (opening payload) }) ∧
        (PackRule payload password session presented.value ↔ 2 ≤ payload.length)) ∧
      (¬ LeftRawMode presented.exchanges → presented.value = (.error .authFailed, session))) := by
  intro version detected presented
  constructor
  · intro answered
    refine ⟨fun left => ?_, fun kept => takenForPlain_of_absent (getVersion_of_kept answered kept)⟩
    have value := getVersion_of_left answered left
    have plain : decisive payload = none → TakenForPlain session version detected := by
      intro missing
      rw [if_pos (decisive_eq_none.mp missing)] at value
      exact takenForPlain_of_absent value
    have told : ∀ byte, decisive payload = some byte → TakenFor byte session version detected := by
      intro byte storage
      have long : ¬ payload.length < 5 := by
        rw [← decisive_eq_none, storage]
        exact nofun
      rw [if_neg long] at value
      exact takenFor_of_storage ((getElem?_append_storage payload).trans storage) value
    exact ⟨plain, told, versionRule_iff plain told⟩
  · intro answered
    obtain ⟨ofLeft, ofKept⟩ := authenticate_of_answered answered
    exact ⟨fun left => ⟨ofLeft left, packRule_iff (ofLeft left)⟩, ofKept⟩

end

/-- The first six bytes of the version of an EV1. -/
def terseVersion : Bytes := [0x00, 0x04, 0x03, 0x02, 0x01, 0x00]

/-- A reader that has a tag to find, and that hands on its answers as they
come: the first six bytes of a version, and an answer of no byte, each closed
by its checksum. -/
def terseReader : ScriptedReader :=
  { ScriptedReader.silent with
    select := [.ok (some ⟨0x00, 0x44, 0x00, SimulatedTag.defaultUid⟩)]
    bytes := [.ok (Crc.append terseVersion), .ok (Crc.append [])] }

/-- On that reader the checksum `0e 93` of the version makes a large EV1 of
the tag, and the checksum of nothing becomes an acknowledgement. -/
theorem closedAnswer_outcome_terse :
    let version := getVersion.hold terseReader
    let detected := detectVariant.hold (fresh .default) terseReader
    let presented := (authenticate .factory).hold detected.value.2 detected.reader
    (AnsweredBy terseVersion version.exchanges ∧ LeftRawMode version.exchanges ∧
      decisive terseVersion = some 0x0e ∧
      TakenFor 0x0e (fresh .default) version detected) ∧
    AnsweredBy [] presented.exchanges ∧ LeftRawMode presented.exchanges ∧
      presented.value.1 = .ok ⟨0x63, 0x63⟩ := by
  intro version detected presented
  have answered : AnsweredBy terseVersion version.exchanges :=
    ⟨[0x60, 0xf8, 0x32], .tail _ (.tail _ (.head _))⟩
  have left : LeftRawMode version.exchanges := List.suffix_append (_ :: _ :: [_]) _
  have acknowledged : AnsweredBy [] presented.exchanges :=
    ⟨_, .tail _ (.tail _ (.head _))⟩
  have leaves : LeftRawMode presented.exchanges := List.suffix_append (_ :: _ :: [_]) _
  have storage : decisive terseVersion = some 0x0e := by decide
  obtain ⟨-, told, -⟩ :=
    ((closedAnswer_outcome terseReader (fresh .default) .factory terseVersion).1 answered).1 left
  obtain ⟨stored, -⟩ :=
    ((closedAnswer_outcome detected.reader detected.value.2 .factory []).2 acknowledged).1 leaves
  exact ⟨⟨answered, left, storage, told 0x0e storage⟩, acknowledged, leaves,
    congrArg Prod.fst stored⟩

/-- Of six bytes of a version the rule wants a selection and a plain
Ultralight, and of no byte of an acknowledgement a failure. -/
theorem checksum_taken_for_answer :
    let version := getVersion.hold terseReader
    let detected := detectVariant.hold (fresh .default) terseReader
    let presented := (authenticate .factory).hold detected.value.2 detected.reader
    (AnsweredBy terseVersion version.exchanges ∧ detected.value.1 = .ok .ev1Ul21 ∧
      ¬ VersionRule terseVersion (fresh .default) version.value detected.value) ∧
    AnsweredBy [] presented.exchanges ∧ presented.value.1 = .ok ⟨0x63, 0x63⟩ ∧
      ¬ PackRule [] .factory detected.value.2 presented.value := by
  intro version detected presented
  refine ⟨⟨⟨_, .tail _ (.tail _ (.head _))⟩, rfl, fun rule => ?_⟩,
    ⟨_, .tail _ (.tail _ (.head _))⟩, rfl, fun rule => ?_⟩
  · cases (rule.short (by decide)).1
  · cases congrArg Prod.fst (rule.short (by decide))

end Session

end Ultralight
