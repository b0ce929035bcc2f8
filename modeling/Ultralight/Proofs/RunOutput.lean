/-
  Ultralight.Proofs.RunOutput
  ───────────────────────────
  **What a run prints and what it saves.**

  A run looks for a tag and learns what it is (`approach`), reads it, and then
  prints and saves what it read (`finish`):

    • until the tag is read nothing touches the output or the disk, and no
      READ is made (`approaches_approach`), so a run that ends there leaves
      both as they were,
    • the tag is read into a blank image (`captured_readAll`),
    • the line is printed before anything else, and what comes after saving
      the dump touches neither the output nor the disk (`printed_finish`).

  `run_output` puts these together for any reader, any file system and any
  arguments.  The output may be full before the line ends: what fits is
  printed, and the run ends there.  So it does if the line cannot be flushed.
-/
import Ultralight.Proofs.ByteRange
import Ultralight.Proofs.ReadOrder
import Ultralight.Proofs.RunWrites

namespace Ultralight

open Ultralight.Action (HasEffect Composes)
open Dialogue (Event Outcome)

/-- A request other than a READ. -/
def Request.Readless : Request → Prop
  | .read _ => False
  | _ => True

namespace CommandLine

open ByteRange (ofValues_of_extra ofValues_of_no_extra)
open Session

/-! ## §1. Output. -/

/-- The beginning of some bytes that there is room for. -/
def cut (room : Option Nat) (data : Bytes) : Bytes :=
  match room with
  | none => data
  | some limit => data.take limit

/-- There is room for all of these bytes. -/
def Fits (room : Option Nat) (data : Bytes) : Prop := ∀ limit ∈ room, data.length ≤ limit

theorem cut_of_fits {room : Option Nat} {data : Bytes} (fits : Fits room data) :
    cut room data = data := by
  rcases room with _ | limit
  · rfl
  · exact List.take_of_length_le (fits limit rfl)

namespace Output

variable {output : Output} {data : Bytes}

/-- What fits is written, … -/
theorem write_fits (fits : Fits output.room data) :
    output.write data = (.ok (), { output with
      written := output.written ++ data
      room := output.room.map (· - data.length) }) := by
  unfold write
  rcases output with ⟨written, _ | limit, refusal, unflushed⟩
  · rfl
  · exact if_pos (fits limit rfl)

/-- … and of what does not fit, as much as there is room for. -/
theorem write_overflows (overflows : ¬ Fits output.room data) :
    output.write data = (.error (.stream output.refusal), { output with
      written := output.written ++ cut output.room data
      room := some 0 }) := by
  unfold write
  rcases output with ⟨written, _ | limit, refusal, unflushed⟩
  · exact absurd nofun overflows
  · refine if_neg fun small => overflows ?_
    rintro _ ⟨⟩
    exact small

theorem flush_of_none (flushes : output.unflushed = none) : output.flush = .ok () := by
  unfold flush
  rw [flushes]

theorem flush_of_some {fault : StreamFault} (fails : output.unflushed = some fault) :
    output.flush = .error (.stream fault) := by
  unfold flush
  rw [fails]

/-- What is written does not decide whether it can be flushed. -/
theorem flush_write (output : Output) (data : Bytes) :
    (output.write data).2.flush = output.flush := by
  by_cases fits : Fits output.room data
  · rw [write_fits fits]
    rfl
  · rw [write_overflows fits]
    rfl

/-- Writing in two goes is writing in one: what the first go leaves of the room
is the room of the second. -/
theorem write_append (output : Output) (data more : Bytes) :
    output.write (data ++ more) =
      match output.write data with
      | (.ok (), between) => between.write more
      | (.error error, full) => (.error error, full) := by
  rcases output with ⟨written, _ | limit, refusal, unflushed⟩
  · simp [write]
  · by_cases small : data.length ≤ limit
    · by_cases whole : (data ++ more).length ≤ limit
      · have later : more.length ≤ limit - data.length := by
          rw [List.length_append] at whole
          omega
        simp only [write, if_pos small, if_pos whole, if_pos later, List.append_assoc]
        rw [List.length_append, Nat.sub_add_eq]
      · have later : ¬ more.length ≤ limit - data.length := by
          rw [List.length_append] at whole
          omega
        simp only [write, if_pos small, if_neg whole, if_neg later, List.append_assoc,
          List.take_append, List.take_of_length_le small]
    · have whole : ¬ (data ++ more).length ≤ limit := by
        rw [List.length_append]
        omega
      simp only [write, if_neg small, if_neg whole]
      rw [List.take_append_of_le_length (by omega)]

end Output

/-- The line that a run prints: a stretch of the image, cut at the end of the
buffer, and the end of the line. -/
def line (image : Image) (range : ByteRange) : Bytes :=
  (List.range' range.start (min range.stop maxDumpSize - range.start)).map image.byteAt ++ [newline]

theorem line_eq (image : Image) (range : ByteRange) :
    line image range = image.byteRange range.start range.stop ++ [newline] := by
  refine congrArg (· ++ [newline]) (List.ext_getElem ?_ fun n before after => ?_)
  · simp [Image.byteRange, image.length_bytes]
  · have within : range.start + n < image.bytes.length := by
      unfold Image.byteRange at after
      rw [List.length_drop, List.length_take] at after
      omega
    simp [Image.byteRange, Image.byteAt, List.getD_eq_getElem?_getD,
      List.getElem?_eq_getElem within]

variable {σ φ : Type} [Reader σ] {arguments : Arguments} {attempts : Nat} {range : ByteRange}
  {desk changed : Desk φ} {reader after : σ}

/-- The stretch and the end of the line are printed as one, and flushed. -/
theorem hold_printRange (range : ByteRange) (desk : Desk φ) (reader : σ) :
    let written := desk.output.write (line desk.session.image range)
    (printRange range).hold desk reader =
      ⟨(written.1.bind fun _ => desk.output.flush, { desk with output := written.2 }), reader,
        []⟩ := by
  intro written
  have append := desk.output.write_append (desk.session.image.byteRange range.start range.stop)
    [newline]
  have same := desk.output.flush_write (line desk.session.image range)
  rw [← line_eq] at append
  have first := hold_print (desk.session.image.byteRange range.start range.stop) desk reader
  unfold printRange
  rw [Action.hold_get_bind]
  rcases begun : desk.output.write (desk.session.image.byteRange range.start range.stop)
    with ⟨error | ⟨⟩, between⟩ <;> rw [begun] at append first
  · rw [show written = _ from append]
    exact Action.hold_bind_error first _
  · have second := hold_print [newline] { desk with output := between } reader
    rw [Action.hold_bind_ok first, Outcome.precededBy_nil]
    rw [show between.write [newline] = written from append.symm] at second
    rcases ended : written with ⟨error | ⟨⟩, last⟩ <;> rw [ended] at second
    · exact Action.hold_bind_error second _
    · rw [Action.hold_bind_ok second, Outcome.precededBy_nil, hold_flush, ← same,
        show desk.output.write (line desk.session.image range) = _ from ended]
      rfl

/-! ## §2. A run in two parts. -/

/-- What a run does before it reads a tag: find one and learn what it is.
Whether there is one. -/
def approach (arguments : Arguments) (attempts : Nat) : Action (Desk φ) Bool := do
  start
  Desk.inSession tryListing
  if ← Desk.inSession (findTag arguments attempts) then
    Desk.inSession (identify arguments)
    pure true
  else
    pure false

/-- What a run does once the line is printed. -/
def afterPrint [FileSystem φ] (arguments : Arguments) : Action (Desk φ) Ending := do
  saving arguments
  restoring arguments
  Talk.report .runDone
  pure .finished

/-- What a run does with a tag that it has read. -/
def finish [FileSystem φ] (arguments : Arguments) (range : ByteRange) : Action (Desk φ) Ending := do
  printRange range
  afterPrint arguments

theorem run_eq_parts [FileSystem φ] (arguments : Arguments) (attempts : Nat) :
    run arguments attempts = (do
      let range ← ByteRange.request arguments.range
      if ← approach arguments attempts then
        Desk.inSession readTag
        finish arguments range
      else
        pure .stillWaiting : Action (Desk φ) Ending) := by
  unfold run approach finish afterPrint
  -- only whether a tag was found decides between the two sides
  simp only [handleTag_eq_steps, bind_assoc]
  refine congrArg _ (funext fun range => congrArg _ (funext fun _ => congrArg _ (funext fun _ =>
    congrArg _ (funext fun there => ?_))))
  cases there <;> simp only [Bool.false_eq_true, if_true, if_false, bind_assoc, pure_bind]

/-- A byte range is asked for before anything else, and asks nothing. -/
theorem hold_request {values : List String} (asked : ByteRange.ofValues values = .ok range)
    (reader : σ) : ∃ events, Event.exchanges events = [] ∧
      (ByteRange.request values).hold reader = ⟨.ok range, reader, events⟩ := by
  unfold ByteRange.request
  rw [asked, Talk.hold_bind_ok (Talk.hold_ofExcept _ reader)]
  dsimp only
  split
  · exact ⟨_, rfl, rfl⟩
  · exact ⟨_, rfl, rfl⟩

/-! ## §3. What leaves the output and the disk alone. -/

/-- The output and the disk are as they were. -/
def Untouched (desk : Desk φ) (_ : List Exchange) (after : Desk φ) : Prop :=
  after.output = desk.output ∧ after.disk = desk.disk

theorem composes_untouched : Composes (Untouched (φ := φ)) where
  nothing _ := ⟨rfl, rfl⟩
  append before after := ⟨after.1.trans before.1, after.2.trans before.2⟩

/-- Nothing of a session is on the output or the disk. -/
theorem untouched_inSession {α : Type} (action : Action Session α) :
    (Desk.inSession action : Action (Desk φ) α).HasEffect Untouched := by
  have whatever : action.HasEffect fun _ _ _ => True := fun _ _ _ _ => trivial
  exact hasEffect_inSession whatever fun _ _ _ _ => ⟨rfl, rfl⟩

/-- A restore reads the disk, and that is all. -/
theorem untouched_restoring [FileSystem φ] (arguments : Arguments) :
    (restoring arguments : Action (Desk φ) Unit).HasEffect Untouched := by
  unfold restoring
  split
  · refine composes_untouched.bind (hasEffect_loadFile composes_untouched _) fun dump => ?_
    refine composes_untouched.bind composes_untouched.get fun desk => ?_
    refine composes_untouched.bind (hasEffect_imageOfDump composes_untouched _ _) fun image => ?_
    refine composes_untouched.bind (untouched_inSession _) fun _ => ?_
    refine composes_untouched.bind (hasEffect_resolvePolicy (fun _ _ => ⟨rfl, rfl⟩) _)
      fun policy => ?_
    exact (untouched_inSession _).discard
  · exact composes_untouched.pure _

/-! ## §4. Before the tag is read. -/

/-- Nothing is read, and the output and the disk are as they were. -/
def Approaches (desk : Desk φ) (trace : List Exchange) (after : Desk φ) : Prop :=
  trace.filterMap Exchange.read? = [] ∧ Untouched desk trace after

theorem composes_approaches : Composes (Approaches (φ := φ)) where
  nothing desk := ⟨rfl, composes_untouched.nothing desk⟩
  append before after := by
    refine ⟨?_, composes_untouched.append before.2 after.2⟩
    rw [List.filterMap_append, before.1, after.1, List.append_nil]

/-- Requests other than READs read no page. -/
theorem reads_of_readless {trace : List Exchange}
    (h : ∀ made ∈ trace, made.request.Readless) : trace.filterMap Exchange.read? = [] := by
  refine List.filterMap_eq_nil_iff.mpr fun made listed => ?_
  have readless := h made listed
  rcases made with ⟨request, reply⟩
  cases request with
  | read page => exact readless.elim
  | _ => rfl

theorem approaches_inSession {α : Type} {action : Action Session α}
    (h : action.HasEffect (MakesOnly Request.Readless)) :
    (Desk.inSession action : Action (Desk φ) α).HasEffect Approaches :=
  hasEffect_inSession h fun _ _ _ readless => ⟨reads_of_readless readless, rfl, rfl⟩

/-- **Before the tag is read** nothing is printed, saved or read. -/
theorem approaches_approach (arguments : Arguments) (attempts : Nat) :
    (approach arguments attempts : Action (Desk φ) Bool).HasEffect Approaches := by
  have makes := composes_makesOnly Request.Readless
  have started : (liftM start : Action (Desk φ) Unit).HasEffect Approaches :=
    Action.hasEffect_lift fun σ _ reader desk =>
      ⟨reads_of_readless (Dialogue.asks_exchanges
        (asks_start trivial fun _ _ => trivial) reader), rfl, rfl⟩
  have listed : tryListing.HasEffect (MakesOnly Request.Readless) :=
    hasEffect_tryListing makes fun _ _ _ => makesOnly_single trivial
  have found : (findTag arguments attempts).HasEffect (MakesOnly Request.Readless) :=
    hasEffect_findTag makes (fun _ _ => makesOnly_single trivial) arguments attempts
  have told : (identify arguments).HasEffect (MakesOnly Request.Readless) := by
    refine hasEffect_identify makes ?_ (fun password => ?_) arguments
    · exact hasEffect_detectVariant makes (fun _ _ => makesOnly_single trivial)
        (makesOnly_lift (asks_getVersion (fun _ => trivial) fun _ _ => trivial))
        fun _ _ => makesOnly_nil _ _ _
    · exact hasEffect_authenticate makes
        (makesOnly_lift (asks_acknowledgement (fun _ => trivial) (fun _ _ => trivial) password))
        fun _ _ => makesOnly_nil _ _ _
  refine composes_approaches.bind started fun _ => ?_
  refine composes_approaches.bind (approaches_inSession listed) fun _ => ?_
  refine composes_approaches.bind (approaches_inSession found) fun there => ?_
  cases there with
  | false => exact composes_approaches.pure _
  | true =>
      exact composes_approaches.bind (approaches_inSession told) fun _ => composes_approaches.pure _

/-- What a run knows of a tag that it is about to read: the tag was found and
identified, the image is a blank one, and the secrets are those of a password
that was accepted. -/
structure Known (arguments : Arguments) (attempts : Nat) (session : Session) (reader : σ)
    (known : Session) (after : σ) : Prop where
  reached : ∃ selected found, GotTag arguments attempts session reader selected found ∧
    Identified arguments selected found known.variant known after
  blank : known.image = .blank known.variant
  secrets : match arguments.password with
    | none => known.credentials = session.credentials
    | some password => ∃ pack, known.credentials = .of password pack

/-- Identifying a tag makes the image a blank one and keeps the secrets, or
learns them. -/
theorem of_identified {session known : Session} {variant : Variant}
    (h : Identified arguments session reader variant known after) :
    known.image = .blank variant ∧
      match arguments.password with
      | none => known.credentials = session.credentials
      | some password => ∃ pack, known.credentials = .of password pack := by
  obtain ⟨-, detected, between, told, accepted⟩ := h
  obtain ⟨target, rfl⟩ := adopted_of_detectVariant told
  rcases given : arguments.password with _ | password <;> rw [given] at accepted
  · obtain ⟨rfl, -⟩ := accepted
    exact ⟨rfl, rfl⟩
  · -- an accepted password is the last thing that changes the session
    obtain ⟨pack, events, accepted⟩ := accepted
    have granted := (authenticate_ok (congrArg (fun outcome => outcome.value.1) accepted)).1
    rw [accepted] at granted
    obtain rfl : known = _ := granted
    exact ⟨rfl, pack, rfl⟩

/-- Looking for a tag changes nothing of the session but its target. -/
theorem credentials_of_gotTag {session selected : Session} {found : σ}
    (h : GotTag arguments attempts session reader selected found) :
    selected.credentials = session.credentials := by
  have kept : ∀ {α : Type} {action : Action Session α} (_ : action.HasEffect Session.Follows)
      {session last : Session} {reader after : σ} {value : Except Error α},
      action.Ends session reader value last after → last.credentials = session.credentials := by
    intro α action follows session last reader after value ended
    obtain ⟨events, held⟩ := ended
    have tracked := follows σ session reader
    rw [held] at tracked
    rw [show last = _ from tracked]
    rfl
  obtain ⟨opened, listed, held, -, shown, got⟩ := h
  refine Eq.trans ?_ (kept (hasEffect_tryListing composes_follows fun _ _ session =>
    (tracking_of_not_found rfl session).symm) shown)
  split at got
  · obtain ⟨target, waited⟩ := got
    exact kept (hasEffect_waitForTag composes_follows (fun _ _ => rfl) attempts) waited
  · obtain ⟨target, selected⟩ := got
    exact kept (hasEffect_select fun _ _ => rfl) selected

/-- A run that gets to read a tag knows it. -/
theorem known_of_approach (h : (approach arguments attempts).Ends desk reader (.ok true) changed
    after) : Known arguments attempts desk.session reader changed.session after := by
  obtain ⟨_, _, opened, opening, rest⟩ := h.of_bind
  obtain ⟨started, rfl⟩ := opening.of_lift
  obtain ⟨_, _, listed, listing, rest⟩ := rest.of_bind
  obtain ⟨held, shown, rfl⟩ := eq_of_inSession listing
  obtain ⟨there, _, found, finding, rest⟩ := rest.of_bind
  obtain ⟨selected, ended, rfl⟩ := eq_of_inSession finding
  cases there with
  | false =>
      obtain ⟨_, waiting⟩ := rest
      cases waiting
  | true =>
      obtain ⟨_, _, _, identifying, ⟨_, last⟩⟩ := rest.of_bind
      cases last
      obtain ⟨known, told, rfl⟩ := eq_of_inSession identifying
      obtain ⟨variant, identified, rfl⟩ := identified_of_ends told
      have got := gotTag_of_ends started shown ended
      obtain ⟨blank, secrets⟩ := of_identified identified
      rw [credentials_of_gotTag got] at secrets
      exact ⟨⟨selected, found, got, identified⟩, blank, secrets⟩

/-! ## §5. The read pass. -/

/-- What an image holds after the tag was read into a blank one: the pages
that were shown, zeros for the others, with the known secrets in their places,
and zeros past the last page. -/
structure Captured (session : Session) (exchanges : List Exchange) (image : Image) : Prop where
  pages : image.pages = session.variant.pages
  page : ∀ p, p < session.variant.pages → image.pageAt p =
    session.credentials.putInto session.variant p ((pageShown? exchanges p).getD .zero)
  past : ∀ i, session.variant.pages * pageSize ≤ i → image.byteAt i = 0
  /-- A dump has these pages, and nothing else. -/
  dump_length : image.active.length = session.variant.pages * pageSize
  dump_page : ∀ p, p < session.variant.pages → image.active.pageAt p = image.pageAt p

theorem captured_readAll {session : Session} (blank : session.image = .blank session.variant)
    (reader : σ) : Captured session (readAll.hold session reader).exchanges
      (readAll.hold session reader).value.2.image := by
  obtain ⟨pages, page, past⟩ := readAll_image session reader (by rw [blank]; rfl)
  refine ⟨pages, fun p hp => ?_, fun i hi => ?_, by rw [Image.length_active, pages],
    fun p hp => Image.pageAt_active (by rwa [pages])⟩
  · rw [page p hp, blank, Image.pageAt_blank]
  · unfold Image.byteAt
    rw [List.getD_eq_getElem?_getD, past i hi, blank, ← List.getD_eq_getElem?_getD]
    exact Image.byteAt_blank _ i

/-- Reading a tag is a read pass; what is missing is only logged. -/
theorem hold_readTag (session : Session) (reader : σ) :
    let pass := readAll.hold session reader
    ∃ more, Event.exchanges more = [] ∧
      readTag.hold session reader =
        ⟨(.ok (), pass.value.2), pass.reader, pass.events ++ more⟩ := by
  obtain ⟨report, read⟩ := readAll_succeeds session reader
  rcases held : readAll.hold session reader with ⟨⟨result, last⟩, after, events⟩
  rw [held] at read
  obtain rfl : result = .ok report := read
  unfold readTag
  rw [Action.hold_bind_ok held]
  dsimp only
  split
  · exact ⟨[], rfl, rfl⟩
  · exact ⟨[.notice .readPartial], rfl, rfl⟩

/-! ## §6. After the tag is read. -/

/-- A run ended with this fault, with this disk and after these exchanges. -/
structure EndedBy (fault : StreamFault) (disk : φ) (exchanges : List Exchange)
    (outcome : Outcome σ (Except Error Ending × Desk φ)) : Prop where
  error : outcome.value.1 = .error (.stream fault)
  disk : outcome.value.2.disk = disk
  exchanges : outcome.exchanges = exchanges

/-- What is on the disk of a run that has printed its line: the dump, if one is
asked for.  It stays, whatever comes after it; if it cannot be saved, the run
ends. -/
def DumpSaved [FileSystem φ] (arguments : Arguments) (image : Image) (disk : φ)
    (before : List Exchange) (outcome : Outcome σ (Except Error Ending × Desk φ)) : Prop :=
  match arguments.dump with
  | none => outcome.value.2.disk = disk
  | some path =>
      match FileSystem.write disk path image.active with
      | (.ok (), written) => outcome.value.2.disk = written ∧
          (FileSystem.ReadsBack disk path → FileSystem.read written path = .ok image.active)
      | (.error fault, left) => EndedBy fault left before outcome

/-- What a run that has read this image prints and saves, given the output, the
disk and the exchanges so far. -/
structure Printed [FileSystem φ] (arguments : Arguments) (range : ByteRange) (image : Image)
    (output : Output) (disk : φ) (before : List Exchange)
    (outcome : Outcome σ (Except Error Ending × Desk φ)) : Prop where
  /-- Nothing else is asked until then. -/
  exchanges : before <+: outcome.exchanges
  /-- The line is printed, as far as there is room for it. -/
  written : outcome.value.2.output.written = output.written ++ cut output.room (line image range)
  /-- If there is no room for all of it, the run ends there. -/
  full : ¬ Fits output.room (line image range) → EndedBy output.refusal disk before outcome
  /-- So it does if the line cannot be flushed. -/
  unflushed : Fits output.room (line image range) →
    ∀ fault ∈ output.unflushed, EndedBy fault disk before outcome
  /-- Otherwise the dump is saved. -/
  saved : Fits output.room (line image range) → output.unflushed = none →
    DumpSaved arguments image disk before outcome

section

omit [Reader σ]

variable {disk : φ} {before : List Exchange} {outcome : Outcome σ (Except Error Ending × Desk φ)}

/-- What came before a run that ended was asked before. -/
theorem EndedBy.precededBy {fault : StreamFault} (h : EndedBy fault disk before outcome)
    (events : List Event) :
    EndedBy fault disk (Event.exchanges events ++ before) (outcome.precededBy events) where
  error := h.error
  disk := h.disk
  exchanges := by rw [Outcome.exchanges_precededBy, h.exchanges]

variable [FileSystem φ] {image : Image}

theorem DumpSaved.precededBy (h : DumpSaved arguments image disk before outcome)
    (events : List Event) :
    DumpSaved arguments image disk (Event.exchanges events ++ before)
      (outcome.precededBy events) := by
  revert h
  unfold DumpSaved
  rcases arguments.dump with _ | path
  · exact id
  · dsimp only
    rcases FileSystem.write disk path image.active with ⟨fault | ⟨⟩, written⟩
    · exact fun ended => ended.precededBy events
    · exact id

theorem Printed.precededBy {output : Output}
    (printed : Printed arguments range image output disk before outcome) (events : List Event) :
    Printed arguments range image output disk (Event.exchanges events ++ before)
      (outcome.precededBy events) where
  exchanges := by
    rw [Outcome.exchanges_precededBy]
    exact (List.prefix_append_right_inj _).mpr printed.exchanges
  written := printed.written
  full overflows := (printed.full overflows).precededBy events
  unflushed fits fault fails := (printed.unflushed fits fault fails).precededBy events
  saved fits flushed := (printed.saved fits flushed).precededBy events

end

section

variable [FileSystem φ]

/-- Saving comes first, and what follows touches neither the output nor the
disk. -/
theorem hold_afterPrint (arguments : Arguments) (desk : Desk φ) (reader : σ) :
    let outcome := (afterPrint arguments).hold desk reader
    outcome.value.2.output = desk.output ∧
      DumpSaved arguments desk.session.image desk.disk [] outcome := by
  -- a dump that was saved is not saved again
  have rest : HasEffect Untouched (do
      restoring arguments
      Talk.report .runDone
      pure .finished : Action (Desk φ) Ending) :=
    composes_untouched.bind (untouched_restoring arguments) fun _ =>
      composes_untouched.bind (composes_untouched.silent (Talk.asks_report _)) fun _ =>
        composes_untouched.pure _
  unfold afterPrint DumpSaved
  rcases given : arguments.dump with _ | path
  · rw [saving_of_none given, pure_bind]
    exact rest σ desk reader
  · rw [saving_of_some given]
    have saved := hold_saveDump path desk reader
    dsimp only
    rcases writing : FileSystem.write desk.disk path desk.session.image.active
      with ⟨fault | ⟨⟩, disk⟩ <;> rw [writing] at saved
    · rw [Action.hold_bind_error saved]
      exact ⟨rfl, rfl, rfl, rfl⟩
    · rw [Action.hold_bind_ok saved]
      obtain ⟨output, kept⟩ := rest σ { desk with disk := disk } reader
      refine ⟨output, kept, fun readsBack => ?_⟩
      have stored := readsBack desk.session.image.active
      rw [writing] at stored
      exact stored rfl

/-- **The line, and then the dump.** -/
theorem printed_finish (arguments : Arguments) (range : ByteRange) (desk : Desk φ) (reader : σ) :
    Printed arguments range desk.session.image desk.output desk.disk []
      ((finish arguments range).hold desk reader) := by
  have printing := hold_printRange range desk reader
  unfold finish
  -- a line that does not fit or cannot be flushed is an error, and nothing comes after it
  by_cases fits : Fits desk.output.room (line desk.session.image range)
  · rw [Output.write_fits fits] at printing
    rcases flushed : desk.output.unflushed with _ | fault
    · rw [Output.flush_of_none flushed] at printing
      rw [Action.hold_bind_ok printing, Outcome.precededBy_nil]
      obtain ⟨output, saved⟩ := hold_afterPrint arguments { desk with output := _ } reader
      exact
        { exchanges := List.nil_prefix
          written := by rw [output, cut_of_fits fits]
          full := fun overflows => absurd fits overflows
          unflushed := fun _ _ fails => by rw [flushed] at fails; cases fails
          saved := fun _ _ => saved }
    · rw [Output.flush_of_some flushed] at printing
      rw [Action.hold_bind_error printing]
      exact
        { exchanges := List.nil_prefix
          written := by rw [cut_of_fits fits]
          full := fun overflows => absurd fits overflows
          unflushed := fun _ _ fails => by
            rw [flushed] at fails
            cases fails
            exact ⟨rfl, rfl, rfl⟩
          saved := fun _ flushes => by rw [flushed] at flushes; cases flushes }
  · rw [Output.write_overflows fits] at printing
    rw [Action.hold_bind_error printing]
    exact
      { exchanges := List.nil_prefix
        written := rfl
        full := fun _ => ⟨rfl, rfl, rfl⟩
        unflushed := fun whole => absurd whole fits
        saved := fun whole => absurd whole fits }

/-- The same of the read pass and what follows it. -/
theorem printed_readTag (arguments : Arguments) (range : ByteRange) (desk : Desk φ) (reader : σ) :
    let pass := readAll.hold desk.session reader
    Printed arguments range pass.value.2.image desk.output desk.disk pass.exchanges
      ((do
        Desk.inSession readTag
        finish arguments range : Action (Desk φ) Ending).hold desk reader) := by
  intro pass
  obtain ⟨more, quiet, read⟩ := hold_readTag desk.session reader
  have first : (Desk.inSession readTag).hold desk reader =
      ⟨(.ok (), { desk with session := pass.value.2 }), pass.reader, pass.events ++ more⟩ := by
    unfold Desk.inSession
    rw [Action.hold_on, read]
  rw [Action.hold_bind_ok first]
  have printed := (printed_finish arguments range { desk with session := pass.value.2 }
    pass.reader).precededBy (pass.events ++ more)
  rw [Event.exchanges_append, quiet, List.append_nil, List.append_nil] at printed
  exact printed

end

/-! ## §7. The whole run. -/

/-- A run that ended before it read a tag: nothing was printed, saved or
read. -/
structure Stopped (desk : Desk φ) (outcome : Outcome σ (Except Error Ending × Desk φ)) : Prop where
  untouched : Untouched desk outcome.exchanges outcome.value.2
  unread : outcome.exchanges.filterMap Exchange.read? = []

variable [FileSystem φ]

section

variable {result : Except Error Bool} {events : List Event}

/-- The first part of a run decides about the second. -/
theorem hold_run (asked : ByteRange.ofValues arguments.range = .ok range)
    (approached : (approach arguments attempts).hold desk reader =
      ⟨(result, changed), after, events⟩) :
    ∃ requested, Event.exchanges requested = [] ∧
      (run arguments attempts).hold desk reader =
        match result with
        | .error error => ⟨(.error error, changed), after, requested ++ events⟩
        | .ok false => ⟨(.ok .stillWaiting, changed), after, requested ++ events⟩
        | .ok true => ((do
            Desk.inSession readTag
            finish arguments range : Action (Desk φ) Ending).hold changed after).precededBy
              (requested ++ events) := by
  obtain ⟨requested, quiet, held⟩ := hold_request asked reader
  refine ⟨requested, quiet, ?_⟩
  rw [run_eq_parts, Action.hold_bind_ok (Action.hold_lift_of held desk)]
  rcases result with error | _ | _
  · rw [Action.hold_bind_error approached]
    rfl
  · rw [Action.hold_bind_ok approached, Outcome.precededBy_precededBy]
    dsimp only
    rw [if_neg Bool.false_ne_true, Action.hold_pure]
    simp only [Outcome.precededBy, List.append_nil]
  · rw [Action.hold_bind_ok approached, Outcome.precededBy_precededBy]
    rfl

/-- A run that does not get to read a tag prints and saves nothing. -/
theorem stopped_run (asked : ByteRange.ofValues arguments.range = .ok range)
    (approached : (approach arguments attempts).hold desk reader =
      ⟨(result, changed), after, events⟩) (unreached : result ≠ .ok true) :
    let outcome := (run arguments attempts).hold desk reader
    outcome.value.1 = result.map (fun _ => .stillWaiting) ∧ Stopped desk outcome := by
  obtain ⟨requested, quiet, held⟩ := hold_run asked approached
  obtain ⟨unread, untouched⟩ := approaches_approach arguments attempts σ desk reader
  rw [approached] at unread untouched
  have silent : (Event.exchanges (requested ++ events)).filterMap Exchange.read? = [] := by
    rw [Event.exchanges_append, quiet]
    exact unread
  rw [held]
  rcases result with error | _ | _
  · exact ⟨rfl, untouched, silent⟩
  · exact ⟨rfl, untouched, silent⟩
  · exact absurd rfl unreached

/-- A run that gets to read a tag prints the line, and then saves the dump. -/
theorem printed_run (asked : ByteRange.ofValues arguments.range = .ok range)
    (approached : (approach arguments attempts).hold desk reader =
      ⟨(.ok true, changed), after, events⟩) :
    let pass := readAll.hold changed.session after
    Printed arguments range pass.value.2.image desk.output desk.disk
      (Event.exchanges events ++ pass.exchanges) ((run arguments attempts).hold desk reader) := by
  obtain ⟨requested, quiet, held⟩ := hold_run asked approached
  obtain ⟨-, output, disk⟩ := approaches_approach arguments attempts σ desk reader
  rw [approached] at output disk
  have printed := (printed_readTag arguments range changed after).precededBy (requested ++ events)
  rw [Event.exchanges_append, quiet, List.nil_append, show changed.output = _ from output,
    show changed.disk = _ from disk] at printed
  rw [held]
  exact printed

/-- A run without room for the whole line prints only what fits, and saves
nothing. -/
theorem cut_run {limit : Nat} (asked : ByteRange.ofValues arguments.range = .ok range)
    (reached : ((approach arguments attempts).hold desk reader).value.1 = .ok true)
    (empty : desk.output.written = []) (room : desk.output.room = some limit)
    (small : limit < min range.stop maxDumpSize - range.start + 1) :
    let approached := (approach arguments attempts).hold desk reader
    let pass := readAll.hold approached.value.2.session approached.reader
    let outcome := (run arguments attempts).hold desk reader
    outcome.value.2.output.written ≠ line pass.value.2.image range ∧
      outcome.value.2.disk = desk.disk := by
  intro approached pass outcome
  rcases held : (approach arguments attempts).hold desk reader
    with ⟨⟨result, changed⟩, after, events⟩
  rw [held] at reached
  obtain rfl : result = .ok true := reached
  have printed := printed_run asked held
  have image : pass = readAll.hold changed.session after := by
    show readAll.hold ((approach arguments attempts).hold desk reader).value.2.session
      ((approach arguments attempts).hold desk reader).reader = _
    rw [held]
  rw [image]
  have length : (line (readAll.hold changed.session after).value.2.image range).length =
      min range.stop maxDumpSize - range.start + 1 := by simp [line]
  refine ⟨fun whole => ?_, (printed.full fun fits => ?_).disk⟩
  · have lengths := congrArg List.length (printed.written.symm.trans whole)
    rw [empty, room] at lengths
    simp only [cut, List.nil_append, List.length_take, length] at lengths
    omega
  · have := fits limit room
    omega

end

/-- **What a run outputs.**  Whatever the reader answers, the operator says and
the file system does: a third bound of the byte range ends the run before
anything is asked; a run that does not get to read a tag prints and saves
nothing; and any other prints the line of the image that the read pass left, as
far as there is room for it, flushes it, and then saves that image. -/
theorem run_output (arguments : Arguments) (attempts : Nat) (desk : Desk φ) (reader : σ) :
    let outcome := (run arguments attempts).hold desk reader
    match (arguments.range.filter ByteRange.isBound)[2]? with
    | some extra => outcome = ⟨(.error (.usage (.extraByte extra)), desk), reader, []⟩
    | none => ∃ range, ByteRange.ofValues arguments.range = .ok range ∧
        let approached := (approach arguments attempts).hold desk reader
        match approached.value.1 with
        | .error error => outcome.value.1 = .error error ∧ Stopped desk outcome
        | .ok false => outcome.value.1 = .ok .stillWaiting ∧ Stopped desk outcome
        | .ok true =>
            let known := approached.value.2.session
            let pass := readAll.hold known approached.reader
            Known arguments attempts desk.session reader known approached.reader ∧
              approached.exchanges.filterMap Exchange.read? = [] ∧
              Captured known pass.exchanges pass.value.2.image ∧
              Printed arguments range pass.value.2.image desk.output desk.disk
                (approached.exchanges ++ pass.exchanges) outcome := by
  intro outcome
  split
  · next extra given =>
    have refused : (ByteRange.request arguments.range).hold reader =
        ⟨.error (.usage (.extraByte extra)), reader, []⟩ := by
      unfold ByteRange.request
      rw [ofValues_of_extra given]
      rfl
    exact Action.hold_bind_error (Action.hold_lift_of refused desk) _
  · next given =>
    obtain ⟨range, asked⟩ := ofValues_of_no_extra given
    refine ⟨range, asked, ?_⟩
    have unread := (approaches_approach arguments attempts σ desk reader).1
    rcases approached : (approach arguments attempts).hold desk reader
      with ⟨⟨error | _ | _, changed⟩, after, events⟩ <;> rw [approached] at unread
    · exact stopped_run asked approached nofun
    · exact stopped_run asked approached nofun
    · have known := known_of_approach ⟨events, approached⟩
      exact ⟨known, unread, captured_readAll known.blank after, printed_run asked approached⟩

/-- A tag is read and its dump saved below the working directory, and then the
file that is to be restored is missing: the line and the dump stay. -/
theorem run_output_unrestored :
    let arguments := { Arguments.none with dump := some "dumps/d", restore := some "missing" }
    let disk : Disk := ⟨["work"], [["work", "dumps"]], []⟩
    let desk := Desk.withDisk arguments (.prepared []) disk none
    let outcome := (run arguments 1).hold desk (SimulatedTag.patterned .ultralight 0x33)
    outcome.value.1 = .error (.stream .notFound) ∧ ∃ image exchanges,
      Printed arguments ⟨28, 45⟩ image desk.output disk exchanges outcome := by
  intro arguments disk desk outcome
  have reached : ((approach arguments 1).hold desk (SimulatedTag.patterned .ultralight
    0x33)).value.1 = .ok true := by decide +kernel
  obtain ⟨range, asked, rest⟩ :=
    run_output arguments 1 desk (SimulatedTag.patterned .ultralight 0x33)
  dsimp only at rest
  rw [reached] at rest
  cases asked
  exact ⟨by decide +kernel, _, _, rest.2.2.2⟩

/-- Without room for the whole line there is neither the line nor a dump. -/
theorem run_output_cut :
    let arguments := { Arguments.none with dump := some "d" }
    let desk := Desk.ready arguments (.prepared []) [] (some 16)
    let tag := SimulatedTag.patterned .ntag213 0x33
    let approached := (approach arguments 1).hold desk tag
    let pass := readAll.hold approached.value.2.session approached.reader
    let outcome := (run arguments 1).hold desk tag
    approached.value.1 = .ok true ∧
      outcome.value.2.output.written ≠ line pass.value.2.image ⟨28, 45⟩ ∧
      outcome.value.2.disk = .ofFiles [] :=
  have reached : ((approach { Arguments.none with dump := some "d" } 1).hold
      (Desk.ready { Arguments.none with dump := some "d" } (.prepared []) [] (some 16))
      (SimulatedTag.patterned .ntag213 0x33)).value.1 = .ok true := by decide +kernel
  ⟨reached, cut_run rfl reached rfl rfl (by decide)⟩

end CommandLine

end Ultralight
