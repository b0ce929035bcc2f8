/-
  Ultralight.Proofs.RunWrites
  ───────────────────────────
  **What a run writes to a tag, and what has to go well before.**

  A run only writes to restore a file, and that is the last thing it does.
  Everything before it is free of WRITEs (`Unwritten`), and each step has to
  succeed for the next one to be reached, so a run that writes at all got
  through all of them (`Cleared`).

  `run_writes_restore` adds what is written then: the first three pages as
  they were read, if the UID pages are to be opened, and after that pages of
  the file, each at most once.
-/
import Ultralight.CommandLine.Run
import Ultralight.Proofs.DumpPages
import Ultralight.Proofs.IntactSession
import Ultralight.Proofs.WriteSequence

namespace Ultralight

open Ultralight.Action (HasEffect Composes)

/-! ## §1. Traffic without a WRITE. -/

/-- Nothing is written, whatever becomes of the state. -/
def Unwritten {s : Type} (_ : s) (trace : List Exchange) (_ : s) : Prop :=
  trace.filterMap Exchange.write? = []

theorem composes_unwritten {s : Type} : Composes (Unwritten (s := s)) where
  nothing _ := rfl
  append before after := by
    unfold Unwritten at before after ⊢
    rw [List.filterMap_append, before, after, List.append_nil]

/-- A request other than a WRITE. -/
def Request.Writeless : Request → Prop
  | .write _ _ => False
  | _ => True

theorem writes_of_writeless {σ α : Type} [Reader σ] {talk : Talk α}
    (asks : talk.Asks Request.Writeless) (reader : σ) :
    (talk.hold reader).exchanges.filterMap Exchange.write? = [] := by
  refine List.filterMap_eq_nil_iff.mpr fun made listed => ?_
  have writeless := Dialogue.asks_exchanges asks reader made listed
  rcases made with ⟨request, reply⟩
  cases request with
  | write page data => exact writeless.elim
  | _ => rfl

theorem unwritten_lift {s α : Type} {talk : Talk α} (asks : talk.Asks Request.Writeless) :
    (liftM talk : Action s α).HasEffect Unwritten :=
  Action.hasEffect_lift fun _ _ reader _ => writes_of_writeless asks reader

/-- What comes after the writing, without WRITEs of its own, adds none. -/
theorem writes_bind_of_writeless {σ α β : Type} [Reader σ] {talk : Talk α} {next : α → Talk β}
    (asks : ∀ value, (next value).Asks Request.Writeless) (reader : σ) :
    ((talk >>= next).hold reader).exchanges.filterMap Exchange.write? =
      (talk.hold reader).exchanges.filterMap Exchange.write? := by
  rcases held : talk.hold reader with ⟨error | value, after, events⟩
  · rw [Talk.hold_bind_error held]
    rfl
  · rw [Talk.hold_bind_ok held, Dialogue.Outcome.exchanges_precededBy, List.filterMap_append,
      writes_of_writeless (asks value), List.append_nil]
    rfl

/-- The end of some traffic, before which nothing is written. -/
def EndsIn (trace rest : List Exchange) : Prop :=
  ∃ before, before.filterMap Exchange.write? = [] ∧ trace = before ++ rest

namespace EndsIn

variable {trace rest last : List Exchange}

theorem refl (trace : List Exchange) : EndsIn trace trace := ⟨[], rfl, rfl⟩

theorem trans (first : EndsIn trace rest) (second : EndsIn rest last) : EndsIn trace last := by
  obtain ⟨before, unwritten, rfl⟩ := first
  obtain ⟨between, still, rfl⟩ := second
  exact ⟨before ++ between, by rw [List.filterMap_append, unwritten, still]; rfl,
    (List.append_assoc ..).symm⟩

/-- What is written is written in the end. -/
theorem writes (h : EndsIn trace rest) :
    trace.filterMap Exchange.write? = rest.filterMap Exchange.write? := by
  obtain ⟨before, unwritten, rfl⟩ := h
  rw [List.filterMap_append, unwritten, List.nil_append]

end EndsIn

namespace Action

variable {σ s α β : Type} [Reader σ] {action : Action s α} {next : α → Action s β} {state : s}
  {reader : σ}

/-- **A part without WRITEs has to succeed for anything to be written**, and
then the rest does it. -/
theorem HasEffect.before_writes (silent : action.HasEffect Unwritten)
    (writes : ((action >>= next).hold state reader).exchanges.filterMap Exchange.write? ≠ []) :
    ∃ value changed after, action.Ends state reader (.ok value) changed after ∧
      EndsIn ((action >>= next).hold state reader).exchanges
        ((next value).hold changed after).exchanges := by
  have unwritten := silent σ state reader
  rcases held : action.hold state reader with ⟨⟨error | value, changed⟩, after, events⟩ <;>
    rw [held] at unwritten
  · rw [hold_bind_error held] at writes
    exact absurd unwritten writes
  · refine ⟨value, changed, after, ⟨_, held⟩, _, unwritten, ?_⟩
    rw [hold_bind_ok held, Dialogue.Outcome.exchanges_precededBy]
    rfl

/-- What comes last and asks nothing adds nothing. -/
theorem exchanges_bind_of_silent
    (silent : ∀ value, (next value).HasEffect fun _ trace _ => trace = [])
    (state : s) (reader : σ) :
    ((action >>= next).hold state reader).exchanges = (action.hold state reader).exchanges := by
  rcases held : action.hold state reader with ⟨⟨error | value, changed⟩, after, events⟩
  · rw [hold_bind_error held]
    rfl
  · have nothing := silent value σ changed after
    rw [hold_bind_ok held, Dialogue.Outcome.exchanges_precededBy, nothing, List.append_nil]
    rfl

end Action

namespace CommandLine

open Session

variable {φ : Type}

/-! ## §2. The steps before a restore. -/

section

variable {rel : Session → List Exchange → Session → Prop} (composes : Composes rel)

include composes

/-- A listing that fails is logged, and that is all. -/
theorem hasEffect_tryListing
    (list : ∀ most reply session, rel session [⟨.list most, reply⟩] session) :
    tryListing.HasEffect rel := by
  refine composes.bind (hasEffect_listTargets composes list).attempt fun listed => ?_
  rcases listed with error | targets
  · exact composes.silent (Talk.asks_report _)
  · exact composes.pure _

theorem hasEffect_findTag
    (select : ∀ session reply, rel session [⟨.select session.config.uidFilter, reply⟩]
      (session.tracking [⟨.select session.config.uidFilter, reply⟩]))
    (arguments : Arguments) (attempts : Nat) : (findTag arguments attempts).HasEffect rel := by
  unfold findTag
  split
  · exact composes.bind (hasEffect_waitForTag composes select attempts) fun _ => composes.pure _
  · exact composes.bind (hasEffect_select select).discard fun _ => composes.pure _

/-- A tag is identified by detecting its variant and presenting a password. -/
theorem hasEffect_identify (detected : detectVariant.HasEffect rel)
    (accepted : ∀ password, (authenticate password).HasEffect rel) (arguments : Arguments) :
    (identify arguments).HasEffect rel := by
  refine composes.bind composes.get fun session => ?_
  refine composes.bind (composes.silent (Talk.asks_ofExcept _)) fun _ => ?_
  refine composes.bind (composes.silent (Talk.asks_report _)) fun _ => ?_
  refine composes.bind detected.discard fun _ => ?_
  split
  · exact (accepted _).discard
  · exact composes.pure _

end

/-- What an action does to the session of a desk, seen from the desk. -/
theorem hasEffect_inSession {α : Type} {action : Action Session α}
    {rel : Session → List Exchange → Session → Prop} {whole : Desk φ → List Exchange → Desk φ → Prop}
    (h : action.HasEffect rel)
    (widens : ∀ desk trace session, rel desk.session trace session →
      whole desk trace { desk with session := session }) :
    (Desk.inSession action).HasEffect whole := by
  intro σ _ desk reader
  unfold Desk.inSession
  rw [Action.hold_on]
  exact widens desk _ _ (h σ desk.session reader)

theorem asks_start {allowed : Request → Prop} (init : allowed .init)
    (switch : ∀ property enable, allowed (.setProperty property enable)) : start.Asks allowed :=
  Talk.asks_bind (Talk.asks_ask init) fun _ => Talk.asks_ask (switch _ _)

theorem unwritten_start : (liftM start : Action (Desk φ) Unit).HasEffect Unwritten :=
  unwritten_lift (asks_start trivial fun _ _ => trivial)

theorem unwritten_tryListing : tryListing.HasEffect Unwritten :=
  hasEffect_tryListing composes_unwritten fun _ _ _ => rfl

theorem unwritten_selection {session : Session} (uid : Option Uid)
    (reply : Except Error (Option Target)) :
    Unwritten session [⟨.select uid, reply⟩] (session.tracking [⟨.select uid, reply⟩]) := rfl

theorem unwritten_findTag (arguments : Arguments) (attempts : Nat) :
    (findTag arguments attempts).HasEffect Unwritten :=
  hasEffect_findTag composes_unwritten (fun _ _ => unwritten_selection _ _) arguments attempts

theorem unwritten_identify (arguments : Arguments) :
    (identify arguments).HasEffect Unwritten := by
  refine hasEffect_identify composes_unwritten ?_ (fun password => ?_) arguments
  · exact hasEffect_detectVariant composes_unwritten (fun _ _ => unwritten_selection _ _)
      (unwritten_lift (asks_getVersion (fun _ => trivial) fun _ _ => trivial)) fun _ _ => rfl
  · exact hasEffect_authenticate composes_unwritten
      (unwritten_lift (asks_acknowledgement (fun _ => trivial) (fun _ _ => trivial) password))
      fun _ _ => rfl

theorem unwritten_readTag : readTag.HasEffect Unwritten := by
  have read : readAll.HasEffect Unwritten :=
    hasEffect_readAll composes_unwritten (fun _ _ => unwritten_selection _ _)
      (fun _ _ _ => rfl) (fun _ _ _ _ _ => rfl) fun _ _ _ _ => rfl
  refine composes_unwritten.bind read fun report => ?_
  split
  · exact composes_unwritten.pure _
  · exact composes_unwritten.silent (Talk.asks_report _)

theorem unwritten_inSession {α : Type} {action : Action Session α}
    (h : action.HasEffect Unwritten) :
    (Desk.inSession action : Action (Desk φ) α).HasEffect Unwritten :=
  hasEffect_inSession h fun _ _ _ unwritten => unwritten

theorem hold_print {σ : Type} [Reader σ] (data : Bytes) (desk : Desk φ) (reader : σ) :
    (Desk.print data).hold desk reader =
      ⟨((desk.output.write data).1, { desk with output := (desk.output.write data).2 }), reader,
        []⟩ := by
  unfold Desk.print
  rw [Action.hold_get_bind]
  rfl

theorem hold_flush {σ : Type} [Reader σ] (desk : Desk φ) (reader : σ) :
    Desk.flush.hold desk reader = ⟨(desk.output.flush, desk), reader, []⟩ := by
  unfold Desk.flush
  rw [Action.hold_get_bind]
  rfl

theorem unwritten_print (data : Bytes) :
    (Desk.print data : Action (Desk φ) Unit).HasEffect Unwritten := by
  intro σ _ desk reader
  rw [hold_print]
  rfl

theorem unwritten_flush : (Desk.flush : Action (Desk φ) Unit).HasEffect Unwritten := by
  intro σ _ desk reader
  rw [hold_flush]
  rfl

theorem unwritten_printRange (range : ByteRange) :
    (printRange range : Action (Desk φ) Unit).HasEffect Unwritten :=
  composes_unwritten.bind composes_unwritten.get fun _ =>
    composes_unwritten.bind (unwritten_print _) fun _ =>
      composes_unwritten.bind (unwritten_print _) fun _ => unwritten_flush

/-- The image is written to a file, and if that goes well it is logged. -/
theorem hold_saveDump {σ : Type} [Reader σ] [FileSystem φ] (path : String) (desk : Desk φ)
    (reader : σ) :
    (saveDump path).hold desk reader =
      match FileSystem.write desk.disk path desk.session.image.active with
      | (.ok (), disk) => ⟨(.ok (), { desk with disk := disk }), reader,
          [.notice (.dumpSaved desk.session.image.activeLength path)]⟩
      | (.error fault, disk) =>
          ⟨(.error (.stream fault), { desk with disk := disk }), reader, []⟩ := by
  have saving : (Desk.saveFile path desk.session.image.active).hold desk reader =
      ⟨((FileSystem.write desk.disk path desk.session.image.active).1.mapError .stream,
        { desk with
          disk := (FileSystem.write desk.disk path desk.session.image.active).2 }), reader,
        []⟩ := by
    unfold Desk.saveFile
    rw [Action.hold_get_bind]
    rfl
  unfold saveDump
  rw [Action.hold_get_bind]
  rcases writing : FileSystem.write desk.disk path desk.session.image.active
    with ⟨fault | ⟨⟩, disk⟩ <;> rw [writing] at saving
  · exact Action.hold_bind_error saving _
  · exact Action.hold_bind_ok saving _

theorem unwritten_saveDump [FileSystem φ] (path : String) :
    (saveDump path : Action (Desk φ) Unit).HasEffect Unwritten := by
  intro σ _ desk reader
  rw [hold_saveDump]
  split <;> rfl

/-! ## §3. Steps that succeed. -/

variable {σ : Type} [Reader σ] {arguments : Arguments} {desk changed : Desk φ}
  {reader after : σ}

theorem eq_of_print {data : Bytes} (h : (Desk.print data).Ends desk reader (.ok ()) changed after) :
    ∃ output, changed = { desk with output := output } ∧ after = reader := by
  obtain ⟨_, held⟩ := h
  rw [hold_print, Dialogue.Outcome.mk.injEq, Prod.mk.injEq] at held
  obtain ⟨⟨-, rfl⟩, rfl, -⟩ := held
  exact ⟨_, rfl, rfl⟩

theorem eq_of_printRange {range : ByteRange}
    (h : (printRange range).Ends desk reader (.ok ()) changed after) :
    ∃ output, changed = { desk with output := output } ∧ after = reader := by
  obtain ⟨⟨⟩, _, _, first, rest⟩ := h.of_get_bind.of_bind
  obtain ⟨_, rfl, rfl⟩ := eq_of_print first
  obtain ⟨⟨⟩, _, _, second, flushed⟩ := rest.of_bind
  obtain ⟨output, rfl, rfl⟩ := eq_of_print second
  obtain ⟨-, rfl, rfl⟩ := flushed.of_get_bind.of_ofExcept
  exact ⟨output, rfl, rfl⟩

/-- What fails under another name does not succeed. -/
theorem ok_of_mapError {ε φ α : Type} {f : ε → φ} {result : Except ε α} {value : α}
    (h : .ok value = result.mapError f) : result = .ok value := by
  cases result with
  | error error => cases h
  | ok value => cases h; rfl

theorem eq_of_saveDump [FileSystem φ] {path : String}
    (h : (saveDump path).Ends desk reader (.ok ()) changed after) :
    ∃ disk, FileSystem.write desk.disk path desk.session.image.active = (.ok (), disk) ∧
      changed = { desk with disk := disk } ∧ after = reader := by
  obtain ⟨_, held⟩ := h
  rw [hold_saveDump] at held
  rcases writing : FileSystem.write desk.disk path desk.session.image.active
    with ⟨fault | ⟨⟩, disk⟩ <;> rw [writing] at held <;> cases held
  exact ⟨disk, rfl, rfl, rfl⟩

theorem eq_of_loadFile [FileSystem φ] {path : String} {contents : Bytes}
    (h : (Desk.loadFile path).Ends desk reader (.ok contents) changed after) :
    FileSystem.read desk.disk path = .ok contents ∧ changed = desk ∧ after = reader := by
  obtain ⟨read, rfl, rfl⟩ := h.of_get_bind.of_ofExcept
  exact ⟨ok_of_mapError read, rfl, rfl⟩

theorem eq_of_request {values : List String} {range : ByteRange}
    (h : (ByteRange.request values).Ends reader (.ok range) after) :
    ByteRange.ofValues values = .ok range ∧ after = reader := by
  obtain ⟨events, held⟩ := h
  unfold ByteRange.request at held
  rcases asked : ByteRange.ofValues values with error | range <;> rw [asked] at held
  · cases held
  · rw [Talk.hold_bind_ok (Talk.hold_ofExcept _ reader)] at held
    split at held <;> cases held <;> exact ⟨rfl, rfl⟩

theorem eq_of_imageOfDump {variant : Variant} {dump : Bytes} {image : Image}
    (h : (imageOfDump variant dump).Ends reader (.ok image) after) :
    Image.ofDump variant dump = .ok image ∧ after = reader := by
  obtain ⟨events, held⟩ := h
  unfold imageOfDump at held
  rcases made : Image.ofDump variant dump with error | filled <;> rw [made] at held
  · cases held
  · rw [Talk.hold_bind_ok (Talk.hold_ofExcept _ reader)] at held
    split at held <;> cases held <;> exact ⟨rfl, rfl⟩

theorem eq_of_resolvePolicy {policy : WritePolicy}
    (h : (Desk.resolvePolicy arguments).Ends desk reader (.ok policy) changed after) :
    ∃ prompter, desk.prompter.resolve arguments desk.session.variant = (.ok policy, prompter) ∧
      changed = { desk with prompter := prompter } ∧ after = reader := by
  obtain ⟨⟨⟩, _, _, ⟨_, asked⟩, rest⟩ := h.of_get_bind.of_bind
  cases asked
  obtain ⟨resolved, rfl, rfl⟩ := rest.of_ofExcept
  exact ⟨_, Prod.ext resolved.symm rfl, rfl, rfl⟩

theorem eq_of_loadImage {image : Image} {session last : Session}
    (h : (loadImage image).Ends session reader (.ok ()) last after) :
    last = { session with image := image } ∧ after = reader := by
  obtain ⟨events, held⟩ := h
  rw [hold_loadImage] at held
  split at held <;> cases held
  exact ⟨rfl, rfl⟩

theorem eq_of_inSession {α : Type} {action : Action Session α} {value : α}
    (h : (Desk.inSession action).Ends desk reader (.ok value) changed after) :
    ∃ session, action.Ends desk.session reader (.ok value) session after ∧
      changed = { desk with session := session } := h.of_on

/-- A variant that was detected is adopted; the target may have been selected
again. -/
theorem adopted_of_detectVariant {session last : Session} {variant : Variant}
    (h : detectVariant.Ends session reader (.ok variant) last after) :
    ∃ target, last = adopt variant { session with target := target } := by
  obtain ⟨events, held⟩ := h
  rcases asked : getVersion.hold reader with ⟨error | _ | answer, between, first⟩
  · rw [hold_detectVariant_failed asked] at held
    cases held
  · rcases selected : Reader.answer (.select session.wantedUid) between with ⟨reply, final⟩
    rcases hold_detectVariant_unanswered asked selected with
      ⟨target, more, -, -, whole⟩ | ⟨-, error, whole⟩ <;> rw [whole] at held <;> cases held
    exact ⟨some target, rfl⟩
  · obtain ⟨notices, -, whole⟩ := hold_detectVariant_answered asked session
    rw [whole] at held
    rcases classified : Variant.classify (some answer) with error | kind <;>
      rw [classified] at held <;> cases held
    exact ⟨session.target, rfl⟩

/-- The variant of the session is the one that was detected. -/
theorem variant_of_detectVariant {session last : Session} {variant : Variant}
    (h : detectVariant.Ends session reader (.ok variant) last after) : last.variant = variant := by
  obtain ⟨target, rfl⟩ := adopted_of_detectVariant h
  rfl

/-- Reading leaves the variant alone. -/
def KeepsVariant (session : Session) (_ : List Exchange) (after : Session) : Prop :=
  after.variant = session.variant

theorem composes_keepsVariant : Composes KeepsVariant where
  nothing _ := rfl
  append before after := after.trans before

theorem variant_of_readTag {session last : Session}
    (h : readTag.Ends session reader (.ok ()) last after) : last.variant = session.variant := by
  have read : readAll.HasEffect KeepsVariant :=
    hasEffect_readAll composes_keepsVariant (fun _ _ => rfl) (fun _ _ _ => rfl)
      (fun _ _ _ _ _ => rfl) fun _ _ _ _ => rfl
  have whole : readTag.HasEffect KeepsVariant := by
    refine composes_keepsVariant.bind read fun report => ?_
    split
    · exact composes_keepsVariant.pure _
    · exact composes_keepsVariant.silent (Talk.asks_report _)
  obtain ⟨events, held⟩ := h
  have kept := whole σ session reader
  rwa [held] at kept

/-! ## §4. The way to a restore. -/

/-- A run got hold of a tag: the reader was opened, whatever is in the field
was listed, and a tag was selected, by waiting for it or at once. -/
def GotTag (arguments : Arguments) (attempts : Nat) (session : Session) (reader : σ)
    (selected : Session) (after : σ) : Prop :=
  ∃ opened listed held, start.Ends reader (.ok ()) opened ∧
    tryListing.Ends session opened (.ok ()) held listed ∧
    if arguments.wait then
      ∃ target, (waitForTag attempts).Ends held listed (.ok (some target)) selected after
    else ∃ target, select.Ends held listed (.ok target) selected after

/-- A tag is one of the Ultralight family, its variant was detected, and the
password was accepted if there is one. -/
def Identified (arguments : Arguments) (session : Session) (reader : σ) (variant : Variant)
    (known : Session) (after : σ) : Prop :=
  (∃ target, session.checkUltralight = .ok target) ∧
    ∃ detected between, detectVariant.Ends session reader (.ok variant) detected between ∧
      match arguments.password with
      | none => known = detected ∧ after = between
      | some password =>
          ∃ pack, (authenticate password).Ends detected between (.ok pack) known after

/-- The dump was saved if it was asked for. -/
def Saved [FileSystem φ] (arguments : Arguments) (image : Image) (disk after : φ) : Prop :=
  match arguments.dump with
  | none => after = disk
  | some path => FileSystem.write disk path image.active = (.ok (), after)

theorem gotTag_of_ends {attempts : Nat} {session held selected : Session} {opened listed : σ}
    (started : start.Ends reader (.ok ()) opened)
    (shown : tryListing.Ends session opened (.ok ()) held listed)
    (found : (findTag arguments attempts).Ends held listed (.ok true) selected after) :
    GotTag arguments attempts session reader selected after := by
  refine ⟨opened, listed, held, started, shown, ?_⟩
  unfold findTag at found
  split at found
  · next waits =>
    rw [if_pos waits]
    obtain ⟨result, _, _, waited, ⟨_, ended⟩⟩ := found.of_bind
    rcases result with _ | target <;> cases ended
    exact ⟨target, waited⟩
  · next once =>
    rw [if_neg once]
    obtain ⟨_, _, _, selected, ⟨_, ended⟩⟩ := found.of_bind
    cases ended
    exact selected.of_discard

theorem identified_of_ends {session known : Session}
    (h : (identify arguments).Ends session reader (.ok ()) known after) :
    ∃ variant, Identified arguments session reader variant known after ∧
      known.variant = variant := by
  obtain ⟨target, _, _, looked, rest⟩ := h.of_get_bind.of_bind
  obtain ⟨checked, rfl, rfl⟩ := looked.of_ofExcept
  obtain ⟨_, _, _, ⟨_, reported⟩, rest⟩ := rest.of_bind
  cases reported
  obtain ⟨_, kind, between, told, rest⟩ := rest.of_bind
  obtain ⟨variant, detected⟩ := told.of_discard
  have adopted := variant_of_detectVariant detected
  rcases given : arguments.password with _ | password <;> rw [given] at rest
  · obtain ⟨_, ended⟩ := rest
    cases ended
    refine ⟨variant, ⟨⟨target, checked.symm⟩, _, _, detected, ?_⟩, adopted⟩
    rw [given]
    exact ⟨rfl, rfl⟩
  · obtain ⟨pack, events, accepted⟩ := rest.of_discard
    refine ⟨variant, ⟨⟨target, checked.symm⟩, _, _, detected, ?_⟩, ?_⟩
    · rw [given]
      exact ⟨pack, events, accepted⟩
    · have granted := (authenticate_ok (congrArg (fun outcome => outcome.value.1) accepted)).1
      rw [accepted] at granted
      exact (congrArg Session.variant granted).trans adopted

/-! ## §5. What has to be done before anything is written. -/

theorem asks_request (values : List String) : (ByteRange.request values).Asks fun _ => False := by
  refine Talk.asks_bind (Talk.asks_ofExcept _) fun range => ?_
  dsimp only
  split
  · exact Talk.asks_bind (Talk.asks_report _) fun _ => Talk.asks_pure _
  · exact Talk.asks_pure _

theorem hasEffect_imageOfDump {rel : Desk φ → List Exchange → Desk φ → Prop}
    (composes : Composes rel) (variant : Variant) (dump : Bytes) :
    (liftM (imageOfDump variant dump) : Action (Desk φ) Image).HasEffect rel := by
  refine composes.silent (Talk.asks_bind (Talk.asks_ofExcept _) fun image => ?_)
  dsimp only
  split
  · exact Talk.asks_bind (Talk.asks_report _) fun _ => Talk.asks_pure _
  · exact Talk.asks_pure _

/-- The answers to the questions are taken from the operator. -/
theorem hasEffect_resolvePolicy {rel : Desk φ → List Exchange → Desk φ → Prop}
    (asked : ∀ desk prompter, rel desk [] { desk with prompter := prompter })
    (arguments : Arguments) : (Desk.resolvePolicy arguments).HasEffect rel := by
  intro σ _ desk reader
  unfold Desk.resolvePolicy
  rw [Action.hold_get_bind]
  exact asked desk _

variable [FileSystem φ]

theorem hasEffect_loadFile {rel : Desk φ → List Exchange → Desk φ → Prop}
    (composes : Composes rel) (path : String) : (Desk.loadFile path).HasEffect rel :=
  composes.bind composes.get fun _ => composes.silent (Talk.asks_ofExcept _)

/-- A run that writes anything got hold of a tag. -/
theorem run_gotTag {attempts : Nat}
    (writes : ((run arguments attempts).hold desk reader).exchanges.filterMap Exchange.write? ≠
      []) :
    ∃ range selected found, ByteRange.ofValues arguments.range = .ok range ∧
      GotTag arguments attempts desk.session reader selected found ∧
      EndsIn ((run arguments attempts).hold desk reader).exchanges
        ((handleTag arguments range).hold { desk with session := selected } found).exchanges := by
  unfold run at writes ⊢
  obtain ⟨range, _, _, parsed, fromStart⟩ :=
    (composes_unwritten.silent (asks_request arguments.range)).before_writes writes
  obtain ⟨requested, rfl⟩ := parsed.of_lift
  obtain ⟨bounds, rfl⟩ := eq_of_request requested
  rw [fromStart.writes] at writes
  obtain ⟨_, _, opened, opening, fromListing⟩ := unwritten_start.before_writes writes
  obtain ⟨started, rfl⟩ := opening.of_lift
  rw [fromListing.writes] at writes
  obtain ⟨_, _, listed, listing, fromFinding⟩ :=
    (unwritten_inSession unwritten_tryListing).before_writes writes
  obtain ⟨held, shown, rfl⟩ := eq_of_inSession listing
  rw [fromFinding.writes] at writes
  obtain ⟨there, _, after, finding, fromTag⟩ :=
    (unwritten_inSession (unwritten_findTag arguments attempts)).before_writes writes
  obtain ⟨selected, found, rfl⟩ := eq_of_inSession finding
  rw [fromTag.writes] at writes
  cases there with
  | false => exact absurd rfl writes
  | true =>
      refine ⟨range, selected, after, bounds, gotTag_of_ends started shown found, ?_⟩
      refine (fromStart.trans (fromListing.trans (fromFinding.trans fromTag))).trans ?_
      rw [if_pos rfl, Action.exchanges_bind_of_silent fun _ _ _ _ _ => rfl]
      exact .refl _

/-- Save a dump if that is asked for. -/
def saving (arguments : Arguments) : Action (Desk φ) Unit :=
  match arguments.dump with
  | some path => saveDump path
  | none => pure ()

/-- Restore a file if that is asked for. -/
def restoring (arguments : Arguments) : Action (Desk φ) Unit :=
  match arguments.restore with
  | some path => restoreDump arguments path
  | none => pure ()

section

variable {path : String}

theorem saving_of_none (h : arguments.dump = none) :
    (saving arguments : Action (Desk φ) Unit) = pure () := by
  unfold saving
  rw [h]

theorem saving_of_some (h : arguments.dump = some path) :
    (saving arguments : Action (Desk φ) Unit) = saveDump path := by
  unfold saving
  rw [h]

theorem restoring_of_none (h : arguments.restore = none) :
    (restoring arguments : Action (Desk φ) Unit) = pure () := by
  unfold restoring
  rw [h]

theorem restoring_of_some (h : arguments.restore = some path) :
    (restoring arguments : Action (Desk φ) Unit) = restoreDump arguments path := by
  unfold restoring
  rw [h]

end

theorem handleTag_eq_steps (arguments : Arguments) (range : ByteRange) :
    handleTag arguments range = (do
      Desk.inSession (identify arguments)
      Desk.inSession readTag
      printRange range
      saving arguments
      restoring arguments
      Talk.report .runDone : Action (Desk φ) Unit) := by
  unfold handleTag saving restoring
  cases arguments.dump <;> cases arguments.restore <;> rfl

theorem unwritten_saving (arguments : Arguments) :
    (saving arguments : Action (Desk φ) Unit).HasEffect Unwritten := by
  unfold saving
  split
  · exact unwritten_saveDump _
  · exact composes_unwritten.pure _

theorem eq_of_saving (h : (saving arguments).Ends desk reader (.ok ()) changed after) :
    ∃ disk, Saved arguments desk.session.image desk.disk disk ∧
      changed = { desk with disk := disk } ∧ after = reader := by
  unfold saving at h
  unfold Saved
  rcases given : arguments.dump with _ | path <;> rw [given] at h
  · obtain ⟨_, ended⟩ := h
    cases ended
    exact ⟨_, rfl, rfl, rfl⟩
  · exact eq_of_saveDump h

/-- A tag that is written to was identified and read, and a file is to be
restored to it. -/
theorem handleTag_restores {range : ByteRange}
    (writes : ((handleTag arguments range).hold desk reader).exchanges.filterMap Exchange.write? ≠
      []) :
    ∃ path variant known identified read last disk output,
      arguments.restore = some path ∧
      Identified arguments desk.session reader variant known identified ∧
      readTag.Ends known identified (.ok ()) read last ∧ read.variant = variant ∧
      Saved arguments read.image desk.disk disk ∧
      EndsIn ((handleTag arguments range).hold desk reader).exchanges
        ((restoreDump arguments path).hold
          { desk with session := read, disk := disk, output := output } last).exchanges := by
  rw [handleTag_eq_steps] at writes ⊢
  obtain ⟨_, _, identified, identifying, fromReading⟩ :=
    (unwritten_inSession (unwritten_identify arguments)).before_writes writes
  obtain ⟨known, ended, rfl⟩ := eq_of_inSession identifying
  obtain ⟨variant, whole, kind⟩ := identified_of_ends ended
  rw [fromReading.writes] at writes
  obtain ⟨_, _, last, reading, fromPrinting⟩ :=
    (unwritten_inSession unwritten_readTag).before_writes writes
  obtain ⟨read, taken, rfl⟩ := eq_of_inSession reading
  rw [fromPrinting.writes] at writes
  obtain ⟨_, _, _, printing, fromSaving⟩ := (unwritten_printRange range).before_writes writes
  obtain ⟨output, rfl, rfl⟩ := eq_of_printRange printing
  rw [fromSaving.writes] at writes
  obtain ⟨_, _, _, saved, fromRestoring⟩ := (unwritten_saving arguments).before_writes writes
  obtain ⟨disk, kept, rfl, rfl⟩ := eq_of_saving saved
  have tail := fromReading.trans (fromPrinting.trans (fromSaving.trans fromRestoring))
  have last : ∀ (desk : Desk φ) (reader : σ), ((do
      restoring arguments
      Talk.report .runDone : Action (Desk φ) Unit).hold desk reader).exchanges =
        ((restoring arguments).hold desk reader).exchanges :=
    Action.exchanges_bind_of_silent fun _ _ _ _ _ => rfl
  rw [fromRestoring.writes, last] at writes
  rw [last] at tail
  rcases given : arguments.restore with _ | path
  · rw [restoring_of_none given] at writes
    exact absurd rfl writes
  · rw [restoring_of_some given] at tail ⊢
    exact ⟨path, variant, known, identified, read, _, disk, output, rfl, whole, taken,
      (variant_of_readTag taken).trans kind, kept, tail⟩

/-- A restore that writes anything read a file that fits the tag, and every
question was answered; the write pass is the end of it. -/
theorem restoreDump_writes {path : String}
    (writes : ((restoreDump arguments path).hold desk reader).exchanges.filterMap
      Exchange.write? ≠ []) :
    ∃ dump image policy prompter, FileSystem.read desk.disk path = .ok dump ∧
      Image.ofDump desk.session.variant dump = .ok image ∧
      desk.prompter.resolve arguments desk.session.variant = (.ok policy, prompter) ∧
      EndsIn ((restoreDump arguments path).hold desk reader).exchanges
        ((writeAll policy).hold { desk.session with image := image } reader).exchanges := by
  have loading := hasEffect_loadFile (composes_unwritten (s := Desk φ)) path
  have filling := fun variant dump =>
    hasEffect_imageOfDump (composes_unwritten (s := Desk φ)) variant dump
  have taking (image : Image) :
      (Desk.inSession (loadImage image) : Action (Desk φ) Unit).HasEffect Unwritten := by
    refine unwritten_inSession fun σ _ session reader => ?_
    rw [hold_loadImage]
    split <;> rfl
  have asking : (Desk.resolvePolicy arguments : Action (Desk φ) WritePolicy).HasEffect Unwritten :=
    hasEffect_resolvePolicy (fun _ _ => rfl) arguments
  unfold restoreDump at writes ⊢
  obtain ⟨dump, _, _, loaded, fromFilling⟩ := loading.before_writes writes
  obtain ⟨read, rfl, rfl⟩ := eq_of_loadFile loaded
  rw [fromFilling.writes, Action.hold_get_bind] at writes
  rw [Action.hold_get_bind] at fromFilling
  obtain ⟨image, _, _, filled, fromTaking⟩ := (filling _ dump).before_writes writes
  obtain ⟨converted, rfl⟩ := filled.of_lift
  obtain ⟨made, rfl⟩ := eq_of_imageOfDump converted
  rw [fromTaking.writes] at writes
  obtain ⟨_, _, _, taken, fromAsking⟩ := (taking image).before_writes writes
  obtain ⟨_, replaced, rfl⟩ := eq_of_inSession taken
  obtain ⟨rfl, rfl⟩ := eq_of_loadImage replaced
  rw [fromAsking.writes] at writes
  obtain ⟨policy, _, _, answered, fromWriting⟩ := asking.before_writes writes
  obtain ⟨prompter, resolved, rfl, rfl⟩ := eq_of_resolvePolicy answered
  refine ⟨dump, image, policy, prompter, read, made, resolved, ?_⟩
  have tail := fromFilling.trans (fromTaking.trans (fromAsking.trans fromWriting))
  rw [Action.hold_discard] at tail
  unfold Desk.inSession at tail
  rw [Action.hold_on] at tail
  exact tail

/-! ## §6. What is written. -/

/-- WRITEs that give the first three pages of a tag what a READ of them just
showed, as far as they are accepted. -/
def WritesBack (reader : σ) (writes : List (UInt8 × Block)) : Prop :=
  writes = [] ∨ ∃ block, (Reader.answer (.read 0) reader).1 = .ok block ∧
    writes <+: [(0, block.p0.padded), (1, block.p1.padded), (2, block.p2.padded)]

theorem writes_writeBack (pages : List Page) : ∀ (number : Nat) (reader : σ),
    ((writeBack number pages).hold reader).exchanges.filterMap Exchange.write? <+:
      (pages.zipIdx number).map fun (page, n) => (UInt8.ofNat n, page.padded) := by
  induction pages with
  | nil => intro number reader; exact List.prefix_refl _
  | cons page rest ih =>
      intro number reader
      rw [List.zipIdx_cons, List.map_cons]
      unfold writeBack
      rcases answered : Reader.answer (.write (UInt8.ofNat number) page.padded) reader
        with ⟨error | ⟨⟩, after⟩
      · rw [Talk.hold_bind_ok (Talk.hold_attempt_of (Talk.hold_ask_of answered))]
        exact (List.prefix_cons_inj _).mpr (List.nil_prefix)
      · rw [Talk.hold_bind_ok (Talk.hold_attempt_of (Talk.hold_ask_of answered)),
          Dialogue.Outcome.exchanges_precededBy]
        exact (List.prefix_cons_inj _).mpr (ih (number + 1) after)

theorem writes_probeDirectWrite (reader : σ) :
    WritesBack reader (((probeDirectWrite).hold reader).exchanges.filterMap Exchange.write?) := by
  unfold probeDirectWrite
  rcases answered : Reader.answer (.read 0) reader with ⟨error | block, after⟩
  · rw [Talk.hold_bind_ok (Talk.hold_report _ reader),
      Talk.hold_bind_ok (Talk.hold_attempt_of (Talk.hold_ask_of answered))]
    exact .inl rfl
  · rw [Talk.hold_bind_ok (Talk.hold_report _ reader),
      Talk.hold_bind_ok (Talk.hold_attempt_of (Talk.hold_ask_of answered)),
      Talk.hold_bind_ok (Talk.hold_report _ after), Talk.hold_bind_ok (Talk.hold_report _ after)]
    refine .inr ⟨block, by rw [answered], ?_⟩
    exact writes_writeBack [block.p0, block.p1, block.p2] 0 after

/-- Opening the UID pages writes to no other page, and only if the policy lets
them be written. -/
theorem writes_openUidPages (policy : WritePolicy) (reader : σ) :
    (policy.uid = false →
      ((openUidPages policy).hold reader).exchanges.filterMap Exchange.write? = []) ∧
    WritesBack reader
      (((openUidPages policy).hold reader).exchanges.filterMap Exchange.write?) := by
  unfold openUidPages
  split
  · next opened =>
    refine ⟨fun closed => absurd opened (by rw [closed]; decide), ?_⟩
    have probed : ((ensureWritable.hold reader).exchanges.filterMap Exchange.write?) =
        (probeDirectWrite.hold reader).exchanges.filterMap Exchange.write? := by
      refine writes_bind_of_writeless (fun direct => ?_) reader
      cases direct with
      | true => exact Talk.asks_bind (Talk.asks_report _) fun _ => Talk.asks_pure true
      | false =>
          exact Talk.asks_bind (Talk.asks_report _) fun _ =>
            asks_unlockBackdoor (fun _ _ => trivial) (fun _ => trivial) fun _ _ => trivial
    rw [writes_bind_of_writeless (fun writable => ?_), probed]
    · exact writes_probeDirectWrite reader
    · cases writable with
      | true => exact Talk.asks_pure ()
      | false => exact Talk.asks_bind (Talk.asks_report _) fun _ => Talk.asks_throw _
  · exact ⟨fun _ => rfl, .inl rfl⟩

/-- WRITEs of pages of a file: to pages that the tag has and the policy opens,
each carrying the page of the file, and none twice. -/
structure WritesFile (policy : WritePolicy) (variant : Variant) (dump : Bytes)
    (writes : List (UInt8 × Block)) : Prop where
  within : ∀ page data, (page, data) ∈ writes → page.toNat < variant.pages
  opened : ∀ page data, (page, data) ∈ writes → policy.skips variant page.toNat = false
  carries : ∀ page data, (page, data) ∈ writes → data = (dump.pageAt page.toNat).padded
  once : (writes.map Prod.fst).Nodup

/-- The plan of a pass over the image of a file. -/
theorem writesFile_of_prefix {policy : WritePolicy} {session : Session} {dump : Bytes}
    {writes : List (UInt8 × Block)}
    (own : session.image = (Image.blank session.variant).overlay 0 dump)
    (h : writes <+: (planned policy session.variant
      (List.range' 0 session.variant.pages)).map session.writeOf) :
    WritesFile policy session.variant dump writes := by
  have plan : ∀ page data, (page, data) ∈ writes → page.toNat < session.variant.pages ∧
      policy.skips session.variant page.toNat = false ∧
      data = (dump.pageAt page.toNat).padded := by
    intro page data listed
    obtain ⟨p, planned, written⟩ := List.mem_map.mp (h.subset listed)
    obtain ⟨ranged, opened⟩ := List.mem_filter.mp planned
    have bound : p < session.variant.pages := by
      have := List.mem_range'_1.mp ranged
      omega
    obtain ⟨rfl, rfl⟩ := Prod.mk.inj written
    rw [Variant.toNat_ofNat_page bound, own, Image.pageAt_ofDump dump bound]
    exact ⟨bound, by simpa using opened, rfl⟩
  refine ⟨fun page data listed => (plan page data listed).1,
    fun page data listed => (plan page data listed).2.1,
    fun page data listed => (plan page data listed).2.2, ?_⟩
  have pages : (writes.map Prod.fst) <+: (planned policy session.variant
      (List.range' 0 session.variant.pages)).map UInt8.ofNat := by
    have mapped := h.map Prod.fst
    rwa [List.map_map] at mapped
  -- the tag has so few pages that no two of them have the same byte for a number
  have apart : ((planned policy session.variant
      (List.range' 0 session.variant.pages)).map UInt8.ofNat).Nodup := by
    refine List.pairwise_map.mpr (List.Pairwise.imp_of_mem ?_
      (List.Pairwise.filter _ List.nodup_range'))
    intro p q first second differ same
    have bound : ∀ n ∈ planned policy session.variant (List.range' 0 session.variant.pages),
        n < session.variant.pages := by
      intro n listed
      have := List.mem_range'_1.mp (List.mem_filter.mp listed).1
      omega
    have equal := congrArg UInt8.toNat same
    rw [Variant.toNat_ofNat_page (bound p first), Variant.toNat_ofNat_page (bound q second)]
      at equal
    exact differ equal
  exact apart.sublist pages.sublist

/-- Writing everything opens the UID pages, and then writes pages of the
image. -/
theorem writes_writeAll (policy : WritePolicy) (session : Session) (dump : Bytes)
    (own : session.image = (Image.blank session.variant).overlay 0 dump) (reader : σ) :
    ∃ pass, ((writeAll policy).hold session reader).exchanges.filterMap Exchange.write? =
        ((openUidPages policy).hold reader).exchanges.filterMap Exchange.write? ++ pass ∧
      WritesFile policy session.variant dump pass := by
  have fits : session.image.pages = session.variant.pages := by rw [own]; rfl
  have nothing : WritesFile policy session.variant dump [] :=
    writesFile_of_prefix own List.nil_prefix
  unfold writeAll
  rcases opened : (openUidPages policy).hold reader with ⟨error | ⟨⟩, after, events⟩
  · rw [Action.hold_bind_error (Action.hold_lift_of opened session)]
    exact ⟨[], (List.append_nil _).symm, nothing⟩
  · rw [Action.hold_bind_ok (Action.hold_lift_of opened session), Action.hold_get_bind,
      Dialogue.Outcome.exchanges_precededBy, List.filterMap_append]
    have sequenced := (writePages_sequence policy 0 session.variant.pages session after fits).2
      (Nat.le_refl _)
    exact ⟨_, rfl, writesFile_of_prefix own sequenced.writes⟩

/-! ## §7. Runs that write. -/

/-- Everything that a run does before it writes went well.  The last two are
the session and the reader that all of it left behind. -/
structure Cleared (arguments : Arguments) (attempts : Nat) (desk : Desk φ) (reader : σ)
    (path : String) (dump : Bytes) (variant : Variant) (policy : WritePolicy) (session : Session)
    (after : σ) : Prop where
  /-- A file is to be restored. -/
  restore : arguments.restore = some path
  /-- The bounds of the byte range are no more than two. -/
  range : ∃ range, ByteRange.ofValues arguments.range = .ok range
  /-- A tag was found and identified, and then it was read. -/
  reached : ∃ selected found known identified,
    GotTag arguments attempts desk.session reader selected found ∧
    Identified arguments selected found variant known identified ∧
    readTag.Ends known identified (.ok ()) session after
  /-- The file could be read, after a dump was saved if that is asked for. -/
  readable : ∃ disk, Saved arguments session.image desk.disk disk ∧
    FileSystem.read disk path = .ok dump
  /-- It is no longer than the tag. -/
  fits : dump.length ≤ variant.pages * pageSize
  /-- The policy is settled: whatever the arguments leave open was asked and
  answered. -/
  answered : ∃ prompter, desk.prompter.resolve arguments variant = (.ok policy, prompter)

/-- **A run writes what a restore asks for, once all is clear.**  If it writes
at all, everything that comes before went well, and nothing was written on the
way.  What it writes is what opening the UID pages takes, which is nothing
unless the policy opens them, and then pages of the file. -/
theorem run_writes_restore (arguments : Arguments) (attempts : Nat) (desk : Desk φ) (reader : σ)
    (writes : ((run arguments attempts).hold desk reader).exchanges.filterMap Exchange.write? ≠
      []) :
    let outcome := (run arguments attempts).hold desk reader
    ∃ path dump variant policy session after,
      Cleared arguments attempts desk reader path dump variant policy session after ∧
      (∃ before image, before.filterMap Exchange.write? = [] ∧
        Image.ofDump variant dump = .ok image ∧
        outcome.exchanges = before ++
          ((writeAll policy).hold { session with image := image } after).exchanges) ∧
      ∃ pass, outcome.exchanges.filterMap Exchange.write? =
          ((openUidPages policy).hold after).exchanges.filterMap Exchange.write? ++ pass ∧
        (policy.uid = false →
          ((openUidPages policy).hold after).exchanges.filterMap Exchange.write? = []) ∧
        WritesBack after (((openUidPages policy).hold after).exchanges.filterMap Exchange.write?) ∧
        WritesFile policy variant dump pass := by
  intro outcome
  obtain ⟨range, selected, found, bounds, got, fromTag⟩ := run_gotTag writes
  rw [fromTag.writes] at writes
  obtain ⟨path, variant, known, identified, session, after, disk, output, asked, told, read, kind,
    saved, fromRestore⟩ := handleTag_restores writes
  rw [fromRestore.writes] at writes
  obtain ⟨dump, image, policy, prompter, stored, made, resolved, fromWriting⟩ :=
    restoreDump_writes writes
  dsimp only at stored made resolved fromWriting
  rw [kind] at made resolved
  obtain ⟨fits, rfl⟩ := Image.ofDump_eq_ok.mp made
  obtain ⟨before, unwritten, whole⟩ := fromTag.trans (fromRestore.trans fromWriting)
  obtain ⟨pass, sent, carried⟩ := writes_writeAll policy
    { session with image := (Image.blank variant).overlay 0 dump } dump (by rw [← kind]) after
  rw [kind] at carried
  refine ⟨path, dump, variant, policy, session, after,
    ⟨asked, ⟨range, bounds⟩, ⟨selected, found, known, identified, got, told, read⟩,
      ⟨disk, saved, stored⟩, fits, prompter, resolved⟩,
    ⟨before, _, unwritten, made, whole⟩, pass, ?_, (writes_openUidPages policy after).1,
    (writes_openUidPages policy after).2, carried⟩
  rw [show outcome.exchanges = _ from whole, List.filterMap_append, unwritten, List.nil_append]
  exact sent

/-- Five bytes in a file below the working directory are restored to a fresh
tag, with the answers of an operator who opens nothing. -/
theorem run_writes_restore_short :
    let arguments := { Arguments.none with restore := some "dumps/tag.mfd" }
    let disk : Disk := ⟨["work"], [["work", "dumps"]],
      [(⟨["work", "dumps"], "tag.mfd"⟩, [1, 2, 3, 4, 5])]⟩
    let desk := Desk.withDisk arguments (.prepared []) disk none
    let tag := SimulatedTag.fresh .ultralight
    ((run arguments 1).hold desk tag).exchanges.filterMap Exchange.write? ≠ [] ∧
      ∃ variant policy session after, Cleared arguments 1 desk tag "dumps/tag.mfd"
        [1, 2, 3, 4, 5] variant policy session after := by
  intro arguments disk desk tag
  have writes : ((run arguments 1).hold desk tag).exchanges.filterMap Exchange.write? ≠ [] := by
    have some : (((run arguments 1).hold desk tag).exchanges.filterMap
      Exchange.write?).isEmpty = false := by decide +kernel
    intro none
    rw [none] at some
    cases some
  refine ⟨writes, ?_⟩
  obtain ⟨path, dump, variant, policy, session, after, cleared, -⟩ :=
    run_writes_restore arguments 1 desk tag writes
  have file : path = "dumps/tag.mfd" := by
    have asked := cleared.restore
    cases asked
    rfl
  subst file
  obtain ⟨kept, saved, stored⟩ := cleared.readable
  have contents : dump = [1, 2, 3, 4, 5] := by
    have read : (FileSystem.read disk "dumps/tag.mfd").toOption = some [1, 2, 3, 4, 5] := by
      decide +kernel
    rw [show kept = disk from saved] at stored
    rw [stored] at read
    exact Option.some.inj read
  exact ⟨variant, policy, session, after, contents ▸ cleared⟩

end CommandLine

end Ultralight
