/-
  Ultralight.Proofs.Clone
  ───────────────────────
  **Saving a tag and writing the file to another makes a clone.**

  With a sound tag a run has one course up to the point where it saves or
  writes anything (`ends_run`): the tag is found, detected, unlocked if a
  password is given, read and printed.  What a run that saves does then is one
  write of a file (`ends_saveDump`), and one that restores reads the file,
  takes it over as an image and writes every page of it
  (`ends_restoreDump`).

  `run_clones` puts the two runs one after the other, on a file system that
  takes the file and gives it back: no page is lost, shifted or left with its
  secrets hidden on the way.
-/
import Ultralight.Proofs.DumpPages
import Ultralight.Proofs.RunOutput
import Ultralight.Proofs.SoundTag

namespace Ultralight

/-- A session that selected and detected a tag. -/
def SimulatedTag.sessionWith (tag : SimulatedTag) (credentials : Credentials) (image : Image) :
    Session where
  config := .default
  target := some tag.target
  variant := tag.variant
  credentials := credentials
  image := image

namespace SimulatedTag

variable {tag : SimulatedTag}

/-- Whatever the session knows and holds, it is attached to the tag. -/
theorem attached_reached {image : Image} (fits : image.pages = tag.variant.pages)
    (credentials : Credentials) (closedFrames : Nat) :
    (tag.sessionWith credentials image).Attached (tag.reached closedFrames) :=
  ⟨rfl, rfl, fits⟩

end SimulatedTag

namespace CommandLine

open Dialogue (Outcome)
open Session

variable {φ : Type} {tag : SimulatedTag} {arguments : Arguments}

/-! ## §1. Getting hold of a tag and of its pages. -/

theorem ends_start (sound : tag.Sound) : start.Ends tag (.ok ()) tag := by
  have initiator : Reader.answer .init tag = (.ok (), tag) := rfl
  refine .bind (Talk.ends_ask initiator) ?_
  refine Talk.ends_ask (?_ : tag.setProperty .infiniteSelect false = _)
  unfold SimulatedTag.setProperty
  rw [if_neg (sound.switches _)]

theorem ends_tryListing (sound : tag.Sound) :
    tryListing.Ends (fresh .default) tag (.ok ()) (fresh .default) tag.selected := by
  have listed : listTargets.Ends (fresh .default) tag (.ok [tag.target]) (fresh .default)
      tag.selected := by
    refine Action.ends_get_bind ?_
    refine .bind (Action.ends_lift (Talk.ends_ask (sound.answer_list (by decide))) _) ?_
    refine .bind (Action.ends_report (.targetsFound 1) _ _) ?_
    -- one target is one line of the list
    have shown : Action.Ends ([tag.target].forM fun target =>
        Action.ofTalk (Talk.report (.targetListed target.uid)) : Action Session PUnit)
        (fresh .default) tag.selected (.ok ⟨⟩) (fresh .default) tag.selected :=
      .bind (Action.ends_report (.targetListed tag.uid) _ _) (Action.ends_pure _ _ _)
    exact .bind shown (Action.ends_pure _ _ _)
  exact .bind listed.attempt (Action.ends_pure _ _ _)

theorem ends_findTag (sound : tag.Sound) (once : arguments.wait = false) (attempts : Nat) :
    (findTag arguments attempts).Ends (fresh .default) tag.selected (.ok true)
      { fresh .default with target := some tag.target } tag.selected := by
  have found : select.Ends (fresh .default) tag.selected (.ok tag.target)
      { fresh .default with target := some tag.target } tag.selected :=
    Action.ends_get_bind (ends_mustSelect sound.selected.answer_select_none _)
  unfold findTag
  rw [once]
  exact .bind found.discard (Action.ends_pure _ _ _)

/-- A run detects a sound tag and presents no password but its own. -/
theorem ends_identify (arguments : Arguments) (sound : tag.Sound)
    (own : ∀ password, arguments.password = some password →
      tag.password = some password ∧ tag.version ≠ none) :
    ∃ closedFrames, (identify arguments).Ends { fresh .default with target := some tag.target }
      tag.selected (.ok ())
      (tag.sessionWith (tag.granted arguments.password) (.blank tag.variant))
      (tag.reached closedFrames) := by
  have checked : ({ fresh .default with target := some tag.target } : Session).checkUltralight =
      .ok tag.target := by
    unfold checkUltralight Target.isUltralight
    exact if_pos (by rw [show tag.target.atqa1 = _ from sound.atqa]; rfl)
  have detected : detectVariant.Ends { fresh .default with target := some tag.target }
      tag.selected _ _ _ := ends_detectVariant sound rfl
  have upTo : ∀ {next : Action Session Unit} {changed : Session} {after : SimulatedTag},
      next.Ends (tag.sessionWith .unknown (.blank tag.variant))
        (tag.reached (tag.closedFrames + 1)) (.ok ()) changed after →
      Action.Ends (do
          let target ← Talk.ofExcept (← get).checkUltralight
          Talk.report (.usingTarget target.uid)
          discard detectVariant
          next)
        { fresh .default with target := some tag.target } tag.selected (.ok ()) changed after := by
    intro next changed after last
    refine Action.ends_get_bind ?_
    rw [checked]
    refine .bind (Action.ends_ofExcept _ _ _) (.bind (Action.ends_report _ _ _) ?_)
    exact .bind detected.discard last
  unfold identify
  rcases given : arguments.password with _ | password
  · exact ⟨_, upTo (Action.ends_pure _ _ _)⟩
  · obtain ⟨own, versioned⟩ := own password given
    exact ⟨_, upTo (ends_authenticate sound versioned own _).discard⟩

/-- A run reads every page of a sound tag. -/
theorem ends_readTag (sound : tag.Sound) (credentials : Credentials) (closedFrames : Nat) :
    ∃ image, image.pages = tag.variant.pages ∧
      (∀ p, p < tag.variant.pages →
        image.pageAt p = credentials.putInto tag.variant p (tag.shown p)) ∧
      readTag.Ends (tag.sessionWith credentials (.blank tag.variant)) (tag.reached closedFrames)
        (.ok ()) (tag.sessionWith credentials image) (tag.reached closedFrames) := by
  have attached : (tag.sessionWith credentials (.blank tag.variant)).Attached
      (tag.reached closedFrames) := SimulatedTag.attached_reached rfl credentials closedFrames
  obtain ⟨image, fits, pages, read⟩ := ends_readAll (sound.reached closedFrames) attached
    (SimulatedTag.ready_reached sound.present closedFrames)
  refine ⟨image, fits, pages, .bind read ?_⟩
  rw [if_pos (by simp [ReadReport.isComplete])]
  exact Action.ends_pure _ _ _

/-! ## §2. A run up to the point where it saves or writes anything. -/

theorem ends_inSession {α : Type} {action : Action Session α} {desk : Desk φ}
    {session changed : Session} {reader after : SimulatedTag} {result : Except Error α}
    (held : desk.session = session) (h : action.Ends session reader result changed after) :
    (Desk.inSession action).Ends desk reader result { desk with session := changed } after := by
  rw [← held] at h
  exact h.on

/-- An output without an end takes whatever is printed. -/
theorem ends_printRange {desk : Desk φ} (endless : desk.output.room = none)
    (flushes : desk.output.unflushed = none) (range : ByteRange) (reader : SimulatedTag) :
    ∃ output, (printRange range).Ends desk reader (.ok ()) { desk with output := output }
      reader := by
  have fits : Fits desk.output.room (line desk.session.image range) := by
    rw [endless]
    exact nofun
  have printing := hold_printRange range desk reader
  rw [Output.write_fits fits, Output.flush_of_none flushes] at printing
  exact ⟨_, _, printing⟩

variable [FileSystem φ]

/-- **What a run comes to with a sound tag**: once its pages are read and
printed, what is left to do decides. -/
theorem ends_run (arguments : Arguments) (desk : Desk φ) (sound : tag.Sound)
    (anew : desk.session = fresh .default) (endless : desk.output.room = none)
    (flushes : desk.output.unflushed = none) (once : arguments.wait = false)
    (all : arguments.range = [])
    (own : ∀ password, arguments.password = some password →
      tag.password = some password ∧ tag.version ≠ none) (attempts : Nat) :
    let credentials := tag.granted arguments.password
    ∃ image output closedFrames, image.pages = tag.variant.pages ∧
      (∀ p, p < tag.variant.pages →
        image.pageAt p = credentials.putInto tag.variant p (tag.shown p)) ∧
      ∀ last after,
        (afterPrint arguments).Ends
          { desk with session := tag.sessionWith credentials image, output := output }
          (tag.reached closedFrames) (.ok .finished) last after →
        (run arguments attempts).Ends desk tag (.ok .finished) last after := by
  intro credentials
  obtain ⟨closedFrames, identified⟩ := ends_identify arguments sound own
  obtain ⟨image, fits, pages, filled⟩ := ends_readTag sound credentials closedFrames
  let read : Desk φ := { desk with session := tag.sessionWith credentials image }
  obtain ⟨output, printed⟩ := ends_printRange (show read.output.room = none from endless)
    flushes ⟨defaultStart, defaultStop⟩ (tag.reached closedFrames)
  refine ⟨image, output, closedFrames, fits, pages, fun last after ended => ?_⟩
  have asked : (ByteRange.request arguments.range).Ends tag
      (.ok ⟨defaultStart, defaultStop⟩) tag := by
    rw [all]
    exact .bind (Talk.ends_ofExcept _ _) (Talk.ends_pure _ _)
  have approached : (approach arguments attempts).Ends desk tag (.ok true)
      { desk with session := tag.sessionWith credentials (.blank tag.variant) }
      (tag.reached closedFrames) := by
    refine .bind (Action.ends_lift (ends_start sound) _) ?_
    refine .bind (ends_inSession anew (ends_tryListing sound)) ?_
    refine .bind (ends_inSession rfl (ends_findTag sound once attempts)) ?_
    exact .bind (ends_inSession rfl identified) (Action.ends_pure _ _ _)
  rw [run_eq_parts]
  refine .bind (Action.ends_lift asked _) (.bind approached ?_)
  exact .bind (ends_inSession rfl filled) (.bind printed ended)

/-! ## §3. Saving and restoring. -/

/-- A run that saves writes one file. -/
theorem ends_saveDump {desk : Desk φ} {file : String}
    (takes : (FileSystem.write desk.disk file desk.session.image.active).1 = .ok ())
    (reader : SimulatedTag) :
    (saveDump file).Ends desk reader (.ok ())
      { desk with disk := (FileSystem.write desk.disk file desk.session.image.active).2 }
      reader := by
  have saved := hold_saveDump file desk reader
  rcases writing : FileSystem.write desk.disk file desk.session.image.active
    with ⟨fault | ⟨⟩, disk⟩ <;> rw [writing] at saved takes
  · cases takes
  · exact ⟨_, saved⟩

/-- Nobody is asked anything if every kind of page is open. -/
theorem resolve_all (flags : arguments.policy = .all) (prompter : Prompter) (variant : Variant) :
    prompter.resolve arguments variant = (.ok .all, prompter) := by
  obtain ⟨otp, lock, dynlock, uid⟩ : arguments.otp = true ∧ arguments.lock = true ∧
      arguments.dynlock = true ∧ arguments.writeUid = true := by
    simpa [Arguments.policy, WritePolicy.all] using flags
  have settled : Toggle.all.filter (Toggle.isOpen arguments variant) = [] := by
    simp [Toggle.all, Toggle.isOpen, Toggle.opened, otp, lock, dynlock, uid]
  unfold Prompter.resolve
  rw [settled, flags]
  rfl

omit [FileSystem φ] in
theorem ends_resolvePolicy (flags : arguments.policy = .all) (desk : Desk φ)
    (reader : SimulatedTag) :
    (Desk.resolvePolicy arguments).Ends desk reader (.ok .all) desk reader := by
  refine Action.ends_get_bind ?_
  rw [resolve_all flags]
  exact .bind (Action.ends_set _ _ _) (Action.ends_ofExcept _ _ _)

theorem ends_loadFile {desk : Desk φ} {file : String} {contents : Bytes}
    (stored : FileSystem.read desk.disk file = .ok contents) (reader : SimulatedTag) :
    (Desk.loadFile file).Ends desk reader (.ok contents) desk reader := by
  refine Action.ends_get_bind ?_
  rw [stored]
  exact Action.ends_ofExcept _ _ _

/-- A whole dump is taken for what it is, and nothing is filled up. -/
theorem ends_imageOfDump {image : Image} {variant : Variant} (fits : image.pages = variant.pages)
    (reader : SimulatedTag) :
    ∃ restored : Image, restored.pages = variant.pages ∧
      (∀ p, p < variant.pages → restored.pageAt p = image.pageAt p) ∧
      (imageOfDump variant image.active).Ends reader (.ok restored) reader := by
  obtain ⟨restored, made, size, pages⟩ := Image.ofDump_active fits
  have whole : ¬ image.active.length < restored.activeLength := by
    rw [image.length_active, fits, ← size]
    exact Nat.lt_irrefl _
  refine ⟨restored, size, pages, ?_⟩
  unfold imageOfDump
  rw [made]
  refine .bind (Talk.ends_ofExcept _ _) ?_
  rw [if_neg whole]
  exact Talk.ends_pure _ _

/-- **A run that restores a dump** writes every page of the image that was
dumped. -/
theorem ends_restoreDump (arguments : Arguments) (sound : tag.Sound)
    (plain : tag.magic = .directWrite) (flags : arguments.policy = .all) {desk : Desk φ}
    {credentials : Credentials} {held image : Image}
    (session : desk.session = tag.sessionWith credentials held)
    (fits : image.pages = tag.variant.pages) {file : String}
    (stored : FileSystem.read desk.disk file = .ok image.active) (closedFrames : Nat) :
    ∃ final last, (restoreDump arguments file).Ends desk (tag.reached closedFrames) (.ok ())
        { desk with session := final } last ∧
      last.variant = tag.variant ∧
      ∀ p, p < tag.variant.pages → last.page p = image.pageAt p := by
  obtain ⟨restored, size, pages, converted⟩ := ends_imageOfDump fits (tag.reached closedFrames)
  obtain ⟨final, last, wrote, variant, same⟩ := ends_writeAll_plain (sound.reached closedFrames)
    (SimulatedTag.attached_reached size credentials closedFrames)
    (SimulatedTag.ready_reached sound.present closedFrames) plain
  refine ⟨final, last, ?_, variant, fun p hp => (same p hp).trans (pages p hp)⟩
  -- the image of the file has the size of the tag, so the session takes it over
  have taken : (loadImage restored).Ends (tag.sessionWith credentials held)
      (tag.reached closedFrames) (.ok ()) (tag.sessionWith credentials restored)
      (tag.reached closedFrames) :=
    ⟨_, (hold_loadImage restored _ _).trans (if_pos size)⟩
  refine .bind (ends_loadFile stored _) (Action.ends_get_bind ?_)
  rw [session]
  refine .bind (Action.ends_lift converted _) (.bind (ends_inSession session taken) ?_)
  exact .bind (ends_resolvePolicy flags _ _) (ends_inSession rfl wrote).discard

/-! ## §4. The two runs. -/

/-- The command line that saves a tag to a file. -/
def Arguments.saving (file : String) (password : Option Password) : Arguments :=
  { Arguments.none with dump := some file, password := password }

/-- The command line that writes a file to a tag, every page of it. -/
def Arguments.restoring (file : String) : Arguments :=
  { Arguments.none with
    restore := some file, otp := true, lock := true, dynlock := true, writeUid := true }

/-- What saving a tag to a file and writing the file to another tag comes
to. -/
structure Cloned (source : SimulatedTag) (file : String)
    (saved restored : Outcome SimulatedTag (Except Error Ending × Desk φ)) : Prop where
  /-- Both runs end well. -/
  saves : saved.value.1 = .ok .finished
  restores : restored.value.1 = .ok .finished
  /-- The file holds the memory of the first tag, four bytes for each page. -/
  file : FileSystem.read saved.value.2.disk file = .ok source.dump
  length : source.dump.length = source.variant.pages * pageSize
  /-- The first tag keeps its memory. -/
  keeps : saved.reader.contents = source.contents
  /-- The second tag ends up with the memory of the first. -/
  same : restored.reader.contents = source.contents

/-- A run that saves a sound tag, with its password if it has one. -/
theorem ends_run_saving {source : SimulatedTag} (sound : source.Sound)
    (holds : source.HoldsSecrets) {file : String} {disk : φ}
    (takes : (FileSystem.write disk file source.dump).1 = .ok ()) (operator : Operator)
    (attempts : Nat) :
    ∃ (image : Image) (last : Desk φ) (after : SimulatedTag),
      image.pages = source.variant.pages ∧
      (∀ p, p < source.variant.pages → image.pageAt p = source.page p) ∧
      (run (.saving file source.password) attempts).Ends
        (.withDisk (.saving file source.password) operator disk none) source (.ok .finished) last
        after ∧
      last.disk = (FileSystem.write disk file source.dump).2 ∧
      after.contents = source.contents := by
  have own : ∀ password, source.password = some password →
      source.password = some password ∧ source.version ≠ none := by
    intro password own
    obtain ⟨layout, places, -⟩ := holds password own
    refine ⟨own, sound.version_ne_none fun plain => ?_⟩
    rw [plain] at places
    cases places
  obtain ⟨image, output, closedFrames, fits, shown, ends⟩ := ends_run
    (.saving file source.password) (.withDisk (.saving file source.password) operator disk none)
    sound rfl rfl rfl rfl rfl own attempts
  have pages : ∀ p, p < source.variant.pages → image.pageAt p = source.page p :=
    fun p hp => (shown p hp).trans (holds.putInto_shown p)
  -- the pages with the secrets in their places are the memory of the tag
  have dumped : image.active = source.dump := Image.active_eq_dump fits pages
  let read : Desk φ :=
    { Desk.withDisk (.saving file source.password) operator disk none with
      session := source.sessionWith (source.granted source.password) image, output := output }
  have saved : (saveDump file).Ends read (source.reached closedFrames) (.ok ())
      { read with disk := (FileSystem.write disk file image.active).2 }
      (source.reached closedFrames) :=
    ends_saveDump (show (FileSystem.write disk file image.active).1 = _ by rw [dumped, takes]) _
  refine ⟨image, _, _, fits, pages, ends _ _ (.bind saved (.bind (Action.ends_pure _ _ _)
    (.bind (Action.ends_report _ _ _) (Action.ends_pure _ _ _)))), ?_, rfl⟩
  rw [dumped]

/-- A run that writes a dump to a sound clone. -/
theorem ends_run_restoring {target : SimulatedTag} (sound : target.Sound)
    (plain : target.magic = .directWrite) {image : Image}
    (fits : image.pages = target.variant.pages) {file : String} {disk : φ}
    (stored : FileSystem.read disk file = .ok image.active) (operator : Operator)
    (attempts : Nat) :
    ∃ last after, (run (.restoring file) attempts).Ends
        (.withDisk (.restoring file) operator disk none) target (.ok .finished) last after ∧
      after.variant = target.variant ∧
      ∀ p, p < target.variant.pages → after.page p = image.pageAt p := by
  obtain ⟨held, output, closedFrames, -, -, ends⟩ := ends_run (.restoring file)
    (.withDisk (.restoring file) operator disk none) sound rfl rfl rfl rfl rfl nofun attempts
  let read : Desk φ :=
    { Desk.withDisk (.restoring file) operator disk none with
      session := target.sessionWith (target.granted none) held, output := output }
  obtain ⟨final, last, restored, variant, pages⟩ := ends_restoreDump (.restoring file) sound plain
    rfl (show read.session = _ from rfl) fits stored closedFrames
  exact ⟨_, last, ends _ _ (.bind (Action.ends_pure _ _ _) (.bind restored
    (.bind (Action.ends_report _ _ _) (Action.ends_pure _ _ _)))), variant, pages⟩

/-- **Saving a tag and restoring it to another clones it.**  Both tags are
sound and of one variant, the second takes plain writes, and the first is
unprotected or its memory holds the password that is presented.  The file
system takes the file and gives it back as it was written. -/
theorem run_clones {source target : SimulatedTag} (soundSource : source.Sound)
    (soundTarget : target.Sound) (kind : target.variant = source.variant)
    (plain : target.magic = .directWrite) (holds : source.HoldsSecrets) {file : String}
    {disk : φ} (takes : (FileSystem.write disk file source.dump).1 = .ok ())
    (readsBack : FileSystem.ReadsBack disk file) (operator restorer : Operator)
    (attempts again : Nat) :
    let saved := (run (.saving file source.password) attempts).hold
      (.withDisk (.saving file source.password) operator disk none) source
    let restored := (run (.restoring file) again).hold
      (.withDisk (.restoring file) restorer saved.value.2.disk none) target
    Cloned source file saved restored := by
  intro saved restored
  obtain ⟨image, last, after, fits, pages, ⟨events, saves⟩, left, keeps⟩ :=
    ends_run_saving soundSource holds takes operator attempts
  have disk : saved.value.2.disk = (FileSystem.write disk file source.dump).2 :=
    (congrArg (·.value.2.disk) saves).trans left
  have stored : FileSystem.read saved.value.2.disk file = .ok source.dump := by
    rw [disk]
    exact readsBack source.dump takes
  obtain ⟨final, clone, ⟨more, restores⟩, variant, same⟩ := ends_run_restoring soundTarget plain
    (by rw [fits, kind]) (show FileSystem.read saved.value.2.disk file = _ by
      rw [stored, Image.active_eq_dump fits pages]) restorer again
  have whole : restored = ⟨(.ok .finished, final), clone, more⟩ := restores
  refine ⟨congrArg (·.value.1) saves, congrArg (·.value.1) restores, stored, source.length_dump,
    (congrArg (·.reader.contents) saves).trans keeps, ?_⟩
  rw [whole]
  refine SimulatedTag.contents_eq_of_pages (variant.trans kind) fun p => ?_
  by_cases hp : p < source.variant.pages
  · exact (same p (by rw [kind]; exact hp)).trans (pages p hp)
  · -- past the last page neither tag has anything
    rw [SimulatedTag.page_of_beyond (by rw [variant, kind]; omega),
      SimulatedTag.page_of_beyond (by omega)]

/-- A protected tag of 20 pages is cloned with its secrets, by way of a file
below the working directory. -/
theorem run_clones_protected :
    let source := (SimulatedTag.patterned .ev1Ul11 7).withPassword ⟨⟨0x12, 0x34, 0x56, 0x78⟩⟩
      ⟨0xaa, 0x55⟩
    let target := { SimulatedTag.fresh .ev1Ul11 with magic := .directWrite }
    let disk : Disk := ⟨["work"], [["work", "dumps"]], []⟩
    source.Sound ∧ target.Sound ∧ target.variant = source.variant ∧ target.magic = .directWrite ∧
      source.HoldsSecrets ∧ (FileSystem.write disk "dumps/tag.mfd" source.dump).1 = .ok () ∧
      FileSystem.ReadsBack disk "dumps/tag.mfd" ∧
      source.page 4 = Pattern.page 4 7 ∧ target.page 4 = .zero ∧ source.dump.length = 80 ∧
      let saved := (run (.saving "dumps/tag.mfd" source.password) 1).hold
        (.withDisk (.saving "dumps/tag.mfd" source.password) (.prepared []) disk none) source
      let restored := (run (.restoring "dumps/tag.mfd") 1).hold
        (.withDisk (.restoring "dumps/tag.mfd") (.prepared []) saved.value.2.disk none) target
      Cloned source "dumps/tag.mfd" saved restored := by
  intro source target disk
  have soundSource : source.Sound := ⟨rfl, rfl, SimulatedTag.told?_of_default rfl, rfl⟩
  have soundTarget : target.Sound := ⟨rfl, rfl, SimulatedTag.told?_of_default rfl, rfl⟩
  have holds : source.HoldsSecrets := by
    intro given own
    cases own
    exact ⟨⟨0x12, 0x13⟩, rfl, by decide +kernel, by decide +kernel, by decide +kernel⟩
  have takes : (FileSystem.write disk "dumps/tag.mfd" source.dump).1 = .ok () := rfl
  have readsBack : FileSystem.ReadsBack disk "dumps/tag.mfd" := disk.readsBack _
  refine ⟨soundSource, soundTarget, rfl, rfl, holds, takes, readsBack, by decide +kernel,
    by decide +kernel, source.length_dump, ?_⟩
  exact run_clones soundSource soundTarget rfl rfl holds takes readsBack (.prepared [])
    (.prepared []) 1 1

end CommandLine

end Ultralight
