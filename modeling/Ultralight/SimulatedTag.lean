/-
  Ultralight.SimulatedTag
  ───────────────────────
  **A tag in the field of a reader, simulated.**

  The simulation keeps what a tag keeps (memory, secrets, whether it is
  asleep, whether its back door is open), what a reader keeps (its
  properties), and a plan of faults.  It answers every request, so it is a
  `Reader`.

  The rules of the tag:

    • a refused or unanswered command puts the tag to sleep; only a
      selection, or a complete back door sequence, wakes it,
    • reads of the pages that hold secrets show zeros once the tag has a
      password,
    • the UID pages are read-only and the bits of the lock and OTP bytes can
      only be set, unless the tag is a clone whose UID pages are open.

  `page_setPage` is what a stored page changes.
-/
import Ultralight.Frame
import Ultralight.Pattern
import Ultralight.Reader

namespace Ultralight

/-! ## §1. State. -/

/-- How a tag treats writes to its UID pages. -/
inductive Magic where
  /-- A genuine tag: pages 0 and 1 are read-only. -/
  | genuine
  /-- A clone that takes plain writes. -/
  | directWrite
  /-- A clone that takes them once its back door is open. -/
  | backdoor
  deriving DecidableEq, Repr

/-- Faults that a simulated tag and its reader show. -/
structure Faults where
  /-- Blocks whose READ is refused, by their first page. -/
  reads : List UInt8
  /-- Pages whose WRITE is refused. -/
  writes : List UInt8
  /-- The tag leaves the field when a READ or WRITE is refused for one of the
  two lists above. -/
  removeOnFailure : Bool
  /-- So many selections find nothing. -/
  emptySelections : Nat
  /-- So many selections fail in the reader. -/
  failedSelections : Nat
  /-- This change of a property is refused. -/
  property : Option (Property × Bool)
  /-- The second back door frame is not answered. -/
  unlock2 : Bool
  deriving DecidableEq, Repr

/-- No faults. -/
def Faults.none : Faults where
  reads := []
  writes := []
  removeOnFailure := false
  emptySelections := 0
  failedSelections := 0
  property := .none
  unlock2 := false

/-- A tag and the reader that it is in the field of. -/
structure SimulatedTag where
  /-- What kind of tag it is. -/
  variant : Variant
  /-- Its memory, page by page. -/
  memory : Vector Page variant.pages
  /-- The UID that selection reports. -/
  uid : Uid
  /-- First byte of the answer to request. -/
  atqa0 : UInt8
  /-- Second byte of the answer to request. -/
  atqa1 : UInt8
  /-- The answer to GET_VERSION, if there is one. -/
  version : Option (Vector UInt8 versionLength)
  /-- The password, if the tag is protected. -/
  password : Option Password
  /-- The acknowledgement of the password. -/
  pack : Pack
  /-- How writes to the UID pages are treated. -/
  magic : Magic
  /-- The tag is in the field. -/
  present : Bool
  /-- What goes wrong. -/
  faults : Faults
  /-- The reader appends and checks checksums. -/
  handleCrc : Bool
  /-- The reader wraps frames. -/
  easyFraming : Bool
  /-- The tag sleeps until it is selected. -/
  halted : Bool
  /-- The first back door frame was answered. -/
  armed : Bool
  /-- The back door is open. -/
  unlocked : Bool
  /-- How many frames the reader closed by their checksum. -/
  closedFrames : Nat

namespace SimulatedTag

/-! ## §2. Memory. -/

/-- Page `p` of the memory; zeros past its end. -/
def page (tag : SimulatedTag) (p : Nat) : Page := tag.memory[p]?.getD .zero

/-- The tag with page `p` replaced; nothing changes past the end. -/
def setPage (tag : SimulatedTag) (p : Nat) (data : Page) : SimulatedTag :=
  { tag with memory := tag.memory.setIfInBounds p data }

/-- Storing a page changes that page only. -/
theorem page_setPage (tag : SimulatedTag) (p q : Nat) (data : Page) :
    (tag.setPage p data).page q =
      if p = q ∧ p < tag.variant.pages then data else tag.page q := by
  show (tag.memory.setIfInBounds p data)[q]?.getD .zero = _
  rw [Vector.getElem?_setIfInBounds]
  by_cases hpq : p = q
  · subst hpq
    by_cases hp : p < tag.variant.pages
    · simp [hp]
    · simp [hp, page]
  · simp [hpq, page]

/-- The whole memory as bytes. -/
def dump (tag : SimulatedTag) : Bytes := tag.memory.toList.flatMap Page.toList

/-- The tag with pages 0 to 2 holding its UID and the check bytes of it; a
UID of fewer than seven bytes leaves the memory as it is. -/
def storeUid (tag : SimulatedTag) : SimulatedTag :=
  match tag.uid.bytes with
  | u0 :: u1 :: u2 :: u3 :: u4 :: u5 :: u6 :: _ =>
      let lock := tag.page lockPage
      ((tag.setPage 0 ⟨u0, u1, u2, 0x88 ^^^ u0 ^^^ u1 ^^^ u2⟩).setPage 1 ⟨u3, u4, u5, u6⟩).setPage
        lockPage ⟨u3 ^^^ u4 ^^^ u5 ^^^ u6, 0x48, lock.b2, lock.b3⟩
  | _ => tag

/-! ## §3. Making a tag. -/

/-- The UID of a tag as made. -/
def defaultUid : Uid := ⟨[0x04, 0x01, 0x02, 0x03, 0x04, 0x05, 0x06], by decide⟩

/-- The version answer of a variant as made. -/
def defaultVersion (variant : Variant) : Option (Vector UInt8 versionLength) :=
  variant.storageByte.map fun storage =>
    if variant.isNtag then #v[0x00, 0x04, 0x04, 0x02, 0x01, 0x00, storage, 0x03]
    else #v[0x00, 0x04, 0x03, 0x01, 0x01, 0x00, storage, 0x03]

/-- A tag fresh from the factory, in the field and not yet selected.  An
NTAG's capability page tells its size. -/
def fresh (variant : Variant) : SimulatedTag :=
  let tag : SimulatedTag :=
    { variant := variant
      memory := Vector.replicate variant.pages .zero
      uid := defaultUid
      atqa0 := 0x00
      atqa1 := ultralightAtqa1
      version := defaultVersion variant
      password := none
      pack := .zero
      magic := .genuine
      present := true
      faults := .none
      handleCrc := true
      easyFraming := true
      halted := true
      armed := false
      unlocked := false
      closedFrames := 0 }
  let tag := tag.storeUid
  if variant.isNtag then
    tag.setPage otpPage ⟨0xe1, 0x10, UInt8.ofNat (variant.userBytes / 8), 0x00⟩
  else tag

/-- A fresh tag whose pages from 4 on carry their patterns. -/
def patterned (variant : Variant) (seed : UInt8) : SimulatedTag :=
  (List.range' 4 (variant.pages - 4)).foldl
    (fun tag p => tag.setPage p (Pattern.page p seed)) (fresh variant)

/-- The tag with another UID, also in its memory; a byte string too long for
a UID changes nothing. -/
def withUid (tag : SimulatedTag) (bytes : Bytes) : SimulatedTag :=
  match Uid.ofBytes bytes with
  | .ok uid => storeUid { tag with uid := uid }
  | .error _ => tag

/-- The tag protected by a password, which its memory holds too where the
variant has a place for it. -/
def withPassword (tag : SimulatedTag) (password : Password) (pack : Pack) : SimulatedTag :=
  let tag := { tag with password := some password, pack := pack }
  match tag.variant.secretLayout with
  | some layout =>
      let tag := tag.setPage layout.pwdPage password.page
      let old := tag.page layout.packPage
      tag.setPage layout.packPage ⟨pack.b0, pack.b1, old.b2, old.b3⟩
  | none => tag

/-! ## §4. Answers. -/

/-- READ and WRITE do not work while one of the two properties is off. -/
def inRawMode (tag : SimulatedTag) : Bool := !tag.handleCrc || !tag.easyFraming

/-- Whether the UID pages take writes. -/
def uidWritable (tag : SimulatedTag) : Bool :=
  match tag.magic with
  | .genuine => false
  | .directWrite => true
  | .backdoor => tag.unlocked

/-- The tag refuses and goes to sleep. -/
def refuse {α : Type} (tag : SimulatedTag) : Except Error α × SimulatedTag :=
  (.error .refused, { tag with halted := true })

/-- The tag stays silent and goes to sleep. -/
def ignore {α : Type} (tag : SimulatedTag) : Except Error α × SimulatedTag :=
  (.error .noAnswer, { tag with halted := true })

/-- A property is switched, unless the plan of faults says otherwise. -/
def setProperty (tag : SimulatedTag) (property : Property) (enable : Bool) :
    Except Error Unit × SimulatedTag :=
  if tag.faults.property = some (property, enable) then
    (.error (.driver (.propertyRefused property)), tag)
  else
    match property with
    | .handleCrc => (.ok (), { tag with handleCrc := enable })
    | .easyFraming => (.ok (), { tag with easyFraming := enable })
    | .infiniteSelect => (.ok (), tag)

/-- A selection: pending faults first, then whether the tag is there and is
the one asked for.  A selected tag is awake and its back door shut. -/
def select (tag : SimulatedTag) (wanted : Option Uid) :
    Except Error (Option Target) × SimulatedTag :=
  match tag.faults.failedSelections, tag.faults.emptySelections with
  | failed + 1, _ =>
      (.error .noAnswer, { tag with faults := { tag.faults with failedSelections := failed } })
  | 0, empty =>
      if !tag.present then (.ok none, tag)
      else
        match empty with
        | left + 1 =>
            (.ok none, { tag with faults := { tag.faults with emptySelections := left } })
        | 0 =>
            if wanted.all (· == tag.uid) then
              (.ok (some ⟨tag.atqa0, tag.atqa1, 0x00, tag.uid⟩),
                { tag with halted := false, armed := false, unlocked := false })
            else (.ok none, tag)

/-- A short frame: only the first knock at a back door is answered. -/
def exchangeBits (tag : SimulatedTag) (frame : Bytes) (count : Nat) :
    Except Error Bytes × SimulatedTag :=
  if tag.magic = .backdoor ∧ tag.present ∧ count = Frame.unlockBits1 ∧
      frame.head? = some Frame.unlockCode1 then
    (.ok [Frame.ack], { tag with armed := true })
  else tag.ignore

/-- An answer as the reader hands it on: closed by its checksum unless the
reader checks and strips it. -/
def respond (tag : SimulatedTag) (answer : Bytes) : Bytes :=
  if tag.handleCrc then answer else Crc.append answer

/-- The command in a byte frame: the frame itself if the reader adds the
checksum, else the frame without its checksum if that is right. -/
def command? (tag : SimulatedTag) (frame : Bytes) : Option Bytes :=
  if tag.handleCrc then some frame
  else if Crc.check frame then some (frame.take (frame.length - 2))
  else none

/-- A password is presented.  A tag without version answer knows no
passwords; one without a password of its own takes the factory's. -/
def checkPassword (tag : SimulatedTag) (given : Bytes) : Except Error Bytes × SimulatedTag :=
  match tag.version, tag.password with
  | some _, some password =>
      if password.bytes = given then (.ok (tag.respond tag.pack.bytes), tag) else tag.refuse
  | some _, none =>
      if Password.factory.bytes = given then (.ok (tag.respond Pack.zero.bytes), tag)
      else tag.refuse
  | none, _ => tag.refuse

/-- A command reaches a tag that is awake. -/
def obey (tag : SimulatedTag) : Bytes → Except Error Bytes × SimulatedTag
  | [] => tag.refuse
  | code :: rest =>
      if code = Frame.versionCode then
        match tag.version with
        | some version => (.ok (tag.respond version.toList), tag)
        | none => tag.ignore
      else if code = Frame.authCode ∧ rest.length = 4 then tag.checkPassword rest
      else if code = Frame.haltCode then tag.ignore
      else tag.refuse

/-- A byte frame: the second knock at a back door if the reader adds no
checksum, else a command. -/
def exchangeBytes (tag : SimulatedTag) (frame : Bytes) : Except Error Bytes × SimulatedTag :=
  if !tag.present then (.error .noAnswer, tag)
  else if frame = Frame.unlock2 ∧ !tag.handleCrc then
    if tag.armed && !tag.faults.unlock2 then
      (.ok [Frame.ack], { tag with armed := false, unlocked := true, halted := false })
    else tag.ignore
  else
    match tag.command? frame with
    | none => tag.refuse
    | some command => if tag.halted then (.error .noAnswer, tag) else tag.obey command

/-- READ and WRITE need a reader out of raw mode and a tag that is there and
awake. -/
def ready (tag : SimulatedTag) : Except Error Unit :=
  if tag.inRawMode then .error (.driver .commandInRawMode)
  else if !tag.present || tag.halted then .error .noAnswer
  else .ok ()

/-- A planned refusal, after which the tag may be gone. -/
def failAsPlanned {α : Type} (tag : SimulatedTag) : Except Error α × SimulatedTag :=
  refuse { tag with present := tag.present && !tag.faults.removeOnFailure }

/-- A page as READ shows it: without PWD and PACK if the tag is protected. -/
def shown (tag : SimulatedTag) (p : Nat) : Page :=
  match tag.variant.secretLayout, tag.password with
  | some layout, some _ =>
      let bare := if p = layout.pwdPage then .zero else tag.page p
      if p = layout.packPage then ⟨0, 0, bare.b2, bare.b3⟩ else bare
  | _, _ => tag.page p

/-- READ of four pages; past the last page it goes on with page 0. -/
def readBlock (tag : SimulatedTag) (first : UInt8) : Except Error Block × SimulatedTag :=
  match tag.ready with
  | .error error => (.error error, tag)
  | .ok () =>
      let pages := tag.variant.pages
      let p := first.toNat
      if pages ≤ p then tag.refuse
      else if tag.faults.reads.contains first then tag.failAsPlanned
      else
        (.ok ⟨tag.shown (p % pages), tag.shown ((p + 1) % pages), tag.shown ((p + 2) % pages),
          tag.shown ((p + 3) % pages)⟩, tag)

/-- What a page holds after a WRITE to a tag whose UID pages are closed: the
bits of lock and OTP bytes can only be set, and the first two bytes of the
lock page cannot change. -/
def merged (p : Nat) (old new : Page) : Page :=
  if p = lockPage then ⟨old.b0, old.b1, old.b2 ||| new.b2, old.b3 ||| new.b3⟩
  else if p = otpPage then
    ⟨old.b0 ||| new.b0, old.b1 ||| new.b1, old.b2 ||| new.b2, old.b3 ||| new.b3⟩
  else new

/-- WRITE of a page. -/
def writePage (tag : SimulatedTag) (page : UInt8) (data : Page) :
    Except Error Unit × SimulatedTag :=
  match tag.ready with
  | .error error => (.error error, tag)
  | .ok () =>
      let p := page.toNat
      if tag.variant.pages ≤ p then tag.refuse
      else if tag.faults.writes.contains page then tag.failAsPlanned
      else if tag.uidWritable then (.ok (), tag.setPage p data)
      else if p < firstDataPage then tag.refuse
      else (.ok (), tag.setPage p (merged p (tag.page p) data))

/-- A bound on the selections that a wait for this tag takes, if it ends. -/
def pendingSelections (tag : SimulatedTag) : Nat :=
  tag.faults.failedSelections + tag.faults.emptySelections + 1

/-- The answer to a request. -/
def answer : (request : Request) → SimulatedTag → request.Reply × SimulatedTag
  | .init, tag => (.ok (), tag)
  | .setProperty property enable, tag => tag.setProperty property enable
  | .select wanted, tag => tag.select wanted
  | .list most, tag => listBySelecting (fun wanted tag => tag.select wanted) most tag
  | .bits frame count, tag => tag.exchangeBits frame count
  | .bytes frame, tag => tag.exchangeBytes frame
  | .read page, tag => tag.readBlock page
  | .write page data, tag => tag.writePage page data.p0

instance : Reader SimulatedTag where
  answer := answer
  name := fun _ => "mock"
  close := fun frame tag =>
    (Crc.append frame, { tag with closedFrames := tag.closedFrames + 1 })

/-! ## §5. The record of calls. -/

/-- How a request is written in the record of calls; a list of no tags asks
nothing, and any other list is a selection. -/
def callText : Request → Option String
  | .init => some "InitiatorInit"
  | .setProperty property enable =>
      some ("SetProperty(" ++ property.name ++ "," ++ toString enable ++ ")")
  | .select _ => some "Select"
  | .list most => if most = 0 then none else some "Select"
  | .bits frame count => some ("Bits(" ++ Hex.encode frame ++ "," ++ toString count ++ ")")
  | .bytes frame => some ("Bytes(" ++ Hex.encode frame ++ ")")
  | .read page => some ("Read(" ++ toString page.toNat ++ ")")
  | .write page data =>
      some ("Write(" ++ toString page.toNat ++ "," ++ Hex.encode data.p0.toList ++ ")")

end SimulatedTag

end Ultralight
