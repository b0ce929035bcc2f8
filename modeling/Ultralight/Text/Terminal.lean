/-
  Ultralight.Text.Terminal
  ────────────────────────
  **Text for a terminal, and what shows of it.**

  Besides characters that show, text for a terminal holds control characters
  and the sequences that ESC begins: escape sequences, control sequences,
  control strings and operating system commands.  `plain` is the text without
  them.  ESC, CAN and SUB end whatever is unfinished; so does white space,
  which shows, except within a string.

    • `plain_eq_self` — text that shows altogether is plain,
    • `shown_reset`   — nothing unfinished reaches past a reset.
-/

namespace Ultralight.Text.Terminal

/-! ## §1. Sequences. -/

/-- Where in a sequence a text stands. -/
inductive Position where
  /-- In no sequence. -/
  | ground
  /-- Behind ESC. -/
  | escape
  /-- Behind ESC and intermediate bytes. -/
  | escapeIntermediate
  /-- In a control sequence. -/
  | controlSequence
  /-- At the start of a device control string. -/
  | deviceEntry
  /-- In the parameters of a device control string. -/
  | deviceParameters
  /-- In the intermediate bytes of a device control string. -/
  | deviceIntermediate
  /-- In a control string, or in the data of a device control string. -/
  | controlString
  /-- In an operating system command. -/
  | systemCommand
  deriving DecidableEq, Repr

namespace Position

/-- Where the byte after ESC leads: into a sequence of the kind that it
names, or back, as it may be all of it. -/
def afterEscape (byte : UInt8) : Position :=
  if 0x20 ≤ byte && byte ≤ 0x2f then escapeIntermediate
  else if byte = 0x5b then controlSequence
  else if byte = 0x5d then systemCommand
  else if byte = 0x50 then deviceEntry
  else if byte = 0x58 || byte = 0x5e || byte = 0x5f then controlString
  else if 0x30 ≤ byte && byte ≤ 0x7e then ground
  else escape

/-- Where a byte leads, ESC, CAN and SUB apart.  A string terminator is told
only behind the head of a control string; an operating system command ends
with BEL. -/
def afterByte : Position → UInt8 → Position
  | ground, _ => ground
  | escape, byte => afterEscape byte
  | escapeIntermediate, byte =>
      if 0x30 ≤ byte && byte ≤ 0x7e then ground else escapeIntermediate
  | controlSequence, byte => if 0x40 ≤ byte && byte ≤ 0x7e then ground else controlSequence
  | deviceEntry, byte =>
      if 0x20 ≤ byte && byte ≤ 0x2f then deviceIntermediate
      else if 0x30 ≤ byte && byte ≤ 0x3f then deviceParameters
      else if 0x40 ≤ byte && byte ≤ 0x7e then controlString
      else deviceEntry
  | deviceParameters, byte =>
      if 0x20 ≤ byte && byte ≤ 0x2f then deviceIntermediate
      else if 0x3c ≤ byte && byte ≤ 0x7e then controlString
      else deviceParameters
  | deviceIntermediate, byte =>
      if 0x30 ≤ byte && byte ≤ 0x7e then controlString else deviceIntermediate
  | controlString, byte => if byte = 0x9c then ground else controlString
  | systemCommand, byte => if byte = 0x07 then ground else systemCommand

/-- Where a byte leads. -/
def next (position : Position) (byte : UInt8) : Position :=
  if byte = 0x1b then escape
  else if byte = 0x18 || byte = 0x1a then ground
  else position.afterByte byte

/-- Where a character that does not show leads, by the bytes of its UTF-8
form. -/
def after (position : Position) (c : Char) : Position :=
  (String.utf8EncodeChar c).foldl next position

/-- Whether white space shows and ends what is unfinished. -/
def allowsSpace : Position → Bool
  | ground | escape | escapeIntermediate | controlSequence => true
  | _ => false

end Position

/-- The control characters that are white space and show. -/
def isSpacing (c : Char) : Bool := c == '\t' || c == '\n' || c == '\x0c' || c == '\r'

/-- Characters that show outside of sequences. -/
def isVisible (c : Char) : Bool := isSpacing c || (' ' ≤ c && c != '\x7f')

/-- Whether a character shows. -/
def shows (position : Position) (c : Char) : Bool :=
  if isSpacing c then position.allowsSpace else position = .ground && isVisible c

/-! ## §2. Plain text. -/

/-- What shows of characters, read from a position on. -/
def shown : Position → List Char → List Char
  | _, [] => []
  | position, c :: rest =>
      if shows position c then c :: shown .ground rest else shown (position.after c) rest

/-- What shows of a text. -/
def plain (text : String) : String := String.ofList (shown .ground text.toList)

/-- Text that shows altogether is plain. -/
theorem plain_eq_self {text : String} (h : ∀ c ∈ text.toList, isVisible c = true) :
    plain text = text := by
  have shown_eq : ∀ cs : List Char, (∀ c ∈ cs, isVisible c = true) → shown .ground cs = cs := by
    intro cs
    induction cs with
    | nil => intro _; rfl
    | cons c rest ih =>
        intro hcs
        have hc : shows .ground c = true := by
          have := hcs c (by simp)
          unfold shows
          split
          · rfl
          · simpa using this
        rw [shown, if_pos hc, ih fun d hd => hcs d (by simp [hd])]
  rw [plain, shown_eq _ h, String.ofList_toList]

/-! ## §3. Emphasis. -/

/-- The sequence that begins emphasis. -/
def bold : String := "\x1b[1m"

/-- The sequence that ends emphasis. -/
def reset : String := "\x1b[0m"

/-- Text with emphasis. -/
def emphasize (text : String) : String := bold ++ text ++ reset

/-- Nothing unfinished reaches past a reset. -/
theorem shown_reset (position : Position) (rest : List Char) :
    shown position (reset.toList ++ rest) = shown .ground rest := by
  cases position <;> rfl

/-- A window title ends with BEL, an unfinished colour where the emphasis
ends; tabs stay. -/
example : plain "a\x1b]0;title\x07b\x07" = "ab" ∧ plain (emphasize "\ta\x1b[31" ++ "b") = "\tab" := by
  decide +kernel

end Ultralight.Text.Terminal
