/-
  Ultralight.Proofs.Prompts
  ─────────────────────────
  **Which questions are asked, and which line answers which.**

  `questions` are those that a command line leaves open for a variant, in the
  order of asking, and `Operator.reply n` is what comes of question `n`,
  counted from 0, of questions put to an operator in a row.

    • `askEach_ok` — while replies can be read, each toggle is set to the reply
      to its own question; by induction on the questions,
    • `askEach_error` — the first that cannot be read ends the asking,
    • `reply_typed`, `reply_failing` — reply `n` of the standard input is its
      line `n`; by induction on `n`, a line at a time,
    • `reply_unshown`, `resolve_unshown` — a question that cannot be shown ends
      the asking in the same way,
    • `resolve_asks_in_order` — for a text on the standard input both together.
-/
import Mathlib.Data.List.TakeDrop
import Mathlib.Data.List.TakeWhile
import Ultralight.CommandLine.Prompt
import Ultralight.Proofs.TextBytes

namespace Ultralight.CommandLine

open Hex (IsAscii codeOf textBytes)

/-! ## §1. Toggles and questions. -/

/-- Whether a policy opens a toggle. -/
def Toggle.isIn (policy : WritePolicy) : Toggle → Bool
  | otp => policy.otp
  | lock => policy.lock
  | dynlock => policy.dynlock
  | uid => policy.uid

theorem Toggle.isIn_setIn (policy : WritePolicy) (value : Bool) (toggle other : Toggle) :
    other.isIn (toggle.setIn policy value) =
      if other = toggle then value else other.isIn policy := by
  cases toggle <;> cases other <;> rfl

theorem Toggle.isIn_policy (arguments : Arguments) (toggle : Toggle) :
    toggle.isIn arguments.policy = toggle.opened arguments := by
  cases toggle <;> rfl

/-- What is asked: each toggle without its flag, and the dynamic lock bytes
only of a variant that has them. -/
def questions (arguments : Arguments) (variant : Variant) : List Toggle :=
  (if arguments.otp then [] else [.otp]) ++ (if arguments.lock then [] else [.lock]) ++
    (if arguments.dynlock || variant.dynamicLockPage.isNone then [] else [.dynlock]) ++
    (if arguments.writeUid then [] else [.uid])

theorem filter_isOpen (arguments : Arguments) (variant : Variant) :
    Toggle.all.filter (Toggle.isOpen arguments variant) = questions arguments variant := by
  unfold questions Toggle.all Toggle.isOpen Toggle.opened
  cases arguments.otp <;> cases arguments.lock <;> cases arguments.dynlock <;>
    cases arguments.writeUid <;> cases variant.dynamicLockPage <;> rfl

theorem nodup_questions (arguments : Arguments) (variant : Variant) :
    (questions arguments variant).Nodup := by
  rw [← filter_isOpen]
  exact List.Pairwise.filter _ (by decide : Toggle.all.Nodup)

/-- What is asked has no flag. -/
theorem not_opened_of_mem {arguments : Arguments} {variant : Variant} {toggle : Toggle}
    (h : toggle ∈ questions arguments variant) : toggle.opened arguments = false := by
  rw [← filter_isOpen] at h
  have unopened := (List.mem_filter.mp h).2
  unfold Toggle.isOpen at unopened
  rw [Bool.and_eq_true, Bool.not_eq_true'] at unopened
  exact unopened.1

/-! ## §2. Questions in a row. -/

namespace Operator

/-- An operator after so many questions. -/
def after : Nat → Operator → Operator
  | 0, operator => operator
  | n + 1, operator => after n operator.answer.2

/-- What comes of question `n`, counted from 0, of questions in a row. -/
def reply (operator : Operator) (n : Nat) : Except Error Bool := (operator.after n).answer.1

theorem reply_zero (operator : Operator) : operator.reply 0 = operator.answer.1 := rfl

theorem reply_succ (operator : Operator) (n : Nat) :
    operator.reply (n + 1) = operator.answer.2.reply n := rfl

end Operator

namespace Prompter

variable {toggles : List Toggle} {operator : Operator}

/-- A question that is answered, before others. -/
theorem askEach_cons_ok {answer : Bool} (replied : operator.reply 0 = .ok answer)
    (toggle : Toggle) (policy : WritePolicy) (asked : List Toggle) :
    askEach (toggle :: toggles) policy ⟨operator, asked⟩ =
      askEach toggles (toggle.setIn policy answer) ⟨operator.after 1, asked ++ [toggle]⟩ := by
  rw [askEach, show ask ⟨operator, asked⟩ toggle =
    (.ok answer, ⟨operator.after 1, asked ++ [toggle]⟩) from Prod.ext replied rfl]

/-- Questions that are all answered set each toggle to its own answer and leave
the others as they were. -/
theorem askEach_ok (distinct : toggles.Nodup) {answers : Nat → Bool}
    (replied : ∀ i < toggles.length, operator.reply i = .ok (answers i)) (policy : WritePolicy)
    (asked : List Toggle) : ∃ result, askEach toggles policy ⟨operator, asked⟩ =
        (.ok result, ⟨operator.after toggles.length, asked ++ toggles⟩) ∧
      ∀ toggle, toggle.isIn result = match toggles.idxOf? toggle with
        | some i => answers i
        | none => toggle.isIn policy := by
  induction toggles generalizing operator asked answers policy with
  | nil => exact ⟨policy, by rw [List.append_nil]; rfl, fun _ => rfl⟩
  | cons first rest ih =>
      obtain ⟨fresh, distinct⟩ := List.nodup_cons.mp distinct
      have replied' : ∀ i < rest.length, (operator.after 1).reply i = .ok (answers (i + 1)) :=
        fun i small => replied (i + 1) (by simpa using small)
      obtain ⟨result, run, values⟩ :=
        ih distinct replied' (first.setIn policy (answers 0)) (asked ++ [first])
      refine ⟨result, ?_, fun toggle => ?_⟩
      · rw [askEach_cons_ok (replied 0 (by simp)), run, List.append_assoc]
        rfl
      · rw [values, List.idxOf?_cons]
        by_cases same : first = toggle
        · -- the toggle just asked about is not asked about again
          subst same
          rw [List.idxOf?_eq_none_iff.mpr fresh, if_pos (beq_self_eq_true _)]
          show first.isIn (first.setIn policy (answers 0)) = answers 0
          rw [Toggle.isIn_setIn, if_pos rfl]
        · rw [if_neg (by simpa using same)]
          cases rest.idxOf? toggle with
          | some i => rfl
          | none =>
              show toggle.isIn (first.setIn policy (answers 0)) = toggle.isIn policy
              rw [Toggle.isIn_setIn, if_neg (Ne.symm same)]

/-- The first question whose answer cannot be read is the last one asked, and
there is no policy. -/
theorem askEach_error {k : Nat} (short : k < toggles.length)
    (before : ∀ i < k, ∃ answer, operator.reply i = .ok answer) {error : Error}
    (failed : operator.reply k = .error error) (policy : WritePolicy) (asked : List Toggle) :
    askEach toggles policy ⟨operator, asked⟩ =
      (.error error, ⟨operator.after (k + 1), asked ++ toggles.take (k + 1)⟩) := by
  induction k generalizing toggles operator asked policy with
  | zero =>
      obtain ⟨first, rest, rfl⟩ := List.exists_cons_of_length_pos short
      rw [askEach, show ask ⟨operator, asked⟩ first =
        (.error error, ⟨operator.after 1, asked ++ [first]⟩) from Prod.ext failed rfl]
      rfl
  | succ k ih =>
      obtain ⟨first, rest, rfl⟩ := List.exists_cons_of_length_pos (Nat.zero_lt_of_lt short)
      obtain ⟨answer, replied⟩ := before 0 (by omega)
      have left : k < rest.length := by simpa using short
      have before' : ∀ i < k, ∃ answer, (operator.after 1).reply i = .ok answer :=
        fun i small => before (i + 1) (by omega)
      rw [askEach_cons_ok replied, ih left before' failed, List.append_assoc]
      rfl

end Prompter

/-! ## §3. Lines. -/

/-- An input without a newline is one line; any other begins with a line that
ends with the first newline. -/
theorem splitLine_cases (input : Bytes) :
    (newline ∉ input ∧ splitLine input = (input, [])) ∨
      ∃ line rest, input = line ++ newline :: rest ∧ newline ∉ line ∧
        splitLine input = (line, rest) := by
  have other : ∀ {line : Bytes}, newline ∉ line → ∀ byte ∈ line, (byte != newline) = true := by
    intro line absent byte member
    rw [bne_iff_ne]
    rintro rfl
    exact absent member
  unfold splitLine
  rw [List.span_eq_takeWhile_dropWhile]
  by_cases present : newline ∈ input
  · obtain ⟨line, rest, rfl, absent⟩ := List.eq_append_cons_of_mem present
    refine .inr ⟨line, rest, rfl, absent, ?_⟩
    rw [List.takeWhile_append_of_pos (other absent), List.dropWhile_append_of_pos (other absent),
      List.takeWhile_cons_of_neg (by simp), List.dropWhile_cons_of_neg (by simp), List.append_nil]
    rfl
  · refine .inl ⟨present, ?_⟩
    rw [List.takeWhile_eq_self_iff.mpr (other present),
      List.dropWhile_eq_nil_iff.mpr (other present)]
    rfl

theorem splitOn_append_newline {line : Bytes} (absent : newline ∉ line) (rest : Bytes) :
    (line ++ newline :: rest).splitOn newline = line :: rest.splitOn newline := by
  refine List.splitOnP_append_cons_of_forall_mem (p := (· == newline)) (fun byte member => ?_)
    newline (beq_self_eq_true _) rest
  rw [beq_eq_false_iff_ne]
  rintro rfl
  exact absent member

/-- Line `n` of an input, counted from 0; past the last one every line is
empty. -/
def lineAt (input : Bytes) (n : Nat) : Bytes := (input.splitOn newline)[n]?.getD []

theorem lineAt_zero (input : Bytes) : lineAt input 0 = (splitLine input).1 := by
  unfold lineAt
  rcases splitLine_cases input with ⟨absent, split⟩ | ⟨line, rest, rfl, absent, split⟩
  · rw [split, List.splitOn_eq_singleton absent]
    rfl
  · rw [split, splitOn_append_newline absent]
    rfl

theorem lineAt_succ (input : Bytes) (n : Nat) :
    lineAt input (n + 1) = lineAt (splitLine input).2 n := by
  unfold lineAt
  rcases splitLine_cases input with ⟨absent, split⟩ | ⟨line, rest, rfl, absent, split⟩
  · rw [split, List.splitOn_eq_singleton absent]
    cases n <;> rfl
  · rw [split, splitOn_append_newline absent]
    rfl

namespace Operator

/-- Reply `n` of the standard input is its line `n`. -/
theorem reply_typed (input : Bytes) (n : Nat) :
    (typed input).reply n = answerOf (lineAt input n) := by
  induction n generalizing input with
  | zero => rw [lineAt_zero]; rfl
  | succ n ih =>
      rw [lineAt_succ, ← ih]
      rfl

/-- The standard input stays what it is. -/
theorem after_typed (input : Bytes) (n : Nat) : ∃ rest, (typed input).after n = typed rest := by
  induction n generalizing input with
  | zero => exact ⟨input, rfl⟩
  | succ n ih => exact ih _

/-- Of a standard input that fails, the lines before the failure are read. -/
theorem reply_failing (input : Bytes) (fault : StreamFault) (n : Nat) :
    (failing input fault).reply n =
      if n < input.count newline then answerOf (lineAt input n) else .error (.stream fault) := by
  induction n generalizing input with
  | zero =>
      rw [reply_zero, lineAt_zero, answer]
      by_cases present : newline ∈ input
      · rw [if_pos present, if_pos (List.count_pos_iff.mpr present)]
      · rw [if_neg present, if_neg fun more => present (List.count_pos_iff.mp more)]
  | succ n ih =>
      rw [reply_succ, lineAt_succ, answer]
      rcases splitLine_cases input with ⟨absent, -⟩ | ⟨line, rest, rfl, absent, split⟩
      · rw [if_neg absent, List.count_eq_zero.mpr absent]
        exact (ih []).trans (if_neg (Nat.not_lt_zero n))
      · -- one newline less stands before the failure
        have less : (line ++ newline :: rest).count newline = rest.count newline + 1 := by
          rw [List.count_append, List.count_eq_zero.mpr absent, List.count_cons_self, Nat.zero_add]
        rw [if_pos (List.mem_append_right _ List.mem_cons_self), split, less]
        simp only [Nat.add_lt_add_iff_right]
        exact ih rest

/-- Questions that can be shown are answered as ever; no other is. -/
theorem reply_unshown (shown : Nat) (fault : StreamFault) (operator : Operator) (n : Nat) :
    (unshown shown fault operator).reply n =
      if n < shown then operator.reply n else .error (.stream fault) := by
  induction n generalizing shown operator with
  | zero => cases shown <;> rfl
  | succ n ih =>
      cases shown with
      | zero => exact (ih 0 operator).trans (if_neg (Nat.not_lt_zero n))
      | succ shown =>
          simp only [Nat.add_lt_add_iff_right]
          exact ih shown operator.answer.2

end Operator

/-- More questions than can be shown end with the first that cannot. -/
theorem Prompter.resolve_unshown {arguments : Arguments} {variant : Variant} {shown : Nat}
    (short : shown < (questions arguments variant).length) {operator : Operator}
    (replied : ∀ i < shown, ∃ answer, operator.reply i = .ok answer) (fault : StreamFault)
    (asked : List Toggle) :
    ∃ rest, (Prompter.mk (.unshown shown fault operator) asked).resolve arguments variant =
      (.error (.stream fault), ⟨rest, asked ++ (questions arguments variant).take (shown + 1)⟩) := by
  have before : ∀ i < shown, ∃ answer, (Operator.unshown shown fault operator).reply i =
      .ok answer := by
    intro i small
    obtain ⟨answer, own⟩ := replied i small
    exact ⟨answer, by rw [Operator.reply_unshown, if_pos small, own]⟩
  have failed : (Operator.unshown shown fault operator).reply shown = .error (.stream fault) := by
    rw [Operator.reply_unshown, if_neg (Nat.lt_irrefl _)]
  unfold resolve
  rw [filter_isOpen]
  exact ⟨_, askEach_error short before failed arguments.policy asked⟩

/-! ## §4. Lines of texts. -/

/-- A character is a newline exactly if one of its bytes is. -/
theorem newline_mem_utf8EncodeChar {c : Char} : newline ∈ String.utf8EncodeChar c ↔ c = '\n' := by
  by_cases ascii : IsAscii c
  · rw [Hex.utf8EncodeChar_of_ascii ascii, List.mem_singleton]
    constructor
    · intro code
      exact (Hex.codeOf_inj (c := '\n') (by decide) ascii code).symm
    · rintro rfl
      rfl
  · constructor
    · intro member
      exact absurd (Hex.le_of_mem_utf8EncodeChar ascii member) (by decide)
    · rintro rfl
      exact absurd (by decide) ascii

/-- What stands before the first separator may be split off. -/
theorem splitOn_append_of_not_mem {before : Bytes} (absent : newline ∉ before) (rest : Bytes) :
    (before ++ rest).splitOn newline = (rest.splitOn newline).modifyHead (before ++ ·) := by
  induction before with
  | nil => exact (congrFun List.modifyHead_id (rest.splitOn newline)).symm
  | cons byte before ih =>
      obtain ⟨other, absent⟩ := not_or.mp (mt List.mem_cons.mpr absent)
      rw [List.cons_append, List.splitOn_cons_eq_if_modifyHead,
        if_neg (by simpa using Ne.symm other), ih absent, List.modifyHead_modifyHead]
      rfl

/-- The lines of a text, as bytes, are the bytes of its lines. -/
theorem splitOn_flatMap_utf8EncodeChar (cs : List Char) :
    (cs.flatMap String.utf8EncodeChar).splitOn newline =
      (cs.splitOn '\n').map (List.flatMap String.utf8EncodeChar) := by
  induction cs with
  | nil => rfl
  | cons c rest ih =>
      rw [List.flatMap_cons, List.splitOn_cons_eq_if_modifyHead]
      by_cases ends : c = '\n'
      · subst ends
        rw [if_pos (beq_self_eq_true _), List.map_cons, ← ih]
        exact splitOn_append_newline List.not_mem_nil _
      · have absent := mt newline_mem_utf8EncodeChar.mp ends
        rw [if_neg (by simpa using ends), splitOn_append_of_not_mem absent, ih]
        cases rest.splitOn '\n' <;> rfl

theorem count_flatMap_utf8EncodeChar (cs : List Char) :
    (cs.flatMap String.utf8EncodeChar).count newline = cs.count '\n' := by
  induction cs with
  | nil => rfl
  | cons c rest ih =>
      rw [List.flatMap_cons, List.count_append, ih]
      by_cases ends : c = '\n'
      · subst ends
        rw [List.count_cons_self, Nat.add_comm]
        rfl
      · rw [List.count_eq_zero.mpr (mt newline_mem_utf8EncodeChar.mp ends),
          List.count_cons_of_ne ends, Nat.zero_add]

/-- A line begins with a `y` in either case. -/
def beginsYes (line : List Char) : Bool := line.head? == some 'y' || line.head? == some 'Y'

/-- Line `n` of a text, counted from 0, is there and begins with a `y` in
either case. -/
def saysYes (text : String) (n : Nat) : Bool := ((text.toList.splitOn '\n')[n]?).any beginsYes

/-- A line of characters is a text, and a yes or a no. -/
theorem answerOf_flatMap_utf8EncodeChar (line : List Char) :
    answerOf (line.flatMap String.utf8EncodeChar) = .ok (beginsYes line) := by
  have isText : isText (line.flatMap String.utf8EncodeChar) = true :=
    ByteArray.validateUTF8_eq_true_iff.mpr
      (.intro line (ByteArray.ext (by simp [List.utf8Encode])))
  have first : ∀ d : Char, IsAscii d →
      ((line.flatMap String.utf8EncodeChar).head? == some (codeOf d)) = (line.head? == some d) := by
    intro d ascii
    rw [Bool.eq_iff_iff, beq_iff_eq, beq_iff_eq]
    exact Hex.head?_flatMap_utf8EncodeChar line ascii
  unfold answerOf
  rw [if_pos isText]
  exact congrArg₂ (fun small capital => Except.ok (small || capital)) (first 'y' (by decide))
    (first 'Y' (by decide))

/-- The answer that line `n` of a text is. -/
theorem answerOf_lineAt_textBytes (text : String) (n : Nat) :
    answerOf (lineAt (textBytes text) n) = .ok (saysYes text n) := by
  unfold lineAt saysYes
  rw [Hex.textBytes_eq, splitOn_flatMap_utf8EncodeChar, List.getElem?_map]
  cases (text.toList.splitOn '\n')[n]? with
  | none => rfl
  | some line => exact answerOf_flatMap_utf8EncodeChar line

/-- Of a text on a standard input that fails, the lines that end before the
failure are answers. -/
theorem Operator.reply_failing_textBytes (text : String) (fault : StreamFault) (n : Nat) :
    (failing (textBytes text) fault).reply n =
      if n < text.toList.count '\n' then .ok (saysYes text n) else .error (.stream fault) := by
  rw [reply_failing, answerOf_lineAt_textBytes, Hex.textBytes_eq, count_flatMap_utf8EncodeChar]

/-! ## §5. Main statement. -/

/-- **Each question that is asked is answered by its own line.**  Whatever
flags, variant and text: exactly the questions left open are asked, in order,
line `n` of the text answers question `n`, and each toggle is its flag or the
answer to its own question.  The first line that cannot be read ends the
asking with its error, and there is no policy; so it is on a standard input
that fails with fewer lines than questions before the failure. -/
theorem resolve_asks_in_order (arguments : Arguments) (variant : Variant) (asked : List Toggle) :
    (∀ text : String, ∃ policy rest,
      (Prompter.mk (.typed (textBytes text)) asked).resolve arguments variant =
        (.ok policy, ⟨.typed rest, asked ++ questions arguments variant⟩) ∧
      ∀ toggle : Toggle, toggle.isIn policy = (toggle.opened arguments ||
        ((questions arguments variant).idxOf? toggle).any (saysYes text))) ∧
    (∀ (operator : Operator) (n : Nat) (error : Error), n < (questions arguments variant).length →
      (∀ i < n, ∃ answer, operator.reply i = .ok answer) → operator.reply n = .error error →
        (Prompter.mk operator asked).resolve arguments variant = (.error error,
          ⟨operator.after (n + 1), asked ++ (questions arguments variant).take (n + 1)⟩)) ∧
    ∀ (text : String) (fault : StreamFault),
      text.toList.count '\n' < (questions arguments variant).length →
        ∃ rest, (Prompter.mk (.failing (textBytes text) fault) asked).resolve arguments variant =
          (.error (.stream fault),
            ⟨rest, asked ++ (questions arguments variant).take (text.toList.count '\n' + 1)⟩) := by
  unfold Prompter.resolve
  rw [filter_isOpen]
  refine ⟨?_, ?_, ?_⟩
  · intro text
    have replied : ∀ i < (questions arguments variant).length,
        (Operator.typed (textBytes text)).reply i = .ok (saysYes text i) := by
      intro i _
      rw [Operator.reply_typed, answerOf_lineAt_textBytes]
    obtain ⟨policy, run, values⟩ :=
      Prompter.askEach_ok (nodup_questions arguments variant) replied arguments.policy asked
    obtain ⟨rest, still⟩ :=
      Operator.after_typed (textBytes text) (questions arguments variant).length
    refine ⟨policy, rest, still ▸ run, fun toggle => ?_⟩
    rw [values, Toggle.isIn_policy]
    cases place : (questions arguments variant).idxOf? toggle with
    | none => exact (Bool.or_false _).symm
    | some i =>
        have member : toggle ∈ questions arguments variant := by
          refine Decidable.byContradiction fun absent => ?_
          rw [List.idxOf?_eq_none_iff.mpr absent] at place
          cases place
        rw [not_opened_of_mem member]
        rfl
  · intro operator n error short before failed
    exact Prompter.askEach_error short before failed arguments.policy asked
  · intro text fault short
    have before : ∀ i < text.toList.count '\n', ∃ answer,
        (Operator.failing (textBytes text) fault).reply i = .ok answer := by
      intro i small
      exact ⟨saysYes text i, by rw [Operator.reply_failing_textBytes, if_pos small]⟩
    have failed : (Operator.failing (textBytes text) fault).reply (text.toList.count '\n') =
        .error (.stream fault) := by
      rw [Operator.reply_failing_textBytes, if_neg (Nat.lt_irrefl _)]
    exact ⟨_, Prompter.askEach_error short before failed arguments.policy asked⟩

/-- Two lines are enough for two questions; a second line that is no text, and
a standard input that fails within it, end the asking there. -/
theorem resolve_asks_in_order_unread :
    let fault := StreamFault.reported "Input/output error (os error 5)"
    (∃ policy rest, (Prompter.mk (.typed (textBytes "no\nYes")) []).resolve
        { Arguments.none with otp := true, dynlock := true } .ntag213 =
          (.ok policy, ⟨.typed rest, [.lock, .uid]⟩) ∧
        Toggle.isIn policy .uid = true ∧ Toggle.isIn policy .lock = false) ∧
      (Prompter.mk (.typed [0x79, 0x0a, 0xff, 0x0a, 0x79]) []).resolve Arguments.none .ntag213 =
        (.error (.stream .invalidText), ⟨.typed [0x79], [.otp, .lock]⟩) ∧
      ∃ rest, (Prompter.mk (.failing (textBytes "y\ny") fault) []).resolve Arguments.none .ntag213 =
        (.error (.stream fault), ⟨rest, [.otp, .lock]⟩) := by
  intro fault
  refine ⟨?_, ?_, ?_⟩
  · obtain ⟨policy, rest, run, values⟩ := (resolve_asks_in_order
      { Arguments.none with otp := true, dynlock := true } .ntag213 []).1 "no\nYes"
    exact ⟨policy, rest, run, (values .uid).trans (by decide), (values .lock).trans (by decide)⟩
  · have before : ∀ i < 1, ∃ answer,
        (Operator.typed [0x79, 0x0a, 0xff, 0x0a, 0x79]).reply i = .ok answer
      | 0, _ => ⟨true, rfl⟩
    exact (resolve_asks_in_order Arguments.none .ntag213 []).2.1 _ 1 _ (by decide) before rfl
  · exact (resolve_asks_in_order Arguments.none .ntag213 []).2.2 "y\ny" fault (by decide)

end Ultralight.CommandLine
