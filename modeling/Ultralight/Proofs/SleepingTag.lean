/-
  Ultralight.Proofs.SleepingTag
  ─────────────────────────────
  **When a tag may be addressed again after a failure.**

  A failed command puts a tag to sleep, so the tag is to be selected, or its
  back door opened, before the next command.  `Reselected` says so of a whole
  traffic; `obeys` checks it in one pass (`obeys_false_iff`), with a flag that
  tells whether a failure is pending, and can therefore be cut at any place
  (`obeys_append`).

  `Phase` is the monitor that the parts of a traffic are checked with: it
  starts without knowing whether a failure is pending, and a part that it
  lets pass breaks no rule by itself, while it breaks one after a pending
  failure exactly if it addresses the tag at all (`obeys_of_phases`).
-/
import Mathlib.Tactic.Tauto
import Ultralight.Frame
import Ultralight.Reader

namespace Ultralight

/-! ## §1. The rule. -/

namespace Exchange

/-- READ, WRITE, GET_VERSION or PWD_AUTH: a command for a tag that is awake. -/
def addresses : Exchange → Bool
  | ⟨.read _, _⟩ => true
  | ⟨.write _ _, _⟩ => true
  | ⟨.bytes frame, _⟩ =>
      frame.head? == some Frame.versionCode || frame.head? == some Frame.authCode
  | _ => false

/-- The tag refused, or stayed silent. -/
def refusedByTag : Exchange → Bool
  | ⟨_, .error (.transport _)⟩ => true
  | _ => false

/-- A selection is attempted, if only to list a tag, or the second back door
frame is answered. -/
def revives : Exchange → Bool
  | ⟨.select _, _⟩ => true
  | ⟨.list most, _⟩ => most != 0
  | ⟨.bytes frame, .ok _⟩ => frame == Frame.unlock2
  | _ => false

theorem addresses_of_revives {made : Exchange} (h : made.revives = true) :
    made.addresses = false := by
  rcases made with ⟨request, reply⟩
  cases request with
  | select uid => rfl
  | list most => rfl
  | bytes frame =>
      cases reply with
      | error error => cases h
      | ok answer =>
          have unlock : frame = Frame.unlock2 := by simpa [revives] using h
          subst unlock
          rfl
  | init => cases h
  | setProperty property enable => cases h
  | bits frame count => cases h
  | read page => cases h
  | write page data => cases h

end Exchange

/-- The first command of a traffic, if there is one, comes after a revival. -/
def RevivedFirst (trace : List Exchange) : Prop :=
  ∀ between next after, trace = between ++ next :: after → next.addresses = true →
    (∀ made ∈ between, made.addresses = false) → ∃ made ∈ between, made.revives = true

/-- **After each command that failed**, a revival comes before the next
command. -/
def Reselected (trace : List Exchange) : Prop :=
  ∀ before failed after, trace = before ++ failed :: after → failed.addresses = true →
    failed.refusedByTag = true → RevivedFirst after

/-- A command failed, and no revival came after it. -/
def FailurePending (trace : List Exchange) : Prop :=
  ∃ before failed after, trace = before ++ failed :: after ∧ failed.addresses = true ∧
    failed.refusedByTag = true ∧ ∀ made ∈ after, made.revives = false

variable {first : Exchange} {trace : List Exchange}

theorem revivedFirst_nil : RevivedFirst [] := fun _ _ _ split => by simp at split

theorem revivedFirst_cons :
    RevivedFirst (first :: trace) ↔
      first.addresses = false ∧ (first.revives = true ∨ RevivedFirst trace) := by
  constructor
  · intro h
    have quiet : first.addresses = false := by
      cases haddressed : first.addresses with
      | false => rfl
      | true =>
          obtain ⟨made, hmade, -⟩ := h [] first trace rfl haddressed (by simp)
          cases hmade
    refine ⟨quiet, ?_⟩
    cases hrevives : first.revives with
    | true => exact .inl rfl
    | false =>
        refine .inr fun between next after split addressed silent => ?_
        obtain ⟨made, hmade, revives⟩ := h (first :: between) next after (by rw [split]; rfl)
          addressed (List.forall_mem_cons.mpr ⟨quiet, silent⟩)
        rcases List.mem_cons.mp hmade with rfl | later
        · rw [hrevives] at revives
          cases revives
        · exact ⟨made, later, revives⟩
  · rintro ⟨quiet, h⟩ between next after split addressed silent
    rcases between with _ | ⟨made, between⟩
    · obtain ⟨rfl, -⟩ := List.cons.inj split
      rw [quiet] at addressed
      cases addressed
    · obtain ⟨rfl, later⟩ := List.cons.inj split
      rcases h with revives | h
      · exact ⟨first, List.mem_cons_self, revives⟩
      · obtain ⟨made, hmade, revives⟩ :=
          h between next after later addressed (List.forall_mem_cons.mp silent).2
        exact ⟨made, List.mem_cons_of_mem _ hmade, revives⟩

theorem reselected_nil : Reselected [] := fun _ _ _ split => by simp at split

theorem reselected_cons :
    Reselected (first :: trace) ↔
      (first.addresses = true → first.refusedByTag = true → RevivedFirst trace) ∧
        Reselected trace := by
  constructor
  · intro h
    exact ⟨h [] first trace rfl, fun before failed after split =>
      h (first :: before) failed after (by rw [split]; rfl)⟩
  · rintro ⟨here, later⟩ before failed after split
    rcases before with _ | ⟨made, before⟩
    · obtain ⟨rfl, rfl⟩ := List.cons.inj split
      exact here
    · exact later before failed after (List.cons.inj split).2

theorem not_failurePending_nil : ¬ FailurePending [] := fun ⟨_, _, _, split, _⟩ => by simp at split

theorem failurePending_cons :
    FailurePending (first :: trace) ↔
      (first.addresses = true ∧ first.refusedByTag = true ∧
        ∀ made ∈ trace, made.revives = false) ∨ FailurePending trace := by
  constructor
  · rintro ⟨before, failed, after, split, addressed, refused, silent⟩
    rcases before with _ | ⟨made, before⟩
    · obtain ⟨rfl, rfl⟩ := List.cons.inj split
      exact .inl ⟨addressed, refused, silent⟩
    · exact .inr ⟨before, failed, after, (List.cons.inj split).2, addressed, refused, silent⟩
  · rintro (⟨addressed, refused, silent⟩ | ⟨before, failed, after, split, rest⟩)
    · exact ⟨[], first, trace, rfl, addressed, refused, silent⟩
    · exact ⟨first :: before, failed, after, by rw [split]; rfl, rest⟩

/-! ## §2. Checking the rule in one pass. -/

/-- Whether a failure is pending after one more exchange. -/
def pendingAfter (pending : Bool) (made : Exchange) : Bool :=
  if made.revives then false else (made.addresses && made.refusedByTag) || pending

/-- No command is given while a failure is pending. -/
def obeys (pending : Bool) : List Exchange → Bool
  | [] => true
  | made :: trace => !(pending && made.addresses) && obeys (pendingAfter pending made) trace

theorem obeys_append (pending : Bool) (trace more : List Exchange) :
    obeys pending (trace ++ more) =
      (obeys pending trace && obeys (trace.foldl pendingAfter pending) more) := by
  induction trace generalizing pending with
  | nil => rfl
  | cons made trace ih =>
      show (_ && obeys _ (trace ++ more)) = (_ && obeys _ trace && _)
      rw [ih, Bool.and_assoc]
      rfl

theorem obeys_iff (pending : Bool) (trace : List Exchange) :
    obeys pending trace = true ↔
      Reselected trace ∧ (pending = true → RevivedFirst trace) := by
  induction trace generalizing pending with
  | nil => exact ⟨fun _ => ⟨reselected_nil, fun _ => revivedFirst_nil⟩, fun _ => rfl⟩
  | cons made trace ih =>
      rw [obeys, Bool.and_eq_true, ih, reselected_cons, revivedFirst_cons]
      unfold pendingAfter
      cases hrevives : made.revives with
      | true =>
          -- a revival is no command, and settles what was pending
          have quiet := Exchange.addresses_of_revives hrevives
          simp [quiet]
      | false =>
          cases made.addresses <;> cases made.refusedByTag <;> cases pending <;> simp
          tauto

/-- The check with nothing pending is the rule. -/
theorem obeys_false_iff (trace : List Exchange) : obeys false trace = true ↔ Reselected trace := by
  rw [obeys_iff]
  simp

/-- The flag of the check tells whether a failure is pending. -/
theorem foldl_pendingAfter_iff (pending : Bool) (trace : List Exchange) :
    trace.foldl pendingAfter pending = true ↔
      FailurePending trace ∨ (pending = true ∧ ∀ made ∈ trace, made.revives = false) := by
  induction trace generalizing pending with
  | nil => simp [not_failurePending_nil]
  | cons made trace ih =>
      rw [List.foldl_cons, ih, failurePending_cons, List.forall_mem_cons]
      unfold pendingAfter
      cases hrevives : made.revives with
      | true =>
          have quiet := Exchange.addresses_of_revives hrevives
          simp [quiet]
      | false =>
          cases made.addresses <;> cases made.refusedByTag <;> cases pending <;> simp <;> tauto

/-! ## §3. Parts of a traffic. -/

/-- What a part of a traffic has done so far. -/
inductive Phase where
  /-- No command and no revival. -/
  | untouched
  /-- No failure is pending, after a command. -/
  | awake
  /-- A failure is pending. -/
  | asleep
  /-- A revival before any command: none may follow. -/
  | woken
  deriving DecidableEq, Repr

namespace Phase

/-- The phase after a revival. -/
def revived : Phase → Phase
  | untouched | woken => woken
  | awake | asleep => awake

/-- The tag may be addressed. -/
def Listens (phase : Phase) : Prop := phase = untouched ∨ phase = awake

/-- A command was given last, whatever became of it. -/
def Settled (phase : Phase) : Prop := phase = awake ∨ phase = asleep

/-- The phase after one more exchange, unless the exchange breaks a rule. -/
def step (phase : Phase) (made : Exchange) : Option Phase :=
  if made.revives then some phase.revived
  else if made.addresses then
    match phase with
    | untouched | awake => some (if made.refusedByTag then asleep else awake)
    | asleep | woken => none
  else some phase

theorem step_revival {made : Exchange} (h : made.revives = true) (phase : Phase) :
    phase.step made = some phase.revived := by
  unfold step
  rw [h, if_pos rfl]

theorem step_command {phase : Phase} (listens : phase.Listens) {made : Exchange}
    (command : made.addresses = true) :
    phase.step made = some (if made.refusedByTag then asleep else awake) := by
  have quiet : made.revives = false := by
    cases hrevives : made.revives with
    | false => rfl
    | true => exact absurd (Exchange.addresses_of_revives hrevives) (by simp [command])
  unfold step
  rw [quiet, if_neg Bool.false_ne_true, if_pos command]
  rcases listens with rfl | rfl <;> rfl

/-- Only commands are ever out of place. -/
theorem step_quiet (made : Exchange) (quiet : made.addresses = false) (phase : Phase) :
    ∃ after, phase.step made = some after := by
  unfold step
  rw [quiet]
  cases made.revives with
  | true => exact ⟨phase.revived, rfl⟩
  | false => exact ⟨phase, rfl⟩

/-- What is left to be done after a phase. -/
def Allows : Phase → List Exchange → Prop
  | untouched, trace => obeys false trace = true ∧
      (obeys true trace = true ↔ ∀ made ∈ trace, made.addresses = false)
  | awake, trace => obeys false trace = true
  | asleep, trace => obeys true trace = true
  | woken, trace => obeys false trace = true ∧ ∀ made ∈ trace, made.addresses = false

/-- A traffic that the phases let pass does what its first phase allows. -/
theorem allows_of_foldlM {trace : List Exchange} :
    ∀ {phase last : Phase}, trace.foldlM step phase = some last → phase.Allows trace := by
  induction trace with
  | nil => intro phase last _; cases phase <;> simp [Allows, obeys]
  | cons made trace ih =>
      intro phase last passed
      rw [List.foldlM_cons] at passed
      obtain ⟨next, stepped, passed⟩ := Option.bind_eq_some_iff.mp passed
      have rest : next.Allows trace := ih passed
      clear ih passed
      unfold step at stepped
      cases hrevives : made.revives with
      | true =>
          -- nothing is pending any more, and no command was given
          have quiet := Exchange.addresses_of_revives hrevives
          rw [hrevives, if_pos rfl] at stepped
          cases stepped
          cases phase <;> simp_all [Allows, obeys, revived, pendingAfter]
      | false =>
          rw [hrevives, if_neg Bool.false_ne_true] at stepped
          cases haddresses : made.addresses with
          | true =>
              -- a command, which only a tag that listens may be given
              rw [haddresses, if_pos rfl] at stepped
              cases hrefused : made.refusedByTag <;> rw [hrefused] at stepped <;> cases phase <;>
                cases stepped <;>
                simpa [Allows, obeys, pendingAfter, hrevives, haddresses, hrefused] using rest
          | false =>
              rw [haddresses, if_neg Bool.false_ne_true] at stepped
              cases stepped
              cases phase <;>
                simpa [Allows, obeys, pendingAfter, hrevives, haddresses] using rest

/-- A part that the phases let pass breaks the rule only by addressing the tag
at all, and only after a failure that was pending before it. -/
theorem obeys_of_phases {trace : List Exchange} {last : Phase}
    (passed : trace.foldlM step untouched = some last) (pending : Bool) :
    obeys pending trace = true ↔
      (pending = true → ∀ made ∈ trace, made.addresses = false) := by
  obtain ⟨fresh, after_failure⟩ := allows_of_foldlM passed
  cases pending with
  | false => simpa using fresh
  | true => simpa using after_failure

end Phase

end Ultralight
