/-
  Ultralight.Proofs.ByteRange
  ───────────────────────────
  **Which byte range some values ask for.**

  The bounds are the values that are positive, in order.  `ofValues?` goes
  through the values one by one, on machine words, and keeps the bounds as it
  meets them.

    • `ofValues_eq` — the first two bounds are the range, a third is a mistake,
    • `scan?_eq` — the same for the rest of the values, whatever bounds are kept
      already; by induction on the rest,
    • `request_takes_first_bounds` — both together, and what is logged.
-/
import Ultralight.CommandLine.ByteRange
import Ultralight.Proofs.DecimalValue

namespace Ultralight.CommandLine.ByteRange

open Text.Decimal (value leading? size? leading_eq_value leading?_eq size?_eq)

/-! ## §1. The bounds among some values. -/

/-- The values that are positive, in order. -/
def bounds (values : List String) : List String := values.filter fun text => 0 < value text

/-- The range from the first bound to the second; what is missing is as
usual. -/
def ofBounds (bounds : List Nat) : ByteRange :=
  ⟨bounds[0]?.getD defaultStart, bounds[1]?.getD defaultStop⟩

theorem filter_isBound (values : List String) : values.filter isBound = bounds values := by
  refine List.filter_congr fun text _ => ?_
  unfold isBound
  rw [leading_eq_value]

/-- The first two bounds are the range; a third is a mistake. -/
theorem ofValues_eq (values : List String) :
    ofValues values = match (bounds values)[2]? with
      | some extra => .error (.usage (.extraByte extra))
      | none => .ok (ofBounds ((bounds values).map fun text => (value text).toNat)) := by
  unfold ofValues
  rw [filter_isBound]
  have read : ∀ text, bound text = (value text).toNat := by
    intro text
    unfold bound
    rw [leading_eq_value]
  rcases bounds values with _ | ⟨start, _ | ⟨stop, _ | ⟨extra, rest⟩⟩⟩
  · rfl
  · show Except.ok (ByteRange.mk (bound start) defaultStop) = _
    rw [read]
    rfl
  · show Except.ok (ByteRange.mk (bound start) (bound stop)) = _
    rw [read, read]
    rfl
  · rfl

/-- A third bound is a mistake, … -/
theorem ofValues_of_extra {values : List String} {extra : String}
    (h : (values.filter isBound)[2]? = some extra) :
    ofValues values = .error (.usage (.extraByte extra)) := by
  rw [filter_isBound] at h
  rw [ofValues_eq, h]

/-- … and up to two bounds are a range. -/
theorem ofValues_of_no_extra {values : List String} (h : (values.filter isBound)[2]? = none) :
    ∃ range, ofValues values = .ok range := by
  rw [filter_isBound] at h
  exact ⟨_, by rw [ofValues_eq, h]⟩

/-! ## §2. Going through the values on machine words. -/

/-- Go through some values with the bounds that were met before them. -/
def scan? : Option UInt64 → Option UInt64 → List String →
    Option (Except Error (Option UInt64 × Option UInt64))
  | start, stop, [] => some (.ok (start, stop))
  | start, stop, text :: rest => do
      let number ← leading? text
      if number ≤ 0 then
        scan? start stop rest
      else
        let size ← size? number
        match start, stop with
        | none, stop => scan? (some size) stop rest
        | some start, none => scan? (some start) (some size) rest
        | some _, some _ => pure (.error (.usage (.extraByte text)))

/-- The byte range that some values ask for, found on machine words. -/
def ofValues? (values : List String) : Option (Except Error ByteRange) :=
  (scan? none none values).map fun outcome => outcome.map fun (start, stop) =>
    ⟨(start.map UInt64.toNat).getD defaultStart, (stop.map UInt64.toNat).getD defaultStop⟩

/-- The bounds among some values, as machine words. -/
def words (values : List String) : List UInt64 :=
  (bounds values).map fun text => UInt64.ofNat (value text).toNat

/-- A value that is no bound is passed over, and a bound is a size. -/
theorem scan?_cons (start stop : Option UInt64) (text : String) (rest : List String) :
    scan? start stop (text :: rest) =
      if 0 < value text then
        match start, stop with
        | none, stop => scan? (some (UInt64.ofNat (value text).toNat)) stop rest
        | some start, none => scan? (some start) (some (UInt64.ofNat (value text).toNat)) rest
        | some _, some _ => some (.error (.usage (.extraByte text)))
      else scan? start stop rest := by
  obtain ⟨number, read, exact⟩ := leading?_eq text
  rw [scan?, read, ← exact]
  show (if number ≤ 0 then _ else _) = _
  by_cases positive : 0 < number.toInt
  · obtain ⟨size, fits, whole⟩ := size?_eq (n := number) (by omega)
    have large : ¬ number ≤ 0 := by
      rw [Int64.le_iff_toInt_le, Int64.toInt_zero]
      omega
    rw [if_neg large, if_pos positive, fits, ← whole, UInt64.ofNat_toNat]
    rfl
  · have small : number ≤ 0 := by
      rw [Int64.le_iff_toInt_le, Int64.toInt_zero]
      omega
    rw [if_pos small, if_neg positive]

/-- Whatever bounds are kept, up to two, the rest of the values adds its own
after them, and the third of all is a mistake. -/
theorem scan?_eq (kept : List UInt64) (few : kept.length ≤ 2) (values : List String) :
    scan? kept[0]? kept[1]? values = some (match (bounds values)[2 - kept.length]? with
      | some extra => .error (.usage (.extraByte extra))
      | none => .ok ((kept ++ words values)[0]?, (kept ++ words values)[1]?)) := by
  induction values generalizing kept with
  | nil =>
      show some (Except.ok (kept[0]?, kept[1]?)) = _
      rw [show kept ++ words [] = kept from List.append_nil kept]
      rfl
  | cons text rest ih =>
      rw [scan?_cons]
      by_cases positive : 0 < value text
      · have here : bounds (text :: rest) = text :: bounds rest :=
          List.filter_cons_of_pos (by simpa using positive)
        have first : words (text :: rest) = UInt64.ofNat (value text).toNat :: words rest := by
          unfold words
          rw [here, List.map_cons]
        rw [if_pos positive, here, first]
        -- none, one or two bounds are kept before this one
        rcases kept with _ | ⟨start, _ | ⟨stop, _ | ⟨_, _⟩⟩⟩
        · exact ih [_] (by simp)
        · exact ih [start, _] (by simp)
        · rfl
        · simp only [List.length_cons] at few
          omega
      · have here : bounds (text :: rest) = bounds rest :=
          List.filter_cons_of_neg (by simpa using positive)
        have rest' : words (text :: rest) = words rest := by
          unfold words
          rw [here]
        rw [if_neg positive, here, rest']
        exact ih kept few

/-- No bound is too large for its word. -/
theorem toNat_word (text : String) :
    (UInt64.ofNat (value text).toNat).toNat = (value text).toNat := by
  obtain ⟨number, -, exact⟩ := leading?_eq text
  have small := number.toInt_lt
  exact UInt64.toNat_ofNat_of_lt' (by show _ < 2 ^ 64; omega)

/-- On machine words the same range is found. -/
theorem ofValues?_eq (values : List String) : ofValues? values = some (ofValues values) := by
  have scanned := scan?_eq [] (by simp) values
  unfold ofValues?
  rw [ofValues_eq, show scan? none none values = _ from scanned]
  have sizes : ∀ i : Nat, (words values)[i]?.map UInt64.toNat =
      ((bounds values).map fun text => (value text).toNat)[i]? := by
    intro i
    unfold words
    rw [List.getElem?_map, List.getElem?_map, Option.map_map]
    exact congrArg (fun size => Option.map size _) (funext toNat_word)
  show some (Except.map _ (match (bounds values)[2]? with | some _ => _ | none => _)) = _
  cases (bounds values)[2]? with
  | some extra => rfl
  | none =>
      unfold ofBounds
      rw [← sizes, ← sizes]
      rfl

/-! ## §3. Main statement. -/

/-- **The first two positive values are the range.**  Values that are not
positive are passed over wherever they stand, a third positive one is a
mistake and is named, and a range that holds no byte is logged, once, and no
other.  Reading the values and going through them on machine words never
leaves a word. -/
theorem request_takes_first_bounds {σ : Type} [Reader σ] (values : List String) (reader : σ) :
    let positive := values.filter fun text => 0 < value text
    let start := (positive[0]?.map fun text => (value text).toNat).getD 28
    let stop := (positive[1]?.map fun text => (value text).toNat).getD 45
    ((request values).hold reader =
      match positive[2]? with
      | some extra => ⟨.error (.usage (.extraByte extra)), reader, []⟩
      | none => ⟨.ok ⟨start, stop⟩, reader,
          if stop ≤ start then [.notice (.rangeReversed start stop)] else []⟩) ∧
      ofValues? values = some (ofValues values) ∧
      ∀ text, ∃ word, leading? text = some word ∧ word.toInt = value text := by
  intro positive start stop
  refine ⟨?_, ofValues?_eq values, leading?_eq⟩
  have range : ofBounds ((bounds values).map fun text => (value text).toNat) = ⟨start, stop⟩ := by
    unfold ofBounds
    rw [List.getElem?_map, List.getElem?_map]
    rfl
  unfold request
  rw [ofValues_eq, range]
  show Talk.hold (Talk.ofExcept (match positive[2]? with | some _ => _ | none => _) >>= _) _ = _
  cases positive[2]? with
  | some extra => rfl
  | none =>
      rw [Talk.hold_bind]
      dsimp only [Talk.hold_ofExcept]
      by_cases reversed : stop ≤ start
      · rw [if_pos reversed, if_pos reversed]
        rfl
      · rw [if_neg reversed, if_neg reversed]
        rfl

/-- Words that begin with no number, and zero, are passed over. -/
example : ofValues ["abc", "0", "12x", "-7", "40"] = .ok ⟨12, 40⟩ := by rfl

end Ultralight.CommandLine.ByteRange
