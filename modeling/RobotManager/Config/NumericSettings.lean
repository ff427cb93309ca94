import RobotManager.Config.FailClosed
import RobotManager.Library.NumberGrammar

/-!
# Which texts are numbers

The readers of numeric settings accept white space, a number and, behind a NUL, anything: `strtol`
and `strtod` skip white space in front of a number, and the check that nothing follows it looks at a
C string, which ends at the first NUL of the setting.
-/

namespace RobotManager

open Checked NumberText

/-! ### Accepted texts -/

/-- An integer in the range of `int`. -/
def IntText (text : List Char) (number : ℤ) : Prop :=
  IntegerText text number ∧ -2 ^ 31 ≤ number ∧ number ≤ 2 ^ 31 - 1

theorem plainTexts_intText : PlainTexts IntText := fun integer => integer.1.plain

theorem plainTexts_doubleText : PlainTexts DoubleText := DoubleText.plain

section Readers

variable {document : ConfigDocument} {key text : String}

theorem parseInt_iff_around {number : ℤ} (found : document.scalars.lookup key = some text) :
    parseInt document key = .ok number ↔
      ∃ spaces tail, Around IntText spaces tail text.toList number := by
  rw [exists_around_iff plainTexts_intText, IntText, parseInt, bind_eq_ok_iff]
  have whole := @strtol_whole_iff (cString text.toList) number
  constructor
  · rintro ⟨value, required, read⟩
    rw [requiredScalar_eq_ok_iff, found, Option.some.injEq] at required
    rcases required with ⟨rfl, _⟩
    dsimp only at read
    split at read
    · cases read
    · next accepted =>
      simp only [not_or, not_not, not_lt, Bool.not_eq_true] at accepted
      rcases accepted with ⟨inRange, reads, ends, low, high⟩
      have value := Except.ok.inj read
      rw [value] at low high
      exact ⟨(whole.mp ⟨ends, reads, inRange, value⟩).1, low, high⟩
  · rintro ⟨integer, low, high⟩
    rcases whole.mpr ⟨integer, by omega, by omega⟩ with ⟨ends, reads, inRange, value⟩
    refine ⟨text, requiredScalar_eq_ok_iff.mpr ⟨found, ?_⟩, ?_⟩
    · rintro rfl
      exact reads ends
    · dsimp only
      rw [if_neg, value]
      simp only [not_or, not_not, not_lt, Bool.not_eq_true, value]
      exact ⟨inRange, reads, ends, low, high⟩

theorem parseIntScalar_iff_around {number : ℤ} :
    parseIntScalar text key = .ok number ↔
      ∃ spaces tail, Around IntText spaces tail text.toList number :=
  parseInt_iff_around (AList.lookup_insert _)

theorem parseDouble_iff_around {text : List Char} {value : Double} :
    parseDouble text key = .ok value ↔ ∃ spaces tail, Around DoubleText spaces tail text value := by
  rw [exists_around_iff plainTexts_doubleText, parseDouble, ← strtod_whole_iff]
  split
  · next refused =>
    refine iff_of_false (by simp) ?_
    rintro ⟨ends, reads, inRange, finite, _⟩
    rcases refused with failed | failed | failed | failed
    · cases inRange.symm.trans failed
    · exact reads failed
    · exact failed ends
    · cases finite.symm.trans failed
  · next accepted =>
    simp only [not_or, not_not, Bool.not_eq_true, Bool.not_eq_false] at accepted
    rcases accepted with ⟨inRange, reads, ends, finite⟩
    simp only [Except.ok.injEq]
    constructor
    · rintro rfl
      exact ⟨ends, reads, inRange, finite, rfl⟩
    · rintro ⟨_, _, _, _, same⟩
      exact same

/-- The two sides of the first colon. -/
theorem split_at_colon_iff {text lower upper : List Char} :
    (text.takeWhile (fun symbol => symbol ≠ ':') = lower ∧
        text.dropWhile (fun symbol => symbol ≠ ':') = ':' :: upper) ↔
      text = lower ++ ':' :: upper ∧ ':' ∉ lower := by
  constructor
  · rintro ⟨rfl, after⟩
    refine ⟨?_, fun mem => ?_⟩
    · rw [← after, List.takeWhile_append_dropWhile]
    · simpa using List.mem_takeWhile_imp mem
  · rintro ⟨rfl, before⟩
    have passed : ∀ symbol ∈ lower, decide (symbol ≠ ':') = true := by
      intro symbol mem
      apply decide_eq_true
      rintro rfl
      exact before mem
    rw [List.takeWhile_append_of_pos passed, List.dropWhile_append_of_pos passed]
    simp

theorem parseRange_eq_ok_iff {limit : JointLimit} :
    parseRange text key = .ok limit ↔
      ∃ lower upper, text.toList = lower ++ ':' :: upper ∧ ':' ∉ lower ∧ ':' ∉ upper ∧
        parseDouble lower key = .ok limit.minimumDeg ∧
        parseDouble upper key = .ok limit.maximumDeg ∧ ¬limit.maximumDeg ≤ limit.minimumDeg := by
  unfold parseRange
  constructor
  · intro parsed
    split at parsed
    · cases parsed
    · next first upper after =>
      have colon : first = ':' := by
        have stopped := List.head?_dropWhile_not (fun symbol => decide (symbol ≠ ':')) text.toList
        rw [after] at stopped
        simpa using stopped
      rw [colon] at after
      split at parsed
      · cases parsed
      · next single =>
        rcases bind_eq_ok_iff.mp parsed with ⟨minimum, lowerParsed, rest⟩
        rcases bind_eq_ok_iff.mp rest with ⟨maximum, upperParsed, ordered⟩
        rcases split_at_colon_iff.mp ⟨rfl, after⟩ with ⟨split, before⟩
        split at ordered
        · cases ordered
        · next notLe =>
          cases ordered
          exact ⟨_, _, split, before, single, lowerParsed, upperParsed, notLe⟩
  · rintro ⟨lower, upper, split, before, single, lowerParsed, upperParsed, notLe⟩
    rcases split_at_colon_iff.mpr ⟨split, before⟩ with ⟨sameLower, after⟩
    rw [after, sameLower]
    dsimp only
    rw [if_neg single, bind_eq_ok_iff]
    refine ⟨_, lowerParsed, bind_eq_ok_iff.mpr ⟨_, upperParsed, ?_⟩⟩
    rw [if_neg notLe]

/-! ### Whole texts -/

/-- A reader that accepts the strings around a number reads numbers whole except in the strings to
which something else belongs. -/
theorem reads_whole_iff {Value : Type} {grammar : List Char → Value → Prop} {text : List Char}
    {read : StatusOr Value} (plain : PlainTexts grammar)
    (accepts : ∀ value, read = .ok value ↔ ∃ spaces tail, Around grammar spaces tail text value)
    (spaceCounts : Bool) :
    (∀ value, read = .ok value → WholeText spaceCounts grammar text value) ↔
      ¬∃ value, PartText spaceCounts grammar text value := by
  constructor
  · rintro whole ⟨value, part⟩
    rcases part with ⟨spaces, tail, around, more⟩
    exact (whole value ((accepts value).mpr ⟨spaces, tail, around⟩)).not_partText plain value
      ⟨spaces, tail, around, more⟩
  · intro noPart value accepted
    rcases (accepts value).mp accepted with ⟨spaces, tail, around⟩
    rcases wholeText_or_partText around with whole | part
    · exact whole
    · exact absurd ⟨value, part⟩ noPart

/-- Every symbol of the text belongs to one of the bounds or is the colon between them. -/
def WholeRange (spaceCounts : Bool) (text : List Char) (limit : JointLimit) : Prop :=
  ∃ lower upper, text = lower ++ ':' :: upper ∧
    WholeText spaceCounts DoubleText lower limit.minimumDeg ∧
    WholeText spaceCounts DoubleText upper limit.maximumDeg

/-- The text is a range in which some symbol belongs neither to a bound nor between them. -/
def PartRange (spaceCounts : Bool) (text : List Char) (limit : JointLimit) : Prop :=
  ∃ lower upper, text = lower ++ ':' :: upper ∧ ':' ∉ lower ∧ ':' ∉ upper ∧
    (∃ spaces tail, Around DoubleText spaces tail lower limit.minimumDeg) ∧
    (∃ spaces tail, Around DoubleText spaces tail upper limit.maximumDeg) ∧
    ¬limit.maximumDeg ≤ limit.minimumDeg ∧
    (PartText spaceCounts DoubleText lower limit.minimumDeg ∨
      PartText spaceCounts DoubleText upper limit.maximumDeg)

theorem parseRange_whole_iff (spaceCounts : Bool) :
    (∀ limit, parseRange text key = .ok limit → WholeRange spaceCounts text.toList limit) ↔
      ¬∃ limit, PartRange spaceCounts text.toList limit := by
  constructor
  · rintro whole ⟨limit, lower, upper, split, before, single, lowerRead, upperRead, notLe, part⟩
    have accepted : parseRange text key = .ok limit :=
      parseRange_eq_ok_iff.mpr ⟨lower, upper, split, before, single,
        parseDouble_iff_around.mpr lowerRead, parseDouble_iff_around.mpr upperRead, notLe⟩
    rcases whole limit accepted with ⟨first, second, other, firstWhole, secondWhole⟩
    have noColon : ':' ∉ first := fun mem =>
      (firstWhole.symbols plainTexts_doubleText ':' mem).2 rfl
    rcases split_at_colon_iff.mpr ⟨split, before⟩ with ⟨sameLower, sameUpper⟩
    rcases split_at_colon_iff.mpr ⟨other, noColon⟩ with ⟨sameFirst, sameSecond⟩
    obtain rfl : first = lower := sameFirst.symm.trans sameLower
    obtain rfl : second = upper := (List.cons.inj (sameSecond.symm.trans sameUpper)).2
    rcases part with part | part
    · exact firstWhole.not_partText plainTexts_doubleText _ part
    · exact secondWhole.not_partText plainTexts_doubleText _ part
  · intro noPart limit accepted
    rcases parseRange_eq_ok_iff.mp accepted with
      ⟨lower, upper, split, before, single, lowerParsed, upperParsed, notLe⟩
    rw [parseDouble_iff_around] at lowerParsed upperParsed
    rcases lowerParsed with ⟨spaces, tail, lowerAround⟩
    rcases upperParsed with ⟨spaces', tail', upperAround⟩
    have complete : ¬(PartText spaceCounts DoubleText lower limit.minimumDeg ∨
        PartText spaceCounts DoubleText upper limit.maximumDeg) := fun part =>
      noPart ⟨limit, lower, upper, split, before, single, ⟨_, _, lowerAround⟩,
        ⟨_, _, upperAround⟩, notLe, part⟩
    rw [not_or] at complete
    exact ⟨lower, upper, split, (wholeText_or_partText lowerAround).resolve_right complete.1,
      (wholeText_or_partText upperAround).resolve_right complete.2⟩

/-- A setting is read whole, or refused, exactly if it is no number with something else behind a NUL
(or with white space in front of it, where that does not count as part of the number). -/
theorem numeric_settings_whole_iff (found : document.scalars.lookup key = some text)
    (spaceCounts : Bool) :
    ((∀ number, parseInt document key = .ok number →
        WholeText spaceCounts IntText text.toList number) ↔
      ¬∃ number, PartText spaceCounts IntText text.toList number) ∧
    ((∀ number, parseIntScalar text key = .ok number →
        WholeText spaceCounts IntText text.toList number) ↔
      ¬∃ number, PartText spaceCounts IntText text.toList number) ∧
    ((∀ value, parseDouble text.toList key = .ok value →
        WholeText spaceCounts DoubleText text.toList value) ↔
      ¬∃ value, PartText spaceCounts DoubleText text.toList value) ∧
    ((∀ limit, parseRange text key = .ok limit → WholeRange spaceCounts text.toList limit) ↔
      ¬∃ limit, PartRange spaceCounts text.toList limit) :=
  ⟨reads_whole_iff plainTexts_intText (fun _ => parseInt_iff_around found) spaceCounts,
    reads_whole_iff plainTexts_intText (fun _ => parseIntScalar_iff_around) spaceCounts,
    reads_whole_iff plainTexts_doubleText (fun _ => parseDouble_iff_around) spaceCounts,
    parseRange_whole_iff spaceCounts⟩

end Readers

/-- The version of the site's document is read whole. -/
theorem schema_version_whole :
    parseInt er150Document "schema_version" = .ok 1 ∧ IntText "1".toList 1 := by
  have row : Digits 10 (readSign "1".toList).2 :=
    ⟨by decide, List.forall_mem_singleton.mpr (by decide)⟩
  have one : IntegerText "1".toList 1 := integerText_iff.mpr ⟨row, by decide⟩
  have whole : WholeText false IntText "1".toList 1 :=
    wholeText_strict_iff.mpr ⟨one, by decide, by decide⟩
  have noPart : ¬∃ number, PartText false IntText "1".toList number := by
    rintro ⟨other, part⟩
    exact whole.not_partText plainTexts_intText other part
  have found : er150Document.scalars.lookup "schema_version" = some "1" := by decide +kernel
  have read : parseInt er150Document "schema_version" = .ok 1 := by decide +kernel
  exact ⟨read, wholeText_strict_iff.mp
    ((numeric_settings_whole_iff found false).1.mpr noPart 1 read)⟩

/-- The number five with further symbols behind a NUL. -/
def cutNumber : String := "5\x00junk"

/-- A range whose lower bound has further symbols behind a NUL. -/
def cutRange : String := "0\x00junk:1"

/-- What follows a NUL is accepted, although it takes no part in the number. -/
theorem symbols_behind_null_accepted :
    parseInt (er150Document.withScalar "robot.axis_count" cutNumber) "robot.axis_count" = .ok 5 ∧
    parseIntScalar cutNumber "writable output" = .ok 5 ∧
    (∀ number, ¬WholeText true IntText cutNumber.toList number) ∧
    parseDouble cutNumber.toList "limits.joint_limits_deg" = .ok (.finite 5) ∧
    (∀ value, ¬WholeText true DoubleText cutNumber.toList value) ∧
    parseRange cutRange "limits.joint_limits_deg" = .ok ⟨.finite 0, .finite 1⟩ ∧
    ∀ limit, ¬WholeRange true cutRange.toList limit := by
  refine ⟨by decide +kernel, by decide +kernel, fun number whole => ?_, by decide +kernel,
    fun value whole => ?_, by decide +kernel, ?_⟩
  · exact (whole.symbols plainTexts_intText '\x00' (by decide)).1 rfl
  · exact (whole.symbols plainTexts_doubleText '\x00' (by decide)).1 rfl
  · rintro limit ⟨lower, upper, split, lowerWhole, upperWhole⟩
    have present : '\x00' ∈ lower ++ ':' :: upper := split ▸ (by decide)
    rcases List.mem_append.mp present with mem | mem
    · exact (lowerWhole.symbols plainTexts_doubleText _ mem).1 rfl
    rcases List.mem_cons.mp mem with wrong | mem
    · revert wrong
      decide
    · exact (upperWhole.symbols plainTexts_doubleText _ mem).1 rfl

end RobotManager
