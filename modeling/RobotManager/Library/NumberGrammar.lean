import RobotManager.Library.NumberText
import Mathlib.Data.List.TakeWhile

/-!
# The texts of numbers

A grammar of the finite numbers that `strtol` and `strtod` read, with the value of each text.  A
reader leaves nothing of a string, and reports no range error, exactly if the string is white space
followed by a text of the grammar.
-/

namespace NumberText

/-! ### Grammar -/

inductive SignText : List Char → Bool → Prop where
  | absent : SignText [] false
  | plus : SignText ['+'] false
  | minus : SignText ['-'] true

/-- A row of digits, at least one. -/
structure Digits (base : ℕ) (text : List Char) : Prop where
  nonempty : text ≠ []
  all : ∀ symbol ∈ text, isDigit base symbol = true

/-- A decimal integer. -/
inductive IntegerText : List Char → ℤ → Prop where
  | intro {sign digits : List Char} {negative : Bool} (signed : SignText sign negative)
      (row : Digits 10 digits) :
      IntegerText (sign ++ digits)
        (if negative then -(numeral 10 digits : ℤ) else numeral 10 digits)

/-- Digits with an optional point: their number without the point and how many follow it. -/
inductive SignificandText (base : ℕ) : List Char → ℕ → ℕ → Prop where
  | whole {digits : List Char} (row : Digits base digits) :
      SignificandText base digits (numeral base digits) 0
  | pointed {whole fraction : List Char} (row : Digits base (whole ++ fraction)) :
      SignificandText base (whole ++ '.' :: fraction) (numeral base (whole ++ fraction))
        fraction.length

inductive ExponentText (marker : Char) : List Char → ℤ → Prop where
  | absent : ExponentText marker [] 0
  | given {mark : Char} {text : List Char} {exponent : ℤ} (marked : mark.toLower = marker)
      (number : IntegerText text exponent) : ExponentText marker (mark :: text) exponent

/-- A significand with an exponent by which a factor scales it. -/
inductive ScaledText (base factor steps : ℕ) (marker : Char) : List Char → ℚ → Prop where
  | intro {significand power : List Char} {number places : ℕ} {exponent : ℤ}
      (digits : SignificandText base significand number places)
      (scale : ExponentText marker power exponent) :
      ScaledText base factor steps marker (significand ++ power)
        (scaled number factor (exponent - steps * places))

/-- A decimal or hexadecimal number without a sign. -/
inductive MagnitudeText : List Char → ℚ → Prop where
  | decimal {text : List Char} {number : ℚ} (digits : ScaledText 10 10 1 'e' text number) :
      MagnitudeText text number
  | hexadecimal {mark : Char} {text : List Char} {number : ℚ} (marked : mark.toLower = 'x')
      (digits : ScaledText 16 2 4 'p' text number) : MagnitudeText ('0' :: mark :: text) number

/-- A number whose rounding is in the range of the doubles. -/
inductive DoubleText : List Char → Double → Prop where
  | intro {sign text : List Char} {negative : Bool} {number : ℚ} {value : Double}
      (signed : SignText sign negative) (magnitude : MagnitudeText text number)
      (rounded : toDouble number = (value, false)) :
      DoubleText (sign ++ text) (if negative then value.neg else value)

/-! ### Symbols -/

section Symbols

variable {base : ℕ} {symbol : Char}

theorem digitValue_of_isDigit (digit : isDigit base symbol = true) :
    ∃ value, digitValue symbol = some value ∧ value < base := by
  unfold isDigit at digit
  rcases (Option.any_eq_true _ _).mp digit with ⟨value, found, below⟩
  exact ⟨value, found, of_decide_eq_true below⟩

theorem ne_of_isDigit {other : Char} (digit : isDigit base symbol = true)
    (none : digitValue other = none) : symbol ≠ other := by
  rintro rfl
  rcases digitValue_of_isDigit digit with ⟨value, found, _⟩
  cases none.symm.trans found

theorem isDigit_decimal (digit : isDigit 10 symbol = true) : symbol.isDigit = true := by
  rcases digitValue_of_isDigit digit with ⟨value, found, below⟩
  unfold digitValue at found
  split at found
  · assumption
  · split at found
    · next letter =>
      cases found
      have low : 'a'.toNat ≤ symbol.toLower.toNat := letter.1
      have code : 'a'.toNat = 97 := rfl
      omega
    · cases found

theorem isDigit_letter (digit : isDigit base symbol = true) :
    symbol.isDigit = true ∨ symbol.toLower ≤ 'f' := by
  rcases digitValue_of_isDigit digit with ⟨value, found, below⟩
  unfold digitValue at found
  split at found
  · exact Or.inl ‹_›
  · split at found
    · next letter => exact Or.inr letter.2
    · cases found

theorem toLower_of_isDigit (digit : symbol.isDigit = true) : symbol.toLower = symbol := by
  rcases Char.isDigit_iff_toNat.mp digit with ⟨_, high⟩
  unfold Char.toLower
  split
  · next upper =>
    have low : 'A'.toNat ≤ symbol.toNat := upper.1
    have first : 'A'.toNat = 65 := rfl
    have last : '9'.toNat = 57 := rfl
    omega
  · rfl

theorem isDigit_of_toLower (letter : symbol.toLower.isDigit = false) : symbol.isDigit = false := by
  by_contra digit
  rw [toLower_of_isDigit (eq_true_of_ne_false digit)] at letter
  exact digit letter

/-- A symbol whose small form is no digit is no decimal digit. -/
theorem isDigit_decimal_of_toLower (letter : symbol.toLower.isDigit = false) :
    isDigit 10 symbol = false := by
  by_contra digit
  have decimal := isDigit_decimal (eq_true_of_ne_false digit)
  rw [isDigit_of_toLower letter] at decimal
  cases decimal

/-- Only letters become small letters. -/
theorem le_toNat_of_toLower (small : 97 ≤ symbol.toLower.toNat) : 65 ≤ symbol.toNat := by
  unfold Char.toLower at small
  split at small
  · next upper => exact upper.1
  · omega

/-- The symbol is neither white space nor NUL nor a colon. -/
def Plain (symbol : Char) : Prop :=
  isSpace symbol = false ∧ symbol ≠ '\x00' ∧ symbol ≠ ':'

theorem plain_of_code (visible : 33 ≤ symbol.toNat) (noColon : symbol.toNat ≠ 58) :
    Plain symbol := by
  refine ⟨?_, ?_, ?_⟩
  · have noSpace : symbol ≠ ' ' := by
      rintro rfl
      revert visible
      decide
    simp only [isSpace, Bool.or_eq_false_iff, beq_eq_false_iff_ne, Bool.and_eq_false_iff,
      decide_eq_false_iff_not]
    exact ⟨noSpace, Or.inr (by omega)⟩
  · rintro rfl
    revert visible
    decide
  · rintro rfl
    exact noColon rfl

theorem plain_of_toLower (small : 97 ≤ symbol.toLower.toNat) : Plain symbol := by
  have code := le_toNat_of_toLower small
  exact plain_of_code (by omega) (by omega)

theorem plain_of_isDigit (digit : isDigit base symbol = true) : Plain symbol := by
  rcases digitValue_of_isDigit digit with ⟨value, found, _⟩
  unfold digitValue at found
  split at found
  · next decimal =>
    rcases Char.isDigit_iff_toNat.mp decimal with ⟨low, high⟩
    have first : '0'.toNat = 48 := rfl
    have last : '9'.toNat = 57 := rfl
    exact plain_of_code (by omega) (by omega)
  · split at found
    · next letter => exact plain_of_toLower letter.1
    · cases found

end Symbols

/-! ### Integers -/

/-- The number that a sign and a row of digits stand for. -/
def signedNumeral (signed : Bool × List Char) : ℤ :=
  if signed.1 then -(numeral 10 signed.2 : ℤ) else numeral 10 signed.2

theorem Digits.takeWhile_append {base : ℕ} {digits rest : List Char} (row : Digits base digits)
    (stops : rest.takeWhile (isDigit base) = []) :
    (digits ++ rest).takeWhile (isDigit base) = digits := by
  rw [List.takeWhile_append_of_pos row.all, stops, List.append_nil]

theorem digits_iff {base : ℕ} {text : List Char} :
    Digits base text ↔
      text.takeWhile (isDigit base) ≠ [] ∧ text.dropWhile (isDigit base) = [] := by
  constructor
  · intro row
    rw [List.takeWhile_eq_self_iff.mpr row.all, List.dropWhile_eq_nil_iff.mpr row.all]
    exact ⟨row.nonempty, rfl⟩
  · rintro ⟨some, nothing⟩
    have all := List.dropWhile_eq_nil_iff.mp nothing
    rw [List.takeWhile_eq_self_iff.mpr all] at some
    exact ⟨some, all⟩

theorem readSign_append {sign rest : List Char} {negative : Bool} (signed : SignText sign negative)
    (unsigned : ∀ symbol ∈ rest.head?, symbol ≠ '-' ∧ symbol ≠ '+') :
    readSign (sign ++ rest) = (negative, rest) := by
  cases signed with
  | plus | minus => rfl
  | absent =>
      cases rest with
      | nil => rfl
      | cons symbol rest =>
          rcases unsigned symbol rfl with ⟨noMinus, noPlus⟩
          rw [List.nil_append, readSign]
          · rintro _ ⟨⟩
            exact noMinus rfl
          · rintro _ ⟨⟩
            exact noPlus rfl

theorem exists_sign_of_readSign (text : List Char) :
    ∃ sign, SignText sign (readSign text).1 ∧ text = sign ++ (readSign text).2 := by
  unfold readSign
  split
  · exact ⟨_, .minus, rfl⟩
  · exact ⟨_, .plus, rfl⟩
  · exact ⟨_, .absent, rfl⟩

theorem Digits.readSign_append {base : ℕ} {sign digits : List Char} {negative : Bool}
    (row : Digits base digits) (signed : SignText sign negative) :
    readSign (sign ++ digits) = (negative, digits) := by
  apply NumberText.readSign_append signed
  intro symbol first
  have digit := row.all symbol (List.mem_of_mem_head? first)
  exact ⟨ne_of_isDigit digit (by decide), ne_of_isDigit digit (by decide)⟩

theorem integerText_iff {text : List Char} {number : ℤ} :
    IntegerText text number ↔
      Digits 10 (readSign text).2 ∧ signedNumeral (readSign text) = number := by
  constructor
  · rintro ⟨signed, row⟩
    rw [row.readSign_append signed]
    exact ⟨row, rfl⟩
  · rintro ⟨row, rfl⟩
    rcases exists_sign_of_readSign text with ⟨sign, signed, split⟩
    have whole := IntegerText.intro signed row
    rw [← split] at whole
    exact whole

/-- `strtol` leaves what follows the digits, or everything if there are none. -/
theorem strtol_rest (text : List Char) :
    (strtol text).rest = text ∨
      (strtol text).rest = (readSign (text.dropWhile isSpace)).2.dropWhile (isDigit 10) := by
  unfold strtol
  generalize readSign (text.dropWhile isSpace) = signed
  dsimp only
  split
  · exact Or.inl rfl
  · right
    repeat' split
    all_goals rfl

/-- `strtol` reads the whole string without an error exactly if it is white space and an integer
in the range of `long`. -/
theorem strtol_whole_iff {text : List Char} {number : ℤ} :
    ((strtol text).rest = [] ∧ (strtol text).rest ≠ text ∧ (strtol text).rangeError = false ∧
        (strtol text).value = number) ↔
      IntegerText (text.dropWhile isSpace) number ∧ -2 ^ 63 ≤ number ∧ number < 2 ^ 63 := by
  rw [integerText_iff, digits_iff]
  by_cases nothing : (readSign (text.dropWhile isSpace)).2.dropWhile (isDigit 10) = []
  · unfold strtol
    generalize split : readSign (text.dropWhile isSpace) = signed at nothing ⊢
    rcases signed with ⟨negative, unsigned⟩
    dsimp only at nothing ⊢
    have all : unsigned.takeWhile (isDigit 10) = unsigned :=
      List.takeWhile_eq_self_iff.mpr (List.dropWhile_eq_nil_iff.mp nothing)
    have value : (if negative then -(numeral 10 unsigned : ℤ) else numeral 10 unsigned) =
        signedNumeral (negative, unsigned) := rfl
    rw [all, nothing, value]
    cases unsigned with
    | nil => simp
    | cons first digits =>
        have given : ([] : List Char) ≠ text := by
          rintro rfl
          cases split
        rw [List.isEmpty_cons, if_neg Bool.false_ne_true]
        split
        · simp
          omega
        split
        · simp
          omega
        · simp [given]
          omega
  · refine iff_of_false ?_ fun whole => nothing whole.1.1.2
    rintro ⟨ends, reads, _⟩
    rcases strtol_rest text with same | same
    · exact reads same
    · exact nothing (same ▸ ends)

/-! ### Scaled numbers -/

section Scaled

variable {base factor steps : ℕ} {marker : Char}

/-- The text begins with no symbol that a significand could contain. -/
def Stops (base : ℕ) (text : List Char) : Prop :=
  ∀ symbol ∈ text.head?, isDigit base symbol = false ∧ symbol ≠ '.'

theorem takeWhile_isDigit_eq_nil {text : List Char}
    (stops : ∀ symbol ∈ text.head?, isDigit base symbol = false) :
    text.takeWhile (isDigit base) = [] ∧ text.dropWhile (isDigit base) = text := by
  cases text with
  | nil => exact ⟨rfl, rfl⟩
  | cons symbol text =>
      have noDigit := stops symbol rfl
      simp [noDigit]

theorem isDigit_point : isDigit base '.' = false := rfl

theorem readSignificand_sound {text rest : List Char} {number places : ℕ}
    (read : readSignificand base text = some (number, places, rest)) :
    ∃ digits, text = digits ++ rest ∧ SignificandText base digits number places := by
  have parts : text.takeWhile (isDigit base) ++ text.dropWhile (isDigit base) = text :=
    List.takeWhile_append_dropWhile
  have wholeDigits : ∀ symbol ∈ text.takeWhile (isDigit base), isDigit base symbol = true :=
    fun _ mem => List.mem_takeWhile_imp mem
  unfold readSignificand at read
  dsimp only at read
  split at read
  · next tail pointed =>
    have tailParts : tail.takeWhile (isDigit base) ++ tail.dropWhile (isDigit base) = tail :=
      List.takeWhile_append_dropWhile
    split at read
    · cases read
    · next some =>
      cases read
      refine ⟨text.takeWhile (isDigit base) ++ '.' :: tail.takeWhile (isDigit base), ?_,
        .pointed ?_⟩
      · rw [List.append_assoc, List.cons_append, tailParts, ← pointed, parts]
      · refine ⟨fun empty => some ?_, fun symbol mem => ?_⟩
        · rcases List.append_eq_nil_iff.mp empty with ⟨noWhole, noFraction⟩
          simp [noWhole, noFraction]
        · rcases List.mem_append.mp mem with mem | mem
          · exact wholeDigits symbol mem
          · exact List.mem_takeWhile_imp mem
  · split at read
    · cases read
    · next some =>
      cases read
      refine ⟨_, parts.symm, .whole ⟨fun empty => some ?_, wholeDigits⟩⟩
      simp [empty]

theorem readSignificand_complete {digits rest : List Char} {number places : ℕ}
    (significand : SignificandText base digits number places) (stops : Stops base rest) :
    readSignificand base (digits ++ rest) = some (number, places, rest) := by
  rcases takeWhile_isDigit_eq_nil fun symbol first => (stops symbol first).1 with ⟨noDigits, same⟩
  unfold readSignificand
  cases significand with
  | whole row =>
      rw [row.takeWhile_append noDigits, List.dropWhile_append_of_pos row.all, same]
      have given : digits.isEmpty = false := by simpa using row.nonempty
      split
      · exact absurd rfl (stops '.' rfl).2
      · dsimp only
        rw [given, if_neg Bool.false_ne_true]
  | @pointed whole fraction row =>
      have wholeDigits : ∀ symbol ∈ whole, isDigit base symbol = true :=
        fun symbol mem => row.all symbol (List.mem_append_left _ mem)
      have fractionDigits : ∀ symbol ∈ fraction, isDigit base symbol = true :=
        fun symbol mem => row.all symbol (List.mem_append_right _ mem)
      have some : (whole.isEmpty && fraction.isEmpty) = false := by
        have given := row.nonempty
        cases whole <;> cases fraction <;> simp at given ⊢
      rw [List.append_assoc, List.cons_append, List.takeWhile_append_of_pos wholeDigits,
        List.dropWhile_append_of_pos wholeDigits]
      simp only [List.takeWhile_cons, List.dropWhile_cons, isDigit_point, Bool.false_eq_true,
        if_false, List.append_nil]
      rw [List.takeWhile_append_of_pos fractionDigits, noDigits, List.append_nil, some,
        List.dropWhile_append_of_pos fractionDigits, same]
      rfl

theorem readExponent_iff {text : List Char} {exponent : ℤ} :
    readExponent marker text = (exponent, []) ↔ ExponentText marker text exponent := by
  constructor
  · intro read
    cases text with
    | nil =>
        cases read
        exact .absent
    | cons mark text =>
        rw [readExponent] at read
        dsimp only at read
        split at read
        · cases read
        · next accepted =>
          rw [not_or, not_not] at accepted
          rcases Prod.mk.inj read with ⟨value, nothing⟩
          have row := digits_iff.mpr ⟨by simpa using accepted.2, nothing⟩
          rw [List.takeWhile_eq_self_iff.mpr row.all] at value
          exact .given accepted.1 (integerText_iff.mpr ⟨row, value⟩)
  · intro power
    cases power with
    | absent => rfl
    | given marked integer =>
        rcases integerText_iff.mp integer with ⟨row, rfl⟩
        have given := row.nonempty
        rw [readExponent]
        dsimp only
        rw [List.takeWhile_eq_self_iff.mpr row.all, List.dropWhile_eq_nil_iff.mpr row.all,
          if_neg (by simp [marked, given])]
        rfl

/-- No symbol that can mark the exponent can belong to the significand. -/
def Marks (base : ℕ) (marker : Char) : Prop :=
  ∀ mark : Char, mark.toLower = marker → isDigit base mark = false ∧ mark ≠ '.'

theorem ExponentText.stops {text : List Char} {exponent : ℤ} (marks : Marks base marker)
    (power : ExponentText marker text exponent) : Stops base text := by
  cases power with
  | absent =>
      rintro symbol ⟨⟩
  | given marked _ =>
      rintro symbol ⟨⟩
      exact marks _ marked

theorem readScaled_whole_iff {text : List Char} {reading : Reading Double}
    (marks : Marks base marker) :
    (readScaled base factor steps marker text = some reading ∧ reading.rest = []) ↔
      ∃ number, ScaledText base factor steps marker text number ∧
        reading = ⟨(toDouble number).1, [], (toDouble number).2⟩ := by
  unfold readScaled
  constructor
  · rintro ⟨read, ends⟩
    rcases Option.map_eq_some_iff.mp read with ⟨⟨number, places, rest⟩, digits, made⟩
    rcases readSignificand_sound digits with ⟨significand, rfl, grammar⟩
    subst made
    have power : ExponentText marker rest (readExponent marker rest).1 :=
      readExponent_iff.mp (Prod.ext rfl ends)
    exact ⟨_, .intro grammar power, congrArg (fun rest => Reading.mk _ rest _) ends⟩
  · rintro ⟨number, ⟨grammar, power⟩, rfl⟩
    rw [readSignificand_complete grammar (power.stops marks)]
    simp only [Option.map_some, readExponent_iff.mpr power, and_self]

/-- The symbols that a scaled number is made of. -/
theorem ScaledText.symbols {text : List Char} {number : ℚ}
    (digits : ScaledText base factor steps marker text number) :
    ∀ symbol ∈ text, isDigit base symbol = true ∨ isDigit 10 symbol = true ∨
      symbol ∈ ['.', '+', '-'] ∨ symbol.toLower = marker := by
  rcases digits with ⟨significand, power⟩
  intro symbol mem
  rcases List.mem_append.mp mem with mem | mem
  · cases significand with
    | whole row => exact Or.inl (row.all symbol mem)
    | pointed row =>
        rcases List.mem_append.mp mem with mem | mem
        · exact Or.inl (row.all symbol (List.mem_append_left _ mem))
        · rcases List.mem_cons.mp mem with rfl | mem
          · exact Or.inr (Or.inr (Or.inl List.mem_cons_self))
          · exact Or.inl (row.all symbol (List.mem_append_right _ mem))
  · cases power with
    | absent => cases mem
    | given marked integer =>
        rcases List.mem_cons.mp mem with rfl | mem
        · exact Or.inr (Or.inr (Or.inr marked))
        · rcases integer with ⟨signed, row⟩
          rcases List.mem_append.mp mem with mem | mem
          · refine Or.inr (Or.inr (Or.inl ?_))
            cases signed <;> simp_all
          · exact Or.inr (Or.inl (row.all symbol mem))

end Scaled

theorem marks_decimal : Marks 10 'e' := by
  intro mark marked
  constructor
  · exact isDigit_decimal_of_toLower (marked ▸ rfl)
  · rintro rfl
    revert marked
    decide

theorem marks_hexadecimal : Marks 16 'p' := by
  intro mark marked
  constructor
  · by_contra digit
    rcases isDigit_letter (eq_true_of_ne_false digit) with decimal | letter
    · rw [isDigit_of_toLower (marked ▸ rfl)] at decimal
      cases decimal
    · rw [marked] at letter
      revert letter
      decide
  · rintro rfl
    revert marked
    decide

/-! ### Doubles -/

theorem toDouble_isFinite {number : ℚ} {value : Double}
    (rounded : toDouble number = (value, false)) :
    value.isFinite = true := by
  unfold toDouble at rounded
  dsimp only at rounded
  split at rounded
  · cases rounded
    rfl
  · split at rounded
    · cases rounded
    · rw [(Prod.mk.inj rounded).1.symm]
      rfl

theorem ScaledText.head {text : List Char} {number : ℚ}
    (digits : ScaledText 10 10 1 'e' text number) :
    ∃ symbol rest, text = symbol :: rest ∧ (symbol.isDigit = true ∨ symbol = '.') := by
  rcases digits with ⟨significand, power⟩
  cases significand with
  | whole row =>
      rcases List.exists_cons_of_ne_nil row.nonempty with ⟨symbol, rest, rfl⟩
      exact ⟨symbol, _, rfl, Or.inl (isDigit_decimal (row.all symbol List.mem_cons_self))⟩
  | @pointed whole fraction row =>
      cases whole with
      | nil => exact ⟨'.', _, rfl, Or.inr rfl⟩
      | cons symbol rest =>
          exact ⟨symbol, _, rfl, Or.inl (isDigit_decimal (row.all symbol List.mem_cons_self))⟩

/-- A number without a sign begins with a digit or a point. -/
theorem MagnitudeText.head {text : List Char} {number : ℚ} (magnitude : MagnitudeText text number) :
    ∃ symbol rest, text = symbol :: rest ∧ (symbol.isDigit = true ∨ symbol = '.') := by
  cases magnitude with
  | decimal digits => exact digits.head
  | hexadecimal => exact ⟨'0', _, rfl, Or.inl rfl⟩

/-- Infinities and NaNs begin with other letters. -/
theorem MagnitudeText.readSpecial {text : List Char} {number : ℚ}
    (magnitude : MagnitudeText text number) : readSpecial text = none := by
  rcases magnitude.head with ⟨symbol, rest, rfl, first⟩
  have small : symbol.toLower = symbol := by
    rcases first with digit | rfl
    · exact toLower_of_isDigit digit
    · rfl
  have noLetter : symbol ≠ 'i' ∧ symbol ≠ 'n' := by
    constructor
    all_goals
      rintro rfl
      revert first
      decide
  simp [NumberText.readSpecial, readWord, small, noLetter]

theorem not_isFinite_of_readSpecial {text : List Char} {reading : Reading Double}
    (read : readSpecial text = some reading) : reading.value.isFinite = false := by
  unfold readSpecial at read
  split at read
  · cases read
    rfl
  split at read
  · cases read
    rfl
  · rcases Option.map_eq_some_iff.mp read with ⟨_, _, rfl⟩
    rfl

theorem readHexadecimal_iff {text : List Char} {reading : Reading Double} :
    readHexadecimal text = some reading ↔
      ∃ mark rest, text = '0' :: mark :: rest ∧ mark.toLower = 'x' ∧
        readScaled 16 2 4 'p' rest = some reading := by
  unfold readHexadecimal
  split
  · next mark rest =>
    split
    · next marked => simp [marked]
    · next other =>
      simp only [reduceCtorEq, List.cons.injEq, true_and, false_iff, not_exists, not_and]
      rintro _ _ ⟨rfl, rfl⟩ marked
      exact absurd marked other
  · next other =>
    simp only [reduceCtorEq, false_iff, not_exists, not_and]
    rintro mark rest rfl
    exact absurd rfl (other mark rest)

/-- A decimal number has no mark of a hexadecimal one. -/
theorem ScaledText.readHexadecimal {text : List Char} {number : ℚ}
    (digits : ScaledText 10 10 1 'e' text number) : readHexadecimal text = none := by
  by_contra some
  rcases Option.ne_none_iff_exists'.mp some with ⟨reading, read⟩
  rcases readHexadecimal_iff.mp read with ⟨mark, rest, rfl, marked, _⟩
  have noDigit : isDigit 10 mark = false := isDigit_decimal_of_toLower (marked ▸ rfl)
  rcases digits.symbols mark (by simp) with digit | digit | sign | marker
  · cases digit.symm.trans noDigit
  · cases digit.symm.trans noDigit
  · simp only [List.mem_cons, List.not_mem_nil, or_false] at sign
    rcases sign with rfl | rfl | rfl <;>
      · revert marked
        decide
  · rw [marker] at marked
    revert marked
    decide

theorem readUnsigned_whole_iff {text : List Char} {reading : Reading Double} :
    (readUnsigned text = some reading ∧ reading.rest = [] ∧ reading.rangeError = false ∧
        reading.value.isFinite = true) ↔
      ∃ number value, MagnitudeText text number ∧ toDouble number = (value, false) ∧
        reading = ⟨value, [], false⟩ := by
  constructor
  · rintro ⟨read, ends, inRange, finite⟩
    have scales : ∀ number, reading = ⟨(toDouble number).1, [], (toDouble number).2⟩ →
        toDouble number = (reading.value, false) ∧ reading = ⟨reading.value, [], false⟩ := by
      rintro number rfl
      exact ⟨Prod.ext rfl inRange, congrArg (Reading.mk _ _) inRange⟩
    rcases Option.or_eq_some_iff.mp read with special | ⟨_, read⟩
    · rw [not_isFinite_of_readSpecial special] at finite
      cases finite
    rcases Option.or_eq_some_iff.mp read with read | ⟨_, read⟩
    · rcases readHexadecimal_iff.mp read with ⟨mark, rest, rfl, marked, read⟩
      rcases (readScaled_whole_iff marks_hexadecimal).mp ⟨read, ends⟩ with ⟨number, digits, same⟩
      exact ⟨number, _, .hexadecimal marked digits, scales number same⟩
    · rcases (readScaled_whole_iff marks_decimal).mp ⟨read, ends⟩ with ⟨number, digits, same⟩
      exact ⟨number, _, .decimal digits, scales number same⟩
  · rintro ⟨number, value, magnitude, rounded, rfl⟩
    refine ⟨?_, rfl, rfl, toDouble_isFinite rounded⟩
    have same : (⟨value, [], false⟩ : Reading Double) =
        ⟨(toDouble number).1, [], (toDouble number).2⟩ := by rw [rounded]
    rw [readUnsigned, magnitude.readSpecial, Option.none_or]
    cases magnitude with
    | decimal digits =>
        rw [digits.readHexadecimal, Option.none_or]
        exact ((readScaled_whole_iff marks_decimal).mpr ⟨number, digits, same⟩).1
    | hexadecimal marked digits =>
        have read := ((readScaled_whole_iff marks_hexadecimal).mpr ⟨number, digits, same⟩).1
        rw [readHexadecimal_iff.mpr ⟨_, _, rfl, marked, read⟩]
        rfl

theorem isFinite_neg (value : Double) : value.neg.isFinite = value.isFinite := by
  cases value <;> rfl

/-- `strtod` reads the whole string without an error exactly if it is white space and a finite
number in the range of the doubles. -/
theorem strtod_whole_iff {text : List Char} {value : Double} :
    ((strtod text).rest = [] ∧ (strtod text).rest ≠ text ∧ (strtod text).rangeError = false ∧
        (strtod text).value.isFinite = true ∧ (strtod text).value = value) ↔
      DoubleText (text.dropWhile isSpace) value := by
  constructor
  · rintro ⟨ends, reads, inRange, finite, rfl⟩
    rcases exists_sign_of_readSign (text.dropWhile isSpace) with ⟨sign, signed, split⟩
    rw [split]
    unfold strtod at ends reads inRange finite ⊢
    generalize readSign (text.dropWhile isSpace) = parts at *
    rcases parts with ⟨negative, unsigned⟩
    dsimp only at *
    cases read : readUnsigned unsigned with
    | none =>
        rw [read] at reads
        exact absurd rfl reads
    | some reading =>
        rw [read] at ends inRange finite
        have whole : reading.rest = [] ∧ reading.rangeError = false ∧
            reading.value.isFinite = true := by
          cases negative with
          | false => exact ⟨ends, inRange, finite⟩
          | true => exact ⟨ends, inRange, (isFinite_neg _).symm.trans finite⟩
        rcases readUnsigned_whole_iff.mp ⟨read, whole⟩ with
          ⟨number, value, magnitude, rounded, rfl⟩
        have written := DoubleText.intro signed magnitude rounded
        cases negative <;> exact written
  · generalize split : text.dropWhile isSpace = body
    rintro ⟨signed, magnitude, rounded⟩
    next sign unsigned negative number value =>
    rcases magnitude.head with ⟨first, rest, rfl, digit⟩
    have noSign : ∀ symbol ∈ (first :: rest).head?, symbol ≠ '-' ∧ symbol ≠ '+' := by
      rintro symbol ⟨⟩
      constructor
      all_goals
        rintro rfl
        revert digit
        decide
    have given : ([] : List Char) ≠ text := by
      rintro rfl
      exact List.append_ne_nil_of_right_ne_nil sign (List.cons_ne_nil first rest) split.symm
    have read := (readUnsigned_whole_iff.mpr ⟨number, value, magnitude, rounded, rfl⟩).1
    have finite := toDouble_isFinite rounded
    unfold strtod
    rw [split, readSign_append signed noSign]
    dsimp only
    rw [read]
    cases negative with
    | false => exact ⟨rfl, given, rfl, finite, rfl⟩
    | true => exact ⟨rfl, given, rfl, (isFinite_neg value).trans finite, rfl⟩

/-! ### White space -/

theorem SignText.plain {sign : List Char} {negative : Bool} (signed : SignText sign negative) :
    ∀ symbol ∈ sign, Plain symbol := by
  cases signed with
  | absent => simp
  | plus | minus => simp [Plain]; decide

theorem IntegerText.plain {text : List Char} {number : ℤ} (integer : IntegerText text number) :
    ∀ symbol ∈ text, Plain symbol := by
  rcases integer with ⟨signed, row⟩
  intro symbol mem
  rcases List.mem_append.mp mem with mem | mem
  · exact signed.plain symbol mem
  · exact plain_of_isDigit (row.all symbol mem)

theorem ScaledText.plain {base factor steps : ℕ} {marker : Char} {text : List Char} {number : ℚ}
    (small : 97 ≤ marker.toNat) (digits : ScaledText base factor steps marker text number) :
    ∀ symbol ∈ text, Plain symbol := by
  intro symbol mem
  rcases digits.symbols symbol mem with digit | digit | sign | marked
  · exact plain_of_isDigit digit
  · exact plain_of_isDigit digit
  · simp only [List.mem_cons, List.not_mem_nil, or_false] at sign
    rcases sign with rfl | rfl | rfl <;> exact plain_of_code (by decide) (by decide)
  · exact plain_of_toLower (marked ▸ small)

theorem DoubleText.plain {text : List Char} {value : Double} (number : DoubleText text value) :
    ∀ symbol ∈ text, Plain symbol := by
  rcases number with ⟨signed, magnitude, _⟩
  intro symbol mem
  rcases List.mem_append.mp mem with mem | mem
  · exact signed.plain symbol mem
  cases magnitude with
  | decimal digits => exact digits.plain (by decide) symbol mem
  | hexadecimal marked digits =>
      rcases List.mem_cons.mp mem with rfl | mem
      · exact plain_of_code (by decide) (by decide)
      rcases List.mem_cons.mp mem with rfl | mem
      · exact plain_of_toLower (marked ▸ by decide)
      · exact digits.plain (by decide) symbol mem

/-! ### Strings around a number -/

section Around

variable {Value : Type} {grammar : List Char → Value → Prop}
  {text spaces tail : List Char} {value : Value}

/-- The string is a number with white space in front of it and, behind a NUL, some tail. -/
def Around (grammar : List Char → Value → Prop) (spaces tail text : List Char) (value : Value) :
    Prop :=
  ∃ body, text = spaces ++ (body ++ tail) ∧ (∀ symbol ∈ spaces, isSpace symbol = true) ∧
    grammar body value ∧ ∀ symbol ∈ tail.head?, symbol = '\x00'

/-- The texts of the grammar have neither white space nor NULs nor colons. -/
def PlainTexts (grammar : List Char → Value → Prop) : Prop :=
  ∀ {text value}, grammar text value → ∀ symbol ∈ text, Plain symbol

theorem dropWhile_plain (plain : ∀ symbol ∈ text, Plain symbol)
    (ends : ∀ symbol ∈ tail.head?, symbol = '\x00') :
    (text ++ tail).dropWhile isSpace = text ++ tail ∧
      (text ++ tail).takeWhile isSpace = [] := by
  cases text with
  | nil =>
      cases tail with
      | nil => exact ⟨rfl, rfl⟩
      | cons symbol tail =>
          rw [ends symbol rfl]
          exact ⟨rfl, rfl⟩
  | cons symbol text =>
      have visible := (plain symbol List.mem_cons_self).1
      simp [visible]

theorem ne_null_of_isSpace {symbol : Char} (space : isSpace symbol = true) : symbol ≠ '\x00' := by
  rintro rfl
  revert space
  decide

theorem ne_colon_of_isSpace {symbol : Char} (space : isSpace symbol = true) : symbol ≠ ':' := by
  rintro rfl
  revert space
  decide

/-- A string is around a number in one way at most. -/
theorem Around.parts (plain : PlainTexts grammar) (around : Around grammar spaces tail text value) :
    spaces = text.takeWhile isSpace ∧ tail = text.dropWhile fun symbol => symbol ≠ '\x00' := by
  rcases around with ⟨body, rfl, white, number, ends⟩
  rcases dropWhile_plain (plain number) ends with ⟨_, nothing⟩
  constructor
  · rw [List.takeWhile_append_of_pos white, nothing, List.append_nil]
  · have spaced : ∀ symbol ∈ spaces, decide (symbol ≠ '\x00') = true := fun symbol mem =>
      decide_eq_true (ne_null_of_isSpace (white symbol mem))
    have written : ∀ symbol ∈ body, decide (symbol ≠ '\x00') = true := fun symbol mem =>
      decide_eq_true (plain number symbol mem).2.1
    rw [List.dropWhile_append_of_pos spaced, List.dropWhile_append_of_pos written]
    cases tail with
    | nil => rfl
    | cons symbol tail =>
        rw [ends symbol rfl]
        rfl

/-- A C string is white space and a number exactly if the whole string is around that number. -/
theorem exists_around_iff (plain : PlainTexts grammar) :
    (∃ spaces tail, Around grammar spaces tail text value) ↔
      grammar ((cString text).dropWhile isSpace) value := by
  constructor
  · rintro ⟨spaces, tail, body, rfl, white, number, ends⟩
    have shown : cString (spaces ++ (body ++ tail)) = spaces ++ body := by
      have spaced : ∀ symbol ∈ spaces, decide (symbol ≠ '\x00') = true := fun symbol mem =>
        decide_eq_true (ne_null_of_isSpace (white symbol mem))
      have written : ∀ symbol ∈ body, decide (symbol ≠ '\x00') = true := fun symbol mem =>
        decide_eq_true (plain number symbol mem).2.1
      rw [cString, List.takeWhile_append_of_pos spaced, List.takeWhile_append_of_pos written]
      cases tail with
      | nil => rw [List.takeWhile_nil, List.append_nil]
      | cons symbol tail => simp [ends symbol rfl]
    have ends : ∀ symbol ∈ ([] : List Char).head?, symbol = '\x00' := by simp
    have start := (dropWhile_plain (plain number) ends).1
    rw [List.append_nil] at start
    rw [shown, List.dropWhile_append_of_pos white, start]
    exact number
  · intro number
    refine ⟨(cString text).takeWhile isSpace, text.dropWhile fun symbol => symbol ≠ '\x00',
      (cString text).dropWhile isSpace, ?_, fun symbol mem => List.mem_takeWhile_imp mem, number,
      ?_⟩
    · rw [← List.append_assoc, List.takeWhile_append_dropWhile, cString,
        List.takeWhile_append_dropWhile]
    · intro symbol first
      have stopped := List.head?_dropWhile_not (fun symbol => decide (symbol ≠ '\x00')) text
      rw [first] at stopped
      simpa using stopped

/-- Every symbol of the string belongs to the number; white space in front may count. -/
def WholeText (spaceCounts : Bool) (grammar : List Char → Value → Prop) (text : List Char)
    (value : Value) : Prop :=
  ∃ spaces, Around grammar spaces [] text value ∧ (spaceCounts = false → spaces = [])

/-- The string is around a number to which some symbol does not belong. -/
def PartText (spaceCounts : Bool) (grammar : List Char → Value → Prop) (text : List Char)
    (value : Value) : Prop :=
  ∃ spaces tail, Around grammar spaces tail text value ∧
    (tail ≠ [] ∨ (spaceCounts = false ∧ spaces ≠ []))

theorem WholeText.symbols {spaceCounts : Bool} (plain : PlainTexts grammar)
    (whole : WholeText spaceCounts grammar text value) :
    ∀ symbol ∈ text, symbol ≠ '\x00' ∧ symbol ≠ ':' := by
  rcases whole with ⟨spaces, ⟨body, rfl, white, number, _⟩, _⟩
  intro symbol mem
  rw [List.append_nil] at mem
  rcases List.mem_append.mp mem with mem | mem
  · exact ⟨ne_null_of_isSpace (white symbol mem), ne_colon_of_isSpace (white symbol mem)⟩
  · exact (plain number symbol mem).2

theorem wholeText_strict_iff : WholeText false grammar text value ↔ grammar text value := by
  constructor
  · rintro ⟨spaces, ⟨body, rfl, _, number, _⟩, strict⟩
    rw [strict rfl, List.nil_append, List.append_nil]
    exact number
  · intro number
    exact ⟨[], ⟨text, by simp, by simp, number, by simp⟩, fun _ => rfl⟩

theorem wholeText_or_partText {spaceCounts : Bool}
    (around : Around grammar spaces tail text value) :
    WholeText spaceCounts grammar text value ∨ PartText spaceCounts grammar text value := by
  by_cases part : tail ≠ [] ∨ (spaceCounts = false ∧ spaces ≠ [])
  · exact Or.inr ⟨spaces, tail, around, part⟩
  · simp only [not_or, not_and, not_not] at part
    rcases part with ⟨rfl, strict⟩
    exact Or.inl ⟨spaces, around, strict⟩

theorem WholeText.not_partText {spaceCounts : Bool} (plain : PlainTexts grammar)
    (whole : WholeText spaceCounts grammar text value) (other : Value) :
    ¬PartText spaceCounts grammar text other := by
  rcases whole with ⟨spaces, around, strict⟩
  rintro ⟨spaces', tail', around', part⟩
  rcases around.parts plain with ⟨sameSpaces, sameTail⟩
  rcases around'.parts plain with ⟨sameSpaces', sameTail'⟩
  rw [sameSpaces', ← sameSpaces, sameTail', ← sameTail] at part
  rcases part with more | ⟨counts, more⟩
  · exact more rfl
  · exact more (strict counts)

end Around

end NumberText
