/-
What is written for a number is read as the number, in every layout. A literal consists of a
sign, a whole part, a fraction and a power of ten; what is read from the parts is one decimal, and
each layout of a decimal has parts that mean the same as it.
-/

import Metering.Numeral.Layout
import Metering.Proofs.Numeral.Shortest
import Metering.Proofs.Numeral.Whole

namespace Metering

/-! ### Parts of literals -/

/-- The parts of a number literal. -/
structure Numeral where
  minus : Bool
  whole : List Char
  fraction : List Char
  power : Option (Char × List Char)

namespace Numeral

/-- The sign as it is written. -/
def signText (numeral : Numeral) : List Char := if numeral.minus then ['-'] else []

/-- The fraction as it is written, with its point. -/
def fractionText (numeral : Numeral) : List Char :=
  if numeral.fraction.isEmpty then [] else '.' :: numeral.fraction

/-- The power of ten as it is written, with its letter and its sign. -/
def powerText (numeral : Numeral) : List Char :=
  match numeral.power with
  | none => []
  | some (sign, digits) => 'e' :: sign :: digits

/-- The literal. -/
def characters (numeral : Numeral) : List Char :=
  numeral.signText ++ numeral.whole ++ numeral.fractionText ++ numeral.powerText

/-- The parts are those of a number that is written without needless zeros in front. -/
structure Proper (numeral : Numeral) : Prop where
  whole : ∀ digit ∈ numeral.whole, digit.isDigit = true
  start : numeral.whole = ['0'] ∨ ∃ first rest, numeral.whole = first :: rest ∧ first ≠ '0'
  fraction : ∀ digit ∈ numeral.fraction, digit.isDigit = true
  power : ∀ sign digits, numeral.power = some (sign, digits) →
    (sign = '+' ∨ sign = '-') ∧ digits ≠ [] ∧ ∀ digit ∈ digits, digit.isDigit = true

/-- The decimal that the parts mean, without the sign. -/
def decimal (numeral : Numeral) : Decimal :=
  ⟨Decimal.ofDigits (numeral.whole ++ numeral.fraction),
    (match numeral.power with
      | none => 0
      | some (sign, digits) =>
        if sign = '-' then -(Decimal.ofDigits digits : Int) else Decimal.ofDigits digits) -
      numeral.fraction.length⟩

end Numeral

/-- A literal that has the form of a number. -/
def IsNumeral (literal : List Char) : Prop :=
  ∃ numeral : Numeral, numeral.Proper ∧ numeral.characters = literal

/-- A literal consists of digits, signs, a point and the letter of its power of ten. -/
theorem Numeral.mem_characters {numeral : Numeral} (proper : numeral.Proper) {character : Char}
    (member : character ∈ numeral.characters) :
    character.isDigit = true ∨ character ∈ ['-', '+', '.', 'e'] := by
  simp only [characters, List.mem_append] at member
  rcases member with ((inSign | inWhole) | inFraction) | inPower
  · rw [signText] at inSign
    split at inSign
    · rw [List.mem_singleton.mp inSign]
      exact Or.inr (by decide)
    · cases inSign
  · exact Or.inl (proper.whole character inWhole)
  · rw [fractionText] at inFraction
    split at inFraction
    · cases inFraction
    · rcases List.mem_cons.mp inFraction with rfl | inDigits
      · exact Or.inr (by decide)
      · exact Or.inl (proper.fraction character inDigits)
  · rw [powerText] at inPower
    split at inPower
    · cases inPower
    · next sign digits isPower =>
      obtain ⟨isSign, _, isDigits⟩ := proper.power sign digits isPower
      rcases List.mem_cons.mp inPower with rfl | inRest
      · exact Or.inr (by decide)
      · rcases List.mem_cons.mp inRest with rfl | inDigits
        · rcases isSign with rfl | rfl <;> exact Or.inr (by decide)
        · exact Or.inl (isDigits character inDigits)

/-! ### Digits -/

theorem toNat_of_isDigit {digit : Char} (isDigit : digit.isDigit = true) :
    48 ≤ digit.toNat ∧ digit.toNat ≤ 57 := by
  simp only [Char.isDigit, Bool.and_eq_true, decide_eq_true_eq, ge_iff_le] at isDigit
  exact ⟨UInt32.le_iff_toNat_le.mp isDigit.1, UInt32.le_iff_toNat_le.mp isDigit.2⟩

/-- A digit starts neither a word nor a sign. -/
theorem digit_starts_number {digit : Char} (isDigit : digit.isDigit = true) :
    digit.toLower ≠ 'i' ∧ digit.toLower ≠ 'n' ∧ digit ≠ '-' ∧ digit ≠ '+' := by
  obtain ⟨low, high⟩ := toNat_of_isDigit isDigit
  have digits : ∀ code < 58, 48 ≤ code → (Char.ofNat code).toLower ≠ 'i' ∧
      (Char.ofNat code).toLower ≠ 'n' ∧ Char.ofNat code ≠ '-' ∧ Char.ofNat code ≠ '+' := by decide
  have := digits digit.toNat (by omega) low
  rwa [Char.ofNat_toNat] at this

theorem toDigits_proper (number : Nat) :
    (∀ digit ∈ Nat.toDigits 10 number, digit.isDigit = true) ∧
      (Nat.toDigits 10 number = ['0'] ∨
        ∃ first rest, Nat.toDigits 10 number = first :: rest ∧ first ≠ '0') := by
  refine ⟨fun digit member => Nat.isDigit_of_mem_toDigits (by decide) (by decide) member, ?_⟩
  by_cases zero : number = 0
  · rw [zero]
    exact Or.inl rfl
  · exact Or.inr (toDigits_start zero)

namespace Decimal

theorem ofDigits_eq (digits : List Char) : ofDigits digits = Nat.ofDigitChars 10 digits 0 := rfl

theorem ofDigits_append (front back : List Char) :
    ofDigits (front ++ back) = ofDigits front * 10 ^ back.length + ofDigits back := by
  rw [ofDigits_eq, Nat.ofDigitChars_append, Nat.ofDigitChars_eq_ofDigitChars_zero, mul_comm]
  rfl

theorem ofDigits_toDigits (number : Nat) : ofDigits (Nat.toDigits 10 number) = number :=
  Nat.ofDigitChars_toDigits (by decide) (by decide)

theorem ofDigits_zeros (count : Nat) : ofDigits (List.replicate count '0') = 0 := by
  induction count with
  | zero => rfl
  | succ count inductionHypothesis =>
    rw [List.replicate_succ', ofDigits_append, inductionHypothesis, Nat.zero_mul]
    rfl

end Decimal

/-! ### Reading the parts -/

namespace Decimal

/-- Digits are taken up to a character that is none. -/
theorem takeWhile_append {digits rest : List Char}
    (isDigits : ∀ digit ∈ digits, digit.isDigit = true)
    (ends : ∀ character, rest.head? = some character → character.isDigit = false) :
    (digits ++ rest).takeWhile Char.isDigit = digits ∧
      (digits ++ rest).dropWhile Char.isDigit = rest := by
  rw [List.takeWhile_append_of_pos isDigits, List.dropWhile_append_of_pos isDigits]
  cases rest with
  | nil => exact ⟨List.append_nil digits, rfl⟩
  | cons character more =>
    have noDigit := Bool.eq_false_iff.mp (ends character rfl)
    rw [List.takeWhile_cons_of_neg noDigit, List.dropWhile_cons_of_neg noDigit]
    exact ⟨List.append_nil digits, rfl⟩

variable {whole fraction ending : List Char}
  (wholeDigits : ∀ digit ∈ whole, digit.isDigit = true) (some : whole.isEmpty = false)
  (ends : ∀ character, ending.head? = .some character → character = 'e')

include wholeDigits some ends

theorem split?_whole :
    split? (whole ++ ending) = (readPower? ending).map fun power => (whole, [], power) := by
  obtain ⟨taken, dropped⟩ := takeWhile_append wholeDigits fun character isHead => by
    rw [ends character isHead]
    rfl
  have noPoint : split? (whole ++ ending) = if whole.isEmpty && true then none
      else (readPower? ending).map fun power => (whole, [], power) := by
    rw [split?, taken, dropped]
    cases ending with
    | nil => rfl
    | cons character more =>
      obtain rfl := ends character rfl
      rfl
  rw [noPoint, some]
  rfl

theorem split?_pointed (fractionDigits : ∀ digit ∈ fraction, digit.isDigit = true) :
    split? (whole ++ '.' :: (fraction ++ ending)) =
      (readPower? ending).map fun power => (whole, fraction, power) := by
  obtain ⟨taken, dropped⟩ := takeWhile_append fractionDigits fun character isHead => by
    rw [ends character isHead]
    rfl
  obtain ⟨wholeTaken, wholeDropped⟩ := takeWhile_append wholeDigits
    (show ∀ character, ('.' :: (fraction ++ ending)).head? = .some character →
        character.isDigit = false from fun character isHead => by
      rw [← Option.some.inj isHead]
      rfl)
  have isPoint : split? (whole ++ '.' :: (fraction ++ ending)) =
      if whole.isEmpty && ((fraction ++ ending).takeWhile Char.isDigit).isEmpty then none
      else (readPower? ((fraction ++ ending).dropWhile Char.isDigit)).map fun power =>
        (whole, (fraction ++ ending).takeWhile Char.isDigit, power) := by
    rw [split?, wholeTaken, wholeDropped]
    rfl
  rw [isPoint, taken, dropped, some]
  rfl

end Decimal

namespace Numeral

variable {numeral : Numeral} (proper : numeral.Proper)

theorem head_powerText (numeral : Numeral) {character : Char}
    (isHead : numeral.powerText.head? = some character) : character = 'e' := by
  rw [powerText] at isHead
  split at isHead
  · cases isHead
  · exact (Option.some.inj isHead).symm

include proper

theorem readPower?_powerText :
    Decimal.readPower? numeral.powerText =
      some (numeral.decimal.exponent + numeral.fraction.length) := by
  rw [decimal, sub_add_cancel, powerText]
  cases isPower : numeral.power with
  | none => rfl
  | some signed =>
    obtain ⟨sign, digits⟩ := signed
    obtain ⟨isSign, some, isDigits⟩ := proper.power sign digits isPower
    have reads : (digits.isEmpty || !digits.all Char.isDigit) = false := by
      rw [List.isEmpty_eq_false_iff.mpr some, List.all_eq_true.mpr isDigits]
      rfl
    rcases isSign with rfl | rfl
    · simp only [Decimal.readPower?, reads]
      rfl
    · simp only [Decimal.readPower?, reads]
      rfl

theorem split?_unsigned :
    Decimal.split? (numeral.whole ++ (numeral.fractionText ++ numeral.powerText)) =
      some (numeral.whole, numeral.fraction,
        numeral.decimal.exponent + numeral.fraction.length) := by
  have some : numeral.whole.isEmpty = false := by
    rcases proper.start with zero | ⟨first, rest, isWhole, _⟩
    · rw [zero]
      rfl
    · rw [isWhole]
      rfl
  have ends (character : Char) (isHead : numeral.powerText.head? = .some character) :
      character = 'e' := numeral.head_powerText isHead
  have power := readPower?_powerText proper
  rw [fractionText]
  split
  · next empty =>
    rw [List.isEmpty_iff.mp empty] at power ⊢
    rw [List.nil_append, Decimal.split?_whole proper.whole some ends, power]
    rfl
  · rw [List.cons_append, Decimal.split?_pointed proper.whole some ends proper.fraction, power]
    rfl

theorem readChars?_unsigned :
    Decimal.readChars? (numeral.whole ++ (numeral.fractionText ++ numeral.powerText)) =
      some numeral.decimal := by
  rw [Decimal.readChars?, split?_unsigned proper, Option.map_some]
  dsimp only
  rw [add_sub_cancel_right]
  rfl

/-- What is read from the parts of a number is their decimal, with the sign. -/
theorem readChars_characters :
    Binary64.readChars numeral.characters =
      .ok (Binary64.ofSigned numeral.minus (Binary64.ofDecimal numeral.decimal)) := by
  obtain ⟨first, rest, isWhole⟩ : ∃ first rest, numeral.whole = first :: rest := by
    rcases proper.start with zero | ⟨first, rest, isWhole, _⟩
    · exact ⟨'0', [], zero⟩
    · exact ⟨first, rest, isWhole⟩
  obtain ⟨noI, noN, noMinus, noPlus⟩ :=
    digit_starts_number (proper.whole first (isWhole ▸ List.mem_cons_self))
  have reads := readChars?_unsigned proper
  have isCharacters : numeral.characters = numeral.signText ++ (first :: (rest ++
      (numeral.fractionText ++ numeral.powerText))) := by
    simp only [characters, isWhole, List.append_assoc, List.cons_append]
  rw [isWhole, List.cons_append] at reads
  rw [isCharacters]
  generalize rest ++ (numeral.fractionText ++ numeral.powerText) = later at reads
  have magnitude : Binary64.readMagnitude? (first :: later) =
      some (Binary64.ofDecimal numeral.decimal) := by
    have noWord : ¬ (first.toLower :: later.map Char.toLower = ['i', 'n', 'f'] ∨
        first.toLower :: later.map Char.toLower = ['i', 'n', 'f', 'i', 'n', 'i', 't', 'y']) := by
      rintro (same | same) <;> exact noI (List.cons.inj same).1
    rw [Binary64.readMagnitude?, reads, List.map_cons, if_neg noWord,
      if_neg fun same => noN (List.cons.inj same).1]
    rfl
  rw [signText]
  cases numeral.minus with
  | true =>
    show Binary64.readChars ('-' :: first :: later) = _
    simp only [Binary64.readChars, magnitude]
    rfl
  | false =>
    show Binary64.readChars (first :: later) = _
    rw [Binary64.readChars, if_neg (by exact Bool.false_ne_true), magnitude]
    · exact fun rest same => noMinus (List.cons.inj same).1
    · exact fun rest same => noPlus (List.cons.inj same).1

end Numeral

/-! ### Layouts -/

namespace Decimal

/-- A decimal that is written down: zero, or one with digits other than zero. -/
def IsPlain (decimal : Decimal) : Prop := decimal = ⟨0, 0⟩ ∨ decimal.digits ≠ 0

theorem digits_go_ne_zero (count : Nat) {digits : Nat} (notZero : digits ≠ 0) (exponent : Int) :
    (normalise.go count digits exponent).digits ≠ 0 := by
  induction count generalizing digits exponent with
  | zero => exact notZero
  | succ count inductionHypothesis =>
    rw [normalise.go]
    split
    · exact inductionHypothesis (by omega) _
    · exact notZero

theorem isPlain_normalise (decimal : Decimal) : decimal.normalise.IsPlain := by
  rw [normalise]
  split
  · exact Or.inl rfl
  · next notZero => exact Or.inr (digits_go_ne_zero _ notZero _)

end Decimal

theorem Binary64.isPlain_shortest (number : Binary64) : number.shortest.IsPlain := by
  rw [shortest]
  split
  · exact Or.inl rfl
  · exact Decimal.isPlain_normalise _

namespace Layout

variable (layout : Layout)

/-- A literal has the parts of an unsigned number, and they mean a value. -/
def HasParts (literal : List Char) (value : ℚ) : Prop :=
  ∃ numeral : Numeral, numeral.Proper ∧ numeral.minus = false ∧ numeral.characters = literal ∧
    numeral.decimal.toRat = value

theorem toRat_eq {decimal : Decimal} {digits : Nat} {exponent : Int}
    (isDigits : decimal.digits = digits) (isExponent : decimal.exponent = exponent) :
    decimal.toRat = digits * 10 ^ exponent := by
  rw [Decimal.toRat, isDigits, isExponent]

/-- A literal without a power of ten has the parts of a number, if its digits have. -/
theorem hasParts_of_digits {whole fraction : List Char} {value : ℚ}
    (wholeDigits : ∀ digit ∈ whole, digit.isDigit = true)
    (start : whole = ['0'] ∨ ∃ first rest, whole = first :: rest ∧ first ≠ '0')
    (fractionDigits : ∀ digit ∈ fraction, digit.isDigit = true)
    (isValue : Decimal.toRat ⟨Decimal.ofDigits (whole ++ fraction), -fraction.length⟩ = value) :
    HasParts (whole ++ if fraction.isEmpty then [] else '.' :: fraction) value := by
  refine ⟨⟨false, whole, fraction, none⟩, ⟨wholeDigits, start, fractionDigits, nofun⟩, rfl, ?_, ?_⟩
  · rw [Numeral.characters, Numeral.signText, Numeral.fractionText, Numeral.powerText,
      List.append_nil]
    rfl
  · rw [← isValue, Numeral.decimal]
    dsimp only
    rw [zero_sub]

theorem zeros_isDigit (count : Nat) : ∀ digit ∈ List.replicate count '0', digit.isDigit = true :=
  fun digit member => by
    rw [List.eq_of_mem_replicate member]
    rfl

/-- Digits behind the point, and zeros in front of them. -/
theorem hasParts_small {digits : List Char} (isDigits : ∀ digit ∈ digits, digit.isDigit = true)
    (some : digits ≠ []) {power : Int} (small : power < 0) :
    HasParts ('0' :: '.' :: List.replicate (-power - 1).toNat '0' ++ digits)
      (Decimal.ofDigits digits * 10 ^ (power + 1 - digits.length)) := by
  have notEmpty : (List.replicate (-power - 1).toNat '0' ++ digits).isEmpty = false :=
    List.isEmpty_eq_false_iff.mpr (List.append_ne_nil_of_right_ne_nil _ some)
  have isValue : Decimal.toRat ⟨Decimal.ofDigits
        (['0'] ++ (List.replicate (-power - 1).toNat '0' ++ digits)),
          -(List.replicate (-power - 1).toNat '0' ++ digits).length⟩ =
      Decimal.ofDigits digits * 10 ^ (power + 1 - digits.length) := by
    have zero : Decimal.ofDigits ['0'] = 0 := rfl
    refine toRat_eq ?_ ?_
    · rw [Decimal.ofDigits_append, Decimal.ofDigits_append, Decimal.ofDigits_zeros, zero]
      simp only [Nat.zero_mul, Nat.zero_add]
    · dsimp only
      rw [List.length_append, List.length_replicate]
      omega
  have parts := hasParts_of_digits (zeros_isDigit 1) (Or.inl rfl) (fun digit member =>
    (List.mem_append.mp member).elim (zeros_isDigit _ digit) (isDigits digit)) isValue
  rwa [notEmpty, if_neg Bool.false_ne_true] at parts

/-- Digits in front of the point, and zeros behind them. -/
theorem hasParts_large {digits : List Char} (isDigits : ∀ digit ∈ digits, digit.isDigit = true)
    {power : Int}
    (start : (digits = ['0'] ∧ power = 0) ∨ ∃ first rest, digits = first :: rest ∧ first ≠ '0')
    (large : digits.length ≤ (power + 1).toNat) :
    HasParts (digits ++ List.replicate ((power + 1).toNat - digits.length) '0' ++
        (if layout.keepsPoint then ['.', '0'] else []))
      (Decimal.ofDigits digits * 10 ^ (power + 1 - digits.length)) := by
  have wholeDigits : ∀ digit ∈ digits ++ List.replicate ((power + 1).toNat - digits.length) '0',
      digit.isDigit = true := fun digit member =>
    (List.mem_append.mp member).elim (isDigits digit) (zeros_isDigit _ digit)
  have wholeStart : digits ++ List.replicate ((power + 1).toNat - digits.length) '0' = ['0'] ∨
      ∃ first rest, digits ++ List.replicate ((power + 1).toNat - digits.length) '0' =
        first :: rest ∧ first ≠ '0' := by
    rcases start with ⟨rfl, rfl⟩ | ⟨first, rest, rfl, notZero⟩
    · exact Or.inl rfl
    · exact Or.inr ⟨first, _, rfl, notZero⟩
  have some : 0 < digits.length := by
    rcases start with ⟨rfl, _⟩ | ⟨first, rest, rfl, _⟩ <;> exact Nat.succ_pos _
  have isValue (count : Nat) : Decimal.toRat ⟨Decimal.ofDigits ((digits ++
        List.replicate ((power + 1).toNat - digits.length) '0') ++ List.replicate count '0'),
          -(List.replicate count '0').length⟩ =
      Decimal.ofDigits digits * 10 ^ (power + 1 - digits.length) := by
    rw [Decimal.ofDigits_append, Decimal.ofDigits_append, Decimal.ofDigits_zeros,
      Decimal.ofDigits_zeros, Decimal.toRat, List.length_replicate, List.length_replicate]
    push_cast
    rw [add_zero, add_zero, mul_assoc, mul_assoc, zpow_neg, zpow_natCast,
      mul_inv_cancel₀ (by positivity), mul_one, ← zpow_natCast]
    congr 2
    omega
  cases layout.keepsPoint with
  | true => exact hasParts_of_digits wholeDigits wholeStart (zeros_isDigit 1) (isValue 1)
  | false => exact hasParts_of_digits wholeDigits wholeStart (zeros_isDigit 0) (isValue 0)

/-- A point among the digits. -/
theorem hasParts_around {digits : List Char} (isDigits : ∀ digit ∈ digits, digit.isDigit = true)
    {first : Char} {rest : List Char} (start : digits = first :: rest) (notZero : first ≠ '0')
    {power : Int} (notSmall : 0 ≤ power) (notLarge : (power + 1).toNat < digits.length) :
    HasParts (digits.take (power + 1).toNat ++ '.' :: digits.drop (power + 1).toNat)
      (Decimal.ofDigits digits * 10 ^ (power + 1 - digits.length)) := by
  have positive : 0 < (power + 1).toNat := by omega
  have notEmpty : (digits.drop (power + 1).toNat).isEmpty = false := by
    rw [List.isEmpty_eq_false_iff, ne_eq, List.drop_eq_nil_iff]
    omega
  have isValue : Decimal.toRat ⟨Decimal.ofDigits
        (digits.take (power + 1).toNat ++ digits.drop (power + 1).toNat),
          -(digits.drop (power + 1).toNat).length⟩ =
      Decimal.ofDigits digits * 10 ^ (power + 1 - digits.length) := by
    refine toRat_eq (congrArg Decimal.ofDigits (List.take_append_drop _ _)) ?_
    dsimp only
    rw [List.length_drop]
    omega
  have wholeStart : ∃ front back, digits.take (power + 1).toNat = front :: back ∧ front ≠ '0' := by
    refine ⟨first, rest.take ((power + 1).toNat - 1), ?_, notZero⟩
    rw [start, List.take_cons positive]
  have parts := hasParts_of_digits
    (fun digit member => isDigits digit (List.mem_of_mem_take member)) (Or.inr wholeStart)
    (fun digit member => isDigits digit (List.mem_of_mem_drop member)) isValue
  rwa [notEmpty, if_neg Bool.false_ne_true] at parts

/-- Digits around a point have the parts of a number. -/
theorem hasParts_positional {digits : List Char}
    (isDigits : ∀ digit ∈ digits, digit.isDigit = true) {power : Int}
    (start : (digits = ['0'] ∧ power = 0) ∨ ∃ first rest, digits = first :: rest ∧ first ≠ '0') :
    HasParts (layout.writePositional digits power)
      (Decimal.ofDigits digits * 10 ^ (power + 1 - digits.length)) := by
  unfold writePositional
  dsimp only
  split
  · next small =>
    obtain ⟨first, rest, isStart, _⟩ := start.resolve_left (by omega)
    exact hasParts_small isDigits (isStart ▸ List.cons_ne_nil first rest) small
  split
  · next notSmall large => exact layout.hasParts_large isDigits start large
  · next notSmall notLarge =>
    rcases start with ⟨rfl, rfl⟩ | ⟨first, rest, isStart, notZero⟩
    · exact absurd (by decide) notLarge
    · exact hasParts_around isDigits isStart notZero (not_lt.mp notSmall) (not_le.mp notLarge)

/-- One digit, a fraction and a power of ten have the parts of a number. -/
theorem hasParts_scientific {first : Char} {rest : List Char}
    (isDigits : ∀ digit ∈ first :: rest, digit.isDigit = true) (power : Int) :
    HasParts (writeScientific (first :: rest) power)
      (Decimal.ofDigits (first :: rest) * 10 ^ (power + 1 - (first :: rest).length)) := by
  obtain ⟨isDigit, restDigits⟩ := List.forall_mem_cons.mp isDigits
  have start : [first] = ['0'] ∨ ∃ front back, [first] = front :: back ∧ front ≠ '0' := by
    by_cases zero : first = '0'
    · exact Or.inl (congrArg (fun digit => [digit]) zero)
    · exact Or.inr ⟨first, [], rfl, zero⟩
  refine ⟨⟨false, [first], rest, some (if power < 0 then '-' else '+',
    Nat.toDigits 10 power.natAbs)⟩, ⟨?_, start, restDigits, ?_⟩, rfl, ?_, toRat_eq rfl ?_⟩
  · exact fun digit member => List.mem_singleton.mp member ▸ isDigit
  · rintro sign digits isPower
    obtain ⟨rfl, rfl⟩ := Prod.mk.inj (Option.some.inj isPower)
    refine ⟨?_, Nat.toDigits_ne_nil, (toDigits_proper _).1⟩
    split
    · exact Or.inr rfl
    · exact Or.inl rfl
  · cases rest <;> rfl
  · rw [Numeral.decimal]
    dsimp only
    rw [Decimal.ofDigits_toDigits, List.length_cons]
    by_cases negative : power < 0
    · rw [if_pos negative, if_pos rfl]
      omega
    · rw [if_neg negative, if_neg (by decide)]
      omega

/-- A plain decimal is written as a number that means the same. -/
theorem hasParts_writeDecimal {decimal : Decimal} (plain : decimal.IsPlain) :
    HasParts (layout.writeDecimal decimal) decimal.toRat := by
  have isDigits := (toDigits_proper decimal.digits).1
  have isValue : decimal.toRat = Decimal.ofDigits (Nat.toDigits 10 decimal.digits) *
      10 ^ (decimal.exponent + (Nat.toDigits 10 decimal.digits).length - 1 + 1 -
        (Nat.toDigits 10 decimal.digits).length) := by
    rw [Decimal.ofDigits_toDigits]
    refine toRat_eq rfl ?_
    omega
  have positional : HasParts (layout.writePositional (Nat.toDigits 10 decimal.digits)
      (decimal.exponent + (Nat.toDigits 10 decimal.digits).length - 1)) decimal.toRat := by
    rw [isValue]
    refine layout.hasParts_positional isDigits ?_
    rcases plain with rfl | notZero
    · exact Or.inl ⟨rfl, rfl⟩
    · exact Or.inr (toDigits_start notZero)
  have scientific : HasParts (writeScientific (Nat.toDigits 10 decimal.digits)
      (decimal.exponent + (Nat.toDigits 10 decimal.digits).length - 1)) decimal.toRat := by
    rw [isValue]
    cases isStart : Nat.toDigits 10 decimal.digits with
    | nil => exact absurd isStart Nat.toDigits_ne_nil
    | cons first rest => exact hasParts_scientific (isStart ▸ isDigits) _
  rw [writeDecimal]
  cases layout.positional with
  | none => exact positional
  | some range =>
    dsimp only
    split
    · exact positional
    · exact scientific

/-- The literal of a reading has the parts of a number: its sign, and a decimal that means the same
as its shortest one. -/
theorem exists_numeral_writeFinite (reading : Binary64) :
    ∃ numeral : Numeral, numeral.Proper ∧ numeral.characters = layout.writeFinite reading ∧
      numeral.minus = reading.negative ∧ numeral.decimal.toRat = reading.shortest.toRat := by
  obtain ⟨numeral, proper, unsigned, isLiteral, isValue⟩ :=
    layout.hasParts_writeDecimal reading.isPlain_shortest
  refine ⟨{ numeral with minus := reading.negative }, ⟨proper.whole, proper.start, proper.fraction,
    proper.power⟩, ?_, rfl, isValue⟩
  rw [writeFinite, ← isLiteral]
  simp only [Numeral.characters, Numeral.signText, unsigned, Bool.false_eq_true, if_false,
    List.nil_append, List.append_assoc]
  rfl

/-- What is written for a reading has the form of a number. -/
theorem isNumeral_writeFinite (reading : Binary64) : IsNumeral (layout.writeFinite reading) := by
  obtain ⟨numeral, proper, isLiteral, _⟩ := layout.exists_numeral_writeFinite reading
  exact ⟨numeral, proper, isLiteral⟩

/-- In every layout the literal of a finite reading is read as the reading. -/
theorem readChars_writeFinite {reading : Binary64} (finite : reading.isFinite = true) :
    Binary64.readChars (layout.writeFinite reading) = .ok reading := by
  obtain ⟨numeral, proper, isLiteral, isSign, isValue⟩ := layout.exists_numeral_writeFinite reading
  rw [← isLiteral, Numeral.readChars_characters proper, isSign,
    Binary64.ofDecimal_of_shortest finite isValue, Binary64.ofSigned_magnitude]

example : Layout.json.writeFinite ⟨0xbfd3333333333333⟩ = ['-', '0', '.', '3'] := by decide +kernel

/-! ### How long literals are -/

theorem length_toDigits_le (number : Nat) : (Nat.toDigits 10 number).length ≤ number + 1 :=
  (Nat.length_toDigits_le_iff (by decide) (Nat.succ_pos number)).mpr
    ((Nat.lt_succ_self number).trans (Nat.lt_pow_self (by decide)))

theorem length_writePositional_le (digits : List Char) (power : Int) :
    (layout.writePositional digits power).length ≤ digits.length + power.natAbs + 3 := by
  unfold writePositional
  dsimp only
  split
  · simp only [List.length_cons, List.length_append, List.length_replicate]
    omega
  split
  · have ending : (if layout.keepsPoint then ['.', '0'] else []).length ≤ 2 := by
      split <;> decide
    simp only [List.length_append, List.length_replicate]
    omega
  · simp only [List.length_append, List.length_cons, List.length_take, List.length_drop]
    omega

theorem length_writeScientific_le (digits : List Char) (power : Int) :
    (writeScientific digits power).length ≤ digits.length + power.natAbs + 4 := by
  have exponent := length_toDigits_le power.natAbs
  unfold writeScientific
  dsimp only
  split <;> simp only [List.length_append, List.length_cons] <;> omega

theorem length_writeFinite_le {reading : Binary64} (finite : reading.isFinite = true) :
    (layout.writeFinite reading).length ≤ 1200 := by
  obtain ⟨count, low, high⟩ := Binary64.digitCount_shortest finite
  have decimal : (layout.writeDecimal reading.shortest).length ≤ 1199 := by
    have positional := layout.length_writePositional_le (Nat.toDigits 10 reading.shortest.digits)
      (reading.shortest.exponent + (Nat.toDigits 10 reading.shortest.digits).length - 1)
    have scientific := length_writeScientific_le (Nat.toDigits 10 reading.shortest.digits)
      (reading.shortest.exponent + (Nat.toDigits 10 reading.shortest.digits).length - 1)
    rw [Decimal.digitCount] at count low high
    rw [writeDecimal]
    cases layout.positional with
    | none => exact positional.trans (by omega)
    | some range =>
      dsimp only
      split
      · exact positional.trans (by omega)
      · exact scientific.trans (by omega)
  have sign : (if reading.negative then ['-'] else []).length ≤ 1 := by
    split <;> decide
  rw [writeFinite, List.length_append]
  omega

end Layout

namespace Tally

/-! ### Counters -/

/-- What is written for a counter has the form of a number. -/
theorem isNumeral_text (total : Int64) : IsNumeral (text total).toList := by
  obtain ⟨isDigits, start⟩ := toDigits_proper total.toInt.natAbs
  refine ⟨⟨total.toInt < 0, Nat.toDigits 10 total.toInt.natAbs, [], none⟩,
    ⟨isDigits, start, nofun, nofun⟩, ?_⟩
  rw [toList_text]
  simp only [Numeral.characters, Numeral.signText, Numeral.fractionText, Numeral.powerText,
    List.isEmpty_nil, if_true, List.append_nil, decide_eq_true_eq]

theorem length_text_le (total : Int64) : (text total).toList.length ≤ 20 := by
  have low := total.le_toInt
  have high := total.toInt_lt
  have digits : (Nat.toDigits 10 total.toInt.natAbs).length ≤ 19 := by
    rw [Nat.length_toDigits_le_iff (by decide) (by decide)]
    omega
  rw [toList_text, List.length_append]
  split <;> simp only [List.length_singleton, List.length_nil] <;> omega

end Tally

end Metering
