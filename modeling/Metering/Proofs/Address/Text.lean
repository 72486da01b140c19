/-
The text of an address is read back as the address. A number is read up to the mark behind its
digits, so a row of numbers is read number by number. A row of groups ends where two colons stand
one after the other or the text is over; what is left out there is a run of zeros, and the reader
fills in as many as are missing from eight groups.
-/

import Mathlib.Data.List.TakeWhile
import Metering.Address.Reading
import Metering.Proofs.Digest.Verification
import Metering.Proofs.Numeral.Whole

namespace Metering.Ip

/-! ### Digits -/

/-- Digits that write a number in a base. -/
structure Writes (base : Nat) (digits : List Char) (number : Nat) : Prop where
  some : digits ≠ []
  inBase : ∀ digit ∈ digits, (digitOf? base digit).isSome = true
  value : numberOf base digits = number

theorem digitOf?_digitChar {base digit : Nat} (known : base ≤ 16) (small : digit < base) :
    digitOf? base digit.digitChar = some digit := by
  have digits : ∀ digit < 16, digit.digitChar.toNat < 128 ∧
      Hex.half? (UInt8.ofNat digit.digitChar.toNat) = some digit := by decide
  obtain ⟨ascii, isHalf⟩ := digits digit (Nat.lt_of_lt_of_le small known)
  rw [digitOf?, if_pos ascii, isHalf]
  exact if_pos (decide_eq_true small)

/-- Decimal digits are hexadecimal ones. -/
theorem isSome_digitOf?_of_decimal {character : Char}
    (isDecimal : (digitOf? 10 character).isSome = true) :
    (digitOf? 16 character).isSome = true := by
  rw [digitOf?] at isDecimal ⊢
  split at isDecimal
  · next ascii =>
    obtain ⟨value, isValue⟩ := Option.isSome_iff_exists.mp isDecimal
    obtain ⟨isHalf, -⟩ := Option.filter_eq_some_iff.mp isValue
    rw [if_pos ascii, isHalf]
    exact congrArg Option.isSome (if_pos (decide_eq_true (Hex.lt_of_half?_eq_some isHalf).1))
  · cases isDecimal

theorem numberOf_concat (base : Nat) (digits : List Char) (digit : Char) :
    numberOf base (digits ++ [digit]) =
      base * numberOf base digits + (digitOf? base digit).getD 0 := by
  rw [numberOf, List.foldl_append]
  rfl

/-- The digits of a number write it. -/
theorem writes_toDigits {base : Nat} (proper : 1 < base) (known : base ≤ 16) (number : Nat) :
    Writes base (Nat.toDigits base number) number := by
  induction number using Nat.strongRecOn with
  | ind number inductionHypothesis =>
    by_cases single : number < base
    · have isDigit := digitOf?_digitChar known single
      rw [Nat.toDigits_of_lt_base single]
      refine ⟨List.cons_ne_nil _ _, List.forall_mem_singleton.mpr ?_, ?_⟩
      · rw [isDigit]
        rfl
      · show base * 0 + (digitOf? base number.digitChar).getD 0 = number
        rw [isDigit, Nat.mul_zero, Nat.zero_add]
        rfl
    · have more := Nat.not_lt.mp single
      have fewer : number / base < number :=
        Nat.div_lt_self (Nat.lt_of_lt_of_le (Nat.zero_lt_of_lt proper) more) proper
      obtain ⟨_, inBase, value⟩ := inductionHypothesis (number / base) fewer
      have isDigit := digitOf?_digitChar known (Nat.mod_lt number (Nat.zero_lt_of_lt proper))
      rw [Nat.toDigits_of_base_le proper more]
      refine ⟨List.concat_ne_nil _ _, List.forall_mem_append.mpr
        ⟨inBase, List.forall_mem_singleton.mpr ?_⟩, ?_⟩
      · rw [isDigit]
        rfl
      · rw [numberOf_concat, value, isDigit]
        exact Nat.div_add_mod number base

/-- A number is read up to what is no digit. -/
theorem readNumber?_of_writes {base most limit number : Nat} {leadingZeros : Bool}
    {digits rest : List Char} (writes : Writes base digits number) (short : digits.length ≤ most)
    (small : number < limit)
    (proper : leadingZeros = true ∨ digits.head? ≠ some '0' ∨ digits.length = 1)
    (ends : ∀ character, rest.head? = some character → digitOf? base character = none) :
    readNumber? base most limit leadingZeros (digits ++ rest) = some (number, rest) := by
  have taken : (digits ++ rest).takeWhile (fun character => (digitOf? base character).isSome) =
      digits := by
    rw [List.takeWhile_append_of_pos writes.inBase]
    cases rest with
    | nil => exact List.append_nil digits
    | cons character more =>
      rw [List.takeWhile_cons_of_neg (by rw [ends character rfl]; decide), List.append_nil]
  have some : digits.isEmpty = false := by
    rw [Bool.eq_false_iff, ne_eq, List.isEmpty_iff]
    exact writes.some
  have fits : ¬ (digits.isEmpty = true ∨ most < digits.length ∨ limit ≤ number) := by
    rintro (empty | longer | larger)
    · rw [some] at empty
      cases empty
    · exact Nat.not_lt.mpr short longer
    · exact Nat.not_lt.mpr larger small
  have noZero : ¬ ((!leadingZeros) = true ∧ digits.head? = .some '0' ∧ 1 < digits.length) := by
    rintro ⟨strict, zero, longer⟩
    rcases proper with lax | other | single
    · rw [lax] at strict
      cases strict
    · exact other zero
    · omega
  simp only [readNumber?, taken, writes.value, List.drop_left]
  rw [if_neg fits, if_neg noZero]

/-! ### Dotted addresses -/

theorem readOctet?_toDigits (form : Form) (octet : UInt8) {rest : List Char}
    (ends : ∀ character, rest.head? = some character → digitOf? 10 character = none) :
    readOctet? form (Nat.toDigits 10 octet.toNat ++ rest) = some (octet, rest) := by
  have small := octet.toNat_lt
  have short : (Nat.toDigits 10 octet.toNat).length ≤ 3 :=
    (Nat.length_toDigits_le_iff (by decide) (by decide)).mpr (by omega)
  have proper : (Nat.toDigits 10 octet.toNat).head? ≠ some '0' ∨
      (Nat.toDigits 10 octet.toNat).length = 1 := by
    by_cases zero : octet.toNat = 0
    · rw [zero]
      exact Or.inr rfl
    · obtain ⟨first, others, isStart, notZero⟩ := toDigits_start zero
      rw [isStart]
      exact Or.inl fun same => notZero (Option.some.inj same)
  rw [readOctet?, readNumber?_of_writes (writes_toDigits (by decide) (by decide) _) short small
    (Or.inr proper) ends]
  exact congrArg (fun octet => some (octet, rest)) (UInt8.ofNat_toNat)

theorem toList_dotted (first second third fourth : UInt8) :
    (dotted [first, second, third, fourth]).toList =
      Nat.toDigits 10 first.toNat ++ '.' :: (Nat.toDigits 10 second.toNat ++
        '.' :: (Nat.toDigits 10 third.toNat ++ '.' :: Nat.toDigits 10 fourth.toNat)) := by
  have digits (number : Nat) : (toString number).toList = Nat.toDigits 10 number :=
    Nat.toList_repr
  have dot : ".".toList = ['.'] := by decide
  simp only [dotted, String.toList_intercalate, List.map_cons, List.map_nil, digits, dot,
    List.intercalate_cons_cons, List.intercalate_singleton, List.append_assoc,
    List.singleton_append]

theorem readDotted?_dotted (form : Form) (first second third fourth : UInt8) :
    readDotted? form (dotted [first, second, third, fourth]).toList =
      some (#v[first, second, third, fourth], []) := by
  have dot (rest : List Char) (character : Char) (isHead : ('.' :: rest).head? = some character) :
      digitOf? 10 character = none := by
    rw [← Option.some.inj isHead]
    decide
  have last := @readOctet?_toDigits form fourth [] nofun
  rw [List.append_nil] at last
  rw [toList_dotted, readDotted?, readOctet?_toDigits form first (dot _)]
  show (readOctet? form _ >>= _) = _
  rw [readOctet?_toDigits form second (dot _)]
  show (readOctet? form _ >>= _) = _
  rw [readOctet?_toDigits form third (dot _)]
  show (readOctet? form _ >>= _) = _
  rw [last]
  rfl

/-- A dotted address has a dot behind its first digits. -/
theorem of_readDotted? {form : Form} {input : List Char} {read : Vector UInt8 4 × List Char}
    (isRead : readDotted? form input = some read) :
    ∃ digits rest, input = digits ++ '.' :: rest ∧
      ∀ digit ∈ digits, (digitOf? 10 digit).isSome = true := by
  rw [readDotted?, Option.bind_eq_bind, Option.bind_eq_some_iff] at isRead
  obtain ⟨⟨first, rest⟩, isFirst, isRest⟩ := isRead
  obtain ⟨behind, isBehind, _⟩ := Option.bind_eq_some_iff.mp isRest
  obtain ⟨⟨number, same⟩, isNumber, isSame⟩ := Option.bind_eq_some_iff.mp isFirst
  obtain ⟨-, rfl⟩ := Prod.mk.inj (Option.some.inj isSame)
  refine ⟨input.takeWhile fun character => (digitOf? 10 character).isSome, behind, ?_,
    fun digit member => ?_⟩
  rotate_left
  · have isDigit := List.mem_takeWhile_imp member
    exact isDigit
  have isDropped : same = input.drop
      (input.takeWhile fun character => (digitOf? 10 character).isSome).length := by
    simp only [readNumber?] at isNumber
    split at isNumber
    · cases isNumber
    · split at isNumber
      · cases isNumber
      · exact (Prod.mk.inj (Option.some.inj isNumber)).2.symm
  have isDot : same = '.' :: behind := by
    cases same with
    | nil => cases isBehind
    | cons character others =>
      obtain ⟨isMark, isOthers⟩ := Option.ite_none_right_eq_some.mp isBehind
      rw [isMark, Option.some.inj isOthers]
  rw [← isDot, isDropped]
  exact (List.prefix_iff_eq_append.mp (List.takeWhile_prefix _)).symm

/-! ### Rows of groups -/

/-- Groups as they are written one after the other, a colon between two of them. -/
def row (first : Bool) : List UInt16 → List Char
  | [] => []
  | group :: rest =>
    (if first then [] else [':']) ++ Nat.toDigits 16 group.toNat ++ row false rest

/-- What stands behind the digits of a group: a colon or nothing. -/
def Ends (rest : List Char) : Prop := ∀ character, rest.head? = some character → character = ':'

theorem Ends.row {rest : List Char} (ends : Ends rest) (groups : List UInt16) :
    Ends (row false groups ++ rest) := by
  cases groups with
  | nil => exact ends
  | cons group others => exact fun character isHead => (Option.some.inj isHead).symm

theorem Ends.noDigit {rest : List Char} (ends : Ends rest) (character : Char)
    (isHead : rest.head? = some character) : digitOf? 16 character = none := by
  rw [ends character isHead]
  decide

theorem toList_colons (groups : List UInt16) : (colons groups).toList = row true groups := by
  rw [colons, String.toList_intercalate, List.map_map]
  cases groups with
  | nil => rfl
  | cons group rest =>
    induction rest generalizing group with
    | nil =>
      rw [List.map_cons, List.map_nil, List.intercalate_singleton]
      exact String.toList_ofList.trans (List.append_nil _).symm
    | cons next others inductionHypothesis =>
      rw [List.map_cons, List.map_cons, List.intercalate_cons_cons, ← List.map_cons,
        inductionHypothesis next]
      show (Hex.ofNat group.toNat).toList ++ _ ++ _ = _
      rw [Hex.ofNat, String.toList_ofList, List.append_assoc]
      rfl

theorem readNumber?_group (group : UInt16) {rest : List Char} (ends : Ends rest) :
    readNumber? 16 4 65536 true (Nat.toDigits 16 group.toNat ++ rest) =
      some (group.toNat, rest) := by
  have small := group.toNat_lt
  have short : (Nat.toDigits 16 group.toNat).length ≤ 4 :=
    (Nat.length_toDigits_le_iff (by decide) (by decide)).mpr small
  exact readNumber?_of_writes (writes_toDigits (by decide) (by decide) _) short small
    (Or.inl rfl) ends.noDigit

/-- Where a colon or nothing stands behind hexadecimal digits, there is no dotted address. -/
theorem readDotted?_eq_none (form : Form) {digits rest : List Char}
    (inBase : ∀ digit ∈ digits, (digitOf? 16 digit).isSome = true) (ends : Ends rest) :
    readDotted? form (digits ++ rest) = none := by
  by_contra isSome
  obtain ⟨read, isRead⟩ := Option.ne_none_iff_exists'.mp isSome
  obtain ⟨decimals, behind, same, isDecimal⟩ := of_readDotted? isRead
  have widened : ∀ digit ∈ decimals, (digitOf? 16 digit).isSome = true :=
    fun digit member => isSome_digitOf?_of_decimal (isDecimal digit member)
  have dropped := congrArg
    (List.dropWhile fun character => (digitOf? 16 character).isSome) same
  rw [List.dropWhile_append_of_pos inBase, List.dropWhile_append_of_pos widened,
    List.dropWhile_cons_of_neg (by decide)] at dropped
  cases rest with
  | nil => cases dropped
  | cons character others =>
    have isColon := ends character rfl
    rw [List.dropWhile_cons_of_neg (by rw [isColon]; decide)] at dropped
    have isDot := (List.cons.inj dropped).1
    rw [isColon] at isDot
    exact absurd isDot (by decide)

/-- A row that is written is read, and then what stands behind it. -/
theorem readGroups_row (form : Form) (first : Bool) (groups : List UInt16) (room : Nat)
    {rest : List Char} (ends : Ends rest) :
    readGroups form first (groups.length + room) (row first groups ++ rest) =
      { readGroups form (first && groups.isEmpty) room rest with
        groups := groups ++ (readGroups form (first && groups.isEmpty) room rest).groups } := by
  induction groups generalizing first with
  | nil => rw [List.length_nil, Nat.zero_add, List.isEmpty_nil, Bool.and_true]; rfl
  | cons group others inductionHypothesis =>
    have later := ends.row others
    have between : readBetween? ':' first (row first (group :: others) ++ rest) =
        some (Nat.toDigits 16 group.toNat ++ (row false others ++ rest)) := by
      rw [row, List.append_assoc, List.append_assoc]
      cases first <;> rfl
    have noDotted := readDotted?_eq_none form
      (writes_toDigits (by decide) (by decide) group.toNat).inBase later
    have step : (others.length + 1) + room = (others.length + room) + 1 := by omega
    rw [List.length_cons, step, readGroups, between]
    dsimp only [Option.bind_some]
    rw [noDotted, ite_self, readNumber?_group group later]
    dsimp only
    rw [inductionHypothesis, UInt16.ofNat_toNat]
    cases first <;> rfl

/-- Nothing is read where no digit stands. -/
theorem readGroups_none (form : Form) {first : Bool} (room : Nat) {input : List Char}
    (ends : ∀ behind, readBetween? ':' first input = some behind → Ends behind) :
    readGroups form first room input = ⟨[], false, input⟩ := by
  cases room with
  | zero => rfl
  | succ room =>
    rw [readGroups]
    cases isBetween : readBetween? ':' first input with
    | none => rfl
    | some behind =>
      have isEnd := ends behind isBetween
      have noDotted := @readDotted?_eq_none form [] behind (List.forall_mem_nil _) isEnd
      have noNumber : readNumber? 16 4 65536 true behind = none := by
        have nothing : behind.takeWhile (fun character => (digitOf? 16 character).isSome) = [] := by
          cases behind with
          | nil => rfl
          | cons character others =>
            exact List.takeWhile_cons_of_neg (by rw [isEnd.noDigit character rfl]; decide)
        simp only [readNumber?, nothing]
        exact if_pos (Or.inl rfl)
      rw [List.nil_append] at noDotted
      dsimp only [Option.bind_some]
      rw [noDotted, ite_self, noNumber]

/-! ### Eight groups -/

/-- The longest run of zeros is one. -/
theorem exists_of_longestRun (position : Nat) (groups : List UInt16) :
    ∃ front back,
      groups = front ++ List.replicate (longestRun position groups).2 0 ++ back ∧
        (longestRun position groups).1 = position + front.length := by
  induction groups generalizing position with
  | nil => exact ⟨[], [], rfl, rfl⟩
  | cons group rest inductionHypothesis =>
    rw [longestRun]
    split
    · have zeros : (group :: rest).takeWhile (· == 0) =
          List.replicate (zeroRun (group :: rest)) 0 :=
        List.eq_replicate_iff.mpr ⟨rfl, fun other member => by
          have isZero := List.mem_takeWhile_imp member
          exact beq_iff_eq.mp isZero⟩
      refine ⟨[], (group :: rest).dropWhile (· == 0), ?_, rfl⟩
      show _ = List.replicate (zeroRun (group :: rest)) 0 ++ _
      rw [← zeros, List.takeWhile_append_dropWhile]
    · obtain ⟨front, back, isRest, isStart⟩ := inductionHypothesis (position + 1)
      refine ⟨group :: front, back, ?_, ?_⟩
      · rw [List.cons_append, List.cons_append, ← isRest]
      · rw [isStart, List.length_cons]
        omega

theorem fillGroups?_eq {front back : List UInt16} {groups : Vector UInt16 8}
    (whole : groups.toList =
      front ++ List.replicate (8 - front.length - back.length) 0 ++ back) :
    fillGroups? front back = some groups := by
  have size : (front ++ List.replicate (8 - front.length - back.length) 0 ++ back).toArray.size =
      8 := by
    rw [← whole]
    exact groups.size_toArray
  have same : (front ++ List.replicate (8 - front.length - back.length) 0 ++ back).toArray =
      groups.toArray := by
    rw [← whole]
    exact Array.toArray_toList
  rw [fillGroups?, dif_pos size]
  exact congrArg some (Vector.toArray_inj.mp same)

/-- A text with a gap is read if the row behind the gap is. -/
theorem readColons?_of_gap {front back : List UInt16} {endsDotted : Bool} {behind : List Char}
    {groups : Vector UInt16 8} (short : front.length < 8)
    (isBack : readGroups Form.strict true (8 - front.length - 1) behind = ⟨back, endsDotted, []⟩)
    (whole : groups.toList =
      front ++ List.replicate (8 - front.length - back.length) 0 ++ back) :
    readColons? Form.strict (row true front ++ ':' :: ':' :: behind) = some (groups, []) := by
  have colon : Ends (':' :: ':' :: behind) := fun _ isHead => (Option.some.inj isHead).symm
  have nothing : readGroups Form.strict (true && front.isEmpty) (8 - front.length)
      (':' :: ':' :: behind) = ⟨[], false, ':' :: ':' :: behind⟩ := by
    refine readGroups_none _ _ fun after isAfter => ?_
    cases front with
    | nil => exact Option.some.inj isAfter ▸ colon
    | cons group others =>
      rw [← Option.some.inj isAfter]
      exact fun _ isHead => (Option.some.inj isHead).symm
  have isFront := readGroups_row Form.strict true front (8 - front.length) colon
  rw [nothing, Nat.add_sub_cancel' (Nat.le_of_lt short), List.append_nil] at isFront
  rw [readColons?, isFront]
  rw [if_neg (Nat.ne_of_lt short), if_neg Bool.false_ne_true]
  show ((fillGroups? front (readGroups Form.strict true (8 - front.length - 1) behind).groups).bind
    fun groups =>
      some (groups, (readGroups Form.strict true (8 - front.length - 1) behind).rest)) = _
  rw [isBack]
  dsimp only
  rw [fillGroups?_eq whole]
  rfl

theorem readGroups_whole (form : Form) (groups : List UInt16) {room : Nat}
    (enough : groups.length ≤ room) :
    readGroups form true room (row true groups) = ⟨groups, false, []⟩ := by
  obtain ⟨spare, rfl⟩ := Nat.exists_eq_add_of_le enough
  have isRow := @readGroups_row form true groups spare [] nofun
  have nothing : readGroups form (true && groups.isEmpty) spare [] = ⟨[], false, []⟩ := by
    refine readGroups_none form spare fun behind isBehind => ?_
    cases groups with
    | nil => exact Option.some.inj isBehind ▸ nofun
    | cons group others => cases isBehind
  rwa [nothing, List.append_nil, List.append_nil] at isRow

/-- What eight groups are written as: whole, with a gap, or with a dotted address at the end. -/
inductive Shape (groups : List UInt16) : List Char → Prop
  | whole : Shape groups (row true groups)
  | gap {front back : List UInt16} {length : Nat} (long : 2 ≤ length)
    (isWhole : groups = front ++ List.replicate length 0 ++ back) :
    Shape groups (row true front ++ ':' :: ':' :: row true back)
  | mapped {high low : UInt16} (isWhole : groups = [0, 0, 0, 0, 0, 0xffff, high, low]) :
    Shape groups (':' :: ':' :: (row true [0xffff] ++ ':' ::
      (dotted [UInt8.ofNat (high.toNat / 256), UInt8.ofNat high.toNat,
        UInt8.ofNat (low.toNat / 256), UInt8.ofNat low.toNat]).toList))

theorem shape_groupsText (groups : List UInt16) : Shape groups (groupsText groups).toList := by
  rw [groupsText]
  split
  · next octets isMapped =>
    unfold mapped? at isMapped
    split at isMapped
    · next high low =>
      rw [← Option.some.inj isMapped, String.toList_append]
      exact .mapped rfl
    · cases isMapped
  · dsimp only
    split
    · rw [toList_colons]
      exact .whole
    · next long =>
      obtain ⟨front, back, isWhole, isStart⟩ := exists_of_longestRun 0 groups
      generalize longestRun 0 groups = run at long isWhole isStart
      obtain ⟨start, length⟩ := run
      dsimp only at long isWhole isStart
      rw [Nat.zero_add] at isStart
      subst isWhole isStart
      have isFront : (front ++ List.replicate length 0 ++ back).take front.length = front := by
        rw [List.append_assoc, List.take_left]
      have isBack : (front ++ List.replicate length 0 ++ back).drop (front.length + length) =
          back := List.drop_left' (by rw [List.length_append, List.length_replicate])
      have colons : "::".toList = [':', ':'] := by decide
      dsimp only
      rw [String.toList_append, String.toList_append, isFront, isBack, toList_colons,
        toList_colons, List.append_assoc (row true front), colons]
      exact .gap (Nat.not_lt.mp long) rfl

/-- The two groups that a dotted address takes are those that it was written for. -/
theorem groupsOfDotted_halves (high low : UInt16) :
    groupsOfDotted #v[UInt8.ofNat (high.toNat / 256), UInt8.ofNat high.toNat,
      UInt8.ofNat (low.toNat / 256), UInt8.ofNat low.toNat] = [high, low] := by
  have together (group : UInt16) : UInt16.ofNat (256 * (UInt8.ofNat (group.toNat / 256)).toNat +
      (UInt8.ofNat group.toNat).toNat) = group := by
    have small := group.toNat_lt
    refine UInt16.toNat.inj ?_
    rw [UInt16.toNat_ofNat', UInt8.toNat_ofNat', UInt8.toNat_ofNat']
    omega
  exact congrArg₂ (fun high low => [high, low]) (together high) (together low)

/-- A dotted address ends a row. -/
theorem readGroups_dotted (form : Form) (room : Nat) (first second third fourth : UInt8) :
    readGroups form false (room + 2) (':' :: (dotted [first, second, third, fourth]).toList) =
      ⟨groupsOfDotted #v[first, second, third, fourth], true, []⟩ := by
  have between : readBetween? ':' false (':' :: (dotted [first, second, third, fourth]).toList) =
      some (dotted [first, second, third, fourth]).toList := rfl
  rw [readGroups, between]
  dsimp only [Option.bind_some]
  rw [if_neg (Nat.succ_ne_zero room), readDotted?_dotted]

theorem readColons?_groupsText (groups : Vector UInt16 8) :
    readColons? Form.strict (groupsText groups.toList).toList = some (groups, []) := by
  have size : groups.toList.length = 8 := groups.length_toList
  generalize isText : (groupsText groups.toList).toList = text
  have shape := shape_groupsText groups.toList
  rw [isText] at shape
  cases shape with
  | whole =>
    have isWhole := readGroups_whole Form.strict groups.toList (Nat.le_of_eq size)
    have filled : fillGroups? groups.toList [] = some groups := by
      refine fillGroups?_eq ?_
      rw [size]
      exact (List.append_nil _).symm.trans (List.append_nil _).symm
    rw [readColons?, isWhole]
    dsimp only
    rw [if_pos size, filled]
    rfl
  | @gap front back length long isWhole =>
    have lengths := congrArg List.length isWhole
    rw [size, List.length_append, List.length_append, List.length_replicate] at lengths
    have missing : 8 - front.length - back.length = length := by omega
    refine readColons?_of_gap (by omega) (readGroups_whole _ back (by omega)) ?_
    rw [missing, isWhole]
  | @mapped high low isWhole =>
    have colon : Ends (':' :: (dotted [UInt8.ofNat (high.toNat / 256), UInt8.ofNat high.toNat,
        UInt8.ofNat (low.toNat / 256), UInt8.ofNat low.toNat]).toList) :=
      fun _ isHead => (Option.some.inj isHead).symm
    have isBack := readGroups_row Form.strict true [0xffff] 6 colon
    rw [List.isEmpty_cons, Bool.and_false, readGroups_dotted, groupsOfDotted_halves] at isBack
    exact @readColons?_of_gap [] [0xffff, high, low] true _ groups (by decide) isBack isWhole

/-! ### Addresses -/

theorem readDotted?_row (form : Form) (groups : List UInt16) {rest : List Char}
    (ends : Ends rest) : readDotted? form (row true groups ++ rest) = none := by
  cases groups with
  | nil => exact readDotted?_eq_none form (List.forall_mem_nil _) ends
  | cons group others =>
    rw [row, if_pos rfl, List.nil_append, List.append_assoc]
    exact readDotted?_eq_none form (writes_toDigits (by decide) (by decide) _).inBase
      (ends.row others)

theorem readDotted?_groupsText (form : Form) (groups : List UInt16) :
    readDotted? form (groupsText groups).toList = none := by
  have colon (rest : List Char) : Ends (':' :: rest) :=
    fun _ isHead => (Option.some.inj isHead).symm
  generalize isText : (groupsText groups).toList = text
  have shape := shape_groupsText groups
  rw [isText] at shape
  cases shape with
  | whole =>
    have noDotted := @readDotted?_row form groups [] nofun
    rwa [List.append_nil] at noDotted
  | gap long isWhole => exact readDotted?_row form _ (colon _)
  | mapped isWhole => exact readDotted?_row form [] (colon _)

theorem exists_octets (octets : Vector UInt8 4) :
    ∃ first second third fourth, octets = #v[first, second, third, fourth] := by
  obtain ⟨⟨list⟩, size⟩ := octets
  match list, size with
  | [first, second, third, fourth], _ => exact ⟨first, second, third, fourth, rfl⟩

/-- The text of an address is read back as the address. -/
theorem ofText?_text (address : Ip) : ofText? address.text = some address := by
  cases address with
  | v4 octets =>
    obtain ⟨first, second, third, fourth, rfl⟩ := exists_octets octets
    have isRead : readDotted? Form.strict (v4 #v[first, second, third, fourth]).text.toList =
        some (#v[first, second, third, fourth], []) :=
      readDotted?_dotted Form.strict first second third fourth
    rw [ofText?, isRead]
  | v6 groups =>
    have isRead := readColons?_groupsText groups
    rw [ofText?, text, readDotted?_groupsText]
    dsimp only
    rw [isRead]

/-! ### Characters -/

/-- The characters that addresses are written with. -/
def IsMark (character : Char) : Prop :=
  (digitOf? 16 character).isSome = true ∨ character = '.' ∨ character = ':'

theorem IsMark.not_blank {character : Char} (isMark : IsMark character) :
    Text.isBlank character = false := by
  rcases isMark with isDigit | rfl | rfl
  · rw [digitOf?] at isDigit
    split at isDigit
    · next ascii =>
      obtain ⟨value, isValue⟩ := Option.isSome_iff_exists.mp isDigit
      have isHalf := (Option.filter_eq_some_iff.mp isValue).1
      have code : (UInt8.ofNat character.toNat).toNat = character.toNat := by
        rw [UInt8.toNat_ofNat']
        omega
      have range := Hex.half?_cases isHalf
      rw [code] at range
      have blanks : ∀ code < 128, 48 ≤ code → Text.isBlank (Char.ofNat code) = false := by decide
      have notBlank := blanks character.toNat ascii (by omega)
      rwa [Char.ofNat_toNat] at notBlank
    · cases isDigit
  · decide
  · decide

theorem isMark_toDigits {base : Nat} (known : base = 10 ∨ base = 16) (number : Nat) :
    ∀ character ∈ Nat.toDigits base number, IsMark character := by
  intro character member
  rcases known with rfl | rfl
  · exact Or.inl (isSome_digitOf?_of_decimal
      ((writes_toDigits (by decide) (by decide) number).inBase character member))
  · exact Or.inl ((writes_toDigits (by decide) (by decide) number).inBase character member)

theorem isMark_dotted (first second third fourth : UInt8) :
    ∀ character ∈ (dotted [first, second, third, fourth]).toList, IsMark character := by
  have octet (octet : UInt8) := isMark_toDigits (Or.inl rfl) octet.toNat
  have dot : IsMark '.' := Or.inr (Or.inl rfl)
  rw [toList_dotted]
  simp only [List.forall_mem_append, List.forall_mem_cons]
  exact ⟨octet first, dot, octet second, dot, octet third, dot, octet fourth⟩

theorem isMark_row (first : Bool) (groups : List UInt16) :
    ∀ character ∈ row first groups, IsMark character := by
  induction groups generalizing first with
  | nil => exact List.forall_mem_nil _
  | cons group others inductionHypothesis =>
    rw [row]
    simp only [List.forall_mem_append]
    refine ⟨⟨?_, isMark_toDigits (Or.inr rfl) _⟩, inductionHypothesis false⟩
    cases first with
    | true => exact List.forall_mem_nil _
    | false => exact List.forall_mem_singleton.mpr (Or.inr (Or.inr rfl))

theorem isMark_text (address : Ip) : ∀ character ∈ address.text.toList, IsMark character := by
  cases address with
  | v4 octets =>
    obtain ⟨first, second, third, fourth, rfl⟩ := exists_octets octets
    exact isMark_dotted first second third fourth
  | v6 groups =>
    have colon : IsMark ':' := Or.inr (Or.inr rfl)
    show ∀ character ∈ (groupsText groups.toList).toList, IsMark character
    generalize isText : (groupsText groups.toList).toList = text
    have shape := shape_groupsText groups.toList
    rw [isText] at shape
    cases shape with
    | whole => exact isMark_row true groups.toList
    | gap long isWhole =>
      simp only [List.forall_mem_append, List.forall_mem_cons]
      exact ⟨isMark_row true _, colon, colon, isMark_row true _⟩
    | mapped isWhole =>
      simp only [List.forall_mem_append, List.forall_mem_cons]
      exact ⟨colon, colon, isMark_row true _, colon, isMark_dotted _ _ _ _⟩

end Metering.Ip
