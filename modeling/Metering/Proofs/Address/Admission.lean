/-
A subnet takes in just the addresses of its own version that have its leading bits. The number of
an address is that of its bits in their order, so to divide it by a power of two is to drop the
bits at the end. An address is reported in its text, which reads back as the address, and the
blanks around it do not count; so whoever is admitted is admitted again under the text of the
address that was read.
-/

import Mathlib.Algebra.BigOperators.Group.List.Basic
import Mathlib.Tactic.Ring
import Metering.Address.Subnet
import Metering.Proofs.Address.Text

namespace Metering

/-! ### Leading bits -/

/-- The low bits of a number, so many, the highest first. -/
def bitsOf : Nat → Nat → List Bool
  | 0, _ => []
  | width + 1, number => number.testBit width :: bitsOf width number

/-- The number that goes on from a total with more binary digits. -/
def extended (total : Nat) (bits : List Bool) : Nat :=
  bits.foldl (fun total bit => 2 * total + bit.toNat) total

theorem length_bitsOf (width number : Nat) : (bitsOf width number).length = width := by
  induction width with
  | zero => rfl
  | succ width inductionHypothesis => rw [bitsOf, List.length_cons, inductionHypothesis]

theorem extended_eq (total : Nat) (bits : List Bool) :
    extended total bits = 2 ^ bits.length * total + extended 0 bits := by
  induction bits generalizing total with
  | nil => exact (Nat.one_mul total).symm
  | cons bit rest inductionHypothesis =>
    have here := inductionHypothesis (2 * total + bit.toNat)
    have start := inductionHypothesis (2 * 0 + bit.toNat)
    rw [List.length_cons, pow_succ]
    show extended (2 * total + bit.toNat) rest = _ + extended (2 * 0 + bit.toNat) rest
    rw [here, start]
    ring

theorem extended_lt (bits : List Bool) : extended 0 bits < 2 ^ bits.length := by
  induction bits with
  | nil => exact Nat.one_pos
  | cons bit rest inductionHypothesis =>
    have small := bit.toNat_le
    have head : 2 ^ rest.length * bit.toNat ≤ 2 ^ rest.length * 1 := Nat.mul_le_mul_left _ small
    show extended (2 * 0 + bit.toNat) rest < _
    rw [extended_eq, List.length_cons, pow_succ, Nat.mul_zero, Nat.zero_add]
    omega

theorem extended_bitsOf (total width : Nat) {number : Nat} (small : number < 2 ^ width) :
    extended total (bitsOf width number) = 2 ^ width * total + number := by
  have low (width number : Nat) : extended 0 (bitsOf width number) = number % 2 ^ width := by
    induction width with
    | zero => exact (Nat.mod_one number).symm
    | succ width inductionHypothesis =>
      show extended (2 * 0 + (number.testBit width).toNat) (bitsOf width number) = _
      rw [extended_eq, inductionHypothesis, length_bitsOf, Nat.mul_zero, Nat.zero_add,
        Nat.toNat_testBit, pow_succ, Nat.mod_mul, Nat.add_comm]
  rw [extended_eq, length_bitsOf, low, Nat.mod_eq_of_lt small]

/-- As many binary digits make up one number only. -/
theorem eq_of_extended {bits others : List Bool} (lengths : bits.length = others.length)
    (same : extended 0 bits = extended 0 others) : bits = others := by
  induction bits generalizing others with
  | nil => exact (List.length_eq_zero_iff.mp lengths.symm).symm
  | cons bit rest inductionHypothesis =>
    cases others with
    | nil => cases lengths
    | cons other more =>
      have restLengths : rest.length = more.length := Nat.succ.inj lengths
      have size : 0 < 2 ^ rest.length := Nat.two_pow_pos _
      have low := extended_lt rest
      have otherLow := extended_lt more
      change extended (2 * 0 + bit.toNat) rest = extended (2 * 0 + other.toNat) more at same
      rw [extended_eq, extended_eq (2 * 0 + other.toNat), ← restLengths] at same
      rw [← restLengths] at otherLow
      cases bit <;> cases other <;>
        simp only [Bool.toNat_true, Bool.toNat_false, Nat.mul_zero, Nat.zero_add, Nat.mul_one]
          at same
      · rw [inductionHypothesis restLengths same]
      · omega
      · omega
      · rw [inductionHypothesis restLengths (Nat.add_left_cancel same)]

namespace Ip

/-- The bits of an address from its first octet or group on, in each of them the highest first. -/
def bits : Ip → List Bool
  | .v4 octets => octets.toList.flatMap fun octet => bitsOf 8 octet.toNat
  | .v6 groups => groups.toList.flatMap fun group => bitsOf 16 group.toNat

theorem length_bits (address : Ip) : address.bits.length = address.width := by
  cases address with
  | v4 octets =>
    simp only [bits, List.length_flatMap, length_bitsOf, List.map_const', List.sum_replicate,
      Vector.length_toList]
    rfl
  | v6 groups =>
    simp only [bits, List.length_flatMap, length_bitsOf, List.map_const', List.sum_replicate,
      Vector.length_toList]
    rfl

theorem number_eq (address : Ip) : address.number = extended 0 address.bits := by
  cases address with
  | v4 octets =>
    rw [number, bits, extended, List.foldl_flatMap]
    refine congrArg (fun step => octets.toList.foldl step 0) (funext₂ fun total octet => ?_)
    exact (extended_bitsOf total 8 octet.toNat_lt).symm
  | v6 groups =>
    rw [number, bits, extended, List.foldl_flatMap]
    refine congrArg (fun step => groups.toList.foldl step 0) (funext₂ fun total group => ?_)
    exact (extended_bitsOf total 16 group.toNat_lt).symm

/-- What is left of the number of an address when the bits behind the leading ones are cut off. -/
theorem number_div (address : Ip) (count : Nat) :
    address.number / 2 ^ (address.width - count) = extended 0 (address.bits.take count) := by
  have cut : extended 0 address.bits =
      extended (extended 0 (address.bits.take count)) (address.bits.drop count) := by
    rw [extended, extended, extended, ← List.foldl_append, List.take_append_drop]
  have behind : (address.bits.drop count).length = address.width - count := by
    rw [List.length_drop, length_bits]
  have low := extended_lt (address.bits.drop count)
  rw [behind] at low
  rw [number_eq, cut, extended_eq, behind, Nat.mul_add_div (Nat.two_pow_pos _),
    Nat.div_eq_of_lt low, Nat.add_zero]

theorem agreesFor_iff (count : Nat) (left right : Ip) :
    left.agreesFor count right = true ↔
      left.width = right.width ∧ left.bits.take count = right.bits.take count := by
  rw [agreesFor, Bool.and_eq_true, beq_iff_eq, beq_iff_eq]
  show _ ∧ left.number / 2 ^ (left.width - count) = right.number / 2 ^ (right.width - count) ↔ _
  rw [number_div, number_div]
  refine and_congr_right fun widths => ⟨eq_of_extended ?_, congrArg _⟩
  rw [List.length_take, List.length_take, length_bits, length_bits, widths]

end Ip

/-! ### Reports -/

/-- Blanks around a text without blanks are all that is trimmed. -/
theorem Text.trim_around {front back text : String}
    (frontBlank : ∀ character ∈ front.toList, isBlank character = true)
    (backBlank : ∀ character ∈ back.toList, isBlank character = true)
    (noBlank : ∀ character ∈ text.toList, isBlank character = false) :
    trim (front ++ text ++ back) = text := by
  have nothing {blanks : List Char} (blank : ∀ character ∈ blanks, isBlank character = true) :
      blanks.dropWhile isBlank = [] := List.dropWhile_eq_nil_iff.mpr blank
  have stripped : strip isBlank (front.toList ++ text.toList ++ back.toList) = text.toList := by
    rw [strip, List.append_assoc, List.dropWhile_append_of_pos frontBlank]
    generalize text.toList = inner at noBlank
    cases inner with
    | nil => rw [List.nil_append, nothing backBlank]; rfl
    | cons first rest =>
      have backReverse : ∀ character ∈ back.toList.reverse, isBlank character = true :=
        fun character member => backBlank character (List.mem_reverse.mp member)
      have same := strip_of_none noBlank
      rw [strip, List.dropWhile_cons_of_neg
        (Bool.eq_false_iff.mp (noBlank first List.mem_cons_self))] at same
      rw [List.cons_append, List.dropWhile_cons_of_neg
        (Bool.eq_false_iff.mp (noBlank first List.mem_cons_self)), ← List.cons_append,
        List.reverse_append, List.dropWhile_append_of_pos backReverse, same]
  rw [trim, String.toList_append, String.toList_append, stripped, String.ofList_toList]

namespace Subnet

/-- The addresses of a subnet: those of its version with its leading bits. -/
def Holds (subnet : Subnet) (address : Ip) : Prop :=
  subnet.address.width = address.width ∧
    subnet.address.bits.take subnet.bits = address.bits.take subnet.bits

instance (subnet : Subnet) (address : Ip) : Decidable (subnet.Holds address) :=
  inferInstanceAs (Decidable (_ ∧ _))

theorem contains_iff (subnet : Subnet) (address : Ip) :
    subnet.contains address = true ↔ subnet.Holds address :=
  Ip.agreesFor_iff subnet.bits subnet.address address

/-- A report is judged by the address that it is the text of. -/
theorem accept_text (subnet : Subnet) (address : Ip) {front back : String}
    (frontBlank : ∀ character ∈ front.toList, Text.isBlank character = true)
    (backBlank : ∀ character ∈ back.toList, Text.isBlank character = true) :
    subnet.accept (some (front ++ address.text ++ back)) =
      if subnet.Holds address then .ok address else .error (.untrusted address) := by
  have trimmed := Text.trim_around frontBlank backBlank fun character member =>
    (Ip.isMark_text address character member).not_blank
  have something : address.text.isEmpty = false := by
    rw [Bool.eq_false_iff, ne_eq, String.isEmpty_iff]
    intro empty
    have isRead := Ip.ofText?_text address
    rw [empty] at isRead
    cases isRead
  simp only [accept, Option.getD_some, trimmed, something, Bool.false_eq_true, if_false,
    Ip.ofText?_text]
  exact if_congr (subnet.contains_iff address) rfl rfl

theorem of_accept {subnet : Subnet} {reported : Option String} {address : Ip}
    (accepted : subnet.accept reported = .ok address) : subnet.Holds address := by
  rw [accept] at accepted
  split at accepted
  · cases accepted
  · split at accepted
    · cases accepted
    · split at accepted
      · next held =>
        rw [← Except.ok.inj accepted]
        exact (subnet.contains_iff _).mp held
      · cases accepted

/-- What a text gives is a prefix of an address. -/
theorem ofParts?_bits {address : Ip} {digits limit : Nat} {input : List Char} {subnet : Subnet}
    (parsed : ofParts? address digits limit input = some subnet) :
    subnet.address = address ∧ subnet.bits < limit := by
  rw [ofParts?, Option.bind_eq_bind, Option.bind_eq_some_iff] at parsed
  obtain ⟨behind, _, isParsed⟩ := parsed
  obtain ⟨⟨bits, rest⟩, isNumber, isSubnet⟩ := Option.bind_eq_some_iff.mp isParsed
  have below : bits < limit := by
    simp only [Ip.readNumber?] at isNumber
    split at isNumber
    · cases isNumber
    · next fits =>
      split at isNumber
      · cases isNumber
      · rw [← (Prod.mk.inj (Option.some.inj isNumber)).1]
        exact Nat.not_le.mp fun large => fits (Or.inr (Or.inr large))
  cases rest with
  | nil =>
    rw [← Option.some.inj isSubnet]
    exact ⟨rfl, below⟩
  | cons character others => cases isSubnet

/-- No subnet is read that has more leading bits than its address has bits. -/
theorem bits_le_of_ofText? {text : String} {subnet : Subnet} (parsed : ofText? text = some subnet) :
    subnet.bits ≤ subnet.address.width := by
  rw [ofText?] at parsed
  rcases Option.or_eq_some_iff.mp parsed with narrow | ⟨_, wide⟩
  · obtain ⟨⟨octets, rest⟩, _, isSubnet⟩ := Option.bind_eq_some_iff.mp narrow
    obtain ⟨isAddress, below⟩ := ofParts?_bits isSubnet
    rw [isAddress]
    exact Nat.le_of_lt_succ below
  · obtain ⟨⟨groups, rest⟩, _, isSubnet⟩ := Option.bind_eq_some_iff.mp wide
    obtain ⟨isAddress, below⟩ := ofParts?_bits isSubnet
    rw [isAddress]
    exact Nat.le_of_lt_succ below

/-- A subnet that is read from a text counts no more bits than there are. Whoever reports the text
of an address to it, with any blanks around it, is admitted exactly if the address is of the same
version and has the same leading bits, and is told otherwise that the address is not trusted; and
whatever report is accepted, the text of the address that was read is accepted as well. -/
theorem admits_just_its_own {cidr : String} {subnet : Subnet}
    (parsed : ofText? cidr = some subnet) :
    subnet.bits ≤ subnet.address.width ∧
    (∀ (address : Ip) (front back : String),
      (∀ character ∈ front.toList, Text.isBlank character = true) →
      (∀ character ∈ back.toList, Text.isBlank character = true) →
      subnet.accept (some (front ++ address.text ++ back)) =
        if subnet.Holds address then .ok address else .error (.untrusted address)) ∧
    ∀ reported address, subnet.accept reported = .ok address →
      subnet.accept (some address.text) = .ok address := by
  refine ⟨bits_le_of_ofText? parsed, fun address front back frontBlank backBlank => ?_,
    fun reported address accepted => ?_⟩
  · exact accept_text subnet address frontBlank backBlank
  · have again := @accept_text subnet address "" "" nofun nofun
    rw [if_pos (of_accept accepted)] at again
    rwa [String.empty_append, String.append_empty] at again

/-- Of two addresses that differ in the last bit that counts only one is in the subnet, and an
address of version 4 with the same first octets is not. -/
theorem admits_just_its_own_thirty_three_bits :
    ∃ subnet, ofText? "2001:db8:ffff::1/33" = some subnet ∧
      subnet.accept (some "\t2001:db8:8000::c0a8:1 ") =
        .ok (.v6 #v[0x2001, 0xdb8, 0x8000, 0, 0, 0, 0xc0a8, 1]) ∧
      subnet.accept (some "2001:db8:7fff::c0a8:1") =
        .error (.untrusted (.v6 #v[0x2001, 0xdb8, 0x7fff, 0, 0, 0, 0xc0a8, 1])) ∧
      subnet.accept (some "32.1.13.184") = .error (.untrusted (.v4 #v[32, 1, 13, 184])) := by
  have parsed : ofText? "2001:db8:ffff::1/33" =
      some ⟨.v6 #v[0x2001, 0xdb8, 0xffff, 0, 0, 0, 0, 1], 33⟩ := by decide +kernel
  have admits := (admits_just_its_own parsed).2.1
  have inside := admits (.v6 #v[0x2001, 0xdb8, 0x8000, 0, 0, 0, 0xc0a8, 1]) "\t" " "
    (List.all_eq_true.mp (by decide)) (List.all_eq_true.mp (by decide))
  have outside := admits (.v6 #v[0x2001, 0xdb8, 0x7fff, 0, 0, 0, 0xc0a8, 1]) "" "" nofun nofun
  have other := admits (.v4 #v[32, 1, 13, 184]) "" "" nofun nofun
  rw [if_pos (by decide +kernel)] at inside
  rw [if_neg (by decide +kernel)] at outside other
  exact ⟨_, parsed, inside, outside, other⟩

end Subnet

end Metering
