/-
Subnets and the admission of addresses to them. A subnet is written as an address and the
number of its leading bits that count; the other bits may be anything. Sources report their own
address, which is admitted when it is of the version of the subnet and agrees with it in the
bits that count.
-/

import Metering.Address.Reading
import Metering.Text.Blank

namespace Metering

/-- The addresses that agree with one in its leading bits. -/
structure Subnet where
  address : Ip
  bits : Nat
  deriving DecidableEq, Repr

/-- Why a reported address is not admitted. -/
inductive AdmissionError
  | missing
  | malformed (raw : String)
  | untrusted (address : Ip)
  deriving DecidableEq, Repr

/-- The text of an error. -/
def AdmissionError.message : AdmissionError → String
  | .missing => "missing x-real-ip"
  | .malformed raw => "malformed x-real-ip '" ++ raw ++ "'"
  | .untrusted address => "address " ++ address.text ++ " is outside the trusted subnet"

namespace Subnet

/-- The subnet that the characters behind an address make of it. -/
def ofParts? (address : Ip) (digits limit : Nat) (input : List Char) : Option Subnet := do
  match ← Ip.readNumber? 10 digits limit true (← Ip.readMark? '/' input) with
  | (bits, []) => return ⟨address, bits⟩
  | _ => none

/-- The subnet that is a whole text. -/
def ofText? (text : String) : Option Subnet :=
  let input := text.toList
  let narrow := do
    let (octets, rest) ← Ip.readDotted? Ip.Form.network input
    ofParts? (.v4 octets) 2 33 rest
  narrow.or do
    let (groups, rest) ← Ip.readColons? Ip.Form.network input
    ofParts? (.v6 groups) 3 129 rest

/-- The text of a subnet. -/
def text (subnet : Subnet) : String := subnet.address.text ++ "/" ++ toString subnet.bits

/-- Whether an address belongs to a subnet. -/
def contains (subnet : Subnet) (address : Ip) : Bool :=
  subnet.address.agreesFor subnet.bits address

/-- Accepts a reported address that belongs to the subnet. -/
def accept (subnet : Subnet) (reported : Option String) : Except AdmissionError Ip :=
  let raw := Text.trim (reported.getD "")
  if raw.isEmpty then .error .missing
  else
    match Ip.ofText? raw with
    | none => .error (.malformed raw)
    | some address =>
      if subnet.contains address then .ok address else .error (.untrusted address)

end Subnet

end Metering
