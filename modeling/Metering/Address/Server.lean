/-
Where a server is: the texts that people configure, the base of its web addresses, and the
address that the agent itself is seen from on the way there.
-/

import Metering.Address.Ip
import Metering.Text.Blank
import Metering.Text.Cut

namespace Metering.ServerAddress

/-- The base of web addresses: no blanks around it, no slashes at its end, and the plain scheme
in front where none is given. -/
def base (address : String) : String :=
  let host := Text.trimEnd (· == '/') (Text.trim address)
  if (Text.cutAtPhrase? "://" host).isSome then host else "http://" ++ host

/-- The host and port of an address, without scheme and without slashes at its end. -/
def hostPort (address : String) : String :=
  let behindScheme := match Text.cutAtPhrase? "://" address with
    | some (_, rest) => rest
    | none => address
  Text.trimEnd (· == '/') behindScheme

/-- What the agent's machine knows of ways to others: the first address of a host and port, and
its own address on the way to another. -/
structure Routes where
  resolve : String → Option Ip
  outbound : Ip → Option Ip

/-- A machine that reaches nothing. -/
def Routes.none : Routes := ⟨fun _ => .none, fun _ => .none⟩

/-- The address of the agent on the way to the server. -/
def preferredIp (routes : Routes) (address : String) : Option Ip :=
  (routes.resolve (hostPort address)).bind routes.outbound

end Metering.ServerAddress
