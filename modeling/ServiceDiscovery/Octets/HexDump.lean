import ServiceDiscovery.Octets.BigEndian

/-!
# Hex dumps

`hexDump` renders a message for a reader: two lower-case digits for each octet,
two octets in a group and sixteen on a line.
-/

namespace ServiceDiscovery

namespace Octets

/-- The two lower-case hexadecimal digits of an octet. -/
def hexDigits (octet : UInt8) : String :=
  String.ofList [Nat.digitChar (octet.toNat / 16), Nat.digitChar (octet.toNat % 16)]

/-- What stands in front of the octet at `index`: a line break before every
sixteenth octet, a blank before every other group, and nothing inside one. -/
def dumpSeparator (index : Nat) : String :=
  if index = 0 then ""
  else if index % 16 = 0 then "\n"
  else if index % 2 = 0 then " "
  else ""

end Octets

/-- Renders `message` as hex, two octets in a group and sixteen on a line. -/
def hexDump (message : Message) : String :=
  String.join
    (message.toList.zipIdx.map fun (octet, index) =>
      Octets.dumpSeparator index ++ Octets.hexDigits octet)

end ServiceDiscovery
