import DebugAdapter.Text.Blank
import DebugAdapter.Text.Integer
/-!
# Addresses and numbers

How numbers are shown to the editor, and how the addresses that it sends back are read.
-/

namespace DebugAdapter.Session

/-- An address: in hexadecimal behind `0x`, else in decimal. -/
def parseAddress? (reference : String) : Option Int :=
  match Text.trimChars reference.toList with
  | '0' :: 'x' :: digits | '0' :: 'X' :: digits =>
    (Text.readInteger .signed64 16 digits).toOption
  | digits => (Text.readInteger .signed64 10 digits).toOption

/-- A number in hexadecimal. -/
def hexText (n : Int) : String :=
  if n < 0 then "-0x" ++ Text.hexDigits n.natAbs else "0x" ++ Text.hexDigits n.natAbs

/-- A number as it is shown. -/
def numberText (hex : Bool) (n : Int) : String := if hex then hexText n else toString n

end DebugAdapter.Session
