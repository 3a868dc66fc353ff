import DeviceFleet.Text.Printable

/-!
# Quoted text in messages

Text between double quotes, the quote and the backslash escaped, short escapes for tab,
carriage return, newline and NUL, and `\u{hex}` for characters that do not print.
-/

namespace DeviceFleet.Text

def hexText (n : Nat) : String :=
  String.ofList (Nat.toDigits 16 n)

/-- The escaped form of one character of quoted text. -/
def escapeShown (c : Char) : List Char :=
  let n := c.toNat
  if c = '"' then ['\\', '"']
  else if c = '\\' then ['\\', '\\']
  else if c = '\t' then ['\\', 't']
  else if c = '\r' then ['\\', 'r']
  else if c = '\n' then ['\\', 'n']
  else if n = 0 then ['\\', '0']
  else if isGraphemeExtended c || !isPrintable c then ("\\u\x7b" ++ hexText n ++ "\x7d").toList
  else [c]

def quoteShown (s : String) : String :=
  String.ofList ('"' :: (s.toList.flatMap escapeShown ++ ['"']))

/-- A list of texts as a message shows it: quoted items between brackets. -/
def listShown (xs : List String) : String :=
  "[" ++ ", ".intercalate (xs.map quoteShown) ++ "]"

end DeviceFleet.Text
