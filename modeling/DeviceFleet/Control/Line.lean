import DeviceFleet.Text.Blank

/-!
# The control line protocol

A control client sends one command per line: a method, a path and an optional body, separated
by blanks. Blanks around the line and the body do not count, and blanks between method and
path may repeat. A line without a path is not a command.
-/

namespace DeviceFleet.Control

/-- Split at the first blank: the text before it and the text after it. -/
def splitAtBlank (cs : List Char) : Option (List Char × List Char) :=
  match cs.findIdx? Text.isBlank with
  | some i => some (cs.take i, cs.drop (i + 1))
  | none => none

def parseLine (line : String) : Option (String × String × String) := do
  let cs := Text.trimBlankChars line.toList
  let (method, rest) ← splitAtBlank cs
  let rest := rest.dropWhile Text.isBlank
  let (path, body) := (splitAtBlank rest).getD (rest, [])
  if path.isEmpty then none
  else some (String.ofList method, String.ofList path, String.ofList (Text.trimBlankChars body))

end DeviceFleet.Control
