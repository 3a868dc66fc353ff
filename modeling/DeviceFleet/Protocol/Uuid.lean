import DeviceFleet.Text.Bytes
import DeviceFleet.Text.Decimal

/-!
# Request identifiers

A 128-bit identifier, written as 32 lowercase hexadecimal digits in groups of 8-4-4-4-12.
Reading accepts either case, bare, hyphenated, in braces or after `urn:uuid:`, and names the
first fault it finds; fresh identifiers carry the marks of version 4.
-/

namespace DeviceFleet

/-- A 128-bit identifier, as its high and low 64 bits. -/
structure Uuid where
  hi : UInt64
  lo : UInt64
  deriving DecidableEq, Repr, Inhabited

/-- Why a text is no identifier. -/
inductive UuidError where
  /-- A character that is neither a hexadecimal digit nor a hyphen, at a byte position. -/
  | char (c : Char) (index : Nat)
  /-- A text of the wrong length: a bare one without hyphens, or one longer than every
  shape. -/
  | length (len : Nat)
  /-- A hyphenated form with the wrong number of groups. -/
  | groupCount (count : Nat)
  /-- A group of the wrong length. -/
  | groupLength (group : Nat) (len : Nat)
  deriving DecidableEq, Repr

namespace UuidError

def groupSizes : List Nat := [8, 4, 4, 4, 12]

def message : UuidError → String
  | .char c i => "invalid character: found `" ++ c.toString ++ "` at " ++ Text.natText i
  | .length len => "invalid length: found " ++ Text.natText len
  | .groupCount n => "invalid group count: expected 5, found " ++ Text.natText n
  | .groupLength g len =>
    "invalid group length in group " ++ Text.natText g ++ ": expected " ++
      Text.natText (groupSizes.getD g 0) ++ ", found " ++ Text.natText len

end UuidError

namespace Uuid

def nil : Uuid := ⟨0, 0⟩

def digits (u : Uuid) : String :=
  Text.wordHex u.hi ++ Text.wordHex u.lo

def text (u : Uuid) : String :=
  let d := u.digits.toList
  String.ofList (d.take 8 ++ ['-'] ++ (d.drop 8).take 4 ++ ['-'] ++ (d.drop 12).take 4 ++
    ['-'] ++ (d.drop 16).take 4 ++ ['-'] ++ d.drop 20)

def ofDigits? (cs : List Char) : Option Uuid :=
  if cs.length = 32 then do
    let v ← cs.foldlM (fun acc c => (Text.hexDigit? c).map fun d => acc * 16 + d) 0
    pure ⟨UInt64.ofNat (v / Nat.pow 2 64), UInt64.ofNat (v % Nat.pow 2 64)⟩
  else none

def ofHyphenated? (cs : List Char) : Option Uuid :=
  if cs.length = 36 ∧ cs.getD 8 ' ' = '-' ∧ cs.getD 13 ' ' = '-' ∧ cs.getD 18 ' ' = '-' ∧
      cs.getD 23 ' ' = '-' then
    ofDigits? (cs.take 8 ++ (cs.drop 9).take 4 ++ (cs.drop 14).take 4 ++ (cs.drop 19).take 4 ++
      cs.drop 24)
  else none

def positioned (cs : List Char) (start : Nat) : List (Nat × Char) :=
  match cs with
  | [] => []
  | c :: rest => (start, c) :: positioned rest (start + c.utf8Size)

def hyphens (pcs : List (Nat × Char)) : List Nat :=
  (pcs.filter fun pc => pc.2 = '-').map Prod.fst

/-- The first character that is neither a hexadecimal digit nor a hyphen, with its byte
position. -/
def firstStray (pcs : List (Nat × Char)) : Option (Nat × Char) :=
  pcs.find? fun pc => !(pc.2 = '-' || (Text.hexDigit? pc.2).isSome)

def groupStarts : List Nat := [0, 9, 14, 19, 24]

/-- What is wrong with the groups of a text made only of digits and hyphens, given the byte
positions of its hyphens: the number of groups, else the first of the first four groups that
does not end where it should (its length counted from where it should start), else the last
group, whose length is counted as `total` less the start of the last group. -/
def groupFault (hs : List Nat) (total : Nat) : UuidError :=
  if hs.length ≠ 4 then .groupCount (hs.length + 1)
  else
    match (List.range 4).find? fun i => hs.getD i 0 ≠ groupStarts.getD (i + 1) 0 - 1 with
    | some i => .groupLength i (hs.getD i 0 - groupStarts.getD i 0)
    | none => .groupLength 4 (total - groupStarts.getD 4 0)

/-- The fault of the 36 bytes of a hyphenated form, found where the hyphenated form is
expected: a bare text of 36 bytes, or the text between braces or after the prefix of a text
of the length of those shapes. Positions count bytes of those 36. -/
def hyphenatedFault (core : List Char) : UuidError :=
  let pcs := positioned core 0
  match firstStray pcs with
  | some (i, c) => .char c i
  | none => groupFault (hyphens pcs) (String.ofList core).utf8ByteSize

def hasUrnPrefix (cs : List Char) : Bool :=
  (cs.take 9).map Char.toLower == "urn:uuid:".toList

def isBraced (cs : List Char) : Bool :=
  cs.length ≥ 2 && cs.head? == some '{' && cs.getLast? == some '}'

/-- The longest text whose fault is looked for; a longer one is of the wrong length. -/
def longestForm : Nat := 45

/-- The fault of any other text. A text longer than every shape is of the wrong length.
Otherwise braces, or else the prefix, are set aside: the first character of the rest that is
neither a hexadecimal digit nor a hyphen is at fault, with its byte position in the whole
text; then a bare text without hyphens is of the wrong length; then the groups are at fault,
the last one's length counted from the length of the whole text. -/
def textFault (input : String) : UuidError :=
  let cs := input.toList
  let n := input.utf8ByteSize
  if n > longestForm then .length n
  else
    let (core, offset, bare) :=
      if isBraced cs then ((cs.drop 1).dropLast, 1, false)
      else if hasUrnPrefix cs then (cs.drop 9, 9, false)
      else (cs, 0, true)
    let pcs := positioned core 0
    match firstStray pcs with
    | some (i, c) => .char c (i + offset)
    | none =>
      let hs := hyphens pcs
      if hs.isEmpty && bare then .length n else groupFault hs n

/-- Read an identifier: 32 hexadecimal digits, or the hyphenated form of five groups of 8, 4,
4, 4 and 12 digits, bare, between braces or after the prefix `urn:uuid:` (in any letter
case). -/
def parse (input : String) : Except UuidError Uuid :=
  let cs := input.toList
  let n := input.utf8ByteSize
  let orFault := fun (parsed : Option Uuid) (fault : UuidError) =>
    match parsed with
    | some u => Except.ok u
    | none => Except.error fault
  if n = 32 then orFault (ofDigits? cs) (textFault input)
  else if n = 36 then orFault (ofHyphenated? cs) (hyphenatedFault cs)
  else if n = 38 ∧ isBraced cs then
    let core := (cs.drop 1).dropLast
    orFault (ofHyphenated? core) (hyphenatedFault core)
  else if n = 45 ∧ hasUrnPrefix cs then
    let core := cs.drop 9
    orFault (ofHyphenated? core) (hyphenatedFault core)
  else .error (textFault input)

end Uuid

/-- A seeded source of fresh identifiers. -/
structure UuidSource where
  seed : UInt64
  deriving DecidableEq, Repr, Inhabited

namespace UuidSource

def scramble (z : UInt64) : UInt64 :=
  let z := (z ^^^ (z >>> 30)) * 0xbf58476d1ce4e5b9
  let z := (z ^^^ (z >>> 27)) * 0x94d049bb133111eb
  z ^^^ (z >>> 31)

def next (g : UuidSource) : Uuid × UuidSource :=
  let a := g.seed + 0x9e3779b97f4a7c15
  let b := a + 0x9e3779b97f4a7c15
  let hi := (scramble a &&& 0xFFFFFFFFFFFF0FFF) ||| 0x4000
  let lo := (scramble b &&& 0x3FFFFFFFFFFFFFFF) ||| 0x8000000000000000
  (⟨hi, lo⟩, ⟨b⟩)

end UuidSource

end DeviceFleet
