import DeviceFleet.Json.Print
import DeviceFleet.Json.Number
import DeviceFleet.Text.Quoted

/-!
# Reading JSON text against a shape

One left-to-right pass checks the text against the shape the caller expects and reports a
fault at the line and column where it is noticed. Nesting stops at 127 levels, except in
members nobody asked for, which are skipped with their syntax checked.
-/

namespace DeviceFleet.Json

/-- Syntax faults of JSON text. -/
inductive Fault where
  | eofInList
  | eofInObject
  | eofInString
  | eofInValue
  | expectedColon
  | expectedListCommaOrEnd
  | expectedObjectCommaOrEnd
  | expectedIdent
  | expectedValue
  | invalidEscape
  | invalidNumber
  | numberOutOfRange
  | invalidCodePoint
  | controlCharacter
  | keyMustBeString
  | loneLeadingSurrogate
  | trailingComma
  | trailingCharacters
  | unexpectedEndOfHexEscape
  | recursionLimit
  deriving DecidableEq, Repr

/-- The words of each fault. -/
def Fault.text : Fault → String
  | .eofInList => "EOF while parsing a list"
  | .eofInObject => "EOF while parsing an object"
  | .eofInString => "EOF while parsing a string"
  | .eofInValue => "EOF while parsing a value"
  | .expectedColon => "expected `:`"
  | .expectedListCommaOrEnd => "expected `,` or `]`"
  | .expectedObjectCommaOrEnd => "expected `,` or `\x7d`"
  | .expectedIdent => "expected ident"
  | .expectedValue => "expected value"
  | .invalidEscape => "invalid escape"
  | .invalidNumber => "invalid number"
  | .numberOutOfRange => "number out of range"
  | .invalidCodePoint => "invalid unicode code point"
  | .controlCharacter => "control character (\\u0000-\\u001F) found while parsing a string"
  | .keyMustBeString => "key must be a string"
  | .loneLeadingSurrogate => "lone leading surrogate in hex escape"
  | .trailingComma => "trailing comma"
  | .trailingCharacters => "trailing characters"
  | .unexpectedEndOfHexEscape => "unexpected end of hex escape"
  | .recursionLimit => "recursion limit exceeded"

/-- Where a reader stands: the bytes still to read, the index of the first of them, and the
length of the whole text. -/
structure Cursor where
  rest : List UInt8
  pos : Nat
  total : Nat

/-- A reading fault: its words, the byte index it is reported at once known, and where the
reader stood when it stopped. -/
structure ReadError where
  words : String
  index : Option Nat
  stop : Cursor

def lineColumn (bytes : List UInt8) (i : Nat) : Nat × Nat :=
  let before := bytes.take i
  let lines := before.count 10
  let lastLine := (before.reverse.takeWhile (· != 10)).length
  (lines + 1, lastLine)

def ReadError.message (bytes : List UInt8) (e : ReadError) : String :=
  match e.index with
  | none => e.words
  | some i =>
    let (l, c) := lineColumn bytes i
    e.words ++ " at line " ++ Text.natText l ++ " column " ++ Text.natText c

/-- What a value is, as messages name it. -/
inductive Seen where
  | bool (b : Bool)
  | unsigned (n : Nat)
  | signed (n : Int)
  | float (bits : UInt64)
  | str (s : String)
  | unit
  | seq
  | map

/-- Words for a value seen where another was expected. -/
def Seen.text : Seen → String
  | .bool b => "boolean `" ++ (if b then "true" else "false") ++ "`"
  | .unsigned n => "integer `" ++ Text.natText n ++ "`"
  | .signed n => "integer `" ++ Text.intText n ++ "`"
  | .float bits => "floating point `" ++ Text.doubleText bits ++ "`"
  | .str s => "string " ++ Text.quoteShown s
  | .unit => "null"
  | .seq => "sequence"
  | .map => "map"

/-- The shapes a reader can expect. A record lists its members with an optional default
each; a member without default must be present. -/
inductive Shape where
  | any
  | bool
  | unsigned (bits : Nat)
  | signed (bits : Nat)
  | float
  | string
  | option (inner : Shape)
  | seq (item : Shape)
  | map (value : Shape)
  | record (name : String) (fields : List (String × Shape × Option Json))
  | variants (names : List String)
  | tagged (name tag content : String) (cases : List (String × Shape))
  deriving Inhabited

/-- How messages name what a shape expects. -/
def Shape.expecting : Shape → String
  | .any => "any value"
  | .bool => "a boolean"
  | .unsigned b => "u" ++ Text.natText b
  | .signed b => "i" ++ Text.natText b
  | .float => "f64"
  | .string => "a string"
  | .option s => s.expecting
  | .seq _ => "a sequence"
  | .map _ => "a map"
  | .record n _ => "struct " ++ n
  | .variants _ => "variant identifier"
  | .tagged n _ _ _ => "adjacently tagged enum " ++ n

/-- A number as read: a whole number that fits in 64 bits, or a binary64 value. -/
inductive Number where
  | nat (n : Nat)
  | neg (n : Int)
  | double (bits : UInt64)

abbrev ReadM := StateT Cursor (Except ReadError)

namespace ReadM

def peek : ReadM (Option UInt8) := do
  return (← get).rest.head?

def eat : ReadM Unit :=
  modify fun c => match c.rest with
    | [] => c
    | _ :: r => { c with rest := r, pos := c.pos + 1 }

def next : ReadM (Option UInt8) := do
  let b ← peek
  eat
  return b

def fault {α : Type} (f : Fault) : ReadM α := do
  let c ← get
  throw ⟨f.text, some c.pos, c⟩

def peekFault {α : Type} (f : Fault) : ReadM α := do
  let c ← get
  throw ⟨f.text, some (if c.rest.isEmpty then c.pos else c.pos + 1), c⟩

def dataFault {α : Type} (words : String) : ReadM α := do
  let c ← get
  throw ⟨words, none, c⟩

/-- Run a step; a fault without place is placed where the reader stopped. -/
def fixed {α : Type} (m : ReadM α) : ReadM α := fun c =>
  match m c with
  | .ok r => .ok r
  | .error e => match e.index with
    | some _ => .error e
    | none => .error { e with index := some e.stop.pos }

def dropBlanks : List UInt8 → Nat → List UInt8 × Nat
  | [], n => ([], n)
  | b :: bs, n =>
    if b == 32 || b == 9 || b == 10 || b == 13 then dropBlanks bs (n + 1) else (b :: bs, n)

def skipBlanks : ReadM (Option UInt8) := do
  let c ← get
  let (rest, n) := dropBlanks c.rest 0
  set { c with rest := rest, pos := c.pos + n }
  return rest.head?

def ident : List UInt8 → ReadM Unit
  | [] => pure ()
  | b :: bs => do
    match ← next with
    | none => fault .eofInValue
    | some x => if x == b then ident bs else fault .expectedIdent

def isDigit (b : UInt8) : Bool := 48 ≤ b && b ≤ 57

def digits : ReadM (List UInt8) := do
  let c ← get
  let ds := c.rest.takeWhile isDigit
  set { c with rest := c.rest.drop ds.length, pos := c.pos + ds.length }
  return ds

def digitsNat (ds : List UInt8) : Nat :=
  ds.foldl (fun acc d => acc * 10 + (d.toNat - 48)) 0

/-- Read the rest of an exponent's digits one at a time onto `acc`: the exponent, or `none`
right after the digit that takes it past the largest 32-bit signed integer. -/
def exponentDigits (acc : Nat) : List UInt8 → ReadM (Option Nat)
  | [] => pure (some acc)
  | d :: ds => do
    eat
    let acc := acc * 10 + digitOf d
    if acc > maxWrittenExponent then pure none else exponentDigits acc ds

def signedZero (negative : Bool) : UInt64 :=
  if negative then UInt64.ofNat Text.binary64SignBit else 0

/-- Read a number after its sign (already eaten when negative). -/
def number (negative : Bool) : ReadM Number := do
  let first ← next
  match first with
  | none => fault .eofInValue
  | some f =>
    if !isDigit f then fault .invalidNumber
    else
      let intDigits ← if f == 48 then do
          match ← peek with
          | some b => if isDigit b then peekFault .invalidNumber else pure [f]
          | none => pure [f]
        else do
          let ds ← digits
          pure (f :: ds)
      let fracDigits ← (do
        match ← peek with
        | some 46 => do
          eat
          let ds ← digits
          if ds.isEmpty then
            match ← peek with
            | some _ => peekFault .invalidNumber
            | none => peekFault .eofInValue
          else pure (some ds)
        | _ => pure none)
      let (sig, skipped) := gatherWhole 0 intDigits
      let (sig, taken) := match fracDigits with
        | some fd => gatherFraction sig fd
        | none => (sig, 0)
      let start : Int := (skipped : Int) - taken
      match ← peek with
      | some 101 | some 69 => do
        eat
        let minus ← (do
          match ← peek with
          | some 43 => do eat; pure false
          | some 45 => do eat; pure true
          | _ => pure false)
        match ← next with
        | none => fault .eofInValue
        | some d =>
          if !isDigit d then fault .invalidNumber
          else do
            let rest := (← get).rest.takeWhile isDigit
            match ← exponentDigits (digitOf d) rest with
            | some e =>
              toDouble sig (saturateExponent (if minus then start - e else start + e))
            | none =>
              if sig != 0 && !minus then fault .numberOutOfRange
              else do
                let _ ← digits
                pure (.double (signedZero negative))
      | _ =>
        if fracDigits.isSome then toDouble sig start
        else if skipped != 0 then toDouble sig skipped
        else if !negative then pure (.nat sig)
        else if sig = 0 then pure (.double (signedZero true))
        else if sig ≤ Nat.pow 2 63 then pure (.neg (-(sig : Int)))
        else toDouble sig 0
where
  toDouble (sig : Nat) (e : Int) : ReadM Number :=
    match doubleOfParts negative sig e with
    | some bits => pure (.double bits)
    | none => fault .numberOutOfRange

def hexValue? (b : UInt8) : Option Nat :=
  if 48 ≤ b && b ≤ 57 then some (b.toNat - 48)
  else if 97 ≤ b && b ≤ 102 then some (b.toNat - 87)
  else if 65 ≤ b && b ≤ 70 then some (b.toNat - 55)
  else none

/-- Four hex digits of an escape. -/
def hex4 : ReadM Nat := do
  let c ← get
  match c.rest with
  | a :: b :: d :: e :: r =>
    set { c with rest := r, pos := c.pos + 4 }
    match hexValue? a, hexValue? b, hexValue? d, hexValue? e with
    | some w, some x, some y, some z => pure (((w * 16 + x) * 16 + y) * 16 + z)
    | _, _, _, _ => fault .invalidEscape
  | _ =>
    set { c with rest := [], pos := c.pos + c.rest.length }
    fault .eofInString

def utf8Of (n : Nat) : List UInt8 :=
  (String.singleton (Char.ofNat n)).toUTF8.toList

/-- One escape after its backslash. -/
def escape : ReadM (List UInt8) := do
  match ← next with
  | none => fault .eofInString
  | some 34 => pure [34]
  | some 92 => pure [92]
  | some 47 => pure [47]
  | some 98 => pure [8]
  | some 102 => pure [12]
  | some 110 => pure [10]
  | some 114 => pure [13]
  | some 116 => pure [9]
  | some 117 => do
    let n1 ← hex4
    if 0xDC00 ≤ n1 && n1 ≤ 0xDFFF then fault .loneLeadingSurrogate
    else if 0xD800 ≤ n1 && n1 ≤ 0xDBFF then do
      match ← peek with
      | none => fault .eofInString
      | some 92 => eat
      | some _ => do eat; fault .unexpectedEndOfHexEscape
      match ← peek with
      | none => fault .eofInString
      | some 117 => eat
      | some _ => do eat; fault .unexpectedEndOfHexEscape
      let n2 ← hex4
      if n2 < 0xDC00 || n2 > 0xDFFF then fault .loneLeadingSurrogate
      else pure (utf8Of ((n1 - 0xD800) * 1024 + (n2 - 0xDC00) + 0x10000))
    else pure (utf8Of n1)
  | some _ => fault .invalidEscape

/-- The body of a string after its opening quote, up to and including the closing quote. -/
def stringBody : Nat → List UInt8 → ReadM String
  | 0, acc => pure (decodeBytes acc.reverse)
  | fuel + 1, acc => do
    match ← next with
    | none => fault .eofInString
    | some 34 => pure (decodeBytes acc.reverse)
    | some 92 => do
      let bs ← escape
      stringBody fuel (bs.reverse ++ acc)
    | some b =>
      if b < 32 then fault .controlCharacter
      else stringBody fuel (b :: acc)
where
  decodeBytes (bs : List UInt8) : String :=
    (String.fromUTF8? ⟨bs.toArray⟩).getD ""

def string : ReadM String := do
  let c ← get
  stringBody (c.total + 1) []

/-- What stands at the front, for a message about a value of the wrong kind. -/
def seenHere {α : Type} (exp : String) : ReadM α := do
  match ← peek with
  | some 110 => do eat; ident [117, 108, 108]; fixed (dataFault (invalidType .unit exp))
  | some 116 => do eat; ident [114, 117, 101]; fixed (dataFault (invalidType (.bool true) exp))
  | some 102 => do eat; ident [97, 108, 115, 101]; fixed (dataFault (invalidType (.bool false) exp))
  | some 45 => do eat; let n ← number true; fixed (dataFault (invalidType (seenNumber n) exp))
  | some b =>
    if isDigit b then do
      let n ← number false
      fixed (dataFault (invalidType (seenNumber n) exp))
    else if b == 34 then do
      eat
      let s ← string
      fixed (dataFault (invalidType (.str s) exp))
    else if b == 91 then fixed (dataFault (invalidType .seq exp))
    else if b == 123 then fixed (dataFault (invalidType .map exp))
    else peekFault .expectedValue
  | none => peekFault .eofInValue
where
  invalidType (s : Seen) (exp : String) : String :=
    "invalid type: " ++ s.text ++ ", expected " ++ exp
  seenNumber : Number → Seen
    | .nat n => .unsigned n
    | .neg n => .signed n
    | .double b => .float b

def invalidType (s : Seen) (exp : String) : String :=
  "invalid type: " ++ s.text ++ ", expected " ++ exp

def invalidValue (s : Seen) (exp : String) : String :=
  "invalid value: " ++ s.text ++ ", expected " ++ exp

/-- Check a number against a numeric shape. -/
def numberAs (shape : Shape) (n : Number) : ReadM Json :=
  match shape, n with
  | .unsigned b, .nat v =>
    if v < Nat.pow 2 b then pure (.int v) else dataFault (invalidValue (.unsigned v) shape.expecting)
  | .unsigned _, .neg v => dataFault (invalidValue (.signed v) shape.expecting)
  | .signed b, .nat v =>
    if v < Nat.pow 2 (b - 1) then pure (.int v) else dataFault (invalidValue (.unsigned v) shape.expecting)
  | .signed b, .neg v =>
    if -Int.pow 2 (b - 1) ≤ v then pure (.int v)
    else dataFault (invalidValue (.signed v) shape.expecting)
  | .float, .nat v => pure (.double ((Text.binary64OfDecimal false v 0).getD 0))
  | .float, .neg v => pure (.double ((Text.binary64OfDecimal true v.natAbs 0).getD 0))
  | .float, .double b => pure (.double b)
  | .any, .nat v => pure (.int v)
  | .any, .neg v => pure (.int v)
  | .any, .double b => pure (.double b)
  | s, .double b => dataFault (invalidType (.float b) s.expecting)
  | s, .nat v => dataFault (invalidType (.unsigned v) s.expecting)
  | s, .neg v => dataFault (invalidType (.signed v) s.expecting)

def colon : ReadM Unit := do
  match ← skipBlanks with
  | some 58 => eat
  | some _ => peekFault .expectedColon
  | none => peekFault .eofInObject

/-- Whether another list item follows; `first` tells whether one was read already. -/
def moreItems (first : Bool) : ReadM Bool := do
  match ← skipBlanks with
  | none => peekFault .eofInList
  | some 93 => pure false
  | some 44 =>
    if first then pure true
    else do
      eat
      match ← skipBlanks with
      | some 93 => peekFault .trailingComma
      | some _ => pure true
      | none => peekFault .eofInValue
  | some _ => if first then pure true else peekFault .expectedListCommaOrEnd

/-- The key of the next member, if any; `first` tells whether one was read already. -/
def nextKey (first : Bool) : ReadM (Option String) := do
  let b ← skipBlanks
  let b ← match b with
    | some 125 => pure none
    | some 44 =>
      if first then peekFault .keyMustBeString
      else do
        eat
        let b' ← skipBlanks
        match b' with
        | some 34 => pure (some 34)
        | some 125 => peekFault .trailingComma
        | some _ => peekFault .keyMustBeString
        | none => peekFault .eofInValue
    | some x =>
      if first then
        if x == 34 then pure (some 34) else peekFault .keyMustBeString
      else peekFault .expectedObjectCommaOrEnd
    | none => peekFault .eofInObject
  match b with
  | none => pure none
  | some _ => do eat; let k ← string; pure (some k)

/-- Close a list: only `]` may follow its last item. -/
def endList : ReadM Unit := do
  match ← skipBlanks with
  | some 93 => eat
  | some 44 => do
    eat
    match ← skipBlanks with
    | some 93 => peekFault .trailingComma
    | _ => peekFault .trailingCharacters
  | some _ => peekFault .trailingCharacters
  | none => peekFault .eofInList

/-- Close an object: only `}` may follow its last member. -/
def endObject : ReadM Unit := do
  match ← skipBlanks with
  | some 125 => eat
  | some 44 => peekFault .trailingComma
  | some _ => peekFault .trailingCharacters
  | none => peekFault .eofInObject

/-- Run a container's body, then close it. A fault of the body wins; when it has no place
yet, the close still runs from where the body stopped, and the fault is placed after it. -/
def closing (body : ReadM Json) (close : ReadM Unit) : ReadM Json := fun c =>
  match body c with
  | .ok (j, c') =>
    match close c' with
    | .ok ((), c'') => .ok (j, c'')
    | .error e => .error e
  | .error e =>
    match e.index with
    | some _ => .error e
    | none =>
      match close e.stop with
      | .ok ((), c'') => .error { e with stop := c'' }
      | .error e' => .error { e with stop := e'.stop }

def nest (depth : Nat) : ReadM Nat := do
  if depth ≤ 1 then peekFault .recursionLimit
  else do
    eat
    pure (depth - 1)

/-- The message of a variant name that is not one of `names`. -/
def unknownVariant (s : String) (names : List String) : String :=
  "unknown variant `" ++ s ++ "`, expected " ++ oneOf names
where
  oneOf (names : List String) : String :=
    match names with
    | [] => "nothing"
    | [a] => "`" ++ a ++ "`"
    | [a, b] => "`" ++ a ++ "` or `" ++ b ++ "`"
    | _ => "one of " ++ ", ".intercalate (names.map fun n => "`" ++ n ++ "`")

/-- How a document is named when it is of the wrong kind. -/
def seenOf : Json → Seen
  | .null => .unit
  | .bool b => .bool b
  | .int n => if 0 ≤ n then .unsigned n.toNat else .signed n
  | .double b => .float b
  | .str s => .str s
  | .arr _ => .seq
  | .obj _ => .map

/-- Check a document already read against a shape; faults carry no place. -/
def decodeValue : Nat → Shape → Json → Except String Json
  | 0, _, _ => .error "recursion limit exceeded"
  | fuel + 1, shape, j =>
    match shape, j with
    | .any, j => .ok j
    | .bool, .bool b => .ok (.bool b)
    | .unsigned b, .int n =>
      if n < 0 then .error (invalidValue (.signed n) shape.expecting)
      else if n < Int.pow 2 b then .ok (.int n)
      else .error (invalidValue (.unsigned n.toNat) shape.expecting)
    | .signed b, .int n =>
      if -Int.pow 2 (b - 1) ≤ n && n < Int.pow 2 (b - 1) then .ok (.int n)
      else .error (invalidValue (seenOf (.int n)) shape.expecting)
    | .float, .int n => .ok (.double ((Text.binary64OfDecimal (n < 0) n.natAbs 0).getD 0))
    | .float, .double b => .ok (.double b)
    | .string, .str s => .ok (.str s)
    | .option _, .null => .ok .null
    | .option s, j => decodeValue fuel s j
    | .seq s, .arr xs => (xs.mapM (decodeValue fuel s)).map .arr
    | .map s, .obj fs =>
      (fs.mapM fun (kv : String × Json) => (decodeValue fuel s kv.2).map fun v' => (kv.1, v')).map
        fun fs' => .obj (Json.sortFields fs')
    | .record _ fields, .obj fs =>
      (fields.mapM fun (f : String × Shape × Option Json) =>
        match fs.lookup f.1, f.2.2 with
        | some v, _ => (decodeValue fuel f.2.1 v).map fun v' => (f.1, v')
        | none, some d => .ok (f.1, d)
        | none, none => .error ("missing field `" ++ f.1 ++ "`")).map .obj
    | .variants names, .str s =>
      if names.contains s then .ok (.str s) else .error (unknownVariant s names)
    | .tagged _ tag content cases, .obj fs =>
      match fs.lookup tag with
      | none => .error ("missing field `" ++ tag ++ "`")
      | some (.str t) =>
        match cases.lookup t with
        | none => .error (unknownVariant t (cases.map (·.1)))
        | some s =>
          match fs.lookup content with
          | none => .error ("missing field `" ++ content ++ "`")
          | some c => (decodeValue fuel s c).map fun c' => .obj [(tag, .str t), (content, c')]
      | some other => .error (invalidType (seenOf other) "variant identifier")
    | s, j => .error (invalidType (seenOf j) s.expecting)

/-- The defaults of the remaining members of a record given as a short list, or the position
of the first of them without one; `index` is the position of the first. -/
def defaultsFrom (index : Nat) : List (String × Shape × Option Json) →
    Except Nat (List (String × Json))
  | [] => .ok []
  | (k, _, some d) :: fs => (defaultsFrom (index + 1) fs).map ((k, d) :: ·)
  | (_, _, none) :: _ => .error index

/-- Skip an exponent from its `e`, without reading its value. -/
def skipExponent : ReadM Unit := do
  eat
  match ← peek with
  | some 43 | some 45 => eat
  | _ => pure ()
  match ← next with
  | some b => if isDigit b then do let _ ← digits; pure () else fault .invalidNumber
  | none => fault .invalidNumber

/-- Skip a number after its sign without reading its value: its form is checked, its size
is not. -/
def skipNumber : ReadM Unit := do
  match ← next with
  | some 48 => do
    match ← peek with
    | some b => if isDigit b then peekFault .invalidNumber else pure ()
    | none => pure ()
  | some b => if isDigit b then do let _ ← digits; pure () else fault .invalidNumber
  | none => fault .invalidNumber
  match ← peek with
  | some 46 => do
    eat
    let ds ← digits
    if ds.isEmpty then peekFault .invalidNumber
    else
      match ← peek with
      | some 101 | some 69 => skipExponent
      | _ => pure ()
  | some 101 | some 69 => skipExponent
  | _ => pure ()

/-- Skip an escape after its backslash; the code points of `\u` escapes are not checked. -/
def skipEscape : ReadM Unit := do
  match ← next with
  | none => fault .eofInString
  | some b =>
    if b == 34 || b == 92 || b == 47 || b == 98 || b == 102 || b == 110 || b == 114 ||
        b == 116 then pure ()
    else if b == 117 then do let _ ← hex4; pure ()
    else fault .invalidEscape

/-- Skip the rest of a string after its opening quote; a control character is reported where
it stands. -/
def skipStringBody : Nat → ReadM Unit
  | 0 => pure ()
  | fuel + 1 => do
    match ← peek with
    | none => fault .eofInString
    | some 34 => eat
    | some 92 => do eat; skipEscape; skipStringBody fuel
    | some b => if b < 32 then fault .controlCharacter else do eat; skipStringBody fuel

def skipString : ReadM Unit := do
  let c ← get
  skipStringBody (c.total + 1)

/-- Where skipping a value stands: a value is due, inside the container `enclosing` that is
not on the stack of open containers yet; or inside the container `frame`, just opened or,
when `afterItem`, just after one of its items or members. -/
inductive SkipPhase where
  | due (enclosing : Option UInt8)
  | inside (afterItem : Bool) (frame : UInt8)

/-- Skip the key and colon of the next member when `frame` is an object. -/
def skipKey (frame : UInt8) : ReadM Unit := do
  if frame == 123 then
    match ← skipBlanks with
    | some 34 => eat
    | some _ => peekFault .keyMustBeString
    | none => peekFault .eofInObject
    skipString
    match ← skipBlanks with
    | some 58 => eat
    | some _ => peekFault .expectedColon
    | none => peekFault .eofInObject
  else pure ()

/-- Skip values with a stack of open containers (`[` or `{`, innermost first) instead of
nesting, so that skipping has no nesting limit. `fuel` bounds the steps: each step reads a
byte or leads to one that does. -/
def skipLoop : Nat → SkipPhase → List UInt8 → ReadM Unit
  | 0, _, _ => peekFault .recursionLimit
  | fuel + 1, .due enclosing, stack => do
    let opened ← (do
      match ← skipBlanks with
      | none => peekFault .eofInValue
      | some 110 => do eat; ident [117, 108, 108]; pure none
      | some 116 => do eat; ident [114, 117, 101]; pure none
      | some 102 => do eat; ident [97, 108, 115, 101]; pure none
      | some 45 => do eat; skipNumber; pure none
      | some 34 => do eat; skipString; pure none
      | some b =>
        if isDigit b then do skipNumber; pure none
        else if b == 91 || b == 123 then do eat; pure (some b)
        else peekFault .expectedValue)
    match opened, enclosing, stack with
    | some f, _, _ => skipLoop fuel (.inside false f) (enclosing.toList ++ stack)
    | none, some f, _ => skipLoop fuel (.inside true f) stack
    | none, none, f :: rest => skipLoop fuel (.inside true f) rest
    | none, none, [] => pure ()
  | fuel + 1, .inside afterItem frame, stack => do
    match ← skipBlanks with
    | none => peekFault (if frame == 91 then .eofInList else .eofInObject)
    | some b =>
      if b == 44 && afterItem then do
        eat
        skipKey frame
        skipLoop fuel (.due (some frame)) stack
      else if (b == 93 && frame == 91) || (b == 125 && frame == 123) then do
        eat
        match stack with
        | f :: rest => skipLoop fuel (.inside true f) rest
        | [] => pure ()
      else if afterItem then
        peekFault (if frame == 91 then .expectedListCommaOrEnd else .expectedObjectCommaOrEnd)
      else do
        skipKey frame
        skipLoop fuel (.due (some frame)) stack

/-- Skip a value that is not wanted: its syntax is checked, but not its numbers' sizes nor
its escapes' code points, and there is no nesting limit. -/
def skipValue : ReadM Unit := do
  let c ← get
  skipLoop (2 * c.total + 2) (.due none) []

/-- A variant name given as a string. -/
def readVariantName (names : List String) : ReadM String := fixed do
  match ← skipBlanks with
  | some 34 => do
    eat
    let s ← string
    if names.contains s then pure s else dataFault (unknownVariant s names)
  | some _ => seenHere "variant identifier"
  | none => peekFault .eofInValue

mutual

/-- Read a value of the given shape. `fuel` bounds the work by the length of the text and
`depth` counts the nesting levels still allowed. -/
def readShape (fuel depth : Nat) (shape : Shape) : ReadM Json :=
  match fuel with
  | 0 => peekFault .recursionLimit
  | fuel + 1 =>
  match shape with
  | .any => readAny fuel depth
  | .bool => fixed do
    match ← skipBlanks with
    | some 116 => do eat; ident [114, 117, 101]; pure (.bool true)
    | some 102 => do eat; ident [97, 108, 115, 101]; pure (.bool false)
    | some _ => seenHere shape.expecting
    | none => peekFault .eofInValue
  | .unsigned _ | .signed _ | .float => fixed do
    match ← skipBlanks with
    | some 45 => do eat; let n ← number true; numberAs shape n
    | some b =>
      if isDigit b then do
        let n ← number false
        numberAs shape n
      else seenHere shape.expecting
    | none => peekFault .eofInValue
  | .string => fixed do
    match ← skipBlanks with
    | some 34 => do eat; let s ← string; pure (.str s)
    | some _ => seenHere shape.expecting
    | none => peekFault .eofInValue
  | .option inner => do
    match ← skipBlanks with
    | some 110 => do eat; ident [117, 108, 108]; pure .null
    | _ => readShape fuel depth inner
  | .seq item => fixed do
    match ← skipBlanks with
    | some 91 => do
      let d ← nest depth
      closing (do let xs ← readItems fuel d item true []; pure (.arr xs)) endList
    | some _ => seenHere shape.expecting
    | none => peekFault .eofInValue
  | .map value => fixed do
    match ← skipBlanks with
    | some 123 => do
      let d ← nest depth
      closing (do let fs ← readEntries fuel d value true []; pure (.obj fs)) endObject
    | some _ => seenHere shape.expecting
    | none => peekFault .eofInValue
  | .record name fields => fixed do
    match ← skipBlanks with
    | some 123 => do
      let d ← nest depth
      closing (readRecordMembers fuel d name fields true []) endObject
    | some 91 => do
      let d ← nest depth
      closing (readRecordItems fuel d name fields fields.length 0 []) endList
    | some _ => seenHere shape.expecting
    | none => peekFault .eofInValue
  | .variants names => fixed do
    match ← skipBlanks with
    | some 34 => do
      eat
      let s ← string
      if names.contains s then pure (.str s) else dataFault (unknownVariant s names)
    | some 123 => do
      let d ← nest depth
      let _ := d
      match ← nextKey true with
      | none => peekFault .expectedValue
      | some s =>
        if !names.contains s then fixed (dataFault (unknownVariant s names))
        else do
          colon
          match ← skipBlanks with
          | some 110 => do eat; ident [117, 108, 108]
          | some _ => seenHere "unit"
          | none => peekFault .eofInValue
          match ← skipBlanks with
          | some 125 => do eat; pure (.str s)
          | some _ => fault .expectedValue
          | none => fault .eofInObject
    | some _ => peekFault .expectedValue
    | none => peekFault .eofInValue
  | .tagged name tag content cases => fixed do
    match ← skipBlanks with
    | some 123 => do
      let d ← nest depth
      closing (readTagged fuel d name tag content cases true none none) endObject
    | some 91 => do
      let d ← nest depth
      closing (readTaggedItems fuel d name tag content cases) endList
    | some _ => seenHere shape.expecting
    | none => peekFault .eofInValue

/-- Read any value. -/
def readAny (fuel depth : Nat) : ReadM Json := do
  match ← skipBlanks with
  | some 110 => do eat; ident [117, 108, 108]; pure .null
  | some 116 => do eat; ident [114, 117, 101]; pure (.bool true)
  | some 102 => do eat; ident [97, 108, 115, 101]; pure (.bool false)
  | some 45 => do eat; let n ← number true; numberAs .any n
  | some 34 => do eat; let s ← string; pure (.str s)
  | some 91 => do
    let d ← nest depth
    closing (do let xs ← readItems fuel d .any true []; pure (.arr xs)) endList
  | some 123 => do
    let d ← nest depth
    closing (do let fs ← readEntries fuel d .any true []; pure (.obj fs)) endObject
  | some b =>
    if isDigit b then do
      let n ← number false
      numberAs .any n
    else peekFault .expectedValue
  | none => peekFault .eofInValue

/-- List items up to the closing bracket (not eaten). -/
def readItems (fuel depth : Nat) (item : Shape) (first : Bool) (acc : List Json) :
    ReadM (List Json) :=
  match fuel with
  | 0 => peekFault .recursionLimit
  | fuel + 1 => do
    if ← moreItems first then do
      let x ← readShape fuel depth item
      readItems fuel depth item false (x :: acc)
    else pure acc.reverse

/-- Map entries up to the closing brace (not eaten); a later key replaces an earlier one. -/
def readEntries (fuel depth : Nat) (value : Shape) (first : Bool)
    (acc : List (String × Json)) : ReadM (List (String × Json)) :=
  match fuel with
  | 0 => peekFault .recursionLimit
  | fuel + 1 => do
    match ← nextKey first with
    | none => pure (Json.sortFields acc.reverse)
    | some k => do
      colon
      let v ← readShape fuel depth value
      readEntries fuel depth value false ((k, v) :: acc.filter (·.1 != k))

/-- Members of a record up to the closing brace (not eaten); members it does not know are
read and dropped, a member given twice is a fault, and a missing member takes its default. -/
def readRecordMembers (fuel depth : Nat) (name : String)
    (fields : List (String × Shape × Option Json)) (first : Bool)
    (acc : List (String × Json)) : ReadM Json :=
  match fuel with
  | 0 => peekFault .recursionLimit
  | fuel + 1 => do
    match ← nextKey first with
    | none =>
      let rec fill : List (String × Shape × Option Json) → ReadM (List (String × Json))
        | [] => pure []
        | (k, _, dflt) :: fs => do
          let v ← match acc.lookup k, dflt with
            | some v, _ => pure v
            | none, some d => pure d
            | none, none => dataFault ("missing field `" ++ k ++ "`")
          let rest ← fill fs
          pure ((k, v) :: rest)
      let fs ← fill fields
      pure (.obj fs)
    | some k =>
      match fields.find? (·.1 == k) with
      | some (_, s, _) =>
        if (acc.lookup k).isSome then dataFault ("duplicate field `" ++ k ++ "`")
        else do
          colon
          let v ← readShape fuel depth s
          readRecordMembers fuel depth name fields false ((k, v) :: acc)
      | none => do
        colon
        skipValue
        readRecordMembers fuel depth name fields false acc

/-- Members of a record given as a list, in order; the list may end early when the
remaining members have defaults. -/
def readRecordItems (fuel depth : Nat) (name : String)
    (fields : List (String × Shape × Option Json)) (total : Nat) (count : Nat)
    (acc : List (String × Json)) : ReadM Json :=
  match fuel with
  | 0 => peekFault .recursionLimit
  | fuel + 1 =>
    match fields with
    | [] => pure (.obj acc.reverse)
    | (k, s, dflt) :: fs => do
      if ← moreItems (count == 0) then do
        let v ← readShape fuel depth s
        readRecordItems fuel depth name fs total (count + 1) ((k, v) :: acc)
      else
        match defaultsFrom count ((k, s, dflt) :: fs) with
        | .ok ds => pure (.obj (acc.reverse ++ ds))
        | .error index => dataFault ("invalid length " ++ Text.natText index ++
            ", expected struct " ++ name ++ " with " ++ Text.natText total ++ " elements")

/-- A tagged value given as a list: its tag, then its content. -/
def readTaggedItems (fuel depth : Nat) (name tag content : String)
    (cases : List (String × Shape)) : ReadM Json :=
  match fuel with
  | 0 => peekFault .recursionLimit
  | fuel + 1 => do
    if ← moreItems true then do
      let t ← readVariantName (cases.map (·.1))
      if ← moreItems false then do
        let v ← readShape fuel depth ((cases.lookup t).getD .any)
        pure (.obj [(tag, .str t), (content, v)])
      else dataFault ("invalid length 1, expected adjacently tagged enum " ++ name)
    else dataFault ("invalid length 0, expected adjacently tagged enum " ++ name)

/-- Members of a value tagged by one member and carried by another. -/
def readTagged (fuel depth : Nat) (name tag content : String)
    (cases : List (String × Shape)) (first : Bool) (seenTag : Option String)
    (seenContent : Option Json) : ReadM Json :=
  match fuel with
  | 0 => peekFault .recursionLimit
  | fuel + 1 => do
    match ← nextKey first with
    | none =>
      match seenTag with
      | none => dataFault ("missing field `" ++ tag ++ "`")
      | some t =>
        match seenContent with
        | some c => pure (.obj [(tag, .str t), (content, c)])
        | none => dataFault ("missing field `" ++ content ++ "`")
    | some k =>
      if k == tag then
        if seenTag.isSome then dataFault ("duplicate field `" ++ tag ++ "`")
        else do
          colon
          let t ← readShape fuel depth (.variants (cases.map (·.1)))
          let t := (Json.str? t).getD ""
          let c ← match seenContent with
            | none => pure none
            | some raw =>
              match (cases.lookup t) with
              | none => pure (some raw)
              | some s =>
                match decodeValue (fuel + 1) s raw with
                | .ok v => pure (some v)
                | .error w => dataFault w
          readTagged fuel depth name tag content cases false (some t) c
      else if k == content then
        if seenContent.isSome then dataFault ("duplicate field `" ++ content ++ "`")
        else do
          colon
          match seenTag with
          | some t =>
            let s := (cases.lookup t).getD .any
            let v ← readShape fuel depth s
            readTagged fuel depth name tag content cases false seenTag (some v)
          | none => do
            let v ← readAny fuel depth
            readTagged fuel depth name tag content cases false seenTag (some v)
      else do
        colon
        skipValue
        readTagged fuel depth name tag content cases false seenTag seenContent

end

/-- Read a whole text as one value of the given shape; blanks may follow it. -/
def readText (shape : Shape) (text : String) : Except ReadError Json :=
  let bytes := text.toUTF8.toList
  let start : Cursor := ⟨bytes, 0, bytes.length⟩
  let whole : ReadM Json := do
    let v ← readShape (bytes.length + 2) 128 shape
    match ← skipBlanks with
    | some _ => peekFault .trailingCharacters
    | none => pure v
  (whole.run start).map (·.1)

end ReadM

/-- Read a whole text against a shape; the message of a fault carries its line and column. -/
def readAs (shape : Shape) (text : String) : Except String Json :=
  match ReadM.readText shape text with
  | .ok v => .ok v
  | .error e => .error (e.message text.toUTF8.toList)

def parse (text : String) : Except String Json :=
  readAs .any text

end DeviceFleet.Json
