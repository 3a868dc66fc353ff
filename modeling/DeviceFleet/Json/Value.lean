/-!
# JSON documents

Whole numbers are kept exactly and binary64 numbers by their bits; objects keep their
members in the order written (`Json.sortKeys` orders them).
-/

namespace DeviceFleet

/-- A JSON document. -/
inductive Json where
  | null
  | bool (b : Bool)
  | int (n : Int)
  | double (bits : UInt64)
  | str (s : String)
  | arr (items : List Json)
  | obj (fields : List (String × Json))
  deriving Inhabited

namespace Json

def field? (j : Json) (key : String) : Option Json :=
  match j with
  | .obj fields => fields.lookup key
  | _ => none

def str? : Json → Option String
  | .str s => some s
  | _ => none

def int? : Json → Option Int
  | .int n => some n
  | _ => none

def bool? : Json → Option Bool
  | .bool b => some b
  | _ => none

def arr? : Json → Option (List Json)
  | .arr xs => some xs
  | _ => none

def obj? : Json → Option (List (String × Json))
  | .obj fs => some fs
  | _ => none

def isNull : Json → Bool
  | .null => true
  | _ => false

def strOr (j : Json) (key : String) (dflt : String) : String :=
  ((j.field? key).bind str?).getD dflt

def intOr (j : Json) (key : String) (dflt : Int) : Int :=
  ((j.field? key).bind int?).getD dflt

def boolOr (j : Json) (key : String) (dflt : Bool) : Bool :=
  ((j.field? key).bind bool?).getD dflt

/-- A member's list of strings; absent members and other items give nothing. -/
def strsOr (j : Json) (key : String) : List String :=
  (((j.field? key).bind arr?).getD []).filterMap str?

def strs (xs : List String) : Json :=
  .arr (xs.map .str)

def optStr : Option String → Json
  | some s => .str s
  | none => .null

def optInt : Option Int → Json
  | some n => .int n
  | none => .null

def insertSorted (kv : String × Json) : List (String × Json) → List (String × Json)
  | [] => [kv]
  | p :: ps => if kv.1 < p.1 then kv :: p :: ps else p :: insertSorted kv ps

def sortFields (fs : List (String × Json)) : List (String × Json) :=
  fs.foldl (fun acc kv => insertSorted kv acc) []

mutual

def sortKeys : Json → Json
  | .arr xs => .arr (sortKeysItems xs)
  | .obj fs => .obj (sortFields (sortKeysFields fs))
  | j => j

def sortKeysItems : List Json → List Json
  | [] => []
  | x :: xs => sortKeys x :: sortKeysItems xs

def sortKeysFields : List (String × Json) → List (String × Json)
  | [] => []
  | (k, v) :: fs => (k, sortKeys v) :: sortKeysFields fs

end

end Json

end DeviceFleet
