import DeviceFleet.Text.Lowercase

/-!
# The settings tree

Settings are gathered into a tree before they are read. Each environment variable whose
name, in lowercase, starts with `devmgmt_` gives one setting: the rest of the name is a path
into the tree, and the variable's text is put at the end of that path.
-/

namespace DeviceFleet.Config

/-- A value of the settings tree. -/
inductive SettingValue where
  /-- Text from an environment variable. -/
  | text (s : String)
  /-- An empty item of an array. -/
  | nil
  /-- Named members, in the order they were first set. -/
  | table (entries : List (String × SettingValue))
  /-- Items by position. -/
  | array (items : List SettingValue)
  deriving Inhabited, Repr

/-- A path into the settings tree. -/
inductive SettingPath where
  | name (n : String)
  | member (parent : SettingPath) (n : String)
  | item (parent : SettingPath) (index : Int)
  deriving DecidableEq, Repr

def isNameChar (c : Char) : Bool :=
  (c.isAlphanum && c.toNat < 128) || c == '_' || c == '-' || c == ' '

def takeName (cs : List Char) : Option (String × List Char) :=
  let n := cs.takeWhile isNameChar
  if n.isEmpty then none else some (String.ofList n, cs.drop n.length)

def indexBounds : Int × Int := (-9223372036854775808, 9223372036854775807)

/-- An index between brackets, blanks (spaces and tabs) allowed around it, and what follows
the closing bracket. -/
def takeIndex (cs : List Char) : Option (Int × List Char) :=
  let blank := fun (c : Char) => c == ' ' || c == '\t'
  match cs with
  | '[' :: rest =>
    let rest := rest.dropWhile blank
    let (neg, rest) := match rest with
      | '-' :: r => (true, r)
      | r => (false, r)
    let ds := rest.takeWhile Char.isDigit
    if ds.isEmpty then none
    else
      let v : Nat := ds.foldl (fun n c => n * 10 + (c.toNat - 48)) 0
      let i : Int := if neg then -(v : Int) else v
      match (rest.drop ds.length).dropWhile blank with
      | ']' :: after =>
        if indexBounds.1 ≤ i && i ≤ indexBounds.2 then some (i, after) else none
      | _ => none
  | _ => none

/-- The steps after the first name of a path; `fuel` bounds them by the length of the text. -/
def takeSteps (p : SettingPath) : Nat → List Char → Option SettingPath
  | _, [] => some p
  | 0, _ => none
  | fuel + 1, '.' :: rest =>
    match takeName rest with
    | some (n, after) => takeSteps (.member p n) fuel after
    | none => none
  | fuel + 1, cs =>
    match takeIndex cs with
    | some (i, after) => takeSteps (.item p i) fuel after
    | none => none

/-- Read a path; a text that is no path is one name. -/
def SettingPath.read (key : String) : SettingPath :=
  let cs := key.toList
  match takeName cs with
  | some (n, rest) => (takeSteps (.name n) rest.length rest).getD (.name key)
  | none => .name key

/-- The fatal error when an index counting from the end reaches before the start of its
array. -/
def subtractOverflow : String := "attempt to subtract with overflow"

def negateOverflow : String := "attempt to negate with overflow"

/-- The position an index names in an array of `len` items; a negative index counts from
the end, and one that reaches before the start is a fatal error. -/
def itemPosition (i : Int) (len : Nat) : Except String Nat :=
  if 0 ≤ i then .ok i.toNat
  else if i = indexBounds.1 then .error negateOverflow
  else if i.natAbs ≤ len then .ok (len - i.natAbs)
  else .error subtractOverflow

def capacityOverflow : String := "capacity overflow"

/-- The most items an array of settings can hold: the largest object size divided by the size
of one value. -/
def maxItems : Nat := 96076792050570581

def updateItem (u : Nat) (f : SettingValue → Except String SettingValue)
    (xs : List SettingValue) : Except String (List SettingValue) := do
  if u + 1 > maxItems then throw capacityOverflow
  let xs := if u < xs.length then xs else xs ++ List.replicate (u + 1 - xs.length) .nil
  let v ← f (xs.getD u .nil)
  pure (xs.set u v)

/-- Change the member `n` of a table's entries, adding it empty first when missing. -/
def updateEntry (n : String) (f : SettingValue → Except String SettingValue) :
    List (String × SettingValue) → Except String (List (String × SettingValue))
  | [] => do
    let v ← f .nil
    pure [(n, v)]
  | (k, v) :: rest =>
    if k == n then do
      let w ← f v
      pure ((k, w) :: rest)
    else do
      let rest' ← updateEntry n f rest
      pure ((k, v) :: rest')

/-- Change the value at a path, making every step fit; steps nearer the top are made to fit
first. At the top, only a table has members. -/
def SettingPath.update : SettingPath → (SettingValue → Except String SettingValue) →
    SettingValue → Except String SettingValue
  | .name n, f, root =>
    match root with
    | .table es => .table <$> updateEntry n f es
    | other => .ok other
  | .member p n, f, root =>
    p.update (fun v => match v with
      | .table es => .table <$> updateEntry n f es
      | _ => .table <$> updateEntry n f []) root
  | .item p i, f, root =>
    p.update (fun v => do
      let xs := match v with
        | .array xs => xs
        | _ => []
      let u ← itemPosition i xs.length
      .array <$> updateItem u f xs) root

def settingsPrefix : String := "devmgmt_"

/-- The setting an environment variable gives, if its name has the prefix: the path and the
text. -/
def settingOf (name value : String) : Option (String × String) :=
  let lower := Text.lowercase name
  if lower.startsWith settingsPrefix then
    some (String.ofList (lower.toList.drop settingsPrefix.length), value)
  else none

/-- The settings tree of an environment; a later variable naming the same setting replaces
an earlier one. Gathering stops at a fatal error, whose text it gives. -/
def settingsTree (env : List (String × String)) : Except String SettingValue :=
  let settings := env.filterMap fun (n, v) => settingOf n v
  -- the last variable for each key wins, at the place of its key's first appearance
  let keys := (settings.map (·.1)).eraseDups
  keys.foldlM (fun root k =>
    match (settings.reverse.lookup k) with
    | some v => (SettingPath.read k).update (fun _ => .ok (.text v)) root
    | none => .ok root) (.table [])

theorem itemPosition_nonneg (i : Int) (len : Nat) (h : 0 ≤ i) :
    itemPosition i len = .ok i.toNat := by
  simp [itemPosition, h]

end DeviceFleet.Config
