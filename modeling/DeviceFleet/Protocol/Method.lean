import DeviceFleet.Text.Blank

/-!
# Methods and response codes

The six request methods, in the server's spelling (`READ`, `CREATE`, ...) and the devices'
(`GET`, `POST`, ...), read in any ASCII case with blanks around; a device's numeric result
code reads as one of five response codes.
-/

namespace DeviceFleet

/-- The six request methods. -/
inductive Method where
  | read
  | create
  | write
  | delete
  | execute
  | options
  deriving DecidableEq, Repr, Inhabited

namespace Method

def all : List Method := [.read, .create, .write, .delete, .execute, .options]

def name : Method → String
  | .read => "READ"
  | .create => "CREATE"
  | .write => "WRITE"
  | .delete => "DELETE"
  | .execute => "EXECUTE"
  | .options => "OPTIONS"

def deviceAlias : Method → String
  | .read => "GET"
  | .create => "POST"
  | .write => "PUT"
  | .delete => "DEL"
  | .execute => "EXEC"
  | .options => "OPTIONS"

/-- The method an upper-case word names, in either spelling. -/
def ofUpperWord? : String → Option Method
  | "READ" | "GET" => some .read
  | "CREATE" | "POST" => some .create
  | "WRITE" | "PUT" => some .write
  | "DELETE" | "DEL" => some .delete
  | "EXECUTE" | "EXEC" => some .execute
  | "OPTIONS" => some .options
  | _ => none

/-- A method name that is neither spelling of any method; it keeps the text as given. -/
structure Unknown where
  raw : String
  deriving DecidableEq, Repr

def Unknown.message (e : Unknown) : String :=
  "Unknown method name: '" ++ e.raw ++ "'"

/-- ASCII upper case of a text; other characters are left as they are. -/
def asciiUpper (s : String) : String :=
  String.ofList (s.toList.map Char.toUpper)

/-- Read a method name: blanks around it are dropped and ASCII case is ignored. -/
def normalize (raw : String) : Except Unknown Method :=
  match ofUpperWord? (asciiUpper (Text.trimBlank raw)) with
  | some m => .ok m
  | none => .error ⟨raw⟩

def normalizeName (raw : String) : Except Unknown String :=
  (normalize raw).map name

@[simp] theorem ofUpperWord_name (m : Method) : ofUpperWord? m.name = some m := by
  cases m <;> rfl

@[simp] theorem ofUpperWord_deviceAlias (m : Method) : ofUpperWord? m.deviceAlias = some m := by
  cases m <;> rfl

end Method

/-- How the server reads a device's result code. -/
inductive ResponseCode where
  | accepted
  | badRequest
  | notFound
  | notAllowed
  | internalError
  deriving DecidableEq, Repr, Inhabited

namespace ResponseCode

/-- Any 2xx code is accepted; 404 and 405 have codes of their own, other 4xx codes are bad
requests, and everything else is an internal error. -/
def ofResultCode (code : Nat) : ResponseCode :=
  if 200 ≤ code && code ≤ 299 then .accepted
  else if code = 404 then .notFound
  else if code = 405 then .notAllowed
  else if 400 ≤ code && code ≤ 499 then .badRequest
  else .internalError

def resultCode : ResponseCode → Nat
  | .accepted => 200
  | .badRequest => 400
  | .notFound => 404
  | .notAllowed => 405
  | .internalError => 500

def isAccepted : ResponseCode → Bool
  | .accepted => true
  | _ => false

def name : ResponseCode → String
  | .accepted => "ACCEPTED"
  | .badRequest => "BAD_REQUEST"
  | .notFound => "NOT_FOUND"
  | .notAllowed => "NOT_ALLOWED"
  | .internalError => "INTERNAL_ERROR"

def title : ResponseCode → String
  | .accepted => "Accepted"
  | .badRequest => "BadRequest"
  | .notFound => "NotFound"
  | .notAllowed => "NotAllowed"
  | .internalError => "InternalError"

@[simp] theorem ofResultCode_resultCode (c : ResponseCode) : ofResultCode c.resultCode = c := by
  cases c <;> rfl

end ResponseCode

end DeviceFleet
