import CriteriaQuery.Database.HostAddress
import CriteriaQuery.Text.CharacterClasses

/-!
# Connection strings

How a database is named: as words `key=value`, whose values may be quoted and hold
escaped characters, or as an address that starts with `postgres://`. Only the
well-formedness of a connection string is decided here: known keys, numbers and
numeric addresses where they belong, and words of a fixed choice where only those
are allowed.
-/

namespace CriteriaQuery.ConnectionString

/-- A setting of a connection string. A password and the path of a socket, where an
address gives them, may be any bytes; all else is text. -/
inductive Setting where
  | named (key value : String)
  | password (bytes : List UInt8)
  | socketPath (bytes : List UInt8)
deriving DecidableEq, Repr

/-- A number of ASCII digits, with an optional plus sign. -/
def number? (text : String) : Option Nat :=
  let digits :=
    match text.toList with
    | '+' :: rest => rest
    | chars => chars
  if digits.isEmpty || !digits.all Char.isDigit then none
  else some (Nat.ofDigitChars 10 digits 0)

/-- A number that may be negative. -/
def integer? (text : String) : Option Int :=
  match text.toList with
  | '-' :: rest =>
      if rest.head? = some '+' then none
      else (number? (String.ofList rest)).map fun number => -Int.ofNat number
  | _ => (number? text).map Int.ofNat

/-- A signed 64-bit number. -/
def isInt64 (text : String) : Bool :=
  match integer? text with
  | some number => decide (-0x8000000000000000 ≤ number ∧ number < 0x8000000000000000)
  | none => false

/-- An unsigned number below a bound. -/
def isBelow (bound : Nat) (text : String) : Bool :=
  match number? text with
  | some number => decide (number < bound)
  | none => false

/-- The parts of a text between commas. -/
def listed (text : String) : List String :=
  (Text.splitAt ',' text.toList).map String.ofList

/-- Keys whose values are free. -/
def freeKeys : List String :=
  ["user", "password", "dbname", "options", "application_name", "host"]

/-- Keys whose values are one of a few words. -/
def choices : List (String × List String) :=
  [("sslmode", ["disable", "prefer", "require"]),
    ("sslnegotiation", ["postgres", "direct"]),
    ("target_session_attrs", ["any", "read-write", "read-only"]),
    ("channel_binding", ["disable", "prefer", "require"]),
    ("load_balance_hosts", ["disable", "random"])]

/-- Keys whose values are signed numbers of seconds or tries. -/
def signedKeys : List String :=
  ["connect_timeout", "tcp_user_timeout", "keepalives_idle", "keepalives_interval"]

/-- Whether a key is known and the value allowed for it. -/
def isAllowed (key value : String) : Bool :=
  if key ∈ freeKeys then true
  else if key = "hostaddr" then (listed value).all HostAddress.isHostAddress
  else if key = "port" then
    (listed value).all fun port => port.isEmpty || isBelow 65536 port
  else if key ∈ signedKeys then isInt64 value
  else if key = "keepalives" then isBelow (Nat.pow 2 64) value
  else if key = "keepalives_retries" then isBelow (Nat.pow 2 32) value
  else
    match choices.lookup key with
    | some words => value ∈ words
    | none => false

/-- Whether a setting is allowed. -/
def Setting.isAllowed : Setting → Bool
  | .named key value => ConnectionString.isAllowed key value
  | .password _ => true
  | .socketPath _ => true

/-- An unquoted value up to a blank; a backslash takes the next character as it is. -/
def takeSimple : List Char → List Char × List Char
  | [] => ([], [])
  | '\\' :: char :: rest =>
      let (value, remaining) := takeSimple rest
      (char :: value, remaining)
  | ['\\'] => ([], [])
  | char :: rest =>
      if Text.isBlank char then ([], char :: rest)
      else
        let (value, remaining) := takeSimple rest
        (char :: value, remaining)

/-- A quoted value after its opening quote; none if the closing one is missing. -/
def takeQuoted? : List Char → Option (List Char × List Char)
  | [] => none
  | '\'' :: rest => some ([], rest)
  | '\\' :: char :: rest => (takeQuoted? rest).map fun found => (char :: found.1, found.2)
  | char :: rest => (takeQuoted? rest).map fun found => (char :: found.1, found.2)

/-- A value, quoted or not; an unquoted one is not empty. -/
def takeValue? : List Char → Option (List Char × List Char)
  | '\'' :: rest => takeQuoted? rest
  | text =>
      match takeSimple text with
      | ([], _) => none
      | found => some found

/-- A character of a key. -/
def isKeyChar (char : Char) : Bool :=
  !Text.isBlank char && char != '='

/-- The first word `key=value` of a text and what follows it. -/
def takeWord? (text : List Char) : Option (Setting × List Char) := do
  match (text.dropWhile isKeyChar).dropWhile Text.isBlank with
  | '=' :: rest =>
      let (value, remaining) ← takeValue? (rest.dropWhile Text.isBlank)
      return (.named (String.ofList (text.takeWhile isKeyChar)) (String.ofList value), remaining)
  | _ => none

/-- The settings of words `key=value`, with the length of the text as fuel: every word
takes at least its equals sign. A word without a key ends the settings. -/
def words? : Nat → List Char → Option (List Setting)
  | 0, _ => some []
  | fuel + 1, text =>
      let start := text.dropWhile Text.isBlank
      if (start.takeWhile isKeyChar).isEmpty then some []
      else do
        let (setting, remaining) ← takeWord? start
        return setting :: (← words? fuel remaining)

/-- The beginnings of addresses. -/
def schemes : List String :=
  ["postgres://", "postgresql://"]

/-- The text after the scheme of an address. -/
def address? (text : String) : Option (List Char) :=
  (schemes.find? fun scheme => scheme.toList.isPrefixOf text.toList).map fun scheme =>
    text.toList.drop scheme.length

/-- The bytes of a part of an address, with escaped bytes resolved. -/
def unescape : List Char → List UInt8
  | [] => []
  | '%' :: high :: low :: rest =>
      match Text.hexValue? high, Text.hexValue? low with
      | some first, some second => UInt8.ofNat (first * 16 + second) :: unescape rest
      | _, _ => 37 :: unescape (high :: low :: rest)
  | char :: rest => (String.singleton char).toUTF8.data.toList ++ unescape rest
termination_by chars => chars.length

/-- The text of a part of an address; none if its bytes are not UTF-8. -/
def decoded? (chars : List Char) : Option String :=
  String.fromUTF8? (ByteArray.mk (unescape chars).toArray)

/-- A text split at the first of some characters, which stays with the second part. -/
def breakAt (stops : List Char) (chars : List Char) : List Char × List Char :=
  (chars.takeWhile fun char => !stops.contains char,
    chars.dropWhile fun char => !stops.contains char)

/-- The host that a part of an address names; one that starts with a slash is a socket. -/
def host? (chars : List Char) : Option Setting :=
  match unescape chars with
  | 0x2f :: rest => some (.socketPath (0x2f :: rest))
  | _ => (decoded? chars).map (.named "host")

/-- Host and port of one of the hosts of an address. -/
def hostSettings? (chars : List Char) : Option (List Setting) := do
  let (host, port) ←
    match chars with
    | '[' :: rest =>
        match breakAt [']'] rest with
        | (_, []) => none
        | (inside, _ :: []) => some (inside, "5432".toList)
        | (inside, _ :: ':' :: port) => some (inside, port)
        | _ => none
    | _ =>
        match breakAt [':'] chars with
        | (name, []) => some (name, "5432".toList)
        | (name, _ :: port) => some (name, port)
  return [← host? host, .named "port" (← decoded? port)]

/-- User and password of an address. -/
def credentials? (chars : List Char) : Option (List Setting) := do
  match breakAt [':'] chars with
  | (user, []) => return [.named "user" (← decoded? user)]
  | (user, _ :: password) =>
      return [.named "user" (← decoded? user), .password (unescape password)]

/-- A setting at the end of an address. -/
def query? (chars : List Char) : Option Setting := do
  match breakAt ['='] chars with
  | (_, []) => none
  | (key, _ :: value) =>
      let keyText ← decoded? key
      if keyText = "host" then host? value
      else return .named keyText (← decoded? value)

/-- The texts of the settings at the end of an address. An ampersand ends each of them,
which the last one may lack. -/
def queries (chars : List Char) : List (List Char) :=
  let parts := Text.splitAt '&' chars
  if parts.getLast? = some [] then parts.dropLast else parts

/-- The settings of an address after its scheme. -/
def addressSettings? (chars : List Char) : Option (List Setting) := do
  let (user, afterUser) ←
    match breakAt ['@'] chars with
    | (_, []) => some ([], chars)
    | (credentials, _ :: rest) => (credentials? credentials).map fun found => (found, rest)
  let (hosts, afterHosts) := breakAt ['/', '?'] afterUser
  let host ←
    if hosts.isEmpty then some []
    else ((Text.splitAt ',' hosts).mapM hostSettings?).map List.flatten
  let (path, afterPath) := breakAt ['?'] afterHosts
  let database ←
    if path.length ≤ 1 then some []
    else (decoded? (path.drop 1)).map fun name => [.named "dbname" name]
  return user ++ host ++ database ++ (← (queries (afterPath.drop 1)).mapM query?)

/-- The settings of a connection string, whether they are allowed or not. -/
def settings? (text : String) : Option (List Setting) :=
  match address? text with
  | some chars => addressSettings? chars
  | none => words? (text.length + 1) text.toList

/-- Whether a connection string is well-formed. -/
def isValid (text : String) : Bool :=
  match settings? text with
  | some settings => settings.all Setting.isAllowed
  | none => false

end CriteriaQuery.ConnectionString
