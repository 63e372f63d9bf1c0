import Fixtures.Text.Split

/-!
# Connection strings without their secrets

A connection string is `scheme://userinfo@seeds/database?options`. The user information ends at the
last `@`, so that a password may hold any delimiter; the options start at the first `?` after it and
the database at the first `/` before them. `Parts.mask` hides the password and the values of
sensitive options and leaves all other parts alone; what is logged is the text of the masked parts.
-/

namespace Fixtures.Connection

open Text (cutFirst cutLast cutWord pieces join)

/-- The parts of a connection string, without the delimiters between them. -/
structure Parts where
  scheme : List Char
  userinfo : Option (List Char)
  seeds : List Char
  database : Option (List Char)
  options : Option (List Char)
  deriving DecidableEq, Repr

/-- What stands between the scheme and the rest. -/
def schemeMark : List Char := [':', '/', '/']

/-- What stands in place of a secret. -/
def maskText : List Char := ['*', '*', '*']

/-- A text up to the last `@`, if there is one, and the text after it. -/
def cutUserinfo (text : List Char) : Option (List Char) × List Char :=
  match cutLast '@' text with
  | some (info, location) => (some info, location)
  | none => (none, text)

/-- A text before the first `d`, and the text after it if there is one. -/
def cutTail (d : Char) (text : List Char) : List Char × Option (List Char) :=
  match cutFirst d text with
  | some (before, after) => (before, some after)
  | none => (text, none)

/-- Takes apart what follows the scheme. -/
def Parts.ofRest (scheme rest : List Char) : Parts :=
  let (userinfo, location) := cutUserinfo rest
  let (location, options) := cutTail '?' location
  let (seeds, database) := cutTail '/' location
  ⟨scheme, userinfo, seeds, database, options⟩

/-- Takes a connection string apart; a text without a scheme is none. -/
def Parts.ofChars? (text : List Char) : Option Parts :=
  (cutWord schemeMark text).map fun (scheme, rest) => Parts.ofRest scheme rest

/-- User information with the delimiter after it. -/
def leadText : Option (List Char) → List Char
  | some info => info ++ ['@']
  | none => []

/-- A part with the delimiter before it. -/
def tailText (d : Char) : Option (List Char) → List Char
  | some part => d :: part
  | none => []

/-- The connection string made of some parts. -/
def Parts.toChars (p : Parts) : List Char :=
  p.scheme ++ schemeMark ++ leadText p.userinfo ++ p.seeds ++ tailText '/' p.database ++
    tailText '?' p.options

/-- The keys of options whose values are secret, in lower case. -/
def sensitiveKeys : List (List Char) :=
  ["password", "authmechanismproperties", "tlscertificatekeyfilepassword", "token",
    "apikey"].map (·.toList)

/-- Whether the value of an option is secret; letter case does not matter. -/
def isSensitive (key : List Char) : Bool := sensitiveKeys.contains (key.map Char.toLower)

/-- The user information with its password masked, that is, all after its first colon. -/
def maskUserinfo (info : List Char) : List Char :=
  match cutFirst ':' info with
  | some (user, _) => user ++ ':' :: maskText
  | none => info

/-- An option with its value masked if the value is secret. -/
def maskOption (option : List Char) : List Char :=
  match cutFirst '=' option with
  | some (key, _) => if isSensitive key then key ++ '=' :: maskText else option
  | none => option

/-- The options, separated by `&`, with the secret values masked. -/
def maskOptions (options : List Char) : List Char :=
  join ['&'] ((pieces '&' options).map maskOption)

/-- The parts with all secrets masked. -/
def Parts.mask (p : Parts) : Parts :=
  { p with userinfo := p.userinfo.map maskUserinfo, options := p.options.map maskOptions }

/-- The user name, up to the first colon of the user information. -/
def Parts.user (p : Parts) : Option (List Char) :=
  p.userinfo.map fun info =>
    match cutFirst ':' info with
    | some (user, _) => user
    | none => info

/-- The servers of the seed list, separated by commas. -/
def Parts.hosts (p : Parts) : List (List Char) :=
  (pieces ',' p.seeds).filter (!·.isEmpty)

/-- What may be shown of a connection string. A text without a scheme has no parts and is shown as it
is. -/
structure Redacted where
  scheme : Option String
  user : Option String
  hosts : List String
  database : Option String
  redacted : String
  deriving DecidableEq, Repr

/-- Takes a connection string apart and masks its secrets. -/
def redact (text : String) : Redacted :=
  match Parts.ofChars? text.toList with
  | none => ⟨none, none, [], none, text⟩
  | some p =>
    { scheme := some (String.ofList p.scheme)
      user := p.user.map String.ofList
      hosts := p.hosts.map String.ofList
      database := (p.database.filter (!·.isEmpty)).map String.ofList
      redacted := String.ofList p.mask.toChars }

/-! ## Nothing is lost -/

theorem leadText_cutUserinfo (text : List Char) :
    leadText (cutUserinfo text).1 ++ (cutUserinfo text).2 = text := by
  unfold cutUserinfo
  split
  · next h => simp [leadText, Text.cutLast_eq h]
  · rfl

theorem tailText_cutTail (d : Char) (text : List Char) :
    (cutTail d text).1 ++ tailText d (cutTail d text).2 = text := by
  unfold cutTail
  split
  · next h => simp [tailText, Text.cutFirst_eq h]
  · simp [tailText]

theorem Parts.toChars_ofRest (scheme rest : List Char) :
    (Parts.ofRest scheme rest).toChars = scheme ++ schemeMark ++ rest := by
  simp only [Parts.toChars, Parts.ofRest, List.append_assoc]
  rw [← List.append_assoc (cutTail '/' _).1, tailText_cutTail, tailText_cutTail,
    leadText_cutUserinfo]

end Fixtures.Connection
