import SchemaChange.DatabaseType
import SchemaChange.Dictionary
import SchemaChange.Error
import SchemaChange.Json.Writing
import SchemaChange.Text.Basic

/-!
# Connection configurations

What is needed to open a connection. The kind of database is declared, or else told by the scheme of
the URL: `oracle` in `jdbc:oracle:thin:@host`, where `jdbc:` is no scheme of its own unless nothing
else is one.
-/

namespace SchemaChange

/-- The configuration of a connection. -/
structure ConnectionConfig where
  driver : String
  url : String
  user? : Option String := none
  password? : Option String := none
  databaseType? : Option DatabaseType := none
  /-- Further settings for the driver. -/
  params : Dictionary String := []
  deriving DecidableEq

/-- The kind of database that a text declares, or that it declares none. -/
def DatabaseType.ofText (text : String) : Except DatabaseError DatabaseType :=
  match read? text with
  | some type => .ok type
  | none => .error (.configuration ("unrecognized database type '" ++ key text ++ "'"))

namespace ConnectionConfig

/-- The configuration with a further setting; a text is kept, any other value becomes its JSON text. -/
def withParam (c : ConnectionConfig) (key : String) (value : Json) : ConnectionConfig :=
  let text := match value with
    | .string s => s
    | value => value.text
  { c with params := Dictionary.insert key text c.params }

/-- A configuration names a driver and a URL. -/
def validate (c : ConnectionConfig) : Except DatabaseError Unit :=
  if Text.isBlankText c.driver then .error (.configuration "driver must not be empty")
  else if Text.isBlankText c.url then .error (.configuration "url must not be empty")
  else .ok ()

/-- Whether a scheme may hold the character: ASCII letters and digits, and the two characters whose other
    case is an ASCII letter, the long s and the Kelvin sign. -/
def isSchemeChar (c : Char) : Bool :=
  c.isAlphanum || c == 'ſ' || c == '\u212a'

/-- The characters before the first colon, if they can be a scheme. -/
def schemeOf? (url : List Char) : Option (List Char) :=
  let scheme := url.takeWhile isSchemeChar
  if !scheme.isEmpty && (url.drop scheme.length).head? == some ':' then some scheme else none

/-- What follows `jdbc:` in any case of letters, if the URL begins so. -/
def afterJdbc? (url : List Char) : Option (List Char) :=
  if Text.asciiLower (url.take 5) = "jdbc:".toList then some (url.drop 5) else none

/-- The scheme of the URL in small letters: the one after `jdbc:` if there is one, otherwise
    the first. -/
def urlScheme? (c : ConnectionConfig) : Option String :=
  let url := c.url.toList
  (((afterJdbc? url).bind schemeOf?) <|> schemeOf? url).map fun scheme =>
    String.ofList (Text.asciiLower scheme)

/-- The kind of database: the declared one, otherwise the one that the scheme tells. -/
def databaseType (c : ConnectionConfig) : DatabaseType :=
  c.databaseType?.getD ((c.urlScheme?.bind DatabaseType.read?).getD .unknown)

/-- An optional text as it is shown. -/
def shownOption : Option String → String
  | none => "None"
  | some text => "Some(" ++ text ++ ")"

/-- The configuration as it is shown in messages; the password is not. -/
def shown (c : ConnectionConfig) : String :=
  let params := c.params.map fun (key, value) => Text.shown key ++ ": " ++ Text.shown value
  "ConnectionConfig \x7b driver: " ++ Text.shown c.driver ++ ", url: " ++ Text.shown c.url ++
    ", user: " ++ shownOption (c.user?.map Text.shown) ++
    ", password: " ++ shownOption (c.password?.map fun _ => "\"<redacted>\"") ++
    ", database_type: " ++ shownOption (c.databaseType?.map (·.name)) ++
    ", params: \x7b" ++ String.intercalate ", " params ++ "\x7d \x7d"

end ConnectionConfig

end SchemaChange
