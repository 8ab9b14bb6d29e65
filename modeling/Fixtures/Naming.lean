import Fixtures.Text.Cluster
import Fixtures.Text.Ident
import Fixtures.Text.LetterCase

/-!
# `Fixtures.Naming`: field names, constant names, method name parts

Fields are named in lowerCamelCase and constants in UPPER_SNAKE_CASE. `constantName?` goes from
the first to the second: a field name is cut into words where the letter case or the kind of
character changes, and the words are put into upper case and joined by `_`.

    stringField        STRING_FIELD
    parseHTTPResponse  PARSE_HTTP_RESPONSE
    item1Id            ITEM_1_ID

`wordCase` goes back: it cuts at `_` and capitalises each word.
-/

set_option autoImplicit false

namespace Fixtures

/-- What is wrong with a name. -/
inductive IdentifierFault where
  /-- A field without a name. -/
  | emptyField
  /-- A field name with an underscore. -/
  | underscore (name : String)
  /-- A field name whose first character is no lower-case letter. -/
  | upperStart (name : String)
  /-- A field name with characters other than ASCII letters and digits. -/
  | foreignCharacter (name : String)
  /-- A field name that its words do not rebuild. -/
  | noWords (name : String)
  /-- An explicit constant name that is no identifier. -/
  | badConstant (name : String)
  /-- An explicit method name that is no identifier. -/
  | badMethod (name : String)
deriving DecidableEq

namespace IdentifierFault

/-- The fault in words. -/
def detail : IdentifierFault → String
  | emptyField => "empty field name"
  | underscore name => "'" ++ name ++ "' contains underscores; expected lowerCamelCase"
  | upperStart name => "'" ++ name ++ "' must start with a lowercase letter"
  | foreignCharacter name => "'" ++ name ++ "' contains characters outside [A-Za-z0-9]"
  | noWords name => "'" ++ name ++ "' does not split into camel-case words"
  | badConstant name => "'" ++ name ++ "' is not a valid constant identifier"
  | badMethod name => "'" ++ name ++ "' is not a valid method name"

/-- The message of the fault. -/
def message (fault : IdentifierFault) : String :=
  "Invalid identifier format: " ++ fault.detail

end IdentifierFault

namespace Naming

open Fixtures.Text

/-! ### Words of a field name -/

/-- Whether a word ends between `a` and `b`, where `rest` follows: the letter case rises, a
letter meets a digit, or an upper-case run ends before the capital that starts a new word. -/
def isBoundary (a b : Char) (rest : List Char) : Bool :=
  (a.isLower && b.isUpper)
    || ((a.isLower || a.isUpper) && b.isDigit)
    || (a.isDigit && (b.isLower || b.isUpper))
    || (a.isUpper && b.isUpper && rest.head?.any Char.isLower)

/-- Puts a character in front of the first word. -/
def consToHead (c : Char) : List (List Char) → List (List Char)
  | [] => [[c]]
  | word :: words => (c :: word) :: words

/-- The words of a field name: a cut at every boundary, and nowhere else. This states an assumption,
namely that the library `convert_case` cuts a name of ASCII letters and digits so. The rules of that
library are taken from its documentation. -/
def words : List Char → List (List Char)
  | [] => []
  | [a] => [[a]]
  | a :: b :: rest =>
    if isBoundary a b rest then [a] :: words (b :: rest) else consToHead a (words (b :: rest))

/-- Words in upper case, joined by underscores. -/
def joinUpper (ws : List (List Char)) : List Char :=
  ['_'].intercalate (ws.map (·.map Char.toUpper))

/-- Checks that a field name is lowerCamelCase: an ASCII lower-case letter, then ASCII letters
and digits. -/
def checkField (name : String) : Except IdentifierFault Unit :=
  match name.toList with
  | [] => .error .emptyField
  | first :: rest =>
    if (first :: rest).contains '_' then .error (.underscore name)
    else if !first.isLower then .error (.upperStart name)
    else if !(first :: rest).all Char.isAlphanum then .error (.foreignCharacter name)
    else .ok ()

/-- The constant name of a field. The words have to rebuild the field name, and none may be empty.
The check is made on the words, before they are joined. On the joined text it would say that no part
between underscores is empty, and that without the underscores it is the field name in upper case;
for words of letters and digits both come to the same. -/
def constantName? (field : String) : Except IdentifierFault String := do
  checkField field
  let ws := words field.toList
  if ws.any List.isEmpty || ws.flatten != field.toList then
    throw (.noWords field)
  return String.ofList (joinUpper ws)

/-- Accepts the explicit constant names, which are identifiers. -/
def checkConstant (name : String) : Except IdentifierFault Unit :=
  if isIdent name then .ok () else .error (.badConstant name)

/-! ### Words of a constant name -/

/-- The parts of a text between the underscores that stand alone; empty parts stay. An underscore
does not stand alone if the character before it leads it (`led`) or the one after attaches. -/
def underscoreParts (led : Bool) : List Char → List (List Char)
  | [] => [[]]
  | c :: rest =>
    if c = '_' && !led && !rest.head?.any Cluster.attaches then
      [] :: underscoreParts false rest
    else
      consToHead c (underscoreParts (Cluster.leads c) rest)

/-- A word with its first character in upper case and the rest in lower case. -/
def titleCase : List Char → List Char
  | [] => []
  | c :: rest => LetterCase.upper c ++ LetterCase.lowerAfter [] rest

/-- A constant name in word case: `STRING_FIELD` becomes `StringField`. -/
def wordCase (constant : String) : String :=
  String.ofList ((underscoreParts false constant.toList).flatMap titleCase)

/-- A name with its first character in upper case, if that is an ASCII letter. -/
def capitalize (name : String) : String :=
  match name.toList with
  | [] => ""
  | c :: rest => String.ofList (c.toUpper :: rest)

end Naming

end Fixtures
