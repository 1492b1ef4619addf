import OzoPg.Lib.Peg
import Mathlib.Algebra.Ring.Nat
import Mathlib.Data.List.DropRight

/-!
# Query configurations

`include/ozo/query_conf.h`. A configuration is split into lines, the comments that name a query are
found among them, and the lines of text between two of these are split into parts and parameters.
Each query so defined is matched with its declaration, where its parameters become placeholders.

The grammars are those of the source, rule by rule. All of them are run with a skipper for the null
character. A declared name is a `hana::string` and may hold any characters; `get_query_name` makes
a `std::string_view` of a pointer to it.
-/

namespace OzoPg.QueryConf

open Peg Peg.Parser

/-- `std::string`. -/
abbrev Text := List Char

/-- The skipper `x3::char_('\0')`. -/
def isNul (c : Char) : Bool := c == '\x00'

/-- `std::isspace` of the classic locale. -/
def isSpace (c : Char) : Bool :=
  c == ' ' || c == '\t' || c == '\n' || c == '\x0b' || c == '\x0c' || c == '\r'

/-- The class `_0-9A-Za-z`. -/
def isNameChar (c : Char) : Bool := c == '_' || c.isAlphanum

/-- What the functions of the header throw, with what their messages name. -/
inductive ConfError where
  | lines
  | expectedComment
  | text (name : Text)
  | duplicateDeclaration (name : Text)
  | duplicateDefinition (name : Text)
  | notDefined (name : Text)
  | notDeclared (name : Text)
  | parameterNotFound (query parameter : Text)
  | notNumeric (query parameter : Text)
  /-- `std::out_of_range`, as is the next one; the others are `std::invalid_argument` -/
  | outOfRange (parameter : Text) (size : Nat)
  | noKey
  deriving DecidableEq, Repr

/-- The string a pointer to characters stands for. -/
def cString (s : Text) : Text := s.takeWhile fun c => !isNul c

/-- `std::to_string`. -/
def toText (n : Nat) : Text := Nat.toDigits 10 n

/-! ## Lines -/

/-- `query_line`. -/
inductive QueryLine where
  | comment (value : Text)
  | text (value : Text)
  deriving DecidableEq, Repr

def QueryLine.value : QueryLine → Text
  | .comment value => value
  | .text value => value

/-- `x3::char_`. -/
def char : Parser Char true Char := satisfy fun _ => true

/-- `x3::eol`. -/
def eol : Parser Char true Text :=
  (string "\r\n".toList).alt ((string "\r".toList).alt (string "\n".toList))

namespace LinesParser

def endDef : Parser Char true Text :=
  lexeme ((string "\r\n".toList).alt ((string "\r".toList).alt (string "\n".toList)))

/-- The first alternative of `line_def`; the attribute of an `eoi` is nothing. -/
def comment : Parser Char true QueryLine :=
  (lexeme ((string "--".toList).seq ((char.diff eol).star.seq
    (endDef.alt (eoi.map fun _ => []))))).map fun x => .comment (x.1 ++ (x.2.1 ++ x.2.2))

/-- The second one: a line of text with its terminator. -/
def text : Parser Char true QueryLine :=
  (lexeme ((char.diff eol).star.seq endDef)).map fun x => .text (x.1 ++ x.2)

/-- The third one: the last line may have none. -/
def lastText : Parser Char true QueryLine :=
  (((lexeme (char.diff eol).plus).map QueryLine.text).seq eoi).map Prod.fst

def lineDef : Parser Char true QueryLine := comment.alt (text.alt lastText)

def confDef : Parser Char false (List QueryLine) := (lineDef.star.seq eoi).map Prod.fst

end LinesParser

/-- `parse_query_conf_lines`. -/
def parseQueryConfLines (conf : Text) : Except ConfError (List QueryLine) :=
  match LinesParser.confDef.phraseParse isNul conf with
  | some lines => .ok lines
  | none => .error .lines

/-! ## Headers -/

namespace HeaderParser

/-- `x3::space`. -/
def space : Parser Char true Char := satisfy isSpace

/-- The attribute is the name. -/
def headerDef : Parser Char true Text :=
  ((string "--".toList).seq (space.star.seq ((string "name".toList).seq (space.star.seq
    ((string ":".toList).seq (space.star.seq ((lexeme (char.diff eol).plus).seq
      (eol.opt.seq eoi)))))))).map fun x => x.2.2.2.2.2.2.1

end HeaderParser

/-! ## Texts -/

/-- `query_text_element`. -/
inductive QueryTextElement where
  | part (value : Text)
  | parameterName (value : Text)
  deriving DecidableEq, Repr

namespace TextParser

/-- What `text_part_def` repeats. -/
def part : Parser Char true Text :=
  lexeme ((string "::".toList).alt ((string ":=".toList).alt
    ((char.diff (satisfy (· == ':'))).diff (satisfy isNul)).plus))

def textPartDef : Parser Char true Text := part.plus.map List.flatten

def parameterNameDef : Parser Char true Text :=
  ((satisfy (· == ':')).seq (lexeme (satisfy isNameChar).plus)).map Prod.snd

/-- What `text_def` repeats. -/
def element : Parser Char true QueryTextElement :=
  (parameterNameDef.map .parameterName).alt (textPartDef.map .part)

def textDef : Parser Char false (List QueryTextElement) := (element.star.seq eoi).map Prod.fst

end TextParser

/-! ## Definitions -/

/-- `parsed_query`. -/
structure ParsedQuery where
  name : Text
  text : List QueryTextElement
  deriving DecidableEq, Repr

/-- `state_type`. -/
inductive StateType where
  | initial
  | headerParsed
  deriving DecidableEq, Repr

/-- `line_visitor`. Once a header is parsed there is a query. -/
structure LineVisitor where
  state : StateType
  queries : List ParsedQuery
  back : state = .headerParsed → queries ≠ []

namespace LineVisitor

def initial : LineVisitor := ⟨.initial, [], nofun⟩

def parseHeader (v : LineVisitor) (comment : Text) : LineVisitor :=
  match HeaderParser.headerDef.phraseParse isNul comment with
  | some name => ⟨.headerParsed, v.queries ++ [⟨name, []⟩], fun _ => by simp⟩
  | none => v

/-- `parse_text`, with `queries.back()`. -/
def parseText (v : LineVisitor) (hback : v.queries ≠ []) (text : Text) :
    Except ConfError LineVisitor :=
  let query := v.queries.getLast hback
  match TextParser.textDef.phraseParse isNul text with
  | some elements =>
    .ok ⟨v.state, v.queries.dropLast ++ [{ query with text := query.text ++ elements }],
      fun _ => by simp⟩
  | none => .error (.text query.name)

/-- `operator ()`. -/
def visit (v : LineVisitor) : QueryLine → Except ConfError LineVisitor
  | .comment comment => .ok (v.parseHeader comment)
  | .text text =>
    match h : v.state with
    | .initial => .error .expectedComment
    | .headerParsed => v.parseText (v.back h) text

end LineVisitor

/-- `parse_query_conf_elements`. -/
def parseQueryConfElements (lines : List QueryLine) : Except ConfError (List ParsedQuery) :=
  (lines.foldlM LineVisitor.visit .initial).map LineVisitor.queries

/-- `parse_query_conf`. -/
def parseQueryConf (conf : Text) : Except ConfError (List ParsedQuery) :=
  (parseQueryConfLines conf).bind parseQueryConfElements

/-! ## Declarations -/

/-- `parameters_type` of a query: an adapted structure by the names of its members, or a tuple by
its size. -/
inductive ParametersType where
  | struct (members : List Text)
  | tuple (size : Nat)
  deriving DecidableEq, Repr

/-- A declared query, with the name `get_raw_query_name` returns. -/
structure Query where
  name : Text
  parameters : ParametersType
  deriving DecidableEq, Repr

/-- `get_query_name`: the view is made of `hana::to<const char*>` without a size. -/
def getQueryName (query : Query) : Text := cString query.name

/-- A name is inserted into a set, with an error if it is there already. -/
def insertName (error : Text → ConfError) (set : List Text) (name : Text) :
    Except ConfError (List Text) :=
  if name ∈ set then .error (error name) else .ok (name :: set)

/-- The loop of either `check_for_duplicates`. -/
def insertAll (error : Text → ConfError) (names : List Text) : Except ConfError (List Text) :=
  names.foldlM (insertName error) []

/-- `check_for_duplicates` of the declarations. -/
def checkForDuplicateDeclarations (queries : List Query) : Except ConfError Unit :=
  (insertAll .duplicateDeclaration (queries.map Query.name)).map fun _ => ()

/-- `check_for_duplicates` of the definitions. -/
def checkForDuplicates (parsed : List ParsedQuery) : Except ConfError (List Text) :=
  insertAll .duplicateDefinition (parsed.map ParsedQuery.name)

/-- `check_for_undefined`. -/
def checkForUndefined (declarations : List Query) (definitions : List Text) :
    Except ConfError Unit :=
  declarations.forM fun query =>
    if getQueryName query ∈ definitions then .ok () else .error (.notDefined query.name)

/-! ## Descriptions -/

/-- `query_description`. -/
structure QueryDescription where
  name : Text
  text : Text
  deriving DecidableEq, Repr

/-- `boost::conversion::try_lexical_convert` of a name to `std::size_t`. -/
def tryLexicalConvert (value : Text) : Option Nat :=
  if value ≠ [] ∧ value.all Char.isDigit then
    let number := value.foldl (fun n c => 10 * n + (c.toNat - '0'.toNat)) 0
    if number < 2 ^ 64 then some number else none
  else none

/-- One round of the loop over the keys of an adapted structure. -/
def countKey (value : Text) (acc : Bool × Nat) (key : Text) : Bool × Nat :=
  if key = value then (true, acc.2) else if !acc.1 then (acc.1, acc.2 + 1) else acc

/-- The number `query_part_visitor` finds for the name of a parameter. -/
def parameterNumber (query : Query) (value : Text) : Except ConfError Nat :=
  match query.parameters with
  | .struct members =>
    let acc := members.foldl (countKey value) (false, 0)
    if acc.1 then .ok acc.2 else .error (.parameterNotFound query.name value)
  | .tuple size =>
    match tryLexicalConvert value with
    | none => .error (.notNumeric query.name value)
    | some number => if size ≤ number then .error (.outOfRange value size) else .ok number

def placeholder (number : Nat) : Text := '$' :: toText (number + 1)

/-- `query_part_visitor::operator ()`. -/
def visitPart (query : Query) (text : Text) : QueryTextElement → Except ConfError Text
  | .part value => .ok (text ++ value)
  | .parameterName value =>
    (parameterNumber query value).map fun number => text ++ placeholder number

/-- `boost::trim`. -/
def trim (s : Text) : Text := (s.rdropWhile isSpace).dropWhile isSpace

/-- `make_query_description` for one query. -/
def makeQueryDescription (query : Query) (parsed : ParsedQuery) :
    Except ConfError QueryDescription :=
  (parsed.text.foldlM (visitPart query) []).map fun text => ⟨parsed.name, trim text⟩

/-- One round of the loop over the declared queries. -/
def visitQuery (parsed : ParsedQuery) (description : Option QueryDescription) (query : Query) :
    Except ConfError (Option QueryDescription) :=
  if getQueryName query = parsed.name then (makeQueryDescription query parsed).map some
  else .ok description

/-- `make_query_description` for all queries: the last one of the name counts. -/
def makeQueryDescriptionOf (queries : List Query) (parsed : ParsedQuery) :
    Except ConfError QueryDescription :=
  (queries.foldlM (visitQuery parsed) none).bind fun
    | some description => .ok description
    | none => .error (.notDeclared parsed.name)

/-- `make_query_descriptions`. -/
def makeQueryDescriptions (queries : List Query) (parsed : List ParsedQuery) :
    Except ConfError (List QueryDescription) :=
  parsed.mapM (makeQueryDescriptionOf queries)

/-! ## Repositories -/

/-- `query_conf`. In the map the first of two entries with one key counts. -/
structure Conf where
  descriptions : List QueryDescription
  queries : List (Text × Text)
  deriving DecidableEq, Repr

/-- `make_query_conf`. -/
def makeQueryConf (descriptions : List QueryDescription) : Conf :=
  ⟨descriptions, descriptions.map fun description => (description.name, description.text)⟩

/-- `query_repository::get_description`. -/
def Conf.getDescription (conf : Conf) (query : Query) : Except ConfError Text :=
  match conf.queries.lookup (getQueryName query) with
  | some text => .ok text
  | none => .error .noKey

/-- `make_query_repository`. -/
def makeQueryRepository (conf : Text) (queries : List Query) : Except ConfError Conf := do
  checkForDuplicateDeclarations queries
  let parsed ← parseQueryConf conf
  let definitions ← checkForDuplicates parsed
  checkForUndefined queries definitions
  let descriptions ← makeQueryDescriptions queries parsed
  return makeQueryConf descriptions

/-- A value of a `parameters_type`. -/
inductive Parameters (V : Type) where
  | struct (fields : List (Text × V))
  | tuple (elements : List V)
  deriving Repr

/-- Its type. -/
def Parameters.type {V : Type} : Parameters V → ParametersType
  | .struct fields => .struct (fields.map Prod.fst)
  | .tuple elements => .tuple elements.length

/-- What `query_repository::make_query` passes on: `hana::members`, or the elements. -/
def Parameters.unpack {V : Type} : Parameters V → List V
  | .struct fields => fields.map Prod.snd
  | .tuple elements => elements

/-- `query_repository::make_query`: the text and the values `ozo::make_query` is given. -/
def Conf.makeQuery {V : Type} (conf : Conf) (query : Query) (parameters : Parameters V) :
    Except ConfError (Text × List V) :=
  (conf.getDescription query).map fun text => (text, parameters.unpack)

end OzoPg.QueryConf
