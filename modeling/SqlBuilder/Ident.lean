/-!
# SQL identifiers

Keys that reach SQL text are identifiers: segments joined by single dots, each of them bare or
between quotation marks. A bare segment starts with an ASCII letter or `_` and goes on with
letters, digits, `_` and `$`. A quoted segment is not empty, holds anything but NUL, and
doubles every quotation mark inside it. `Ident.parse` reads this grammar and `Ident.toSql`
writes it.
-/

namespace SqlBuilder

/-- One part of a dotted identifier. -/
inductive Segment
  | bare (name : String)
  | quoted (name : String)
  deriving DecidableEq

/-- A dotted identifier. -/
structure Ident where
  segments : List Segment
  deriving DecidableEq

namespace Ident

/-- Why a text is not an identifier. -/
inductive Fault
  | empty
  | nul
  | unclosedQuote
  | emptyQuote
  | invalidChar (c : Char)
  | emptySegment
  | trailingDot
  /-- Something other than a dot follows a quoted segment. -/
  | missingDot (found : Char)
  deriving DecidableEq

/-- The message for a fault of the given text. -/
def Fault.message (text : String) : Fault → String
  | .empty => "identifier cannot be empty"
  | .nul => "identifier cannot contain NUL character"
  | .unclosedQuote => "unclosed quoted identifier in '" ++ text ++ "'"
  | .emptyQuote => "empty quoted identifier"
  | .invalidChar c =>
    "invalid character '" ++ String.singleton c ++ "' in identifier '" ++ text ++ "'"
  | .emptySegment => "empty identifier segment in '" ++ text ++ "'"
  | .trailingDot => "trailing '.' in identifier '" ++ text ++ "'"
  | .missingDot found =>
    "expected '.' between identifier segments of '" ++ text ++ "', got '" ++
      String.singleton found ++ "'"

/-- The characters that can start a bare segment. -/
def isBareStart (c : Char) : Bool := c == '_' || c.isAlpha

/-- The characters that can go on in a bare segment. -/
def isBareChar (c : Char) : Bool := c == '_' || c == '$' || c.isAlphanum

mutual

/-- The start of a segment; the segments before it, back to front, are `done`. -/
def parseSegment (done : List Segment) : List Char → Except Fault (List Segment)
  | [] => .error .trailingDot
  | c :: rest =>
    if c = '"' then parseQuoted done [] rest
    else if c = '.' then .error .emptySegment
    else if isBareStart c then parseBare done [c] rest
    else .error (.invalidChar c)
  termination_by structural text => text

/-- Inside a bare segment whose characters so far, back to front, are `name`. -/
def parseBare (done : List Segment) (name : List Char) : List Char → Except Fault (List Segment)
  | [] => .ok (.bare (String.ofList name.reverse) :: done)
  | c :: rest =>
    if c = '.' then parseSegment (.bare (String.ofList name.reverse) :: done) rest
    else if isBareChar c then parseBare done (c :: name) rest
    else .error (.invalidChar c)
  termination_by structural text => text

/-- Inside a quoted segment. -/
def parseQuoted (done : List Segment) (name : List Char) :
    List Char → Except Fault (List Segment)
  | [] => .error .unclosedQuote
  | c :: rest =>
    if c = '"' then parseQuoteEnd done name rest else parseQuoted done (c :: name) rest
  termination_by structural text => text

/-- After a quotation mark inside a quoted segment: a second one stands for itself, anything
else means that the segment has ended. -/
def parseQuoteEnd (done : List Segment) (name : List Char) :
    List Char → Except Fault (List Segment)
  | [] =>
    if name.isEmpty then .error .emptyQuote
    else .ok (.quoted (String.ofList name.reverse) :: done)
  | c :: rest =>
    if c = '"' then parseQuoted done ('"' :: name) rest
    else if name.isEmpty then .error .emptyQuote
    else if c = '.' then parseSegment (.quoted (String.ofList name.reverse) :: done) rest
    else .error (.missingDot c)
  termination_by structural text => text

end

/-- Reads an identifier. -/
def parse (text : String) : Except Fault Ident :=
  let cs := text.toList
  if cs.isEmpty then .error .empty
  else if cs.contains '\x00' then .error .nul
  else (parseSegment [] cs).map fun segments => ⟨segments.reverse⟩

/-- The name with every quotation mark doubled. -/
def doubleQuotes : List Char → List Char
  | [] => []
  | c :: rest => if c = '"' then '"' :: '"' :: doubleQuotes rest else c :: doubleQuotes rest

end Ident

/-- The text of a segment. -/
def Segment.toSql : Segment → String
  | .bare name => name
  | .quoted name => "\"" ++ String.ofList (Ident.doubleQuotes name.toList) ++ "\""

namespace Ident

/-- The text of an identifier. -/
def toSql (ident : Ident) : String :=
  String.intercalate "." (ident.segments.map Segment.toSql)

end Ident

end SqlBuilder
