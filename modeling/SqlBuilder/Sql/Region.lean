/-!
# Lexical regions of SQL text

The stretches of SQL text in which a dollar sign does not start a placeholder: quoted literals
and identifiers, comments, and dollar-quoted bodies. Each function takes the text after the
opening of a region and gives the number of characters up to and including its end. A region
that is never closed reaches to the end of the text.
-/

namespace SqlBuilder.Sql

/-- Whether the character can continue an identifier: ASCII letters and digits, `_`, `$` and
everything outside ASCII. -/
def continuesIdent (c : Char) : Bool :=
  c == '_' || c == '$' || c.isAlphanum || decide (128 ≤ c.toNat)

/-- Whether a quotation mark opens a literal with backslash escapes, given the text before it,
nearest character first: a lone `E` stands there that does not continue an identifier. -/
def opensEscapes : (before : List Char) → Bool
  | [] => false
  | [c] => c == 'E' || c == 'e'
  | c :: d :: _ => (c == 'E' || c == 'e') && !continuesIdent d

/-- The rest of a quoted stretch: a doubled quotation mark stays inside, and so does whatever
follows a backslash when backslashes escape. -/
def quotedLength (quote : Char) (escapes : Bool) : List Char → Nat
  | [] => 0
  | [_] => 1
  | c :: d :: rest =>
    if escapes && c == '\\' then 2 + quotedLength quote escapes rest
    else if c == quote then
      if d == quote then 2 + quotedLength quote escapes rest else 1
    else 1 + quotedLength quote escapes (d :: rest)

/-- The rest of a line, its newline included. -/
def lineLength : List Char → Nat
  | [] => 0
  | c :: rest => if c == '\n' then 1 else 1 + lineLength rest

/-- The rest of a block comment with `depth` comments open inside it; comments nest. -/
def blockLength (depth : Nat) : List Char → Nat
  | [] => 0
  | [_] => 1
  | c :: d :: rest =>
    if c == '/' && d == '*' then 2 + blockLength (depth + 1) rest
    else if c == '*' && d == '/' then
      match depth with
      | 0 => 2
      | inner + 1 => 2 + blockLength inner rest
    else 1 + blockLength depth (d :: rest)

/-- The tag of a dollar quote, when the text after a dollar sign completes its opening: nothing,
or an ASCII letter or `_` and then letters, digits and `_`. -/
def dollarTag? (after : List Char) : Option (List Char) :=
  let tag := after.takeWhile fun c => c == '_' || c.isAlphanum
  let wellFormed := match tag with
    | [] => true
    | c :: _ => c == '_' || c.isAlpha
  if wellFormed && (after.drop tag.length).head? == some '$' then some tag else none

/-- The length up to and including the first occurrence of `closing`. -/
def lengthThrough (closing : List Char) : List Char → Nat
  | [] => 0
  | c :: rest =>
    if closing.isPrefixOf (c :: rest) then closing.length else 1 + lengthThrough closing rest

/-- The rest of a dollar-quoted stretch, given the text after its first dollar sign. -/
def dollarQuotedLength? (after : List Char) : Option Nat :=
  (dollarTag? after).map fun tag =>
    let opening := tag.length + 1
    opening + lengthThrough ('$' :: tag ++ ['$']) (after.drop opening)

end SqlBuilder.Sql
