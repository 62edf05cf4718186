import SqlBuilder.Json.Number
import SqlBuilder.Text.Hex

/-!
# Reading JSON text

Reading has two stages. A lexer goes through the characters once and collects tokens; a reader
goes through the tokens once with a stack of open containers. `Json.parse?` gives `none` on
every text that is not one JSON value: unescaped control characters, half of a surrogate pair,
numbers out of range and more than 127 open containers are refused. A repeated member keeps
its first position and takes its last value.
-/

namespace SqlBuilder.Json

open Text

/-- The tokens of JSON text. -/
inductive Token
  | openArray
  | closeArray
  | openObject
  | closeObject
  | comma
  | colon
  | string (s : String)
  /-- A number or one of the three words. -/
  | scalar (j : Json)

/-- What the lexer is in the middle of; texts are kept back to front. -/
inductive LexMode
  | idle
  | word (text : List Char)
  | string (text : List Char)
  | escape (text : List Char)
  /-- After `\u` and some hexadecimal digits; a leading surrogate waits in `high`. -/
  | unicode (text digits : List Char) (high : Option Nat)
  /-- After a leading surrogate, before the next escape. -/
  | pair (text : List Char) (high : Nat)
  | pairEscape (text : List Char) (high : Nat)

/-- The lexer: its mode and the tokens so far, back to front. -/
structure Lexer where
  mode : LexMode
  tokens : List Token

/-- The token of a punctuation character. -/
def punctuation? (c : Char) : Option Token :=
  if c = '[' then some .openArray
  else if c = ']' then some .closeArray
  else if c = '\x7b' then some .openObject
  else if c = '\x7d' then some .closeObject
  else if c = ',' then some .comma
  else if c = ':' then some .colon
  else none

/-- The characters between tokens. -/
def isBlank (c : Char) : Bool := c = ' ' || c = '\n' || c = '\t' || c = '\r'

/-- The characters of numbers and words. -/
def isWordChar (c : Char) : Bool :=
  c.isAlphanum || c = '-' || c = '+' || c = '.'

/-- The value of a number or word. -/
def scalar? (text : List Char) : Option Json :=
  if text = ['n', 'u', 'l', 'l'] then some .null
  else if text = ['t', 'r', 'u', 'e'] then some (.bool true)
  else if text = ['f', 'a', 'l', 's', 'e'] then some (.bool false)
  else number? text

/-- The character of a one-letter escape. -/
def unescape? (c : Char) : Option Char :=
  if c = '"' || c = '\\' || c = '/' then some c
  else if c = 'b' then some '\x08'
  else if c = 'f' then some '\x0c'
  else if c = 'n' then some '\n'
  else if c = 'r' then some '\r'
  else if c = 't' then some '\t'
  else none

/-- A character outside strings. -/
def Lexer.start (tokens : List Token) (c : Char) : Option Lexer :=
  if isBlank c then some ⟨.idle, tokens⟩
  else if c = '"' then some ⟨.string [], tokens⟩
  else if isWordChar c then some ⟨.word [c], tokens⟩
  else (punctuation? c).map fun t => ⟨.idle, t :: tokens⟩

/-- A finished `\u` escape: a character, or half of a surrogate pair. -/
def Lexer.codeUnit (tokens : List Token) (text : List Char) (unit : Nat) :
    Option Nat → Option Lexer
  | none =>
    if 0xD800 ≤ unit && unit ≤ 0xDBFF then some ⟨.pair text unit, tokens⟩
    else if 0xDC00 ≤ unit && unit ≤ 0xDFFF then none
    else some ⟨.string (Char.ofNat unit :: text), tokens⟩
  | some high =>
    if 0xDC00 ≤ unit && unit ≤ 0xDFFF then
      let code := 0x10000 + (high - 0xD800) * 0x400 + (unit - 0xDC00)
      some ⟨.string (Char.ofNat code :: text), tokens⟩
    else none

/-- Takes in one character. -/
def Lexer.read (lexer : Lexer) (c : Char) : Option Lexer :=
  match lexer.mode with
  | .idle => Lexer.start lexer.tokens c
  | .word text =>
    if isWordChar c then some ⟨.word (c :: text), lexer.tokens⟩
    else do
      let j ← scalar? text.reverse
      Lexer.start (.scalar j :: lexer.tokens) c
  | .string text =>
    if c = '"' then some ⟨.idle, .string (String.ofList text.reverse) :: lexer.tokens⟩
    else if c = '\\' then some ⟨.escape text, lexer.tokens⟩
    else if c.toNat < 32 then none
    else some ⟨.string (c :: text), lexer.tokens⟩
  | .escape text =>
    if c = 'u' then some ⟨.unicode text [] none, lexer.tokens⟩
    else (unescape? c).map fun d => ⟨.string (d :: text), lexer.tokens⟩
  | .unicode text digits high => do
    let digits := digits ++ [c]
    let unit ← hexNumber? digits
    if digits.length < 4 then some ⟨.unicode text digits high, lexer.tokens⟩
    else Lexer.codeUnit lexer.tokens text unit high
  | .pair text high =>
    if c = '\\' then some ⟨.pairEscape text high, lexer.tokens⟩ else none
  | .pairEscape text high =>
    if c = 'u' then some ⟨.unicode text [] (some high), lexer.tokens⟩ else none

/-- The tokens once the text has ended. -/
def Lexer.finish (lexer : Lexer) : Option (List Token) :=
  match lexer.mode with
  | .idle => some lexer.tokens.reverse
  | .word text => do
    let j ← scalar? text.reverse
    return (.scalar j :: lexer.tokens).reverse
  | _ => none

/-- The tokens of a text. -/
def tokens? (text : List Char) : Option (List Token) :=
  (text.foldlM Lexer.read ⟨.idle, []⟩).bind Lexer.finish

/-- An open container. -/
inductive Frame
  /-- The items so far, back to front. -/
  | array (items : List Json)
  /-- The members so far. -/
  | object (members : Record Json)
  /-- The members so far and the key whose value comes next. -/
  | member (members : Record Json) (key : String)

/-- What may come next. -/
inductive Expectation
  | value
  /-- A first item or the end of the array. -/
  | item
  /-- A first key or the end of the object. -/
  | key
  /-- A key, after a comma. -/
  | nextKey
  | colon
  /-- A comma or the end of the innermost container. -/
  | separator
  | done (result : Json)

/-- The reader: the open containers, innermost first, and what may come next. -/
structure Reader where
  stack : List Frame
  expectation : Expectation

/-- Containers that may be open at once. -/
def maxDepth : Nat := 127

/-- Opens a container inside the given ones. -/
def Reader.enter (stack : List Frame) (frame : Frame) (expectation : Expectation) :
    Option Reader :=
  if stack.length < maxDepth then some ⟨frame :: stack, expectation⟩ else none

/-- Hands a finished value to the innermost container. -/
def Reader.give (value : Json) : List Frame → Option Reader
  | [] => some ⟨[], .done value⟩
  | .array items :: stack => some ⟨.array (value :: items) :: stack, .separator⟩
  | .member members key :: stack => some ⟨.object (members.insert key value) :: stack, .separator⟩
  | .object _ :: _ => none

/-- The start of a value. -/
def Reader.value (stack : List Frame) : Token → Option Reader
  | .scalar j => Reader.give j stack
  | .string s => Reader.give (.string s) stack
  | .openArray => Reader.enter stack (.array []) .item
  | .openObject => Reader.enter stack (.object Record.empty) .key
  | _ => none

/-- Takes in one token. -/
def Reader.read (reader : Reader) (token : Token) : Option Reader :=
  match reader.expectation, reader.stack, token with
  | .value, stack, _ => Reader.value stack token
  | .item, .array _ :: stack, .closeArray => Reader.give (.array []) stack
  | .item, stack, _ => Reader.value stack token
  | .key, .object members :: stack, .closeObject => Reader.give (.object members) stack
  | .key, .object members :: stack, .string s => some ⟨.member members s :: stack, .colon⟩
  | .nextKey, .object members :: stack, .string s => some ⟨.member members s :: stack, .colon⟩
  | .colon, stack, .colon => some ⟨stack, .value⟩
  | .separator, .array items :: stack, .comma => some ⟨.array items :: stack, .value⟩
  | .separator, .array items :: stack, .closeArray => Reader.give (.array items.reverse) stack
  | .separator, .object members :: stack, .comma => some ⟨.object members :: stack, .nextKey⟩
  | .separator, .object members :: stack, .closeObject => Reader.give (.object members) stack
  | _, _, _ => none

/-- The value that a text stands for. -/
def parse? (text : String) : Option Json := do
  let tokens ← tokens? text.toList
  let reader ← tokens.foldlM Reader.read ⟨[], .value⟩
  match reader.expectation with
  | .done result => some result
  | _ => none

end SqlBuilder.Json
