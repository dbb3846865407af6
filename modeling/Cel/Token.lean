import Cel.Number.Decimal
import Cel.Text.Quoted
import Cel.Text.Utf8

/-! # Tokens

The words of an expression: literals with their decoded values, names, the words that are reserved
or have a meaning of their own, and symbols.
-/

namespace Cel

/-- Words that stand for a value or an operator. -/
inductive Keyword where
  | true | false | null | in
deriving DecidableEq, Repr

/-- Operators and punctuation. -/
inductive Symbol where
  | equal | notEqual | lessEqual | greaterEqual | and | or
  | plus | minus | star | slash | percent | less | greater | not | question | colon
  | leftParen | rightParen | leftBracket | rightBracket | leftBrace | rightBrace | dot | comma
deriving DecidableEq, Repr

/-- One token. A reserved word is a name that no expression may use. -/
inductive Token where
  | int (value : Int64)
  | uint (value : UInt64)
  | double (value : Double)
  | string (value : String)
  | bytes (value : List UInt8)
  | ident (name : String)
  | reserved (word : String)
  | keyword (word : Keyword)
  | symbol (sign : Symbol)
deriving DecidableEq, Repr

namespace Keyword

def text : Keyword → String
  | .true => "true"
  | .false => "false"
  | .null => "null"
  | .in => "in"

def all : List Keyword := [.true, .false, .null, .in]

end Keyword

namespace Symbol

def text : Symbol → String
  | .equal => "=="
  | .notEqual => "!="
  | .lessEqual => "<="
  | .greaterEqual => ">="
  | .and => "&&"
  | .or => "||"
  | .plus => "+"
  | .minus => "-"
  | .star => "*"
  | .slash => "/"
  | .percent => "%"
  | .less => "<"
  | .greater => ">"
  | .not => "!"
  | .question => "?"
  | .colon => ":"
  | .leftParen => "("
  | .rightParen => ")"
  | .leftBracket => "["
  | .rightBracket => "]"
  | .leftBrace => "\x7b"
  | .rightBrace => "\x7d"
  | .dot => "."
  | .comma => ","

end Symbol

/-- The words that are kept out of use as names. -/
def reservedWords : List String :=
  ["as", "break", "const", "continue", "else", "for", "function", "if", "import", "let", "loop",
    "package", "namespace", "return", "var", "void", "while"]

/-- The token that a word made of letters, digits and underscores is. -/
def Token.ofWord (word : String) : Token :=
  match Keyword.all.find? (·.text == word) with
  | some found => .keyword found
  | none => if reservedWords.contains word then .reserved word else .ident word

/-- The way a token is shown in messages. Text is quoted, and malformed bytes are replaced. -/
def Token.text : Token → String
  | .int value => toString value.toInt
  | .uint value => s!"{value.toNat}u"
  | .double value => value.plainText
  | .string value => Text.Quoted.write value
  | .bytes value => "b" ++ Text.Quoted.write (String.ofList (Text.Utf8.decodeLossy value))
  | .ident name => name
  | .reserved word => word
  | .keyword word => word.text
  | .symbol sign => sign.text

end Cel
