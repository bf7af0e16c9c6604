import Scriptlet.Text.ByteString

/-! Tokens: the words, signs and literals of a program, each with the line it starts on. -/
namespace Scriptlet

/-- The kinds of token, and a number for a kind that is in no table: only a token list built by hand
can hold one. -/
inductive TokenKind
  | leftParen | rightParen | leftBrace | rightBrace | comma | dot | minus | plus | semicolon
  | slash | star | bang | bangEqual | equal | equalEqual | greater | greaterEqual | less
  | lessEqual | identifier | string | integer | float | andWord | classWord | elseWord
  | falseWord | functionWord | forWord | ifWord | nilWord | orWord | printWord | returnWord
  | superWord | thisWord | trueWord | letWord | whileWord | endOfInput
  | unlisted (number : Int)
deriving DecidableEq, Repr

namespace TokenKind

def listed : List TokenKind :=
  [.leftParen, .rightParen, .leftBrace, .rightBrace, .comma, .dot, .minus, .plus, .semicolon,
   .slash, .star, .bang, .bangEqual, .equal, .equalEqual, .greater, .greaterEqual, .less,
   .lessEqual, .identifier, .string, .integer, .float, .andWord, .classWord, .elseWord,
   .falseWord, .functionWord, .forWord, .ifWord, .nilWord, .orWord, .printWord, .returnWord,
   .superWord, .thisWord, .trueWord, .letWord, .whileWord, .endOfInput]

def name : TokenKind → String
  | .leftParen => "LeftParen"
  | .rightParen => "RightParen"
  | .leftBrace => "LeftBrace"
  | .rightBrace => "RightBrace"
  | .comma => "Comma"
  | .dot => "Dot"
  | .minus => "Minus"
  | .plus => "Plus"
  | .semicolon => "Semicolon"
  | .slash => "Slash"
  | .star => "Star"
  | .bang => "Bang"
  | .bangEqual => "BangEqual"
  | .equal => "Equal"
  | .equalEqual => "EqualEqual"
  | .greater => "Greater"
  | .greaterEqual => "GreaterEqual"
  | .less => "Less"
  | .lessEqual => "LessEqual"
  | .identifier => "Identifier"
  | .string => "String"
  | .integer => "Integer"
  | .float => "Float"
  | .andWord => "And"
  | .classWord => "Class"
  | .elseWord => "Else"
  | .falseWord => "False"
  | .functionWord => "Function"
  | .forWord => "For"
  | .ifWord => "If"
  | .nilWord => "Nil"
  | .orWord => "Or"
  | .printWord => "Print"
  | .returnWord => "Return"
  | .superWord => "Super"
  | .thisWord => "This"
  | .trueWord => "True"
  | .letWord => "Let"
  | .whileWord => "While"
  | .endOfInput => "EOF"
  | .unlisted number => s!"TokenType({number})"

def ofNumber (number : Int) : TokenKind :=
  match number with
  | .ofNat index => listed[index]?.getD (.unlisted number)
  | .negSucc _ => .unlisted number

def ofName? (text : String) : Option TokenKind :=
  listed.find? fun kind => kind.name == text

def reserved : List (String × TokenKind) :=
  [("and", .andWord), ("class", .classWord), ("else", .elseWord), ("false", .falseWord),
   ("for", .forWord), ("function", .functionWord), ("taco", .functionWord), ("if", .ifWord),
   ("nil", .nilWord), ("or", .orWord), ("print", .printWord), ("return", .returnWord),
   ("super", .superWord), ("this", .thisWord), ("true", .trueWord), ("let", .letWord),
   ("while", .whileWord)]

def ofWord (word : String) : TokenKind :=
  (reserved.lookup word).getD .identifier

def isReserved (kind : TokenKind) : Bool :=
  reserved.any fun entry => entry.2 == kind

end TokenKind

structure Token where
  kind : TokenKind
  lexeme : ByteString
  literal : ByteString
  line : Int
deriving DecidableEq, Repr

namespace Token

/-- The token that stands for no place in any program. -/
def nowhere : Token := ⟨.leftParen, "", "", 0⟩

def endOfInput (line : Int) : Token := ⟨.endOfInput, "", "", line⟩

def isEnd (token : Token) : Bool := token.kind == .endOfInput

def describe (token : Token) : String :=
  s!"{token.kind.name} '{token.lexeme}' {token.literal} (line {token.line})"

end Token

end Scriptlet
