import Scriptlet.Diagnostic
import Scriptlet.Text.Letter
import Scriptlet.Token

/-! Scanning: the tokens of a source text and its lexical errors, with their lines. The scanner has two
places in the text, where the token at hand starts and where it reads on, and counts the line breaks that
it passes. -/
namespace Scriptlet

inductive LexicalFault
  | unterminatedString
  | unterminatedRawString
  | unterminatedComment
  | unexpectedCharacter
deriving DecidableEq, Repr

namespace LexicalFault

def message : LexicalFault → String
  | unterminatedString => "Unterminated string."
  | unterminatedRawString => "Unterminated string."
  | unterminatedComment => "Unterminated block comment."
  | unexpectedCharacter => "Unexpected character."

/-- The fault is only that the text stops too early: more of it can mend it. -/
def isOpen : LexicalFault → Bool
  | unterminatedRawString => true
  | unterminatedComment => true
  | _ => false

end LexicalFault

structure LexicalError where
  line : Int
  cause : LexicalFault
deriving DecidableEq, Repr

namespace LexicalError

def diagnostic (error : LexicalError) : Diagnostic :=
  ⟨"E_LEX", error.cause.message, error.line, ""⟩

end LexicalError

structure Scan where
  tokens : List Token
  errors : List LexicalError
deriving DecidableEq, Repr

def isDigit (c : Char) : Bool :=
  '0' ≤ c && c ≤ '9'

def startsWord (c : Char) : Bool :=
  c == '_' || Text.isLetter c

def continuesWord (c : Char) : Bool :=
  startsWord c || isDigit c

/-- The delimiter of a string that may span lines. -/
def rawQuote : Char := '\x60'

structure Scanner where
  start : Nat := 0
  current : Nat := 0
  line : Int := 1
  tokens : Array Token := #[]
  errors : Array LexicalError := #[]

namespace Scanner

def advance (scanner : Scanner) : Scanner :=
  { scanner with current := scanner.current + 1 }

def fail (cause : LexicalFault) (scanner : Scanner) : Scanner :=
  { scanner with errors := scanner.errors.push ⟨scanner.line, cause⟩ }

section Source

variable (source : Array Char)

def atEnd (scanner : Scanner) : Bool :=
  source.size ≤ scanner.current

/-- The next character. What is read beyond the end is the null character. -/
def peek (scanner : Scanner) : Char :=
  source.getD scanner.current '\x00'

def peekNext (scanner : Scanner) : Char :=
  source.getD (scanner.current + 1) '\x00'

def sees (expected : Char) (scanner : Scanner) : Bool :=
  !scanner.atEnd source && scanner.peek source == expected

def stretch (start stop : Nat) : String :=
  String.ofList (source.extract start stop).toList

def text (scanner : Scanner) : String :=
  stretch source scanner.start scanner.current

def addLiteral (kind : TokenKind) (literal : String) (line : Int) (scanner : Scanner) : Scanner :=
  { scanner with tokens := scanner.tokens.push ⟨kind, scanner.text source, literal, line⟩ }

def addToken (kind : TokenKind) (scanner : Scanner) : Scanner :=
  scanner.addLiteral source kind (scanner.text source) scanner.line

def addString (line : Int) (scanner : Scanner) : Scanner :=
  scanner.addLiteral source .string (stretch source (scanner.start + 1) (scanner.current - 1)) line

def passCounting (scanner : Scanner) : Scanner :=
  if scanner.peek source = '\n' then { scanner.advance with line := scanner.line + 1 } else scanner.advance

theorem current_passCounting (scanner : Scanner) :
    (scanner.passCounting source).current = scanner.current + 1 := by
  unfold passCounting
  split <;> rfl

theorem current_lt {scanner : Scanner} (inside : ¬ scanner.atEnd source = true) :
    scanner.current < source.size := by
  simpa [atEnd] using inside

def passWhile (kept : Char → Bool) (scanner : Scanner) : Scanner :=
  if scanner.atEnd source then scanner
  else if kept (scanner.peek source) then passWhile kept scanner.advance
  else scanner
termination_by source.size - scanner.current
decreasing_by exact Nat.sub_succ_lt_self _ _ (current_lt source ‹_›)

/-- A string on one line, after its opening quote. The line break that cuts it short is left. -/
def scanString (scanner : Scanner) : Scanner :=
  if scanner.peek source ≠ '"' ∧ ¬ scanner.atEnd source then
    if scanner.peek source = '\n' then scanner.fail .unterminatedString
    else scanString scanner.advance
  else if scanner.atEnd source then scanner.fail .unterminatedString
  else scanner.advance.addString source scanner.line
termination_by source.size - scanner.current
decreasing_by exact Nat.sub_succ_lt_self _ _ (current_lt source (And.right ‹_›))

def scanRawString (line : Int) (scanner : Scanner) : Scanner :=
  if scanner.peek source ≠ rawQuote ∧ ¬ scanner.atEnd source then
    scanRawString line (scanner.passCounting source)
  else if scanner.atEnd source then scanner.fail .unterminatedRawString
  else scanner.advance.addString source line
termination_by source.size - scanner.current
decreasing_by
  rw [current_passCounting]
  exact Nat.sub_succ_lt_self _ _ (current_lt source (And.right ‹_›))

def skipComment (scanner : Scanner) : Scanner :=
  if scanner.atEnd source then scanner.fail .unterminatedComment
  else if scanner.peek source = '*' ∧ scanner.peekNext source = '/' then scanner.advance.advance
  else skipComment (scanner.passCounting source)
termination_by source.size - scanner.current
decreasing_by
  rw [current_passCounting]
  exact Nat.sub_succ_lt_self _ _ (current_lt source ‹_›)

/-- A number after its first digit. A point belongs to it only when a digit follows. -/
def scanNumber (scanner : Scanner) : Scanner :=
  let whole := scanner.passWhile source isDigit
  if whole.peek source = '.' ∧ isDigit (whole.peekNext source) then
    (whole.advance.passWhile source isDigit).addToken source .float
  else whole.addToken source .integer

def scanWord (scanner : Scanner) : Scanner :=
  let word := scanner.passWhile source continuesWord
  word.addLiteral source (.ofWord (word.text source)) "" word.line

def scanSign (short long : TokenKind) (scanner : Scanner) : Scanner :=
  if scanner.sees source '=' then scanner.advance.addToken source long
  else scanner.addToken source short

def scanToken (scanner : Scanner) : Scanner :=
  let c := scanner.peek source
  let scanner := scanner.advance
  match c with
  | '(' => scanner.addToken source .leftParen
  | ')' => scanner.addToken source .rightParen
  | '\x7b' => scanner.addToken source .leftBrace
  | '\x7d' => scanner.addToken source .rightBrace
  | ',' => scanner.addToken source .comma
  | '.' => scanner.addToken source .dot
  | '-' => scanner.addToken source .minus
  | '+' => scanner.addToken source .plus
  | ';' => scanner.addToken source .semicolon
  | '*' => scanner.addToken source .star
  | '!' => scanner.scanSign source .bang .bangEqual
  | '=' => scanner.scanSign source .equal .equalEqual
  | '<' => scanner.scanSign source .less .lessEqual
  | '>' => scanner.scanSign source .greater .greaterEqual
  | '#' => scanner.passWhile source (· != '\n')
  | '/' =>
    if scanner.sees source '*' then scanner.advance.skipComment source
    else scanner.addToken source .slash
  | ' ' | '\r' | '\t' => scanner
  | '\n' => { scanner with line := scanner.line + 1 }
  | '"' => scanner.scanString source
  | '\x60' => scanner.scanRawString source scanner.line
  | _ =>
    if isDigit c then scanner.scanNumber source
    else if startsWord c then scanner.scanWord source
    else scanner.fail .unexpectedCharacter

/-! Reading on never goes back. -/

theorem current_passWhile (kept : Char → Bool) (scanner : Scanner) :
    scanner.current ≤ (scanner.passWhile source kept).current := by
  fun_induction passWhile source kept scanner with
  | case1 => exact Nat.le_refl _
  | case2 scanner _ _ ih => exact Nat.le_of_succ_le ih
  | case3 => exact Nat.le_refl _

theorem current_scanString (scanner : Scanner) :
    scanner.current ≤ (scanner.scanString source).current := by
  fun_induction scanString source scanner with
  | case1 => exact Nat.le_refl _
  | case2 scanner _ _ ih => exact Nat.le_of_succ_le ih
  | case3 => exact Nat.le_refl _
  | case4 => exact Nat.le_succ _

theorem current_scanRawString (line : Int) (scanner : Scanner) :
    scanner.current ≤ (scanner.scanRawString source line).current := by
  fun_induction scanRawString source line scanner with
  | case1 scanner _ ih =>
    rw [current_passCounting] at ih
    exact Nat.le_of_succ_le ih
  | case2 => exact Nat.le_refl _
  | case3 => exact Nat.le_succ _

theorem current_skipComment (scanner : Scanner) :
    scanner.current ≤ (scanner.skipComment source).current := by
  fun_induction skipComment source scanner with
  | case1 => exact Nat.le_refl _
  | case2 => exact Nat.le_add_right _ 2
  | case3 scanner _ _ ih =>
    rw [current_passCounting] at ih
    exact Nat.le_of_succ_le ih

theorem current_scanNumber (scanner : Scanner) :
    scanner.current ≤ (scanner.scanNumber source).current := by
  have whole := current_passWhile source isDigit scanner
  unfold scanNumber
  dsimp only
  split
  · have places := current_passWhile source isDigit (scanner.passWhile source isDigit).advance
    exact Nat.le_trans whole (Nat.le_of_succ_le places)
  · exact whole

theorem current_scanSign (short long : TokenKind) (scanner : Scanner) :
    scanner.current ≤ (scanner.scanSign source short long).current := by
  unfold scanSign
  split
  · exact Nat.le_succ _
  · exact Nat.le_refl _

theorem current_scanToken (scanner : Scanner) :
    scanner.current < (scanner.scanToken source).current := by
  unfold scanToken
  dsimp only
  apply Nat.lt_of_succ_le
  split
  all_goals
    first
    | exact Nat.le_refl _
    | exact current_scanSign source _ _ scanner.advance
    | exact current_passWhile source _ scanner.advance
    | exact current_scanString source scanner.advance
    | exact current_scanRawString source _ scanner.advance
    | skip
  · split
    · exact Nat.le_of_succ_le (current_skipComment source scanner.advance.advance)
    · exact Nat.le_refl _
  · split
    · exact current_scanNumber source scanner.advance
    · split
      · exact current_passWhile source _ scanner.advance
      · exact Nat.le_refl _

def scanAll (scanner : Scanner) : Scanner :=
  if scanner.atEnd source then
    { scanner with tokens := scanner.tokens.push (.endOfInput scanner.line) }
  else scanAll (scanToken source { scanner with start := scanner.current })
termination_by source.size - scanner.current
decreasing_by
  exact Nat.sub_lt_sub_left (current_lt source ‹_›)
    (current_scanToken source { scanner with start := scanner.current })

end Source

end Scanner

def scan (source : String) : Scan :=
  let after := Scanner.scanAll source.toList.toArray {}
  ⟨after.tokens.toList, after.errors.toList⟩

end Scriptlet
