import Scriptlet.Scan

/-! A source text as a sequence of segments: tokens, single blanks, comments, and faulty stretches.
Every character belongs to exactly one segment, so a line number is a count of the line breaks in the
segments before. -/
namespace Scriptlet

inductive Segment
  | token (kind : TokenKind) (text : List Char)
  | blank (char : Char)
  | comment (text : List Char)
  | fault (cause : LexicalFault) (text : List Char)
deriving DecidableEq, Repr

namespace Segment

def text : Segment → List Char
  | token _ text => text
  | blank char => [char]
  | comment text => text
  | fault _ text => text

def lineBreaks (segment : Segment) : Nat :=
  segment.text.count '\n'

def sign (c : Char) (short long : TokenKind) : List Char → Segment × List Char
  | '=' :: rest => (token long [c, '='], rest)
  | rest => (token short [c], rest)

def quoted (rest : List Char) : Segment × List Char :=
  let inside := rest.takeWhile fun c => c != '"' && c != '\n'
  match rest.dropWhile fun c => c != '"' && c != '\n' with
  | '"' :: after => (token .string ('"' :: (inside ++ ['"'])), after)
  | after => (fault .unterminatedString ('"' :: inside), after)

def rawQuoted (rest : List Char) : Segment × List Char :=
  let inside := rest.takeWhile (· != rawQuote)
  match rest.dropWhile (· != rawQuote) with
  | _ :: after => (token .string (rawQuote :: (inside ++ [rawQuote])), after)
  | [] => (fault .unterminatedRawString (rawQuote :: inside), [])

def cutAtCommentEnd : List Char → Option (List Char × List Char)
  | [] => none
  | '*' :: '/' :: rest => some (['*', '/'], rest)
  | c :: rest => (cutAtCommentEnd rest).map fun (inside, after) => (c :: inside, after)

def blockComment (rest : List Char) : Segment × List Char :=
  match cutAtCommentEnd rest with
  | some (inside, after) => (comment ('/' :: '*' :: inside), after)
  | none => (fault .unterminatedComment ('/' :: '*' :: rest), [])

def lineComment (rest : List Char) : Segment × List Char :=
  (comment ('#' :: rest.takeWhile (· != '\n')), rest.dropWhile (· != '\n'))

def number (c : Char) (rest : List Char) : Segment × List Char :=
  let whole := c :: rest.takeWhile isDigit
  match rest.dropWhile isDigit with
  | '.' :: d :: after =>
    if isDigit d then
      (token .float (whole ++ '.' :: d :: after.takeWhile isDigit), after.dropWhile isDigit)
    else (token .integer whole, '.' :: d :: after)
  | after => (token .integer whole, after)

def word (c : Char) (rest : List Char) : Segment × List Char :=
  let letters := c :: rest.takeWhile continuesWord
  (token (.ofWord (String.ofList letters)) letters, rest.dropWhile continuesWord)

def first (c : Char) (rest : List Char) : Segment × List Char :=
  match c with
  | '(' => (token .leftParen [c], rest)
  | ')' => (token .rightParen [c], rest)
  | '\x7b' => (token .leftBrace [c], rest)
  | '\x7d' => (token .rightBrace [c], rest)
  | ',' => (token .comma [c], rest)
  | '.' => (token .dot [c], rest)
  | '-' => (token .minus [c], rest)
  | '+' => (token .plus [c], rest)
  | ';' => (token .semicolon [c], rest)
  | '*' => (token .star [c], rest)
  | '!' => sign c .bang .bangEqual rest
  | '=' => sign c .equal .equalEqual rest
  | '<' => sign c .less .lessEqual rest
  | '>' => sign c .greater .greaterEqual rest
  | '#' => lineComment rest
  | '/' =>
    match rest with
    | '*' :: inside => blockComment inside
    | _ => (token .slash [c], rest)
  | ' ' | '\r' | '\t' | '\n' => (blank c, rest)
  | '"' => quoted rest
  | '\x60' => rawQuoted rest
  | _ =>
    if isDigit c then number c rest
    else if startsWord c then word c rest
    else (fault .unexpectedCharacter [c], rest)

theorem length_dropWhile_le (keep : Char → Bool) (text : List Char) :
    (text.dropWhile keep).length ≤ text.length :=
  (List.dropWhile_sublist keep).length_le

theorem cutAtCommentEnd_length {text inside after : List Char}
    (cut : cutAtCommentEnd text = some (inside, after)) : after.length ≤ text.length := by
  fun_induction cutAtCommentEnd text generalizing inside with
  | case1 => simp at cut
  | case2 rest =>
    simp only [Option.some.injEq, Prod.mk.injEq] at cut
    simp [← cut.2]
    omega
  | case3 c rest _ ih =>
    obtain ⟨⟨inner, tail⟩, found, same⟩ := Option.map_eq_some_iff.1 cut
    simp only [Prod.mk.injEq] at same
    have := ih (found.trans (by rw [same.2]))
    simp only [List.length_cons]
    omega

theorem sign_length (c : Char) (short long : TokenKind) (rest : List Char) :
    (sign c short long rest).2.length ≤ rest.length := by
  unfold sign
  split <;> simp

theorem quoted_length (rest : List Char) : (quoted rest).2.length ≤ rest.length := by
  have shorter := length_dropWhile_le (fun c => c != '"' && c != '\n') rest
  simp only [quoted]
  split
  · next after same =>
    rw [same, List.length_cons] at shorter
    exact Nat.le_of_succ_le shorter
  · exact shorter

theorem rawQuoted_length (rest : List Char) : (rawQuoted rest).2.length ≤ rest.length := by
  have shorter := length_dropWhile_le (· != rawQuote) rest
  simp only [rawQuoted]
  split
  · next after same =>
    rw [same, List.length_cons] at shorter
    exact Nat.le_of_succ_le shorter
  · simp

theorem blockComment_length (rest : List Char) : (blockComment rest).2.length ≤ rest.length := by
  unfold blockComment
  split
  · next found => exact cutAtCommentEnd_length found
  · simp

theorem number_length (c : Char) (rest : List Char) : (number c rest).2.length ≤ rest.length := by
  have shorter := length_dropWhile_le isDigit rest
  simp only [number]
  split
  · next d after same =>
    rw [same] at shorter
    simp only [List.length_cons] at shorter
    split
    · have := length_dropWhile_le isDigit after
      simp only
      omega
    · simpa using shorter
  · exact shorter

theorem first_length (c : Char) (rest : List Char) : (first c rest).2.length ≤ rest.length := by
  -- The text after a segment is shorter than the text it starts.
  unfold first
  split
  all_goals
    first
    | exact Nat.le_refl _
    | exact sign_length ..
    | exact quoted_length _
    | exact rawQuoted_length _
    | exact length_dropWhile_le _ _
    | skip
  · split
    · exact Nat.le_trans (blockComment_length _) (Nat.le_succ _)
    · exact Nat.le_refl _
  · split
    · exact number_length c rest
    · split
      · exact length_dropWhile_le _ _
      · exact Nat.le_refl _

end Segment

def segments : List Char → List Segment
  | [] => []
  | c :: rest => (Segment.first c rest).1 :: segments (Segment.first c rest).2
termination_by text => text.length
decreasing_by exact Nat.lt_succ_of_le (Segment.first_length c rest)

namespace Scan

/-- What a token stands for besides its kind: the text between the delimiters of a string, the text
itself of a sign or a number, nothing for a word. -/
def literal (kind : TokenKind) (text : List Char) : String :=
  match kind with
  | .string => String.ofList text.tail.dropLast
  | .identifier => ""
  | _ => if kind.isReserved then "" else String.ofList text

def token (line : Int) (kind : TokenKind) (text : List Char) : Token :=
  ⟨kind, String.ofList text, literal kind text, line⟩

/-- The tokens of segments that start on `line`: a token has the line it starts on. -/
def tokensFrom (line : Int) : List Segment → List Token
  | [] => [.endOfInput line]
  | segment :: rest =>
    match segment with
    | .token kind text => token line kind text :: tokensFrom (line + segment.lineBreaks) rest
    | _ => tokensFrom (line + segment.lineBreaks) rest

/-- The errors of segments that start on `line`: an error has the line its stretch ends on. -/
def errorsFrom (line : Int) : List Segment → List LexicalError
  | [] => []
  | segment :: rest =>
    match segment with
    | .fault cause _ =>
      ⟨line + segment.lineBreaks, cause⟩ :: errorsFrom (line + segment.lineBreaks) rest
    | _ => errorsFrom (line + segment.lineBreaks) rest

end Scan

end Scriptlet
