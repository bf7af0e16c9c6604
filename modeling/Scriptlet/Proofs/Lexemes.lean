import Mathlib
import Scriptlet.Proofs.Segments

/-! The texts of tokens. A token is the longest lexeme at its place: what the scanner finds is a lexeme
that the text after it does not extend, and wherever there is one, the scanner finds it. -/
namespace Scriptlet

namespace Segment

def signs : List (TokenKind × List Char) :=
  [(.leftParen, ['(']), (.rightParen, [')']), (.leftBrace, ['\x7b']), (.rightBrace, ['\x7d']),
   (.comma, [',']), (.dot, ['.']), (.minus, ['-']), (.plus, ['+']), (.semicolon, [';']),
   (.star, ['*']), (.slash, ['/']), (.bang, ['!']), (.bangEqual, ['!', '=']), (.equal, ['=']),
   (.equalEqual, ['=', '=']), (.less, ['<']), (.lessEqual, ['<', '=']), (.greater, ['>']),
   (.greaterEqual, ['>', '='])]

inductive Lexeme : TokenKind → List Char → Prop
  | sign {kind : TokenKind} {text : List Char} (listed : (kind, text) ∈ signs) : Lexeme kind text
  | quoted {inside : List Char} (plain : ∀ c ∈ inside, (c != '"' && c != '\n') = true) :
      Lexeme .string ('"' :: (inside ++ ['"']))
  | rawQuoted {inside : List Char} (plain : ∀ c ∈ inside, (c != rawQuote) = true) :
      Lexeme .string (rawQuote :: (inside ++ [rawQuote]))
  | integer {c : Char} {figures : List Char} (first : isDigit c = true)
      (others : ∀ d ∈ figures, isDigit d = true) : Lexeme .integer (c :: figures)
  | float {c d : Char} {figures places : List Char} (first : isDigit c = true)
      (others : ∀ e ∈ figures, isDigit e = true) (place : isDigit d = true)
      (further : ∀ e ∈ places, isDigit e = true) : Lexeme .float (c :: figures ++ '.' :: d :: places)
  | word {c : Char} {letters : List Char} (starts : startsWord c = true)
      (continues : ∀ d ∈ letters, continuesWord d = true) :
      Lexeme (.ofWord (String.ofList (c :: letters))) (c :: letters)

theorem lexeme_cons {kind : TokenKind} {text : List Char} (lexeme : Lexeme kind text) :
    ∃ c rest, text = c :: rest := by
  cases lexeme with
  | @sign kind text listed =>
    have some : ∀ entry ∈ signs, entry.2 ≠ [] := by decide
    exact List.exists_cons_of_ne_nil (some _ listed)
  | quoted | rawQuoted | integer | float | word => exact ⟨_, _, rfl⟩

/-- The text does not start with a character of the class. -/
def Bars (kept : Char → Bool) (rest : List Char) : Prop :=
  ∀ c, rest.head? = some c → kept c = false

/-- A text that does not extend a lexeme of the kind. -/
def Detached (kind : TokenKind) (rest : List Char) : Prop :=
  match kind with
  | .bang | .equal | .less | .greater => Bars (· == '=') rest
  | .slash => Bars (· == '*') rest
  | .integer => Bars isDigit rest ∧ ∀ d after, rest = '.' :: d :: after → isDigit d = false
  | .float => Bars isDigit rest
  | kind => kind = .identifier ∨ kind.isReserved = true → Bars continuesWord rest

theorem takeWhile_span {kept : Char → Bool} {text rest : List Char}
    (all : ∀ c ∈ text, kept c = true) (bars : Bars kept rest) :
    (text ++ rest).takeWhile kept = text := by
  rw [List.takeWhile_append_of_pos all]
  cases rest with
  | nil => simp
  | cons c rest => rw [List.takeWhile_cons_of_neg (by simp [bars c rfl]), List.append_nil]

theorem dropWhile_span {kept : Char → Bool} {text rest : List Char}
    (all : ∀ c ∈ text, kept c = true) (bars : Bars kept rest) :
    (text ++ rest).dropWhile kept = rest := by
  rw [List.dropWhile_append_of_pos all]
  cases rest with
  | nil => rfl
  | cons c rest => exact List.dropWhile_cons_of_neg (by simp [bars c rfl])

theorem bars_dropWhile (kept : Char → Bool) (rest : List Char) :
    Bars kept (rest.dropWhile kept) := by
  intro c head
  have stopped := List.head?_dropWhile_not kept rest
  rw [head] at stopped
  exact stopped

theorem mem_takeWhile {kept : Char → Bool} {text : List Char} :
    ∀ c ∈ text.takeWhile kept, kept c = true :=
  List.all_eq_true.mp List.all_takeWhile

theorem isDigit_iff {c : Char} : isDigit c = true ↔ 48 ≤ c.toNat ∧ c.toNat ≤ 57 := by
  simp [isDigit, Char.le_def, UInt32.le_iff_toNat_le]

theorem not_startsWord_of_isDigit {c : Char} (digit : isDigit c = true) : startsWord c = false := by
  have high : c.val.toNat ≤ 57 := (isDigit_iff.mp digit).2
  have ascii : c.val < 0x80 := UInt32.lt_iff_toNat_lt.mpr (Nat.lt_of_le_of_lt high (by decide))
  have noUpper : ¬ c.val ≥ 65 := fun above =>
    absurd ((UInt32.le_iff_toNat_le.mp above).trans high) (by decide)
  have noLower : ¬ c.val ≥ 97 := fun above =>
    absurd ((UInt32.le_iff_toNat_le.mp above).trans high) (by decide)
  have noUnderscore : c ≠ '_' := by
    rintro rfl
    exact absurd digit (by decide)
  simp [startsWord, Text.isLetter, ascii, Char.isAlpha, Char.isUpper, Char.isLower, noUpper, noLower,
    noUnderscore]

theorem first_word {c : Char} (starts : startsWord c = true) (rest : List Char) :
    first c rest = word c rest := by
  have other : isDigit c = false := by
    refine Bool.eq_false_iff.mpr fun digit => ?_
    rw [not_startsWord_of_isDigit digit] at starts
    cases starts
  unfold first
  split
  all_goals first
    | exact absurd starts (by decide)
    | simp [other, starts]

theorem first_number {c : Char} (digit : isDigit c = true) (rest : List Char) :
    first c rest = number c rest := by
  unfold first
  split
  all_goals first
    | exact absurd digit (by decide)
    | simp [digit]

/-- The longest lexeme that a text starts with, and the text after it. -/
structure Longest (source : List Char) (kind : TokenKind) (text after : List Char) : Prop where
  lexeme : Lexeme kind text
  split : source = text ++ after
  detached : Detached kind after

theorem ofWord_isWord (word : String) :
    TokenKind.ofWord word = .identifier ∨ (TokenKind.ofWord word).isReserved = true := by
  unfold TokenKind.ofWord
  cases found : TokenKind.reserved.lookup word with
  | none => exact .inl rfl
  | some kind =>
    right
    obtain ⟨before, after, listed, -⟩ := List.lookup_eq_some_iff.mp found
    refine List.any_eq_true.mpr ⟨(word, kind), ?_, by simp⟩
    rw [listed]
    simp

theorem detached_word {kind : TokenKind} {rest : List Char}
    (isWord : kind = .identifier ∨ kind.isReserved = true) :
    Detached kind rest ↔ Bars continuesWord rest := by
  cases kind
  all_goals first
    | exact absurd isWord (by decide)
    | exact ⟨fun detached => detached (by decide), fun bars _ => bars⟩
    | simp [TokenKind.isReserved, TokenKind.reserved] at isWord

def closedKinds : List TokenKind :=
  [.leftParen, .rightParen, .leftBrace, .rightBrace, .comma, .dot, .minus, .plus, .semicolon, .star,
   .bangEqual, .equalEqual, .lessEqual, .greaterEqual, .string]

theorem detached_closed {kind : TokenKind} (closed : kind ∈ closedKinds) (rest : List Char) :
    Detached kind rest := by
  cases kind
  all_goals first
    | exact fun isWord => absurd isWord (by decide)
    | exact absurd closed (by decide)
    | simp [closedKinds] at closed

def openKinds : List TokenKind := [.bang, .equal, .less, .greater]

theorem detached_open {kind : TokenKind} {rest : List Char} (opens : kind ∈ openKinds) :
    Detached kind rest ↔ Bars (· == '=') rest := by
  cases kind
  all_goals first
    | exact Iff.rfl
    | exact absurd opens (by decide)
    | simp [openKinds] at opens

theorem sign_longest {c : Char} {short long kind : TokenKind} {rest text after : List Char}
    (listed : (short, [c]) ∈ signs) (longer : (long, [c, '=']) ∈ signs)
    (opens : short ∈ openKinds) (closed : long ∈ closedKinds)
    (found : sign c short long rest = (token kind text, after)) :
    Longest (c :: rest) kind text after := by
  unfold sign at found
  split at found
  · cases found
    exact ⟨.sign longer, rfl, detached_closed closed _⟩
  · next plain =>
    cases found
    refine ⟨.sign listed, rfl, (detached_open opens).mpr ?_⟩
    intro d head
    refine Bool.eq_false_iff.mpr fun equals => ?_
    cases rest with
    | nil => cases head
    | cons e others =>
      cases head
      exact plain others (by rw [eq_of_beq equals])

theorem quoted_longest {kind : TokenKind} {rest text after : List Char}
    (found : quoted rest = (token kind text, after)) : Longest ('"' :: rest) kind text after := by
  have parts := List.takeWhile_append_dropWhile (p := fun c => c != '"' && c != '\n') (l := rest)
  simp only [quoted] at found
  split at found
  · next tail closes =>
    cases found
    rw [closes] at parts
    exact ⟨.quoted mem_takeWhile, by simpa using parts.symm, detached_closed (by decide) _⟩
  · cases found

theorem rawQuoted_longest {kind : TokenKind} {rest text after : List Char}
    (found : rawQuoted rest = (token kind text, after)) :
    Longest (rawQuote :: rest) kind text after := by
  have parts := List.takeWhile_append_dropWhile (p := fun c => c != rawQuote) (l := rest)
  have bars := bars_dropWhile (fun c => c != rawQuote) rest
  simp only [rawQuoted] at found
  split at found
  · next c tail closes =>
    cases found
    rw [closes] at parts bars
    have same : c = rawQuote := by simpa using bars c rfl
    subst same
    exact ⟨.rawQuoted mem_takeWhile, by simpa using parts.symm, detached_closed (by decide) _⟩
  · cases found

theorem number_longest {c : Char} {kind : TokenKind} {rest text after : List Char}
    (digit : isDigit c = true) (found : number c rest = (token kind text, after)) :
    Longest (c :: rest) kind text after := by
  have parts := List.takeWhile_append_dropWhile (p := isDigit) (l := rest)
  have bars := bars_dropWhile isDigit rest
  simp only [number] at found
  split at found
  · next d tail point =>
    rw [point] at parts bars
    split at found
    · next place =>
      cases found
      refine ⟨.float digit mem_takeWhile place mem_takeWhile, ?_, bars_dropWhile isDigit tail⟩
      simp [parts]
    -- A point with no digit after it is left for the next token.
    · next noPlace =>
      cases found
      refine ⟨.integer digit mem_takeWhile, by simp [parts], bars, ?_⟩
      rintro _ _ same
      cases same
      exact Bool.eq_false_iff.mpr noPlace
  · next noPoint =>
    cases found
    refine ⟨.integer digit mem_takeWhile, by simp, bars, ?_⟩
    intro d tail point
    exact absurd point (noPoint d tail)

theorem word_longest {c : Char} {kind : TokenKind} {rest text after : List Char}
    (starts : startsWord c = true) (found : word c rest = (token kind text, after)) :
    Longest (c :: rest) kind text after := by
  cases found
  refine ⟨.word starts mem_takeWhile, by simp, ?_⟩
  exact (detached_word (ofWord_isWord _)).mpr (bars_dropWhile continuesWord rest)

theorem slash_longest {kind : TokenKind} {rest text after : List Char}
    (found : first '/' rest = (token kind text, after)) : Longest ('/' :: rest) kind text after := by
  simp only [first] at found
  split at found
  · next inside =>
    unfold blockComment at found
    split at found <;> cases found
  · next plain =>
    cases found
    refine ⟨.sign (by decide), rfl, ?_⟩
    intro d head
    refine Bool.eq_false_iff.mpr fun star => ?_
    cases rest with
    | nil => cases head
    | cons e others =>
      cases head
      exact plain others (by rw [eq_of_beq star])

/-- What the scanner finds is the longest lexeme. -/
theorem first_longest {c : Char} {kind : TokenKind} {rest text after : List Char}
    (found : first c rest = (token kind text, after)) : Longest (c :: rest) kind text after := by
  by_cases slash : c = '/'
  · subst slash
    exact slash_longest found
  have alone {kind : TokenKind} (listed : (kind, [c]) ∈ signs) (closed : kind ∈ closedKinds) :
      Longest (c :: rest) kind [c] rest := ⟨.sign listed, rfl, detached_closed closed rest⟩
  unfold first at found
  split at found
  -- One goal for each first character of the table; digits and letters come after it.
  all_goals first
    | exact absurd rfl slash
    | (cases found; exact alone (by decide) (by decide))
    | exact sign_longest (by decide) (by decide) (by decide) (by decide) found
    | exact quoted_longest found
    | exact rawQuoted_longest found
    | cases found
    | skip
  split at found
  · next digit => exact number_longest digit found
  · split at found
    · next starts => exact word_longest starts found
    · cases found

theorem sign_of_bars (c : Char) (short long : TokenKind) {after : List Char}
    (bars : Bars (· == '=') after) : sign c short long after = (token short [c], after) := by
  cases after with
  | nil => rfl
  | cons d rest =>
    unfold sign
    split
    · next same =>
      exact absurd (bars '=' (congrArg List.head? same)) (by decide)
    · rfl

theorem slash_of_bars {after : List Char} (bars : Bars (· == '*') after) :
    first '/' after = (token .slash ['/'], after) := by
  cases after with
  | nil => rfl
  | cons d rest =>
    simp only [first]
    split
    · next same =>
      exact absurd (bars '*' (congrArg List.head? same)) (by decide)
    · rfl

theorem first_sign {c : Char} {kind : TokenKind} {rest text after : List Char}
    (listed : (kind, text) ∈ signs) (split : c :: rest = text ++ after) (detached : Detached kind after) :
    first c rest = (token kind text, after) := by
  simp only [signs, List.mem_cons, Prod.mk.injEq, List.not_mem_nil, or_false] at listed
  rcases listed with ⟨rfl, rfl⟩ | ⟨rfl, rfl⟩ | ⟨rfl, rfl⟩ | ⟨rfl, rfl⟩ | ⟨rfl, rfl⟩ | ⟨rfl, rfl⟩ |
    ⟨rfl, rfl⟩ | ⟨rfl, rfl⟩ | ⟨rfl, rfl⟩ | ⟨rfl, rfl⟩ | ⟨rfl, rfl⟩ | ⟨rfl, rfl⟩ | ⟨rfl, rfl⟩ |
    ⟨rfl, rfl⟩ | ⟨rfl, rfl⟩ | ⟨rfl, rfl⟩ | ⟨rfl, rfl⟩ | ⟨rfl, rfl⟩ | ⟨rfl, rfl⟩
  all_goals
    cases split
    first
    | rfl
    | exact sign_of_bars _ _ _ detached
    | exact slash_of_bars detached

theorem quoted_eq {inside : List Char} (after : List Char)
    (plain : ∀ c ∈ inside, (c != '"' && c != '\n') = true) :
    quoted (inside ++ '"' :: after) = (token .string ('"' :: (inside ++ ['"'])), after) := by
  have bars : Bars (fun c => c != '"' && c != '\n') ('"' :: after) := by
    rintro c head
    cases head
    rfl
  simp only [quoted, takeWhile_span plain bars, dropWhile_span plain bars]

theorem rawQuoted_eq {inside : List Char} (after : List Char)
    (plain : ∀ c ∈ inside, (c != rawQuote) = true) :
    rawQuoted (inside ++ rawQuote :: after) =
      (token .string (rawQuote :: (inside ++ [rawQuote])), after) := by
  have bars : Bars (· != rawQuote) (rawQuote :: after) := by
    rintro c head
    cases head
    rfl
  simp only [rawQuoted, takeWhile_span plain bars, dropWhile_span plain bars]

theorem integer_eq {c : Char} {figures after : List Char} (others : ∀ d ∈ figures, isDigit d = true)
    (detached : Detached .integer after) :
    number c (figures ++ after) = (token .integer (c :: figures), after) := by
  obtain ⟨bars, noPlace⟩ := detached
  simp only [number, takeWhile_span others bars, dropWhile_span others bars]
  split
  · next d tail => simp [noPlace d tail rfl]
  · rfl

theorem float_eq {c d : Char} {figures places after : List Char}
    (others : ∀ e ∈ figures, isDigit e = true) (place : isDigit d = true)
    (further : ∀ e ∈ places, isDigit e = true) (detached : Detached .float after) :
    number c (figures ++ '.' :: d :: (places ++ after)) =
      (token .float (c :: figures ++ '.' :: d :: places), after) := by
  have bars : Bars isDigit ('.' :: d :: (places ++ after)) := by
    rintro e head
    cases head
    rfl
  have last : Bars isDigit after := detached
  simp only [number, takeWhile_span others bars, dropWhile_span others bars, place, if_true,
    takeWhile_span further last, dropWhile_span further last]

theorem first_of_longest {c : Char} {kind : TokenKind} {rest text after : List Char}
    (longest : Longest (c :: rest) kind text after) : first c rest = (token kind text, after) := by
  obtain ⟨lexeme, split, detached⟩ := longest
  cases lexeme with
  | sign listed => exact first_sign listed split detached
  | @quoted inside plain =>
    simp only [List.cons_append, List.append_assoc, List.nil_append, List.cons.injEq] at split
    obtain ⟨rfl, rfl⟩ := split
    exact quoted_eq after plain
  | @rawQuoted inside plain =>
    simp only [List.cons_append, List.append_assoc, List.nil_append, List.cons.injEq] at split
    obtain ⟨rfl, rfl⟩ := split
    exact rawQuoted_eq after plain
  | @integer d figures digit others =>
    simp only [List.cons_append, List.cons.injEq] at split
    obtain ⟨rfl, rfl⟩ := split
    rw [first_number digit]
    exact integer_eq others detached
  | @float e d figures places digit others place further =>
    simp only [List.cons_append, List.append_assoc, List.cons.injEq] at split
    obtain ⟨rfl, rfl⟩ := split
    rw [first_number digit]
    exact float_eq others place further detached
  | @word d letters starts continues =>
    simp only [List.cons_append, List.cons.injEq] at split
    obtain ⟨rfl, rfl⟩ := split
    have bars := (detached_word (ofWord_isWord _)).mp detached
    rw [first_word starts, word, takeWhile_span continues bars, dropWhile_span continues bars]

end Segment

end Scriptlet
