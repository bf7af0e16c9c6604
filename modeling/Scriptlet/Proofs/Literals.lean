import Scriptlet.Proofs.Composition
import Scriptlet.Proofs.Numerals
import Scriptlet.Proofs.Respelling

/-! Literals and names as they are laid out. Each is one lexeme again, and stands for what it stood
for. -/
namespace Scriptlet

open Segment

def Token.Scanned (token : Token) : Prop :=
  ∃ line kind text, token = Scan.token line kind text ∧ Lexeme kind text

theorem token_same (line other : Int) (kind : TokenKind) (text : List Char) :
    (Scan.token line kind text).Same (Scan.token other kind text) :=
  ⟨rfl, rfl, rfl⟩

theorem signs_unique : ∀ entry ∈ signs, ∀ other ∈ signs, entry.1 = other.1 → entry = other := by
  decide

theorem lexeme_sign {kind : TokenKind} {text other : List Char} (lexeme : Lexeme kind text)
    (listed : (kind, other) ∈ signs) : text = other := by
  have noWord : ∀ entry ∈ signs, entry.1 ∉ [.string, .integer, .float, .identifier] ∧
      entry.1.isReserved = false := by decide
  have unlisted : kind ∉ [.string, .integer, .float, .identifier] := (noWord _ listed).1
  have unreserved : kind.isReserved = false := (noWord _ listed).2
  cases lexeme with
  | sign found => exact congrArg Prod.snd (signs_unique _ found _ listed rfl)
  | @word c letters starts continues =>
    rcases ofWord_isWord (String.ofList (c :: letters)) with isName | isReserved
    · rw [isName] at unlisted
      exact absurd (by decide) unlisted
    · exact absurd isReserved (Bool.eq_false_iff.mp unreserved)
  | quoted | rawQuoted | integer | float => exact absurd (by decide) unlisted

theorem ofWord_listed {word : String} (reserved : (TokenKind.ofWord word).isReserved = true) :
    (word, TokenKind.ofWord word) ∈ TokenKind.reserved := by
  unfold TokenKind.ofWord at *
  cases found : TokenKind.reserved.lookup word with
  | none =>
    rw [found] at reserved
    exact absurd reserved (by decide)
  | some kind =>
    obtain ⟨before, after, listed, -⟩ := List.lookup_eq_some_iff.mp found
    rw [listed]
    simp

theorem lexeme_word (word : String) {kind : TokenKind} {text : List Char} (lexeme : Lexeme kind text)
    (reserved : kind.isReserved = true)
    (only : ∀ entry ∈ TokenKind.reserved, entry.2 = kind → entry.1 = word) : text = word.toList := by
  have noWord : ∀ entry ∈ signs, entry.1.isReserved = false := by decide
  cases lexeme with
  | sign found => exact absurd reserved (Bool.eq_false_iff.mp (noWord _ found))
  | word => rw [← only _ (ofWord_listed reserved) rfl, String.toList_ofList]
  | quoted | rawQuoted | integer | float => exact absurd reserved (by decide)

theorem scanned_sign {token : Token} {kind : TokenKind} {text : List Char} (scanned : token.Scanned)
    (kindIs : token.kind = kind) (listed : (kind, text) ∈ signs) :
    ∃ line, token = Scan.token line kind text := by
  obtain ⟨line, found, shown, rfl, lexeme⟩ := scanned
  obtain rfl : found = kind := kindIs
  exact ⟨line, by rw [lexeme_sign lexeme listed]⟩

theorem scanned_word (word : String) {token : Token} {kind : TokenKind} (scanned : token.Scanned)
    (kindIs : token.kind = kind) (reserved : kind.isReserved = true)
    (only : ∀ entry ∈ TokenKind.reserved, entry.2 = kind → entry.1 = word) :
    ∃ line, token = Scan.token line kind word.toList ∧ Lexeme kind word.toList := by
  obtain ⟨line, found, shown, rfl, lexeme⟩ := scanned
  obtain rfl : found = kind := kindIs
  obtain rfl := lexeme_word word lexeme reserved only
  exact ⟨line, rfl, lexeme⟩

def Respelled (rank : Nat) (expr : Expr) (tokens : List Token) : Prop :=
  ∃ second, Derives rank tokens second ∧ expr.Respells second

/-- The text of the expression makes up a respelling of it, and no sign before it runs into it. -/
structure Expr.Laid (rank : Nat) (expr : Expr) : Prop where
  opens : ∃ c rest, expr.layout.toList = c :: rest ∧ c ≠ '='
  yields : Yields expr.layout.toList (Respelled rank expr)

theorem laid_of_lexeme {expr : Expr} {kind : TokenKind} {text : List Char} (lexeme : Lexeme kind text)
    (shown : expr.layout.toList = text) (noSign : kind ∉ signs.map Prod.fst)
    (reads : ∀ line, ∃ second, Leaf (Scan.token line kind text) second ∧ expr.Respells second) :
    expr.Laid Rank.primary := by
  refine ⟨?_, ?_⟩
  · rw [shown]
    cases lexeme with
    | sign listed => exact absurd (List.mem_map_of_mem listed) noSign
    | quoted => exact ⟨_, _, rfl, by decide⟩
    | rawQuoted => exact ⟨_, _, rfl, by decide⟩
    | integer digit =>
      refine ⟨_, _, rfl, ?_⟩
      rintro rfl
      exact absurd digit (by decide)
    | float digit =>
      refine ⟨_, _, rfl, ?_⟩
      rintro rfl
      exact absurd digit (by decide)
    | word starts =>
      refine ⟨_, _, rfl, ?_⟩
      rintro rfl
      exact absurd starts (by decide)
  · rw [shown]
    refine (Yields.lexeme lexeme).weaken ?_
    rintro _ ⟨line, rfl⟩
    obtain ⟨second, leaf, respells⟩ := reads line
    exact ⟨second, .leaf leaf, respells⟩

/-- What stands between delimiters of one kind or the other can stand between those of the layout. -/
theorem delimited_lexeme {inside : List Char}
    (fits : (∀ c ∈ inside, (c != '"' && c != '\n') = true) ∨ ∀ c ∈ inside, (c != rawQuote) = true) :
    ∃ text, (Expr.delimited (String.ofList inside)).toList = text ∧ Lexeme .string text ∧
      text.tail.dropLast = inside := by
  unfold Expr.delimited
  rw [String.toList_ofList]
  split
  · next mixed =>
    rcases fits with plain | raw
    · obtain ⟨c, member, either⟩ := List.any_eq_true.mp mixed
      have neither := plain c member
      simp only [Bool.or_eq_true, beq_iff_eq] at either
      rcases either with rfl | rfl
      · exact absurd neither (by decide)
      · exact absurd neither (by decide)
    · refine ⟨rawQuote :: (inside ++ [rawQuote]), by simp [rawQuote], .rawQuoted raw, by simp⟩
  · next plain =>
    refine ⟨'"' :: (inside ++ ['"']), by simp, .quoted ?_, by simp⟩
    intro c member
    simp only [List.any_eq_true, not_exists, not_and] at plain
    simpa using plain c member

theorem string_laid {line : Int} {text : List Char} (lexeme : Lexeme .string text) :
    (Expr.string (Scan.token line .string text) (Scan.literal .string text)).Laid Rank.primary := by
  have fits : (∀ c ∈ text.tail.dropLast, (c != '"' && c != '\n') = true) ∨
      ∀ c ∈ text.tail.dropLast, (c != rawQuote) = true := by
    generalize kindIs : TokenKind.string = kind at lexeme
    cases lexeme with
    | sign listed =>
      subst kindIs
      exact absurd (List.mem_map_of_mem listed) (by decide : TokenKind.string ∉ signs.map Prod.fst)
    | quoted plain => exact .inl (by simpa using plain)
    | rawQuoted plain => exact .inr (by simpa using plain)
    | integer | float => cases kindIs
    | @word c letters =>
      have isWord := ofWord_isWord (String.ofList (c :: letters))
      rw [← kindIs] at isWord
      exact absurd isWord (by decide)
  obtain ⟨shown, layout, lexemeToo, inside⟩ := delimited_lexeme fits
  refine laid_of_lexeme lexemeToo ?_ (by decide) fun other => ?_
  · rw [← layout]
    rfl
  · refine ⟨_, .string rfl, ?_⟩
    have same : (Scan.token other .string shown).literal = Scan.literal .string text := by
      simp only [Scan.token, Scan.literal, inside]
    rw [same]
    exact .quoted rfl rfl

open Decimal (Numeral)

def numberKinds : List TokenKind := [.integer, .float]

theorem numeral_lexeme {whole fraction : List Char} (numeral : Numeral whole fraction) :
    Lexeme (if fraction.isEmpty then .integer else .float) (Numeral.text whole fraction) := by
  obtain ⟨c, figures, rfl⟩ := List.exists_cons_of_ne_nil numeral.starts
  have digit : isDigit c = true := numeral.figures c (by simp)
  have others : ∀ d ∈ figures, isDigit d = true := fun d member => numeral.figures d (by simp [member])
  cases fraction with
  | nil => simpa [Numeral.text] using Lexeme.integer digit others
  | cons d places =>
    exact .float digit others (numeral.figures d (by simp)) fun e member =>
      numeral.figures e (by simp [member])

theorem lexeme_numeral {kind : TokenKind} {text : List Char} (lexeme : Lexeme kind text)
    (number : kind ∈ numberKinds) :
    ∃ whole fraction, Numeral whole fraction ∧ text = Numeral.text whole fraction ∧
      kind = if fraction.isEmpty then .integer else .float := by
  cases lexeme with
  | sign listed =>
    have none : ∀ kind ∈ signs.map Prod.fst, kind ∉ numberKinds := by decide
    exact absurd number (none _ (List.mem_map_of_mem listed))
  | quoted | rawQuoted => exact absurd number (by decide)
  | @integer c figures digit others =>
    refine ⟨c :: figures, [], ⟨by simp, ?_⟩, by simp [Numeral.text], rfl⟩
    intro d member
    rcases List.mem_cons.mp (by simpa using member) with rfl | inside
    · exact digit
    · exact others d inside
  | @float c d figures places digit others place further =>
    refine ⟨c :: figures, d :: places, ⟨by simp, ?_⟩, rfl, rfl⟩
    intro e member
    simp only [List.cons_append, List.mem_cons, List.mem_append] at member
    rcases member with rfl | inside | rfl | inside
    · exact digit
    · exact others e inside
    · exact place
    · exact further e inside
  | @word c letters =>
    have words : ∀ kind ∈ numberKinds, ¬ (kind = .identifier ∨ kind.isReserved = true) := by decide
    exact absurd (ofWord_isWord _) (words _ number)

theorem number_leaf {kind : TokenKind} (number : kind ∈ numberKinds) (line : Int) (text : List Char) :
    Leaf (Scan.token line kind text) (.ofText (Scan.token line kind text) (String.ofList text)) := by
  rcases List.mem_cons.mp number with rfl | other
  · exact .integer rfl
  · obtain rfl := List.mem_singleton.mp other
    exact .float rfl

theorem numeral_ne {whole fraction : List Char} (numeral : Numeral whole fraction) (word : String)
    (other : ∃ c ∈ word.toList, Decimal.isFigure c = false ∧ c ≠ '.') :
    String.ofList (Numeral.text whole fraction) ≠ word := by
  rintro rfl
  obtain ⟨c, member, noFigure, noPoint⟩ := other
  rw [String.toList_ofList] at member
  rcases numeral.mem_text c member with figure | point
  · rw [figure] at noFigure
    cases noFigure
  · exact noPoint point

/-- A number token stands for an integer, for a float, or for its own figures. -/
theorem ofText_cases {whole fraction : List Char} (numeral : Numeral whole fraction) :
    let text := String.ofList (Numeral.text whole fraction)
    (∃ value, Decimal.readInteger? text = some value ∧
      ∀ token, Expr.ofText token text = .integer token value) ∨
    (∃ value, Decimal.readFloat? text = some value ∧
      ∀ token, Expr.ofText token text = .float token value) ∨
    ∀ token, Expr.ofText token text = .string token text := by
  intro text
  cases whole : Decimal.readInteger? text with
  | some value => exact .inl ⟨value, rfl, fun token => by simp [Expr.ofText, whole]⟩
  | none =>
    cases float : Decimal.readFloat? text with
    | some value => exact .inr (.inl ⟨value, rfl, fun token => by simp [Expr.ofText, whole, float]⟩)
    | none =>
      have yes : text ≠ "true" := numeral_ne numeral "true" ⟨'t', by decide⟩
      have no : text ≠ "false" := numeral_ne numeral "false" ⟨'f', by decide⟩
      have nothing : text ≠ "nil" := numeral_ne numeral "nil" ⟨'n', by decide⟩
      refine .inr (.inr fun token => ?_)
      simp only [Expr.ofText, whole, float, if_neg yes, if_neg no, if_neg nothing]

theorem integer_spelled {whole fraction : List Char} (numeral : Numeral whole fraction) {value : Int64}
    (read : Decimal.readInteger? (String.ofList (Numeral.text whole fraction)) = some value) :
    fraction = [] ∧ ∃ shown, Lexeme .integer shown ∧ Spelling.integer value = String.ofList shown ∧
      ∀ token, Expr.ofText token (String.ofList shown) = .integer token value := by
  -- A number that stands for an integer has no point, or it would not have been read as one. Its
  -- spelling has none either, and stands for the same.
  have none : fraction = [] := by
    by_contra point
    rw [numeral.readInteger_point point] at read
    cases read
  subst none
  rw [Numeral.text_whole] at read
  obtain ⟨shown, numeralToo, spelled, back⟩ := Decimal.spelling_integer numeral read
  have lexeme := numeral_lexeme numeralToo
  rw [Numeral.text_whole] at lexeme
  refine ⟨rfl, shown, lexeme, spelled, fun token => ?_⟩
  rw [← spelled, Expr.ofText, back]

theorem float_spelled {whole fraction : List Char} (numeral : Numeral whole fraction) {value : Float}
    (read : Decimal.readFloat? (String.ofList (Numeral.text whole fraction)) = some value) :
    ∃ shown, Lexeme .float shown ∧ Spelling.float value = String.ofList shown ∧
      ∀ token, Expr.ofText token (String.ofList shown) = .float token value := by
  -- A number that stands for a float is spelled with a point, whether it had one or was too long for an
  -- integer.
  have magnitude := Decimal.decimalFloat_magnitude (numeral.readFloat ▸ read)
  obtain ⟨front, places, numeralToo, point, spelled, back⟩ := Decimal.spelling_float magnitude
  have pointed := numeral_lexeme numeralToo
  rw [if_neg (by simpa using point)] at pointed
  have noInteger := numeralToo.readInteger_point point
  refine ⟨Numeral.text front places, pointed, spelled, fun token => ?_⟩
  rw [← spelled] at noInteger ⊢
  rw [Expr.ofText, noInteger, back]

theorem integer_laid {token : Token} {whole fraction : List Char} (numeral : Numeral whole fraction)
    (kindIs : token.kind = if fraction.isEmpty then .integer else .float) {value : Int64}
    (read : Decimal.readInteger? (String.ofList (Numeral.text whole fraction)) = some value) :
    (Expr.integer token value).Laid Rank.primary := by
  obtain ⟨rfl, shown, lexeme, spelled, back⟩ := integer_spelled numeral read
  refine laid_of_lexeme lexeme ?_ (by decide) fun other => ?_
  · rw [Expr.layout, spelled, String.toList_ofList]
  · refine ⟨_, number_leaf (by decide) other _, ?_⟩
    rw [back]
    exact .integer kindIs.symm

theorem float_laid {token : Token} {whole fraction : List Char} (numeral : Numeral whole fraction)
    (number : token.kind ∈ numberKinds) {value : Float}
    (read : Decimal.readFloat? (String.ofList (Numeral.text whole fraction)) = some value) :
    (Expr.float token value).Laid Rank.primary := by
  obtain ⟨shown, lexeme, spelled, back⟩ := float_spelled numeral read
  refine laid_of_lexeme lexeme ?_ (by decide) fun other => ?_
  · rw [Expr.layout, spelled, String.toList_ofList]
  · refine ⟨_, number_leaf (by decide) other _, ?_⟩
    rw [back]
    refine .float ?_
    rcases List.mem_cons.mp number with isInteger | isFloat
    · exact .inr ⟨isInteger, rfl⟩
    · exact .inl (List.mem_singleton.mp isFloat).symm

theorem figures_laid {line : Int} {kind : TokenKind} {text : List Char} (lexeme : Lexeme kind text)
    (number : kind ∈ numberKinds)
    (same : ∀ other, Expr.ofText (Scan.token other kind text) (String.ofList text) =
      .string (Scan.token other kind text) (String.ofList text)) :
    (Expr.string (Scan.token line kind text) (String.ofList text)).Laid Rank.primary := by
  have noSign : ∀ kind ∈ numberKinds, kind ∉ signs.map Prod.fst := by decide
  refine laid_of_lexeme lexeme ?_ (noSign kind number) fun other => ?_
  · have isNumber : Spelling.isNumber (Scan.token line kind text) = true := by
      simpa [numberKinds, Spelling.isNumber, Scan.token] using number
    rw [Expr.layout, isNumber]
    exact String.toList_ofList
  · exact ⟨_, same other ▸ number_leaf number other text, .string (token_same line other kind text)⟩

theorem number_laid {line : Int} {kind : TokenKind} {text : List Char} (lexeme : Lexeme kind text)
    (number : kind ∈ numberKinds) :
    (Expr.ofText (Scan.token line kind text) (String.ofList text)).Laid Rank.primary := by
  obtain ⟨whole, fraction, numeral, rfl, kindIs⟩ := lexeme_numeral lexeme number
  rcases ofText_cases numeral with ⟨value, read, same⟩ | ⟨value, read, same⟩ | same
  · rw [same]
    exact integer_laid numeral kindIs read
  · rw [same]
    exact float_laid numeral number read
  · rw [same]
    exact figures_laid lexeme number fun _ => same _

theorem name_laid {line : Int} {text : List Char} (lexeme : Lexeme .identifier text) :
    (Expr.reference (Scan.token line .identifier text)).Laid Rank.primary :=
  laid_of_lexeme lexeme String.toList_ofList (by decide) fun _ =>
    ⟨_, .name rfl, .reference (token_same _ _ _ _)⟩

theorem leaf_laid {token : Token} {expr : Expr} (leaf : Leaf token expr) (scanned : token.Scanned) :
    expr.Laid Rank.primary := by
  obtain ⟨line, kind, text, rfl, lexeme⟩ := scanned
  cases leaf with
  | no isNo =>
    obtain rfl : kind = .falseWord := isNo
    obtain rfl := lexeme_word "false" lexeme (by decide) (by decide)
    exact laid_of_lexeme lexeme rfl (by decide) fun _ => ⟨_, .no rfl, .boolean (token_same _ _ _ _)⟩
  | yes isYes =>
    obtain rfl : kind = .trueWord := isYes
    obtain rfl := lexeme_word "true" lexeme (by decide) (by decide)
    exact laid_of_lexeme lexeme rfl (by decide) fun _ => ⟨_, .yes rfl, .boolean (token_same _ _ _ _)⟩
  | nil isNil =>
    obtain rfl : kind = .nilWord := isNil
    obtain rfl := lexeme_word "nil" lexeme (by decide) (by decide)
    exact laid_of_lexeme lexeme rfl (by decide) fun _ => ⟨_, .nil rfl, .nil (token_same _ _ _ _)⟩
  | integer isInteger =>
    obtain rfl : kind = .integer := isInteger
    exact number_laid lexeme (by decide)
  | float isFloat =>
    obtain rfl : kind = .float := isFloat
    exact number_laid lexeme (by decide)
  | string isString =>
    obtain rfl : kind = .string := isString
    exact string_laid lexeme
  | name isName =>
    obtain rfl : kind = .identifier := isName
    exact name_laid lexeme

end Scriptlet
