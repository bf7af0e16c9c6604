import Scriptlet.Proofs.Nesting
import Scriptlet.Proofs.ParseModes
import Scriptlet.Proofs.RoundTrip

/-! Expressions that were not read from a text, and so may lack the parentheses that their shape needs.
The layout writes these. What it writes is the text of the expression with a pair of parentheses as a
node of its own wherever one is written, and that expression is bound as the grammar asks. So the text is
read back as the expression, up to parentheses, unless the parentheses make it too deep. -/
namespace Scriptlet

open Binary64 (Magnitude)
open Decimal (Numeral)
open Segment (Lexeme)

def Token.Spelled (token : Token) : Prop :=
  ∃ text, token.lexeme = .text (String.ofList text) ∧ Lexeme token.kind text

def Token.rescanned (token : Token) : Token :=
  Scan.token 1 token.kind token.lexeme.shown.toList

/-- What a token says by itself, wherever it stands. -/
def Token.essence (token : Token) : Token :=
  ⟨token.kind, token.lexeme, "", 0⟩

theorem spelled_rescanned {token : Token} (spelled : token.Spelled) :
    token.rescanned.Scanned ∧ token.rescanned.lexeme = token.lexeme := by
  obtain ⟨text, shown, lexeme⟩ := spelled
  have same : token.lexeme.shown.toList = text := by
    rw [shown]
    exact String.toList_ofList
  rw [Token.rescanned, same]
  exact ⟨⟨1, token.kind, text, rfl, lexeme⟩, shown.symm⟩

theorem rescanned_essence {token : Token} (spelled : token.Spelled) :
    token.rescanned.essence = token.essence := by
  rw [Token.essence, (spelled_rescanned spelled).2]
  rfl

def ByteString.Delimited (value : ByteString) : Prop :=
  ∃ inside, value = .text (String.ofList inside) ∧
    ¬ (rawQuote ∈ inside ∧ ('"' ∈ inside ∨ '\n' ∈ inside))

namespace Expr

/-- The expression can be written down: its literals have a spelling, its operators are operators, and
its names are names. An assignment stands only where a whole expression does. -/
def Writable : Bool → Expr → Prop
  | _, integer _ value => 0 ≤ value.toInt
  | _, float _ value => Magnitude value
  | _, string written value => Spelling.isNumber written = false ∧ value.Delimited
  | _, boolean .. => True
  | _, nil _ => True
  | _, reference name => name.kind = .identifier ∧ name.Spelled
  | whole, assign name value =>
    whole = true ∧ name.kind = .identifier ∧ name.Spelled ∧ value.Writable true
  | _, unary operator operand =>
    (operator.kind = .bang ∨ operator.kind = .minus) ∧ operator.Spelled ∧ operand.Writable false
  | _, binary left operator right =>
    0 < operator.kind.tightness ∧ operator.Spelled ∧ left.Writable false ∧ right.Writable false
  | _, grouping _ inner => inner.Writable true
  | _, hole => False

/-- The expression without its parentheses and with nothing of its tokens but what they say. -/
def bare : Expr → Expr
  | integer _ value => integer .nowhere value
  | float _ value => float .nowhere value
  | string _ value => string .nowhere value
  | boolean _ value => boolean .nowhere value
  | nil _ => nil .nowhere
  | reference name => reference name.essence
  | assign name value => assign name.essence value.bare
  | unary operator operand => unary operator.essence operand.bare
  | binary left operator right => binary left.bare operator.essence right.bare
  | grouping _ inner => inner.bare
  | hole => hole

def grouped (needed : Bool) (expr : Expr) : Expr :=
  if needed then grouping (Scan.token 1 .leftParen ['(']) expr else expr

/-- The expression with the parentheses that the layout writes, and with the tokens it writes. -/
def regrouped : Expr → Expr
  | integer _ value => integer (Scan.token 1 .integer (Spelling.integer value).toList) value
  | float _ value => float (Scan.token 1 .float (Spelling.float value).toList) value
  | string _ value => string (Scan.token 1 .string (delimited value.shown).toList) value
  | boolean _ value =>
    boolean (Scan.token 1 (.ofWord (Spelling.boolean value)) (Spelling.boolean value).toList) value
  | nil _ => nil (Scan.token 1 .nilWord "nil".toList)
  | reference name => reference name.rescanned
  | assign name value => assign name.rescanned value.regrouped
  | unary operator operand => unary operator.rescanned (operand.regrouped.grouped operand.isBinary)
  | binary left operator right =>
    binary (left.regrouped.grouped (left.needsParensLeft operator.kind)) operator.rescanned
      (right.regrouped.grouped (right.needsParensRight operator.kind))
  | grouping _ inner => grouping (Scan.token 1 .leftParen ['(']) inner.regrouped
  | hole => hole

theorem grouped_bare (needed : Bool) (expr : Expr) : (expr.grouped needed).bare = expr.bare := by
  cases needed <;> rfl

theorem grouped_layout (needed : Bool) (expr : Expr) :
    (expr.grouped needed).layout = parenthesized needed expr.layout := by
  cases needed <;> rfl

theorem regrouped_needsParens (expr : Expr) (operator : TokenKind) :
    expr.regrouped.isBinary = expr.isBinary ∧
      expr.regrouped.needsParensLeft operator = expr.needsParensLeft operator ∧
      expr.regrouped.needsParensRight operator = expr.needsParensRight operator := by
  cases expr <;> exact ⟨rfl, rfl, rfl⟩

theorem grouped_needsParens (expr : Expr) (operator : TokenKind) :
    (expr.regrouped.grouped expr.isBinary).isBinary = false ∧
      (expr.regrouped.grouped (expr.needsParensLeft operator)).needsParensLeft operator = false ∧
      (expr.regrouped.grouped (expr.needsParensRight operator)).needsParensRight operator = false := by
  obtain ⟨binary, onLeft, onRight⟩ := regrouped_needsParens expr operator
  refine ⟨?_, ?_, ?_⟩
  · cases needed : expr.isBinary with
    | true => rfl
    | false => exact binary.trans needed
  · cases needed : expr.needsParensLeft operator with
    | true => rfl
    | false => exact onLeft.trans needed
  · cases needed : expr.needsParensRight operator with
    | true => rfl
    | false => exact onRight.trans needed

theorem regrouped_bare {whole : Bool} {expr : Expr} (writable : expr.Writable whole) :
    expr.regrouped.bare = expr.bare := by
  induction expr generalizing whole with
  | reference name => rw [regrouped, bare, bare, rescanned_essence writable.2]
  | assign name value ih =>
    obtain ⟨-, -, spelled, inner⟩ := writable
    rw [regrouped, bare, bare, rescanned_essence spelled, ih inner]
  | unary operator operand ih =>
    obtain ⟨-, spelled, inner⟩ := writable
    rw [regrouped, bare, bare, rescanned_essence spelled, grouped_bare, ih inner]
  | binary left operator right leftIH rightIH =>
    obtain ⟨-, spelled, onLeft, onRight⟩ := writable
    rw [regrouped, bare, bare, rescanned_essence spelled, grouped_bare, grouped_bare, leftIH onLeft,
      rightIH onRight]
  | grouping paren inner ih =>
    have inside : inner.Writable true := writable
    rw [regrouped, bare, bare, ih inside]
  | _ => rfl

/-- The parentheses that are nodes are those that the layout writes of itself. -/
theorem regrouped_layout {whole : Bool} {expr : Expr} (writable : expr.Writable whole) :
    expr.regrouped.layout = expr.layout := by
  induction expr generalizing whole with
  | string token value =>
    rw [regrouped, layout, layout, writable.1]
    rfl
  | reference name =>
    rw [regrouped, layout, layout, (spelled_rescanned writable.2).2]
  | assign name value ih =>
    obtain ⟨-, -, spelled, inner⟩ := writable
    rw [regrouped, layout, layout, (spelled_rescanned spelled).2, ih inner]
  | unary operator operand ih =>
    obtain ⟨-, spelled, inner⟩ := writable
    rw [regrouped, layout, layout, (spelled_rescanned spelled).2, grouped_layout, ih inner,
      (grouped_needsParens operand .bang).1]
    rfl
  | binary left operator right leftIH rightIH =>
    obtain ⟨-, spelled, onLeft, onRight⟩ := writable
    have kind : operator.rescanned.kind = operator.kind := rfl
    rw [regrouped, layout, layout, (spelled_rescanned spelled).2, kind, grouped_layout, grouped_layout,
      leftIH onLeft, rightIH onRight, (grouped_needsParens left operator.kind).2.1,
      (grouped_needsParens right operator.kind).2.2]
    rfl
  | grouping paren inner ih =>
    have inside : inner.Writable true := writable
    rw [regrouped, layout, layout, ih inside]
  | _ => rfl

/-! Operands as the grammar asks for them. -/

/-- An operand that the layout leaves as it is binds as tightly as its place asks. -/
theorem rank_of_unneeded {expr : Expr} (writable : expr.Writable false) (operator : TokenKind) :
    (expr.isBinary = false → Rank.unary ≤ expr.rank) ∧
      (expr.needsParensLeft operator = false → operator.tightness ≤ expr.rank) ∧
      (expr.needsParensRight operator = false → operator.tightness < expr.rank) := by
  have loose : operator.tightness ≤ 4 := Reader.tightness_le operator
  cases expr with
  | binary left inner right =>
    refine ⟨nofun, fun unneeded => ?_, fun unneeded => ?_⟩
    · simpa [needsParensLeft, rank] using unneeded
    · simpa [needsParensRight, rank] using unneeded
  | assign name value => exact absurd writable.1 Bool.false_ne_true
  | _ =>
    simp only [rank, Rank.unary, Rank.primary]
    omega

end Expr

theorem laid_looser {rank less : Nat} {expr : Expr} (looser : less ≤ rank) (laid : expr.Laid rank) :
    expr.Laid less := by
  refine ⟨laid.opens, laid.yields.weaken ?_⟩
  rintro tokens ⟨second, derived, respells⟩
  exact ⟨second, derives_looser looser derived, respells⟩

theorem grouped_laid {needed : Bool} {expr : Expr} {rank place : Nat} (laid : expr.Laid rank)
    (unneeded : needed = false → place ≤ rank) (inside : place ≤ Rank.primary) :
    (expr.grouped needed).Laid place := by
  cases needed with
  | true =>
    have paren : (Scan.token 1 .leftParen ['(']).Scanned := ⟨1, _, _, rfl, .sign (by decide)⟩
    exact laid_looser inside (grouping_laid paren rfl (laid_looser (Nat.zero_le rank) laid))
  | false => exact laid_looser (unneeded rfl) laid

/-! Literals by their values. -/

theorem natural_laid {value : Int64} (natural : 0 ≤ value.toInt) :
    (Expr.integer (Scan.token 1 .integer (Spelling.integer value).toList) value).Laid Rank.primary := by
  have numeral := Decimal.figures_numeral value.toInt.toNat
  have below : value.toInt < 2 ^ 63 := value.toInt_lt
  have back : (value.toInt.toNat : Int) = value.toInt := Int.toNat_of_nonneg natural
  refine integer_laid numeral rfl ?_
  rw [Numeral.text_whole, Decimal.readInteger_figures numeral, Decimal.valueOf_figures,
    if_pos (by omega), back, Int64.ofInt_toInt]

theorem magnitude_laid {value : Float} (magnitude : Magnitude value) :
    (Expr.float (Scan.token 1 .float (Spelling.float value).toList) value).Laid Rank.primary := by
  obtain ⟨whole, fraction, numeral, -, spelled, back⟩ := Decimal.spelling_float magnitude
  exact float_laid numeral (by decide : TokenKind.float ∈ numberKinds) (spelled ▸ back)

theorem delimited_laid {value : ByteString} (delimited : value.Delimited) :
    (Expr.string (Scan.token 1 .string (Expr.delimited value.shown).toList) value).Laid Rank.primary := by
  obtain ⟨inside, rfl, apart⟩ := delimited
  have fits : (∀ c ∈ inside, (c != '"' && c != '\n') = true) ∨ ∀ c ∈ inside, (c != rawQuote) = true := by
    by_cases raw : rawQuote ∈ inside
    · left
      intro c member
      simp only [Bool.and_eq_true, bne_iff_ne]
      constructor
      · rintro rfl
        exact apart ⟨raw, .inl member⟩
      · rintro rfl
        exact apart ⟨raw, .inr member⟩
    · right
      intro c member
      simp only [bne_iff_ne]
      rintro rfl
      exact raw member
  obtain ⟨text, shown, lexeme, content⟩ := delimited_lexeme fits
  have laid : (Expr.string (Scan.token 1 .string text) (Scan.literal .string text)).Laid Rank.primary :=
    string_laid lexeme
  rw [Scan.literal, content] at laid
  rw [ByteString.shown, shown]
  exact laid

theorem word_scanned {word : String} {c : Char} {letters : List Char} (shown : word.toList = c :: letters)
    (starts : startsWord c = true) (continues : letters.all continuesWord = true) :
    (Scan.token 1 (.ofWord word) word.toList).Scanned := by
  refine ⟨1, _, _, rfl, ?_⟩
  have same : word = String.ofList (c :: letters) := by rw [← shown, String.ofList_toList]
  rw [same, String.toList_ofList]
  exact .word starts (List.all_eq_true.mp continues)

theorem boolean_laid (value : Bool) :
    (Expr.boolean (Scan.token 1 (.ofWord (Spelling.boolean value)) (Spelling.boolean value).toList)
      value).Laid Rank.primary := by
  cases value with
  | true =>
    have letters : "true".toList = 't' :: "rue".toList := rfl
    exact leaf_laid (.yes (by decide)) (word_scanned letters (by decide) (by decide))
  | false =>
    have letters : "false".toList = 'f' :: "alse".toList := rfl
    exact leaf_laid (.no (by decide)) (word_scanned letters (by decide) (by decide))

theorem nil_laid : (Expr.nil (Scan.token 1 .nilWord "nil".toList)).Laid Rank.primary := by
  have letters : "nil".toList = 'n' :: "il".toList := rfl
  exact leaf_laid (.nil rfl) (word_scanned letters (by decide) (by decide))

theorem regrouped_laid {whole : Bool} {expr : Expr} (writable : expr.Writable whole) :
    expr.regrouped.Laid expr.rank := by
  induction expr generalizing whole with
  | integer written value => exact natural_laid writable
  | float written value => exact magnitude_laid writable
  | string written value => exact delimited_laid writable.2
  | boolean written value => exact boolean_laid value
  | nil written => exact nil_laid
  | reference name =>
    obtain ⟨named, spelled⟩ := writable
    exact leaf_laid (.name named) (spelled_rescanned spelled).1
  | assign name value ih =>
    obtain ⟨-, named, spelled, inner⟩ := writable
    exact assign_laid (spelled_rescanned spelled).1 named (laid_looser (Nat.zero_le _) (ih inner))
  | unary operator operand ih =>
    obtain ⟨sign, spelled, inner⟩ := writable
    refine unary_laid (spelled_rescanned spelled).1 sign (operand.grouped_needsParens .bang).1 ?_
    exact grouped_laid (ih inner) (Expr.rank_of_unneeded inner .bang).1 (by decide)
  | binary left operator right leftIH rightIH =>
    obtain ⟨joins, spelled, onLeft, onRight⟩ := writable
    have inside : operator.kind.tightness + 1 ≤ Rank.primary :=
      Nat.le_succ_of_le (Nat.succ_le_succ (Reader.tightness_le operator.kind))
    refine binary_laid (spelled_rescanned spelled).1 joins rfl
      (left.grouped_needsParens operator.kind).2.1 (right.grouped_needsParens operator.kind).2.2 ?_ ?_
    · exact grouped_laid (leftIH onLeft) (Expr.rank_of_unneeded onLeft operator.kind).2.1
        (Nat.le_of_succ_le inside)
    · exact grouped_laid (rightIH onRight) (Expr.rank_of_unneeded onRight operator.kind).2.2 inside
  | grouping paren inner ih =>
    have inside : inner.Writable true := writable
    have scanned : (Scan.token 1 .leftParen ['(']).Scanned := ⟨1, _, _, rfl, .sign (by decide)⟩
    exact grouping_laid scanned rfl (laid_looser (Nat.zero_le _) (ih inside))
  | hole => exact writable.elim

/-! An expression that is too deep is refused as that and as nothing else. -/

namespace Reader

def FailsWith (faults : List SyntaxFault) (α : Type) (reader : Reader α) : Prop :=
  ∀ cursor error after, reader cursor = .error error after → error.fault ∈ faults

theorem expression_fails (room : Nat) : FailsWith expressionFaults Expr (expression room) := by
  refine Composed.expression ⟨?_, ?_, ?_, ?_, ?_⟩ room
  · intro α value cursor error after fails
    cases fails
  · intro α β first next failsFirst failsNext cursor error after fails
    rw [bind_run] at fails
    cases outcome : first cursor with
    | ok value middle =>
      rw [outcome] at fails
      exact failsNext value middle error after fails
    | error early middle =>
      rw [outcome] at fails
      cases fails
      exact failsFirst cursor _ _ outcome
  · intro kinds _ cursor error after fails
    unfold accept? at fails
    split at fails <;> cases fails
  · intro α fault listed cursor error after fails
    cases fails
    exact listed
  · intro α token fault listed cursor error after fails
    cases fails
    exact listed

end Reader

theorem readStrict_too_deep {value : List Token} {semicolon final : Token} {expr : Expr}
    (derived : Derives Rank.assignment value expr) (ends : semicolon.kind = .semicolon)
    (inner : ∀ token ∈ value ++ [semicolon], token.isEnd = false) (isEnd : final.isEnd = true)
    (deep : maxNesting ≤ expr.levels) :
    ∃ error, readStrict (value ++ [semicolon] ++ [final]) = .error error ∧
      error.fault = .expressionTooDeep := by
  let first := (value ++ [semicolon]).headD final
  obtain ⟨error, after, fails, fault⟩ :=
    (Reader.expression_complete derived ends maxNesting first final []).2 (Nat.lt_succ_of_le deep)
  have named : error.fault = .expressionTooDeep := by
    have listed := Reader.expression_fails maxNesting _ _ _ fails
    rcases fault with named | named
    · exact named
    · rw [named] at listed
      exact absurd listed (by decide)
  have refused : Reader.statementsUntil (fun _ => false) (Reader.statement maxNesting)
      ⟨first, value ++ [semicolon], final⟩ = .error error after := by
    obtain ⟨token, others, rfl, opens⟩ := Reader.derives_head derived
    rw [List.cons_append] at fails ⊢
    rw [Reader.statementsUntil, if_neg (by simp [Cursor.atEnd]), Reader.statement_expression opens,
      Reader.expressionStatement, bind_of_error _ fails]
  refine ⟨error, ?_, named⟩
  unfold readStrict
  rw [ofTokens_whole inner isEnd, refused]

theorem ofSource_refused {source : String} {error : SyntaxError}
    (clean : ∀ cause text, Segment.fault cause text ∉ segments source.toList)
    (refused : readStrict (scan source).tokens = .error error) :
    ∃ others, Program.ofSource source = .error (error.diagnostic :: others) := by
  have none : (scan source).errors = [] := Scan.scan_clean.mpr clean
  have agrees := readAll_agrees (scan source).tokens
  rw [refused] at agrees
  obtain ⟨more, errors⟩ := agrees
  refine ⟨more.map (·.diagnostic), Program.ofSource_eq_error.mpr ⟨?_, List.cons_ne_nil _ _⟩⟩
  rw [Program.diagnostics]
  simp [none, errors]

theorem Expr.Respells.bare {expr second : Expr} (respells : expr.Respells second) :
    second.bare = expr.bare := by
  have essence {token other : Token} (same : token.Same other) : other.essence = token.essence := by
    rw [Token.essence, same.kind, same.lexeme]
    rfl
  induction respells with
  | reference same => rw [Expr.bare, Expr.bare, essence same]
  | assign same _ ih => rw [Expr.bare, Expr.bare, essence same, ih]
  | unary same _ ih => rw [Expr.bare, Expr.bare, essence same, ih]
  | binary same _ _ onLeft onRight => rw [Expr.bare, Expr.bare, essence same, onLeft, onRight]
  | grouping _ _ ih => rw [Expr.bare, Expr.bare, ih]
  | _ => rfl

/-- The text of a single expression: a sentence for a respelling of the expression regrouped. -/
theorem writable_sentence {expr : Expr} (writable : expr.Writable true) :
    (∀ cause text, Segment.fault cause text ∉ segments (sourceText [.expression expr]).toList) ∧
      ∃ second value semicolon, Derives Rank.assignment value second ∧ semicolon.kind = .semicolon ∧
        Scan.words (sourceText [.expression expr]) = value ++ [semicolon] ∧
        expr.regrouped.Respells second := by
  have nothing : Yields (Stmt.layoutLines 0 []).toList (Rewritten []) := by
    refine Yields.nil.weaken ?_
    rintro _ rfl
    exact ⟨[], .nil, .nil⟩
  have whole : expr.regrouped.Laid Rank.assignment := laid_looser (Nat.zero_le _) (regrouped_laid writable)
  have same : sourceText [.expression expr.regrouped] = sourceText [.expression expr] := by
    simp only [sourceText, Stmt.layoutLines, Stmt.layout, Expr.regrouped_layout writable]
  obtain ⟨clean, statements, sentence, respells⟩ := laid_sentence (expression_laid whole 0 nothing)
  rw [same] at clean sentence
  refine ⟨clean, ?_⟩
  generalize Scan.words (sourceText [.expression expr]) = tokens at sentence
  cases respells with
  | expression respells further =>
    cases further
    cases sentence with
    | expression derived ends others =>
      cases others
      exact ⟨_, _, _, derived, ends, rfl, respells⟩

/-- The text of an expression is read back as the expression, up to parentheses, where tokens stand and
how literals are spelled; or it is refused as nested too deep, exactly if the parentheses that the text
has make it so. This is so for expressions of any origin, whether or not they have the parentheses that
their shape needs: the layout writes all that are missing. -/
theorem text_of_expression_reads_back (expr : Expr) (writable : expr.Writable true) :
    (expr.regrouped.levels < maxNesting → ∃ second,
      Program.ofSource (sourceText [.expression expr]) = .ok [.expression second] ∧
      expr.regrouped.Respells second ∧ second.bare = expr.bare) ∧
    (maxNesting ≤ expr.regrouped.levels → ∃ first others,
      Program.ofSource (sourceText [.expression expr]) = .error (first :: others) ∧
      first.message = "Expression nesting too deep.") := by
  obtain ⟨clean, second, value, semicolon, derived, ends, words, respells⟩ := writable_sentence writable
  have inner := Scan.words_inner (sourceText [.expression expr])
  rw [words] at inner
  obtain ⟨last, isEnd, tokens⟩ : ∃ last, last.isEnd = true ∧
      (scan (sourceText [.expression expr])).tokens = value ++ [semicolon] ++ [last] :=
    ⟨_, rfl, words ▸ Scan.scan_tokens _⟩
  rw [← respells.levels]
  constructor
  · intro fits
    have sentence : Sentence (value ++ [semicolon]) [.expression second] := .expression derived ends .nil
    refine ⟨second, Program.ofSource_eq_ok.mpr ⟨clean, ?_⟩, respells, ?_⟩
    · rw [tokens]
      exact (readStrict_complete inner isEnd sentence).1 (Nat.max_le.mpr ⟨fits, Nat.zero_le _⟩)
    · exact respells.bare.trans (Expr.regrouped_bare writable)
  · intro deep
    obtain ⟨error, refused, fault⟩ := readStrict_too_deep derived ends inner isEnd deep
    rw [← tokens] at refused
    obtain ⟨others, reported⟩ := ofSource_refused clean refused
    exact ⟨error.diagnostic, others, reported, by rw [SyntaxError.diagnostic, fault]; rfl⟩

/-- A product with a sign over a sum on its left and a difference of a difference on its right. -/
theorem text_of_expression_reads_back_product :
    let name : Token := ⟨.identifier, "x", "", 3⟩
    let sign (kind : TokenKind) (text : String) : Token := ⟨kind, text, "", 0⟩
    let number (value : Int64) : Expr := .integer .nowhere value
    let difference (left right : Expr) : Expr := .binary left (sign .minus "-") right
    let expr := Expr.assign name (.binary
      (.unary (sign .minus "-") (.binary (.reference name) (sign .plus "+") (number 1)))
      (sign .star "*") (difference (number 2) (difference (number 3) (.nil .nowhere))))
    expr.Writable true ∧ sourceText [.expression expr] = "x = -(x + 1) * (2 - (3 - nil));\n" ∧
      ∃ second, Program.ofSource (sourceText [.expression expr]) = .ok [.expression second] ∧
        second.bare = expr.bare := by
  intro name sign number difference expr
  have word : name.Spelled := by
    refine ⟨['x'], rfl, ?_⟩
    have lexeme : Lexeme (.ofWord (String.ofList ['x'])) ['x'] := .word (by decide) nofun
    exact lexeme
  have spelled (kind : TokenKind) {text : List Char} (listed : (kind, text) ∈ Segment.signs) :
      (sign kind (String.ofList text)).Spelled := ⟨text, rfl, .sign listed⟩
  have minus : (sign .minus "-").Spelled := spelled .minus (by decide : (.minus, ['-']) ∈ Segment.signs)
  have plus : (sign .plus "+").Spelled := spelled .plus (by decide : (.plus, ['+']) ∈ Segment.signs)
  have star : (sign .star "*").Spelled := spelled .star (by decide : (.star, ['*']) ∈ Segment.signs)
  have natural {value : Int64} (least : 0 ≤ value.toInt) : (number value).Writable false := least
  have writable : expr.Writable true :=
    ⟨rfl, rfl, word, by decide, star,
      ⟨.inr rfl, minus, by decide, plus, ⟨rfl, word⟩, natural (by decide)⟩,
      by decide, minus, natural (by decide), by decide, minus, natural (by decide), trivial⟩
  obtain ⟨second, reads, -, same⟩ := (text_of_expression_reads_back expr writable).1 (by decide)
  exact ⟨writable, by decide +kernel, second, reads, same⟩

end Scriptlet
