import Mathlib
import Scriptlet.Proofs.Quoting
import Scriptlet.Proofs.RoundTrip

/-! The tree dump of a program determines the program. A dump is words, quoted texts and nodes in
brackets; no two of them are shown alike, so the nodes can be told from the text. From the nodes the
program is made again, up to what a dump leaves out: where tokens stand, how literals were written, and
whether a declaration without a value said so. -/
namespace Scriptlet

def Token.unplaced (token : Token) : Token :=
  { token with line := 0 }

/-- The expression node for node, but not where its tokens stand or how its literals are written. The
figures of a number that no value holds are its value, so they are kept. -/
def Expr.abstract : Expr → Expr
  | integer _ value => integer .nowhere value
  | float _ value => float .nowhere value
  | string token value => string (if Spelling.isNumber token then token.unplaced else .nowhere) value
  | boolean token value => boolean token.unplaced value
  | nil _ => nil .nowhere
  | reference name => reference name.unplaced
  | assign name value => assign name.unplaced value.abstract
  | unary operator operand => unary operator.unplaced operand.abstract
  | binary left operator right => binary left.abstract operator.unplaced right.abstract
  | grouping paren inner => grouping paren.unplaced inner.abstract
  | hole => hole

namespace Stmt

mutual

def abstract : Stmt → Stmt
  | expression value => expression value.abstract
  | print keyword value => print keyword.unplaced value.abstract
  | letIn name initializer => letIn name.unplaced initializer.abstract
  | block brace body => block brace.unplaced (abstractAll body)
  | hole => hole

def abstractAll : List Stmt → List Stmt
  | [] => []
  | stmt :: rest => stmt.abstract :: abstractAll rest

end

end Stmt

/-! A dump shows no more. -/

theorem Expr.tree_abstract (expr : Expr) : expr.abstract.tree = expr.tree := by
  induction expr with
  | string token value =>
    rw [Expr.abstract, Expr.tree, Expr.tree]
    by_cases number : Spelling.isNumber token = true
    · rw [if_pos number, if_pos number, if_pos (show Spelling.isNumber token.unplaced = true from number)]
      rfl
    · rw [if_neg number, if_neg number, if_neg (by decide)]
  | assign name value ih =>
    rw [Expr.abstract, Expr.tree, ih]
    rfl
  | unary operator operand ih =>
    rw [Expr.abstract, Expr.tree, ih]
    rfl
  | binary left operator right onLeft onRight =>
    rw [Expr.abstract, Expr.tree, onLeft, onRight]
    rfl
  | grouping paren inner ih =>
    rw [Expr.abstract, Expr.tree, ih]
    rfl
  | _ => rfl

namespace Stmt

mutual

theorem tree_abstract : (stmt : Stmt) → stmt.abstract.tree = stmt.tree
  | expression value => by rw [abstract, tree, tree, value.tree_abstract]
  | print keyword value => by rw [abstract, tree, tree, value.tree_abstract]
  | letIn name initializer => by
    rw [abstract, tree, tree, initializer.tree_abstract]
    rfl
  | block brace body => by rw [abstract, tree, tree, innerTrees_abstractAll body]
  | hole => by rw [abstract]

theorem innerTrees_abstractAll : (body : List Stmt) → innerTrees (abstractAll body) = innerTrees body
  | [] => by rw [abstractAll]
  | stmt :: rest => by
    rw [abstractAll, innerTrees, innerTrees, tree_abstract stmt, innerTrees_abstractAll rest]

end

end Stmt

theorem treeText_abstractAll (statements : List Stmt) :
    treeText (Stmt.abstractAll statements) = treeText statements := by
  induction statements with
  | nil => rfl
  | cons stmt rest ih =>
    simp only [treeText] at ih
    simp only [treeText, Stmt.abstractAll, List.map_cons, String.join_cons, stmt.tree_abstract, ih]

/-! Dumps as nodes. -/

inductive Sketch
  | word (text : List Char)
  | quoted (value : ByteString)
  | node (head : List Char) (parts : List Sketch)

namespace Sketch

mutual

def shown : Sketch → List Char
  | word text => text
  | quoted value => value.quote.toList
  | node head parts => '(' :: (head ++ (shownAll parts ++ [')']))

def shownAll : List Sketch → List Char
  | [] => []
  | part :: rest => ' ' :: (part.shown ++ shownAll rest)

end

end Sketch

/-! What programs are dumped as. -/

def Expr.sketch : Expr → Sketch
  | integer _ value => .word (Spelling.integer value).toList
  | float _ value => .word (Spelling.float value).toList
  | string token value =>
    if Spelling.isNumber token then .word token.lexeme.shown.toList else .quoted value
  | boolean _ value => .word (Spelling.boolean value).toList
  | nil _ => .word "nil".toList
  | reference name => .word name.lexeme.shown.toList
  | assign name value => .node ['='] [.word name.lexeme.shown.toList, value.sketch]
  | unary operator operand => .node operator.lexeme.shown.toList [operand.sketch]
  | binary left operator right => .node operator.lexeme.shown.toList [left.sketch, right.sketch]
  | grouping _ inner => .node "group".toList [inner.sketch]
  | hole => .word ['?']

theorem Expr.tree_eq (expr : Expr) : expr.tree.toList = expr.sketch.shown := by
  induction expr with
  | string token value =>
    rw [tree, sketch]
    split
    · rfl
    · rfl
  | assign name value ih => simp [tree, sketch, Sketch.shown, Sketch.shownAll, ih]
  | unary operator operand ih => simp [tree, sketch, Sketch.shown, Sketch.shownAll, ih]
  | binary left operator right onLeft onRight =>
    simp [tree, sketch, Sketch.shown, Sketch.shownAll, onLeft, onRight]
  | grouping paren inner ih => simp [tree, sketch, Sketch.shown, Sketch.shownAll, ih]
  | _ => rfl

namespace Stmt

mutual

def sketch : Stmt → Sketch
  | expression value => .node "expr".toList [value.sketch]
  | print _ value => .node "print".toList [value.sketch]
  | letIn name initializer =>
    .node "let".toList [.word name.lexeme.shown.toList, initializer.sketch]
  | block _ body => .node "block".toList (sketches body)
  | hole => .node ['?'] []

def sketches : List Stmt → List Sketch
  | [] => []
  | stmt :: rest => stmt.sketch :: sketches rest

end

mutual

theorem tree_eq : (stmt : Stmt) → stmt.tree.toList = stmt.sketch.shown
  | expression value => by simp [tree, sketch, Sketch.shown, Sketch.shownAll, value.tree_eq]
  | print _ value => by simp [tree, sketch, Sketch.shown, Sketch.shownAll, value.tree_eq]
  | letIn name initializer => by
    simp [tree, sketch, Sketch.shown, Sketch.shownAll, initializer.tree_eq]
  | block _ body => by simp [tree, sketch, Sketch.shown, innerTrees_shown body]
  | hole => by simp [tree, sketch, Sketch.shown, Sketch.shownAll]

theorem innerTrees_shown : (body : List Stmt) →
    (innerTrees body).toList = Sketch.shownAll (sketches body)
  | [] => by simp [innerTrees, sketches, Sketch.shownAll]
  | stmt :: rest => by
    simp [innerTrees, sketches, Sketch.shownAll, tree_eq stmt, innerTrees_shown rest]

end

end Stmt

theorem treeText_eq (statements : List Stmt) :
    (treeText statements).toList = (Stmt.sketches statements).flatMap (·.shown ++ ['\n']) := by
  induction statements with
  | nil => rfl
  | cons stmt rest ih =>
    simp only [treeText] at ih
    simp [treeText, Stmt.sketches, String.join_cons, stmt.tree_eq, ih]

/-! Telling dumps apart. -/

open Segment

namespace Sketch

def marks : List Char := '(' :: '"' :: separators

structure IsWord (text : List Char) : Prop where
  some : text ≠ []
  unmarked : text.any marks.contains = false

theorem isWord_of_class (kept : Char → Bool) {text : List Char} (some : text ≠ [])
    (all : ∀ c ∈ text, kept c = true) (none : marks.any kept = false) : IsWord text := by
  refine ⟨some, List.any_eq_false.mpr fun c member marked => ?_⟩
  exact List.any_eq_false.mp none c (List.contains_iff_mem.mp marked) (all c member)

inductive Plain : Sketch → Prop
  | word {text : List Char} (isWord : IsWord text) : Plain (.word text)
  | quoted {text : String} : Plain (.quoted (.text text))
  | node {head : List Char} {parts : List Sketch} (isWord : IsWord head)
      (within : ∀ part ∈ parts, part.Plain) : Plain (.node head parts)

theorem word_cancel {text other rest others : List Char} (isWord : IsWord text) (isWordToo : IsWord other)
    (parted : Parted rest) (partedToo : Parted others) (same : text ++ rest = other ++ others) :
    text = other ∧ rest = others := by
  have taken {text rest : List Char} (isWord : IsWord text) (parted : Parted rest) :
      (text ++ rest).takeWhile (fun c => !separators.contains c) = text := by
    refine takeWhile_span ?_ (bars_parted (by decide) parted)
    intro c member
    have unmarked := List.any_eq_false.mp isWord.unmarked c member
    simp only [marks, List.contains_cons, Bool.or_eq_true, not_or] at unmarked
    simpa using unmarked.2.2
  obtain rfl : text = other := by
    rw [← taken isWord parted, same, taken isWordToo partedToo]
  exact ⟨rfl, List.append_cancel_left same⟩

theorem word_opens {text : List Char} (isWord : IsWord text) {mark : Char}
    (marked : marks.contains mark = true) (rest others : List Char) : text ++ rest ≠ mark :: others := by
  intro same
  obtain ⟨c, tail, rfl⟩ := List.exists_cons_of_ne_nil isWord.some
  obtain rfl : c = mark := (List.cons.inj same).1
  exact List.any_eq_false.mp isWord.unmarked c List.mem_cons_self marked

theorem quoted_opens (text : String) (rest : List Char) :
    ∃ after, (quoted (.text text)).shown ++ rest = '"' :: after :=
  ⟨_, congrArg (· ++ rest) (Text.quote_eq text)⟩

theorem parted_shownAll (parts : List Sketch) (rest : List Char) :
    Parted (shownAll parts ++ ')' :: rest) := by
  cases parts with
  | nil => exact parted_cons (by decide) rest
  | cons part parts => exact parted_cons (by decide) _

/-- The dump can be told from any other by its text and what stands after it. -/
def Told (first : Sketch) : Prop :=
  ∀ {second : Sketch} {rest others : List Char}, second.Plain → Parted rest → Parted others →
    first.shown ++ rest = second.shown ++ others → first = second ∧ rest = others

theorem parts_cancel {parts others : List Sketch} (told : ∀ part ∈ parts, part.Told)
    (plain : ∀ part ∈ others, part.Plain) {rest after : List Char}
    (same : shownAll parts ++ ')' :: rest = shownAll others ++ ')' :: after) :
    parts = others ∧ rest = after := by
  induction parts generalizing others with
  | nil =>
    cases others with
    | nil => simpa [shownAll] using same
    | cons => simp [shownAll] at same
  | cons part parts ih =>
    cases others with
    | nil => simp [shownAll] at same
    | cons other others =>
      simp only [shownAll, List.cons_append, List.append_assoc, List.cons.injEq, true_and] at same
      obtain ⟨rfl, further⟩ := told part List.mem_cons_self (plain other List.mem_cons_self)
        (parted_shownAll parts rest) (parted_shownAll others after) same
      obtain ⟨rfl, sameAfter⟩ := ih (fun part member => told part (List.mem_cons_of_mem _ member))
        (fun part member => plain part (List.mem_cons_of_mem _ member)) further
      exact ⟨rfl, sameAfter⟩

theorem Plain.told {first : Sketch} (plain : first.Plain) : first.Told := by
  -- A word, a quoted text and a node start otherwise, and each ends where it can be told.
  -- By induction on the first dump only: the second may be any, so its kind is found from its text.
  induction plain with
  | word isWord =>
    intro second rest others plainToo parted partedToo same
    cases plainToo with
    | word isWordToo =>
      obtain ⟨rfl, after⟩ := word_cancel isWord isWordToo parted partedToo same
      exact ⟨rfl, after⟩
    | @quoted text =>
      obtain ⟨after, opens⟩ := quoted_opens text others
      rw [opens] at same
      exact absurd same (word_opens isWord (by decide) rest after)
    | node => exact absurd same (word_opens isWord (by decide) rest _)
  | @quoted text =>
    intro second rest others plainToo _ _ same
    obtain ⟨after, opens⟩ := quoted_opens text rest
    cases plainToo with
    | word isWordToo =>
      rw [opens] at same
      exact absurd same.symm (word_opens isWordToo (by decide) others after)
    | quoted =>
      obtain ⟨rfl, sameAfter⟩ := Text.quote_cancel same
      exact ⟨rfl, sameAfter⟩
    | node =>
      rw [opens] at same
      exact absurd (List.cons.inj same).1 (by decide)
  | node isWord _ told =>
    intro second rest others plainToo _ _ same
    cases plainToo with
    | word isWordToo => exact absurd same.symm (word_opens isWordToo (by decide) others _)
    | @quoted text =>
      obtain ⟨after, opens⟩ := quoted_opens text others
      rw [opens] at same
      exact absurd (List.cons.inj same).1 (by decide)
    | node isWordToo within =>
      simp only [shown, List.cons_append, List.append_assoc, List.nil_append, List.cons.injEq,
        true_and] at same
      obtain ⟨rfl, inside⟩ := word_cancel isWord isWordToo (parted_shownAll _ rest)
        (parted_shownAll _ others) same
      obtain ⟨rfl, after⟩ := parts_cancel told within inside
      exact ⟨rfl, after⟩

theorem lines_told {sketches others : List Sketch} (plain : ∀ sketch ∈ sketches, sketch.Plain)
    (plainToo : ∀ sketch ∈ others, sketch.Plain)
    (same : sketches.flatMap (·.shown ++ ['\n']) = others.flatMap (·.shown ++ ['\n'])) :
    sketches = others := by
  induction sketches generalizing others with
  | nil =>
    cases others with
    | nil => rfl
    | cons => simp at same
  | cons sketch sketches ih =>
    cases others with
    | nil => simp at same
    | cons other others =>
      simp only [List.flatMap_cons, List.append_assoc, List.cons_append, List.nil_append] at same
      obtain ⟨rfl, further⟩ := (plain sketch List.mem_cons_self).told (plainToo other List.mem_cons_self)
        (parted_cons (by decide) _) (parted_cons (by decide) _) same
      rw [ih (fun part member => plain part (List.mem_cons_of_mem _ member))
        (fun part member => plainToo part (List.mem_cons_of_mem _ member)) (List.cons.inj further).2]

end Sketch

/-! Reading a dump. -/

def Segment.alone : Segment → Token
  | token kind text => Scan.token 0 kind text
  | _ => .nowhere

namespace Sketch

def wordToken : List Char → Token
  | [] => .nowhere
  | c :: rest => (first c rest).1.alone

def leaf (token : Token) : Expr :=
  match token.kind with
  | .falseWord => .boolean token false
  | .trueWord => .boolean token true
  | .nilWord => .nil .nowhere
  | .identifier => .reference token
  | _ => (Expr.ofLiteral token token.literal).abstract

def name : Sketch → Token
  | word text => wordToken text
  | _ => .nowhere

/-- The expression that a dump shows. -/
def expr : Sketch → Expr
  | word text => leaf (wordToken text)
  | quoted value => .string .nowhere value
  | node head [inner] =>
    if head = "group".toList then .grouping (wordToken ['(']) inner.expr
    else .unary (wordToken head) inner.expr
  | node head [left, right] =>
    if head = ['='] then .assign left.name right.expr
    else .binary left.expr (wordToken head) right.expr
  | node _ _ => .hole

def simple (head : List Char) : List Sketch → Stmt
  | [value] =>
    if head = "print".toList then .print (wordToken head) value.expr else .expression value.expr
  | [target, value] => .letIn target.name value.expr
  | _ => .hole

mutual

def stmt : Sketch → Stmt
  | node head parts =>
    if head = "block".toList then .block (wordToken ['\x7b']) (stmts parts) else simple head parts
  | _ => .hole

def stmts : List Sketch → List Stmt
  | [] => []
  | part :: rest => part.stmt :: stmts rest

end

theorem wordToken_lexeme {kind : TokenKind} {text : List Char} (lexeme : Lexeme kind text) :
    wordToken text = Scan.token 0 kind text := by
  obtain ⟨c, rest, rfl⟩ := lexeme_cons lexeme
  have longest : Longest (c :: rest) kind (c :: rest) [] :=
    ⟨lexeme, (List.append_nil _).symm, detached_parted kind parted_nil⟩
  rw [wordToken, first_of_longest longest]
  rfl

theorem leaf_number {kind : TokenKind} (number : kind ∈ numberKinds) (text : List Char) :
    leaf (Scan.token 0 kind text) =
      (Expr.ofText (Scan.token 0 kind text) (String.ofList text)).abstract := by
  rcases List.mem_cons.mp number with rfl | other
  · rfl
  · obtain rfl := List.mem_singleton.mp other
    rfl

theorem number_isWord {kind : TokenKind} {text : List Char} (lexeme : Lexeme kind text)
    (number : kind ∈ numberKinds) : IsWord text := by
  obtain ⟨whole, fraction, numeral, rfl, -⟩ := lexeme_numeral lexeme number
  obtain ⟨c, rest, starts⟩ := lexeme_cons lexeme
  refine isWord_of_class (fun d => Decimal.isFigure d || d == '.') (starts ▸ List.cons_ne_nil c rest) ?_
    (by decide)
  intro d member
  simpa using numeral.mem_text d member

theorem name_isWord {text : List Char} (lexeme : Lexeme .identifier text) : IsWord text := by
  generalize kindIs : TokenKind.identifier = kind at lexeme
  cases lexeme with
  | sign listed =>
    subst kindIs
    exact absurd (List.mem_map_of_mem listed) (by decide : TokenKind.identifier ∉ signs.map Prod.fst)
  | quoted | rawQuoted | integer | float => cases kindIs
  | @word c letters starts continues =>
    refine isWord_of_class continuesWord (List.cons_ne_nil c letters) ?_ (by decide +kernel)
    intro d member
    rcases List.mem_cons.mp member with rfl | inside
    · simp [continuesWord, starts]
    · exact continues d inside

/-- An operator is a word, and not the head of a node of another kind. -/
theorem operator_isWord {kind : TokenKind} {text : List Char} (lexeme : Lexeme kind text)
    (operates : 0 < kind.tightness ∨ kind = .bang) :
    IsWord text ∧ text ≠ ['='] ∧ text ≠ "group".toList := by
  have operators : ∀ entry ∈ signs, 0 < entry.1.tightness ∨ entry.1 = .bang →
      (entry.2 ≠ [] ∧ entry.2.any marks.contains = false) ∧ entry.2 ≠ ['='] ∧
        entry.2 ≠ "group".toList := by decide
  have loose {kind : TokenKind} (isWord : kind = .identifier ∨ kind.isReserved = true) :
      kind.tightness = 0 := by
    cases kind
    all_goals first
      | rfl
      | exact absurd isWord (by decide)
  cases lexeme with
  | sign listed =>
    obtain ⟨⟨some, unmarked⟩, others⟩ := operators _ listed operates
    exact ⟨⟨some, unmarked⟩, others⟩
  | quoted | rawQuoted | integer | float => exact absurd operates (by decide)
  | @word c letters =>
    have isWord := ofWord_isWord (String.ofList (c :: letters))
    rcases operates with joins | isBang
    · exact absurd (loose isWord) joins.ne'
    · rw [isBang] at isWord
      exact absurd isWord (by decide)

end Sketch

theorem token_shown (line : Int) (kind : TokenKind) (text : List Char) :
    (Scan.token line kind text).lexeme.shown.toList = text :=
  String.toList_ofList

structure Expr.Dumped (expr : Expr) : Prop where
  plain : expr.sketch.Plain
  read : expr.sketch.expr = expr.abstract

theorem dumped_of_lexeme {expr : Expr} {kind : TokenKind} {text : List Char} (lexeme : Lexeme kind text)
    (sketched : expr.sketch = .word text) (isWord : Sketch.IsWord text)
    (reads : Sketch.leaf (Scan.token 0 kind text) = expr.abstract) : expr.Dumped := by
  constructor
  · rw [sketched]
    exact .word isWord
  · rw [sketched, Sketch.expr, Sketch.wordToken_lexeme lexeme, reads]

/-- A number is dumped as the spelling of its value, which stands for the value. -/
theorem number_dumped {line : Int} {kind : TokenKind} {text : List Char} (lexeme : Lexeme kind text)
    (number : kind ∈ numberKinds) :
    (Expr.ofText (Scan.token line kind text) (String.ofList text)).Dumped := by
  obtain ⟨whole, fraction, numeral, rfl, -⟩ := lexeme_numeral lexeme number
  rcases ofText_cases numeral with ⟨value, read, same⟩ | ⟨value, read, same⟩ | same
  · obtain ⟨-, shown, spelling, spelled, back⟩ := integer_spelled numeral read
    rw [same]
    refine dumped_of_lexeme spelling ?_ (Sketch.number_isWord spelling (by decide)) ?_
    · rw [Expr.sketch, spelled, String.toList_ofList]
    · rw [Sketch.leaf_number (by decide), back]
      rfl
  · obtain ⟨shown, spelling, spelled, back⟩ := float_spelled numeral read
    rw [same]
    refine dumped_of_lexeme spelling ?_ (Sketch.number_isWord spelling (by decide)) ?_
    · rw [Expr.sketch, spelled, String.toList_ofList]
    · rw [Sketch.leaf_number (by decide), back]
      rfl
  -- A number that no value holds is dumped as it is written.
  · have isNumber (place : Int) {shown : List Char} :
        Spelling.isNumber (Scan.token place kind shown) = true := by
      simpa [numberKinds, Spelling.isNumber, Scan.token] using number
    refine dumped_of_lexeme lexeme ?_ (Sketch.number_isWord lexeme number) ?_
    · rw [same, Expr.sketch, if_pos (isNumber line), token_shown]
    · rw [Sketch.leaf_number number, same, same, Expr.abstract, Expr.abstract, if_pos (isNumber 0),
        if_pos (isNumber line)]
      rfl

theorem nil_dumped (token : Token) : (Expr.nil token).Dumped := by
  have lexeme : Lexeme .nilWord "nil".toList :=
    @Lexeme.word 'n' ['i', 'l'] (by decide) (List.all_eq_true.mp (by decide))
  exact dumped_of_lexeme lexeme rfl ⟨by decide, by decide⟩ rfl

theorem leaf_dumped {token : Token} {expr : Expr} (leaf : Leaf token expr) (scanned : token.Scanned) :
    expr.Dumped := by
  obtain ⟨line, kind, text, rfl, lexeme⟩ := scanned
  cases leaf with
  | no isNo =>
    obtain rfl : kind = .falseWord := isNo
    obtain rfl := lexeme_word "false" lexeme (by decide) (by decide)
    exact dumped_of_lexeme lexeme rfl ⟨by decide, by decide⟩ rfl
  | yes isYes =>
    obtain rfl : kind = .trueWord := isYes
    obtain rfl := lexeme_word "true" lexeme (by decide) (by decide)
    exact dumped_of_lexeme lexeme rfl ⟨by decide, by decide⟩ rfl
  | nil => exact nil_dumped _
  | integer isInteger =>
    obtain rfl : kind = .integer := isInteger
    exact number_dumped lexeme (by decide)
  | float isFloat =>
    obtain rfl : kind = .float := isFloat
    exact number_dumped lexeme (by decide)
  | string isString =>
    obtain rfl : kind = .string := isString
    exact ⟨.quoted, rfl⟩
  | name isName =>
    obtain rfl : kind = .identifier := isName
    refine dumped_of_lexeme lexeme ?_ (Sketch.name_isWord lexeme) rfl
    rw [Expr.sketch, token_shown]

theorem grouping_dumped {paren : Token} {inner : Expr} (scanned : paren.Scanned)
    (opens : paren.kind = .leftParen) (dumped : inner.Dumped) : (Expr.grouping paren inner).Dumped := by
  have listed : (TokenKind.leftParen, ['(']) ∈ signs := by decide
  obtain ⟨line, rfl⟩ := scanned_sign scanned opens listed
  constructor
  · exact .node ⟨by decide, by decide⟩ (by simpa using dumped.plain)
  · rw [Expr.sketch, Sketch.expr, if_pos rfl, dumped.read, Sketch.wordToken_lexeme (.sign listed)]
    rfl

theorem unary_dumped {operator : Token} {operand : Expr} (scanned : operator.Scanned)
    (sign : operator.kind = .bang ∨ operator.kind = .minus) (dumped : operand.Dumped) :
    (Expr.unary operator operand).Dumped := by
  obtain ⟨line, kind, text, rfl, lexeme⟩ := scanned
  have operates : 0 < kind.tightness ∨ kind = .bang := by
    rcases sign with isBang | isMinus
    · exact .inr isBang
    · obtain rfl : kind = .minus := isMinus
      exact .inl (by decide)
  obtain ⟨isWord, -, noGroup⟩ := Sketch.operator_isWord lexeme operates
  constructor
  · rw [Expr.sketch, token_shown]
    exact .node isWord (by simpa using dumped.plain)
  · rw [Expr.sketch, token_shown, Sketch.expr, if_neg noGroup, dumped.read, Sketch.wordToken_lexeme lexeme]
    rfl

theorem binary_dumped {operator : Token} {left right : Expr} (scanned : operator.Scanned)
    (joins : 0 < operator.kind.tightness) (onLeft : left.Dumped) (onRight : right.Dumped) :
    (Expr.binary left operator right).Dumped := by
  -- A node of two parts is an operator's unless its head is an assignment's.
  obtain ⟨line, kind, text, rfl, lexeme⟩ := scanned
  obtain ⟨isWord, noAssignment, -⟩ := Sketch.operator_isWord lexeme (.inl joins)
  constructor
  · rw [Expr.sketch, token_shown]
    exact .node isWord (by simpa using ⟨onLeft.plain, onRight.plain⟩)
  · rw [Expr.sketch, token_shown, Sketch.expr, if_neg noAssignment, onLeft.read, onRight.read,
      Sketch.wordToken_lexeme lexeme]
    rfl

theorem assign_dumped {name : Token} {value : Expr} (scanned : name.Scanned)
    (target : name.kind = .identifier) (dumped : value.Dumped) : (Expr.assign name value).Dumped := by
  obtain ⟨line, kind, text, rfl, lexeme⟩ := scanned
  obtain rfl : kind = .identifier := target
  constructor
  · rw [Expr.sketch, token_shown]
    have isName := Sketch.Plain.word (Sketch.name_isWord lexeme)
    exact .node ⟨by decide, by decide⟩ (by simpa using ⟨isName, dumped.plain⟩)
  · rw [Expr.sketch, token_shown, Sketch.expr, if_pos rfl, dumped.read, Sketch.name,
      Sketch.wordToken_lexeme lexeme]
    rfl

/-- An expression that was read can be told from its dump. -/
theorem derives_dumped {rank : Nat} {tokens : List Token} {expr : Expr} (derived : Derives rank tokens expr)
    (scanned : ∀ token ∈ tokens, token.Scanned) : expr.Dumped := by
  -- The tokens were scanned, so every word of the dump is a lexeme and is scanned as one again.
  induction derived with
  | leaf stands => exact leaf_dumped stands (scanned _ List.mem_cons_self)
  | @grouping _ _ _ expr opens _ _ ih =>
    simp only [List.forall_mem_cons, List.forall_mem_append] at scanned
    obtain ⟨paren, inner, -⟩ := scanned
    exact grouping_dumped paren opens (ih inner)
  | unary sign _ ih =>
    obtain ⟨operator, operand⟩ := List.forall_mem_cons.mp scanned
    exact unary_dumped operator sign (ih operand)
  | binary joins binds _ _ leftIH rightIH =>
    simp only [List.forall_mem_cons, List.forall_mem_append] at scanned
    obtain ⟨left, operator, right⟩ := scanned
    exact binary_dumped operator (binds ▸ joins) (leftIH left) (rightIH right)
  | assign target _ _ ih =>
    simp only [List.forall_mem_cons] at scanned
    obtain ⟨name, -, value⟩ := scanned
    exact assign_dumped name target (ih value)
  | tighter _ ih => exact ih scanned

structure Stmt.Dumped (statements : List Stmt) : Prop where
  plain : ∀ sketch ∈ Stmt.sketches statements, sketch.Plain
  read : Sketch.stmts (Stmt.sketches statements) = Stmt.abstractAll statements

theorem dumped_cons {stmt : Stmt} {rest : List Stmt} (plain : stmt.sketch.Plain)
    (read : stmt.sketch.stmt = stmt.abstract) (further : Stmt.Dumped rest) :
    Stmt.Dumped (stmt :: rest) := by
  constructor
  · rw [Stmt.sketches]
    exact List.forall_mem_cons.mpr ⟨plain, further.plain⟩
  · rw [Stmt.sketches, Sketch.stmts, Stmt.abstractAll, read, further.read]

theorem letIn_dumped {name : Token} {initializer : Expr} {rest : List Stmt} (scanned : name.Scanned)
    (named : name.kind = .identifier) (dumped : initializer.Dumped) (further : Stmt.Dumped rest) :
    Stmt.Dumped (.letIn name initializer :: rest) := by
  obtain ⟨line, kind, text, rfl, lexeme⟩ := scanned
  obtain rfl : kind = .identifier := named
  refine dumped_cons ?_ ?_ further
  · rw [Stmt.sketch, token_shown]
    have isName := Sketch.Plain.word (Sketch.name_isWord lexeme)
    exact .node ⟨by decide, by decide⟩ (by simpa using ⟨isName, dumped.plain⟩)
  · rw [Stmt.sketch, token_shown, Sketch.stmt, if_neg (by decide), Sketch.simple, Sketch.name, dumped.read,
      Sketch.wordToken_lexeme lexeme]
    rfl

theorem print_dumped {keyword : Token} {value : Expr} {rest : List Stmt} (scanned : keyword.Scanned)
    (prints : keyword.kind = .printWord) (dumped : value.Dumped) (further : Stmt.Dumped rest) :
    Stmt.Dumped (.print keyword value :: rest) := by
  obtain ⟨line, rfl, lexeme⟩ := scanned_word "print" scanned prints (by decide) (by decide)
  refine dumped_cons ?_ ?_ further
  · exact .node ⟨by decide, by decide⟩ (by simpa using dumped.plain)
  · rw [Stmt.sketch, Sketch.stmt, if_neg (by decide), Sketch.simple, if_pos rfl, dumped.read,
      Sketch.wordToken_lexeme lexeme]
    rfl

theorem expression_dumped {value : Expr} {rest : List Stmt} (dumped : value.Dumped)
    (further : Stmt.Dumped rest) : Stmt.Dumped (.expression value :: rest) := by
  refine dumped_cons ?_ ?_ further
  · exact .node ⟨by decide, by decide⟩ (by simpa using dumped.plain)
  · rw [Stmt.sketch, Sketch.stmt, if_neg (by decide), Sketch.simple, if_neg (by decide), dumped.read]
    rfl

theorem block_dumped {brace : Token} {body rest : List Stmt} (scanned : brace.Scanned)
    (opens : brace.kind = .leftBrace) (within : Stmt.Dumped body) (further : Stmt.Dumped rest) :
    Stmt.Dumped (.block brace body :: rest) := by
  have listed : (TokenKind.leftBrace, ['\x7b']) ∈ signs := by decide
  obtain ⟨line, rfl⟩ := scanned_sign scanned opens listed
  refine dumped_cons ?_ ?_ further
  · exact .node ⟨by decide, by decide⟩ within.plain
  · rw [Stmt.sketch, Sketch.stmt, if_pos rfl, within.read, Sketch.wordToken_lexeme (.sign listed)]
    rfl

theorem sentence_dumped {tokens : List Token} {statements : List Stmt}
    (sentence : Sentence tokens statements) (scanned : ∀ token ∈ tokens, token.Scanned) :
    Stmt.Dumped statements := by
  induction sentence with
  | nil => exact ⟨by simp [Stmt.sketches], rfl⟩
  | declaration _ named _ _ ih =>
    simp only [List.forall_mem_cons] at scanned
    obtain ⟨-, name, -, rest⟩ := scanned
    exact letIn_dumped name named (nil_dumped _) (ih rest)
  | definition _ named _ derived _ _ ih =>
    simp only [List.forall_mem_cons, List.forall_mem_append] at scanned
    obtain ⟨-, name, -, value, -, rest⟩ := scanned
    exact letIn_dumped name named (derives_dumped derived value) (ih rest)
  | print prints derived _ _ ih =>
    simp only [List.forall_mem_cons, List.forall_mem_append] at scanned
    obtain ⟨keyword, value, -, rest⟩ := scanned
    exact print_dumped keyword prints (derives_dumped derived value) (ih rest)
  | expression derived _ _ ih =>
    simp only [List.forall_mem_cons, List.forall_mem_append] at scanned
    obtain ⟨value, -, rest⟩ := scanned
    exact expression_dumped (derives_dumped derived value) (ih rest)
  | block opens _ _ _ inside ih =>
    simp only [List.forall_mem_cons, List.forall_mem_append] at scanned
    obtain ⟨brace, body, -, rest⟩ := scanned
    exact block_dumped brace opens (inside body) (ih rest)

theorem ofSource_dumped {source : String} {statements : List Stmt}
    (accepted : Program.ofSource source = .ok statements) : Stmt.Dumped statements := by
  obtain ⟨-, reads⟩ := Program.ofSource_eq_ok.mp accepted
  rw [Scan.scan_tokens] at reads
  exact sentence_dumped (readStrict_sentence (Scan.words_inner source) rfl reads) (words_scanned source)

/-- Two programs have the same tree dump exactly if they are the same node for node: of the same kinds
and shape, parentheses included, with the same operators, names and literal values. Only where tokens
stand, how a literal is written and whether nil was left out after a name is not in the dump. -/
theorem tree_determines_program {source other : String} {statements second : List Stmt}
    (accepted : Program.ofSource source = .ok statements)
    (acceptedToo : Program.ofSource other = .ok second) :
    treeText statements = treeText second ↔ Stmt.abstractAll statements = Stmt.abstractAll second := by
  have dumped := ofSource_dumped accepted
  have dumpedToo := ofSource_dumped acceptedToo
  constructor
  · intro same
    have lines := congrArg String.toList same
    rw [treeText_eq, treeText_eq] at lines
    have nodes := Sketch.lines_told dumped.plain dumpedToo.plain lines
    rw [← dumped.read, nodes, dumpedToo.read]
  · intro same
    rw [← treeText_abstractAll statements, same, treeText_abstractAll]

/-- A value left out and one that is nil, and a string between delimiters of one kind and the other. -/
theorem tree_determines_program_delimiters :
    ∃ statements second, Program.ofSource "let a;print !(\"b\");" = .ok statements ∧
      Program.ofSource "let a = nil;\nprint !(\x60b\x60);" = .ok second ∧ statements ≠ second ∧
      treeText statements = "(let a nil)\n(print (! (group \"b\")))\n" ∧
      treeText statements = treeText second ∧
      Stmt.abstractAll statements = Stmt.abstractAll second := by
  let name : Token := ⟨.identifier, "a", "", 1⟩
  let nil : Token := ⟨.nilWord, "nil", "", 1⟩
  let print (line : Int) : Token := ⟨.printWord, "print", "", line⟩
  let bang (line : Int) : Token := ⟨.bang, "!", "!", line⟩
  let paren (line : Int) : Token := ⟨.leftParen, "(", "(", line⟩
  let string (quoted : String) (line : Int) : Token := ⟨.string, quoted, "b", line⟩
  let printed (line : Int) (quoted : String) : Stmt :=
    .print (print line)
      (.unary (bang line) (.grouping (paren line) (.string (string quoted line) "b")))
  let statements := [.letIn name (.nil name), printed 1 "\"b\""]
  let second := [.letIn name (.nil nil), printed 2 "\x60b\x60"]
  have accepted : Program.ofSource "let a;print !(\"b\");" = .ok statements := by cbv
  have acceptedToo : Program.ofSource "let a = nil;\nprint !(\x60b\x60);" = .ok second := by cbv
  have different : statements ≠ second := by simp [statements, second, name, nil]
  have dump : treeText statements = "(let a nil)\n(print (! (group \"b\")))\n" := by decide
  have same : treeText statements = treeText second := by decide
  exact ⟨statements, second, accepted, acceptedToo, different, dump, same,
    (tree_determines_program accepted acceptedToo).mp same⟩

end Scriptlet
