import Scriptlet.Proofs.Grammar
import Scriptlet.Syntax.Tree

/-! Programs that differ in nothing but where their tokens stand and how their literals are written. The
same tokens elsewhere make up such a program, and two such programs are laid out and dumped alike. -/
namespace Scriptlet

structure Token.Same (token other : Token) : Prop where
  kind : other.kind = token.kind
  lexeme : other.lexeme = token.lexeme
  literal : other.literal = token.literal

theorem Token.Same.isNumber {token other : Token} (same : token.Same other) :
    Spelling.isNumber other = Spelling.isNumber token := by
  simp only [Spelling.isNumber, same.kind]

/-- The same expression node for node. A number may be written otherwise, an integer that does not fit as
the float it stands for, and a string between other delimiters; all other tokens are the same. -/
inductive Expr.Respells : Expr → Expr → Prop
  | integer {token other : Token} {value : Int64} (kind : other.kind = token.kind) :
      Respells (.integer token value) (.integer other value)
  | float {token other : Token} {value : Float}
      (kind : other.kind = token.kind ∨ token.kind = .integer ∧ other.kind = .float) :
      Respells (.float token value) (.float other value)
  | quoted {token other : Token} {value : ByteString} (kind : token.kind = .string)
      (kindToo : other.kind = .string) : Respells (.string token value) (.string other value)
  | string {token other : Token} {value : ByteString} (same : token.Same other) :
      Respells (.string token value) (.string other value)
  | boolean {token other : Token} {value : Bool} (same : token.Same other) :
      Respells (.boolean token value) (.boolean other value)
  | nil {token other : Token} (same : token.Same other) : Respells (.nil token) (.nil other)
  | reference {name other : Token} (same : name.Same other) :
      Respells (.reference name) (.reference other)
  | assign {name other : Token} {value second : Expr} (same : name.Same other)
      (respells : Respells value second) : Respells (.assign name value) (.assign other second)
  | unary {operator other : Token} {operand second : Expr} (same : operator.Same other)
      (respells : Respells operand second) : Respells (.unary operator operand) (.unary other second)
  | binary {operator other : Token} {left right first second : Expr} (same : operator.Same other)
      (onLeft : Respells left first) (onRight : Respells right second) :
      Respells (.binary left operator right) (.binary first other second)
  | grouping {paren other : Token} {inner second : Expr} (same : paren.Same other)
      (respells : Respells inner second) : Respells (.grouping paren inner) (.grouping other second)

inductive Stmt.Respells : List Stmt → List Stmt → Prop
  | nil : Respells [] []
  | expression {value second : Expr} {rest others : List Stmt} (respells : value.Respells second)
      (further : Respells rest others) :
      Respells (.expression value :: rest) (.expression second :: others)
  | print {keyword other : Token} {value second : Expr} {rest others : List Stmt}
      (same : keyword.Same other) (respells : value.Respells second) (further : Respells rest others) :
      Respells (.print keyword value :: rest) (.print other second :: others)
  | letIn {name other : Token} {initializer second : Expr} {rest others : List Stmt}
      (same : name.Same other) (respells : initializer.Respells second)
      (further : Respells rest others) :
      Respells (.letIn name initializer :: rest) (.letIn other second :: others)
  | block {brace other : Token} {body inner rest others : List Stmt} (same : brace.Same other)
      (inside : Respells body inner) (further : Respells rest others) :
      Respells (.block brace body :: rest) (.block other inner :: others)

/-! The same tokens elsewhere. -/

def Expr.mapTokens (move : Token → Token) : Expr → Expr
  | integer token value => integer (move token) value
  | float token value => float (move token) value
  | string token value => string (move token) value
  | boolean token value => boolean (move token) value
  | nil token => nil (move token)
  | reference name => reference (move name)
  | assign name value => assign (move name) (value.mapTokens move)
  | unary operator operand => unary (move operator) (operand.mapTokens move)
  | binary left operator right => binary (left.mapTokens move) (move operator) (right.mapTokens move)
  | grouping paren inner => grouping (move paren) (inner.mapTokens move)
  | hole => hole

theorem Expr.mapTokens_id (expr : Expr) : expr.mapTokens id = expr := by
  induction expr with
  | assign _ _ ih => rw [mapTokens, ih, id]
  | unary _ _ ih => rw [mapTokens, ih, id]
  | binary _ _ _ onLeft onRight => rw [mapTokens, onLeft, onRight, id]
  | grouping _ _ ih => rw [mapTokens, ih, id]
  | _ => rfl

namespace Stmt

mutual

def mapTokens (move : Token → Token) : Stmt → Stmt
  | expression value => expression (value.mapTokens move)
  | print keyword value => print (move keyword) (value.mapTokens move)
  | letIn name initializer => letIn (move name) (initializer.mapTokens move)
  | block brace body => block (move brace) (mapAllTokens move body)
  | hole => hole

def mapAllTokens (move : Token → Token) : List Stmt → List Stmt
  | [] => []
  | stmt :: rest => stmt.mapTokens move :: mapAllTokens move rest

end

theorem mapAllTokens_eq (move : Token → Token) (statements : List Stmt) :
    mapAllTokens move statements = statements.map (mapTokens move) := by
  induction statements with
  | nil => rfl
  | cons stmt rest ih => rw [mapAllTokens, ih, List.map_cons]

mutual

theorem mapTokens_id : (stmt : Stmt) → stmt.mapTokens id = stmt
  | expression value => by rw [mapTokens, value.mapTokens_id]
  | print keyword value => by rw [mapTokens, value.mapTokens_id, id]
  | letIn name initializer => by rw [mapTokens, initializer.mapTokens_id, id]
  | block brace body => by rw [mapTokens, mapAllTokens_id body, id]
  | hole => by rw [mapTokens]

theorem mapAllTokens_id : (statements : List Stmt) → mapAllTokens id statements = statements
  | [] => by rw [mapAllTokens]
  | stmt :: rest => by rw [mapAllTokens, mapTokens_id stmt, mapAllTokens_id rest]

end

end Stmt

theorem ofLiteral_mapTokens (move : Token → Token) (token : Token) (literal : ByteString) :
    (Expr.ofLiteral token literal).mapTokens move = Expr.ofLiteral (move token) literal := by
  cases literal with
  | text value =>
    simp only [Expr.ofLiteral, Expr.ofText]
    repeat' split
    all_goals rfl
  | raw value illFormed => rfl

theorem ofLiteral_respells {token other : Token} (same : token.Same other) (literal : ByteString) :
    (Expr.ofLiteral token literal).Respells (Expr.ofLiteral other literal) := by
  cases literal with
  | text value =>
    simp only [Expr.ofLiteral, Expr.ofText]
    split
    · exact .integer same.kind
    · split
      · exact .float (.inl same.kind)
      · split
        · exact .boolean same
        · split
          · exact .boolean same
          · split
            · exact .nil same
            · exact .string same
  | raw value illFormed => exact .string same

section Elsewhere

variable {move : Token → Token} (same : ∀ token : Token, token.Same (move token))

include same

theorem leaf_elsewhere {token : Token} {expr : Expr} (leaf : Leaf token expr) :
    Leaf (move token) (expr.mapTokens move) ∧ expr.Respells (expr.mapTokens move) := by
  have kept := same token
  have number (isNumber : ∀ {other : Token}, other.kind = token.kind →
      Leaf other (.ofLiteral other other.literal)) :
      Leaf (move token) ((Expr.ofLiteral token token.literal).mapTokens move) ∧
        (Expr.ofLiteral token token.literal).Respells
          ((Expr.ofLiteral token token.literal).mapTokens move) := by
    rw [ofLiteral_mapTokens]
    constructor
    · have leaf := isNumber kept.kind
      rwa [kept.literal] at leaf
    · exact ofLiteral_respells kept token.literal
  cases leaf with
  | no kind => exact ⟨.no (kept.kind.trans kind), .boolean kept⟩
  | yes kind => exact ⟨.yes (kept.kind.trans kind), .boolean kept⟩
  | nil kind => exact ⟨.nil (kept.kind.trans kind), .nil kept⟩
  | integer kind => exact number fun same => .integer (same.trans kind)
  | float kind => exact number fun same => .float (same.trans kind)
  | string kind =>
    constructor
    · have leaf := Leaf.string (kept.kind.trans kind)
      rwa [kept.literal] at leaf
    · exact .string kept
  | name kind => exact ⟨.name (kept.kind.trans kind), .reference kept⟩

theorem derives_elsewhere {rank : Nat} {tokens : List Token} {expr : Expr}
    (derived : Derives rank tokens expr) :
    Derives rank (tokens.map move) (expr.mapTokens move) ∧ expr.Respells (expr.mapTokens move) := by
  induction derived with
  | leaf stands =>
    obtain ⟨leaf, respells⟩ := leaf_elsewhere same stands
    exact ⟨.leaf leaf, respells⟩
  | @grouping paren close inner expr opens closes _ ih =>
    obtain ⟨derived, respells⟩ := ih
    refine ⟨?_, .grouping (same paren) respells⟩
    simpa [Expr.mapTokens] using
      Derives.grouping ((same paren).kind.trans opens) ((same close).kind.trans closes) derived
  | @unary operator operand expr sign _ ih =>
    obtain ⟨derived, respells⟩ := ih
    refine ⟨.unary ?_ derived, .unary (same operator) respells⟩
    rw [(same operator).kind]
    exact sign
  | @binary rank operator left right first second joins binds _ _ leftIH rightIH =>
    obtain ⟨leftDerived, onLeft⟩ := leftIH
    obtain ⟨rightDerived, onRight⟩ := rightIH
    refine ⟨?_, .binary (same operator) onLeft onRight⟩
    have still : (move operator).kind.tightness = rank := by rw [(same operator).kind, binds]
    simpa [Expr.mapTokens] using Derives.binary joins still leftDerived rightDerived
  | @assign name equals tokens value target sign _ ih =>
    obtain ⟨derived, respells⟩ := ih
    exact ⟨.assign ((same name).kind.trans target) ((same equals).kind.trans sign) derived,
      .assign (same name) respells⟩
  | tighter _ ih => exact ⟨.tighter ih.1, ih.2⟩

/-- Elsewhere, the tokens of a program are the same program, with its tokens there. -/
theorem sentence_elsewhere {tokens : List Token} {statements : List Stmt}
    (sentence : Sentence tokens statements) :
    Sentence (tokens.map move) (Stmt.mapAllTokens move statements) ∧
      Stmt.Respells statements (Stmt.mapAllTokens move statements) := by
  have kind {token : Token} {wanted : TokenKind} (known : token.kind = wanted) :
      (move token).kind = wanted := (same token).kind.trans known
  induction sentence with
  | nil => exact ⟨.nil, .nil⟩
  | declaration declares named ends _ ih =>
    obtain ⟨derived, further⟩ := ih
    exact ⟨.declaration (kind declares) (kind named) (kind ends) derived,
      .letIn (same _) (.nil (same _)) further⟩
  | definition declares named sign value ends _ ih =>
    obtain ⟨derived, further⟩ := ih
    obtain ⟨inside, respells⟩ := derives_elsewhere same value
    refine ⟨?_, .letIn (same _) respells further⟩
    simpa [Stmt.mapAllTokens, Stmt.mapTokens] using
      Sentence.definition (kind declares) (kind named) (kind sign) inside (kind ends) derived
  | print prints value ends _ ih =>
    obtain ⟨derived, further⟩ := ih
    obtain ⟨inside, respells⟩ := derives_elsewhere same value
    refine ⟨?_, .print (same _) respells further⟩
    simpa [Stmt.mapAllTokens, Stmt.mapTokens] using
      Sentence.print (kind prints) inside (kind ends) derived
  | expression value ends _ ih =>
    obtain ⟨derived, further⟩ := ih
    obtain ⟨inside, respells⟩ := derives_elsewhere same value
    refine ⟨?_, .expression respells further⟩
    simpa [Stmt.mapAllTokens, Stmt.mapTokens] using
      Sentence.expression inside (kind ends) derived
  | block opens _ closes _ bodyIH ih =>
    obtain ⟨within, inside⟩ := bodyIH
    obtain ⟨derived, further⟩ := ih
    refine ⟨?_, .block (same _) inside further⟩
    simpa [Stmt.mapAllTokens, Stmt.mapTokens] using
      Sentence.block (kind opens) within (kind closes) derived

end Elsewhere

/-! What respelling leaves as it is. -/

namespace Expr.Respells

variable {expr second : Expr} (respells : expr.Respells second)

include respells

theorem chainLength (tightness : Nat) : second.chainLength tightness = expr.chainLength tightness := by
  induction respells with
  | binary same _ _ onLeft _ => simp only [Expr.chainLength, same.kind, onLeft]
  | _ => rfl

theorem levels : second.levels = expr.levels := by
  induction respells with
  | assign _ _ ih => simp only [Expr.levels, ih]
  | unary _ _ ih => simp only [Expr.levels, ih]
  | binary same left _ onLeft onRight =>
    simp only [Expr.levels, same.kind, left.chainLength, onLeft, onRight]
  | grouping _ _ ih => simp only [Expr.levels, ih]
  | _ => rfl

theorem isImplicitNil : second.isImplicitNil = expr.isImplicitNil := by
  cases respells with
  | nil same => simp only [Expr.isImplicitNil, same.kind]
  | _ => rfl

theorem needsParens (operator : TokenKind) :
    second.isBinary = expr.isBinary ∧ second.needsParensLeft operator = expr.needsParensLeft operator ∧
      second.needsParensRight operator = expr.needsParensRight operator := by
  cases respells with
  | binary same _ _ =>
    simp only [Expr.isBinary, Expr.needsParensLeft, Expr.needsParensRight, same.kind, and_self]
  | _ => exact ⟨rfl, rfl, rfl⟩

theorem layout : second.layout = expr.layout := by
  induction respells with
  | quoted kind kindToo => simp [Expr.layout, Spelling.isNumber, kind, kindToo]
  | string same => simp only [Expr.layout, same.isNumber, same.lexeme]
  | reference same => simp only [Expr.layout, same.lexeme]
  | assign same _ ih => simp only [Expr.layout, same.lexeme, ih]
  | unary same inner ih => simp only [Expr.layout, same.lexeme, (inner.needsParens .bang).1, ih]
  | binary same left right onLeft onRight =>
    simp only [Expr.layout, same.lexeme, same.kind, (left.needsParens _).2.1, (right.needsParens _).2.2,
      onLeft, onRight]
  | grouping _ _ ih => simp only [Expr.layout, ih]
  | _ => rfl

theorem tree : second.tree = expr.tree := by
  induction respells with
  | quoted kind kindToo => simp [Expr.tree, Spelling.isNumber, kind, kindToo]
  | string same => simp only [Expr.tree, same.isNumber, same.lexeme]
  | reference same => simp only [Expr.tree, same.lexeme]
  | assign same _ ih => simp only [Expr.tree, same.lexeme, ih]
  | unary same _ ih => simp only [Expr.tree, same.lexeme, ih]
  | binary same _ _ onLeft onRight => simp only [Expr.tree, same.lexeme, onLeft, onRight]
  | grouping _ _ ih => simp only [Expr.tree, ih]
  | _ => rfl

end Expr.Respells

theorem layout_block (depth : Nat) (brace : Token) {body : List Stmt} (some : body ≠ []) :
    Stmt.layout depth (.block brace body) = Stmt.indentation depth ++ "\x7b\n" ++
      Stmt.layoutLines (depth + 1) body ++ Stmt.indentation depth ++ "\x7d" := by
  cases body with
  | nil => exact absurd rfl some
  | cons first rest => simp only [Stmt.layout, Stmt.layoutLines, String.append_assoc]

theorem innerTrees_eq (statements : List Stmt) :
    Stmt.innerTrees statements = String.join ((statements.map Stmt.tree).map (" " ++ ·)) := by
  induction statements with
  | nil => rfl
  | cons stmt rest ih => simp [Stmt.innerTrees, ih, String.join_cons]

namespace Stmt.Respells

variable {statements second : List Stmt} (respells : Stmt.Respells statements second)

include respells

theorem allLevels : Stmt.allLevels second = Stmt.allLevels statements := by
  induction respells with
  | nil => rfl
  | expression inner _ ih => simp only [Stmt.allLevels, Stmt.levels, inner.levels, ih]
  | print _ inner _ ih => simp only [Stmt.allLevels, Stmt.levels, inner.levels, ih]
  | letIn _ inner _ ih =>
    simp only [Stmt.allLevels, Stmt.levels, inner.levels, inner.isImplicitNil, ih]
  | block _ _ _ inside ih => simp only [Stmt.allLevels, Stmt.levels, inside, ih]

theorem isEmpty : second = [] ↔ statements = [] := by
  cases respells <;> simp

theorem layoutLines (depth : Nat) :
    Stmt.layoutLines depth second = Stmt.layoutLines depth statements := by
  induction respells generalizing depth with
  | nil => rfl
  | expression inner _ ih => simp only [Stmt.layoutLines, Stmt.layout, inner.layout, ih]
  | print _ inner _ ih => simp only [Stmt.layoutLines, Stmt.layout, inner.layout, ih]
  | letIn same inner _ ih =>
    simp only [Stmt.layoutLines, Stmt.layout, inner.layout, inner.isImplicitNil, same.lexeme, ih]
  | @block brace other body inner rest others _ within _ inside ih =>
    simp only [Stmt.layoutLines, ih]
    -- An empty block is laid out otherwise, and stays empty.
    by_cases none : body = []
    · have noneToo := within.isEmpty.mpr none
      subst none noneToo
      simp only [Stmt.layout]
    · have someToo := mt within.isEmpty.mp none
      rw [layout_block depth brace none, layout_block depth other someToo, inside]

theorem trees : second.map Stmt.tree = statements.map Stmt.tree := by
  induction respells with
  | nil => rfl
  | expression inner _ ih => simp only [List.map_cons, Stmt.tree, inner.tree, ih]
  | print _ inner _ ih => simp only [List.map_cons, Stmt.tree, inner.tree, ih]
  | letIn same inner _ ih => simp only [List.map_cons, Stmt.tree, inner.tree, same.lexeme, ih]
  | block _ _ _ inside ih => simp only [List.map_cons, Stmt.tree, innerTrees_eq, inside, ih]

/-- Respelled programs have the same canonical text and the same tree. -/
theorem sourceText : Scriptlet.sourceText second = Scriptlet.sourceText statements :=
  respells.layoutLines 0

theorem treeText : Scriptlet.treeText second = Scriptlet.treeText statements := by
  have trees := congrArg (List.map (· ++ "\n")) respells.trees
  simp only [List.map_map] at trees
  exact congrArg String.join trees

end Stmt.Respells

end Scriptlet
