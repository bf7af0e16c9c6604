import Mathlib.Data.List.Forall2
import Scriptlet.Syntax.Layout
import Scriptlet.Syntax.Literal

/-! The grammar of programs, as a relation between token lists and trees. Nothing here reads: a rule
says which tokens stand for which tree, and a sentence may be taken apart in any way that the rules
allow. Expressions are ranked by how tightly they bind: an assignment is of rank 0, a chain of operators
of the tightness of its operators, a sign of rank 5, and what stands by itself of rank 6. -/
namespace Scriptlet

inductive Leaf : Token → Expr → Prop
  | no {token : Token} (kind : token.kind = .falseWord) : Leaf token (.boolean token false)
  | yes {token : Token} (kind : token.kind = .trueWord) : Leaf token (.boolean token true)
  | nil {token : Token} (kind : token.kind = .nilWord) : Leaf token (.nil token)
  | integer {token : Token} (kind : token.kind = .integer) :
      Leaf token (.ofLiteral token token.literal)
  | float {token : Token} (kind : token.kind = .float) : Leaf token (.ofLiteral token token.literal)
  | string {token : Token} (kind : token.kind = .string) : Leaf token (.string token token.literal)
  | name {token : Token} (kind : token.kind = .identifier) : Leaf token (.reference token)

namespace Rank

abbrev assignment : Nat := 0
abbrev unary : Nat := 5
abbrev primary : Nat := 6

end Rank

/-- `Derives rank tokens expr`: the tokens are an expression of the rank, and `expr` is its tree. A
binary operator takes an operand of its own rank on the left only, so chains lean left; an assignment
takes one on the right only, and nothing but a name on the left. -/
inductive Derives : Nat → List Token → Expr → Prop
  | leaf {token : Token} {expr : Expr} (stands : Leaf token expr) : Derives Rank.primary [token] expr
  | grouping {paren close : Token} {inner : List Token} {expr : Expr} (opens : paren.kind = .leftParen)
      (closes : close.kind = .rightParen) (derived : Derives Rank.assignment inner expr) :
      Derives Rank.primary (paren :: (inner ++ [close])) (.grouping paren expr)
  | unary {operator : Token} {operand : List Token} {expr : Expr}
      (sign : operator.kind = .bang ∨ operator.kind = .minus)
      (derived : Derives Rank.unary operand expr) :
      Derives Rank.unary (operator :: operand) (.unary operator expr)
  | binary {rank : Nat} {operator : Token} {left right : List Token} {first second : Expr}
      (joins : 0 < rank) (binds : operator.kind.tightness = rank)
      (leftDerived : Derives rank left first) (rightDerived : Derives (rank + 1) right second) :
      Derives rank (left ++ operator :: right) (.binary first operator second)
  | assign {name equals : Token} {tokens : List Token} {value : Expr}
      (target : name.kind = .identifier) (sign : equals.kind = .equal)
      (derived : Derives Rank.assignment tokens value) :
      Derives Rank.assignment (name :: equals :: tokens) (.assign name value)
  | tighter {rank : Nat} {tokens : List Token} {expr : Expr} (derived : Derives (rank + 1) tokens expr) :
      Derives rank tokens expr

/-- `Sentence tokens statements`: the tokens are a program, declaration after declaration, and the
statements are its trees. -/
inductive Sentence : List Token → List Stmt → Prop
  | nil : Sentence [] []
  | declaration {keyword name semicolon : Token} {rest : List Token} {statements : List Stmt}
      (declares : keyword.kind = .letWord) (named : name.kind = .identifier)
      (ends : semicolon.kind = .semicolon) (others : Sentence rest statements) :
      Sentence (keyword :: name :: semicolon :: rest) (.letIn name (.nil name) :: statements)
  | definition {keyword name equals semicolon : Token} {value rest : List Token} {expr : Expr}
      {statements : List Stmt} (declares : keyword.kind = .letWord) (named : name.kind = .identifier)
      (sign : equals.kind = .equal) (derived : Derives Rank.assignment value expr)
      (ends : semicolon.kind = .semicolon) (others : Sentence rest statements) :
      Sentence (keyword :: name :: equals :: (value ++ semicolon :: rest))
        (.letIn name expr :: statements)
  | print {keyword semicolon : Token} {value rest : List Token} {expr : Expr} {statements : List Stmt}
      (prints : keyword.kind = .printWord) (derived : Derives Rank.assignment value expr)
      (ends : semicolon.kind = .semicolon) (others : Sentence rest statements) :
      Sentence (keyword :: (value ++ semicolon :: rest)) (.print keyword expr :: statements)
  | expression {semicolon : Token} {value rest : List Token} {expr : Expr} {statements : List Stmt}
      (derived : Derives Rank.assignment value expr) (ends : semicolon.kind = .semicolon)
      (others : Sentence rest statements) :
      Sentence (value ++ semicolon :: rest) (.expression expr :: statements)
  | block {brace close : Token} {inner rest : List Token} {body statements : List Stmt}
      (opens : brace.kind = .leftBrace) (derived : Sentence inner body)
      (closes : close.kind = .rightBrace) (others : Sentence rest statements) :
      Sentence (brace :: (inner ++ close :: rest)) (.block brace body :: statements)

theorem sentence_append {first second : List Token} {early late : List Stmt}
    (front : Sentence first early) (back : Sentence second late) :
    Sentence (first ++ second) (early ++ late) := by
  induction front with
  | nil => exact back
  | declaration declares named ends _ ih => exact .declaration declares named ends ih
  | definition declares named sign derived ends _ ih =>
    simpa using Sentence.definition declares named sign derived ends ih
  | print prints derived ends _ ih => simpa using Sentence.print prints derived ends ih
  | expression derived ends _ ih => simpa using Sentence.expression derived ends ih
  | block opens derived closes _ _ ih => simpa using Sentence.block opens derived closes ih

/-! What a tree says of its tokens: some it keeps, and of the others it fixes the kind. -/

inductive Slot
  | kept (token : Token)
  | fixed (kind : TokenKind)

def Slot.Fits : Slot → Token → Prop
  | kept held, token => token = held
  | fixed kind, token => token.kind = kind

namespace Expr

def slots : Expr → List Slot
  | integer token _ => [.kept token]
  | float token _ => [.kept token]
  | string token _ => [.kept token]
  | boolean token _ => [.kept token]
  | nil token => [.kept token]
  | reference name => [.kept name]
  | assign name value => .kept name :: .fixed .equal :: value.slots
  | unary operator operand => .kept operator :: operand.slots
  | binary left operator right => left.slots ++ .kept operator :: right.slots
  | grouping paren inner => .kept paren :: (inner.slots ++ [.fixed .rightParen])
  | hole => []

def rank : Expr → Nat
  | assign .. => Rank.assignment
  | binary _ operator _ => operator.kind.tightness
  | unary .. => Rank.unary
  | _ => Rank.primary

/-- Every operand binds as its operator asks: on the left of a binary operator at least as tightly, on
the right more tightly, under a sign like a sign. An assignment binds loosest, so it is nobody's
operand: it stands as a whole expression, in parentheses, or as the value of another. -/
def wellBound : Expr → Bool
  | assign _ value => value.wellBound
  | unary _ operand => Rank.unary ≤ operand.rank && operand.wellBound
  | binary left operator right =>
    0 < operator.kind.tightness && operator.kind.tightness ≤ left.rank
      && operator.kind.tightness < right.rank && left.wellBound && right.wellBound
  | grouping _ inner => inner.wellBound
  | hole => false
  | _ => true

def chainLength (tightness : Nat) : Expr → Nat
  | binary left operator _ =>
    if operator.kind.tightness = tightness then left.chainLength tightness + 1 else 0
  | _ => 0

/-- How many levels an expression opens one inside the other. Each operator of a chain opens one more
for its right operand than the operator before. -/
def levels : Expr → Nat
  | assign _ value => value.levels + 1
  | unary _ operand => operand.levels + 1
  | binary left operator right =>
    Nat.max left.levels (left.chainLength operator.kind.tightness + 1 + right.levels)
  | grouping _ inner => inner.levels + 1
  | _ => 0

end Expr

namespace Stmt

mutual

def slots : Stmt → List Slot
  | expression value => value.slots ++ [.fixed .semicolon]
  | print keyword value => .kept keyword :: (value.slots ++ [.fixed .semicolon])
  | letIn name initializer =>
    if initializer.isImplicitNil then [.fixed .letWord, .kept name, .fixed .semicolon]
    else .fixed .letWord :: .kept name :: .fixed .equal :: (initializer.slots ++ [.fixed .semicolon])
  | block brace body => .kept brace :: (allSlots body ++ [.fixed .rightBrace])
  | hole => []

def allSlots : List Stmt → List Slot
  | [] => []
  | stmt :: rest => stmt.slots ++ allSlots rest

end

mutual

def wellBound : Stmt → Bool
  | expression value => value.wellBound
  | print _ value => value.wellBound
  | letIn _ initializer => initializer.wellBound
  | block _ body => allWellBound body
  | hole => false

def allWellBound : List Stmt → Bool
  | [] => true
  | stmt :: rest => stmt.wellBound && allWellBound rest

end

mutual

def levels : Stmt → Nat
  | expression value => value.levels + 1
  | print _ value => value.levels + 1
  | letIn _ initializer => if initializer.isImplicitNil then 0 else initializer.levels + 1
  | block _ body => allLevels body + 1
  | hole => 0

def allLevels : List Stmt → Nat
  | [] => 0
  | stmt :: rest => Nat.max stmt.levels (allLevels rest)

end

end Stmt

/-! What the grammar makes sure of. -/

theorem ofLiteral_cases (token : Token) (literal : ByteString) :
    (∃ value, Expr.ofLiteral token literal = .integer token value) ∨
    (∃ value, Expr.ofLiteral token literal = .float token value) ∨
    (∃ value, Expr.ofLiteral token literal = .string token value) ∨
    (∃ value, Expr.ofLiteral token literal = .boolean token value) ∨
    Expr.ofLiteral token literal = .nil token := by
  unfold Expr.ofLiteral
  split
  · unfold Expr.ofText
    repeat' split
    all_goals simp
  · simp

theorem ofLiteral_ne_reference (token name : Token) (literal : ByteString) :
    Expr.ofLiteral token literal ≠ .reference name := by
  rcases ofLiteral_cases token literal with ⟨value, same⟩ | ⟨value, same⟩ | ⟨value, same⟩ |
    ⟨value, same⟩ | same
  all_goals simp [same]

theorem leaf_facts {token : Token} {expr : Expr} (leaf : Leaf token expr) :
    expr.slots = [.kept token] ∧ expr.rank = Rank.primary ∧ expr.wellBound = true ∧
      expr.levels = 0 ∧ ∀ tightness, expr.chainLength tightness = 0 := by
  cases leaf with
  | no kind => exact ⟨rfl, rfl, rfl, rfl, fun _ => rfl⟩
  | yes kind => exact ⟨rfl, rfl, rfl, rfl, fun _ => rfl⟩
  | nil kind => exact ⟨rfl, rfl, rfl, rfl, fun _ => rfl⟩
  | integer kind =>
    rcases ofLiteral_cases token token.literal with ⟨value, same⟩ | ⟨value, same⟩ | ⟨value, same⟩ |
      ⟨value, same⟩ | same
    all_goals rw [same]; exact ⟨rfl, rfl, rfl, rfl, fun _ => rfl⟩
  | float kind =>
    rcases ofLiteral_cases token token.literal with ⟨value, same⟩ | ⟨value, same⟩ | ⟨value, same⟩ |
      ⟨value, same⟩ | same
    all_goals rw [same]; exact ⟨rfl, rfl, rfl, rfl, fun _ => rfl⟩
  | string kind => exact ⟨rfl, rfl, rfl, rfl, fun _ => rfl⟩
  | name kind => exact ⟨rfl, rfl, rfl, rfl, fun _ => rfl⟩

theorem derives_slots {rank : Nat} {tokens : List Token} {expr : Expr}
    (derived : Derives rank tokens expr) : List.Forall₂ Slot.Fits expr.slots tokens := by
  induction derived with
  | leaf stands =>
    rw [(leaf_facts stands).1]
    exact .cons rfl .nil
  | grouping opens closes _ ih => exact .cons rfl (List.rel_append ih (.cons closes .nil))
  | unary sign _ ih => exact .cons rfl ih
  | binary joins binds _ _ left right => exact List.rel_append left (.cons rfl right)
  | assign target sign _ ih => exact .cons rfl (.cons sign ih)
  | tighter _ ih => exact ih

theorem derives_rank {rank : Nat} {tokens : List Token} {expr : Expr}
    (derived : Derives rank tokens expr) : rank ≤ expr.rank ∧ expr.wellBound = true := by
  induction derived with
  | leaf stands =>
    obtain ⟨-, same, bound, -⟩ := leaf_facts stands
    exact ⟨by simp [same], bound⟩
  | grouping opens closes _ ih => exact ⟨Nat.le_refl _, ih.2⟩
  | unary sign _ ih => exact ⟨Nat.le_refl _, by simpa [Expr.wellBound] using ih⟩
  | binary joins binds _ _ left right =>
    subst binds
    refine ⟨Nat.le_refl _, ?_⟩
    simp only [Expr.wellBound, Bool.and_eq_true, decide_eq_true_eq]
    exact ⟨⟨⟨⟨joins, left.1⟩, right.1⟩, left.2⟩, right.2⟩
  | assign target sign _ ih => exact ⟨Nat.le_refl _, ih.2⟩
  | tighter _ ih => exact ⟨Nat.le_of_succ_le ih.1, ih.2⟩

theorem derives_reference {rank : Nat} {tokens : List Token} {name : Token}
    (derived : Derives rank tokens (.reference name)) :
    tokens = [name] ∧ name.kind = .identifier := by
  -- The tree is fixed, so most rules cannot have been the last; the ranks may still be climbed.
  generalize same : Expr.reference name = expr at derived
  induction derived with
  | leaf stands =>
    cases stands with
    | name kind => cases same; exact ⟨rfl, kind⟩
    | integer kind => exact absurd same.symm (ofLiteral_ne_reference _ _ _)
    | float kind => exact absurd same.symm (ofLiteral_ne_reference _ _ _)
    | no | yes | nil | string => cases same
  | tighter _ ih => exact ih same
  | grouping | unary | binary | assign => cases same

theorem ofLiteral_explicit {token : Token} (literal : ByteString) (other : token.kind ≠ .identifier) :
    (Expr.ofLiteral token literal).isImplicitNil = false := by
  rcases ofLiteral_cases token literal with ⟨value, same⟩ | ⟨value, same⟩ | ⟨value, same⟩ |
    ⟨value, same⟩ | same
  all_goals simp [same, Expr.isImplicitNil, other]

/-- A value that was written stands at a token of its own, and that is never a name. -/
theorem derives_explicit {rank : Nat} {tokens : List Token} {expr : Expr}
    (derived : Derives rank tokens expr) : expr.isImplicitNil = false := by
  induction derived with
  | leaf stands =>
    cases stands with
    | nil kind => simp [Expr.isImplicitNil, kind]
    | integer kind => exact ofLiteral_explicit _ (by simp [kind])
    | float kind => exact ofLiteral_explicit _ (by simp [kind])
    | no | yes | string | name => rfl
  | tighter _ ih => exact ih
  | grouping | unary | binary | assign => rfl

theorem sentence_slots {tokens : List Token} {statements : List Stmt}
    (sentence : Sentence tokens statements) :
    List.Forall₂ Slot.Fits (Stmt.allSlots statements) tokens := by
  induction sentence with
  | nil => exact .nil
  | declaration declares named ends _ ih =>
    have omitted : (Expr.nil _).isImplicitNil = true := beq_iff_eq.mpr named
    simp only [Stmt.allSlots, Stmt.slots, omitted, if_true]
    exact .cons declares (.cons rfl (.cons ends ih))
  | definition declares named sign derived ends _ ih =>
    simp only [Stmt.allSlots, Stmt.slots, derives_explicit derived, Bool.false_eq_true, if_false,
      List.cons_append, List.append_assoc, List.nil_append]
    exact .cons declares (.cons rfl (.cons sign
      (List.rel_append (derives_slots derived) (.cons ends ih))))
  | print prints derived ends _ ih =>
    simp only [Stmt.allSlots, Stmt.slots, List.cons_append, List.append_assoc, List.nil_append]
    exact .cons rfl (List.rel_append (derives_slots derived) (.cons ends ih))
  | expression derived ends _ ih =>
    simp only [Stmt.allSlots, Stmt.slots, List.cons_append, List.append_assoc, List.nil_append]
    exact List.rel_append (derives_slots derived) (.cons ends ih)
  | block opens _ closes _ inner ih =>
    simp only [Stmt.allSlots, Stmt.slots, List.cons_append, List.append_assoc, List.nil_append]
    exact .cons rfl (List.rel_append inner (.cons closes ih))

theorem sentence_wellBound {tokens : List Token} {statements : List Stmt}
    (sentence : Sentence tokens statements) : Stmt.allWellBound statements = true := by
  induction sentence with
  | nil => rfl
  | declaration _ _ _ _ ih => simpa [Stmt.allWellBound, Stmt.wellBound, Expr.wellBound] using ih
  | definition _ _ _ derived _ _ ih =>
    simp [Stmt.allWellBound, Stmt.wellBound, (derives_rank derived).2, ih]
  | print _ derived _ _ ih => simp [Stmt.allWellBound, Stmt.wellBound, (derives_rank derived).2, ih]
  | expression derived _ _ ih =>
    simp [Stmt.allWellBound, Stmt.wellBound, (derives_rank derived).2, ih]
  | block _ _ _ _ inner ih => simp [Stmt.allWellBound, Stmt.wellBound, inner, ih]

end Scriptlet
