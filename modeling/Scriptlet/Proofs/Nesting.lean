import Mathlib
import Scriptlet.Proofs.Truncation

/-! How high the trees are that reading accepts. The levels that reading counts are not the height of the
tree: the operators of a chain come to stand over its first operand, which was read before any of them
was counted. Where that operand and those after it are flat, the limit on levels is a limit on the height.
Elsewhere it bounds the height too, but by a number that grows with the square of the limit, and that
number is reached. -/
namespace Scriptlet

namespace Expr

/-- How many assignments, signs, operators and parentheses lie one inside the other, at most. -/
def height : Expr → Nat
  | assign _ value => value.height + 1
  | unary _ operand => operand.height + 1
  | binary left _ right => Nat.max left.height right.height + 1
  | grouping _ inner => inner.height + 1
  | _ => 0

/-- No left operand is higher than the chain of its operator that it ends: it is a leaf, or a chain of
operators that bind alike, with leaves between them. -/
def flatOnLeft : Expr → Bool
  | assign _ value => value.flatOnLeft
  | unary _ operand => operand.flatOnLeft
  | binary left operator right =>
    left.height ≤ left.chainLength operator.kind.tightness && right.flatOnLeft
  | grouping _ inner => inner.flatOnLeft
  | _ => true

theorem height_le_levels {expr : Expr} (flat : expr.flatOnLeft = true) : expr.height ≤ expr.levels := by
  -- Where left operands are flat, each node opens the level it stands on.
  induction expr with
  | assign name value ih => exact Nat.succ_le_succ (ih flat)
  | unary operator operand ih => exact Nat.succ_le_succ (ih flat)
  | grouping paren inner ih => exact Nat.succ_le_succ (ih flat)
  | binary left operator right _ ih =>
    simp only [flatOnLeft, Bool.and_eq_true, decide_eq_true_eq] at flat
    have counted : Nat.max left.height right.height + 1 ≤
        left.chainLength operator.kind.tightness + 1 + right.levels := by
      rw [Nat.add_right_comm]
      refine Nat.succ_le_succ (Nat.max_le.mpr ⟨?_, ?_⟩)
      · exact Nat.le_trans flat.1 (Nat.le_add_right _ _)
      · exact Nat.le_trans (ih flat.2) (Nat.le_add_left _ _)
    exact Nat.le_trans counted (Nat.le_max_right _ _)
  | _ => exact Nat.zero_le _

/-- The greatest height of an expression that opens the given number of levels. -/
def peak (levels : Nat) : Nat := levels * (2 * levels + 3)

def operandPeak : Nat → Nat
  | 0 => 0
  | levels + 1 => peak levels + 1

theorem peak_eq (levels : Nat) : peak levels = operandPeak levels + 4 * levels := by
  -- Each of the four tiers can put as many operators over an operand as there are levels.
  cases levels with
  | zero => rfl
  | succ levels =>
    simp only [peak, operandPeak]
    ring

theorem peak_mono {less levels : Nat} (fewer : less ≤ levels) : peak less ≤ peak levels :=
  Nat.mul_le_mul fewer (by omega)

theorem chainLength_le_levels (tightness : Nat) (expr : Expr) :
    expr.chainLength tightness ≤ expr.levels := by
  cases expr with
  | binary left operator right =>
    by_cases same : operator.kind.tightness = tightness
    · subst same
      have counted : left.chainLength operator.kind.tightness + 1 ≤
          left.chainLength operator.kind.tightness + 1 + right.levels := Nat.le_add_right _ _
      simp only [chainLength, levels, if_true]
      exact Nat.le_trans counted (Nat.le_max_right _ _)
    · simp [chainLength, same]
  | _ => exact Nat.zero_le _

theorem chainLength_loosest {expr : Expr} (bound : expr.wellBound = true) :
    expr.chainLength Rank.assignment = 0 := by
  cases expr with
  | binary left operator right =>
    have binds : 0 < operator.kind.tightness := by
      simp only [wellBound, Bool.and_eq_true, decide_eq_true_eq] at bound
      exact bound.1.1.1.1
    exact Reader.chainLength_zero binds
  | _ => rfl

/-- The height by tiers: what the operand can have, as much again for each tier that binds tighter, and
one for each operator of the chain itself. -/
def Bounded (room tightness : Nat) (expr : Expr) : Prop :=
  expr.height ≤ operandPeak room + (4 - tightness) * room + expr.chainLength tightness

theorem bounded_over {room tightness : Nat} {inner outer : Expr} (bound : inner.wellBound = true)
    (fits : inner.levels + 1 ≤ room)
    (bounded : ∀ less, inner.levels ≤ less → Bounded less Rank.assignment inner)
    (above : outer.height = inner.height + 1) : Bounded room tightness outer := by
  cases room with
  | zero => exact absurd fits (Nat.not_succ_le_zero _)
  | succ room =>
    have within := bounded room (Nat.le_of_succ_le_succ fits)
    simp only [Bounded, chainLength_loosest bound, Nat.add_zero, Rank.assignment, Nat.sub_zero,
      ← peak_eq] at within
    simp only [Bounded, above, operandPeak]
    omega

theorem bounded_looser {room looser tightness : Nat} {expr : Expr} (fits : expr.levels ≤ room)
    (further : looser < tightness) (inner : tightness ≤ 4) (bounded : Bounded room tightness expr) :
    expr.height ≤ operandPeak room + (4 - looser) * room := by
  have length : expr.chainLength tightness ≤ room :=
    Nat.le_trans (chainLength_le_levels tightness expr) fits
  have tiers : (4 - tightness + 1) * room ≤ (4 - looser) * room :=
    Nat.mul_le_mul_right room (by omega)
  rw [Nat.add_one_mul] at tiers
  unfold Bounded at bounded
  omega

theorem bounded_binary {room : Nat} {left right : Expr} {operator : Token}
    (rightRank : operator.kind.tightness < right.rank)
    (leftBounded : Bounded room operator.kind.tightness left)
    (rightBounded : Bounded room operator.kind.tightness right) :
    Bounded room operator.kind.tightness (binary left operator right) := by
  have alone : right.chainLength operator.kind.tightness = 0 := Reader.chainLength_zero rightRank
  unfold Bounded at leftBounded rightBounded ⊢
  rw [alone] at rightBounded
  have chained : (binary left operator right).chainLength operator.kind.tightness =
      left.chainLength operator.kind.tightness + 1 := by simp [chainLength]
  rw [chained, height, ← Nat.add_assoc]
  refine Nat.succ_le_succ (Nat.max_le.mpr ⟨leftBounded, ?_⟩)
  exact Nat.le_trans rightBounded (Nat.le_add_right _ _)

theorem height_bounded (expr : Expr) (bound : expr.wellBound = true) :
    ∀ room, expr.levels ≤ room → ∀ tightness, tightness ≤ expr.rank → Bounded room tightness expr := by
  induction expr with
  | assign name value ih =>
    intro room fits tightness _
    have bound : value.wellBound = true := bound
    exact bounded_over bound fits (fun less enough => ih bound less enough _ (Nat.zero_le _)) rfl
  | unary operator operand ih =>
    simp only [wellBound, Bool.and_eq_true] at bound
    intro room fits tightness _
    exact bounded_over bound.2 fits (fun less enough => ih bound.2 less enough _ (Nat.zero_le _)) rfl
  | grouping paren inner ih =>
    intro room fits tightness _
    have bound : inner.wellBound = true := bound
    exact bounded_over bound fits (fun less enough => ih bound less enough _ (Nat.zero_le _)) rfl
  | binary left operator right leftIh rightIh =>
    simp only [wellBound, Bool.and_eq_true, decide_eq_true_eq] at bound
    obtain ⟨⟨⟨⟨_, leftRank⟩, rightRank⟩, leftBound⟩, rightBound⟩ := bound
    intro room fits tightness within
    obtain ⟨leftFits, rightFits⟩ := Nat.max_le.mp fits
    have own : Bounded room operator.kind.tightness (binary left operator right) :=
      bounded_binary rightRank (leftIh leftBound room leftFits _ leftRank)
        (rightIh rightBound room (by omega) _ (Nat.le_of_lt rightRank))
    rcases Nat.lt_or_eq_of_le within with looser | same
    · have height := bounded_looser fits looser (Reader.tightness_le _) own
      exact Nat.le_trans height (Nat.le_add_right _ _)
    · rw [same]
      exact own
  | _ =>
    intro room _ tightness _
    exact Nat.zero_le _

/-- An expression is no higher than the levels it opens allow. -/
theorem height_le_peak {expr : Expr} (bound : expr.wellBound = true) :
    expr.height ≤ peak expr.levels := by
  have bounded := height_bounded expr bound _ (Nat.le_refl _) Rank.assignment (Nat.zero_le _)
  rw [peak_eq]
  unfold Bounded at bounded
  rwa [chainLength_loosest bound] at bounded

end Expr

namespace Stmt

mutual

def height : Stmt → Nat
  | expression value => value.height
  | print _ value => value.height
  | letIn _ initializer => initializer.height
  | block _ body => greatestHeight body + 1
  | hole => 0

def greatestHeight : List Stmt → Nat
  | [] => 0
  | stmt :: rest => Nat.max stmt.height (greatestHeight rest)

end

theorem height_le_greatestHeight {stmt : Stmt} {statements : List Stmt} (member : stmt ∈ statements) :
    stmt.height ≤ greatestHeight statements := by
  induction statements with
  | nil => cases member
  | cons first rest ih =>
    cases member with
    | head => exact Nat.le_max_left _ _
    | tail _ later => exact Nat.le_trans (ih later) (Nat.le_max_right _ _)

mutual

def flatOnLeft : Stmt → Bool
  | expression value => value.flatOnLeft
  | print _ value => value.flatOnLeft
  | letIn _ initializer => initializer.flatOnLeft
  | block _ body => allFlatOnLeft body
  | hole => true

def allFlatOnLeft : List Stmt → Bool
  | [] => true
  | stmt :: rest => stmt.flatOnLeft && allFlatOnLeft rest

end

mutual

theorem height_le_levels {stmt : Stmt} (flat : stmt.flatOnLeft = true) : stmt.height ≤ stmt.levels := by
  cases stmt with
  | expression value => exact Nat.le_succ_of_le (Expr.height_le_levels flat)
  | print keyword value => exact Nat.le_succ_of_le (Expr.height_le_levels flat)
  | letIn name initializer =>
    have low : initializer.height ≤ initializer.levels := Expr.height_le_levels flat
    rw [height, levels]
    split
    · next omitted =>
      cases initializer <;> simp [Expr.isImplicitNil, Expr.height] at omitted ⊢
    · exact Nat.le_succ_of_le low
  | block brace body => exact Nat.succ_le_succ (greatestHeight_le_allLevels flat)
  | hole => exact Nat.zero_le _

theorem greatestHeight_le_allLevels {statements : List Stmt} (flat : allFlatOnLeft statements = true) :
    greatestHeight statements ≤ allLevels statements := by
  cases statements with
  | nil => exact Nat.zero_le _
  | cons stmt rest =>
    simp only [allFlatOnLeft, Bool.and_eq_true] at flat
    exact Nat.max_le.mpr ⟨Nat.le_trans (height_le_levels flat.1) (Nat.le_max_left _ _),
      Nat.le_trans (greatestHeight_le_allLevels flat.2) (Nat.le_max_right _ _)⟩

end

theorem levels_le_allLevels {stmt : Stmt} {statements : List Stmt} (member : stmt ∈ statements) :
    stmt.levels ≤ allLevels statements := by
  induction statements with
  | nil => cases member
  | cons first rest ih =>
    cases member with
    | head => exact Nat.le_max_left _ _
    | tail _ later => exact Nat.le_trans (ih later) (Nat.le_max_right _ _)

/-- The greatest height of a statement that opens the given number of levels. A whole expression takes
one of them; with a single level there is only the empty block. -/
def peak : Nat → Nat
  | 0 => 0
  | levels + 1 => Nat.max (levels + 1) (Expr.peak levels)

theorem peak_mono {less levels : Nat} (fewer : less ≤ levels) : peak less ≤ peak levels := by
  cases less with
  | zero => exact Nat.zero_le _
  | succ less =>
    cases levels with
    | zero => exact absurd fewer (Nat.not_succ_le_zero less)
    | succ levels =>
      have inner := Expr.peak_mono (Nat.le_of_succ_le_succ fewer)
      exact Nat.max_le.mpr ⟨Nat.le_trans fewer (Nat.le_max_left _ _),
        Nat.le_trans inner (Nat.le_max_right _ _)⟩

theorem succ_peak_le (levels : Nat) : peak levels + 1 ≤ peak (levels + 1) := by
  cases levels with
  | zero => exact Nat.le_refl _
  | succ levels =>
    have deeper : Expr.peak levels + 1 ≤ Expr.peak (levels + 1) := by
      rw [Expr.peak_eq (levels + 1), Expr.operandPeak]
      omega
    simp only [peak]
    rw [Nat.succ_le_iff, Nat.max_lt]
    constructor
    · exact Nat.lt_of_lt_of_le (Nat.lt_succ_self _) (Nat.le_max_left _ _)
    · exact Nat.lt_of_lt_of_le deeper (Nat.le_max_right _ _)

theorem peak_whole {expr : Expr} (bound : expr.wellBound = true) :
    expr.height ≤ peak (expr.levels + 1) :=
  Nat.le_trans (Expr.height_le_peak bound) (Nat.le_max_right _ _)

theorem sentence_height {tokens : List Token} {statements : List Stmt}
    (sentence : Sentence tokens statements) :
    greatestHeight statements ≤ peak (allLevels statements) := by
  -- Each statement in front is within its own levels, and the levels of a list are the greatest of it.
  have cons (stmt : Stmt) (rest : List Stmt) (first : stmt.height ≤ peak stmt.levels)
      (others : greatestHeight rest ≤ peak (allLevels rest)) :
      greatestHeight (stmt :: rest) ≤ peak (allLevels (stmt :: rest)) :=
    Nat.max_le.mpr ⟨Nat.le_trans first (peak_mono (Nat.le_max_left _ _)),
      Nat.le_trans others (peak_mono (Nat.le_max_right _ _))⟩
  induction sentence with
  | nil => exact Nat.zero_le _
  | declaration _ _ _ _ ih => exact cons _ _ (Nat.zero_le _) ih
  | definition _ _ _ derived _ _ ih =>
    refine cons _ _ ?_ ih
    simp only [levels, derives_explicit derived, Bool.false_eq_true, if_false]
    exact peak_whole (derives_rank derived).2
  | print _ derived _ _ ih => exact cons _ _ (peak_whole (derives_rank derived).2) ih
  | expression derived _ _ ih => exact cons _ _ (peak_whole (derives_rank derived).2) ih
  | block _ _ _ _ inner ih =>
    exact cons _ _ (Nat.le_trans (Nat.succ_le_succ inner) (succ_peak_le _)) ih

end Stmt

/-- Any token list is read as far as its first end-of-input token, or as if one stood at its end. -/
theorem ofTokens_upToEnd (tokens : List Token) :
    ∃ inner final, (∀ token ∈ inner, token.isEnd = false) ∧ final.isEnd = true ∧
      Cursor.ofTokens tokens = Cursor.ofTokens (inner ++ [final]) := by
  have inner := plain_takeWhile tokens
  cases rest : tokens.dropWhile fun token => !token.isEnd with
  | nil =>
    refine ⟨_, .endOfInput ((tokens.getLast?.map (·.line)).getD 1), inner, rfl, ?_⟩
    rw [ofTokens_whole inner rfl]
    simp [Cursor.ofTokens, rest]
  | cons final others =>
    have ends := isEnd_of_dropWhile rest
    refine ⟨_, final, inner, ends, ?_⟩
    rw [ofTokens_whole inner ends]
    simp [Cursor.ofTokens, rest]

theorem readStrict_within {tokens : List Token} {statements : List Stmt}
    (reads : readStrict tokens = .ok statements) :
    (∃ inner, Sentence inner statements) ∧ Stmt.allLevels statements ≤ maxNesting := by
  obtain ⟨inner, final, plain, ends, same⟩ := ofTokens_upToEnd tokens
  have whole : readStrict (inner ++ [final]) = .ok statements := by
    rw [← reads, readStrict, readStrict, same]
  exact ⟨⟨inner, readStrict_sentence plain ends whole⟩, readStrict_levels plain ends whole⟩

theorem readStrict_height {tokens : List Token} {statements : List Stmt}
    (reads : readStrict tokens = .ok statements) {stmt : Stmt} (member : stmt ∈ statements) :
    stmt.height ≤ Stmt.peak maxNesting := by
  obtain ⟨⟨inner, sentence⟩, levels⟩ := readStrict_within reads
  calc stmt.height
    _ ≤ Stmt.greatestHeight statements := Stmt.height_le_greatestHeight member
    _ ≤ Stmt.peak (Stmt.allLevels statements) := Stmt.sentence_height sentence
    _ ≤ Stmt.peak maxNesting := Stmt.peak_mono levels

theorem readStrict_flat {tokens : List Token} {statements : List Stmt}
    (reads : readStrict tokens = .ok statements) {stmt : Stmt} (member : stmt ∈ statements)
    (flat : stmt.flatOnLeft = true) : stmt.height ≤ maxNesting :=
  calc stmt.height
    _ ≤ stmt.levels := Stmt.height_le_levels flat
    _ ≤ Stmt.allLevels statements := Stmt.levels_le_allLevels member
    _ ≤ maxNesting := (readStrict_within reads).2

/-! Trees that are as high as that. -/

theorem derives_words {rank : Nat} {tokens : List Token} {expr : Expr}
    (derived : Derives rank tokens expr) : ∀ token ∈ tokens, token.isEnd = false := by
  have plain {token : Token} {kind : TokenKind} (same : token.kind = kind)
      (other : kind ≠ .endOfInput) : token.isEnd = false := by simpa [Token.isEnd, same] using other
  induction derived with
  | leaf stands =>
    rw [List.forall_mem_singleton]
    cases stands with
    | no kind | yes kind | nil kind | integer kind | float kind | string kind | name kind =>
      exact plain kind nofun
  | grouping opens closes _ ih =>
    rw [List.forall_mem_cons, List.forall_mem_append, List.forall_mem_singleton]
    exact ⟨plain opens nofun, ih, plain closes nofun⟩
  | unary sign _ ih =>
    rw [List.forall_mem_cons]
    refine ⟨?_, ih⟩
    rcases sign with bang | minus
    · exact plain bang nofun
    · exact plain minus nofun
  | binary joins binds _ _ left right =>
    rw [List.forall_mem_append, List.forall_mem_cons]
    refine ⟨left, plain rfl ?_, right⟩
    intro ends
    rw [← binds, ends] at joins
    exact absurd joins (Nat.lt_irrefl 0)
  | assign target sign _ ih =>
    rw [List.forall_mem_cons, List.forall_mem_cons]
    exact ⟨plain target nofun, plain sign nofun, ih⟩
  | tighter _ ih => exact ih

theorem derives_looser {rank less : Nat} {tokens : List Token} {expr : Expr} (looser : less ≤ rank)
    (derived : Derives rank tokens expr) : Derives less tokens expr := by
  induction looser with
  | refl => exact derived
  | step _ ih => exact ih (.tighter derived)

namespace Nesting

def sign (kind : TokenKind) (lexeme : String) : Token := ⟨kind, lexeme, lexeme, 1⟩

def one : Token := sign .integer "1"

theorem one_derived : ∃ expr, Derives Rank.primary [one] expr ∧ expr.levels = 0 ∧ expr.height = 0 := by
  have leaf : Leaf one (.ofLiteral one one.literal) := .integer rfl
  obtain ⟨-, -, -, levels, -⟩ := leaf_facts leaf
  refine ⟨_, .leaf leaf, levels, ?_⟩
  rcases ofLiteral_cases one one.literal with ⟨value, same⟩ | ⟨value, same⟩ | ⟨value, same⟩ |
    ⟨value, same⟩ | same
  all_goals rw [same]; rfl

/-- A number of operators of one tier over an operand, each with the number one on its right. -/
theorem chain_derived {rank : Nat} {operator : Token} {tokens : List Token} {first : Expr}
    (joins : 0 < rank) (inner : rank ≤ 4) (binds : operator.kind.tightness = rank)
    (operand : Derives (rank + 1) tokens first) (length : Nat) :
    ∃ expr, Derives rank (tokens ++ (List.replicate length [operator, one]).flatten) expr ∧
      expr.levels = Nat.max first.levels length ∧ expr.chainLength rank = length ∧
      expr.height = first.height + length := by
  induction length with
  | zero =>
    have single := Reader.chainLength_zero (derives_rank operand).1
    have alone : Derives rank (tokens ++ (List.replicate 0 [operator, one]).flatten) first := by
      simpa using Derives.tighter operand
    exact ⟨first, alone, (Nat.max_eq_left (Nat.zero_le _)).symm, single, rfl⟩
  | succ length ih =>
    obtain ⟨expr, derived, levels, chained, high⟩ := ih
    obtain ⟨last, leaf, none, low⟩ := one_derived
    have right : Derives (rank + 1) [one] last :=
      derives_looser (Nat.succ_le_succ (Nat.le_succ_of_le inner)) leaf
    refine ⟨.binary expr operator last, ?_, ?_, ?_, ?_⟩
    · simpa [List.replicate_succ'] using Derives.binary joins binds derived right
    · rw [Expr.levels, binds, chained, none, levels]
      show max (max first.levels length) (length + 1) = max first.levels (length + 1)
      omega
    · simp [Expr.chainLength, binds, chained]
    · simp [Expr.height, high, low, Nat.add_assoc]

def Reached (rank room height : Nat) : Prop :=
  ∃ tokens expr, Derives rank tokens expr ∧ expr.levels ≤ room ∧ expr.height = height

theorem reached_looser {rank less room height : Nat} (looser : less ≤ rank)
    (reached : Reached rank room height) : Reached less room height := by
  obtain ⟨tokens, expr, derived, facts⟩ := reached
  exact ⟨tokens, expr, derives_looser looser derived, facts⟩

theorem reached_tier {rank room height : Nat} (operator : Token) (joins : 0 < rank) (inner : rank ≤ 4)
    (binds : operator.kind.tightness = rank) (operand : Reached (rank + 1) room height) :
    Reached rank room (height + room) := by
  -- A tier takes as many operators as there are levels, whatever its operand has used.
  obtain ⟨tokens, first, derived, fits, high⟩ := operand
  obtain ⟨expr, chain, levels, -, higher⟩ := chain_derived joins inner binds derived room
  exact ⟨_, expr, chain, levels ▸ Nat.max_le.mpr ⟨fits, Nat.le_refl room⟩, high ▸ higher⟩

theorem reached_tiers {room height : Nat} (operand : Reached Rank.primary room height) :
    Reached Rank.assignment room (height + 4 * room) := by
  have factors := reached_tier (sign .star "*") (by decide) (by decide) rfl
    (reached_looser (by decide : 5 ≤ Rank.primary) operand)
  have terms := reached_tier (sign .plus "+") (by decide) (by decide) rfl factors
  have comparisons := reached_tier (sign .less "<") (by decide) (by decide) rfl terms
  have equalities := reached_tier (sign .equalEqual "==") (by decide) (by decide) rfl comparisons
  have total : height + room + room + room + room = height + 4 * room := by omega
  rw [total] at equalities
  exact reached_looser (Nat.zero_le _) equalities

theorem reached_grouping {room height : Nat} (inside : Reached Rank.assignment room height) :
    Reached Rank.primary (room + 1) (height + 1) := by
  obtain ⟨tokens, expr, derived, fits, high⟩ := inside
  let opening := sign .leftParen "("
  let closing := sign .rightParen ")"
  exact ⟨opening :: (tokens ++ [closing]), .grouping opening expr, .grouping rfl rfl derived,
    Nat.succ_le_succ fits, congrArg Nat.succ high⟩

theorem peak_reached (room : Nat) : Reached Rank.assignment room (Expr.peak room) := by
  -- Parentheses around all that can be written with less room, and then all operators that there is room
  -- for, tier by tier, are as high as can be.
  rw [Expr.peak_eq]
  refine reached_tiers ?_
  induction room with
  | zero =>
    obtain ⟨expr, derived, levels, height⟩ := one_derived
    exact ⟨[one], expr, derived, levels.le, height⟩
  | succ room ih =>
    have inside := reached_tiers ih
    rw [← Expr.peak_eq] at inside
    exact reached_grouping inside

theorem grouped_derived (depth : Nat) :
    ∃ expr, Derives Rank.primary (List.replicate depth (sign .leftParen "(") ++ one ::
      List.replicate depth (sign .rightParen ")")) expr ∧ expr.levels = depth ∧ expr.height = depth := by
  induction depth with
  | zero => exact one_derived
  | succ depth ih =>
    obtain ⟨expr, derived, levels, height⟩ := ih
    have inside := derives_looser (Nat.zero_le _ : Rank.assignment ≤ Rank.primary) derived
    have grouped := Derives.grouping (rfl : (sign .leftParen "(").kind = .leftParen)
      (rfl : (sign .rightParen ")").kind = .rightParen) inside
    refine ⟨.grouping (sign .leftParen "(") expr, ?_, congrArg Nat.succ levels, congrArg Nat.succ height⟩
    simpa [List.replicate_succ, ← List.replicate_succ'] using grouped

theorem readStrict_single {tokens : List Token} {expr : Expr}
    (derived : Derives Rank.assignment tokens expr) (fits : expr.levels + 1 ≤ maxNesting) :
    readStrict (tokens ++ [sign .semicolon ";", .endOfInput 1]) = .ok [.expression expr] := by
  have sentence : Sentence (tokens ++ [sign .semicolon ";"]) [.expression expr] :=
    .expression derived rfl .nil
  have words : ∀ token ∈ tokens ++ [sign .semicolon ";"], token.isEnd = false := by
    rw [List.forall_mem_append, List.forall_mem_singleton]
    exact ⟨derives_words derived, rfl⟩
  have complete := (readStrict_complete words (rfl : (Token.endOfInput 1).isEnd = true) sentence).1
  rw [List.append_assoc] at complete
  exact complete (Nat.max_le.mpr ⟨fits, Nat.zero_le _⟩)

end Nesting

/-- How high the statements are that are read. Where left operands are flat, the limit on levels is a limit
on the height too. Elsewhere it is not: the heights go up to 1998999, which is reached, and no further. -/
theorem heights_read {tokens : List Token} {statements : List Stmt}
    (reads : readStrict tokens = .ok statements) :
    (∀ stmt ∈ statements, stmt.flatOnLeft = true → stmt.height ≤ maxNesting) ∧
      (∀ stmt ∈ statements, stmt.height ≤ 1998999) ∧
      ∃ others highest, readStrict others = .ok [highest] ∧ highest.height = 1998999 := by
  refine ⟨fun stmt => readStrict_flat reads, fun stmt => readStrict_height reads, ?_⟩
  obtain ⟨highest, expr, derived, fits, high⟩ := Nesting.peak_reached (maxNesting - 1)
  exact ⟨_, .expression expr, Nesting.readStrict_single derived (Nat.succ_le_succ fits), high⟩

/-- A chain of two operators with a sign over its last operand. -/
theorem heights_read_chain :
    let name := Nesting.sign .identifier "x"
    let plus := Nesting.sign .plus "+"
    let minus := Nesting.sign .minus "-"
    let stmt := Stmt.expression (.binary (.binary (.reference name) plus (.reference name)) plus
      (.unary minus (.reference name)))
    readStrict [name, plus, name, plus, minus, name, Nesting.sign .semicolon ";", .endOfInput 1] =
        .ok [stmt] ∧
      stmt.flatOnLeft = true ∧ stmt.height = 2 ∧ stmt.height ≤ maxNesting ∧ stmt.height ≤ 1998999 := by
  intro name plus minus stmt
  have reads : readStrict [name, plus, name, plus, minus, name, Nesting.sign .semicolon ";",
      .endOfInput 1] = .ok [stmt] := by cbv
  obtain ⟨limited, bounded, -⟩ := heights_read reads
  have listed : stmt ∈ [stmt] := List.mem_singleton_self stmt
  have flat : stmt.flatOnLeft = true := by decide
  exact ⟨reads, flat, rfl, limited stmt listed flat, bounded stmt listed⟩

/-- One less than the limit of parentheses, and two operators after them, are read, and the tree is higher
than the limit. -/
theorem limit_exceeded :
    let opening := List.replicate 999 (Nesting.sign .leftParen "(")
    let closing := List.replicate 999 (Nesting.sign .rightParen ")")
    let plus := Nesting.sign .plus "+"
    ∃ stmt, readStrict (opening ++ Nesting.one :: closing ++ [plus, Nesting.one, plus, Nesting.one] ++
        [Nesting.sign .semicolon ";", .endOfInput 1]) = .ok [stmt] ∧
      stmt.height = 1001 ∧ maxNesting < stmt.height := by
  intro opening closing plus
  obtain ⟨grouped, derived, levels, height⟩ := Nesting.grouped_derived 999
  have operand : Derives 4 _ grouped := derives_looser (by decide) derived
  obtain ⟨expr, chain, fits, -, high⟩ :=
    Nesting.chain_derived (by decide : 0 < 3) (by decide) (rfl : plus.kind.tightness = 3) operand 2
  rw [levels] at fits
  rw [height] at high
  have whole := derives_looser (Nat.zero_le _ : Rank.assignment ≤ 3) chain
  refine ⟨.expression expr, Nesting.readStrict_single whole ?_, high, ?_⟩
  · rw [fits]
    decide
  · show maxNesting < expr.height
    rw [high]
    decide

end Scriptlet
