import Scriptlet.Proofs.Soundness

/-! Every sentence of the grammar is read, and read as its tree, as long as there is room for the levels
it opens; with less room the only complaint is that it nests too deep. -/
namespace Scriptlet

def lastOf (last : Token) : List Token → Token
  | [] => last
  | token :: rest => lastOf token rest

@[simp] theorem lastOf_append (last : Token) (first second : List Token) :
    lastOf last (first ++ second) = lastOf (lastOf last first) second := by
  induction first generalizing last with
  | nil => rfl
  | cons token rest ih => exact ih token

/-- Reading stopped for want of room, and for nothing else. -/
def TooDeep {α : Type} (result : EStateM.Result SyntaxError Cursor α) : Prop :=
  ∃ error after, result = .error error after ∧
    (error.fault = .expressionTooDeep ∨ error.fault = .blockTooDeep)

/-- With room for the levels the result is the one expected; with less it is too deep. -/
def Needs {α : Type} (levels room : Nat) (result expected : EStateM.Result SyntaxError Cursor α) :
    Prop :=
  (levels ≤ room → result = expected) ∧ (room < levels → TooDeep result)

theorem tooDeep_expression {α : Type} (cursor : Cursor) :
    TooDeep ((Reader.failNext .expressionTooDeep : Reader α) cursor) :=
  ⟨_, _, rfl, .inl rfl⟩

theorem tooDeep_block {α : Type} (cursor : Cursor) :
    TooDeep ((Reader.failNext .blockTooDeep : Reader α) cursor) :=
  ⟨_, _, rfl, .inr rfl⟩

theorem tooDeep_bind {α β : Type} {first : Reader α} {cursor : Cursor} (next : α → Reader β)
    (deep : TooDeep (first cursor)) : TooDeep ((first >>= next) cursor) := by
  obtain ⟨error, after, fails, fault⟩ := deep
  exact ⟨error, after, bind_of_error next fails, fault⟩

theorem needs_congr {α : Type} {levels room others space : Nat}
    {result expected : EStateM.Result SyntaxError Cursor α} (needs : Needs levels room result expected)
    (same : levels ≤ room ↔ others ≤ space) : Needs others space result expected := by
  constructor
  · intro enough
    exact needs.1 (same.mpr enough)
  · intro short
    refine needs.2 (Nat.lt_of_not_le fun enough => ?_)
    exact absurd (same.mp enough) (Nat.not_le_of_lt short)

theorem needs_bind {α β : Type} {levels room : Nat} {first : Reader α} {cursor after : Cursor}
    {value : α} (next : α → Reader β) (needs : Needs levels room (first cursor) (.ok value after)) :
    Needs levels room ((first >>= next) cursor) (next value after) :=
  ⟨fun enough => bind_of_ok next (needs.1 enough), fun short => tooDeep_bind next (needs.2 short)⟩

theorem needs_then {α β : Type} {levels room : Nat} {first : Reader α} {cursor after : Cursor}
    {value : α} {next : α → Reader β} {expected : EStateM.Result SyntaxError Cursor β}
    (needs : Needs levels room (first cursor) (.ok value after)) (follows : next value after = expected) :
    Needs levels room ((first >>= next) cursor) expected :=
  follows ▸ needs_bind next needs

namespace Reader

def reading : Nat → Nat → Reader Expr
  | 0, room => assignment room
  | rank + 1, room => if rank < Rank.unary then operation (tiers.drop rank) room else primary room

/-- A token of the kind would be taken into an expression of the rank that it follows. -/
def Continues : Nat → TokenKind → Prop
  | 0, kind => kind = .equal ∨ 0 < kind.tightness
  | rank + 1, kind => rank + 1 ≤ kind.tightness

def Stops (rank : Nat) (rest : List Token) : Prop :=
  ∀ token, rest.head? = some token → ¬ Continues rank token.kind

theorem stops_tighter {rank : Nat} {rest : List Token} (stops : Stops rank rest) :
    Stops (rank + 1) rest := by
  intro token first continues
  refine stops token first ?_
  cases rank with
  | zero => exact .inr continues
  | succ rank => exact Nat.le_of_succ_le continues

theorem stops_cons {rank : Nat} {token : Token} (rest : List Token)
    (stops : ¬ Continues rank token.kind) : Stops rank (token :: rest) := by
  intro other first
  cases first
  exact stops

/-- Whatever follows that does not continue an expression of the rank, the tokens in front of it are
read as the expression. -/
def Finishes (rank : Nat) (tokens : List Token) (expr : Expr) : Prop :=
  ∀ room last rest final, Stops rank rest →
    Needs expr.levels room (reading rank room ⟨last, tokens ++ rest, final⟩)
      (.ok expr ⟨lastOf last tokens, rest, final⟩)

/-- Where an operator of the same tier may follow, the tokens are read as the left side of a chain that
has used up some of its room. -/
def Extends (rank : Nat) (tokens : List Token) (expr : Expr) : Prop :=
  ∀ operators tighter, tiers.drop rank = operators :: tighter →
    ∀ room last rest final, Stops (rank + 2) rest →
      Needs expr.levels room (operation (operators :: tighter) room ⟨last, tokens ++ rest, final⟩)
        (chain operators tighter (room - expr.chainLength (rank + 1)) expr
          ⟨lastOf last tokens, rest, final⟩)

theorem drop_tier {rank : Nat} {operators : List TokenKind} {tighter : List (List TokenKind)}
    (tier : tiers.drop rank = operators :: tighter) :
    operators :: tighter <:+ tiers ∧ rank < 4 ∧ tighter = tiers.drop (rank + 1) ∧
      ∀ kind, operators.contains kind = true ↔ kind.tightness = rank + 1 := by
  have suffix : operators :: tighter <:+ tiers := tier ▸ List.drop_suffix rank tiers
  have length : tighter.length + 1 = 4 - rank := by
    have := congrArg List.length tier
    simpa [tiers] using this.symm
  refine ⟨suffix, by omega, ?_, ?_⟩
  · rw [← List.drop_drop, tier]
    rfl
  · intro kind
    rw [List.contains_iff_mem, tier_tightness suffix]
    omega

theorem chain_stops {operators : List TokenKind} {tighter : List (List TokenKind)} {rank : Nat}
    (tier : tiers.drop rank = operators :: tighter) {rest : List Token} (stops : Stops (rank + 1) rest)
    (room : Nat) (left : Expr) (last final : Token) :
    chain operators tighter room left ⟨last, rest, final⟩ = .ok left ⟨last, rest, final⟩ := by
  have unseen : Cursor.sees ⟨last, rest, final⟩ operators = false := by
    cases rest with
    | nil => rfl
    | cons token rest =>
      rw [sees_cons]
      by_contra wanted
      have tightness := ((drop_tier tier).2.2.2 token.kind).mp (by simpa using wanted)
      exact stops token rfl (Nat.le_of_eq tightness.symm)
  rw [chain]
  exact bind_of_ok _ (accept_miss unseen)

theorem finishes_of_extends {rank : Nat} {tokens : List Token} {expr : Expr}
    (grows : Extends rank tokens expr) (inner : rank < 4) : Finishes (rank + 1) tokens expr := by
  intro room last rest final stops
  obtain ⟨operators, tighter, tier⟩ : ∃ operators tighter, tiers.drop rank = operators :: tighter :=
    ⟨_, _, List.drop_eq_getElem_cons inner⟩
  have reads := grows operators tighter tier room last rest final (stops_tighter stops)
  rw [chain_stops tier stops] at reads
  simpa only [reading, tier, Rank.unary, if_pos (Nat.lt_of_lt_of_le inner (by decide : 4 ≤ 5))]
    using reads

theorem extends_tighter {rank : Nat} {tokens : List Token} {expr : Expr}
    (finishes : Finishes (rank + 2) tokens expr) (single : expr.chainLength (rank + 1) = 0) :
    Extends rank tokens expr := by
  intro operators tighter tier room last rest final stops
  obtain ⟨-, inner, same, -⟩ := drop_tier tier
  have operand := finishes room last rest final stops
  have within : rank + 1 < Rank.unary := Nat.succ_lt_succ inner
  simp only [reading, within, if_true, ← same] at operand
  rw [operation, single]
  exact needs_bind (chain operators tighter room) operand

theorem extends_binary {rank : Nat} {left right : List Token} {operator : Token} {first second : Expr}
    (binds : operator.kind.tightness = rank + 1) (grows : Extends rank left first)
    (finishes : Finishes (rank + 2) right second) :
    Extends rank (left ++ operator :: right) (.binary first operator second) := by
  -- One more operator: the chain reads its right side with one level less than it has left.
  intro operators tighter tier room last rest final stops
  obtain ⟨-, inner, same, chosen⟩ := drop_tier tier
  have joined : Stops (rank + 2) (operator :: (right ++ rest)) :=
    stops_cons _ fun continues => by simp only [Continues, binds] at continues; omega
  have before := grows operators tighter tier room last (operator :: (right ++ rest)) final joined
  have hit := accept_hit (lastOf last left) final (right ++ rest) ((chosen operator.kind).mpr binds)
  have spent : (Expr.binary first operator second).chainLength (rank + 1) =
      first.chainLength (rank + 1) + 1 := by simp [Expr.chainLength, binds]
  have levels : (Expr.binary first operator second).levels =
      Nat.max first.levels (first.chainLength (rank + 1) + 1 + second.levels) := by
    simp [Expr.levels, binds]
  rw [List.append_assoc, List.cons_append, lastOf_append, spent, levels]
  -- The left side may already be too deep; if not, each of its operators has used up one level.
  by_cases fits : first.levels ≤ room
  · rw [before.1 fits, chain, bind_of_ok _ hit]
    cases left : room - first.chainLength (rank + 1) with
    | zero =>
      refine ⟨fun enough => ?_, fun _ => tooDeep_expression _⟩
      have := (Nat.max_le.mp enough).2
      omega
    | succ less =>
      have operand := finishes less operator rest final stops
      have within : rank + 1 < Rank.unary := Nat.succ_lt_succ inner
      simp only [reading, within, if_true, ← same] at operand
      have remaining : room - (first.chainLength (rank + 1) + 1) = less := by omega
      rw [remaining]
      refine needs_congr (needs_bind _ operand) ?_
      rw [Nat.max_le]
      omega
  · have deep := before.2 (Nat.lt_of_not_le fits)
    exact ⟨fun enough => absurd (Nat.max_le.mp enough).1 fits, fun _ => deep⟩

theorem finishes_leaf {token : Token} {expr : Expr} (stands : Leaf token expr) :
    Finishes Rank.primary [token] expr := by
  intro room last rest final _
  obtain ⟨-, -, -, levels, -⟩ := leaf_facts stands
  rw [levels]
  refine ⟨fun _ => ?_, fun short => absurd short (Nat.not_lt_zero room)⟩
  show primary room _ = _
  rw [primary]
  simp only [List.cons_append, List.nil_append, atom_of_leaf stands]
  rfl

theorem expression_finishes {tokens : List Token} {expr : Expr}
    (finishes : Finishes Rank.assignment tokens expr) (room : Nat) (last final : Token)
    {rest : List Token} (stops : Stops Rank.assignment rest) :
    Needs (expr.levels + 1) room (expression room ⟨last, tokens ++ rest, final⟩)
      (.ok expr ⟨lastOf last tokens, rest, final⟩) := by
  -- A whole expression is one level, and what is inside it has one less.
  cases room with
  | zero =>
    rw [expression]
    exact ⟨fun enough => absurd enough (Nat.not_succ_le_zero _), fun _ => tooDeep_expression _⟩
  | succ less =>
    rw [expression]
    exact needs_congr (finishes less last rest final stops) Nat.succ_le_succ_iff.symm

theorem finishes_grouping {paren close : Token} {inner : List Token} {expr : Expr}
    (opens : paren.kind = .leftParen) (closes : close.kind = .rightParen)
    (finishes : Finishes Rank.assignment inner expr) :
    Finishes Rank.primary (paren :: (inner ++ [close])) (.grouping paren expr) := by
  intro room last rest final _
  have ends : Stops Rank.assignment (close :: rest) :=
    stops_cons rest (by simp [Continues, closes, TokenKind.tightness])
  have reads := needs_bind (fun inner => do
    let _ ← expect .rightParen .parenAfterExpression
    pure (Expr.grouping paren inner)) (expression_finishes finishes room paren final ends)
  have closing := expect_hit .parenAfterExpression (lastOf paren inner) final rest closes
  rw [bind_of_ok _ closing] at reads
  have plain : atom? paren = none := by simp [atom?, opens]
  show Needs _ room (primary room _) _
  rw [primary]
  simp only [List.cons_append, List.append_assoc, List.nil_append, plain, opens, if_true, lastOf,
    lastOf_append]
  exact reads

theorem finishes_unary {operator : Token} {operand : List Token} {expr : Expr}
    (sign : operator.kind = .bang ∨ operator.kind = .minus)
    (finishes : Finishes Rank.unary operand expr) :
    Finishes Rank.unary (operator :: operand) (.unary operator expr) := by
  intro room last rest final stops
  have wanted : [TokenKind.bang, .minus].contains operator.kind = true := by simpa using sign
  have hit := accept_hit last final (operand ++ rest) wanted
  show Needs _ room (operation [] room _) _
  rw [operation, unary, List.cons_append, bind_of_ok _ hit]
  cases room with
  | zero => exact ⟨fun enough => absurd enough (Nat.not_succ_le_zero _), fun _ => tooDeep_expression _⟩
  | succ less =>
    have reads : Needs expr.levels less (operation [] less ⟨operator, operand ++ rest, final⟩)
        (.ok expr ⟨lastOf operator operand, rest, final⟩) := finishes less operator rest final stops
    rw [operation] at reads
    exact needs_congr (needs_bind (fun inner => pure (Expr.unary operator inner)) reads)
      Nat.succ_le_succ_iff.symm

theorem tightness_le (kind : TokenKind) : kind.tightness ≤ 4 := by
  cases kind <;> simp [TokenKind.tightness]

theorem rank_le (expr : Expr) : expr.rank ≤ Rank.primary := by
  cases expr with
  | binary left operator right => exact Nat.le_trans (tightness_le operator.kind) (by decide)
  | _ => simp [Expr.rank, Rank.assignment, Rank.unary, Rank.primary]

theorem chainLength_zero {expr : Expr} {tightness : Nat} (looser : tightness < expr.rank) :
    expr.chainLength tightness = 0 := by
  cases expr with
  | binary left operator right =>
    have differs : operator.kind.tightness ≠ tightness := Nat.ne_of_gt looser
    simp [Expr.chainLength, differs]
  | _ => rfl

theorem primary_head {tokens : List Token} {expr : Expr} (derived : Derives 6 tokens expr) :
    ∃ token rest, tokens = token :: rest ∧ [TokenKind.bang, .minus].contains token.kind = false := by
  -- No operand starts with a sign.
  generalize same : 6 = rank at derived
  cases derived with
  | leaf stands => exact ⟨_, [], rfl, by cases stands <;> simp [*]⟩
  | grouping opens closes inner => exact ⟨_, _, rfl, by simp [opens]⟩
  | unary | assign => cases same
  | @binary _ operator _ _ _ _ joins binds =>
    have := tightness_le operator.kind
    omega
  | tighter deeper =>
    have above := Nat.le_trans (derives_rank deeper).1 (rank_le expr)
    simp only [Rank.primary] at above
    omega

theorem finishes_sign {tokens : List Token} {expr : Expr} (derived : Derives Rank.primary tokens expr)
    (finishes : Finishes Rank.primary tokens expr) : Finishes Rank.unary tokens expr := by
  intro room last rest final stops
  obtain ⟨token, others, rfl, plain⟩ := primary_head derived
  have miss : Cursor.sees ⟨last, token :: others ++ rest, final⟩ [.bang, .minus] = false := plain
  show Needs _ room (operation [] room _) _
  rw [operation, unary, bind_of_ok _ (accept_miss miss)]
  exact finishes room last rest final (stops_tighter stops)

theorem finishes_value {tokens : List Token} {expr : Expr} (finishes : Finishes 1 tokens expr) :
    Finishes Rank.assignment tokens expr := by
  intro room last rest final stops
  have operand := finishes room last rest final (stops_tighter stops)
  have miss : Cursor.sees ⟨lastOf last tokens, rest, final⟩ [.equal] = false := by
    cases rest with
    | nil => rfl
    | cons token rest =>
      rw [sees_cons]
      have other := stops token rfl
      simp only [Continues, not_or] at other
      simpa using other.1
  show Needs _ room (assignment room _) _
  rw [assignment]
  exact needs_then operand (bind_of_ok _ (accept_miss miss))

theorem finishes_tighter {rank : Nat} {tokens : List Token} {expr : Expr}
    (derived : Derives (rank + 1) tokens expr) (finishes : Finishes (rank + 1) tokens expr) :
    Finishes rank tokens expr := by
  have bound := (derives_rank derived).1
  have highest := rank_le expr
  simp only [Rank.primary] at highest
  match rank with
  | 0 => exact finishes_value finishes
  | lower + 1 =>
    -- A tier of operators tries for a chain and finds none; below the tiers only a sign is tried for.
    by_cases inner : lower < 4
    · exact finishes_of_extends (extends_tighter finishes (chainLength_zero (by omega))) inner
    · obtain rfl : lower = 4 := by omega
      exact finishes_sign derived finishes

theorem name_finishes {name : Token} (named : name.kind = .identifier) :
    Finishes 1 [name] (.reference name) := by
  have primary : Derives 6 [name] (.reference name) := .leaf (.name named)
  have unary : Derives 5 [name] (.reference name) := .tighter primary
  have factor : Derives 4 [name] (.reference name) := .tighter unary
  have term : Derives 3 [name] (.reference name) := .tighter factor
  have comparison : Derives 2 [name] (.reference name) := .tighter term
  exact finishes_tighter comparison (finishes_tighter term (finishes_tighter factor
    (finishes_tighter unary (finishes_tighter primary (finishes_leaf (.name named))))))

theorem finishes_assign {name equals : Token} {tokens : List Token} {value : Expr}
    (named : name.kind = .identifier) (sign : equals.kind = .equal)
    (finishes : Finishes Rank.assignment tokens value) :
    Finishes Rank.assignment (name :: equals :: tokens) (.assign name value) := by
  intro room last rest final stops
  have joined : Stops 1 (equals :: (tokens ++ rest)) :=
    stops_cons _ (by simp [Continues, sign, TokenKind.tightness])
  have target := name_finishes named room last (equals :: (tokens ++ rest)) final joined
  have wanted : [TokenKind.equal].contains equals.kind = true := by simp [sign]
  have hit := accept_hit name final (tokens ++ rest) wanted
  show Needs _ room (assignment room _) _
  rw [assignment]
  have reads : operation tiers room ⟨last, name :: equals :: (tokens ++ rest), final⟩ =
      .ok (.reference name) ⟨name, equals :: (tokens ++ rest), final⟩ := target.1 (Nat.zero_le room)
  rw [List.cons_append, List.cons_append, bind_of_ok _ reads, bind_of_ok _ hit]
  cases room with
  | zero => exact ⟨fun enough => absurd enough (Nat.not_succ_le_zero _), fun _ => tooDeep_expression _⟩
  | succ less =>
    exact needs_congr (needs_bind _ (finishes less equals rest final stops)) Nat.succ_le_succ_iff.symm

theorem extends_beyond {rank : Nat} (tokens : List Token) (expr : Expr) (beyond : 4 ≤ rank) :
    Extends rank tokens expr := by
  intro operators tighter tier
  exact absurd (drop_tier tier).2.1 (Nat.not_lt_of_le beyond)

/-- Whatever the grammar derives is read as it is derived. -/
theorem derives_finishes {rank : Nat} {tokens : List Token} {expr : Expr}
    (derived : Derives rank tokens expr) : Finishes rank tokens expr := by
  -- A chain is finished by what follows it, but it grows from what may yet be followed by an operator.
  suffices both : Finishes rank tokens expr ∧ ∀ lower, rank = lower + 1 → Extends lower tokens expr from
    both.1
  induction derived with
  | leaf stands =>
    refine ⟨finishes_leaf stands, ?_⟩
    rintro lower same
    exact extends_beyond _ _ (by simp only [Rank.primary] at same; omega)
  | grouping opens closes _ ih =>
    refine ⟨finishes_grouping opens closes ih.1, ?_⟩
    rintro lower same
    exact extends_beyond _ _ (by simp only [Rank.primary] at same; omega)
  | unary sign _ ih =>
    refine ⟨finishes_unary sign ih.1, ?_⟩
    rintro lower same
    exact extends_beyond _ _ (by simp only [Rank.unary] at same; omega)
  | @binary rank operator left right first second joins binds _ _ leftIh rightIh =>
    obtain ⟨lower, rfl⟩ : ∃ lower, rank = lower + 1 := ⟨rank - 1, by omega⟩
    have grows := extends_binary binds (leftIh.2 lower rfl) rightIh.1
    have inner : lower < 4 := by
      have := tightness_le operator.kind
      omega
    refine ⟨finishes_of_extends grows inner, ?_⟩
    rintro other same
    obtain rfl := Nat.succ.inj same
    exact grows
  | assign target sign _ ih =>
    exact ⟨finishes_assign target sign ih.1, fun lower same => absurd same (Nat.succ_ne_zero lower).symm⟩
  | @tighter rank tokens expr derived ih =>
    refine ⟨finishes_tighter derived ih.1, ?_⟩
    rintro lower rfl
    exact extends_tighter ih.1 (chainLength_zero (derives_rank derived).1)

theorem expression_complete {tokens : List Token} {expr : Expr}
    (derived : Derives Rank.assignment tokens expr) {semicolon : Token}
    (ends : semicolon.kind = .semicolon) (room : Nat) (last final : Token) (rest : List Token) :
    Needs (expr.levels + 1) room (expression room ⟨last, tokens ++ semicolon :: rest, final⟩)
      (.ok expr ⟨lastOf last tokens, semicolon :: rest, final⟩) :=
  expression_finishes (derives_finishes derived) room last final
    (stops_cons rest (by simp [Continues, ends, TokenKind.tightness]))

def openers : List TokenKind := .leftParen :: .bang :: .minus :: leafKinds

theorem derives_head {rank : Nat} {tokens : List Token} {expr : Expr}
    (derived : Derives rank tokens expr) :
    ∃ token rest, tokens = token :: rest ∧ token.kind ∈ openers := by
  induction derived with
  | leaf stands => exact ⟨_, [], rfl, by cases stands <;> simp [openers, leafKinds, *]⟩
  | grouping opens => exact ⟨_, _, rfl, by simp [openers, opens]⟩
  | unary sign => exact ⟨_, _, rfl, by rcases sign with sign | sign <;> simp [openers, sign]⟩
  | binary _ _ _ _ left _ =>
    obtain ⟨token, rest, rfl, opens⟩ := left
    exact ⟨token, _, rfl, opens⟩
  | assign named => exact ⟨_, _, rfl, by simp [openers, leafKinds, named]⟩
  | tighter _ ih => exact ih

def StatementReads (tokens : List Token) (stmt : Stmt) : Prop :=
  ∀ room last rest final, Needs stmt.levels room (statement room ⟨last, tokens ++ rest, final⟩)
    (.ok stmt ⟨lastOf last tokens, rest, final⟩)

theorem statement_simple {room : Nat} {cursor : Cursor} (plain : cursor.sees [.leftBrace] = false) :
    statement room cursor = simpleStatement room cursor := by
  cases room with
  | zero => exact bind_of_ok _ (accept_miss plain)
  | succ room => exact bind_of_ok _ (accept_miss plain)

theorem statement_let {keyword : Token} (declares : keyword.kind = .letWord) (room : Nat)
    (last final : Token) (rest : List Token) :
    statement room ⟨last, keyword :: rest, final⟩ = letStatement room ⟨keyword, rest, final⟩ := by
  have hit : [TokenKind.letWord].contains keyword.kind = true := by simp [declares]
  rw [statement_simple (by simp [sees_cons, declares])]
  exact bind_of_ok _ (accept_hit last final rest hit)

theorem statement_print {keyword : Token} (prints : keyword.kind = .printWord) (room : Nat)
    (last final : Token) (rest : List Token) :
    statement room ⟨last, keyword :: rest, final⟩ =
      printStatement keyword room ⟨keyword, rest, final⟩ := by
  have miss : Cursor.sees ⟨last, keyword :: rest, final⟩ [.letWord] = false := by
    simp [sees_cons, prints]
  have hit : [TokenKind.printWord].contains keyword.kind = true := by simp [prints]
  rw [statement_simple (by simp [sees_cons, prints]), simpleStatement, bind_of_ok _ (accept_miss miss)]
  exact bind_of_ok _ (accept_hit last final rest hit)

theorem statement_expression {token : Token} (opens : token.kind ∈ openers) (room : Nat)
    (last final : Token) (rest : List Token) :
    statement room ⟨last, token :: rest, final⟩ =
      expressionStatement room ⟨last, token :: rest, final⟩ := by
  have unseen (kind : TokenKind) (other : kind ∉ openers) :
      Cursor.sees ⟨last, token :: rest, final⟩ [kind] = false := by
    have differs : token.kind ≠ kind := fun same => other (same ▸ opens)
    simpa [sees_cons] using differs
  rw [statement_simple (unseen _ (by decide)), simpleStatement,
    bind_of_ok _ (accept_miss (unseen _ (by decide)))]
  exact bind_of_ok _ (accept_miss (unseen _ (by decide)))

theorem declaration_reads {keyword name semicolon : Token} (declares : keyword.kind = .letWord)
    (named : name.kind = .identifier) (ends : semicolon.kind = .semicolon) :
    StatementReads [keyword, name, semicolon] (.letIn name (.nil name)) := by
  intro room last rest final
  have omitted : (Expr.nil name).isImplicitNil = true := beq_iff_eq.mpr named
  have none : (Stmt.letIn name (.nil name)).levels = 0 := by simp [Stmt.levels, omitted]
  rw [none]
  refine ⟨fun _ => ?_, fun short => absurd short (Nat.not_lt_zero room)⟩
  have miss : Cursor.sees ⟨name, semicolon :: rest, final⟩ [.equal] = false := by
    simp [sees_cons, ends]
  have hit : [TokenKind.semicolon].contains semicolon.kind = true := by simp [ends]
  show statement room ⟨last, keyword :: name :: semicolon :: rest, final⟩ = _
  rw [statement_let declares, letStatement,
    bind_of_ok _ (expect_hit .variableName keyword final (semicolon :: rest) named),
    bind_of_ok _ (accept_miss miss)]
  exact bind_of_ok _ (accept_hit name final rest hit)

theorem definition_reads {keyword name equals semicolon : Token} {value : List Token} {expr : Expr}
    (declares : keyword.kind = .letWord) (named : name.kind = .identifier)
    (sign : equals.kind = .equal) (derived : Derives Rank.assignment value expr)
    (ends : semicolon.kind = .semicolon) :
    StatementReads (keyword :: name :: equals :: (value ++ [semicolon])) (.letIn name expr) := by
  intro room last rest final
  have levels : (Stmt.letIn name expr).levels = expr.levels + 1 := by
    simp [Stmt.levels, derives_explicit derived]
  have assigns : [TokenKind.equal].contains equals.kind = true := by simp [sign]
  have hit : [TokenKind.semicolon].contains semicolon.kind = true := by simp [ends]
  rw [levels]
  simp only [List.cons_append, List.append_assoc, List.nil_append, lastOf, lastOf_append]
  rw [statement_let declares, letStatement,
    bind_of_ok _ (expect_hit .variableName keyword final (equals :: (value ++ semicolon :: rest)) named),
    bind_of_ok _ (accept_hit name final (value ++ semicolon :: rest) assigns)]
  refine needs_then (expression_complete derived ends room equals final rest) ?_
  exact bind_of_ok _ (accept_hit _ final rest hit)

theorem print_reads {keyword semicolon : Token} {value : List Token} {expr : Expr}
    (prints : keyword.kind = .printWord) (derived : Derives Rank.assignment value expr)
    (ends : semicolon.kind = .semicolon) :
    StatementReads (keyword :: (value ++ [semicolon])) (.print keyword expr) := by
  intro room last rest final
  simp only [List.cons_append, List.append_assoc, List.nil_append, lastOf, lastOf_append]
  rw [statement_print prints]
  refine needs_then (expression_complete derived ends room keyword final rest) ?_
  exact bind_of_ok _ (expect_hit _ _ final rest ends)

theorem expression_statement_reads {semicolon : Token} {value : List Token} {expr : Expr}
    (derived : Derives Rank.assignment value expr) (ends : semicolon.kind = .semicolon) :
    StatementReads (value ++ [semicolon]) (.expression expr) := by
  intro room last rest final
  obtain ⟨token, others, rfl, opens⟩ := derives_head derived
  have reads := expression_complete derived ends room last final rest
  simp only [List.cons_append, List.append_assoc, List.nil_append, lastOf, lastOf_append] at reads ⊢
  rw [statement_expression opens]
  exact needs_then reads (bind_of_ok _ (expect_hit _ _ final rest ends))

/-- Statements are read up to `rest`: the stop is there and nowhere before a statement. -/
structure StopsAt (stop : Cursor → Bool) (rest : List Token) (final : Token) : Prop where
  quiet : ∀ cursor : Cursor, cursor.sees [.rightBrace] = false → stop cursor = false
  ends : ∀ last, (Cursor.atEnd ⟨last, rest, final⟩ || stop ⟨last, rest, final⟩) = true

def SentenceReads (tokens : List Token) (statements : List Stmt) : Prop :=
  ∀ stop room last rest final, StopsAt stop rest final →
    Needs (Stmt.allLevels statements) room
      (statementsUntil stop (statement room) ⟨last, tokens ++ rest, final⟩)
      (.ok statements ⟨lastOf last tokens, rest, final⟩)

theorem sentence_nil_reads : SentenceReads [] [] := by
  intro stop room last rest final stopsAt
  refine ⟨fun _ => ?_, fun short => absurd short (Nat.not_lt_zero room)⟩
  rw [statementsUntil]
  exact if_pos (stopsAt.ends last)

theorem sentence_cons_reads {token : Token} {first others : List Token} {stmt : Stmt}
    {statements : List Stmt} (opens : token.kind ≠ .rightBrace)
    (reads : StatementReads (token :: first) stmt) (follows : SentenceReads others statements) :
    SentenceReads (token :: (first ++ others)) (stmt :: statements) := by
  intro stop room last rest final stopsAt
  have head := reads room last (others ++ rest) final
  have tail := follows stop room (lastOf token first) rest final stopsAt
  have goesOn : ¬ (Cursor.atEnd ⟨last, token :: (first ++ (others ++ rest)), final⟩ ||
      stop ⟨last, token :: (first ++ (others ++ rest)), final⟩) = true := by
    have quiet := stopsAt.quiet ⟨last, token :: (first ++ (others ++ rest)), final⟩
      (by simpa [sees_cons] using opens)
    simp [Cursor.atEnd, quiet]
  have shorter : (others ++ rest).length < (token :: (first ++ (others ++ rest))).length := by
    simp only [List.length_cons, List.length_append]
    omega
  simp only [List.cons_append, List.append_assoc, lastOf, lastOf_append] at head ⊢
  rw [statementsUntil, if_neg goesOn]
  -- Either the first statement is too deep, or one of the others, or there is room for all.
  by_cases fits : stmt.levels ≤ room
  · rw [head.1 fits]
    simp only [shorter, if_true]
    by_cases more : Stmt.allLevels statements ≤ room
    · rw [tail.1 more]
      exact ⟨fun _ => rfl, fun short => absurd (Nat.max_le.mpr ⟨fits, more⟩) (Nat.not_le_of_lt short)⟩
    · obtain ⟨error, after, fails, fault⟩ := tail.2 (Nat.lt_of_not_le more)
      rw [fails]
      exact ⟨fun enough => absurd (Nat.max_le.mp enough).2 more, fun _ => ⟨error, after, rfl, fault⟩⟩
  · obtain ⟨error, after, fails, fault⟩ := head.2 (Nat.lt_of_not_le fits)
    rw [fails]
    exact ⟨fun enough => absurd (Nat.max_le.mp enough).1 fits, fun _ => ⟨error, after, rfl, fault⟩⟩

theorem block_reads {brace close : Token} {inner : List Token} {body : List Stmt}
    (opens : brace.kind = .leftBrace) (reads : SentenceReads inner body)
    (closes : close.kind = .rightBrace) :
    StatementReads (brace :: (inner ++ [close])) (.block brace body) := by
  intro room last rest final
  have wanted : [TokenKind.leftBrace].contains brace.kind = true := by simp [opens]
  have hit := accept_hit last final (inner ++ close :: rest) wanted
  simp only [List.cons_append, List.append_assoc, List.nil_append, lastOf, lastOf_append]
  cases room with
  | zero =>
    rw [statement, bind_of_ok _ hit]
    exact ⟨fun enough => absurd enough (Nat.not_succ_le_zero _), fun _ => tooDeep_block _⟩
  | succ less =>
    have stopsAt : StopsAt closesBlock (close :: rest) final :=
      ⟨fun cursor plain => plain, fun last => by simp [closesBlock, sees_cons, closes]⟩
    have inside := reads closesBlock less brace (close :: rest) final stopsAt
    rw [statement, bind_of_ok _ hit]
    refine needs_congr (needs_then inside ?_) Nat.succ_le_succ_iff.symm
    exact bind_of_ok _ (expect_hit _ _ final rest closes)

theorem sentence_complete {tokens : List Token} {statements : List Stmt}
    (sentence : Sentence tokens statements) : SentenceReads tokens statements := by
  induction sentence with
  | nil => exact sentence_nil_reads
  | declaration declares named ends _ ih =>
    exact sentence_cons_reads (by simp [declares]) (declaration_reads declares named ends) ih
  | definition declares named sign derived ends _ ih =>
    have reads := sentence_cons_reads (by simp [declares])
      (definition_reads declares named sign derived ends) ih
    simpa using reads
  | print prints derived ends _ ih =>
    have reads := sentence_cons_reads (by simp [prints]) (print_reads prints derived ends) ih
    simpa using reads
  | expression derived ends _ ih =>
    obtain ⟨token, others, rfl, opens⟩ := derives_head derived
    have other : token.kind ≠ .rightBrace := fun same => absurd (same ▸ opens) (by decide)
    have reads := sentence_cons_reads other (expression_statement_reads derived ends) ih
    simpa using reads
  | block opens _ closes _ inner ih =>
    have reads := sentence_cons_reads (by simp [opens]) (block_reads opens inner closes) ih
    simpa using reads

end Reader

/-- A sentence is read as its tree if its levels fit, and refused as too deep if they do not. -/
theorem readStrict_complete {tokens : List Token} {final : Token} {statements : List Stmt}
    (inner : ∀ token ∈ tokens, token.isEnd = false) (ends : final.isEnd = true)
    (sentence : Sentence tokens statements) :
    (Stmt.allLevels statements ≤ maxNesting → readStrict (tokens ++ [final]) = .ok statements) ∧
    (maxNesting < Stmt.allLevels statements → ∃ error, readStrict (tokens ++ [final]) = .error error ∧
      (error.fault = .expressionTooDeep ∨ error.fault = .blockTooDeep)) := by
  have stopsAt : Reader.StopsAt (fun _ => false) [] final := ⟨fun _ _ => rfl, fun _ => rfl⟩
  have reads := Reader.sentence_complete sentence (fun _ => false) maxNesting (tokens.headD final) []
    final stopsAt
  rw [List.append_nil] at reads
  unfold readStrict
  rw [ofTokens_whole inner ends]
  constructor
  · intro enough
    rw [reads.1 enough]
  · intro short
    obtain ⟨error, after, fails, fault⟩ := reads.2 short
    rw [fails]
    exact ⟨error, rfl, fault⟩

/-- The grammar is unambiguous: with room for both trees, reading finds either. -/
theorem sentence_unique {tokens : List Token} {first second : List Stmt}
    (one : Sentence tokens first) (other : Sentence tokens second) : first = second := by
  have stopsAt : Reader.StopsAt (fun _ => false) [] .nowhere := ⟨fun _ _ => rfl, fun _ => rfl⟩
  let room := Nat.max (Stmt.allLevels first) (Stmt.allLevels second)
  have asFirst := Reader.sentence_complete one (fun _ => false) room .nowhere [] .nowhere stopsAt
  have asSecond := Reader.sentence_complete other (fun _ => false) room .nowhere [] .nowhere stopsAt
  have same := (asFirst.1 (Nat.le_max_left ..)).symm.trans (asSecond.1 (Nat.le_max_right ..))
  cases same
  rfl

/-- Reading decides the grammar. What it returns is the one tree of the tokens: in order, each token kept
in the tree is the token at its place, each token that is not has the kind its place demands, and every
operand binds as its operator asks. Every sentence is returned as its tree, unless it opens more levels
than are allowed, and then that is what is reported. -/
theorem reading_decides_grammar {tokens : List Token} {final : Token}
    (inner : ∀ token ∈ tokens, token.isEnd = false) (ends : final.isEnd = true) :
    (∀ statements, readStrict (tokens ++ [final]) = .ok statements →
      Sentence tokens statements ∧ (∀ other, Sentence tokens other → other = statements) ∧
        List.Forall₂ Slot.Fits (Stmt.allSlots statements) tokens ∧
        Stmt.allWellBound statements = true) ∧
    ∀ statements, Sentence tokens statements →
      (Stmt.allLevels statements ≤ maxNesting ∧ readStrict (tokens ++ [final]) = .ok statements) ∨
      (maxNesting < Stmt.allLevels statements ∧ ∃ error, readStrict (tokens ++ [final]) = .error error ∧
        (error.fault = .expressionTooDeep ∨ error.fault = .blockTooDeep)) := by
  constructor
  · intro statements success
    have sentence := readStrict_sentence inner ends success
    exact ⟨sentence, fun _ other => sentence_unique other sentence, sentence_slots sentence,
      sentence_wellBound sentence⟩
  · intro statements sentence
    obtain ⟨fits, deep⟩ := readStrict_complete inner ends sentence
    rcases Nat.lt_or_ge maxNesting (Stmt.allLevels statements) with short | enough
    · exact .inr ⟨short, deep short⟩
    · exact .inl ⟨enough, fits enough⟩

/-- Of `x = a - b - c;` the chain leans left under the assignment. -/
theorem reading_decides_grammar_chain :
    let name (lexeme : String) : Token := ⟨.identifier, lexeme, "", 1⟩
    let sign (kind : TokenKind) (lexeme : String) : Token := ⟨kind, lexeme, lexeme, 1⟩
    let minus := sign .minus "-"
    let tokens := [name "x", sign .equal "=", name "a", minus, name "b", minus, name "c",
      sign .semicolon ";"]
    (∀ token ∈ tokens, token.isEnd = false) ∧ (Token.endOfInput 1).isEnd = true ∧
    readStrict (tokens ++ [.endOfInput 1]) = .ok [.expression (.assign (name "x")
      (.binary (.binary (.reference (name "a")) minus (.reference (name "b"))) minus
        (.reference (name "c"))))] := by
  intro name sign minus tokens
  have inner : ∀ token ∈ tokens, token.isEnd = false := by decide
  have ends : (Token.endOfInput 1).isEnd = true := rfl
  have leaf (lexeme : String) : Derives 6 [name lexeme] (.reference (name lexeme)) := .leaf (.name rfl)
  have factor (lexeme : String) : Derives 4 [name lexeme] (.reference (name lexeme)) :=
    .tighter (.tighter (leaf lexeme))
  have first := Derives.binary (by decide : 0 < 3) (rfl : minus.kind.tightness = 3)
    (.tighter (factor "a")) (factor "b")
  have chain := Derives.binary (by decide : 0 < 3) (rfl : minus.kind.tightness = 3) first (factor "c")
  have assigned := Derives.assign (rfl : (name "x").kind = .identifier)
    (rfl : (sign .equal "=").kind = .equal) (.tighter (.tighter (.tighter chain)))
  have sentence := Sentence.expression assigned (rfl : (sign .semicolon ";").kind = .semicolon) .nil
  refine ⟨inner, ends, ?_⟩
  rcases (reading_decides_grammar inner ends).2 _ sentence with ⟨_, read⟩ | ⟨deep, _⟩
  · exact read
  · exact absurd deep (by decide)

end Scriptlet
