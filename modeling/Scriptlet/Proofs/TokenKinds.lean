import Scriptlet.Proofs.Grammar

/-! What the grammar asks of the kinds of tokens alone. Tokens of the same kinds are sentences alike; and
in a sentence every equals sign stands behind a name that a declaration or an expression starts with,
which a look at the tokens before it tells. -/
namespace Scriptlet

/-! Tokens of the same kinds. -/

theorem leaf_kindred {token other : Token} {expr : Expr} (stands : Leaf token expr)
    (same : other.kind = token.kind) : ∃ another, Leaf other another := by
  cases stands with
  | no kind => exact ⟨_, .no (same.trans kind)⟩
  | yes kind => exact ⟨_, .yes (same.trans kind)⟩
  | nil kind => exact ⟨_, .nil (same.trans kind)⟩
  | integer kind => exact ⟨_, .integer (same.trans kind)⟩
  | float kind => exact ⟨_, .float (same.trans kind)⟩
  | string kind => exact ⟨_, .string (same.trans kind)⟩
  | name kind => exact ⟨_, .name (same.trans kind)⟩

/-- Tokens of the same kinds derive an expression of the same levels. -/
theorem derives_kindred {rank : Nat} {tokens : List Token} {expr : Expr}
    (derived : Derives rank tokens expr) {others : List Token}
    (same : others.map (·.kind) = tokens.map (·.kind)) :
    ∃ another, Derives rank others another ∧ another.levels = expr.levels ∧
      ∀ tightness, another.chainLength tightness = expr.chainLength tightness := by
  induction derived generalizing others with
  | leaf stands =>
    obtain ⟨other, rfl, kind⟩ := List.map_eq_singleton_iff.mp same
    obtain ⟨another, standsToo⟩ := leaf_kindred stands kind
    obtain ⟨-, -, -, levels, chains⟩ := leaf_facts stands
    obtain ⟨-, -, -, levelsToo, chainsToo⟩ := leaf_facts standsToo
    exact ⟨another, .leaf standsToo, levelsToo.trans levels.symm,
      fun tightness => (chainsToo tightness).trans (chains tightness).symm⟩
  | grouping opens closes _ ih =>
    rw [List.map_cons, List.map_append] at same
    obtain ⟨paren, rest, rfl, parenKind, same⟩ := List.map_eq_cons_iff.mp same
    obtain ⟨inner, last, rfl, innerKinds, same⟩ := List.map_eq_append_iff.mp same
    obtain ⟨close, rfl, closeKind⟩ := List.map_eq_singleton_iff.mp same
    obtain ⟨another, derivedToo, levels, -⟩ := ih innerKinds
    exact ⟨.grouping paren another, .grouping (parenKind.trans opens) (closeKind.trans closes) derivedToo,
      congrArg (· + 1) levels, fun _ => rfl⟩
  | unary sign _ ih =>
    rw [List.map_cons] at same
    obtain ⟨operator, operand, rfl, kind, same⟩ := List.map_eq_cons_iff.mp same
    obtain ⟨another, derivedToo, levels, -⟩ := ih same
    rw [← kind] at sign
    exact ⟨.unary operator another, .unary sign derivedToo, congrArg (· + 1) levels, fun _ => rfl⟩
  | binary joins binds _ _ leftIh rightIh =>
    rw [List.map_append, List.map_cons] at same
    obtain ⟨left, rest, rfl, leftKinds, same⟩ := List.map_eq_append_iff.mp same
    obtain ⟨operator, right, rfl, kind, same⟩ := List.map_eq_cons_iff.mp same
    obtain ⟨first, leftDerived, leftLevels, leftChains⟩ := leftIh leftKinds
    obtain ⟨second, rightDerived, rightLevels, -⟩ := rightIh same
    rw [← kind] at binds
    refine ⟨.binary first operator second, .binary joins binds leftDerived rightDerived, ?_, ?_⟩
    · simp only [Expr.levels, leftLevels, leftChains, rightLevels, kind]
    · intro tightness
      simp only [Expr.chainLength, leftChains, kind]
  | assign target sign _ ih =>
    obtain ⟨name, rest, rfl, nameKind, same⟩ := List.map_eq_cons_iff.mp same
    obtain ⟨equals, value, rfl, equalsKind, same⟩ := List.map_eq_cons_iff.mp same
    obtain ⟨another, derivedToo, levels, -⟩ := ih same
    exact ⟨.assign name another, .assign (nameKind.trans target) (equalsKind.trans sign) derivedToo,
      congrArg (· + 1) levels, fun _ => rfl⟩
  | tighter _ ih =>
    obtain ⟨another, derivedToo, levels, chains⟩ := ih same
    exact ⟨another, .tighter derivedToo, levels, chains⟩

theorem sentence_kindred {tokens : List Token} {statements : List Stmt}
    (sentence : Sentence tokens statements) {others : List Token}
    (same : others.map (·.kind) = tokens.map (·.kind)) :
    ∃ found, Sentence others found ∧ Stmt.allLevels found = Stmt.allLevels statements := by
  induction sentence generalizing others with
  | nil =>
    obtain rfl := List.map_eq_nil_iff.mp same
    exact ⟨[], .nil, rfl⟩
  | declaration declares named ends _ ih =>
    obtain ⟨keyword, _, rfl, keywordKind, same⟩ := List.map_eq_cons_iff.mp same
    obtain ⟨name, _, rfl, nameKind, same⟩ := List.map_eq_cons_iff.mp same
    obtain ⟨semicolon, rest, rfl, semicolonKind, same⟩ := List.map_eq_cons_iff.mp same
    obtain ⟨found, further, levels⟩ := ih same
    refine ⟨_, .declaration (keywordKind.trans declares) (nameKind.trans named)
      (semicolonKind.trans ends) further, ?_⟩
    simp [Stmt.allLevels, Stmt.levels, Expr.isImplicitNil, nameKind.trans named, named, levels]
  | definition declares named sign derived ends _ ih =>
    rw [List.map_cons, List.map_cons, List.map_cons, List.map_append, List.map_cons] at same
    obtain ⟨keyword, _, rfl, keywordKind, same⟩ := List.map_eq_cons_iff.mp same
    obtain ⟨name, _, rfl, nameKind, same⟩ := List.map_eq_cons_iff.mp same
    obtain ⟨equals, _, rfl, equalsKind, same⟩ := List.map_eq_cons_iff.mp same
    obtain ⟨value, _, rfl, valueKinds, same⟩ := List.map_eq_append_iff.mp same
    obtain ⟨semicolon, rest, rfl, semicolonKind, same⟩ := List.map_eq_cons_iff.mp same
    obtain ⟨found, further, levels⟩ := ih same
    obtain ⟨expr, derivedToo, exprLevels, -⟩ := derives_kindred derived valueKinds
    refine ⟨_, .definition (keywordKind.trans declares) (nameKind.trans named) (equalsKind.trans sign)
      derivedToo (semicolonKind.trans ends) further, ?_⟩
    simp only [Stmt.allLevels, Stmt.levels, derives_explicit derived, derives_explicit derivedToo,
      exprLevels, levels]
  | print prints derived ends _ ih =>
    rw [List.map_cons, List.map_append, List.map_cons] at same
    obtain ⟨keyword, _, rfl, keywordKind, same⟩ := List.map_eq_cons_iff.mp same
    obtain ⟨value, _, rfl, valueKinds, same⟩ := List.map_eq_append_iff.mp same
    obtain ⟨semicolon, rest, rfl, semicolonKind, same⟩ := List.map_eq_cons_iff.mp same
    obtain ⟨found, further, levels⟩ := ih same
    obtain ⟨expr, derivedToo, exprLevels, -⟩ := derives_kindred derived valueKinds
    refine ⟨_, .print (keywordKind.trans prints) derivedToo (semicolonKind.trans ends) further, ?_⟩
    simp only [Stmt.allLevels, Stmt.levels, exprLevels, levels]
  | expression derived ends _ ih =>
    rw [List.map_append, List.map_cons] at same
    obtain ⟨value, _, rfl, valueKinds, same⟩ := List.map_eq_append_iff.mp same
    obtain ⟨semicolon, rest, rfl, semicolonKind, same⟩ := List.map_eq_cons_iff.mp same
    obtain ⟨found, further, levels⟩ := ih same
    obtain ⟨expr, derivedToo, exprLevels, -⟩ := derives_kindred derived valueKinds
    refine ⟨_, .expression derivedToo (semicolonKind.trans ends) further, ?_⟩
    simp only [Stmt.allLevels, Stmt.levels, exprLevels, levels]
  | block opens _ closes _ innerIh ih =>
    rw [List.map_cons, List.map_append, List.map_cons] at same
    obtain ⟨brace, _, rfl, braceKind, same⟩ := List.map_eq_cons_iff.mp same
    obtain ⟨inner, _, rfl, innerKinds, same⟩ := List.map_eq_append_iff.mp same
    obtain ⟨close, rest, rfl, closeKind, same⟩ := List.map_eq_cons_iff.mp same
    obtain ⟨body, inside, bodyLevels⟩ := innerIh innerKinds
    obtain ⟨found, further, levels⟩ := ih same
    refine ⟨_, .block (braceKind.trans opens) inside (closeKind.trans closes) further, ?_⟩
    simp only [Stmt.allLevels, Stmt.levels, bodyLevels, levels]

/-! Where an equals sign may stand. -/

/-- What the tokens passed leave in front of an equals sign: nothing yet of an expression, a name that
starts one, or something that cannot be assigned to. -/
inductive Aim
  | start
  | name
  | other
deriving DecidableEq, Repr

namespace Aim

def starters : List TokenKind :=
  [.semicolon, .leftBrace, .rightBrace, .leftParen, .printWord, .letWord]

/-- Past one token; nowhere past an equals sign behind anything but a name. -/
def next (aim : Aim) (kind : TokenKind) : Option Aim :=
  if kind = .equal then if aim = .name then some .start else none
  else if kind = .identifier then some (if aim = .start then .name else .other)
  else some (if starters.contains kind then .start else .other)

def run (aim : Aim) : List Token → Option Aim
  | [] => some aim
  | token :: rest => (aim.next token.kind).bind (·.run rest)

theorem run_append (aim : Aim) (first second : List Token) :
    aim.run (first ++ second) = (aim.run first).bind (·.run second) := by
  induction first generalizing aim with
  | nil => rfl
  | cons token rest ih =>
    simp only [List.cons_append, run, ih]
    cases aim.next token.kind <;> rfl

theorem run_cons {aim after : Aim} {token : Token} (rest : List Token)
    (passes : aim.next token.kind = some after) : aim.run (token :: rest) = after.run rest := by
  rw [run, passes]
  rfl

theorem run_join {aim middle : Aim} {first : List Token} (second : List Token)
    (passes : aim.run first = some middle) : aim.run (first ++ second) = middle.run second := by
  rw [run_append, passes]
  rfl

theorem next_starter (aim : Aim) (kind : TokenKind) (starts : kind ∈ starters) :
    aim.next kind = some .start := by
  have notEqual : kind ≠ .equal := fun same => absurd (same ▸ starts) (by decide)
  have notName : kind ≠ .identifier := fun same => absurd (same ▸ starts) (by decide)
  simp [next, notEqual, notName, starts]

theorem next_other (aim : Aim) (kind : TokenKind)
    (other : kind ∉ TokenKind.equal :: .identifier :: starters) : aim.next kind = some .other := by
  simp only [List.mem_cons, not_or] at other
  simp [next, other.1, other.2.1, other.2.2]

theorem next_operand (aim : Aim) {token : Token} {expr : Expr} (stands : Leaf token expr) :
    ∃ after, aim.next token.kind = some after ∧
      (after = .name → aim = .start ∧ expr = .reference token) := by
  -- A name right behind an operand is none to assign to.
  cases stands with
  | name kind =>
    rw [kind]
    cases aim <;> simp [next]
  | no kind | yes kind | nil kind | integer kind | float kind | string kind =>
    rw [kind]
    exact ⟨.other, next_other aim _ (by decide), fun same => nomatch same⟩

theorem next_operator (aim : Aim) (kind : TokenKind)
    (operates : kind = .bang ∨ 0 < kind.tightness) : aim.next kind = some .other := by
  refine next_other aim kind fun listed => ?_
  rcases operates with rfl | binds
  · exact absurd listed (by decide)
  · simp only [starters, List.mem_cons, List.not_mem_nil, or_false] at listed
    rcases listed with rfl | rfl | rfl | rfl | rfl | rfl | rfl | rfl
    all_goals simp [TokenKind.tightness] at binds

end Aim

/-- An expression is passed; and where an equals sign could follow what is no assignment itself, that is a
name by itself. -/
theorem derives_aim {rank : Nat} {tokens : List Token} {expr : Expr}
    (derived : Derives rank tokens expr) (aim : Aim) (fresh : rank = 0 → aim = .start) :
    ∃ after, aim.run tokens = some after ∧
      (0 < rank → after = .name → aim = .start ∧ ∃ name, expr = .reference name) := by
  induction derived generalizing aim with
  | @leaf token expr stands =>
    obtain ⟨after, passes, named⟩ := aim.next_operand stands
    refine ⟨after, by rw [Aim.run_cons [] passes]; rfl, fun _ same => ?_⟩
    obtain ⟨starts, rfl⟩ := named same
    exact ⟨starts, token, rfl⟩
  | @grouping paren close inner expr opens closes _ ih =>
    obtain ⟨middle, passes, -⟩ := ih .start fun _ => rfl
    have opening := aim.next_starter paren.kind (by rw [opens]; decide)
    have closing := middle.next_other close.kind (by rw [closes]; decide)
    refine ⟨.other, ?_, fun _ same => nomatch same⟩
    rw [Aim.run_cons _ opening, Aim.run_join _ passes, Aim.run_cons _ closing]
    rfl
  | @unary operator operand expr sign _ ih =>
    obtain ⟨after, passes, named⟩ := ih .other fun same => nomatch same
    have signs := aim.next_operator operator.kind
      (sign.imp_right fun minus => by rw [minus]; decide)
    refine ⟨after, by rw [Aim.run_cons _ signs, passes], fun _ same => ?_⟩
    exact nomatch (named (by decide) same).1
  | @binary rank operator left right first second joins binds _ _ leftIh rightIh =>
    -- Behind the operator nothing can be assigned to, so whether a name is left last does not matter.
    obtain ⟨middle, passes, -⟩ := leftIh aim fun same => absurd joins (by omega)
    obtain ⟨after, passesToo, named⟩ := rightIh .other fun same => nomatch same
    have operates := middle.next_operator operator.kind (.inr (binds ▸ joins))
    refine ⟨after, ?_, fun _ same => ?_⟩
    · rw [Aim.run_join _ passes, Aim.run_cons _ operates, passesToo]
    · exact nomatch (named (Nat.succ_pos _) same).1
  | @assign name equals tokens value target sign _ ih =>
    obtain rfl := fresh rfl
    obtain ⟨after, passes, -⟩ := ih .start fun _ => rfl
    have names : Aim.start.next name.kind = some .name := by rw [target]; rfl
    have aims : Aim.name.next equals.kind = some .start := by rw [sign]; rfl
    refine ⟨after, ?_, fun above => absurd above (by decide)⟩
    rw [Aim.run_cons _ names, Aim.run_cons _ aims, passes]
  | tighter _ ih =>
    obtain ⟨after, passes, named⟩ := ih aim fun same => nomatch same
    exact ⟨after, passes, fun _ same => named (Nat.succ_pos _) same⟩

theorem sentence_aim {tokens : List Token} {statements : List Stmt}
    (sentence : Sentence tokens statements) : Aim.start.run tokens = some .start := by
  have starts (aim : Aim) {token : Token} {kind : TokenKind} (rest : List Token)
      (same : token.kind = kind) (starter : kind ∈ Aim.starters) :
      aim.run (token :: rest) = Aim.start.run rest :=
    Aim.run_cons rest (aim.next_starter _ (same ▸ starter))
  have value {tokens : List Token} {expr : Expr} (rest : List Token) {semicolon : Token}
      (derived : Derives Rank.assignment tokens expr) (ends : semicolon.kind = .semicolon) :
      Aim.start.run (tokens ++ semicolon :: rest) = Aim.start.run rest := by
    obtain ⟨after, passes, -⟩ := derives_aim derived .start fun _ => rfl
    rw [Aim.run_join _ passes, starts after rest ends (by decide)]
  have named {name : Token} (rest : List Token) (isName : name.kind = .identifier) :
      Aim.start.run (name :: rest) = Aim.name.run rest := Aim.run_cons rest (by rw [isName]; rfl)
  have aims {equals : Token} (rest : List Token) (sign : equals.kind = .equal) :
      Aim.name.run (equals :: rest) = Aim.start.run rest := Aim.run_cons rest (by rw [sign]; rfl)
  induction sentence with
  | nil => rfl
  | declaration declares isName ends _ ih =>
    rw [starts _ _ declares (by decide), named _ isName, starts _ _ ends (by decide), ih]
  | definition declares isName sign derived ends _ ih =>
    rw [starts _ _ declares (by decide), named _ isName,
      aims _ sign, value _ derived ends, ih]
  | print prints derived ends _ ih => rw [starts _ _ prints (by decide), value _ derived ends, ih]
  | expression derived ends _ ih => rw [value _ derived ends, ih]
  | block opens _ closes _ inner ih =>
    rw [starts _ _ opens (by decide), Aim.run_join _ inner, starts _ _ closes (by decide), ih]

/-- Every equals sign stands behind a name that an expression or a declaration starts with. -/
def aimed (tokens : List Token) : Bool := (Aim.start.run tokens).isSome

end Scriptlet
