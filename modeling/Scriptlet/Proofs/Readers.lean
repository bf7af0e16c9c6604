import Scriptlet.Proofs.Sequencing
import Scriptlet.Syntax.Recovery

/-! How readers are put together. Each reader is built from steps that look at one token, from failures
and from sequencing, and each of these parts has its equations here: what it does where it succeeds, and
what it does where it does not. -/
namespace Scriptlet.Reader

variable {α β : Type} {cursor after : Cursor} {kinds : List TokenKind}

theorem sees_cons (kinds : List TokenKind) (last token final : Token) (rest : List Token) :
    Cursor.sees ⟨last, token :: rest, final⟩ kinds = kinds.contains token.kind :=
  rfl

theorem accept_hit {token : Token} (last final : Token) (rest : List Token)
    (wanted : kinds.contains token.kind = true) :
    accept? kinds ⟨last, token :: rest, final⟩ = .ok (some token) ⟨token, rest, final⟩ := by
  simp only [accept?, sees_cons, wanted, if_true]
  rfl

theorem accept_seen (wanted : cursor.sees kinds = true) :
    accept? kinds cursor = .ok (some cursor.next) cursor.advance := by
  simp [accept?, wanted]

theorem accept_miss (unwanted : cursor.sees kinds = false) :
    accept? kinds cursor = .ok none cursor := by
  simp [accept?, unwanted]

theorem expect_hit {kind : TokenKind} {token : Token} (fault : SyntaxFault) (last final : Token)
    (rest : List Token) (wanted : token.kind = kind) :
    expect kind fault ⟨last, token :: rest, final⟩ = .ok token ⟨token, rest, final⟩ := by
  have hit : [kind].contains token.kind = true := by simp [wanted]
  exact bind_of_ok _ (accept_hit last final rest hit)

theorem expect_seen {kind : TokenKind} (fault : SyntaxFault) (wanted : cursor.sees [kind] = true) :
    expect kind fault cursor = .ok cursor.next cursor.advance :=
  bind_of_ok _ (accept_seen wanted)

theorem expect_miss {kind : TokenKind} (fault : SyntaxFault) (unwanted : cursor.sees [kind] = false) :
    expect kind fault cursor = failNext fault cursor :=
  bind_of_ok _ (accept_miss unwanted)

def leafKinds : List TokenKind :=
  [.falseWord, .trueWord, .nilWord, .integer, .float, .string, .identifier]

theorem atom_isSome (token : Token) : (atom? token).isSome = leafKinds.contains token.kind := by
  unfold atom?
  cases token.kind <;> rfl

/-- The reader of an operand looks at one token twice, which is the same as trying the two kinds of
operand one after the other. -/
theorem primary_eq (room : Nat) : primary room = (do
    match ← accept? leafKinds with
    | some token => pure ((atom? token).getD .hole)
    | none =>
      match ← accept? [.leftParen] with
      | some paren =>
        let inner ← expression room
        let _ ← expect .rightParen .parenAfterExpression
        pure (.grouping paren inner)
      | none => failNext .expression) := by
  funext cursor
  obtain ⟨last, ahead, final⟩ := cursor
  cases ahead with
  | nil =>
    rw [primary]
    rfl
  | cons token rest =>
    rw [primary]
    have leaf := atom_isSome token
    cases found : atom? token with
    | some expr =>
      rw [found] at leaf
      rw [bind_of_ok _ (accept_hit last final rest leaf.symm)]
      simp [found, pure_run, Cursor.advance]
    | none =>
      rw [found] at leaf
      have passed : accept? leafKinds ⟨last, token :: rest, final⟩ =
          .ok none ⟨last, token :: rest, final⟩ := accept_miss leaf.symm
      rw [bind_of_ok _ passed]
      dsimp only
      by_cases opens : token.kind = .leftParen
      · have hit : [TokenKind.leftParen].contains token.kind = true := by simp [opens]
        rw [bind_of_ok _ (accept_hit last final rest hit)]
        simp only [found, opens, if_true]
        rfl
      · have miss : Cursor.sees ⟨last, token :: rest, final⟩ [.leftParen] = false := by
          simpa [sees_cons] using opens
        rw [bind_of_ok _ (accept_miss miss)]
        simp only [found, opens, if_false]

/-- Induction over the readers of expressions: on the room, and for one room from the parentheses
outward. What opens a level may rest on all that is known with less room. -/
theorem expression_induction
    (ofExpression ofAssignment ofUnary ofPrimary : Nat → Prop)
    (ofOperation : List (List TokenKind) → Nat → Prop)
    (ofChain : List TokenKind → List (List TokenKind) → Nat → Prop)
    (expressionZero : ofExpression 0)
    (expressionSucc : ∀ room, ofAssignment room → ofExpression (room + 1))
    (primary : ∀ room, ofExpression room → ofPrimary room)
    (unary : ∀ room, ofPrimary room → (∀ less, room = less + 1 → ofUnary less) → ofUnary room)
    (chain : ∀ operators tighter room, operators :: tighter <:+ tiers →
      (∀ less, room = less + 1 → ofOperation tighter less ∧ ofChain operators tighter less) →
      ofChain operators tighter room)
    (operationNil : ∀ room, ofUnary room → ofOperation [] room)
    (operationCons : ∀ operators tighter room, operators :: tighter <:+ tiers →
      ofOperation tighter room → ofChain operators tighter room →
      ofOperation (operators :: tighter) room)
    (assignment : ∀ room, ofOperation tiers room →
      (∀ less, room = less + 1 → ofAssignment less) → ofAssignment room)
    (room : Nat) :
    ofExpression room ∧ ofAssignment room ∧ ofUnary room ∧
      (∀ levels, levels <:+ tiers → ofOperation levels room) ∧
      ∀ operators tighter, operators :: tighter <:+ tiers → ofChain operators tighter room := by
  -- One room, from what is known with one less.
  have step (room : Nat) (inside : ofExpression room)
      (deeper : ∀ less, room = less + 1 → ofAssignment less ∧ ofUnary less ∧
        (∀ levels, levels <:+ tiers → ofOperation levels less) ∧
        ∀ operators tighter, operators :: tighter <:+ tiers → ofChain operators tighter less) :
      ofExpression room ∧ ofAssignment room ∧ ofUnary room ∧
        (∀ levels, levels <:+ tiers → ofOperation levels room) ∧
        ∀ operators tighter, operators :: tighter <:+ tiers → ofChain operators tighter room := by
    have signs : ofUnary room := unary room (primary room inside) fun less same => (deeper less same).2.1
    have chains : ∀ operators tighter, operators :: tighter <:+ tiers →
        ofChain operators tighter room := by
      intro operators tighter tier
      refine chain operators tighter room tier fun less same => ?_
      obtain ⟨-, -, operations, chains⟩ := deeper less same
      exact ⟨operations tighter ((List.suffix_cons _ _).trans tier), chains operators tighter tier⟩
    have operations : ∀ levels, levels <:+ tiers → ofOperation levels room := by
      intro levels tier
      induction levels with
      | nil => exact operationNil room signs
      | cons operators tighter ih =>
        exact operationCons operators tighter room tier (ih ((List.suffix_cons _ _).trans tier))
          (chains operators tighter tier)
    have whole : ofAssignment room :=
      assignment room (operations tiers (List.suffix_refl _)) fun less same => (deeper less same).1
    exact ⟨inside, whole, signs, operations, chains⟩
  induction room with
  | zero => exact step 0 expressionZero fun less same => absurd same (Nat.succ_ne_zero less).symm
  | succ room ih =>
    refine step (room + 1) (expressionSucc room ih.2.1) ?_
    rintro less same
    obtain rfl : room = less := Nat.succ.inj same
    exact ih.2

/-! What is true of every part is true of the whole. -/

def expressionFaults : List SyntaxFault :=
  [.expression, .parenAfterExpression, .assignmentTarget, .expressionTooDeep]

/-- A property of readers that the parts of the readers of expressions have, an assignment as a whole, and
that sequencing keeps. None of the parts asks for a semicolon. -/
structure Assembled (holds : (α : Type) → Reader α → Prop) : Prop where
  pure : ∀ {α : Type} (value : α), holds α (pure value)
  bind : ∀ {α β : Type} {first : Reader α} {next : α → Reader β}, holds α first →
    (∀ value, holds β (next value)) → holds β (first >>= next)
  accept : ∀ {kinds : List TokenKind}, .semicolon ∉ kinds → holds (Option Token) (accept? kinds)
  failNext : ∀ {α : Type} {fault : SyntaxFault}, fault ∈ expressionFaults → holds α (failNext fault)
  assignment : ∀ {room : Nat}, holds Expr (operation tiers room) →
    (∀ less, room = less + 1 → holds Expr (assignment less)) → holds Expr (assignment room)

namespace Assembled

variable {holds : (α : Type) → Reader α → Prop} (assembled : Assembled holds)

include assembled

theorem expect {kind : TokenKind} {fault : SyntaxFault} (inside : kind ≠ .semicolon)
    (listed : fault ∈ expressionFaults) : holds Token (expect kind fault) := by
  refine assembled.bind (assembled.accept (by simpa using inside.symm)) fun found => ?_
  cases found with
  | some token => exact assembled.pure token
  | none => exact assembled.failNext listed

theorem primary {room : Nat} (inside : holds Expr (expression room)) : holds Expr (primary room) := by
  rw [primary_eq]
  refine assembled.bind (assembled.accept (by decide)) fun found => ?_
  cases found with
  | some token => exact assembled.pure _
  | none =>
    refine assembled.bind (assembled.accept (by decide)) fun found => ?_
    cases found with
    | none => exact assembled.failNext (by decide)
    | some paren =>
      refine assembled.bind inside fun inner => ?_
      exact assembled.bind (assembled.expect (by decide) (by decide)) fun _ => assembled.pure _

theorem unary {room : Nat} (operand : holds Expr (Reader.primary room))
    (deeper : ∀ less, room = less + 1 → holds Expr (unary less)) : holds Expr (unary room) := by
  rw [Reader.unary]
  refine assembled.bind (assembled.accept (by decide)) fun found => ?_
  cases found with
  | none => exact operand
  | some operator =>
    cases room with
    | zero => exact assembled.failNext (by decide)
    | succ less => exact assembled.bind (deeper less rfl) fun _ => assembled.pure _

theorem chain {operators : List TokenKind} {tighter : List (List TokenKind)} {room : Nat}
    (tier : operators :: tighter <:+ tiers)
    (deeper : ∀ less, room = less + 1 → holds Expr (operation tighter less) ∧
      ∀ left, holds Expr (chain operators tighter less left))
    (left : Expr) : holds Expr (chain operators tighter room left) := by
  have inside : .semicolon ∉ operators :=
    (by decide : ∀ operators ∈ tiers, .semicolon ∉ operators) operators (tier.mem List.mem_cons_self)
  rw [Reader.chain]
  refine assembled.bind (assembled.accept inside) fun found => ?_
  cases found with
  | none => exact assembled.pure _
  | some operator =>
    cases room with
    | zero => exact assembled.failNext (by decide)
    | succ less =>
      obtain ⟨operand, further⟩ := deeper less rfl
      exact assembled.bind operand fun right => further _

theorem expression (room : Nat) : holds Expr (expression room) := by
  refine (expression_induction (fun room => holds Expr (Reader.expression room))
    (fun room => holds Expr (Reader.assignment room)) (fun room => holds Expr (Reader.unary room))
    (fun room => holds Expr (Reader.primary room))
    (fun levels room => holds Expr (operation levels room))
    (fun operators tighter room => ∀ left, holds Expr (Reader.chain operators tighter room left))
    ?_ ?_ (fun _ => assembled.primary) (fun _ => assembled.unary) (fun _ _ _ => assembled.chain) ?_ ?_
    (fun _ => assembled.assignment) room).1
  · rw [Reader.expression]
    exact assembled.failNext (by decide)
  · intro room inside
    rw [Reader.expression]
    exact inside
  · intro room signs
    rw [operation]
    exact signs
  · intro operators tighter room _ operand chains
    rw [operation]
    exact assembled.bind operand chains

end Assembled

structure Composed (holds : (α : Type) → Reader α → Prop) : Prop where
  pure : ∀ {α : Type} (value : α), holds α (pure value)
  bind : ∀ {α β : Type} {first : Reader α} {next : α → Reader β}, holds α first →
    (∀ value, holds β (next value)) → holds β (first >>= next)
  accept : ∀ {kinds : List TokenKind}, .semicolon ∉ kinds → holds (Option Token) (accept? kinds)
  failNext : ∀ {α : Type} {fault : SyntaxFault}, fault ∈ expressionFaults → holds α (failNext fault)
  failAt : ∀ {α : Type} (token : Token) {fault : SyntaxFault}, fault ∈ expressionFaults →
    holds α (failAt token fault)

namespace Composed

variable {holds : (α : Type) → Reader α → Prop} (composed : Composed holds)

include composed

theorem assignment {room : Nat} (operand : holds Expr (operation tiers room))
    (deeper : ∀ less, room = less + 1 → holds Expr (assignment less)) :
    holds Expr (assignment room) := by
  rw [Reader.assignment]
  refine composed.bind operand fun target => ?_
  refine composed.bind (composed.accept (by decide)) fun found => ?_
  cases found with
  | none => exact composed.pure _
  | some equals =>
    cases room with
    | zero => exact composed.failNext (by decide)
    | succ less =>
      refine composed.bind (deeper less rfl) fun value => ?_
      cases target with
      | reference name => exact composed.pure _
      | _ => exact composed.failAt _ (by decide)

theorem expression (room : Nat) : holds Expr (expression room) := by
  have assembled : Assembled holds :=
    { pure := composed.pure
      bind := composed.bind
      accept := composed.accept
      failNext := composed.failNext
      assignment := composed.assignment }
  exact assembled.expression room

end Composed

end Scriptlet.Reader
