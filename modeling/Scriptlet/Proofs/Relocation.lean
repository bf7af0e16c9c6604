import Scriptlet.Proofs.Respelling
import Scriptlet.Proofs.Soundness

/-! The same tokens elsewhere. Readers look at what a token is and never at its line, so tokens that stand
elsewhere are read as the same statements with the same errors, there. -/
namespace Scriptlet

def Cursor.mapTokens (move : Token → Token) (cursor : Cursor) : Cursor :=
  ⟨move cursor.last, cursor.ahead.map move, move cursor.final⟩

def SyntaxError.mapToken (move : Token → Token) (error : SyntaxError) : SyntaxError :=
  { error with token := move error.token }

namespace Cursor

variable (move : Token → Token) (cursor : Cursor)

@[simp]
theorem atEnd_mapTokens : (cursor.mapTokens move).atEnd = cursor.atEnd := by
  simp [mapTokens, atEnd]

@[simp]
theorem last_mapTokens : (cursor.mapTokens move).last = move cursor.last :=
  rfl

@[simp]
theorem next_mapTokens : (cursor.mapTokens move).next = move cursor.next := by
  obtain ⟨last, ahead, final⟩ := cursor
  cases ahead <;> rfl

@[simp]
theorem advance_mapTokens : (cursor.mapTokens move).advance = cursor.advance.mapTokens move := by
  obtain ⟨last, ahead, final⟩ := cursor
  cases ahead <;> rfl

@[simp]
theorem length_mapTokens : (cursor.mapTokens move).ahead.length = cursor.ahead.length :=
  List.length_map _

theorem errorAt_mapTokens (token : Token) (fault : SyntaxFault) :
    (cursor.mapTokens move).errorAt (move token) fault = (cursor.errorAt token fault).mapToken move := by
  rw [errorAt, atEnd_mapTokens]
  rfl

end Cursor

def Findings.mapTokens {α : Type} (move : Token → Token) (image : α → α) (findings : Findings α) :
    Findings α :=
  ⟨image findings.found, findings.errors.map (SyntaxError.mapToken move),
    findings.cursor.mapTokens move⟩

inductive Reader.MovedOutcome {α : Type} (move : Token → Token) (image : α → α) :
    EStateM.Result SyntaxError Cursor α → EStateM.Result SyntaxError Cursor α → Prop
  | ok {value : α} {after : Cursor} :
      MovedOutcome move image (.ok value after) (.ok (image value) (after.mapTokens move))
  | error {error : SyntaxError} {after : Cursor} :
      MovedOutcome move image (.error error after) (.error (error.mapToken move) (after.mapTokens move))

/-- The second reader does with moved tokens what the first does with the tokens themselves. -/
def Reader.Moved {α : Type} (move : Token → Token) (image : α → α) (reader elsewhere : Reader α) : Prop :=
  ∀ cursor, MovedOutcome move image (reader cursor) (elsewhere (cursor.mapTokens move))

section Moving

variable {move : Token → Token}

namespace Reader

variable {α β : Type} {image : α → α} {other : β → β}

theorem moved_pure (value : α) : Moved move image (pure value) (pure (image value)) :=
  fun _ => .ok

theorem moved_bind {first firstToo : Reader α} {next nextToo : α → Reader β}
    (leads : Moved move image first firstToo)
    (further : ∀ value, Moved move other (next value) (nextToo (image value))) :
    Moved move other (first >>= next) (firstToo >>= nextToo) := by
  intro cursor
  have outcome := leads cursor
  rw [bind_run, bind_run]
  generalize first cursor = found at outcome
  generalize firstToo (cursor.mapTokens move) = foundToo at outcome
  cases outcome with
  | ok => exact further _ _
  | error => exact .error

theorem moved_failNext (fault : SyntaxFault) : Moved move image (failNext fault) (failNext fault) := by
  intro cursor
  rw [failNext, failNext, Cursor.next_mapTokens, Cursor.errorAt_mapTokens]
  exact .error

theorem moved_failLast (fault : SyntaxFault) : Moved move image (failLast fault) (failLast fault) := by
  intro cursor
  rw [failLast, failLast, Cursor.last_mapTokens, Cursor.errorAt_mapTokens]
  exact .error

theorem moved_failAt (token : Token) (fault : SyntaxFault) :
    Moved move image (failAt token fault) (failAt (move token) fault) := by
  intro cursor
  rw [failAt, failAt, Cursor.errorAt_mapTokens]
  exact .error

end Reader

theorem Recovery.statementsUntil_mapTokens {stop : Cursor → Bool} {item : Cursor → Findings (Option Stmt)}
    (stops : ∀ cursor : Cursor, stop (cursor.mapTokens move) = stop cursor)
    (items : ∀ cursor : Cursor, item (cursor.mapTokens move) =
      (item cursor).mapTokens move (Option.map (Stmt.mapTokens move)))
    (cursor : Cursor) : statementsUntil stop item (cursor.mapTokens move) =
      (statementsUntil stop item cursor).mapTokens move (List.map (Stmt.mapTokens move)) := by
  fun_induction statementsUntil stop item cursor with
  | case1 cursor finished =>
    rw [statementsUntil, Cursor.atEnd_mapTokens, stops, if_pos finished]
    rfl
  | case2 cursor goesOn first shorter rest ih =>
    have shorterToo : (first.cursor.mapTokens move).ahead.length < (cursor.mapTokens move).ahead.length := by
      simpa using shorter
    rw [statementsUntil, Cursor.atEnd_mapTokens, stops, if_neg goesOn, items]
    simp only [Findings.mapTokens, first, shorterToo, if_true, ih, rest, List.map_append, Option.toList_map]
  | case3 cursor goesOn first stuck =>
    have stuckToo : ¬ (first.cursor.mapTokens move).ahead.length < (cursor.mapTokens move).ahead.length := by
      simpa using stuck
    rw [statementsUntil, Cursor.atEnd_mapTokens, stops, if_neg goesOn, items]
    simp only [Findings.mapTokens, first, stuckToo, if_false, Option.toList_map]

variable (same : ∀ token : Token, token.Same (move token))

include same

theorem Cursor.sees_mapTokens (cursor : Cursor) (kinds : List TokenKind) :
    (cursor.mapTokens move).sees kinds = cursor.sees kinds := by
  obtain ⟨last, ahead, final⟩ := cursor
  cases ahead with
  | nil => rfl
  | cons token rest => simp [mapTokens, Reader.sees_cons, (same token).kind]

namespace Reader

theorem moved_accept (kinds : List TokenKind) :
    Moved move (Option.map move) (accept? kinds) (accept? kinds) := by
  intro cursor
  have sees := cursor.sees_mapTokens same kinds
  cases seen : cursor.sees kinds with
  | true =>
    rw [accept_seen seen, accept_seen (sees.trans seen), Cursor.next_mapTokens, Cursor.advance_mapTokens]
    exact .ok
  | false =>
    rw [accept_miss seen, accept_miss (sees.trans seen)]
    exact .ok

theorem moved_expect (kind : TokenKind) (fault : SyntaxFault) :
    Moved move move (expect kind fault) (expect kind fault) := by
  refine moved_bind (moved_accept same [kind]) fun found => ?_
  cases found with
  | some token => exact moved_pure token
  | none => exact moved_failNext fault

theorem moved_missing {β : Type} {other : β → β} {kinds : List TokenKind} {fault : SyntaxFault}
    {next nextToo : Option Token → Reader β} (miss : next none = failLast fault)
    (missToo : nextToo none = failLast fault)
    (hit : ∀ token, Moved move other (next (some token)) (nextToo (some (move token)))) :
    Moved move other (accept? kinds >>= next) (accept? kinds >>= nextToo) := by
  refine moved_bind (moved_accept same kinds) fun found => ?_
  cases found with
  | some token => exact hit token
  | none =>
    rw [Option.map_none, miss, missToo]
    exact moved_failLast fault

theorem atom_mapTokens (token : Token) :
    (atom? (move token)).getD .hole = ((atom? token).getD .hole).mapTokens move := by
  have kept := same token
  unfold atom?
  rw [kept.kind, kept.literal]
  cases token.kind
  case integer | float => exact (ofLiteral_mapTokens move token token.literal).symm
  all_goals rfl

theorem moved_primary {room : Nat}
    (inside : Moved move (Expr.mapTokens move) (expression room) (expression room)) :
    Moved move (Expr.mapTokens move) (primary room) (primary room) := by
  rw [primary_eq]
  refine moved_bind (moved_accept same _) fun found => ?_
  cases found with
  | some token =>
    have leaf : Moved move (Expr.mapTokens move) (pure ((atom? token).getD .hole)) _ := moved_pure _
    rwa [← atom_mapTokens same] at leaf
  | none =>
    refine moved_bind (moved_accept same _) fun found => ?_
    cases found with
    | none => exact moved_failNext _
    | some paren =>
      refine moved_bind inside fun inner => moved_bind (moved_expect same _ _) fun _ => ?_
      exact moved_pure (Expr.grouping paren inner)

theorem moved_unary {room : Nat}
    (operand : Moved move (Expr.mapTokens move) (primary room) (primary room))
    (deeper : ∀ less, room = less + 1 → Moved move (Expr.mapTokens move) (unary less) (unary less)) :
    Moved move (Expr.mapTokens move) (unary room) (unary room) := by
  rw [unary]
  refine moved_bind (moved_accept same _) fun found => ?_
  cases found with
  | none => exact operand
  | some operator =>
    cases room with
    | zero => exact moved_failNext _
    | succ less =>
      exact moved_bind (deeper less rfl) fun operand => moved_pure (Expr.unary operator operand)

theorem moved_chain {operators : List TokenKind} {tighter : List (List TokenKind)} {room : Nat}
    (deeper : ∀ less, room = less + 1 →
      Moved move (Expr.mapTokens move) (operation tighter less) (operation tighter less) ∧
      ∀ left : Expr, Moved move (Expr.mapTokens move) (chain operators tighter less left)
        (chain operators tighter less (left.mapTokens move)))
    (left : Expr) : Moved move (Expr.mapTokens move) (chain operators tighter room left)
      (chain operators tighter room (left.mapTokens move)) := by
  rw [chain, chain]
  refine moved_bind (moved_accept same _) fun found => ?_
  cases found with
  | none => exact moved_pure left
  | some operator =>
    cases room with
    | zero => exact moved_failNext _
    | succ less =>
      obtain ⟨operand, further⟩ := deeper less rfl
      exact moved_bind operand fun right => further (.binary left operator right)

theorem moved_assignment {room : Nat}
    (operand : Moved move (Expr.mapTokens move) (operation tiers room) (operation tiers room))
    (deeper : ∀ less, room = less + 1 →
      Moved move (Expr.mapTokens move) (assignment less) (assignment less)) :
    Moved move (Expr.mapTokens move) (assignment room) (assignment room) := by
  rw [assignment]
  refine moved_bind operand fun target => moved_bind (moved_accept same _) fun found => ?_
  cases found with
  | none => exact moved_pure target
  | some equals =>
    cases room with
    | zero => exact moved_failNext _
    | succ less =>
      refine moved_bind (deeper less rfl) fun value => ?_
      cases target with
      | reference name => exact moved_pure (Expr.assign name value)
      | _ => exact moved_failAt equals _

theorem moved_expression (room : Nat) :
    Moved move (Expr.mapTokens move) (expression room) (expression room) := by
  refine (expression_induction
    (fun room => Moved move (Expr.mapTokens move) (expression room) (expression room))
    (fun room => Moved move (Expr.mapTokens move) (assignment room) (assignment room))
    (fun room => Moved move (Expr.mapTokens move) (unary room) (unary room))
    (fun room => Moved move (Expr.mapTokens move) (primary room) (primary room))
    (fun levels room => Moved move (Expr.mapTokens move) (operation levels room) (operation levels room))
    (fun operators tighter room => ∀ left : Expr,
      Moved move (Expr.mapTokens move) (chain operators tighter room left)
        (chain operators tighter room (left.mapTokens move)))
    ?_ ?_ (fun _ => moved_primary same) (fun _ => moved_unary same)
    (fun _ _ _ _ => moved_chain same) ?_ ?_ (fun _ => moved_assignment same) room).1
  · rw [expression]
    exact moved_failNext _
  · intro room inside
    rw [expression]
    exact inside
  · intro room signs
    rw [operation]
    exact signs
  · intro operators tighter room _ operand chains
    rw [operation]
    exact moved_bind operand chains

theorem moved_letStatement (room : Nat) :
    Moved move (Stmt.mapTokens move) (letStatement room) (letStatement room) := by
  refine moved_bind (moved_expect same _ _) fun name => moved_bind (moved_accept same _) fun found => ?_
  cases found with
  | some equals =>
    refine moved_bind (moved_expression same room) fun initializer => ?_
    exact moved_missing same rfl rfl fun _ => moved_pure (Stmt.letIn name initializer)
  | none =>
    have absent : Moved move (Expr.mapTokens move) (pure (.nil name)) _ := moved_pure _
    refine moved_bind absent fun initializer => ?_
    exact moved_missing same rfl rfl fun _ => moved_pure (Stmt.letIn name initializer)

theorem moved_simpleStatement (room : Nat) :
    Moved move (Stmt.mapTokens move) (simpleStatement room) (simpleStatement room) := by
  refine moved_bind (moved_accept same _) fun found => ?_
  cases found with
  | some keyword => exact moved_letStatement same room
  | none =>
    refine moved_bind (moved_accept same _) fun found => ?_
    cases found with
    | some keyword =>
      refine moved_bind (moved_expression same room) fun value => ?_
      exact moved_bind (moved_expect same _ _) fun _ => moved_pure (Stmt.print keyword value)
    | none =>
      refine moved_bind (moved_expression same room) fun value => ?_
      exact moved_bind (moved_expect same _ _) fun _ => moved_pure (Stmt.expression value)

end Reader

namespace Recovery

theorem skip_mapTokens (last : Token) (tokens : List Token) :
    skip (move last) (tokens.map move) = ((skip last tokens).map move (List.map move)) := by
  induction tokens generalizing last with
  | nil => rfl
  | cons token rest ih =>
    rw [List.map_cons, skip, skip, (same last).kind, (same token).kind, ih]
    split <;> rfl

theorem synchronize_mapTokens (cursor : Cursor) :
    synchronize (cursor.mapTokens move) = (synchronize cursor).mapTokens move := by
  obtain ⟨last, ahead, final⟩ := cursor
  cases ahead with
  | nil => rfl
  | cons token rest => simp [synchronize, Cursor.mapTokens, skip_mapTokens same]

theorem settle_mapTokens {outcome elsewhere : EStateM.Result SyntaxError Cursor Stmt}
    (moved : Reader.MovedOutcome move (Stmt.mapTokens move) outcome elsewhere) :
    settle elsewhere = (settle outcome).mapTokens move (Option.map (Stmt.mapTokens move)) := by
  cases moved with
  | ok => rfl
  | @error error after =>
    have resumes := synchronize_mapTokens same after
    simp [settle, Findings.mapTokens, resumes]

theorem statement_mapTokens (room : Nat) (cursor : Cursor) : statement room (cursor.mapTokens move) =
    (statement room cursor).mapTokens move (Option.map (Stmt.mapTokens move)) := by
  have closes (cursor : Cursor) :
      Reader.closesBlock (cursor.mapTokens move) = Reader.closesBlock cursor :=
    cursor.sees_mapTokens same _
  induction room generalizing cursor with
  | zero =>
    rw [statement, statement, cursor.sees_mapTokens same]
    split
    · rw [Cursor.advance_mapTokens]
      exact settle_mapTokens same (Reader.moved_failNext _ _)
    · exact settle_mapTokens same (Reader.moved_simpleStatement same _ _)
  | succ room ih =>
    rw [statement, statement, cursor.sees_mapTokens same]
    split
    · have inside := statementsUntil_mapTokens closes ih cursor.advance
      rw [Cursor.advance_mapTokens, Cursor.next_mapTokens, inside]
      generalize statementsUntil Reader.closesBlock (statement room) cursor.advance = body
      have missing := settle_mapTokens same (Reader.moved_failNext .braceAfterBlock body.cursor)
      simp only [Findings.mapTokens, closes] at missing ⊢
      split
      · simp [Stmt.mapTokens, Stmt.mapAllTokens_eq]
      · simp [missing]
    · exact settle_mapTokens same (Reader.moved_simpleStatement same _ _)

end Recovery

theorem Cursor.ofTokens_map {tokens : List Token} (ends : ∃ token ∈ tokens, token.isEnd = true) :
    ofTokens (tokens.map move) = (ofTokens tokens).mapTokens move := by
  obtain ⟨words, final, others, rfl, inner, isEnd⟩ := exists_firstEnd ends
  have kept (token : Token) : (move token).isEnd = token.isEnd := by simp [Token.isEnd, (same token).kind]
  have innerToo : ∀ token ∈ words.map move, token.isEnd = false := by simpa [kept] using inner
  rw [List.map_append, List.map_cons, ofTokens_firstEnd _ innerToo (by rw [kept, isEnd]),
    ofTokens_firstEnd _ inner isEnd]
  cases words <;> rfl

/-- Tokens that stand elsewhere are read as the same statements with the same errors, there. -/
theorem readAll_map {tokens : List Token} (ends : ∃ token ∈ tokens, token.isEnd = true) :
    readAll (tokens.map move) =
      ((readAll tokens).1.map (Stmt.mapTokens move), (readAll tokens).2.map (SyntaxError.mapToken move)) := by
  rw [readAll, readAll, Cursor.ofTokens_map same ends, Recovery.statementsUntil_mapTokens (fun _ => rfl)
    (Recovery.statement_mapTokens same maxNesting)]
  rfl

end Moving

end Scriptlet
