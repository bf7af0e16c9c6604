import Scriptlet.Proofs.Readers
import Scriptlet.Proofs.Unguarded

/-! Reading as a machine. The readers hold the tokens ahead and pass the room left down; here there is an
index into the whole token list and one count of open levels, both changed in place, and each function
puts the count back when it returns. Nothing guards the machine: its functions call one another for as
long as they find something to do, so each recursion is given by one round of it, and a look at a token
that is not there has no answer. Beside its work it notes every
place it comes to and every call that returns, so that what holds all along can be said of its notes. -/
namespace Scriptlet

structure Spot where
  position : Nat
  depth : Nat

structure Call where
  declares : Bool
  before : Spot
  after : Spot

structure Progress where
  spot : Spot
  errors : List SyntaxError
  visited : List Spot
  calls : List Call

/-- There is no outcome where the machine does not come to an end or looks beyond the tokens. -/
abbrev Descent := StateT Progress Option

namespace Descent

open Unguarded

def start : Progress := ⟨⟨0, 0⟩, [], [⟨0, 0⟩], []⟩

/-- The token list with an end: one is added where the last token is none. -/
def completed (tokens : List Token) : List Token :=
  match tokens.getLast? with
  | none => [.endOfInput 1]
  | some last => if last.isEnd then tokens else tokens ++ [.endOfInput last.line]

def moveTo (spot : Spot) : Descent Unit :=
  modify fun progress => { progress with spot, visited := progress.visited ++ [spot] }

def restore (depth : Nat) : Descent Unit := do
  let progress ← get
  moveTo { progress.spot with depth }

abbrev restoring {α : Type} (body : Descent α) : Descent α := do
  let before ← get
  let result ← body
  restore before.spot.depth
  pure result

def leave (declares : Bool) (before : Spot) : Descent Unit :=
  modify fun progress =>
    { progress with calls := progress.calls ++ [⟨declares, before, progress.spot⟩] }

abbrev called {α : Type} (declares : Bool) (body : Descent α) : Descent α := do
  let before ← get
  let result ← body
  leave declares before.spot
  pure result

/-- Nothing comes of the whole where nothing comes of the first part. -/
abbrev andThen {α β : Type} (first : Descent (Option α)) (next : α → Descent (Option β)) :
    Descent (Option β) := do
  match ← first with
  | none => pure none
  | some value => next value

section Steps

variable (tokens : List Token)

def peek : Descent Token := fun progress =>
  (tokens[progress.spot.position]?).map (·, progress)

def previous : Descent Token := fun progress =>
  (tokens[progress.spot.position - 1]?).map (·, progress)

def atEnd : Descent Bool := do
  let token ← peek tokens
  pure token.isEnd

def advance : Descent Token := do
  if ← atEnd tokens then previous tokens
  else
    let progress ← get
    moveTo { progress.spot with position := progress.spot.position + 1 }
    previous tokens

def check (kind : TokenKind) : Descent Bool := do
  if ← atEnd tokens then pure false
  else
    let token ← peek tokens
    pure (token.kind == kind)

def accepts : List TokenKind → Descent Bool
  | [] => pure false
  | kind :: others => do
    if ← check tokens kind then
      let _ ← advance tokens
      pure true
    else accepts others

abbrev ifTaken {α : Type} (kinds : List TokenKind) (hit : Token → Descent α) (miss : Descent α) :
    Descent α := do
  if ← accepts tokens kinds then
    let token ← previous tokens
    hit token
  else miss

def errorAt (token : Token) (fault : SyntaxFault) : Descent Unit := do
  let truncated ← atEnd tokens
  modify fun progress => { progress with errors := progress.errors ++ [⟨token, fault, truncated⟩] }

def failAt {α : Type} (token : Token) (fault : SyntaxFault) : Descent (Option α) := do
  errorAt tokens token fault
  pure none

def failNext {α : Type} (fault : SyntaxFault) : Descent (Option α) := do
  let token ← peek tokens
  failAt tokens token fault

def failLast {α : Type} (fault : SyntaxFault) : Descent (Option α) := do
  let token ← previous tokens
  failAt tokens token fault

def consume (kind : TokenKind) (fault : SyntaxFault) : Descent (Option Token) := do
  if ← check tokens kind then
    let token ← advance tokens
    pure (some token)
  else failNext tokens fault

/-- Opens a level, which counts even if it is one too many. -/
abbrev nested {α : Type} (fault : SyntaxFault) (body : Descent (Option α)) : Descent (Option α) := do
  let progress ← get
  moveTo { progress.spot with depth := progress.spot.depth + 1 }
  if maxNesting < progress.spot.depth + 1 then failNext tokens fault else body

/-! What the parts of a machine are approached by, so is the machine. -/

section Approaching

variable {α β : Type} {parts : Nat → Descent α} {whole : Descent α}

theorem approaches_ite (condition : Prop) [Decidable condition] {others : Nat → Descent α}
    {other : Descent α} (yes : Approaches parts whole) (no : Approaches others other) :
    Approaches (fun rounds => if condition then parts rounds else others rounds)
      (if condition then whole else other) := by
  by_cases holds : condition
  · simpa only [if_pos holds] using yes
  · simpa only [if_neg holds] using no

theorem approaches_restoring (body : Approaches parts whole) :
    Approaches (fun rounds => restoring (parts rounds)) (restoring whole) :=
  approaches_bind (approaches_const _) fun _ => approaches_bind body fun _ => approaches_const _

theorem approaches_called (declares : Bool) (body : Approaches parts whole) :
    Approaches (fun rounds => called declares (parts rounds)) (called declares whole) :=
  approaches_bind (approaches_const _) fun _ => approaches_bind body fun _ => approaches_const _

theorem approaches_andThen {first : Nat → Descent (Option α)} {wholeFirst : Descent (Option α)}
    {next : Nat → α → Descent (Option β)} {wholeNext : α → Descent (Option β)}
    (leads : Approaches first wholeFirst)
    (follows : ∀ value, Approaches (fun rounds => next rounds value) (wholeNext value)) :
    Approaches (fun rounds => andThen (first rounds) (next rounds)) (andThen wholeFirst wholeNext) := by
  refine approaches_bind leads fun value => ?_
  cases value with
  | none => exact approaches_const _
  | some value => exact follows value

theorem approaches_ifTaken (kinds : List TokenKind) {hit : Nat → Token → Descent α}
    {wholeHit : Token → Descent α} (hits : ∀ token, Approaches (fun rounds => hit rounds token) (wholeHit token))
    (misses : Approaches parts whole) :
    Approaches (fun rounds => ifTaken tokens kinds (hit rounds) (parts rounds))
      (ifTaken tokens kinds wholeHit whole) :=
  approaches_bind (approaches_const _) fun taken =>
    approaches_ite (taken = true) (approaches_bind (approaches_const _) hits) misses

theorem approaches_nested (fault : SyntaxFault) {body : Nat → Descent (Option α)}
    {wholeBody : Descent (Option α)} (inner : Approaches body wholeBody) :
    Approaches (fun rounds => nested tokens fault (body rounds)) (nested tokens fault wholeBody) :=
  approaches_bind (approaches_const _) fun progress => approaches_bind (approaches_const _) fun _ =>
    approaches_ite (maxNesting < progress.spot.depth + 1) (approaches_const _) inner

end Approaching

/-! Passing over. -/

def skipRound (again : Unit → Descent Unit) (_ : Unit) : Descent Unit := do
  if ← atEnd tokens then pure ()
  else
    let last ← previous tokens
    let next ← peek tokens
    if last.kind = .semicolon || Recovery.statementWords.contains next.kind then pure ()
    else
      let _ ← advance tokens
      again ()

theorem skipRound_finitary : Finitary (skipRound tokens) := by
  intro parts whole approaches call
  refine approaches_bind (approaches_const _) fun finished => ?_
  refine approaches_ite (finished = true) (approaches_const _) ?_
  refine approaches_bind (approaches_const _) fun last => approaches_bind (approaches_const _) fun next => ?_
  refine approaches_ite _ (approaches_const _) ?_
  exact approaches_bind (approaches_const _) fun _ => approaches ()

noncomputable def skip : Descent Unit := forever (skipRound tokens) ()

theorem skip_unfold : skip tokens = (do
    if ← atEnd tokens then pure ()
    else
      let last ← previous tokens
      let next ← peek tokens
      if last.kind = .semicolon || Recovery.statementWords.contains next.kind then pure ()
      else
        let _ ← advance tokens
        skip tokens) :=
  congrFun (forever_eq (skipRound_finitary tokens)) ()

noncomputable def synchronize : Descent Unit := do
  let _ ← advance tokens
  skip tokens

/-! Expressions. -/

inductive ExpressionCall
  | expression
  | assignment
  | operation (levels : List (List TokenKind))
  | chain (operators : List TokenKind) (tighter : List (List TokenKind)) (left : Expr)
  | unary
  | primary

/-- One round of reading expressions. The loop of a chain leaves its levels open from operator to
operator. -/
def expressionRound (again : ExpressionCall → Descent (Option Expr)) :
    ExpressionCall → Descent (Option Expr)
  | .expression => called false (restoring (nested tokens .expressionTooDeep (again .assignment)))
  | .assignment => called false (andThen (again (.operation Reader.tiers)) fun target =>
      ifTaken tokens [.equal]
        (fun equals => restoring (nested tokens .expressionTooDeep (andThen (again .assignment) fun value =>
          match target with
          | .reference name => pure (some (.assign name value))
          | _ => failAt tokens equals .assignmentTarget)))
        (pure (some target)))
  | .operation [] => again .unary
  | .operation (operators :: tighter) => called false (andThen (again (.operation tighter)) fun left =>
      restoring (again (.chain operators tighter left)))
  | .chain operators tighter left => ifTaken tokens operators
      (fun operator => nested tokens .expressionTooDeep (andThen (again (.operation tighter)) fun right =>
        again (.chain operators tighter (.binary left operator right))))
      (pure (some left))
  | .unary => called false (ifTaken tokens [.bang, .minus]
      (fun operator => restoring (nested tokens .expressionTooDeep (andThen (again .unary) fun operand =>
        pure (some (.unary operator operand)))))
      (again .primary))
  | .primary => called false (ifTaken tokens Reader.leafKinds
      (fun token => pure (some ((Reader.atom? token).getD .hole)))
      (ifTaken tokens [.leftParen]
        (fun paren => andThen (again .expression) fun inner =>
          andThen (consume tokens .rightParen .parenAfterExpression) fun _ =>
            pure (some (.grouping paren inner)))
        (failNext tokens .expression)))

theorem expressionRound_finitary : Finitary (expressionRound tokens) := by
  intro parts whole approaches call
  match call with
  | .expression =>
    exact approaches_called _ (approaches_restoring (approaches_nested tokens _ (approaches .assignment)))
  | .assignment =>
    refine approaches_called _ (approaches_andThen (approaches (.operation Reader.tiers)) fun target => ?_)
    refine approaches_ifTaken tokens _ (fun equals => ?_) (approaches_const _)
    refine approaches_restoring (approaches_nested tokens _ ?_)
    exact approaches_andThen (approaches .assignment) fun value => approaches_const _
  | .operation [] => exact approaches .unary
  | .operation (operators :: tighter) =>
    refine approaches_called _ (approaches_andThen (approaches (.operation tighter)) fun left => ?_)
    exact approaches_restoring (approaches (.chain operators tighter left))
  | .chain operators tighter left =>
    refine approaches_ifTaken tokens _ (fun operator => approaches_nested tokens _ ?_) (approaches_const _)
    exact approaches_andThen (approaches (.operation tighter)) fun right =>
      approaches (.chain operators tighter (.binary left operator right))
  | .unary =>
    refine approaches_called _ (approaches_ifTaken tokens _ (fun operator => ?_) (approaches .primary))
    refine approaches_restoring (approaches_nested tokens _ ?_)
    exact approaches_andThen (approaches .unary) fun operand => approaches_const _
  | .primary =>
    refine approaches_called _ (approaches_ifTaken tokens _ (fun token => approaches_const _) ?_)
    refine approaches_ifTaken tokens _ (fun paren => ?_) (approaches_const _)
    exact approaches_andThen (approaches .expression) fun inner => approaches_const _

noncomputable def expressionFor : ExpressionCall → Descent (Option Expr) := forever (expressionRound tokens)

theorem expressionFor_unfold (call : ExpressionCall) :
    expressionFor tokens call = expressionRound tokens (expressionFor tokens) call :=
  congrFun (forever_eq (expressionRound_finitary tokens)) call

noncomputable def expression : Descent (Option Expr) := expressionFor tokens .expression

noncomputable def assignment : Descent (Option Expr) := expressionFor tokens .assignment

noncomputable def operation (levels : List (List TokenKind)) : Descent (Option Expr) :=
  expressionFor tokens (.operation levels)

noncomputable def chain (operators : List TokenKind) (tighter : List (List TokenKind)) (left : Expr) :
    Descent (Option Expr) :=
  expressionFor tokens (.chain operators tighter left)

noncomputable def unary : Descent (Option Expr) := expressionFor tokens .unary

noncomputable def primary : Descent (Option Expr) := expressionFor tokens .primary

theorem expression_unfold : expression tokens =
    called false (restoring (nested tokens .expressionTooDeep (assignment tokens))) :=
  expressionFor_unfold tokens .expression

theorem assignment_unfold : assignment tokens =
    called false (andThen (operation tokens Reader.tiers) fun target =>
      ifTaken tokens [.equal]
        (fun equals => restoring (nested tokens .expressionTooDeep (andThen (assignment tokens) fun value =>
          match target with
          | .reference name => pure (some (.assign name value))
          | _ => failAt tokens equals .assignmentTarget)))
        (pure (some target))) :=
  expressionFor_unfold tokens .assignment

theorem operation_nil : operation tokens [] = unary tokens :=
  expressionFor_unfold tokens (.operation [])

theorem operation_cons (operators : List TokenKind) (tighter : List (List TokenKind)) :
    operation tokens (operators :: tighter) = called false (andThen (operation tokens tighter) fun left =>
      restoring (chain tokens operators tighter left)) :=
  expressionFor_unfold tokens (.operation (operators :: tighter))

theorem chain_unfold (operators : List TokenKind) (tighter : List (List TokenKind)) (left : Expr) :
    chain tokens operators tighter left = ifTaken tokens operators
      (fun operator => nested tokens .expressionTooDeep (andThen (operation tokens tighter) fun right =>
        chain tokens operators tighter (.binary left operator right)))
      (pure (some left)) :=
  expressionFor_unfold tokens (.chain operators tighter left)

theorem unary_unfold : unary tokens = called false (ifTaken tokens [.bang, .minus]
    (fun operator => restoring (nested tokens .expressionTooDeep (andThen (unary tokens) fun operand =>
      pure (some (.unary operator operand)))))
    (primary tokens)) :=
  expressionFor_unfold tokens .unary

theorem primary_unfold : primary tokens = called false (ifTaken tokens Reader.leafKinds
    (fun token => pure (some ((Reader.atom? token).getD .hole)))
    (ifTaken tokens [.leftParen]
      (fun paren => andThen (expression tokens) fun inner =>
        andThen (consume tokens .rightParen .parenAfterExpression) fun _ =>
          pure (some (.grouping paren inner)))
      (failNext tokens .expression))) :=
  expressionFor_unfold tokens .primary

/-! Statements. -/

noncomputable def letDeclaration : Descent (Option Stmt) :=
  let ended (name : Token) (initializer : Expr) : Descent (Option Stmt) :=
    ifTaken tokens [.semicolon] (fun _ => pure (some (.letIn name initializer)))
      (failLast tokens .semicolonAfterDeclaration)
  called false (andThen (consume tokens .identifier .variableName) fun name =>
    ifTaken tokens [.equal] (fun _ => andThen (expression tokens) (ended name))
      (ended name (.nil name)))

noncomputable def printStatement (keyword : Token) : Descent (Option Stmt) :=
  called false (andThen (expression tokens) fun value =>
    andThen (consume tokens .semicolon .semicolonAfterValue) fun _ =>
      pure (some (.print keyword value)))

noncomputable def expressionStatement : Descent (Option Stmt) :=
  called false (andThen (expression tokens) fun value =>
    andThen (consume tokens .semicolon .semicolonAfterExpression) fun _ =>
      pure (some (.expression value)))

end Steps

section Statements

variable (tokens : List Token) (collect : Bool)

def stops (inBlock : Bool) : Descent Bool := do
  if inBlock then
    if ← check tokens .rightBrace then pure true else atEnd tokens
  else atEnd tokens

/-- Where errors are collected, the rest of a broken declaration is passed over. -/
noncomputable def resumed (stmt : Option Stmt) : Descent (Option Stmt) :=
  if stmt.isNone && collect then do
    synchronize tokens
    pure none
  else pure stmt

inductive StatementCall
  | block (brace : Token)
  | declaration
  | statements (inBlock : Bool)

abbrev StatementCall.Result : StatementCall → Type
  | block _ => Option Stmt
  | declaration => Option Stmt
  | statements _ => Option (List Stmt)

/-- One round of reading statements. Declarations are read until the loop is over; only where errors are
collected does it outlive a broken one. -/
noncomputable def statementRound (again : (call : StatementCall) → Descent call.Result) :
    (call : StatementCall) → Descent call.Result
  | .block brace => called false (restoring (nested tokens .blockTooDeep
      (andThen (again (.statements true)) fun body =>
        andThen (consume tokens .rightBrace .braceAfterBlock) fun _ => pure (some (.block brace body)))))
  | .declaration => called true (do
      let stmt ← ifTaken tokens [.letWord] (fun _ => letDeclaration tokens)
        (ifTaken tokens [.printWord] (fun keyword => printStatement tokens keyword)
          (ifTaken tokens [.leftBrace] (fun brace => again (.block brace)) (expressionStatement tokens)))
      resumed tokens collect stmt)
  | .statements inBlock => do
      if ← stops tokens inBlock then pure (some [])
      else
        let stmt ← again .declaration
        if stmt.isNone && !collect then pure none
        else andThen (again (.statements inBlock)) fun others => pure (some (stmt.toList ++ others))

theorem statementRound_finitary : Finitary (statementRound tokens collect) := by
  intro parts whole approaches call
  cases call with
  | block brace =>
    refine approaches_called _ (approaches_restoring (approaches_nested tokens _ ?_))
    exact approaches_andThen (approaches (.statements true)) fun body => approaches_const _
  | declaration =>
    refine approaches_called _ (approaches_bind ?_ fun stmt => approaches_const _)
    refine approaches_ifTaken tokens _ (fun _ => approaches_const _) ?_
    refine approaches_ifTaken tokens _ (fun keyword => approaches_const _) ?_
    exact approaches_ifTaken tokens _ (fun brace => approaches (.block brace)) (approaches_const _)
  | statements inBlock =>
    refine approaches_bind (approaches_const _) fun finished => ?_
    refine approaches_ite (finished = true) (approaches_const _) ?_
    refine approaches_bind (approaches .declaration) fun stmt => ?_
    refine approaches_ite _ (approaches_const _) ?_
    exact approaches_andThen (approaches (.statements inBlock)) fun others => approaches_const _

noncomputable def statementFor : (call : StatementCall) → Descent call.Result :=
  forever (statementRound tokens collect)

theorem statementFor_unfold (call : StatementCall) :
    statementFor tokens collect call = statementRound tokens collect (statementFor tokens collect) call :=
  congrFun (forever_eq (statementRound_finitary tokens collect)) call

noncomputable def block (brace : Token) : Descent (Option Stmt) := statementFor tokens collect (.block brace)

noncomputable def declaration : Descent (Option Stmt) := statementFor tokens collect .declaration

noncomputable def statements (inBlock : Bool) : Descent (Option (List Stmt)) :=
  statementFor tokens collect (.statements inBlock)

theorem block_unfold (brace : Token) : block tokens collect brace =
    called false (restoring (nested tokens .blockTooDeep (andThen (statements tokens collect true) fun body =>
      andThen (consume tokens .rightBrace .braceAfterBlock) fun _ => pure (some (.block brace body))))) :=
  statementFor_unfold tokens collect (.block brace)

theorem declaration_unfold : declaration tokens collect =
    called true (do
      let stmt ← ifTaken tokens [.letWord] (fun _ => letDeclaration tokens)
        (ifTaken tokens [.printWord] (fun keyword => printStatement tokens keyword)
          (ifTaken tokens [.leftBrace] (fun brace => block tokens collect brace)
            (expressionStatement tokens)))
      resumed tokens collect stmt) :=
  statementFor_unfold tokens collect .declaration

theorem statements_unfold (inBlock : Bool) : statements tokens collect inBlock = (do
    if ← stops tokens inBlock then pure (some [])
    else
      let stmt ← declaration tokens collect
      if stmt.isNone && !collect then pure none
      else andThen (statements tokens collect inBlock) fun others =>
        pure (some (stmt.toList ++ others))) :=
  statementFor_unfold tokens collect (.statements inBlock)

noncomputable def program : Descent (Option (List Stmt)) :=
  called false (statements tokens collect false)

end Statements

end Descent

end Scriptlet
