import Scriptlet.Proofs.DescentRuns

/-! The machine over whole token lists. Where it stops at the first error it follows the strict reader;
where it collects errors it follows the reader that recovers, and there each declaration, broken or not,
moves it on, so that its loops come to an end. -/
namespace Scriptlet

namespace Descent

section Statements

variable {tape : Tape} {collect keeps : Bool} {room : Nat} {before : Progress}

theorem ifTaken_hit {α : Type} {kinds : List TokenKind} {hit : Token → Descent α} {miss : Descent α}
    (within : before.spot.position ≤ tape.words.length)
    (wanted : (tape.cursor before.spot.position).sees kinds = true) :
    ifTaken tape.tokens kinds hit miss before =
      hit (tape.cursor before.spot.position).next (passed before) := by
  have inside := inside_of_sees within wanted
  have passes : (passed before).spot.position ≤ tape.words.length := inside
  have accepts := accepts_eq tape kinds within
  rw [wanted] at accepts
  have next : (tape.cursor (passed before).spot.position).last =
      (tape.cursor before.spot.position).next := by
    rw [← Cursor.last_advance (more_ahead tape inside), ← tape.cursor_succ inside]
    rfl
  rw [ifTaken, bind_of_some accepts, if_pos rfl, bind_of_some (previous_eq tape passes), next]

theorem ifTaken_miss {α : Type} {kinds : List TokenKind} {hit : Token → Descent α} {miss : Descent α}
    (within : before.spot.position ≤ tape.words.length)
    (unwanted : (tape.cursor before.spot.position).sees kinds = false) :
    ifTaken tape.tokens kinds hit miss before = miss before := by
  have accepts := accepts_eq tape kinds within
  rw [unwanted] at accepts
  rw [ifTaken, bind_of_some accepts]
  rfl

theorem follows_letDeclaration :
    Follows tape collect true room (letDeclaration tape.tokens) (Reader.letStatement room) := by
  rw [letDeclaration, Reader.letStatement]
  refine follows_called (follows_andThen (follows_consume _ _) fun name => ?_)
  refine follows_ifTaken ?_ ?_
  · intro equals
    refine follows_andThen (follows_expression room) fun initializer => ?_
    exact follows_ifTaken (fun _ => follows_pure _) (follows_failLast _)
  · exact follows_ifTaken (fun _ => follows_pure _) (follows_failLast _)

theorem follows_printStatement (keyword : Token) :
    Follows tape collect true room (printStatement tape.tokens keyword)
      (Reader.printStatement keyword room) := by
  rw [printStatement, Reader.printStatement]
  refine follows_called (follows_andThen (follows_expression room) fun value => ?_)
  exact follows_andThen (follows_consume _ _) fun _ => follows_pure _

theorem follows_expressionStatement :
    Follows tape collect true room (expressionStatement tape.tokens)
      (Reader.expressionStatement room) := by
  rw [expressionStatement, Reader.expressionStatement]
  refine follows_called (follows_andThen (follows_expression room) fun value => ?_)
  exact follows_andThen (follows_consume _ _) fun _ => follows_pure _

noncomputable def simple (tokens : List Token) : Descent (Option Stmt) :=
  ifTaken tokens [.letWord] (fun _ => letDeclaration tokens)
    (ifTaken tokens [.printWord] (fun keyword => printStatement tokens keyword)
      (expressionStatement tokens))

theorem follows_simple :
    Follows tape collect true room (simple tape.tokens) (Reader.simpleStatement room) := by
  rw [simple, Reader.simpleStatement]
  refine follows_ifTaken (fun _ => follows_letDeclaration) (follows_ifTaken ?_ ?_)
  · exact follows_printStatement
  · exact follows_expressionStatement

noncomputable def chosen (tape : Tape) (collect : Bool) : Descent (Option Stmt) :=
  ifTaken tape.tokens [.letWord] (fun _ => letDeclaration tape.tokens)
    (ifTaken tape.tokens [.printWord] (fun keyword => printStatement tape.tokens keyword)
      (ifTaken tape.tokens [.leftBrace] (fun brace => block tape.tokens collect brace)
        (expressionStatement tape.tokens)))

theorem chosen_simple (within : before.spot.position ≤ tape.words.length)
    (plain : (tape.cursor before.spot.position).sees [.leftBrace] = false) :
    chosen tape collect before = simple tape.tokens before := by
  unfold chosen simple
  cases declares : (tape.cursor before.spot.position).sees [.letWord] with
  | true => rw [ifTaken_hit within declares, ifTaken_hit within declares]
  | false =>
    rw [ifTaken_miss within declares, ifTaken_miss within declares]
    cases prints : (tape.cursor before.spot.position).sees [.printWord] with
    | true => rw [ifTaken_hit within prints, ifTaken_hit within prints]
    | false => rw [ifTaken_miss within prints, ifTaken_miss within prints, ifTaken_miss within plain]

theorem chosen_block (within : before.spot.position ≤ tape.words.length)
    (opens : (tape.cursor before.spot.position).sees [.leftBrace] = true) :
    chosen tape collect before =
      block tape.tokens collect (tape.cursor before.spot.position).next (passed before) := by
  have more := more_ahead tape (inside_of_sees within opens)
  have kind : (tape.cursor before.spot.position).next.kind = .leftBrace := by
    rw [Cursor.sees_of_more more] at opens
    simpa using opens
  have other {kinds : List TokenKind} (without : kinds.contains .leftBrace = false) :
      (tape.cursor before.spot.position).sees kinds = false := by
    rw [Cursor.sees_of_more more, kind, without]
  rw [chosen, ifTaken_miss within (other rfl), ifTaken_miss within (other rfl), ifTaken_hit within opens]

def withErrors (before : Progress) (inner : List SyntaxError) : Progress :=
  { before with errors := before.errors ++ inner }

theorem withErrors_nil (before : Progress) : withErrors before [] = before := by
  simp [withErrors]

theorem yields_withErrors {machine : Descent (Option Stmt)}
    {outcome : EStateM.Result SyntaxError Cursor Stmt}
    (yields : Yields machine before (Comes tape collect keeps before outcome)) :
    Yields machine before (Comes tape collect keeps (withErrors before []) outcome) := by
  rwa [withErrors_nil]

theorem chosen_opened {inner : List SyntaxError} {outcome : EStateM.Result SyntaxError Cursor Stmt}
    (safe : Safe tape collect before)
    (opens : (tape.cursor before.spot.position).sees [.leftBrace] = true)
    (comes : Yields (block tape.tokens collect (tape.cursor before.spot.position).next) (passed before)
      (Comes tape collect true (withErrors (passed before) inner) outcome)) :
    Yields (chosen tape collect) before fun result after =>
      Comes tape collect true (withErrors before inner) outcome result after ∧
        (result.isSome = true → before.spot.position < after.spot.position) := by
  -- A block is come to past its brace, so a token further on.
  obtain ⟨result, after, leads, comes⟩ := comes
  refine ⟨result, after, ?_, ?_, fun _ => comes.forward⟩
  · rw [chosen_block safe.within opens, leads]
  · exact ⟨comes.safe, Nat.le_of_succ_le comes.forward, comes.kept, comes.tells⟩

def stopOf : Bool → Cursor → Bool
  | true => Reader.closesBlock
  | false => fun _ => false

theorem stops_eq (inBlock : Bool) (within : before.spot.position ≤ tape.words.length) :
    stops tape.tokens inBlock before = some ((tape.cursor before.spot.position).atEnd ||
      stopOf inBlock (tape.cursor before.spot.position), before) := by
  cases inBlock with
  | false =>
    rw [stopOf, Bool.or_false]
    exact atEnd_eq tape within
  | true =>
    rw [stops, if_pos rfl, bind_of_some (check_eq tape .rightBrace within), stopOf, Reader.closesBlock,
      Bool.or_comm]
    cases closes : (tape.cursor before.spot.position).sees [.rightBrace] with
    | true => rfl
    | false => exact atEnd_eq tape within

theorem shorter_iff {first second : Nat} (within : second ≤ tape.words.length) :
    (tape.cursor second).ahead.length < (tape.cursor first).ahead.length ↔ first < second := by
  simp only [Tape.cursor, List.length_drop]
  omega

/-! Stopping at the first error. -/

theorem statements_strict (tokens : List Token) (inBlock : Bool) :
    statements tokens false inBlock = (do
      if ← stops tokens inBlock then pure (some [])
      else andThen (declaration tokens false) fun stmt =>
        andThen (statements tokens false inBlock) fun others => pure (some (stmt :: others))) := by
  conv_lhs => rw [statements_unfold]
  refine bind_congr fun finished => ?_
  cases finished with
  | true => rfl
  | false => exact bind_congr fun stmt => by cases stmt <;> rfl

theorem follows_statements (inBlock : Bool)
    (item : Follows tape false true room (declaration tape.tokens false) (Reader.statement room)) :
    Follows tape false true room (statements tape.tokens false inBlock)
      (Reader.statementsUntil (stopOf inBlock) (Reader.statement room)) := by
  intro before safe depth
  -- On the tokens ahead: a declaration that comes to something takes some.
  generalize measure : tape.words.length - before.spot.position = ahead
  induction ahead using Nat.strongRecOn generalizing before with
  | ind ahead ih =>
    rw [statements_strict]
    refine yields_bind (yields_of_eq (stops_eq inBlock safe.within) ?_)
    by_cases finished : ((tape.cursor before.spot.position).atEnd ||
        stopOf inBlock (tape.cursor before.spot.position)) = true
    · rw [if_pos finished, Reader.statementsUntil, if_pos finished]
      exact yields_pure ⟨safe, Nat.le_refl _, fun _ => rfl, rfl, rfl, rfl⟩
    · rw [if_neg finished, Reader.statementsUntil_eq (Reader.statement_reads room) finished]
      refine comes_andThen (item before safe depth) ?_
      intro stmt middle safeToo kept reads
      have moved := (shorter_iff safeToo.within).mp
        (Reader.reads_shortens (Reader.statement_reads room) reads)
      have less : tape.words.length - middle.spot.position < ahead := by
        have := safeToo.within
        omega
      refine comes_andThen (ih _ less middle safeToo (by rw [kept, depth]) rfl) ?_
      intro others after safeLast keptLast _
      exact follows_pure _ after safeLast (by rw [keptLast, kept, depth])

def blockEnd (brace : Token) (body : List Stmt) : Reader Stmt := do
  let _ ← Reader.expect .rightBrace .braceAfterBlock
  pure (.block brace body)

def blockReader (brace : Token) : Nat → Reader Stmt
  | 0 => Reader.failNext .blockTooDeep
  | room + 1 => do
    let body ← Reader.statementsUntil Reader.closesBlock (Reader.statement room)
    blockEnd brace body

theorem follows_blockEnd (brace : Token) (body : List Stmt) :
    Follows tape collect keeps room
      (andThen (consume tape.tokens .rightBrace .braceAfterBlock) fun _ =>
        pure (some (.block brace body))) (blockEnd brace body) :=
  follows_andThen (follows_consume _ _) fun _ => follows_pure _

theorem follows_too_deep (brace : Token) :
    Follows tape collect true 0 (block tape.tokens collect brace) (blockReader brace 0) := by
  rw [block_unfold]
  exact follows_called (follows_restoring (follows_nested_zero _ _))

theorem follows_block (brace : Token)
    (inside : ∀ less, room = less + 1 →
      Follows tape false true less (declaration tape.tokens false) (Reader.statement less)) :
    Follows tape false true room (block tape.tokens false brace) (blockReader brace room) := by
  cases room with
  | zero => exact follows_too_deep brace
  | succ less =>
    rw [block_unfold]
    refine follows_called (follows_restoring (follows_nested ?_))
    exact follows_andThen (follows_statements true (inside less rfl)) (follows_blockEnd brace)

theorem statement_block {cursor : Cursor} (opens : cursor.sees [.leftBrace] = true) :
    Reader.statement room cursor = blockReader cursor.next room cursor.advance := by
  rw [Reader.statement_eq, if_pos opens]
  cases room <;> rfl

theorem statement_simple {cursor : Cursor} (plain : ¬ cursor.sees [.leftBrace] = true) :
    Reader.statement room cursor = Reader.simpleStatement room cursor := by
  rw [Reader.statement_eq, if_neg plain]

theorem comes_chosen
    (inside : ∀ less, room = less + 1 →
      Follows tape false true less (declaration tape.tokens false) (Reader.statement less))
    (safe : Safe tape false before) (depth : before.spot.depth + room = maxNesting) :
    Yields (chosen tape false) before
      (Comes tape false true before (Reader.statement room (tape.cursor before.spot.position))) := by
  by_cases opens : (tape.cursor before.spot.position).sees [.leftBrace] = true
  · have inner := inside_of_sees safe.within opens
    have after : Safe tape false (passed before) :=
      safe_arrived safe inner (Nat.le_succ_of_le (Nat.le.intro depth))
    have comes :=
      follows_block (tape.cursor before.spot.position).next inside (passed before) after depth
    obtain ⟨result, last, leads, attempts, -⟩ := chosen_opened safe opens (yields_withErrors comes)
    rw [statement_block opens, ← tape.cursor_succ inner]
    exact ⟨result, last, leads, withErrors_nil before ▸ attempts⟩
  · obtain ⟨result, last, leads, comes⟩ := follows_simple before safe depth
    rw [statement_simple opens]
    refine ⟨result, last, ?_, comes⟩
    rw [chosen_simple safe.within (Bool.eq_false_iff.mpr opens), leads]

theorem follows_declaration (room : Nat) :
    Follows tape false true room (declaration tape.tokens false) (Reader.statement room) := by
  induction room using Nat.strongRecOn with
  | ind room ih =>
    intro before safe depth
    have inside : ∀ less, room = less + 1 →
        Follows tape false true less (declaration tape.tokens false) (Reader.statement less) :=
      fun less same => ih less (same ▸ Nat.lt_succ_self less)
    obtain ⟨result, after, leads, comes⟩ := comes_chosen inside safe depth
    have settled : resumed tape.tokens false result after = some (result, after) := by
      rw [resumed, Bool.and_false]
      rfl
    rw [declaration_unfold]
    refine yields_called (yields_bind (yields_of_eq leads (yields_of_eq settled ?_)))
    exact ⟨safe_left comes.safe (comes.kept rfl) fun _ => nofun, comes.forward, comes.kept, comes.tells⟩

/-! Collecting errors. -/

def resumption (cursor : Cursor) : Cursor :=
  let skipped := Recovery.skip cursor.last cursor.ahead
  { cursor with last := skipped.1, ahead := skipped.2 }

def resumes (cursor : Cursor) : Bool :=
  cursor.last.kind = .semicolon || Recovery.statementWords.contains cursor.next.kind

theorem resumption_end {cursor : Cursor} (finished : cursor.atEnd = true) : resumption cursor = cursor := by
  obtain ⟨last, ahead, final⟩ := cursor
  cases ahead with
  | nil => rfl
  | cons token rest => cases finished

theorem resumption_here {cursor : Cursor} (here : resumes cursor = true) :
    resumption cursor = cursor := by
  obtain ⟨last, ahead, final⟩ := cursor
  cases ahead with
  | nil => rfl
  | cons token rest =>
    have here : (last.kind = .semicolon || Recovery.statementWords.contains token.kind) = true := here
    simp only [resumption, Recovery.skip, if_pos here]

theorem resumption_later {cursor : Cursor} (more : cursor.atEnd = false) (later : ¬ resumes cursor = true) :
    resumption cursor = resumption cursor.advance := by
  obtain ⟨last, ahead, final⟩ := cursor
  cases ahead with
  | nil => cases more
  | cons token rest =>
    have later : ¬ (last.kind = .semicolon || Recovery.statementWords.contains token.kind) = true := later
    simp only [resumption, Recovery.skip, if_neg later, Cursor.advance]

theorem synchronize_eq (cursor : Cursor) :
    Recovery.synchronize cursor = if cursor.atEnd then cursor else resumption cursor.advance := by
  obtain ⟨last, ahead, final⟩ := cursor
  cases ahead with
  | nil => rfl
  | cons token rest => rfl

/-- Tokens were passed over, up to a cursor, and nothing else was done. -/
structure Skips (tape : Tape) (before : Progress) (cursor : Cursor) (after : Progress) : Prop where
  safe : Safe tape true after
  forward : before.spot.position ≤ after.spot.position
  kept : after.spot.depth = before.spot.depth
  errors : after.errors = before.errors
  reached : tape.cursor after.spot.position = cursor

theorem skip_skips (safe : Safe tape true before) (shallow : before.spot.depth ≤ maxNesting + 1) :
    Yields (skip tape.tokens) before fun _ after =>
      Skips tape before (resumption (tape.cursor before.spot.position)) after := by
  generalize measure : tape.words.length - before.spot.position = ahead
  induction ahead generalizing before with
  | zero =>
    have finished : (tape.cursor before.spot.position).atEnd = true := by
      rw [tape.atEnd_iff safe.within]
      have := safe.within
      omega
    rw [skip_unfold, resumption_end finished]
    refine yields_bind (yields_of_eq (atEnd_eq tape safe.within) ?_)
    rw [if_pos finished]
    exact yields_pure ⟨safe, Nat.le_refl _, rfl, rfl, rfl⟩
  | succ ahead ih =>
    have inside : before.spot.position < tape.words.length := by omega
    have more := more_ahead tape inside
    rw [skip_unfold]
    refine yields_bind (yields_of_eq (atEnd_eq tape safe.within) ?_)
    rw [if_neg (Bool.eq_false_iff.mp more)]
    refine yields_bind (yields_of_eq (previous_eq tape safe.within) ?_)
    refine yields_bind (yields_of_eq (peek_eq tape safe.within) ?_)
    split
    case isTrue here =>
      rw [resumption_here here]
      exact yields_pure ⟨safe, Nat.le_refl _, rfl, rfl, rfl⟩
    case isFalse later =>
      have passes : Safe tape true (passed before) := safe_arrived safe inside shallow
      have less : tape.words.length - (passed before).spot.position = ahead := by
        show tape.words.length - (before.spot.position + 1) = ahead
        omega
      obtain ⟨_, after, leads, skips⟩ := ih passes shallow less
      rw [resumption_later more later, ← tape.cursor_succ inside]
      refine yields_bind (yields_of_eq (advance_eq tape inside) (yields_of_eq leads ?_))
      exact ⟨skips.safe, Nat.le_of_succ_le skips.forward, skips.kept, skips.errors, skips.reached⟩

theorem synchronize_skips (safe : Safe tape true before)
    (shallow : before.spot.depth ≤ maxNesting + 1) :
    Yields (synchronize tape.tokens) before fun _ after =>
      Skips tape before (Recovery.synchronize (tape.cursor before.spot.position)) after ∧
        (before.spot.position < after.spot.position ∨ after.spot.position = tape.words.length) := by
  -- Recovery moves on, unless the end is reached already.
  rw [synchronize_eq]
  rcases Nat.lt_or_eq_of_le safe.within with inside | finished
  · have passes : Safe tape true (passed before) := safe_arrived safe inside shallow
    obtain ⟨_, after, leads, skips⟩ := skip_skips passes shallow
    rw [more_ahead tape inside, ← tape.cursor_succ inside]
    refine yields_bind (yields_of_eq (advance_eq tape inside) (yields_of_eq leads ?_))
    exact ⟨⟨skips.safe, Nat.le_of_succ_le skips.forward, skips.kept, skips.errors, skips.reached⟩,
      .inl skips.forward⟩
  · have ended := (tape.atEnd_iff safe.within).mpr finished
    obtain ⟨_, after, leads, skips⟩ := skip_skips safe shallow
    rw [resumption_end ended] at skips
    rw [if_pos ended]
    refine yields_bind (yields_of_eq (advance_end tape finished) (yields_of_eq leads ⟨skips, .inr ?_⟩))
    have := skips.safe.within
    have := skips.forward
    omega

/-- All that recovery finds was found by the machine: the errors come after those before, and `give` says
how what was found is handed over. -/
structure Gathers {α β : Type} (tape : Tape) (before : Progress) (give : β → Option α)
    (findings : Findings β) (result : Option α) (after : Progress) : Prop where
  safe : Safe tape true after
  forward : before.spot.position ≤ after.spot.position
  kept : after.spot.depth = before.spot.depth
  found : result = give findings.found
  errors : after.errors = before.errors ++ findings.errors
  reached : tape.cursor after.spot.position = findings.cursor

def Moves (tape : Tape) (before after : Progress) : Prop :=
  before.spot.position < after.spot.position ∨ after.spot.position = tape.words.length

def DeclarationGathers (tape : Tape) (room : Nat) : Prop :=
  ∀ before, Safe tape true before → before.spot.depth + room = maxNesting →
    Yields (declaration tape.tokens true) before fun result after =>
      Gathers tape before id (Recovery.statement room (tape.cursor before.spot.position)) result after ∧
        Moves tape before after

theorem statements_gather (inBlock : Bool) (item : DeclarationGathers tape room)
    (safe : Safe tape true before) (depth : before.spot.depth + room = maxNesting) :
    Yields (statements tape.tokens true inBlock) before (Gathers tape before some
      (Recovery.statementsUntil (stopOf inBlock) (Recovery.statement room)
        (tape.cursor before.spot.position))) := by
  -- On the tokens ahead again, but here what a declaration comes to does not matter.
  generalize measure : tape.words.length - before.spot.position = ahead
  induction ahead using Nat.strongRecOn generalizing before with
  | ind ahead ih =>
    rw [statements_unfold, Recovery.statementsUntil]
    refine yields_bind (yields_of_eq (stops_eq inBlock safe.within) ?_)
    by_cases finished : ((tape.cursor before.spot.position).atEnd ||
        stopOf inBlock (tape.cursor before.spot.position)) = true
    · rw [if_pos finished, if_pos finished]
      exact yields_pure ⟨safe, Nat.le_refl _, rfl, rfl, (List.append_nil _).symm, rfl⟩
    · rw [if_neg finished, if_neg finished]
      obtain ⟨result, middle, leads, gathers, moves⟩ := item before safe depth
      have inside : before.spot.position < tape.words.length := by
        refine inside_of_more tape safe.within ?_
        simp only [Bool.or_eq_true, not_or] at finished
        exact Bool.eq_false_iff.mpr finished.1
      have moved : before.spot.position < middle.spot.position := by
        unfold Moves at moves
        omega
      have less : tape.words.length - middle.spot.position < ahead := by
        have := gathers.safe.within
        omega
      have shorter := (shorter_iff gathers.safe.within).mpr moved
      rw [gathers.reached] at shorter
      have still : middle.spot.depth + room = maxNesting := by rw [gathers.kept, depth]
      obtain ⟨others, after, further, ends⟩ := ih _ less gathers.safe still rfl
      rw [gathers.reached] at ends
      simp only [shorter, if_true]
      refine yields_bind (yields_of_eq leads ?_)
      rw [Bool.not_true, Bool.and_false, if_neg Bool.false_ne_true]
      refine yields_bind (yields_of_eq further ?_)
      obtain rfl := ends.found
      refine yields_pure ⟨ends.safe, Nat.le_trans gathers.forward ends.forward, ?_, ?_, ?_, ends.reached⟩
      · rw [ends.kept, gathers.kept]
      · rw [gathers.found]
        rfl
      · rw [ends.errors, gathers.errors, List.append_assoc]

def settledAfter (inner : List SyntaxError) (outcome : EStateM.Result SyntaxError Cursor Stmt) :
    Findings (Option Stmt) :=
  let own := Recovery.settle outcome
  { own with errors := inner ++ own.errors }

theorem resumed_gathers {inner : List SyntaxError} {outcome : EStateM.Result SyntaxError Cursor Stmt}
    {result : Option Stmt} {middle : Progress}
    (comes : Comes tape true true (withErrors before inner) outcome result middle)
    (shallow : before.spot.depth ≤ maxNesting + 1)
    (moved : result.isSome = true → before.spot.position < middle.spot.position) :
    Yields (resumed tape.tokens true result) middle fun result after =>
      Gathers tape before id (settledAfter inner outcome) result after ∧ Moves tape before after := by
  have forward : before.spot.position ≤ middle.spot.position := comes.forward
  have kept : middle.spot.depth = before.spot.depth := comes.kept rfl
  have tells := comes.tells
  cases outcome with
  | ok stmt cursor =>
    obtain ⟨rfl, errors, reached⟩ := tells
    have found : middle.errors = before.errors ++ (inner ++ []) := by rw [errors, List.append_nil]; rfl
    exact yields_pure ⟨⟨comes.safe, forward, kept, rfl, found, reached⟩, .inl (moved rfl)⟩
  | error error cursor =>
    obtain ⟨rfl, errors, rfl⟩ := tells
    obtain ⟨_, after, leads, skips, moves⟩ := synchronize_skips comes.safe (kept ▸ shallow)
    have found : after.errors = before.errors ++ (inner ++ [error]) := by
      rw [skips.errors, errors, ← List.append_assoc]
      rfl
    refine yields_bind (yields_of_eq leads (yields_pure ⟨?_, ?_⟩))
    · exact ⟨skips.safe, Nat.le_trans forward skips.forward, skips.kept.trans kept, rfl, found,
        skips.reached⟩
    · exact moves.imp_left (Nat.lt_of_le_of_lt forward)

theorem declaration_gathers_of {inner : List SyntaxError}
    {outcome : EStateM.Result SyntaxError Cursor Stmt} (shallow : before.spot.depth ≤ maxNesting + 1)
    (attempts : Yields (chosen tape true) before fun result middle =>
      Comes tape true true (withErrors before inner) outcome result middle ∧
        (result.isSome = true → before.spot.position < middle.spot.position)) :
    Yields (declaration tape.tokens true) before fun result after =>
      Gathers tape before id (settledAfter inner outcome) result after ∧ Moves tape before after := by
  obtain ⟨result, middle, leads, comes, moved⟩ := attempts
  obtain ⟨found, after, settles, gathers, moves⟩ := resumed_gathers comes shallow moved
  rw [declaration_unfold]
  refine yields_called (yields_bind (yields_of_eq leads (yields_of_eq settles ⟨?_, moves⟩)))
  exact ⟨safe_left gathers.safe gathers.kept fun _ _ => moves, gathers.forward, gathers.kept,
    gathers.found, gathers.errors, gathers.reached⟩

theorem block_gathers {less : Nat} (brace : Token) (item : DeclarationGathers tape less)
    (safe : Safe tape true before) (depth : before.spot.depth + (less + 1) = maxNesting) :
    let body := Recovery.statementsUntil Reader.closesBlock (Recovery.statement less)
      (tape.cursor before.spot.position)
    Yields (block tape.tokens true brace) before
      (Comes tape true true (withErrors before body.errors)
        (blockEnd brace body.found body.cursor)) := by
  intro body
  have enough : before.spot.depth < maxNesting := by omega
  have shallow : before.spot.depth ≤ maxNesting + 1 := by omega
  have remaining : (deeper before).spot.depth + less = maxNesting := by
    show before.spot.depth + 1 + less = maxNesting
    omega
  obtain ⟨result, middle, leads, gathers⟩ :=
    statements_gather true item (safe_deeper safe (Nat.le_of_lt enough)) remaining
  obtain rfl := gathers.found
  have closing : Follows tape true true less _ (blockEnd brace body.found) :=
    follows_blockEnd brace body.found
  obtain ⟨stmt, after, ends, comes⟩ := closing middle gathers.safe (gathers.kept ▸ remaining)
  rw [gathers.reached] at comes
  rw [block_unfold]
  refine yields_called (yields_restoring (yields_nested enough (yields_bind (yields_of_eq leads ?_))))
  refine yields_of_eq ends ⟨?_, Nat.le_trans gathers.forward comes.forward, fun _ => rfl, ?_⟩
  · exact safe_left (safe_arrived comes.safe comes.safe.within shallow) rfl nofun
  · have told := comes.tells
    unfold Tells at told ⊢
    rwa [gathers.errors] at told

theorem recovery_simple {cursor : Cursor} (plain : ¬ cursor.sees [.leftBrace] = true) :
    Recovery.statement room cursor = settledAfter [] (Reader.simpleStatement room cursor) := by
  cases room <;> exact (if_neg plain).trans rfl

theorem recovery_too_deep {cursor : Cursor} (opens : cursor.sees [.leftBrace] = true) :
    Recovery.statement 0 cursor = settledAfter [] (blockReader cursor.next 0 cursor.advance) := by
  rw [Recovery.statement, if_pos opens]
  rfl

theorem recovery_block {cursor : Cursor} (opens : cursor.sees [.leftBrace] = true) :
    let body := Recovery.statementsUntil Reader.closesBlock (Recovery.statement room) cursor.advance
    Recovery.statement (room + 1) cursor =
      settledAfter body.errors (blockEnd cursor.next body.found body.cursor) := by
  intro body
  rw [Recovery.statement, if_pos opens]
  by_cases closes : Reader.closesBlock body.cursor = true
  · have ends : blockEnd cursor.next body.found body.cursor =
        .ok (.block cursor.next body.found) body.cursor.advance :=
      bind_of_ok _ (Reader.expect_seen .braceAfterBlock closes)
    rw [ends]
    simp only [settledAfter, Recovery.settle, List.append_nil]
    exact if_pos closes
  · have ends : blockEnd cursor.next body.found body.cursor =
        (Reader.failNext .braceAfterBlock : Reader Stmt) body.cursor := by
      have missing := Reader.expect_miss .braceAfterBlock (Bool.eq_false_iff.mpr closes)
      exact bind_of_error _ missing
    rw [ends]
    exact if_neg closes

theorem simple_gathers (safe : Safe tape true before) (depth : before.spot.depth + room = maxNesting)
    (plain : ¬ (tape.cursor before.spot.position).sees [.leftBrace] = true) :
    Yields (declaration tape.tokens true) before fun result after =>
      Gathers tape before id (Recovery.statement room (tape.cursor before.spot.position)) result after ∧
        Moves tape before after := by
  rw [recovery_simple plain]
  refine declaration_gathers_of (Nat.le_succ_of_le (Nat.le.intro depth)) ?_
  obtain ⟨result, middle, leads, comes⟩ := follows_simple before safe depth
  refine ⟨result, middle, ?_, ?_, ?_⟩
  · rw [chosen_simple safe.within (Bool.eq_false_iff.mpr plain), leads]
  · rw [withErrors_nil]
    exact comes
  · intro found
    have tells := comes.tells
    cases outcome : Reader.simpleStatement room (tape.cursor before.spot.position) with
    | ok stmt cursor =>
      rw [outcome] at tells
      obtain ⟨-, -, rfl⟩ := tells
      exact (shorter_iff comes.safe.within).mp
        (Reader.reads_shortens (Reader.simpleStatement_reads room) outcome)
    | error error cursor =>
      rw [outcome] at tells
      rw [tells.1] at found
      cases found

theorem opened_gathers (safe : Safe tape true before) (depth : before.spot.depth + room = maxNesting)
    (opens : (tape.cursor before.spot.position).sees [.leftBrace] = true)
    (inside : ∀ less, room = less + 1 → DeclarationGathers tape less) :
    Yields (declaration tape.tokens true) before fun result after =>
      Gathers tape before id (Recovery.statement room (tape.cursor before.spot.position)) result after ∧
        Moves tape before after := by
  have shallow : before.spot.depth ≤ maxNesting + 1 := Nat.le_succ_of_le (Nat.le.intro depth)
  have inner := inside_of_sees safe.within opens
  have passes : Safe tape true (passed before) := safe_arrived safe inner shallow
  cases room with
  | zero =>
    rw [recovery_too_deep opens, ← tape.cursor_succ inner]
    have comes := follows_too_deep (tape.cursor before.spot.position).next (passed before) passes depth
    exact declaration_gathers_of shallow (chosen_opened safe opens (yields_withErrors comes))
  | succ less =>
    rw [recovery_block opens, ← tape.cursor_succ inner]
    have comes := block_gathers (tape.cursor before.spot.position).next (inside less rfl) passes depth
    exact declaration_gathers_of shallow (chosen_opened safe opens comes)

theorem declaration_gathers (room : Nat) : DeclarationGathers tape room := by
  induction room using Nat.strongRecOn with
  | ind room ih =>
    intro before safe depth
    by_cases opens : (tape.cursor before.spot.position).sees [.leftBrace] = true
    · exact opened_gathers safe depth opens fun less same => ih less (same ▸ Nat.lt_succ_self less)
    · exact simple_gathers safe depth opens

end Statements

/-! Whole token lists. -/

section Whole

def firstEnd (tokens : List Token) : Nat := (completed tokens).findIdx Token.isEnd

theorem completed_eq (tokens : List Token) : ∃ added, completed tokens = tokens ++ added := by
  unfold completed
  split
  case h_1 last =>
    rw [List.getLast?_eq_none_iff.mp last]
    exact ⟨_, rfl⟩
  case h_2 last _ =>
    cases last.isEnd with
    | true => exact ⟨[], (List.append_nil tokens).symm⟩
    | false => exact ⟨_, rfl⟩

theorem completed_of_plain {tokens : List Token} (plain : ∀ token ∈ tokens, token.isEnd = false) :
    completed tokens = tokens ++ [.endOfInput ((tokens.getLast?.map (·.line)).getD 1)] := by
  unfold completed
  cases last : tokens.getLast? with
  | none =>
    rw [List.getLast?_eq_none_iff.mp last]
    rfl
  | some token =>
    have inner := plain token (List.mem_of_getLast? last)
    simp [inner]

theorem findIdx_tokens (tape : Tape) : tape.tokens.findIdx Token.isEnd = tape.words.length := by
  have none : tape.words.findIdx Token.isEnd = tape.words.length :=
    List.findIdx_eq_length.mpr tape.plain
  rw [Tape.tokens, List.findIdx_append, none, if_neg (Nat.lt_irrefl _), List.findIdx_cons, tape.ends]
  exact Nat.zero_add _

theorem cursor_zero (tape : Tape) :
    tape.cursor 0 = ⟨tape.words.headD tape.final, tape.words, tape.final⟩ := by
  cases words : tape.words <;> simp [Tape.cursor, words]

theorem tape_of (tokens : List Token) :
    ∃ tape : Tape, tape.tokens = completed tokens ∧ tape.cursor 0 = .ofTokens tokens := by
  have plain := plain_takeWhile tokens
  have split := List.takeWhile_append_dropWhile (p := fun token : Token => !token.isEnd) (l := tokens)
  cases rest : tokens.dropWhile fun token => !token.isEnd with
  | nil =>
    rw [rest, List.append_nil] at split
    rw [split] at plain
    let final := Token.endOfInput ((tokens.getLast?.map (·.line)).getD 1)
    refine ⟨⟨tokens, final, [], plain, rfl⟩, (completed_of_plain plain).symm, ?_⟩
    rw [cursor_zero]
    simp [Cursor.ofTokens, rest, split, final]
  | cons final others =>
    obtain ⟨added, whole⟩ := completed_eq tokens
    refine ⟨⟨_, final, others ++ added, plain, isEnd_of_dropWhile rest⟩, ?_, ?_⟩
    · rw [whole, Tape.tokens, ← List.cons_append, ← rest, ← List.append_assoc, split]
    · rw [cursor_zero]
      simp [Cursor.ofTokens, rest]

/-- What the machine makes of a token list is what the readers make of it. -/
def Answers (tokens : List Token) (collect : Bool) (found : Option (List Stmt))
    (errors : List SyntaxError) : Prop :=
  if collect then readAll tokens = (found.getD [], errors)
  else match readStrict tokens with
    | .ok statements => found = some statements ∧ errors = []
    | .error error => found = none ∧ errors = [error]

theorem safe_start (tape : Tape) (collect : Bool) : Safe tape collect start := by
  refine ⟨Nat.zero_le _, ?_, nofun, nofun⟩
  rintro spot (⟨⟩ | ⟨_, ⟨⟩⟩)
  exact ⟨Nat.zero_le _, Nat.zero_le _⟩

theorem program_answers {tokens : List Token} {tape : Tape} (collect : Bool)
    (starts : tape.cursor 0 = .ofTokens tokens) :
    Yields (program tape.tokens collect) start fun found finish =>
      Safe tape collect finish ∧ Answers tokens collect found finish.errors := by
  cases collect with
  | false =>
    obtain ⟨found, after, leads, comes⟩ :=
      follows_called (follows_statements false (follows_declaration maxNesting)) start
        (safe_start tape false) (Nat.zero_add _)
    refine ⟨found, after, leads, comes.safe, ?_⟩
    have tells := comes.tells
    rw [show start.spot.position = 0 from rfl, starts] at tells
    show match readStrict tokens with | .ok _ => _ | .error _ => _
    rw [readStrict]
    cases outcome : Reader.statementsUntil (fun _ => false) (Reader.statement maxNesting)
        (.ofTokens tokens) with
    | ok statements cursor =>
      rw [show stopOf false = fun _ => false from rfl, outcome] at tells
      exact ⟨tells.1, tells.2.1⟩
    | error error cursor =>
      rw [show stopOf false = fun _ => false from rfl, outcome] at tells
      exact ⟨tells.1, tells.2.1⟩
  | true =>
    obtain ⟨found, after, leads, gathers⟩ :=
      statements_gather false (declaration_gathers maxNesting) (safe_start tape true) (Nat.zero_add _)
    obtain rfl := gathers.found
    refine yields_called (yields_of_eq leads ⟨safe_left gathers.safe gathers.kept nofun, ?_⟩)
    show readAll tokens = (_, after.errors)
    rw [gathers.errors, readAll, ← starts]
    rfl

end Whole

end Descent

open Descent in
/-- On every token list, whether it stops at the first error or collects all, the machine comes to an end
and to the readers' answer. It never goes past the first end, nor opens more levels than one too many.
Each of its calls puts the levels back, and a declaration, where errors are collected, moves it on or
leaves it at the end. -/
theorem reading_terminates_safely (tokens : List Token) (collect : Bool) :
    ∃ found finish, program (completed tokens) collect start = some (found, finish) ∧
      Answers tokens collect found finish.errors ∧
      firstEnd tokens < (completed tokens).length ∧
      (∀ spot ∈ finish.visited, spot.position ≤ firstEnd tokens ∧ spot.depth ≤ maxNesting + 1) ∧
      (∀ call ∈ finish.calls, call.after.depth = call.before.depth) ∧
      (collect = true → ∀ call ∈ finish.calls, call.declares = true →
        call.before.position < call.after.position ∨ call.after.position = firstEnd tokens) := by
  obtain ⟨tape, whole, starts⟩ := tape_of tokens
  obtain ⟨found, finish, leads, safe, answers⟩ := program_answers collect starts
  have first : firstEnd tokens = tape.words.length := by rw [firstEnd, ← whole, findIdx_tokens]
  rw [whole] at leads
  refine ⟨found, finish, leads, answers, ?_, ?_, safe.restored, ?_⟩
  · rw [first, ← whole, Tape.tokens, List.length_append]
    exact Nat.lt_add_of_pos_right (Nat.succ_pos _)
  · rw [first]
    exact safe.visited
  · rw [first]
    exact safe.moved

end Scriptlet
