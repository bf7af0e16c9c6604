import Scriptlet.Proofs.Agreement
import Scriptlet.Proofs.Completeness

/-! Reading a part of a program. A reader that has only the first tokens of what it would accept does
the same with them as with all, until it comes to the end of the part; every error after that is an
error for want of tokens. -/
namespace Scriptlet.Reader

variable {α β : Type} {closed : Bool}

/-- An outcome at the end of the tokens. Where reading is `closed` the end is an error. -/
def Ended (closed : Bool) (outcome : EStateM.Result SyntaxError Cursor α) : Prop :=
  match outcome with
  | .ok _ after => closed = false ∧ after.ahead = []
  | .error error after => error.truncated = true ∧ after.ahead = []

/-- A reader that can be cut short: with a part of the tokens ahead it either does what it does with all
of them, or comes to the end of the part. -/
structure Cut (closed : Bool) (reader : Reader α) : Prop where
  follows : ∀ (part whole : Cursor) (rest : List Token) (value : α) (after : Cursor),
    whole.ahead = part.ahead ++ rest → reader whole = .ok value after →
    (∃ stop, reader part = .ok value stop ∧ after.ahead = stop.ahead ++ rest) ∨ Ended closed (reader part)
  ends : ∀ cursor : Cursor, cursor.ahead = [] → Ended closed (reader cursor)

namespace Cut

theorem pure (value : α) : Cut false (pure value : Reader α) where
  follows := by
    intro part whole rest _ after ahead reads
    cases reads
    exact .inl ⟨part, rfl, ahead⟩
  ends := fun _ finished => ⟨rfl, finished⟩

theorem ended_bind {reader : Reader α} {next : α → Reader β} {cursor : Cursor}
    (ended : Ended false (reader cursor)) (further : ∀ value, Cut closed (next value)) :
    Ended closed ((reader >>= next) cursor) := by
  rw [bind_run]
  cases outcome : reader cursor with
  | ok value after =>
    rw [outcome] at ended
    exact (further value).ends after ended.2
  | error error after =>
    rw [outcome] at ended
    exact ended

theorem bind {reader : Reader α} {next : α → Reader β} (first : Cut false reader)
    (further : ∀ value, Cut closed (next value)) : Cut closed (reader >>= next) where
  follows := by
    intro part whole rest result after ahead reads
    obtain ⟨value, middle, starts, continues⟩ := bind_eq_ok.mp reads
    rcases first.follows part whole rest value middle ahead starts with ⟨stop, same, left⟩ | ended
    · rw [bind_of_ok next same]
      exact (further value).follows stop middle rest result after left continues
    · exact .inr (ended_bind ended further)
  ends := fun cursor finished => ended_bind (first.ends cursor finished) further

theorem failAt (token : Token) (fault : SyntaxFault) : Cut closed (failAt token fault : Reader α) where
  follows := by
    intro part whole rest value after _ reads
    cases reads
  ends := fun cursor finished => ⟨by simp [Cursor.errorAt, Cursor.atEnd, finished], finished⟩

theorem failNext (fault : SyntaxFault) : Cut closed (failNext fault : Reader α) where
  follows := by
    intro part whole rest value after _ reads
    cases reads
  ends := fun cursor finished => ⟨by simp [Cursor.errorAt, Cursor.atEnd, finished], finished⟩

theorem failLast (fault : SyntaxFault) : Cut closed (failLast fault : Reader α) where
  follows := by
    intro part whole rest value after _ reads
    cases reads
  ends := fun cursor finished => ⟨by simp [Cursor.errorAt, Cursor.atEnd, finished], finished⟩

theorem accept_over {cursor : Cursor} (kinds : List TokenKind) (finished : cursor.ahead = []) :
    accept? kinds cursor = .ok none cursor :=
  accept_miss (by simp [Cursor.sees, finished])

theorem accept_alike {part whole after : Cursor} {rest : List Token} {kinds : List TokenKind}
    {found : Option Token} (some : part.ahead ≠ []) (ahead : whole.ahead = part.ahead ++ rest)
    (reads : accept? kinds whole = .ok found after) :
    ∃ stop, accept? kinds part = .ok found stop ∧ after.ahead = stop.ahead ++ rest := by
  obtain ⟨last, seen, final⟩ := part
  obtain ⟨_, _, _⟩ := whole
  cases seen with
  | nil => exact absurd rfl some
  | cons token others =>
    obtain rfl := ahead
    cases wanted : kinds.contains token.kind with
    | true =>
      rw [List.cons_append, accept_hit _ _ _ wanted] at reads
      cases reads
      exact ⟨_, accept_hit last final others wanted, rfl⟩
    | false =>
      rw [List.cons_append, accept_miss (by simpa only [sees_cons] using wanted)] at reads
      cases reads
      exact ⟨_, accept_miss (by simpa only [sees_cons] using wanted), rfl⟩

theorem accept (kinds : List TokenKind) : Cut false (accept? kinds) where
  follows := by
    intro part whole rest found after ahead reads
    by_cases finished : part.ahead = []
    · rw [accept_over kinds finished]
      exact .inr ⟨rfl, finished⟩
    · exact .inl (accept_alike finished ahead reads)
  ends := by
    intro cursor finished
    rw [accept_over kinds finished]
    exact ⟨rfl, finished⟩

theorem demand (kinds : List TokenKind) (result : Token → β) {miss : Reader β} (fails : Cut true miss) :
    Cut true (do
      match ← accept? kinds with
      | some token => Pure.pure (result token)
      | none => miss) where
  follows := by
    intro part whole rest value after ahead reads
    by_cases finished : part.ahead = []
    · rw [bind_of_ok _ (accept_over kinds finished)]
      exact .inr (fails.ends part finished)
    · obtain ⟨found, middle, looks, continues⟩ := bind_eq_ok.mp reads
      obtain ⟨stop, same, left⟩ := accept_alike finished ahead looks
      rw [bind_of_ok _ same]
      cases found with
      | none => exact fails.follows stop middle rest value after left continues
      | some token =>
        cases continues
        exact .inl ⟨stop, rfl, left⟩
  ends := by
    intro cursor finished
    rw [bind_of_ok _ (accept_over kinds finished)]
    exact fails.ends cursor finished

theorem expect (kind : TokenKind) (fault : SyntaxFault) : Cut true (expect kind fault) :=
  demand [kind] id (failNext fault)

theorem loosen {reader : Reader α} (cut : Cut true reader) : Cut false reader := by
  have looser {outcome : EStateM.Result SyntaxError Cursor α} (ended : Ended true outcome) :
      Ended false outcome := by
    cases outcome with
    | ok value after => exact absurd ended.1 (by decide)
    | error error after => exact ended
  constructor
  · intro part whole rest value after ahead reads
    exact (cut.follows part whole rest value after ahead reads).imp_right looser
  · intro cursor finished
    exact looser (cut.ends cursor finished)

theorem thenPure {reader : Reader α} (cut : Cut closed reader) (result : α → β) :
    Cut closed (do
      let value ← reader
      Pure.pure (result value)) := by
  have kept {cursor : Cursor} (ended : Ended closed (reader cursor)) :
      Ended closed ((reader >>= fun value => (Pure.pure (result value) : Reader β)) cursor) := by
    rw [bind_run]
    cases outcome : reader cursor with
    | ok value after =>
      rw [outcome] at ended
      exact ended
    | error error after =>
      rw [outcome] at ended
      exact ended
  constructor
  · intro part whole rest _ after ahead reads
    obtain ⟨value, middle, starts, continues⟩ := bind_eq_ok.mp reads
    cases continues
    rcases cut.follows part whole rest value after ahead starts with ⟨stop, same, left⟩ | ended
    · exact .inl ⟨stop, bind_of_ok _ same, left⟩
    · exact .inr (kept ended)
  · intro cursor finished
    exact kept (cut.ends cursor finished)

end Cut

theorem expression_cut (room : Nat) : Cut false (expression room) := by
  have composed : Composed fun _ reader => Cut false reader :=
    { pure := .pure
      bind := .bind
      accept := fun _ => .accept _
      failNext := fun _ => .failNext _
      failAt := fun token _ _ => .failAt token _ }
  exact composed.expression room

theorem letStatement_cut (room : Nat) : Cut true (letStatement room) := by
  refine (Cut.expect _ _).loosen.bind fun name => ?_
  refine (Cut.accept _).bind fun found => ?_
  have finish (initializer : Expr) : Cut true (do
      match ← accept? [.semicolon] with
      | some _ => Pure.pure (Stmt.letIn name initializer)
      | none => failLast .semicolonAfterDeclaration) :=
    .demand _ (fun _ => Stmt.letIn name initializer) (.failLast _)
  cases found with
  | some equals => exact (expression_cut room).bind finish
  | none => exact (Cut.pure (.nil name)).bind finish

theorem simpleStatement_cut (room : Nat) : Cut true (simpleStatement room) := by
  refine (Cut.accept _).bind fun found => ?_
  cases found with
  | some keyword => exact letStatement_cut room
  | none =>
    refine (Cut.accept _).bind fun found => ?_
    cases found with
    | some keyword => exact (expression_cut room).bind fun value => (Cut.expect _ _).thenPure _
    | none => exact (expression_cut room).bind fun value => (Cut.expect _ _).thenPure _

end Scriptlet.Reader

namespace Scriptlet

theorem sees_alike {part whole : Cursor} {rest : List Token} (kinds : List TokenKind)
    (some : part.ahead ≠ []) (ahead : whole.ahead = part.ahead ++ rest) :
    whole.sees kinds = part.sees kinds ∧ whole.next = part.next ∧
      whole.advance.ahead = part.advance.ahead ++ rest := by
  obtain ⟨last, seen, final⟩ := part
  obtain ⟨_, _, _⟩ := whole
  cases seen with
  | nil => exact absurd rfl some
  | cons token others =>
    obtain rfl := ahead
    exact ⟨rfl, rfl, rfl⟩

namespace Recovery

/-- Findings that break off at the end of the tokens, with no error but for want of more. -/
structure BreaksOff {α : Type} (findings : Findings α) : Prop where
  finished : findings.cursor.ahead = []
  some : findings.errors ≠ []
  truncated : ∀ error ∈ findings.errors, error.truncated = true

def StatementCut (room : Nat) : Prop :=
  ∀ (part whole : Cursor) (rest : List Token) (stmt : Stmt) (after : Cursor),
    whole.ahead = part.ahead ++ rest → Reader.statement room whole = .ok stmt after →
    (∃ stop, statement room part = ⟨some stmt, [], stop⟩ ∧ after.ahead = stop.ahead ++ rest) ∨
      BreaksOff (statement room part)

theorem settle_breaksOff {outcome : EStateM.Result SyntaxError Cursor Stmt}
    (ended : Reader.Ended true outcome) : BreaksOff (settle outcome) := by
  cases outcome with
  | ok stmt after => exact absurd ended.1 (by decide)
  | error error after =>
    obtain ⟨truncated, finished⟩ := ended
    exact ⟨by simp [settle, synchronize, finished], by simp [settle], by simpa [settle] using truncated⟩

/-- Statements read from a part where the whole has statements up to a stop: all of them if the part
reaches the stop; or as many as the part holds, and the others come after it; or the part breaks off
within one. -/
def UntilCut (stop : Cursor → Bool) (room : Nat) (part : Cursor) : Prop :=
  ∀ (whole : Cursor) (rest : List Token) (statements : List Stmt) (after : Cursor),
    whole.ahead = part.ahead ++ rest →
    Reader.statementsUntil stop (Reader.statement room) whole = .ok statements after →
    let findings := statementsUntil stop (statement room) part
    (findings.found = statements ∧ findings.errors = [] ∧ findings.cursor.ahead ≠ [] ∧
      after.ahead = findings.cursor.ahead ++ rest) ∨
    (findings.errors = [] ∧ findings.cursor.ahead = [] ∧ ∃ middle others, middle.ahead = rest ∧
      statements = findings.found ++ others ∧
      Reader.statementsUntil stop (Reader.statement room) middle = .ok others after) ∨
    BreaksOff findings

def LooksAtNext (stop : Cursor → Bool) : Prop :=
  ∀ (part whole : Cursor) (rest : List Token), part.ahead ≠ [] → whole.ahead = part.ahead ++ rest →
    stop whole = stop part

theorem statementsUntil_over (stop : Cursor → Bool) (item : Cursor → Findings (Option Stmt))
    {cursor : Cursor} (finished : cursor.ahead = []) :
    statementsUntil stop item cursor = ⟨[], [], cursor⟩ := by
  rw [statementsUntil, if_pos (by simp [Cursor.atEnd, finished])]

theorem statementsUntil_breaksOff {stop : Cursor → Bool} {item : Cursor → Findings (Option Stmt)}
    {cursor : Cursor} (goesOn : ¬ (cursor.atEnd || stop cursor) = true)
    (breaks : BreaksOff (item cursor)) : BreaksOff (statementsUntil stop item cursor) := by
  rw [statementsUntil, if_neg goesOn]
  dsimp only
  split
  -- There is nothing left to read, so no error is added.
  · rw [statementsUntil_over stop _ breaks.finished]
    exact ⟨breaks.finished, by simpa using breaks.some, by simpa using breaks.truncated⟩
  · exact ⟨breaks.finished, breaks.some, breaks.truncated⟩

theorem statementsUntil_cut {stop : Cursor → Bool} {room : Nat} (looks : LooksAtNext stop)
    (items : StatementCut room) (part : Cursor) : UntilCut stop room part := by
  -- On the length of the part: where it goes on, the first statement is read from both alike.
  induction part using (measure fun cursor : Cursor => cursor.ahead.length).wf.induction with
  | h part ih =>
  intro whole rest statements after ahead reads
  by_cases finished : part.ahead = []
  · rw [statementsUntil_over stop _ finished]
    exact .inr (.inl ⟨rfl, finished, whole, statements, by simpa [finished] using ahead, rfl, reads⟩)
  have notOver : whole.atEnd = false := by simp [Cursor.atEnd, ahead, finished]
  have notOverPart : part.atEnd = false := by simp [Cursor.atEnd, finished]
  have sameStop := looks part whole rest finished ahead
  by_cases stops : stop part = true
  · rw [Reader.statementsUntil, if_pos (by simp [sameStop, stops])] at reads
    rw [statementsUntil, if_pos (by simp [stops])]
    cases reads
    exact .inl ⟨rfl, rfl, finished, ahead⟩
  have goesOn : ¬ (part.atEnd || stop part) = true := by simp [notOverPart, stops]
  rw [Reader.statementsUntil, if_neg (by simp [notOver, sameStop, stops])] at reads
  cases outcome : Reader.statement room whole with
  | error error middle => simp [outcome] at reads
  | ok stmt middle =>
    simp only [outcome] at reads
    rcases items part whole rest stmt middle ahead outcome with ⟨between, same, left⟩ | breaks
    · have progress : middle.ahead.length < whole.ahead.length ↔
          between.ahead.length < part.ahead.length := by
        rw [ahead, left, List.length_append, List.length_append]
        omega
      rw [statementsUntil, if_neg goesOn]
      simp only [same, List.nil_append]
      by_cases shorter : between.ahead.length < part.ahead.length
      · simp only [progress.mpr shorter, if_true] at reads
        simp only [shorter, if_true]
        cases follows : Reader.statementsUntil stop (Reader.statement room) middle with
        | error error last => simp [follows] at reads
        | ok others last =>
          simp only [follows] at reads
          cases reads
          rcases ih between shorter middle rest others after left follows with
            ⟨found, none, more, final⟩ | ⟨none, empty, further, last, position, split, continues⟩ | breaks
          · exact .inl ⟨by simp [found], none, more, final⟩
          · exact .inr (.inl ⟨none, empty, further, last, position, by simp [split], continues⟩)
          · exact .inr (.inr ⟨breaks.finished, breaks.some, breaks.truncated⟩)
      -- Neither reader goes on from a statement that took nothing.
      · simp only [mt progress.mp shorter, if_false] at reads
        simp only [shorter, if_false]
        cases reads
        have more : between.ahead ≠ [] := by
          intro none
          rw [none] at shorter
          exact shorter (List.length_pos_iff.mpr finished)
        exact .inl ⟨rfl, trivial, more, left⟩
    · exact .inr (.inr (statementsUntil_breaksOff goesOn breaks))

theorem looksAtNext_closesBlock : LooksAtNext Reader.closesBlock := by
  intro part whole rest some ahead
  exact (sees_alike _ some ahead).1

theorem breaksOff_block {α : Type} {body : Findings α} (finished : body.cursor.ahead = [])
    (truncated : ∀ error ∈ body.errors, error.truncated = true) :
    let missing := settle (Reader.failNext .braceAfterBlock body.cursor)
    BreaksOff { missing with errors := body.errors ++ missing.errors } := by
  intro missing
  have ended : Reader.Ended true (Reader.failNext .braceAfterBlock body.cursor :
      EStateM.Result SyntaxError Cursor Stmt) := (Reader.Cut.failNext .braceAfterBlock).ends _ finished
  have breaks : BreaksOff missing := settle_breaksOff ended
  refine ⟨breaks.finished, by simp [breaks.some], ?_⟩
  exact List.forall_mem_append.mpr ⟨truncated, breaks.truncated⟩

theorem statement_plain {cursor : Cursor} (room : Nat) (plain : cursor.sees [.leftBrace] = false) :
    statement room cursor = settle (Reader.simpleStatement room cursor) := by
  rw [statement.eq_def, plain]
  rfl

theorem statement_over {cursor : Cursor} (room : Nat) (finished : cursor.ahead = []) :
    BreaksOff (statement room cursor) := by
  rw [statement_plain room (by simp [Cursor.sees, finished])]
  exact settle_breaksOff ((Reader.simpleStatement_cut room).ends cursor finished)

/-- A block of the whole, read from the part: the part holds its closing brace or breaks off inside. -/
theorem block_cut {room : Nat} (items : StatementCut room) {part whole after : Cursor}
    {rest : List Token} {stmt : Stmt} (opens : part.sees [.leftBrace] = true)
    (next : whole.next = part.next) (ahead : whole.advance.ahead = part.advance.ahead ++ rest)
    (reads : (do
      let body ← Reader.statementsUntil Reader.closesBlock (Reader.statement room)
      let _ ← Reader.expect .rightBrace .braceAfterBlock
      pure (Stmt.block whole.next body)) whole.advance = .ok stmt after) :
    (∃ stop, statement (room + 1) part = ⟨some stmt, [], stop⟩ ∧ after.ahead = stop.ahead ++ rest) ∨
      BreaksOff (statement (room + 1) part) := by
  obtain ⟨body, middle, inside, closing⟩ := bind_eq_ok.mp reads
  obtain ⟨close, last, closes, result⟩ := bind_eq_ok.mp closing
  cases result
  have cut := statementsUntil_cut looksAtNext_closesBlock items part.advance whole.advance rest body
    middle ahead inside
  rw [statement, if_pos opens]
  generalize statementsUntil Reader.closesBlock (statement room) part.advance = findings at cut
  dsimp only at cut ⊢
  rcases cut with ⟨found, none, more, left⟩ | ⟨none, finished, -⟩ | breaks
  · obtain ⟨sees, -, advance⟩ := sees_alike [.rightBrace] more left
    cases brace : middle.sees [.rightBrace] with
    | true =>
      rw [Reader.expect_seen _ brace] at closes
      cases closes
      have closed : Reader.closesBlock findings.cursor = true := sees.symm.trans brace
      rw [if_pos closed, found, none, next]
      exact .inl ⟨_, rfl, advance⟩
    | false =>
      rw [Reader.expect_miss _ brace] at closes
      cases closes
  · rw [if_neg (by simp [Reader.closesBlock, Cursor.sees, finished])]
    exact .inr (breaksOff_block finished (by simp [none]))
  · rw [if_neg (by simp [Reader.closesBlock, Cursor.sees, breaks.finished])]
    exact .inr (breaksOff_block breaks.finished breaks.truncated)

theorem plain_cut {room : Nat} {part whole after : Cursor} {rest : List Token} {stmt : Stmt}
    (plain : part.sees [.leftBrace] = false) (ahead : whole.ahead = part.ahead ++ rest)
    (reads : Reader.simpleStatement room whole = .ok stmt after) :
    (∃ stop, statement room part = ⟨some stmt, [], stop⟩ ∧ after.ahead = stop.ahead ++ rest) ∨
      BreaksOff (statement room part) := by
  rw [statement_plain room plain]
  rcases (Reader.simpleStatement_cut room).follows part whole rest stmt after ahead reads with
    ⟨stop, same, left⟩ | ended
  · rw [same]
    exact .inl ⟨stop, rfl, left⟩
  · exact .inr (settle_breaksOff ended)

theorem statement_cut (room : Nat) : StatementCut room := by
  induction room with
  | zero =>
    intro part whole rest stmt after ahead reads
    by_cases finished : part.ahead = []
    · exact .inr (statement_over 0 finished)
    obtain ⟨sees, -, -⟩ := sees_alike [.leftBrace] finished ahead
    rw [Reader.statement_eq, sees] at reads
    cases opens : part.sees [.leftBrace] with
    | true =>
      simp only [opens, if_true] at reads
      cases reads
    | false =>
      simp only [opens, Bool.false_eq_true, if_false] at reads
      exact plain_cut opens ahead reads
  | succ room ih =>
    intro part whole rest stmt after ahead reads
    by_cases finished : part.ahead = []
    · exact .inr (statement_over _ finished)
    obtain ⟨sees, next, advance⟩ := sees_alike [.leftBrace] finished ahead
    rw [Reader.statement_eq, sees] at reads
    cases opens : part.sees [.leftBrace] with
    | true =>
      simp only [opens, if_true] at reads
      exact block_cut ih opens next advance reads
    | false =>
      simp only [opens, Bool.false_eq_true, if_false] at reads
      exact plain_cut opens ahead reads

end Recovery

theorem allLevels_append (first second : List Stmt) :
    Stmt.allLevels (first ++ second) = Nat.max (Stmt.allLevels first) (Stmt.allLevels second) := by
  induction first with
  | nil => simp [Stmt.allLevels]
  | cons stmt rest ih => simp [Stmt.allLevels, ih, Nat.max_assoc]

theorem readStrict_levels {tokens : List Token} {final : Token} {statements : List Stmt}
    (inner : ∀ token ∈ tokens, token.isEnd = false) (ends : final.isEnd = true)
    (reads : readStrict (tokens ++ [final]) = .ok statements) :
    Stmt.allLevels statements ≤ maxNesting := by
  have complete := readStrict_complete inner ends (readStrict_sentence inner ends reads)
  by_contra deep
  obtain ⟨error, fails, -⟩ := complete.2 (Nat.lt_of_not_le deep)
  rw [fails] at reads
  cases reads

/-- Reading the first tokens of a program. Either they are a program by themselves, and so are the
others; or they break off, and every error in them is for want of more. -/
theorem readAll_part {first second : List Token} {final : Token} (finalOfPart : Token)
    {statements : List Stmt} (inner : ∀ token ∈ first ++ second, token.isEnd = false)
    (ends : final.isEnd = true) (endsPart : finalOfPart.isEnd = true)
    (reads : readStrict (first ++ second ++ [final]) = .ok statements) :
    (∃ found others, readAll (first ++ [finalOfPart]) = (found, []) ∧ statements = found ++ others ∧
      readStrict (second ++ [final]) = .ok others) ∨
    ((readAll (first ++ [finalOfPart])).2 ≠ [] ∧
      ∀ error ∈ (readAll (first ++ [finalOfPart])).2, error.truncated = true) := by
  obtain ⟨innerFirst, innerSecond⟩ := List.forall_mem_append.mp inner
  have levels := readStrict_levels inner ends reads
  have looks : Recovery.LooksAtNext fun _ => false := fun _ _ _ _ _ => rfl
  unfold readStrict at reads
  rw [ofTokens_whole inner ends] at reads
  unfold readAll
  rw [ofTokens_whole innerFirst endsPart]
  split at reads
  · next read after reading =>
    cases reads
    have finished : after.ahead = [] := by
      have stops := (Reader.statementsUntil_reads _ (Reader.statement_reads maxNesting) _ reading).1
      simpa [Cursor.atEnd] using stops
    rcases Recovery.statementsUntil_cut looks (Recovery.statement_cut maxNesting)
      ⟨first.headD finalOfPart, first, finalOfPart⟩ _ second statements after rfl reading with
      ⟨-, -, more, left⟩ | ⟨none, -, middle, others, position, split, continues⟩ | breaks
    -- The whole is read to its end, so no part of it can stop before its own.
    · rw [finished] at left
      exact absurd (List.append_eq_nil_iff.mp left.symm).1 more
    · obtain ⟨-, taken, ahead, -, sentence⟩ :=
        Reader.statementsUntil_reads _ (Reader.statement_reads maxNesting) _ continues
      rw [finished, List.append_nil, position] at ahead
      subst ahead
      -- The others are read from the start of the nesting again, and they fitted before.
      have fits : Stmt.allLevels others ≤ maxNesting := by
        rw [split, allLevels_append] at levels
        exact (Nat.max_le.mp levels).2
      refine .inl ⟨_, others, Prod.ext rfl none, split, ?_⟩
      exact (readStrict_complete innerSecond ends sentence).1 fits
    · exact .inr ⟨breaks.some, breaks.truncated⟩
  · cases reads

end Scriptlet
