import Mathlib
import Scriptlet.Proofs.Truncation

/-! Reading on after a semicolon. No reader of expressions passes a semicolon, and a broken statement is
skipped no further than past the next one. So what is read up to a semicolon does not depend on what comes
after it, and what comes after is read as if it stood alone. -/
namespace Scriptlet

structure Reader.Parallel (states : Cursor → Cursor → Prop) : Prop where
  next : ∀ part whole, states part whole → whole.next = part.next
  atEnd : ∀ part whole, states part whole → whole.atEnd = part.atEnd
  advance : ∀ part whole, states part whole → part.next.kind ≠ .semicolon →
    states part.advance whole.advance

theorem Cursor.sees_eq (cursor : Cursor) (kinds : List TokenKind) :
    cursor.sees kinds = (!cursor.atEnd && kinds.contains cursor.next.kind) := by
  obtain ⟨last, ahead, final⟩ := cursor
  cases ahead with
  | nil => rfl
  | cons token rest => simp [sees, atEnd, next]

namespace Reader

section Parallel

variable {α : Type} {states : Cursor → Cursor → Prop} (parallel : Parallel states)

include parallel

theorem sees_parallel {part whole : Cursor} (beside : states part whole) (kinds : List TokenKind) :
    whole.sees kinds = part.sees kinds := by
  rw [Cursor.sees_eq, Cursor.sees_eq, parallel.next part whole beside, parallel.atEnd part whole beside]

theorem accept_parallel {kinds : List TokenKind} (inside : .semicolon ∉ kinds) :
    Follows Eq states (accept? kinds) (accept? kinds) := by
  intro part whole beside
  have same := sees_parallel parallel beside kinds
  cases seen : part.sees kinds with
  | true =>
    have wanted : part.next.kind ∈ kinds := by
      rw [Cursor.sees_eq, Bool.and_eq_true] at seen
      exact List.contains_iff_mem.mp seen.2
    rw [accept_seen seen, accept_seen (same.trans seen), parallel.next part whole beside]
    apply Alike.ok
    apply parallel.advance part whole beside
    intro semicolon
    exact inside (semicolon ▸ wanted)
  | false =>
    rw [accept_miss seen, accept_miss (same.trans seen)]
    exact .ok beside

theorem failNext_parallel (fault : SyntaxFault) :
    Follows Eq states (failNext fault : Reader α) (failNext fault) := by
  intro part whole beside
  refine .error ?_ beside
  rw [Cursor.errorAt, Cursor.errorAt, parallel.next part whole beside, parallel.atEnd part whole beside]

theorem failAt_parallel (token : Token) (fault : SyntaxFault) :
    Follows Eq states (failAt token fault : Reader α) (failAt token fault) := by
  intro part whole beside
  refine .error ?_ beside
  rw [Cursor.errorAt, Cursor.errorAt, parallel.atEnd part whole beside]

theorem expect_parallel {kind : TokenKind} (fault : SyntaxFault) (inside : kind ≠ .semicolon) :
    Follows Eq states (expect kind fault) (expect kind fault) := by
  refine follows_bind (accept_parallel parallel (by simpa using inside.symm)) ?_
  intro found
  cases found with
  | some token => exact follows_pure token
  | none => exact failNext_parallel parallel fault

/-- Readers of expressions do the same from cursors that show the same tokens up to a semicolon. -/
theorem expression_parallel (room : Nat) :
    Follows Eq states (expression room) (expression room) := by
  have composed : Composed fun _ reader => Follows Eq states reader reader :=
    { pure := follows_pure
      bind := follows_bind
      accept := accept_parallel parallel
      failNext := fun _ => failNext_parallel parallel _
      failAt := fun token _ _ => failAt_parallel parallel token _ }
  exact composed.expression room

end Parallel

end Reader

/-! A part that ends with a semicolon, and a whole that goes on after it. -/

def EndsStatement (tokens : List Token) : Prop :=
  ∃ token, tokens.getLast? = some token ∧ token.kind = .semicolon

theorem endsStatement_suffix {tokens rest : List Token} (ends : EndsStatement tokens)
    (suffix : rest <:+ tokens) (some : rest ≠ []) : EndsStatement rest := by
  obtain ⟨token, last, semicolon⟩ := ends
  obtain ⟨front, rfl⟩ := suffix
  rw [List.getLast?_append_of_ne_nil _ some] at last
  exact ⟨token, last, semicolon⟩

/-- The part has come to the end of the tokens, or is somewhere within them. The whole is where it is, and
has the tokens of `rest` after those of the part. -/
structure Cursor.Within (tokens rest : List Token) (final : Token) (part whole : Cursor) : Prop where
  last : whole.last = part.last
  ahead : whole.ahead = part.ahead ++ rest
  final : whole.final = final
  suffix : part.ahead <:+ tokens

structure Cursor.Before (tokens rest : List Token) (final : Token) (part whole : Cursor) : Prop
    extends Cursor.Within tokens rest final part whole where
  some : part.ahead ≠ []

section Before

variable {tokens rest : List Token} {final : Token} {part whole : Cursor}

theorem Cursor.Before.cons (before : part.Before tokens rest final whole) :
    ∃ token more, part.ahead = token :: more ∧ whole.ahead = token :: (more ++ rest) := by
  obtain ⟨token, more, ahead⟩ := List.exists_cons_of_ne_nil before.some
  refine ⟨token, more, ahead, ?_⟩
  rw [before.ahead, ahead, List.cons_append]

theorem Cursor.Before.advance (before : part.Before tokens rest final whole) :
    part.advance.Within tokens rest final whole.advance := by
  obtain ⟨token, more, ahead, aheadToo⟩ := before.cons
  have suffix := before.suffix
  rw [ahead] at suffix
  constructor
  · simp [Cursor.advance, ahead, aheadToo]
  · simp [Cursor.advance, ahead, aheadToo]
  · simpa [Cursor.advance, ahead, aheadToo] using before.final
  · simpa [Cursor.advance, ahead] using (List.suffix_cons token more).trans suffix

theorem parallel_before (ends : EndsStatement tokens) :
    Reader.Parallel (Cursor.Before tokens rest final) where
  next := by
    intro part whole before
    obtain ⟨token, more, ahead, aheadToo⟩ := before.cons
    simp [Cursor.next, ahead, aheadToo]
  atEnd := by
    intro part whole before
    obtain ⟨token, more, ahead, aheadToo⟩ := before.cons
    simp [Cursor.atEnd, ahead, aheadToo]
  advance := by
    intro part whole before noSemicolon
    refine ⟨before.advance, ?_⟩
    obtain ⟨token, more, ahead, -⟩ := before.cons
    -- Only the semicolon is the last token.
    obtain ⟨last, isLast, semicolon⟩ := endsStatement_suffix ends before.suffix before.some
    rintro none
    have alone : more = [] := by simpa [Cursor.advance, ahead] using none
    rw [ahead, alone, List.getLast?_singleton, Option.some.injEq] at isLast
    apply noSemicolon
    simpa [Cursor.next, ahead, isLast] using semicolon

end Before

namespace Reader

/-- Two outcomes alike, one for a part and one for the whole. A statement may end with the part, but where
reading fails something of the part is left. -/
inductive Closes {α : Type} (tokens rest : List Token) (final : Token) :
    EStateM.Result SyntaxError Cursor α → EStateM.Result SyntaxError Cursor α → Prop
  | ok {value : α} {stop after : Cursor} (within : stop.Within tokens rest final after) :
      Closes tokens rest final (.ok value stop) (.ok value after)
  | error {error : SyntaxError} {stop after : Cursor} (before : stop.Before tokens rest final after) :
      Closes tokens rest final (.error error stop) (.error error after)

def ClosesAlike {α : Type} (tokens rest : List Token) (final : Token) (reader : Reader α) : Prop :=
  ∀ part whole, part.Before tokens rest final whole →
    Closes tokens rest final (reader part) (reader whole)

section Closing

variable {α β : Type} {tokens rest : List Token} {final : Token}

theorem closes_bind {reader : Reader α} {next : α → Reader β}
    (first : Follows Eq (Cursor.Before tokens rest final) reader reader)
    (further : ∀ value, ClosesAlike tokens rest final (next value)) :
    ClosesAlike tokens rest final (reader >>= next) := by
  intro part whole before
  have alike := first part whole before
  rw [bind_run, bind_run]
  generalize reader part = outcome at alike
  generalize reader whole = outcomeToo at alike
  cases alike with
  | ok later => exact further _ _ _ later
  | error same later =>
    subst same
    exact .error later

variable (ends : EndsStatement tokens)

include ends

theorem closes_semicolon {reader : Reader β} {value : β}
    (takes : ∀ cursor, cursor.sees [.semicolon] = true → reader cursor = .ok value cursor.advance)
    (misses : ∀ part whole, part.Before tokens rest final whole → part.sees [.semicolon] = false →
      whole.sees [.semicolon] = false →
      ∃ error, reader part = .error error part ∧ reader whole = .error error whole) :
    ClosesAlike tokens rest final reader := by
  intro part whole before
  have same := sees_parallel (parallel_before ends) before [.semicolon]
  cases seen : part.sees [.semicolon] with
  | true =>
    rw [takes part seen, takes whole (same.trans seen)]
    exact .ok before.advance
  | false =>
    obtain ⟨error, failsPart, failsWhole⟩ := misses part whole before seen (same.trans seen)
    rw [failsPart, failsWhole]
    exact .error before

theorem closes_expect (fault : SyntaxFault) (result : Stmt) :
    ClosesAlike tokens rest final (do
      let _ ← expect .semicolon fault
      pure result) := by
  apply closes_semicolon ends
  · intro cursor seen
    exact bind_of_ok _ (expect_seen fault seen)
  · intro part whole before missed missedToo
    have parallel : Parallel (Cursor.Before tokens rest final) := parallel_before ends
    have fails (cursor : Cursor) (miss : cursor.sees [.semicolon] = false) :
        expect .semicolon fault cursor = .error (cursor.errorAt cursor.next fault) cursor :=
      expect_miss fault miss
    refine ⟨_, bind_of_error _ (fails part missed), ?_⟩
    rw [bind_of_error _ (fails whole missedToo), Cursor.errorAt, Cursor.errorAt,
      parallel.next part whole before, parallel.atEnd part whole before]

theorem closes_last {reader : Reader Stmt} (value : Stmt) (fault : SyntaxFault)
    (takes : ∀ cursor, cursor.sees [.semicolon] = true → reader cursor = .ok value cursor.advance)
    (misses : ∀ cursor, cursor.sees [.semicolon] = false →
      reader cursor = .error (cursor.errorAt cursor.last fault) cursor) :
    ClosesAlike tokens rest final reader := by
  apply closes_semicolon ends takes
  intro part whole before missed missedToo
  have parallel : Parallel (Cursor.Before tokens rest final) := parallel_before ends
  refine ⟨_, misses part missed, ?_⟩
  rw [misses whole missedToo, Cursor.errorAt, Cursor.errorAt, before.last,
    parallel.atEnd part whole before]

theorem letStatement_closes (room : Nat) : ClosesAlike tokens rest final (letStatement room) := by
  have parallel : Parallel (Cursor.Before tokens rest final) := parallel_before ends
  refine closes_bind (expect_parallel parallel _ (by decide)) fun name => ?_
  refine closes_bind (accept_parallel parallel (by decide)) fun found => ?_
  cases found with
  | some equals =>
    refine closes_bind (expression_parallel parallel room) fun initializer => ?_
    apply closes_last ends (.letIn name initializer) .semicolonAfterDeclaration
    · exact fun cursor seen => bind_of_ok _ (accept_seen seen)
    · exact fun cursor missed => bind_of_ok _ (accept_miss missed)
  | none =>
    refine closes_bind (follows_pure (Expr.nil name)) fun initializer => ?_
    apply closes_last ends (.letIn name initializer) .semicolonAfterDeclaration
    · exact fun cursor seen => bind_of_ok _ (accept_seen seen)
    · exact fun cursor missed => bind_of_ok _ (accept_miss missed)

theorem simpleStatement_closes (room : Nat) : ClosesAlike tokens rest final (simpleStatement room) := by
  have parallel : Parallel (Cursor.Before tokens rest final) := parallel_before ends
  refine closes_bind (accept_parallel parallel (by decide)) fun found => ?_
  cases found with
  | some keyword => exact letStatement_closes ends room
  | none =>
    refine closes_bind (accept_parallel parallel (by decide)) fun found => ?_
    cases found with
    | some keyword =>
      exact closes_bind (expression_parallel parallel room) fun value => closes_expect ends _ _
    | none =>
      exact closes_bind (expression_parallel parallel room) fun value => closes_expect ends _ _

end Closing

end Reader

namespace Recovery

structure Matches {α : Type} (states : Cursor → Cursor → Prop) (first second : Findings α) : Prop where
  found : second.found = first.found
  errors : second.errors = first.errors
  cursor : states first.cursor second.cursor

theorem skip_append {token : Token} {more : List Token} (ends : EndsStatement (token :: more))
    (rest : List Token) :
    skip token (more ++ rest) = ((skip token more).1, (skip token more).2 ++ rest) := by
  -- Skipping comes to a stop past the last semicolon at the latest.
  induction more generalizing token with
  | nil =>
    obtain ⟨last, isLast, semicolon⟩ := ends
    rw [List.getLast?_singleton, Option.some.injEq] at isLast
    subst isLast
    cases rest with
    | nil => rfl
    | cons next others => simp [skip, semicolon]
  | cons next others ih =>
    rw [List.cons_append, skip, skip]
    split
    · rfl
    · exact ih (endsStatement_suffix ends (List.suffix_cons _ _) (by simp))

theorem skip_suffix (last : Token) (tokens : List Token) : (skip last tokens).2 <:+ tokens := by
  induction tokens generalizing last with
  | nil => exact List.suffix_refl _
  | cons token rest ih =>
    rw [skip]
    split
    · exact List.suffix_refl _
    · exact (ih token).trans (List.suffix_cons _ _)

theorem synchronize_within {tokens rest : List Token} {final : Token} {part whole : Cursor}
    (ends : EndsStatement tokens) (before : part.Before tokens rest final whole) :
    (synchronize part).Within tokens rest final (synchronize whole) := by
  obtain ⟨token, more, ahead, aheadToo⟩ := before.cons
  have suffix := before.suffix
  rw [ahead] at suffix
  have skips := skip_append (endsStatement_suffix ends suffix (by simp)) rest
  constructor
  · simp [synchronize, ahead, aheadToo, skips]
  · simp [synchronize, ahead, aheadToo, skips]
  · simpa [synchronize, aheadToo] using before.final
  · have left : (skip token more).2 <:+ tokens :=
      (skip_suffix token more).trans ((List.suffix_cons _ _).trans suffix)
    simpa [synchronize, ahead] using left

theorem synchronize_shortens {cursor : Cursor} (some : cursor.ahead ≠ []) :
    (synchronize cursor).ahead.length < cursor.ahead.length := by
  obtain ⟨token, more, ahead⟩ := List.exists_cons_of_ne_nil some
  have shorter := (skip_suffix token more).length_le
  simp only [synchronize, ahead, List.length_cons]
  omega

theorem settle_within {tokens rest : List Token} {final : Token}
    {outcome outcomeToo : EStateM.Result SyntaxError Cursor Stmt} (ends : EndsStatement tokens)
    (closes : Reader.Closes tokens rest final outcome outcomeToo) :
    Matches (Cursor.Within tokens rest final) (settle outcome) (settle outcomeToo) := by
  cases closes with
  | ok within => exact ⟨rfl, rfl, within⟩
  | error before => exact ⟨rfl, rfl, synchronize_within ends before⟩

theorem statement_within {tokens rest : List Token} {final : Token} {part whole : Cursor}
    (ends : EndsStatement tokens) (plain : ∀ token ∈ tokens, token.kind ≠ .leftBrace) (room : Nat)
    (before : part.Before tokens rest final whole) :
    Matches (Cursor.Within tokens rest final) (statement room part) (statement room whole) := by
  obtain ⟨token, more, ahead, aheadToo⟩ := before.cons
  have member : token ∈ tokens := before.suffix.subset (by simp [ahead])
  have noBlock : part.sees [.leftBrace] = false := by simpa [Cursor.sees, ahead] using plain token member
  have noBlockToo : whole.sees [.leftBrace] = false := by
    simpa [Cursor.sees, aheadToo] using plain token member
  rw [statement_plain room noBlock, statement_plain room noBlockToo]
  exact settle_within ends (Reader.simpleStatement_closes ends room part whole before)

/-- A statement that is no block takes at least one token, also when it is broken. -/
theorem statement_shortens {cursor : Cursor} (ends : EndsStatement cursor.ahead)
    (plain : cursor.sees [.leftBrace] = false) (some : cursor.ahead ≠ []) (room : Nat) :
    (statement room cursor).cursor.ahead.length < cursor.ahead.length := by
  have here : cursor.Before cursor.ahead [] cursor.final cursor :=
    ⟨⟨rfl, (List.append_nil _).symm, rfl, List.suffix_refl _⟩, some⟩
  have closes := Reader.simpleStatement_closes ends room cursor cursor here
  rw [statement_plain room plain]
  cases outcome : Reader.simpleStatement room cursor with
  | ok stmt after => exact Reader.reads_shortens (Reader.simpleStatement_reads room) outcome
  | error error after =>
    rw [outcome] at closes
    cases closes with
    | error before =>
      exact Nat.lt_of_lt_of_le (synchronize_shortens before.some) before.suffix.length_le

def never (_ : Cursor) : Bool := false

theorem statementsUntil_next {room : Nat} {cursor : Cursor} (some : cursor.ahead ≠ [])
    (shorter : (statement room cursor).cursor.ahead.length < cursor.ahead.length) :
    statementsUntil never (statement room) cursor =
      let first := statement room cursor
      let others := statementsUntil never (statement room) first.cursor
      ⟨first.found.toList ++ others.found, first.errors ++ others.errors, others.cursor⟩ := by
  rw [statementsUntil, if_neg (by simpa [Cursor.atEnd, never] using some)]
  simp only [shorter, if_true]

theorem statementsUntil_stuck {room : Nat} {cursor : Cursor} (some : cursor.ahead ≠ [])
    (stuck : ¬ (statement room cursor).cursor.ahead.length < cursor.ahead.length) :
    statementsUntil never (statement room) cursor =
      let first := statement room cursor
      ⟨first.found.toList, first.errors, first.cursor⟩ := by
  rw [statementsUntil, if_neg (by simpa [Cursor.atEnd, never] using some)]
  simp only [stuck, if_false]

theorem statementsUntil_within {tokens rest : List Token} {final : Token} (ends : EndsStatement tokens)
    (plain : ∀ token ∈ tokens, token.kind ≠ .leftBrace) (room : Nat) (part whole : Cursor)
    (within : part.Within tokens rest final whole) :
    ∃ stop : Cursor, stop.ahead = rest ∧ stop.final = final ∧
      let first := statementsUntil never (statement room) part
      let second := statementsUntil never (statement room) stop
      let all := statementsUntil never (statement room) whole
      all.found = first.found ++ second.found ∧ all.errors = first.errors ++ second.errors := by
  -- On the length of the part: each statement takes some of it, and the same of the whole.
  induction part using (measure fun cursor : Cursor => cursor.ahead.length).wf.induction generalizing whole with
  | h part ih =>
  by_cases empty : part.ahead = []
  · refine ⟨whole, by simpa [empty] using within.ahead, within.final, ?_⟩
    rw [statementsUntil_over never _ empty]
    exact ⟨rfl, rfl⟩
  have before : part.Before tokens rest final whole := ⟨within, empty⟩
  obtain ⟨found, errors, cursor⟩ := statement_within ends plain room before
  obtain ⟨token, more, ahead, aheadToo⟩ := before.cons
  have member : token ∈ tokens := before.suffix.subset (by simp [ahead])
  have shorter := statement_shortens (endsStatement_suffix ends within.suffix empty)
    (by simpa [Cursor.sees, ahead] using plain token member) empty room
  have shorterToo : (statement room whole).cursor.ahead.length < whole.ahead.length := by
    rw [cursor.ahead, within.ahead, List.length_append, List.length_append]
    omega
  obtain ⟨stop, stops, finals, foundLater, errorsLater⟩ := ih _ shorter _ cursor
  refine ⟨stop, stops, finals, ?_⟩
  rw [statementsUntil_next empty shorter, statementsUntil_next (by simp [aheadToo]) shorterToo]
  dsimp only
  rw [found, errors, foundLater, errorsLater]
  exact ⟨(List.append_assoc _ _ _).symm, (List.append_assoc _ _ _).symm⟩

/-! What was read before a statement does not matter to it. -/

structure SameAhead (cursor other : Cursor) : Prop where
  ahead : other.ahead = cursor.ahead
  final : other.final = cursor.final

theorem sameAhead_refl (cursor : Cursor) : SameAhead cursor cursor := ⟨rfl, rfl⟩

theorem SameAhead.advance {cursor other : Cursor} (same : SameAhead cursor other)
    (some : cursor.atEnd = false) : other.advance = cursor.advance := by
  -- Past a token, nothing is left of what was before it.
  obtain ⟨last, ahead, final⟩ := cursor
  obtain ⟨before, aheadToo, finalToo⟩ := other
  obtain rfl : aheadToo = ahead := same.ahead
  obtain rfl : finalToo = final := same.final
  cases aheadToo with
  | nil => cases some
  | cons token rest => rfl

theorem parallel_sameAhead : Reader.Parallel SameAhead where
  next := by
    intro cursor other same
    rw [Cursor.next, Cursor.next, same.ahead, same.final]
  atEnd := by
    intro cursor other same
    rw [Cursor.atEnd, Cursor.atEnd, same.ahead]
  advance := by
    intro cursor other same _
    cases some : cursor.atEnd with
    | false =>
      rw [same.advance some]
      exact sameAhead_refl _
    | true =>
      have none : cursor.ahead = [] := by simpa [Cursor.atEnd] using some
      have noneToo : other.ahead = [] := same.ahead.trans none
      simpa [Cursor.advance, none, noneToo] using same

theorem seen_atEnd {cursor : Cursor} {kinds : List TokenKind} (seen : cursor.sees kinds = true) :
    cursor.atEnd = false := by
  rw [Cursor.sees_eq, Bool.and_eq_true] at seen
  simpa using seen.1

theorem alike_refl (outcome : EStateM.Result SyntaxError Cursor Stmt) :
    Alike Eq SameAhead outcome outcome := by
  cases outcome with
  | ok stmt after => exact .ok (sameAhead_refl after)
  | error error after => exact .error rfl (sameAhead_refl after)

theorem expect_sameAhead (kind : TokenKind) (fault : SyntaxFault) :
    Follows Eq SameAhead (Reader.expect kind fault) (Reader.expect kind fault) := by
  intro cursor other same
  have sees := Reader.sees_parallel parallel_sameAhead same [kind]
  cases seen : cursor.sees [kind] with
  | true =>
    rw [Reader.expect_seen fault seen, Reader.expect_seen fault (sees.trans seen),
      parallel_sameAhead.next cursor other same, same.advance (seen_atEnd seen)]
    exact .ok (sameAhead_refl _)
  | false =>
    rw [Reader.expect_miss fault seen, Reader.expect_miss fault (sees.trans seen)]
    exact Reader.failNext_parallel parallel_sameAhead fault cursor other same

theorem accept_sameAhead {kinds : List TokenKind} {next : Option Token → Reader Stmt}
    (without : Follows Eq SameAhead (next none) (next none)) :
    Follows Eq SameAhead (Reader.accept? kinds >>= next) (Reader.accept? kinds >>= next) := by
  -- From a token on that is accepted, readers do the same; so what matters is what they do without it.
  intro cursor other same
  have sees := Reader.sees_parallel parallel_sameAhead same kinds
  cases seen : cursor.sees kinds with
  | true =>
    rw [bind_of_ok _ (Reader.accept_seen seen), bind_of_ok _ (Reader.accept_seen (sees.trans seen)),
      parallel_sameAhead.next cursor other same, same.advance (seen_atEnd seen)]
    exact alike_refl _
  | false =>
    rw [bind_of_ok _ (Reader.accept_miss seen), bind_of_ok _ (Reader.accept_miss (sees.trans seen))]
    exact without cursor other same

theorem simpleStatement_sameAhead (room : Nat) :
    Follows Eq SameAhead (Reader.simpleStatement room) (Reader.simpleStatement room) := by
  apply accept_sameAhead
  apply accept_sameAhead
  refine follows_bind (Reader.expression_parallel parallel_sameAhead room) fun value => ?_
  exact follows_bind (expect_sameAhead _ _) fun _ => follows_pure _

theorem settle_sameAhead {outcome outcomeToo : EStateM.Result SyntaxError Cursor Stmt}
    (alike : Alike Eq SameAhead outcome outcomeToo) :
    Matches SameAhead (settle outcome) (settle outcomeToo) := by
  cases alike with
  | ok same => exact ⟨rfl, rfl, same⟩
  | @error error second after other fails same =>
    subst fails
    refine ⟨rfl, rfl, ?_⟩
    show SameAhead (synchronize after) (synchronize other)
    unfold synchronize
    rw [same.ahead]
    cases after.ahead with
    | nil => exact same
    | cons token rest => exact ⟨rfl, same.final⟩

theorem statement_sameAhead (room : Nat) {cursor other : Cursor} (same : SameAhead cursor other) :
    Matches SameAhead (statement room cursor) (statement room other) := by
  have sees := Reader.sees_parallel parallel_sameAhead same [.leftBrace]
  cases seen : cursor.sees [.leftBrace] with
  | true =>
    have equal : statement room other = statement room cursor := by
      rw [statement.eq_def, statement.eq_def room cursor, if_pos seen, if_pos (sees.trans seen),
        parallel_sameAhead.next cursor other same, same.advance (seen_atEnd seen)]
    rw [equal]
    exact ⟨rfl, rfl, sameAhead_refl _⟩
  | false =>
    rw [statement_plain room seen, statement_plain room (sees.trans seen)]
    exact settle_sameAhead (simpleStatement_sameAhead room cursor other same)

theorem statementsUntil_sameAhead (room : Nat) {cursor other : Cursor} (same : SameAhead cursor other) :
    Matches SameAhead (statementsUntil never (statement room) cursor)
      (statementsUntil never (statement room) other) := by
  induction cursor using (measure fun cursor : Cursor => cursor.ahead.length).wf.induction
    generalizing other with
  | h cursor ih =>
  by_cases empty : cursor.ahead = []
  · rw [statementsUntil_over never _ empty, statementsUntil_over never _ (same.ahead.trans empty)]
    exact ⟨rfl, rfl, same⟩
  have more : other.ahead ≠ [] := same.ahead ▸ empty
  obtain ⟨found, errors, after⟩ := statement_sameAhead room same
  by_cases shorter : (statement room cursor).cursor.ahead.length < cursor.ahead.length
  · have shorterToo : (statement room other).cursor.ahead.length < other.ahead.length := by
      rw [after.ahead, same.ahead]
      exact shorter
    obtain ⟨foundLater, errorsLater, last⟩ := ih _ shorter after
    rw [statementsUntil_next empty shorter, statementsUntil_next more shorterToo]
    exact ⟨by simp only [found, foundLater], by simp only [errors, errorsLater], last⟩
  · have stuck : ¬ (statement room other).cursor.ahead.length < other.ahead.length := by
      rw [after.ahead, same.ahead]
      exact shorter
    rw [statementsUntil_stuck empty shorter, statementsUntil_stuck more stuck]
    exact ⟨by simp only [found], errors, after⟩

end Recovery

theorem ofTokens_first {tokens : List Token} (inner : ∀ token ∈ tokens, token.isEnd = false) :
    (Cursor.ofTokens tokens).ahead = tokens := by
  have all : ∀ token ∈ tokens, (!token.isEnd) = true := by simpa using inner
  exact List.takeWhile_eq_self_iff.mpr all

theorem ofTokens_append {first second : List Token} (inner : ∀ token ∈ first, token.isEnd = false)
    (some : first ≠ []) (ends : ∃ token ∈ second, token.isEnd = true) :
    Cursor.ofTokens (first ++ second) =
      ⟨(Cursor.ofTokens first).last, first ++ (Cursor.ofTokens second).ahead,
        (Cursor.ofTokens second).final⟩ := by
  have all : ∀ token ∈ first, (!token.isEnd) = true := by simpa using inner
  have front := List.takeWhile_eq_self_iff.mpr all
  obtain ⟨token, more, rfl⟩ := List.exists_cons_of_ne_nil some
  cases rest : second.dropWhile fun token => !token.isEnd with
  | nil =>
    obtain ⟨token, member, isEnd⟩ := ends
    have none := List.dropWhile_eq_nil_iff.mp rest token member
    simp [isEnd] at none
  | cons final others =>
    simp only [Cursor.ofTokens, List.takeWhile_append_of_pos all, List.dropWhile_append_of_pos all, rest,
      front]
    rfl

/-- Reading on after errors goes by statements: tokens that end with a semicolon and have no block in
them, however broken, are read as if nothing came after them, and what comes after as if nothing were
before it. -/
theorem recovery_goes_by_statements {first second : List Token}
    (plain : ∀ token ∈ first, token.kind ≠ .endOfInput ∧ token.kind ≠ .leftBrace)
    (ends : ∃ token, first.getLast? = some token ∧ token.kind = .semicolon)
    (endsSecond : ∃ token, second.getLast? = some token ∧ token.kind = .endOfInput) :
    readAll (first ++ second) =
      ((readAll first).1 ++ (readAll second).1, (readAll first).2 ++ (readAll second).2) := by
  have inner : ∀ token ∈ first, token.isEnd = false := by
    intro token member
    simpa [Token.isEnd] using (plain token member).1
  have some : first ≠ [] := by
    rintro rfl
    obtain ⟨token, last, -⟩ := ends
    cases last
  have endsToo : ∃ token ∈ second, token.isEnd = true := by
    obtain ⟨token, last, isEnd⟩ := endsSecond
    exact ⟨token, List.mem_of_getLast? last, by simp [Token.isEnd, isEnd]⟩
  have within : (Cursor.ofTokens first).Within first (Cursor.ofTokens second).ahead
      (Cursor.ofTokens second).final (Cursor.ofTokens (first ++ second)) := by
    rw [ofTokens_append inner some endsToo]
    exact ⟨rfl, by rw [ofTokens_first inner], rfl, by simp [ofTokens_first inner]⟩
  obtain ⟨stop, ahead, final, found, errors⟩ := Recovery.statementsUntil_within ends
    (fun token member => (plain token member).2) maxNesting _ _ within
  obtain ⟨foundLater, errorsLater, -⟩ := Recovery.statementsUntil_sameAhead maxNesting
    (⟨ahead, final⟩ : Recovery.SameAhead (Cursor.ofTokens second) stop)
  rw [foundLater] at found
  rw [errorsLater] at errors
  exact Prod.ext found errors

/-- A declaration without a name and a statement that stops partway: each has its own error. -/
theorem recovery_goes_by_statements_twice :
    let declaration : Token := ⟨.letWord, "let", "", 1⟩
    let semicolon : Token := ⟨.semicolon, ";", ";", 1⟩
    let print : Token := ⟨.printWord, "print", "", 2⟩
    let final : Token := .endOfInput 2
    let first := [declaration, semicolon]
    let second := [print, final]
    (∀ token ∈ first, token.kind ≠ .endOfInput ∧ token.kind ≠ .leftBrace) ∧
      first.getLast? = some semicolon ∧ second.getLast? = some final ∧
      readAll (first ++ second) =
        ((readAll first).1 ++ (readAll second).1, (readAll first).2 ++ (readAll second).2) ∧
      (readAll first).2 = [⟨semicolon, .variableName, false⟩] ∧
      (readAll second).2 = [⟨final, .expression, true⟩] := by
  intro declaration semicolon print final first second
  refine ⟨by decide, rfl, rfl, ?_, by cbv, by cbv⟩
  exact recovery_goes_by_statements (by decide) ⟨semicolon, rfl, rfl⟩ ⟨final, rfl, rfl⟩

end Scriptlet
