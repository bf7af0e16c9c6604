import Scriptlet.Proofs.Readers

/-! The two ways of reading. One stops at the first error and the other reads on; they find the same
statements where there is no error, and the same first error where there is one. -/
namespace Scriptlet

namespace Reader

theorem statement_eq (room : Nat) (cursor : Cursor) :
    statement room cursor =
      if cursor.sees [.leftBrace] then
        match room with
        | 0 => failNext .blockTooDeep cursor.advance
        | less + 1 => (do
            let body ← statementsUntil closesBlock (statement less)
            let _ ← expect .rightBrace .braceAfterBlock
            pure (Stmt.block cursor.next body)) cursor.advance
      else simpleStatement room cursor := by
  by_cases opens : cursor.sees [.leftBrace] = true
  · have hit := accept_seen opens
    rw [if_pos opens]
    cases room with
    | zero => rw [statement, bind_of_ok _ hit]
    | succ less => rw [statement, bind_of_ok _ hit]
  · have miss := accept_miss (Bool.eq_false_iff.mpr opens)
    rw [if_neg opens]
    cases room with
    | zero => rw [statement, bind_of_ok _ miss]
    | succ less => rw [statement, bind_of_ok _ miss]

end Reader

namespace Recovery

/-- Findings without an error are the outcome, and otherwise the outcome is their first error. -/
def Agrees {α β : Type} (kept : α → β) (findings : Findings β)
    (outcome : EStateM.Result SyntaxError Cursor α) : Prop :=
  match outcome with
  | .ok value after => findings = ⟨kept value, [], after⟩
  | .error error _ => ∃ more, findings.errors = error :: more

theorem agrees_ok {α β : Type} {kept : α → β} {findings : Findings β} {value : α} {after : Cursor}
    {outcome : EStateM.Result SyntaxError Cursor α} (succeeds : outcome = .ok value after)
    (agrees : Agrees kept findings outcome) : findings = ⟨kept value, [], after⟩ := by
  rw [succeeds] at agrees
  exact agrees

theorem agrees_error {α β : Type} {kept : α → β} {findings : Findings β} {error : SyntaxError}
    {after : Cursor} {outcome : EStateM.Result SyntaxError Cursor α}
    (fails : outcome = .error error after) (agrees : Agrees kept findings outcome) :
    ∃ more, findings.errors = error :: more := by
  rw [fails] at agrees
  exact agrees

theorem settle_agrees (outcome : EStateM.Result SyntaxError Cursor Stmt) :
    Agrees some (settle outcome) outcome := by
  cases outcome with
  | ok stmt after => rfl
  | error error after => exact ⟨[], rfl⟩

theorem statementsUntil_agrees (stop : Cursor → Bool) {item : Reader Stmt}
    {tolerant : Cursor → Findings (Option Stmt)}
    (agrees : ∀ cursor, Agrees some (tolerant cursor) (item cursor)) (cursor : Cursor) :
    Agrees id (statementsUntil stop tolerant cursor) (Reader.statementsUntil stop item cursor) := by
  -- On the reader that stops; the other goes the same way up to the first error, and errors stay.
  fun_induction Reader.statementsUntil stop item cursor with
  | case1 cursor finished =>
    rw [statementsUntil, if_pos finished]
    rfl
  | case2 cursor goesOn error after fails =>
    obtain ⟨more, errors⟩ := agrees_error fails (agrees cursor)
    rw [statementsUntil, if_neg goesOn]
    dsimp only
    split
    · exact ⟨_, by rw [errors, List.cons_append]⟩
    · exact ⟨more, errors⟩
  | case3 cursor goesOn stmt after reads shorter error last fails ih =>
    have ofItem := agrees_ok reads (agrees cursor)
    obtain ⟨more, errors⟩ := agrees_error fails ih
    rw [statementsUntil, if_neg goesOn]
    simp only [ofItem, shorter, if_true, List.nil_append]
    exact ⟨more, errors⟩
  | case4 cursor goesOn stmt after reads shorter rest last follows ih =>
    have ofItem := agrees_ok reads (agrees cursor)
    have ofRest := agrees_ok follows ih
    rw [statementsUntil, if_neg goesOn]
    simp only [ofItem, shorter, if_true, ofRest]
    rfl
  | case5 cursor goesOn stmt after reads longer =>
    have ofItem := agrees_ok reads (agrees cursor)
    rw [statementsUntil, if_neg goesOn]
    simp only [ofItem, longer, if_false]
    rfl

theorem statement_agrees (room : Nat) (cursor : Cursor) :
    Agrees some (statement room cursor) (Reader.statement room cursor) := by
  induction room generalizing cursor with
  | zero =>
    rw [Reader.statement_eq, statement]
    split
    · exact settle_agrees _
    · exact settle_agrees _
  | succ room ih =>
    rw [Reader.statement_eq, statement]
    split
    · have inside := statementsUntil_agrees Reader.closesBlock ih cursor.advance
      dsimp only
      cases body : Reader.statementsUntil Reader.closesBlock (Reader.statement room) cursor.advance with
      | error error after =>
        obtain ⟨more, errors⟩ := agrees_error body inside
        rw [bind_of_error _ body]
        split
        · exact ⟨more, errors⟩
        · exact ⟨_, by rw [errors, List.cons_append]⟩
      | ok statements after =>
        rw [bind_of_ok _ body, agrees_ok body inside]
        dsimp only
        by_cases closes : after.sees [.rightBrace] = true
        · rw [bind_of_ok _ (Reader.expect_seen .braceAfterBlock closes)]
          simp only [Reader.closesBlock, closes, if_true]
          rfl
        · have miss := Reader.expect_miss .braceAfterBlock (Bool.eq_false_iff.mpr closes)
          have fails := miss.trans (rfl : _ = EStateM.Result.error _ after)
          rw [bind_of_error _ fails]
          simp only [Reader.closesBlock, closes, Bool.false_eq_true, if_false]
          exact ⟨[], rfl⟩
    · exact settle_agrees _

end Recovery

/-- All statements and no error where reading does not stop, and the error it stops at first of all
where it does. -/
theorem readAll_agrees (tokens : List Token) :
    match readStrict tokens with
    | .ok statements => readAll tokens = (statements, [])
    | .error error => ∃ more, (readAll tokens).2 = error :: more := by
  have agrees := Recovery.statementsUntil_agrees (fun _ => false)
    (Recovery.statement_agrees maxNesting) (.ofTokens tokens)
  unfold readAll readStrict
  cases outcome : Reader.statementsUntil (fun _ => false) (Reader.statement maxNesting)
      (.ofTokens tokens) with
  | ok found after =>
    rw [Recovery.agrees_ok outcome agrees]
    rfl
  | error error after => exact Recovery.agrees_error outcome agrees

theorem readAll_eq (tokens : List Token) (statements : List Stmt) :
    readAll tokens = (statements, []) ↔ readStrict tokens = .ok statements := by
  have agrees := readAll_agrees tokens
  cases outcome : readStrict tokens with
  | ok found =>
    rw [outcome] at agrees
    simp [agrees]
  | error error =>
    rw [outcome] at agrees
    obtain ⟨more, errors⟩ := agrees
    constructor
    · intro all
      rw [all] at errors
      cases errors
    · intro read
      cases read

end Scriptlet
