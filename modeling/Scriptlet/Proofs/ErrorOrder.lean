import Mathlib
import Scriptlet.Proofs.ParsingSafety
import Scriptlet.Proofs.Relocation
import Scriptlet.Proofs.Resuming

/-! Where the errors of a token list stand. A broken statement has one error, at a token that the statement
took or at the next one, and that token is skipped before reading goes on. So the tokens blamed, one error
after another, are met in this order in the list, none of them twice, and what is found once the tokens
are used up is blamed on the end. -/
namespace Scriptlet

structure Cursor.Passes (start : Cursor) (taken : List Token) (after : Cursor) : Prop where
  ahead : start.ahead = taken ++ after.ahead
  final : after.final = start.final
  last : after.last = taken.getLast?.getD start.last

namespace Cursor.Passes

variable {start middle after : Cursor} {taken more : List Token}

theorem refl (cursor : Cursor) : cursor.Passes [] cursor :=
  ⟨rfl, rfl, rfl⟩

theorem trans (first : start.Passes taken middle) (second : middle.Passes more after) :
    start.Passes (taken ++ more) after := by
  refine ⟨?_, second.final.trans first.final, ?_⟩
  · rw [first.ahead, second.ahead, List.append_assoc]
  · rw [second.last, first.last, List.getLast?_append]
    cases more.getLast? <;> rfl

theorem advance {cursor : Cursor} (some : cursor.atEnd = false) :
    cursor.Passes [cursor.next] cursor.advance := by
  obtain ⟨last, ahead, final⟩ := cursor
  cases ahead with
  | nil => cases some
  | cons token rest => exact ⟨rfl, rfl, rfl⟩

theorem last_mem {behind : List Token} (passes : start.Passes taken after)
    (known : taken = [] → start.last ∈ behind) : after.last ∈ behind ++ taken := by
  rw [passes.last]
  cases last : taken.getLast? with
  | none => exact List.mem_append_left _ (known (List.getLast?_eq_none_iff.mp last))
  | some token => exact List.mem_append_right _ (List.mem_of_getLast? last)

end Cursor.Passes

namespace Reader

/-- How reading from a place comes out. An error is at the token that reading stopped before, at one that
was taken, or at one of those known from `behind`; and it is truncated if reading stopped at the end. -/
inductive Blames {α : Type} (behind : List Token) (start : Cursor) :
    EStateM.Result SyntaxError Cursor α → Prop
  | ok {value : α} {taken : List Token} {after : Cursor} (passes : start.Passes taken after) :
      Blames behind start (.ok value after)
  | error {error : SyntaxError} {taken : List Token} {after : Cursor} (passes : start.Passes taken after)
      (blamed : error.token ∈ behind ++ taken ∨ error.token = after.next)
      (truncated : error.truncated = after.atEnd) : Blames behind start (.error error after)

section Parts

variable {α β : Type} {behind : List Token} {start : Cursor}

theorem blames_pure (value : α) : Blames behind start ((pure value : Reader α) start) :=
  .ok (.refl start)

theorem blames_bind {first : Reader α} {next : α → Reader β} (leads : Blames behind start (first start))
    (further : ∀ value taken middle, first start = .ok value middle → start.Passes taken middle →
      Blames (behind ++ taken) middle (next value middle)) :
    Blames behind start ((first >>= next) start) := by
  rw [bind_run]
  cases outcome : first start with
  | error error after =>
    rw [outcome] at leads
    cases leads with
    | error passes blamed truncated => exact .error passes blamed truncated
  | ok value middle =>
    rw [outcome] at leads
    cases leads with
    | @ok _ taken _ passes =>
      have continues := further value taken middle outcome passes
      dsimp only
      generalize next value middle = found at continues
      cases continues with
      | ok more => exact .ok (passes.trans more)
      | error more blamed truncated =>
        rw [List.append_assoc] at blamed
        exact .error (passes.trans more) blamed truncated

theorem blames_failNext (fault : SyntaxFault) :
    Blames behind start ((failNext fault : Reader α) start) :=
  .error (.refl start) (.inr rfl) rfl

theorem blames_failAt {token : Token} (known : token ∈ behind) (fault : SyntaxFault) :
    Blames behind start ((failAt token fault : Reader α) start) :=
  .error (.refl start) (.inl (List.mem_append_left _ known)) rfl

theorem blames_failLast (known : start.last ∈ behind) (fault : SyntaxFault) :
    Blames behind start ((failLast fault : Reader α) start) :=
  .error (.refl start) (.inl (List.mem_append_left _ known)) rfl

theorem blames_accept (kinds : List TokenKind) : Blames behind start (accept? kinds start) := by
  cases seen : start.sees kinds with
  | true =>
    rw [accept_seen seen]
    exact .ok (.advance (Recovery.seen_atEnd seen))
  | false =>
    rw [accept_miss seen]
    exact .ok (.refl start)

theorem accepted_mem {kinds : List TokenKind} {token : Token} {taken : List Token} {after : Cursor}
    (found : accept? kinds start = .ok (some token) after) (passes : start.Passes taken after) :
    token ∈ taken := by
  obtain ⟨last, ahead, final⟩ := start
  have seen : Cursor.sees ⟨last, ahead, final⟩ kinds = true := by
    by_contra unseen
    rw [accept_miss (Bool.eq_false_iff.mpr unseen)] at found
    cases found
  cases ahead with
  | nil => cases seen
  | cons next rest =>
    rw [accept_seen seen] at found
    cases found
    have split : [next] ++ rest = taken ++ rest := passes.ahead
    rw [← List.append_cancel_right split]
    exact List.mem_cons_self

theorem blames_expect (kind : TokenKind) (fault : SyntaxFault) :
    Blames behind start (expect kind fault start) := by
  refine blames_bind (blames_accept [kind]) fun found taken middle _ _ => ?_
  cases found with
  | some token => exact blames_pure token
  | none => exact blames_failNext fault

theorem expected_takes {kind : TokenKind} {fault : SyntaxFault} {token : Token} {taken : List Token}
    {after : Cursor} (found : expect kind fault start = .ok token after)
    (passes : start.Passes taken after) : taken ≠ [] := by
  obtain ⟨looked, middle, accepts, follows⟩ := bind_eq_ok.mp found
  cases looked with
  | none => cases follows
  | some token =>
    cases follows
    exact List.ne_nil_of_mem (accepted_mem accepts passes)

/-- A token that is missing may be blamed on the one before, if that one is known. -/
theorem blames_missing {kinds : List TokenKind} {next : Option Token → Reader β} {fault : SyntaxFault}
    (known : start.last ∈ behind) (miss : next none = failLast fault)
    (hit : ∀ token behind start, Blames behind start (next (some token) start)) :
    Blames behind start ((accept? kinds >>= next) start) := by
  refine blames_bind (blames_accept kinds) fun found taken middle _ passes => ?_
  cases found with
  | some token => exact hit token _ _
  | none =>
    rw [miss]
    exact blames_failLast (passes.last_mem fun _ => known) fault

end Parts

theorem blames_assignment {room : Nat}
    (operand : ∀ behind start, Blames behind start (operation tiers room start))
    (deeper : ∀ less, room = less + 1 → ∀ behind start, Blames behind start (assignment less start))
    (behind : List Token) (start : Cursor) : Blames behind start (assignment room start) := by
  rw [assignment]
  refine blames_bind (operand behind start) fun target taken middle _ _ => ?_
  refine blames_bind (blames_accept [.equal]) fun found sign later looked passes => ?_
  cases found with
  | none => exact blames_pure target
  | some equals =>
    have signed := accepted_mem looked passes
    cases room with
    | zero => exact blames_failNext _
    | succ less =>
      refine blames_bind (deeper less rfl _ _) fun value others last _ _ => ?_
      have known : equals ∈ behind ++ taken ++ sign ++ others := by simp [signed]
      cases target with
      | reference name => exact blames_pure _
      | _ => exact blames_failAt known _

theorem blames_expression (room : Nat) (behind : List Token) (start : Cursor) :
    Blames behind start (expression room start) := by
  have assembled : Assembled fun _ reader => ∀ behind start, Blames behind start (reader start) :=
    { pure := fun value _ _ => blames_pure value
      bind := fun leads further behind start =>
        blames_bind (leads behind start) fun value _ _ _ _ => further value _ _
      accept := fun _ _ _ => blames_accept _
      failNext := fun _ _ _ => blames_failNext _
      assignment := blames_assignment }
  exact assembled.expression room behind start

theorem blames_letStatement (room : Nat) (behind : List Token) (start : Cursor) :
    Blames behind start (letStatement room start) := by
  refine blames_bind (blames_expect _ _) fun name taken middle named passes => ?_
  -- From the name on, the token before is always one that was taken.
  have nameTaken : middle.last ∈ behind ++ taken :=
    passes.last_mem fun none => absurd none (expected_takes named passes)
  refine blames_bind (blames_accept _) fun found sign later _ passesSign => ?_
  have signTaken := passesSign.last_mem fun _ => nameTaken
  cases found with
  | some equals =>
    refine blames_bind (blames_expression room _ _) fun initializer value last _ passesValue => ?_
    exact blames_missing (passesValue.last_mem fun _ => signTaken) rfl fun _ _ _ => blames_pure _
  | none =>
    refine blames_bind (blames_pure (Expr.nil name)) fun initializer value last _ passesValue => ?_
    exact blames_missing (passesValue.last_mem fun _ => signTaken) rfl fun _ _ _ => blames_pure _

theorem blames_simpleStatement (room : Nat) (behind : List Token) (start : Cursor) :
    Blames behind start (simpleStatement room start) := by
  refine blames_bind (blames_accept _) fun found _ _ _ _ => ?_
  cases found with
  | some keyword => exact blames_letStatement room _ _
  | none =>
    refine blames_bind (blames_accept _) fun found _ _ _ _ => ?_
    cases found with
    | some keyword =>
      refine blames_bind (blames_expression room _ _) fun value _ _ _ _ => ?_
      exact blames_bind (blames_expect _ _) fun _ _ _ _ _ => blames_pure _
    | none =>
      refine blames_bind (blames_expression room _ _) fun value _ _ _ _ => ?_
      exact blames_bind (blames_expect _ _) fun _ _ _ _ _ => blames_pure _

end Reader

namespace Recovery

/-- What was found on the way from one place to another. The tokens blamed come in the order in which they
were taken, each at most once, and then only the end is blamed. An error for want of more comes at the end,
and later errors are blamed on the end too. -/
structure Reports (start : Cursor) (errors : List SyntaxError) (finish : Cursor) : Prop where
  final : finish.final = start.final
  ordered : ∃ taken blamed trailing, start.ahead = taken ++ finish.ahead ∧
    errors.map (·.token) = blamed ++ trailing ∧ blamed.Sublist taken ∧
    (∀ token ∈ trailing, token = start.final) ∧ (trailing ≠ [] → finish.ahead = [])
  exhausted : ∀ error ∈ errors, error.truncated = true → finish.ahead = []
  later : errors.Pairwise fun first second => first.truncated = true → second.token = start.final

section Reporting

variable {start middle finish : Cursor} {errors more : List SyntaxError}

theorem reports_none {taken : List Token} (passes : start.Passes taken finish) : Reports start [] finish where
  final := passes.final
  ordered := ⟨taken, [], [], passes.ahead, rfl, List.nil_sublist _, by simp, by simp⟩
  exhausted := by simp
  later := .nil

theorem reports_over (reports : Reports start errors finish) (none : start.ahead = []) :
    finish.ahead = [] ∧ ∀ error ∈ errors, error.token = start.final := by
  obtain ⟨taken, blamed, trailing, ahead, tokens, sublist, ends, -⟩ := reports.ordered
  rw [none] at ahead
  obtain ⟨rfl, left⟩ := List.append_eq_nil_iff.mp ahead.symm
  obtain rfl := List.sublist_nil.mp sublist
  refine ⟨left, fun error member => ends _ ?_⟩
  rw [← List.nil_append trailing, ← tokens]
  exact List.mem_map_of_mem member

theorem reports_append (first : Reports start errors middle) (second : Reports middle more finish) :
    Reports start (errors ++ more) finish := by
  have stays (none : middle.ahead = []) :
      finish.ahead = [] ∧ ∀ error ∈ more, error.token = start.final := by
    rw [← first.final]
    exact reports_over second none
  refine ⟨second.final.trans first.final, ?_, ?_, ?_⟩
  · obtain ⟨taken, blamed, trailing, ahead, tokens, sublist, ends, stops⟩ := first.ordered
    obtain ⟨taken', blamed', trailing', ahead', tokens', sublist', ends', stops'⟩ := second.ordered
    have whole : start.ahead = (taken ++ taken') ++ finish.ahead := by
      rw [ahead, ahead', List.append_assoc]
    by_cases goesOn : trailing = []
    · refine ⟨_, blamed ++ blamed', trailing', whole, ?_, sublist.append sublist', ?_, stops'⟩
      · simp [tokens, tokens', goesOn]
      · rw [← first.final]
        exact ends'
    -- Once the end is blamed, nothing else is.
    · obtain ⟨left, blames⟩ := stays (stops goesOn)
      refine ⟨_, blamed, trailing ++ more.map (·.token), whole, ?_,
        sublist.trans (List.sublist_append_left _ _), ?_, fun _ => left⟩
      · simp [tokens]
      · simp only [List.forall_mem_append, List.forall_mem_map]
        exact ⟨ends, blames⟩
  · intro error member truncated
    rcases List.mem_append.mp member with early | late
    · exact (stays (first.exhausted error early truncated)).1
    · exact second.exhausted error late truncated
  · refine List.pairwise_append.mpr ⟨first.later, ?_, ?_⟩
    · rw [← first.final]
      exact second.later
    · intro error early other late truncated
      exact (stays (first.exhausted error early truncated)).2 other late

end Reporting

theorem synchronize_cons {cursor : Cursor} {token : Token} {rest : List Token}
    (ahead : cursor.ahead = token :: rest) :
    (synchronize cursor).final = cursor.final ∧ (synchronize cursor).ahead <:+ rest := by
  simp only [synchronize, ahead, true_and]
  exact skip_suffix token rest

/-- One broken statement: its token is passed, or it is the end. -/
theorem settle_reports {start : Cursor} {outcome : EStateM.Result SyntaxError Cursor Stmt}
    (blames : Reader.Blames [] start outcome) :
    Reports start (settle outcome).errors (settle outcome).cursor := by
  cases blames with
  | ok passes => exact reports_none passes
  | @error error taken after passes blamed truncated =>
    show Reports start [error] (synchronize after)
    rw [List.nil_append] at blamed
    cases ahead : after.ahead with
    | nil =>
      have stays : synchronize after = after := by simp [synchronize, ahead]
      rw [stays]
      refine ⟨passes.final, ?_, fun _ _ _ => ahead, List.pairwise_singleton _ _⟩
      rcases blamed with inside | next
      · exact ⟨taken, [error.token], [], passes.ahead, rfl, List.singleton_sublist.mpr inside, by simp,
          by simp⟩
      · have final : error.token = start.final := by
          rw [next, ← passes.final, Cursor.next, ahead]
          rfl
        exact ⟨taken, [], [error.token], passes.ahead, rfl, List.nil_sublist _, by simpa using final,
          fun _ => ahead⟩
    | cons token rest =>
      obtain ⟨final, skipped, split⟩ := synchronize_cons ahead
      have whole : start.ahead = (taken ++ token :: skipped) ++ (synchronize after).ahead := by
        rw [passes.ahead, ahead, ← split]
        simp
      have inside : error.token ∈ taken ++ token :: skipped := by
        rcases blamed with inside | next
        · exact List.mem_append_left _ inside
        · rw [next, Cursor.next, ahead]
          simp
      have early : error.truncated = false := by simp [truncated, Cursor.atEnd, ahead]
      refine ⟨final.trans passes.final, ⟨_, [error.token], [], whole, rfl,
        List.singleton_sublist.mpr inside, by simp, by simp⟩, ?_, List.pairwise_singleton _ _⟩
      simp [early]

theorem statementsUntil_reports (stop : Cursor → Bool) {item : Cursor → Findings (Option Stmt)}
    (items : ∀ cursor, Reports cursor (item cursor).errors (item cursor).cursor) (cursor : Cursor) :
    Reports cursor (statementsUntil stop item cursor).errors (statementsUntil stop item cursor).cursor := by
  fun_induction statementsUntil stop item cursor with
  | case1 cursor finished => exact reports_none (.refl cursor)
  | case2 cursor goesOn first shorter rest ih => exact reports_append (items cursor) ih
  | case3 cursor goesOn first stuck => exact items cursor

theorem statement_reports (room : Nat) (cursor : Cursor) :
    Reports cursor (statement room cursor).errors (statement room cursor).cursor := by
  induction room generalizing cursor with
  | zero =>
    rw [statement]
    split
    · next opens =>
      exact reports_append (reports_none (.advance (seen_atEnd opens)))
        (settle_reports (Reader.blames_failNext _))
    · exact settle_reports (Reader.blames_simpleStatement _ _ _)
  | succ room ih =>
    rw [statement]
    split
    · next opens =>
      have opened := reports_none (.advance (seen_atEnd opens))
      have inside := reports_append opened (statementsUntil_reports Reader.closesBlock ih cursor.advance)
      dsimp only
      split
      · next closes =>
        have closed := reports_append inside (reports_none (.advance (seen_atEnd closes)))
        rwa [List.append_nil] at closed
      · exact reports_append inside (settle_reports (Reader.blames_failNext _))
    · exact settle_reports (Reader.blames_simpleStatement _ _ _)

end Recovery

/-! Places in a token list. Two tokens may be equal, so an error does not say where its token stands; but
numbered through, tokens are told apart, and are read all the same. -/

def numbered (tokens : List Token) : List Token :=
  tokens.mapIdx fun place token => { token with line := place }

def renumbered (tokens : List Token) (token : Token) : Token :=
  { token with line := (tokens[token.line.toNat]?.map (·.line)).getD token.line }

theorem renumbered_same (tokens : List Token) (token : Token) : token.Same (renumbered tokens token) :=
  ⟨rfl, rfl, rfl⟩

theorem numbered_renumbered (tokens : List Token) : (numbered tokens).map (renumbered tokens) = tokens := by
  apply List.ext_getElem
  · simp [numbered]
  · intro place inside insideToo
    simp [numbered, renumbered, insideToo]

theorem mem_numbered {tokens : List Token} {token : Token} (member : token ∈ numbered tokens) :
    tokens[token.line.toNat]? = some (renumbered tokens token) := by
  obtain ⟨place, inside, rfl⟩ := List.mem_iff_getElem.mp member
  have within : place < tokens.length := by simpa [numbered] using inside
  simp [numbered, renumbered, within]

theorem numbered_increases (tokens : List Token) :
    (numbered tokens).Pairwise fun first second => first.line.toNat < second.line.toNat := by
  rw [List.pairwise_iff_getElem]
  intro place further inside insideToo earlier
  simpa [numbered] using earlier

theorem isEnd_numbered {tokens : List Token} (ends : ∃ token ∈ tokens, token.isEnd = true) :
    ∃ token ∈ numbered tokens, token.isEnd = true := by
  rw [← numbered_renumbered tokens] at ends
  obtain ⟨token, member, isEnd⟩ := ends
  obtain ⟨marked, found, rfl⟩ := List.mem_map.mp member
  exact ⟨marked, found, isEnd⟩

/-- A token list is read up to its first end, the same whether that was there or added. -/
theorem readAll_completed (tokens : List Token) :
    (∃ token ∈ Descent.completed tokens, token.isEnd = true) ∧
      readAll (Descent.completed tokens) = readAll tokens := by
  obtain ⟨tape, whole, starts⟩ := Descent.tape_of tokens
  have same : Cursor.ofTokens (Descent.completed tokens) = .ofTokens tokens := by
    rw [← whole, ← starts, Tape.tokens, ofTokens_firstEnd _ tape.plain tape.ends, Descent.cursor_zero]
  constructor
  · rw [← whole]
    exact ⟨tape.final, by simp [Tape.tokens], tape.ends⟩
  · rw [readAll, same]
    rfl

theorem errors_numbered (tokens : List Token) :
    (readAll tokens).2 = (readAll (numbered (Descent.completed tokens))).2.map
      (SyntaxError.mapToken (renumbered (Descent.completed tokens))) := by
  obtain ⟨ends, same⟩ := readAll_completed tokens
  rw [← same]
  nth_rewrite 1 [← numbered_renumbered (Descent.completed tokens)]
  rw [readAll_map (renumbered_same _) (isEnd_numbered ends)]

structure Token.Blamed (first second : Token) : Prop where
  ordered : first.line.toNat ≤ second.line.toNat
  distinct : first.isEnd = false → second.isEnd = false → first.line.toNat < second.line.toNat

/-- In a numbered list the errors are blamed on some of its tokens, in their order. -/
theorem numbered_blamed {tokens : List Token} (ends : ∃ token ∈ numbered tokens, token.isEnd = true) :
    let errors := (readAll (numbered tokens)).2
    (∀ error ∈ errors, error.token ∈ numbered tokens) ∧
      (errors.map (·.token)).Pairwise Token.Blamed ∧
      errors.Pairwise fun first second => first.truncated = true → second.atEnd = true := by
  intro errors
  obtain ⟨words, final, others, split, inner, isEnd⟩ := exists_firstEnd ends
  have reports := Recovery.statementsUntil_reports (fun _ => false)
    (Recovery.statement_reports maxNesting) (.ofTokens (numbered tokens))
  change Recovery.Reports _ errors _ at reports
  rw [split, ofTokens_firstEnd others inner isEnd] at reports
  obtain ⟨-, ⟨taken, blamed, trailing, ahead, listed, sublist, last, -⟩, -, later⟩ := reports
  have whole : (blamed ++ [final]).Sublist (numbered tokens) := by
    have inside : words = taken ++ _ := ahead
    have inWords : blamed.Sublist words := inside ▸ sublist.trans (List.sublist_append_left _ _)
    rw [split]
    exact inWords.append (List.singleton_sublist.mpr List.mem_cons_self)
  have inOrder := List.pairwise_append.mp ((numbered_increases tokens).sublist whole)
  refine ⟨?_, ?_, ?_⟩
  · intro error member
    have blames : error.token ∈ blamed ++ trailing := listed ▸ List.mem_map_of_mem member
    rcases List.mem_append.mp blames with before | atLast
    · exact whole.subset (List.mem_append_left _ before)
    · rw [last _ atLast]
      exact whole.subset (List.mem_append_right _ List.mem_cons_self)
  · rw [listed]
    refine List.pairwise_append.mpr ⟨inOrder.1.imp fun earlier => ⟨earlier.le, fun _ _ => earlier⟩, ?_, ?_⟩
    · refine List.pairwise_of_forall_mem_list fun first member second memberToo => ?_
      rw [last first member, last second memberToo]
      exact ⟨Nat.le_refl _, fun inside => by simp [isEnd] at inside⟩
    · intro first member second atLast
      have earlier := inOrder.2.2 first member final List.mem_cons_self
      rw [last second atLast]
      exact ⟨earlier.le, fun _ _ => earlier⟩
  · refine later.imp fun atLast truncated => ?_
    rw [SyntaxError.atEnd, atLast truncated]
    exact isEnd

def errorPlaces (tokens : List Token) : List Nat :=
  (readAll (numbered (Descent.completed tokens))).2.map fun error => error.token.line.toNat

-- A declaration and an assignment that are broken, in a block that is not closed.
example :
    let kinds : List TokenKind := [.leftBrace, .letWord, .identifier, .nilWord, .semicolon, .nilWord, .equal,
      .nilWord, .semicolon]
    errorPlaces (kinds.map fun kind => ⟨kind, "", "", 1⟩) = [2, 6, 9] := by
  cbv

structure SyntaxError.Precedes (first second : SyntaxError × Nat) : Prop where
  ordered : first.2 ≤ second.2
  distinct : first.1.atEnd = false → second.1.atEnd = false → first.2 < second.2
  exhausted : first.1.truncated = true → second.1.atEnd = true

/-- The errors of a token list come in the order of the list. Each is at a token of the list, or at the end
added to it; the places of these tokens never go back, and go on from any token but the end, so that none
but the end is blamed twice; and after an error for want of more, all errors are at the end. -/
theorem errors_stand_in_order (tokens : List Token) :
    List.Forall₂ (fun error place => (Descent.completed tokens)[place]? = some error.token)
        (readAll tokens).2 (errorPlaces tokens) ∧
      ((readAll tokens).2.zip (errorPlaces tokens)).Pairwise SyntaxError.Precedes := by
  have ends := isEnd_numbered (readAll_completed tokens).1
  obtain ⟨members, blamed, later⟩ := numbered_blamed ends
  rw [errors_numbered, errorPlaces]
  constructor
  · rw [List.forall₂_map_left_iff, List.forall₂_map_right_iff, List.forall₂_same]
    intro error member
    exact mem_numbered (members error member)
  · rw [List.zip_map', List.pairwise_map]
    refine ((List.pairwise_map.mp blamed).and later).imp fun both => ?_
    exact ⟨both.1.ordered, both.1.distinct, both.2⟩

end Scriptlet
