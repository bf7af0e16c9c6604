import Scriptlet.Proofs.Mending
import Scriptlet.Proofs.Truncation

/-! Token lists that are the start of a program. An error where tokens are left stays an error, whatever
comes after them, and so does one for want of room. Any other error asks for more: as long as nothing but
names is assigned to, some tokens can be filled in with which reading comes through. -/
namespace Scriptlet.Reader

variable {α : Type}

/-! Expressions. -/

theorem primary_over (room : Nat) {cursor : Cursor} (finished : cursor.ahead = []) :
    ∃ error stop, primary room cursor = .error error stop ∧ error.asks = true := by
  refine ⟨cursor.errorAt cursor.next .expression, cursor, ?_, ?_⟩
  · rw [primary, finished]
    rfl
  · rw [asks_errorAt (by decide)]
    simp [Cursor.atEnd, finished]

theorem primary_leaf {room : Nat} {token : Token} {expr : Expr} (leaf : atom? token = some expr)
    (last final : Token) (rest : List Token) :
    primary room ⟨last, token :: rest, final⟩ = .ok expr ⟨token, rest, final⟩ := by
  rw [primary]
  simp only [leaf]
  rfl

theorem primary_paren {room : Nat} {token : Token} (opens : token.kind = .leftParen)
    (last final : Token) (rest : List Token) :
    primary room ⟨last, token :: rest, final⟩ = (do
      let inner ← expression room
      let _ ← expect .rightParen .parenAfterExpression
      pure (Expr.grouping token inner)) ⟨token, rest, final⟩ := by
  have plain : atom? token = none := by simp [atom?, opens]
  rw [primary]
  simp only [plain, opens, if_true]
  rfl

theorem primary_mends {room : Nat} (inside : Mends Closing (expression room)) :
    Mends Anything (primary room) := by
  have grouped (paren : Token) : Mends Anything (do
      let inner ← expression room
      let _ ← expect .rightParen .parenAfterExpression
      pure (Expr.grouping paren inner)) :=
    inside.bind (fun inner => (Demands.expect (by decide) _).mends (by decide))
      (Demands.tails (fun inner => .expect (by decide) _) (by decide) (closing_cons (by decide)))
  -- Where nothing is left, a name is filled in.
  have takes : Fills Anything (primary room) [] [.identifier] := by
    rintro ⟨last, _, final⟩ more rest rfl same _
    obtain ⟨name, rfl, named⟩ := List.map_eq_singleton_iff.mp same
    have leaf : atom? name = some (.reference name) := by simp [atom?, named]
    exact ⟨_, _, primary_leaf leaf last final rest, rfl⟩
  refine Mends.byFirst (List.cons_ne_nil _ _) (by decide)
    (fun cursor finished => primary_over room finished) takes fun token others => ?_
  cases leaf : atom? token with
  | some expr =>
    exact .inl ⟨pure expr, others, .pure _,
      .behind _ fun last rest final => primary_leaf leaf last final rest⟩
  | none =>
    by_cases opens : token.kind = .leftParen
    · exact .inl ⟨_, others, grouped token,
        .behind _ fun last rest final => primary_paren opens last final rest⟩
    · refine .inr fun cursor rest here => ⟨cursor.errorAt cursor.next .expression, cursor, ?_, ?_⟩
      · rw [primary, here]
        simp only [leaf, opens, if_false]
        rfl
      · rw [asks_errorAt (by decide)]
        simp [Cursor.atEnd, here]

theorem unary_mends {room : Nat} (operand : Mends Anything (primary room))
    (deeper : ∀ less, room = less + 1 → Mends Anything (unary less)) : Mends Anything (unary room) := by
  rw [unary]
  refine Mends.accept (by decide) ?_ operand ?_
  · intro operator _
    cases room with
    | zero => exact mends_tooDeep (by decide)
    | succ less => exact (deeper less rfl).bind (fun operand => .pure _) (tails_pure trivial _)
  · exact ending_of_asking fun cursor finished => primary_over room finished

theorem tier_apart {operators : List TokenKind} {tighter : List (List TokenKind)}
    (tier : operators :: tighter <:+ tiers) : ∀ kind ∈ operators, kind ∉ fillers := by
  simp only [tiers, List.suffix_cons_iff, List.cons.injEq, List.suffix_nil, reduceCtorEq,
    or_false] at tier
  rcases tier with ⟨rfl, rfl⟩ | ⟨rfl, rfl⟩ | ⟨rfl, rfl⟩ | ⟨rfl, rfl⟩
  all_goals decide

/-- Where nothing or what ends an expression comes next, a chain has come to its end. -/
theorem chain_ends {operators : List TokenKind} {tighter : List (List TokenKind)} {room : Nat}
    (tier : operators :: tighter <:+ tiers) (left : Expr) {cursor : Cursor}
    (closing : Closing cursor.ahead) : chain operators tighter room left cursor = .ok left cursor := by
  rw [chain]
  exact bind_of_ok _ (miss_of_misses (closing_misses (tier_apart tier) closing))

theorem chain_tails {operators : List TokenKind} {tighter : List (List TokenKind)} {room : Nat}
    (tier : operators :: tighter <:+ tiers) (left : α → Expr) :
    Tails Closing Closing fun value => chain operators tighter room (left value) := by
  refine .content (fun _ closing => closing) closing_nil ?_
  intro value cursor more rest there same closing
  obtain rfl := List.map_eq_nil_iff.mp same
  exact ⟨_, cursor, chain_ends tier _ (there ▸ closing), there⟩

theorem chain_mends {operators : List TokenKind} {tighter : List (List TokenKind)} {room : Nat}
    (tier : operators :: tighter <:+ tiers)
    (deeper : ∀ less, room = less + 1 → Mends Closing (operation tighter less) ∧
      ∀ left, Mends Closing (chain operators tighter less left))
    (left : Expr) : Mends Closing (chain operators tighter room left) := by
  rw [chain]
  refine Mends.accept (tier_apart tier) ?_ (.pure _) ?_
  · intro operator _
    cases room with
    | zero => exact mends_tooDeep (by decide)
    | succ less =>
      obtain ⟨operand, further⟩ := deeper less rfl
      exact operand.bind (fun right => further _) (chain_tails tier _)
  · intro cursor _ rest closing
    exact closing_misses (tier_apart tier) closing

def assigned (room : Nat) (target : Expr) (found : Option Token) : Reader Expr :=
  match found with
  | none => pure target
  | some equals =>
    match room with
    | 0 => failNext .expressionTooDeep
    | room + 1 => do
      let value ← assignment room
      match target with
      | .reference name => pure (.assign name value)
      | _ => failAt equals .assignmentTarget

theorem assignment_eq (room : Nat) : assignment room = (do
    let target ← operation tiers room
    let found ← accept? [.equal]
    assigned room target found) := by
  rw [assignment]
  rfl

theorem assigned_steady {room : Nat} (deeper : ∀ less, room = less + 1 → Mends Closing (assignment less))
    (target : Expr) (equals : Token) (ahead : List Token) :
    Steady Closing (assigned room target (some equals)) ahead := by
  cases room with
  | zero => exact (mends_tooDeep (by decide)).steady ahead
  | succ less =>
    refine ((deeper less rfl).steady ahead).bind ?_ ?_
    · intro cursor value stop _ _
      split
      · exact .pure _
      · exact .failing fun cursor _ _ => ⟨_, cursor, rfl⟩
    · intro value cursor finished
      cases target with
      | reference name => exact fun rest closing => closing
      | _ => exact (asks_errorAt (by decide) cursor equals).trans (by simp [Cursor.atEnd, finished])

theorem assigned_mends {room : Nat} (deeper : ∀ less, room = less + 1 → Mends Closing (assignment less))
    (name equals : Token) : Mends Closing (assigned room (.reference name) (some equals)) := by
  cases room with
  | zero => exact mends_tooDeep (by decide)
  | succ less => exact (deeper less rfl).bind (fun value => .pure _) (tails_pure closing_nil _)

/-- Before an equals sign that can be passed, only a name is read. -/
theorem target_of_passable {room : Nat} {cursor stop : Cursor} {target : Expr} {equals : Token}
    {rest : List Token} (passable : Passable cursor.ahead)
    (reads : operation tiers room cursor = .ok target stop) (next : stop.ahead = equals :: rest)
    (sign : equals.kind = .equal) : ∃ name, target = .reference name := by
  obtain ⟨taken, ahead, -, derived⟩ := target_reads room cursor target stop reads
  obtain ⟨aim, passes⟩ := passable
  obtain ⟨after, through, named⟩ := derives_aim derived aim fun same => nomatch same
  rw [ahead, next, Aim.run_join _ through, Aim.run, sign] at passes
  have aimed : after = .name := by
    cases after with
    | name => rfl
    | start | other => simp [Aim.next] at passes
  exact (named (by decide) aimed).2

theorem assignment_mends {room : Nat} (target : Mends Closing (operation tiers room))
    (deeper : ∀ less, room = less + 1 → Mends Closing (assignment less)) :
    Mends Closing (assignment room) := by
  have apart : ∀ kind ∈ [TokenKind.equal], kind ∉ fillers := by decide
  have misses (value : Expr) {cursor : Cursor} (closing : Closing cursor.ahead) :
      (accept? [.equal] >>= assigned room value) cursor = .ok value cursor :=
    bind_of_ok _ (miss_of_misses (closing_misses apart closing))
  have tails : Tails Closing Closing fun value => accept? [.equal] >>= assigned room value := by
    refine .content (fun _ closing => closing) closing_nil ?_
    intro value cursor more rest there same closing
    obtain rfl := List.map_eq_nil_iff.mp same
    exact ⟨value, cursor, misses value (there ▸ closing), there⟩
  rw [assignment_eq]
  constructor
  · intro ahead
    refine (target.steady ahead).bind (fun _ value stop _ _ => ?_) tails.ending
    refine Steady.accept (fun equals rest _ => assigned_steady deeper value equals rest)
      (fun _ => .pure _) ?_ stop.ahead
    intro cursor _ rest closing
    exact closing_misses apart closing
  · intro ahead passable
    refine Asks.bind (target.steady ahead) (target.asks ahead passable) ?_ tails
    rintro cursor value stop rfl reads _
    refine Asks.accept apart ?_ (.pure _)
    intro equals rest listed next
    obtain ⟨name, rfl⟩ := target_of_passable passable reads next (by simpa using listed)
    have suffix := (target.steady _).passes cursor _ stop rfl reads
    rw [next] at suffix
    exact (assigned_mends deeper name equals).asks rest
      (passable_suffix passable ((List.suffix_cons _ _).trans suffix))

theorem expression_mends (room : Nat) : Mends Closing (expression room) := by
  refine (expression_induction (fun room => Mends Closing (expression room))
    (fun room => Mends Closing (assignment room)) (fun room => Mends Anything (unary room))
    (fun room => Mends Anything (primary room))
    (fun levels room => Mends Closing (operation levels room))
    (fun operators tighter room => ∀ left, Mends Closing (chain operators tighter room left))
    ?_ ?_ (fun _ => primary_mends) (fun _ => unary_mends) (fun _ _ _ => chain_mends) ?_ ?_
    (fun _ => assignment_mends) room).1
  · rw [expression]
    exact mends_tooDeep (by decide)
  · intro room inside
    rw [expression]
    exact inside
  · intro room signs
    rw [operation]
    exact signs.narrow fun _ _ => trivial
  · intro operators tighter room tier operand chains
    rw [operation]
    exact operand.bind chains (chain_tails tier id)

/-! Statements. -/

theorem letStatement_mends (room : Nat) : Mends Anything (letStatement room) := by
  have finish (name : Token) (initializer : Expr) :
      Demands .semicolon (fun _ => Stmt.letIn name initializer)
        (demandLast .semicolon .semicolonAfterDeclaration (.letIn name initializer)) :=
    .last (by decide) _
  have apart : ∀ kind ∈ [TokenKind.equal], kind ∉ fillers := by decide
  refine ((Demands.name (by decide)).mends (by decide)).bind (fun name => ?_) ?_
  · refine Mends.accept apart (fun equals _ => ?_) ((finish name (.nil name)).mends (by decide)) ?_
    · exact (expression_mends room).bind (fun value => (finish name value).mends (by decide))
        (Demands.tails (finish name) (by decide) (closing_cons (by decide)))
    · exact ending_of_asking fun cursor finished => (finish name (.nil name)).refuses finished
  · refine .wanting [.semicolon] (by simp) (by decide) (fun _ _ _ => trivial) ?_ ?_
    · intro name cursor finished
      rw [bind_of_ok _ (miss_of_misses (by simp [finished, Misses]))]
      exact (finish name (.nil name)).refuses finished
    · intro name cursor more rest there same fitting
      have misses : Misses [.equal] cursor.ahead := by
        rw [there]
        exact filled_misses apart (by simp) (by decide) same rest
      rw [bind_of_ok _ (miss_of_misses misses)]
      exact (finish name (.nil name)).takes cursor more rest there same fitting

theorem printStatement_mends (keyword : Token) (room : Nat) :
    Mends Anything (printStatement keyword room) :=
  (expression_mends room).bind (fun value => (Demands.expect (by decide) _).mends (by decide))
    (Demands.tails (fun value => .expect (by decide) _) (by decide) (closing_cons (by decide)))

theorem expressionStatement_mends (room : Nat) : Mends Anything (expressionStatement room) :=
  (expression_mends room).bind (fun value => (Demands.expect (by decide) _).mends (by decide))
    (Demands.tails (fun value => .expect (by decide) _) (by decide) (closing_cons (by decide)))

def Until (stop : Cursor → Bool) (rest : List Token) : Prop :=
  rest = [] ∨ ∀ cursor : Cursor, cursor.ahead = rest → stop cursor = true

theorem statementsUntil_ends {stop : Cursor → Bool} (item : Reader Stmt) {cursor : Cursor}
    (ends : Until stop cursor.ahead) : statementsUntil stop item cursor = .ok [] cursor := by
  rw [statementsUntil]
  refine if_pos ?_
  rcases ends with ended | stops
  · simp [Cursor.atEnd, ended]
  · simp [stops cursor rfl]

def others (stop : Cursor → Bool) (item : Reader Stmt) (stmt : Stmt) : Reader (List Stmt) := do
  let rest ← statementsUntil stop item
  pure (stmt :: rest)

theorem others_ends {stop : Cursor → Bool} (item : Reader Stmt) (stmt : Stmt) {cursor : Cursor}
    (ends : Until stop cursor.ahead) : others stop item stmt cursor = .ok [stmt] cursor :=
  bind_of_ok _ (statementsUntil_ends item ends)

def Starts (item : Reader Stmt) : Prop :=
  ∀ token rest, ∃ further left, Mends Anything further ∧ Hands item further (token :: rest) left

theorem Starts.steady {item : Reader Stmt} (starts : Starts item) (token : Token) (rest : List Token) :
    Steady Anything item (token :: rest) := by
  obtain ⟨further, left, mends, hands⟩ := starts token rest
  exact hands.steady (mends.steady left)

theorem Starts.asks {item : Reader Stmt} (starts : Starts item) {token : Token} {rest : List Token}
    (passable : Passable (token :: rest)) : Asks Anything item (token :: rest) := by
  obtain ⟨further, left, mends, hands⟩ := starts token rest
  exact hands.asks (mends.asks left (passable_suffix passable hands.suffix))

section Lists

variable {stop : Cursor → Bool} {item : Reader Stmt}

theorem statementsUntil_cases (looks : Recovery.LooksAtNext stop) (reads : Reads item Leads)
    (token : Token) (rest : List Token) :
    Hands (statementsUntil stop item) (pure []) (token :: rest) (token :: rest) ∨
    Hands (statementsUntil stop item) (item >>= others stop item) (token :: rest) (token :: rest) := by
  let alone : Cursor := ⟨token, [token], token⟩
  have same (cursor : Cursor) (rest : List Token) (here : cursor.ahead = token :: rest) :
      stop cursor = stop alone := looks alone cursor rest (List.cons_ne_nil _ _) here
  cases stops : stop alone with
  | true =>
    refine .inl (.before _ fun last rest final => ?_)
    refine statementsUntil_ends item (.inr fun cursor here => ?_)
    rw [same cursor rest here, stops]
  | false =>
    refine .inr (.before _ fun last rest final => statementsUntil_eq reads ?_)
    rw [same _ rest rfl, stops]
    simp [Cursor.atEnd]

theorem statementsUntil_steady (looks : Recovery.LooksAtNext stop) (reads : Reads item Leads)
    (starts : Starts item) (ahead : List Token) :
    Steady (Until stop) (statementsUntil stop item) ahead := by
  -- On the length of the tokens: each statement takes some.
  induction ahead using (measure List.length).wf.induction with
  | h ahead ih =>
  cases ahead with
  | nil =>
    have stays {cursor : Cursor} (finished : cursor.ahead = []) :
        statementsUntil stop item cursor = .ok [] cursor :=
      statementsUntil_ends item (.inl finished)
    constructor
    · intro cursor value after here reads
      rw [stays here] at reads
      cases reads
      simp [here]
    · intro part whole rest value last here there reads also
      rw [stays here] at reads
      cases reads
      have fitting : Until stop whole.ahead := by simpa [there, here] using also
      exact ⟨whole, statementsUntil_ends item fitting, by simp [there, here]⟩
    · intro part whole rest error last here _ reads
      rw [stays here] at reads
      cases reads
  | cons token rest =>
    rcases statementsUntil_cases looks reads token rest with stopped | goesOn
    · exact stopped.steady (.pure _)
    · refine goesOn.steady ((starts.steady token rest).bind ?_ ?_)
      · intro cursor stmt after here success
        have shorter := reads_shortens reads success
        rw [here] at shorter
        exact (ih after.ahead shorter).bind (fun _ _ _ _ _ => .pure _) fun _ _ _ _ fitting => fitting
      · intro stmt cursor finished
        rw [others_ends item stmt (.inl finished)]
        exact fun _ _ => trivial

theorem statementsUntil_asks (looks : Recovery.LooksAtNext stop) (reads : Reads item Leads)
    (starts : Starts item) (ahead : List Token) (passable : Passable ahead) :
    Asks (Until stop) (statementsUntil stop item) ahead := by
  induction ahead using (measure List.length).wf.induction with
  | h ahead ih =>
  cases ahead with
  | nil =>
    refine .quiet fun cursor error last here fails => ?_
    rw [statementsUntil_ends item (.inl here)] at fails
    cases fails
  | cons token rest =>
    rcases statementsUntil_cases looks reads token rest with stopped | goesOn
    · exact stopped.asks (.pure _)
    · refine goesOn.asks (.bind (starts.steady token rest) (starts.asks passable) ?_ ?_)
      · intro cursor stmt after here success _
        have shorter := reads_shortens reads success
        rw [here] at shorter
        have suffix := (starts.steady token rest).passes cursor stmt after here success
        refine .bind (statementsUntil_steady looks reads starts after.ahead)
          (ih after.ahead shorter (passable_suffix passable suffix)) ?_ (tails_pure (.inl rfl) _)
        exact fun _ _ _ _ _ _ => .pure _
      · refine .content (fun _ _ => trivial) (.inl rfl) ?_
        intro stmt cursor more others there same fitting
        obtain rfl := List.map_eq_nil_iff.mp same
        exact ⟨[stmt], cursor, others_ends item stmt (there ▸ fitting), there⟩

theorem statementsUntil_mends (looks : Recovery.LooksAtNext stop) (reads : Reads item Leads)
    (starts : Starts item) : Mends (Until stop) (statementsUntil stop item) :=
  ⟨statementsUntil_steady looks reads starts, statementsUntil_asks looks reads starts⟩

end Lists

theorem block_mends {room : Nat} (starts : Starts (statement room)) (brace : Token) :
    Mends Anything (do
      let body ← statementsUntil closesBlock (statement room)
      let _ ← expect .rightBrace .braceAfterBlock
      pure (Stmt.block brace body)) := by
  have ends (token : Token) (rest : List Token) (closes : token.kind = .rightBrace) :
      Until closesBlock (token :: rest) := by
    refine .inr fun cursor here => ?_
    simp [closesBlock, Cursor.sees, here, closes]
  exact (statementsUntil_mends Recovery.looksAtNext_closesBlock (statement_reads room) starts).bind
    (fun body => (Demands.expect (by decide) _).mends (by decide))
    (Demands.tails (fun body => .expect (by decide) _) (by decide) ends)

theorem plain_starts (room : Nat) {token : Token} (plain : token.kind ≠ .leftBrace) (rest : List Token) :
    ∃ further left, Mends Anything further ∧ Hands (statement room) further (token :: rest) left := by
  by_cases declares : token.kind = .letWord
  · exact ⟨letStatement room, rest, letStatement_mends room,
      .behind _ fun last rest final => statement_let declares room last final rest⟩
  by_cases prints : token.kind = .printWord
  · exact ⟨printStatement token room, rest, printStatement_mends token room,
      .behind _ fun last rest final => statement_print prints room last final rest⟩
  refine ⟨expressionStatement room, token :: rest, expressionStatement_mends room,
    .before _ fun last rest final => ?_⟩
  have unseen (kind : TokenKind) (differs : token.kind ≠ kind) :
      Cursor.sees ⟨last, token :: rest, final⟩ [kind] = false := by
    simpa [sees_cons] using differs
  rw [statement_simple (unseen _ plain), simpleStatement, bind_of_ok _ (accept_miss (unseen _ declares))]
  exact bind_of_ok _ (accept_miss (unseen _ prints))

theorem statement_starts (room : Nat) : Starts (statement room) := by
  induction room with
  | zero =>
    intro token rest
    by_cases opens : token.kind = .leftBrace
    · refine ⟨failNext .blockTooDeep, rest, mends_tooDeep (by decide), ?_⟩
      rw [statement]
      exact hands_hit (by simp [opens])
    · exact plain_starts 0 opens rest
  | succ room ih =>
    intro token rest
    by_cases opens : token.kind = .leftBrace
    · refine ⟨_, rest, block_mends ih token, ?_⟩
      rw [statement]
      exact hands_hit (by simp [opens])
    · exact plain_starts (room + 1) opens rest

theorem program_mends (room : Nat) :
    Mends (Until fun _ => false) (statementsUntil (fun _ => false) (statement room)) :=
  statementsUntil_mends (fun _ _ _ _ _ => rfl) (statement_reads room) (statement_starts room)

end Scriptlet.Reader

namespace Scriptlet

/-! Whole token lists. -/

variable {tokens more : List Token} {final finalToo : Token}

theorem readStrict_of_ok {statements : List Stmt} {stop : Cursor}
    (inner : ∀ token ∈ tokens, token.isEnd = false) (ends : final.isEnd = true)
    (reads : Reader.statementsUntil (fun _ => false) (Reader.statement maxNesting)
      ⟨tokens.headD final, tokens, final⟩ = .ok statements stop) :
    readStrict (tokens ++ [final]) = .ok statements := by
  rw [readStrict, ofTokens_whole inner ends, reads]

theorem readStrict_of_error {error : SyntaxError} {stop : Cursor}
    (inner : ∀ token ∈ tokens, token.isEnd = false) (ends : final.isEnd = true)
    (fails : Reader.statementsUntil (fun _ => false) (Reader.statement maxNesting)
      ⟨tokens.headD final, tokens, final⟩ = .error error stop) :
    readStrict (tokens ++ [final]) = .error error := by
  rw [readStrict, ofTokens_whole inner ends, fails]

/-- Where the whole of a token list is read, its first part is read too or asks for more. -/
theorem asks_of_whole {statements : List Stmt} {error : SyntaxError}
    (inner : ∀ token ∈ tokens ++ more, token.isEnd = false) (ends : final.isEnd = true)
    (endsToo : finalToo.isEnd = true)
    (reads : readStrict (tokens ++ more ++ [final]) = .ok statements)
    (fails : readStrict (tokens ++ [finalToo]) = .error error) : error.asks = true := by
  obtain ⟨innerPart, -⟩ := List.forall_mem_append.mp inner
  by_contra quiet
  cases outcome : Reader.statementsUntil (fun _ => false) (Reader.statement maxNesting)
      ⟨tokens.headD finalToo, tokens, finalToo⟩ with
  | ok found stop => cases (readStrict_of_ok innerPart endsToo outcome).symm.trans fails
  | error early stop =>
    cases (readStrict_of_error innerPart endsToo outcome).symm.trans fails
    obtain ⟨other, after, same⟩ := ((Reader.program_mends maxNesting).steady tokens).fails _
      ⟨(tokens ++ more).headD final, tokens ++ more, final⟩ more error stop rfl rfl outcome
      (by simpa using quiet)
    cases (readStrict_of_error inner ends same).symm.trans reads

/-- Tokens that are read, or ask for more with nothing assigned to but names, are read with some tokens
filled in after them: names, closing parentheses, semicolons and closing braces. -/
theorem fills_of_asks (inner : ∀ token ∈ tokens, token.isEnd = false) (ends : final.isEnd = true)
    (passes : aimed tokens = true)
    (asks : ∀ error, readStrict (tokens ++ [final]) = .error error → error.asks = true) :
    ∃ kinds, (∀ kind ∈ kinds, kind ∈ Reader.fillers) ∧ ∀ more finalToo,
      more.map (·.kind) = kinds → finalToo.isEnd = true →
      ∃ statements, readStrict (tokens ++ more ++ [finalToo]) = .ok statements := by
  have mends := Reader.program_mends maxNesting
  -- What is filled in is of no kind that ends a list.
  have innerBoth {kinds : List TokenKind} (filling : ∀ kind ∈ kinds, kind ∈ Reader.fillers)
      {more : List Token} (same : more.map (·.kind) = kinds) :
      ∀ token ∈ tokens ++ more, token.isEnd = false := by
    refine List.forall_mem_append.mpr ⟨inner, fun token member => ?_⟩
    have filler := filling token.kind (same ▸ List.mem_map_of_mem member)
    have differs : token.kind ≠ .endOfInput := fun same => absurd (same ▸ filler) (by decide)
    simpa [Token.isEnd] using differs
  cases outcome : Reader.statementsUntil (fun _ => false) (Reader.statement maxNesting)
      ⟨tokens.headD final, tokens, final⟩ with
  | ok statements stop =>
    refine ⟨[], by simp, fun more finalToo same endsToo => ⟨statements, ?_⟩⟩
    obtain rfl := List.map_eq_nil_iff.mp same
    obtain ⟨after, reads, -⟩ := (mends.steady tokens).keeps _
      ⟨(tokens ++ []).headD finalToo, tokens ++ [], finalToo⟩ [] statements stop rfl rfl outcome
      (.inr (.inl rfl))
    exact readStrict_of_ok (innerBoth (by simp) same) endsToo reads
  | error error stop =>
    have fails := readStrict_of_error inner ends outcome
    obtain ⟨kinds, -, filling, fills⟩ :=
      mends.asks tokens ⟨.start, passes⟩ _ error stop rfl outcome (asks error fails)
    refine ⟨kinds, filling, fun more finalToo same endsToo => ?_⟩
    obtain ⟨statements, after, reads, -⟩ := fills
      ⟨(tokens ++ more).headD finalToo, tokens ++ more, finalToo⟩ more [] (by simp) same (.inl rfl)
    exact ⟨statements, readStrict_of_ok (innerBoth filling same) endsToo reads⟩

end Scriptlet
