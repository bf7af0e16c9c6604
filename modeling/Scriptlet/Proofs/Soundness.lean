import Scriptlet.Proofs.Grammar
import Scriptlet.Proofs.Readers

/-! What is read is a sentence of the grammar. A reader that succeeds has taken some tokens off the front
of those ahead, and these are what the grammar derives its result from. -/
namespace Scriptlet

/-- Whenever the reader succeeds, what it has taken is of the shape. -/
def Reads {α : Type} (reader : Reader α) (shape : List Token → α → Prop) : Prop :=
  ∀ cursor value after, reader cursor = .ok value after →
    ∃ taken, cursor.ahead = taken ++ after.ahead ∧ after.final = cursor.final ∧ shape taken value

namespace Reads

variable {α β : Type} {reader : Reader α} {shape : List Token → α → Prop}

theorem weaken {wider : List Token → α → Prop} (reads : Reads reader shape)
    (implies : ∀ taken value, shape taken value → wider taken value) : Reads reader wider := by
  intro cursor value after success
  obtain ⟨taken, ahead, final, holds⟩ := reads cursor value after success
  exact ⟨taken, ahead, final, implies taken value holds⟩

theorem pure (value : α) (holds : shape [] value) : Reads (pure value) shape := by
  intro cursor result after success
  cases success
  exact ⟨[], rfl, rfl, holds⟩

theorem bind {next : α → Reader β} {result : List Token → β → Prop} (first : Reads reader shape)
    (second : ∀ taken value, shape taken value →
      Reads (next value) fun more final => result (taken ++ more) final) :
    Reads (reader >>= next) result := by
  intro cursor final after success
  obtain ⟨value, middle, reads, follows⟩ := bind_eq_ok.mp success
  obtain ⟨taken, ahead, sameFinal, holds⟩ := first cursor value middle reads
  obtain ⟨more, rest, stillFinal, concludes⟩ := second taken value holds middle final after follows
  refine ⟨taken ++ more, ?_, stillFinal.trans sameFinal, concludes⟩
  rw [ahead, rest, List.append_assoc]

theorem failNext (fault : SyntaxFault) : Reads (Reader.failNext fault) shape := by
  intro cursor value after success
  cases success

theorem failAt (token : Token) (fault : SyntaxFault) : Reads (Reader.failAt token fault) shape := by
  intro cursor value after success
  cases success

theorem failLast (fault : SyntaxFault) : Reads (Reader.failLast fault) shape := by
  intro cursor value after success
  cases success

theorem accept (kinds : List TokenKind) :
    Reads (Reader.accept? kinds) fun taken found => match found with
      | some token => taken = [token] ∧ token.kind ∈ kinds
      | none => taken = [] := by
  intro cursor found after success
  obtain ⟨last, ahead, final⟩ := cursor
  cases ahead with
  | nil =>
    rw [Reader.accept_miss rfl] at success
    cases success
    exact ⟨[], rfl, rfl, rfl⟩
  | cons token rest =>
    cases wanted : kinds.contains token.kind with
    | true =>
      rw [Reader.accept_hit last final rest wanted] at success
      cases success
      exact ⟨[token], rfl, rfl, rfl, by simpa using wanted⟩
    | false =>
      have unseen : Cursor.sees ⟨last, token :: rest, final⟩ kinds = false := wanted
      rw [Reader.accept_miss unseen] at success
      cases success
      exact ⟨[], rfl, rfl, rfl⟩

theorem expect (kind : TokenKind) (fault : SyntaxFault) :
    Reads (Reader.expect kind fault) fun taken token => taken = [token] ∧ token.kind = kind := by
  refine (accept [kind]).bind ?_
  intro taken found looked
  cases found with
  | none => exact failNext fault
  | some token =>
    obtain ⟨rfl, wanted⟩ := looked
    exact pure token ⟨rfl, by simpa using wanted⟩

end Reads

theorem leaf_of_atom {token : Token} {expr : Expr} (found : Reader.atom? token = some expr) :
    Leaf token expr := by
  unfold Reader.atom? at found
  split at found
  case h_1 kind => cases found; exact .no kind
  case h_2 kind => cases found; exact .yes kind
  case h_3 kind => cases found; exact .nil kind
  case h_4 kind => cases found; exact .integer kind
  case h_5 kind => cases found; exact .float kind
  case h_6 kind => cases found; exact .string kind
  case h_7 kind => cases found; exact .name kind
  case h_8 => cases found

theorem atom_of_leaf {token : Token} {expr : Expr} (leaf : Leaf token expr) :
    Reader.atom? token = some expr := by
  cases leaf <;> simp [Reader.atom?, *]

/-- The operators of a tier are those of one tightness: the number of the tier, from 1. -/
theorem tier_tightness {operators : List TokenKind} {tighter : List (List TokenKind)}
    (tier : operators :: tighter <:+ Reader.tiers) (kind : TokenKind) :
    kind ∈ operators ↔ kind.tightness + tighter.length = 4 := by
  simp only [Reader.tiers, List.suffix_cons_iff, List.cons.injEq, List.suffix_nil, reduceCtorEq,
    or_false] at tier
  rcases tier with ⟨rfl, rfl⟩ | ⟨rfl, rfl⟩ | ⟨rfl, rfl⟩ | ⟨rfl, rfl⟩
  all_goals cases kind <;> simp [TokenKind.tightness]

namespace Reader

theorem primary_reads {room : Nat} (inside : Reads (expression room) (Derives Rank.assignment)) :
    Reads (primary room) (Derives Rank.primary) := by
  rw [primary_eq]
  refine (Reads.accept leafKinds).bind ?_
  intro taken found looked
  cases found with
  | some token =>
    obtain ⟨rfl, leaf⟩ := looked
    have present := atom_isSome token
    rw [List.contains_iff_mem.mpr leaf] at present
    obtain ⟨expr, stands⟩ := Option.isSome_iff_exists.mp present
    refine Reads.pure _ ?_
    rw [stands]
    exact .leaf (leaf_of_atom stands)
  | none =>
    subst looked
    refine (Reads.accept [.leftParen]).bind ?_
    intro opening found looked
    cases found with
    | none => exact Reads.failNext _
    | some paren =>
      obtain ⟨rfl, opens⟩ := looked
      refine inside.bind ?_
      intro tokens expr derived
      refine (Reads.expect .rightParen .parenAfterExpression).bind ?_
      rintro _ close ⟨rfl, closes⟩
      refine Reads.pure _ ?_
      simpa using Derives.grouping (List.mem_singleton.mp opens) closes derived

theorem unary_reads {room : Nat} (operand : Reads (primary room) (Derives Rank.primary))
    (deeper : ∀ less, room = less + 1 → Reads (unary less) (Derives Rank.unary)) :
    Reads (unary room) (Derives Rank.unary) := by
  rw [unary]
  refine (Reads.accept _).bind ?_
  intro taken found looked
  cases found with
  | none =>
    subst looked
    exact operand.weaken fun _ _ derived => .tighter derived
  | some operator =>
    obtain ⟨rfl, sign⟩ := looked
    cases room with
    | zero => exact Reads.failNext _
    | succ less =>
      refine (deeper less rfl).bind ?_
      intro tokens expr derived
      refine Reads.pure _ ?_
      simpa using Derives.unary (by simpa using sign) derived

def ChainReads (operators : List TokenKind) (tighter : List (List TokenKind)) (room : Nat)
    (left : Expr) : Prop :=
  ∀ rank, rank + tighter.length = 4 → Reads (chain operators tighter room left) fun taken expr =>
    ∀ before, Derives rank before left → Derives rank (before ++ taken) expr

theorem chain_reads {operators : List TokenKind} {tighter : List (List TokenKind)} {room : Nat}
    {left : Expr} (tier : operators :: tighter <:+ tiers)
    (deeper : ∀ less, room = less + 1 →
      (∀ rank, rank + tighter.length = 5 → Reads (operation tighter less) (Derives rank)) ∧
      ∀ operator right, ChainReads operators tighter less (.binary left operator right)) :
    ChainReads operators tighter room left := by
  intro rank place
  rw [chain]
  refine (Reads.accept operators).bind ?_
  intro taken found looked
  cases found with
  | none =>
    subst looked
    refine Reads.pure _ ?_
    intro before derived
    simpa using derived
  | some operator =>
    obtain ⟨rfl, joins⟩ := looked
    cases room with
    | zero => exact Reads.failNext _
    | succ less =>
      obtain ⟨operand, further⟩ := deeper less rfl
      refine (operand (rank + 1) (by omega)).bind ?_
      intro tokens right rightDerived
      -- What follows goes on from the operator just joined, so it is about all tokens from the start.
      refine (further operator right rank place).weaken ?_
      intro more expr goesOn before leftDerived
      have tightness := (tier_tightness tier operator.kind).mp joins
      have positive : 0 < operator.kind.tightness := by
        have shorter := tier.length_le
        simp only [tiers, List.length_cons, List.length_nil] at shorter
        omega
      have joined : Derives rank (before ++ operator :: tokens) (.binary left operator right) :=
        .binary (by omega) (by omega) leftDerived rightDerived
      simpa using goesOn _ joined

theorem assignment_reads {room : Nat} (operand : Reads (operation tiers room) (Derives 1))
    (deeper : ∀ less, room = less + 1 → Reads (assignment less) (Derives Rank.assignment)) :
    Reads (assignment room) (Derives Rank.assignment) := by
  rw [assignment]
  refine operand.bind ?_
  intro tokens target derived
  refine (Reads.accept _).bind ?_
  intro taken found looked
  cases found with
  | none =>
    subst looked
    exact Reads.pure _ (by simpa using Derives.tighter derived)
  | some equals =>
    obtain ⟨rfl, sign⟩ := looked
    cases room with
    | zero => exact Reads.failNext _
    | succ less =>
      refine (deeper less rfl).bind ?_
      intro more value valueDerived
      split
      · next name =>
        obtain ⟨rfl, named⟩ := derives_reference derived
        refine Reads.pure _ ?_
        simpa using Derives.assign named (List.mem_singleton.mp sign) valueDerived
      · exact Reads.failAt _ _

theorem operation_reads {operators : List TokenKind} {tighter : List (List TokenKind)} {room : Nat}
    (operand : ∀ rank, rank + tighter.length = 5 → Reads (operation tighter room) (Derives rank))
    (further : ∀ left, ChainReads operators tighter room left) (rank : Nat)
    (place : rank + (operators :: tighter).length = 5) :
    Reads (operation (operators :: tighter) room) (Derives rank) := by
  rw [List.length_cons] at place
  rw [operation]
  refine (operand (rank + 1) (by omega)).bind ?_
  intro tokens left derived
  refine (further left rank (by omega)).weaken ?_
  intro taken expr goesOn
  exact goesOn tokens (.tighter derived)

theorem readers_read (room : Nat) :
    Reads (expression room) (Derives Rank.assignment) ∧
      ∀ rank, rank + tiers.length = 5 → Reads (operation tiers room) (Derives rank) := by
  have all := expression_induction
    (fun room => Reads (expression room) (Derives Rank.assignment))
    (fun room => Reads (assignment room) (Derives Rank.assignment))
    (fun room => Reads (unary room) (Derives Rank.unary))
    (fun room => Reads (primary room) (Derives Rank.primary))
    (fun levels room => ∀ rank, rank + levels.length = 5 → Reads (operation levels room) (Derives rank))
    (fun operators tighter room => ∀ left, ChainReads operators tighter room left)
    ?_ ?_ (fun _ => primary_reads) (fun _ => unary_reads) ?_ ?_ ?_ ?_ room
  · exact ⟨all.1, all.2.2.2.1 tiers (List.suffix_refl _)⟩
  · rw [expression]
    exact Reads.failNext _
  · intro room inside
    rw [expression]
    exact inside
  · intro operators tighter room tier deeper left
    refine chain_reads tier fun less same => ?_
    obtain ⟨operand, further⟩ := deeper less same
    exact ⟨operand, fun operator right => further (.binary left operator right)⟩
  · intro room operand rank place
    rw [operation]
    obtain rfl : rank = Rank.unary := place
    exact operand
  · intro operators tighter room _ operand further
    exact operation_reads operand further
  · intro room operand deeper
    exact assignment_reads (operand 1 rfl) deeper

theorem expression_reads (room : Nat) : Reads (expression room) (Derives Rank.assignment) :=
  (readers_read room).1

/-- What stands in front of an equals sign is read as an expression that is no assignment. -/
theorem target_reads (room : Nat) : Reads (operation tiers room) (Derives 1) :=
  (readers_read room).2 1 rfl

def Declares (tokens : List Token) (stmt : Stmt) : Prop :=
  ∀ keyword rest statements, keyword.kind = .letWord → Sentence rest statements →
    Sentence (keyword :: (tokens ++ rest)) (stmt :: statements)

theorem letStatement_reads (room : Nat) : Reads (letStatement room) Declares := by
  refine (Reads.expect .identifier .variableName).bind ?_
  rintro _ name ⟨rfl, named⟩
  refine (Reads.accept [.equal]).bind ?_
  intro taken found looked
  cases found with
  | none =>
    subst looked
    refine (Reads.accept [.semicolon]).bind ?_
    intro closing found looked
    cases found with
    | none => exact Reads.failLast _
    | some semicolon =>
      obtain ⟨rfl, ends⟩ := looked
      refine Reads.pure _ ?_
      intro keyword rest statements declares others
      simpa using Sentence.declaration declares named (List.mem_singleton.mp ends) others
  | some equals =>
    obtain ⟨rfl, sign⟩ := looked
    refine (expression_reads room).bind ?_
    intro tokens expr derived
    refine (Reads.accept [.semicolon]).bind ?_
    intro closing found looked
    cases found with
    | none => exact Reads.failLast _
    | some semicolon =>
      obtain ⟨rfl, ends⟩ := looked
      refine Reads.pure _ ?_
      intro keyword rest statements declares others
      simpa using Sentence.definition declares named (List.mem_singleton.mp sign) derived
        (List.mem_singleton.mp ends) others

def Leads (tokens : List Token) (stmt : Stmt) : Prop := Sentence tokens [stmt]

theorem simpleStatement_reads (room : Nat) : Reads (simpleStatement room) Leads := by
  refine (Reads.accept [.letWord]).bind ?_
  intro taken found looked
  cases found with
  | some keyword =>
    obtain ⟨rfl, declares⟩ := looked
    refine (letStatement_reads room).weaken ?_
    intro tokens stmt declared
    have sentence := declared keyword [] [] (List.mem_singleton.mp declares) .nil
    simpa [Leads] using sentence
  | none =>
    subst looked
    refine (Reads.accept [.printWord]).bind ?_
    intro opening found looked
    cases found with
    | some keyword =>
      obtain ⟨rfl, prints⟩ := looked
      refine (expression_reads room).bind ?_
      intro tokens expr derived
      refine (Reads.expect .semicolon .semicolonAfterValue).bind ?_
      rintro _ semicolon ⟨rfl, ends⟩
      refine Reads.pure _ ?_
      simpa [Leads] using Sentence.print (List.mem_singleton.mp prints) derived ends .nil
    | none =>
      subst looked
      refine (expression_reads room).bind ?_
      intro tokens expr derived
      refine (Reads.expect .semicolon .semicolonAfterExpression).bind ?_
      rintro _ semicolon ⟨rfl, ends⟩
      refine Reads.pure _ ?_
      simpa [Leads] using Sentence.expression derived ends .nil

theorem leads_nonempty {tokens : List Token} {stmt : Stmt} (leads : Leads tokens stmt) :
    tokens ≠ [] := by
  rintro rfl
  generalize none : ([] : List Token) = tokens at leads
  cases leads <;> simp at none

theorem reads_shortens {item : Reader Stmt} {cursor after : Cursor} {stmt : Stmt}
    (reads : Reads item Leads) (success : item cursor = .ok stmt after) :
    after.ahead.length < cursor.ahead.length := by
  obtain ⟨taken, ahead, -, leads⟩ := reads cursor stmt after success
  have some := List.length_pos_iff.mpr (leads_nonempty leads)
  rw [ahead, List.length_append]
  omega

theorem statementsUntil_eq {stop : Cursor → Bool} {item : Reader Stmt} (reads : Reads item Leads)
    {cursor : Cursor} (goesOn : ¬ (cursor.atEnd || stop cursor) = true) :
    statementsUntil stop item cursor = (do
      let stmt ← item
      let others ← statementsUntil stop item
      pure (stmt :: others) : Reader (List Stmt)) cursor := by
  -- The strict reader's loop never gives up for want of progress.
  rw [statementsUntil, if_neg goesOn, bind_run]
  cases outcome : item cursor with
  | error error after => rfl
  | ok stmt after =>
    simp only [reads_shortens reads outcome, if_true]
    have rest : (statementsUntil stop item >>= fun others =>
        (pure (stmt :: others) : Reader (List Stmt))) after = _ := bind_run _ _ _
    rw [rest]
    cases statementsUntil stop item after <;> rfl

/-- Statements up to the stop are a sentence, and reading ends nowhere but there. -/
theorem statementsUntil_reads (stop : Cursor → Bool) {item : Reader Stmt} (reads : Reads item Leads)
    (cursor : Cursor) {statements : List Stmt} {after : Cursor}
    (success : statementsUntil stop item cursor = .ok statements after) :
    (after.atEnd || stop after) = true ∧ ∃ taken, cursor.ahead = taken ++ after.ahead ∧
      after.final = cursor.final ∧ Sentence taken statements := by
  fun_induction statementsUntil stop item cursor generalizing statements with
  | case1 cursor stops =>
    cases success
    exact ⟨stops, [], rfl, rfl, .nil⟩
  | case2 => cases success
  | case3 cursor _ stmt middle read _ error last fails => cases success
  | case4 cursor _ stmt middle read _ others last follows ih =>
    cases success
    obtain ⟨taken, ahead, final, leads⟩ := reads cursor stmt middle read
    obtain ⟨stops, more, rest, stillFinal, sentence⟩ := ih follows
    refine ⟨stops, taken ++ more, ?_, stillFinal.trans final, ?_⟩
    · rw [ahead, rest, List.append_assoc]
    · exact sentence_append leads sentence
  | case5 cursor _ stmt middle read stuck =>
    -- A statement takes a token, so the reader never gives up for want of progress.
    obtain ⟨taken, ahead, -, leads⟩ := reads cursor stmt middle read
    have some := List.length_pos_iff.mpr (leads_nonempty leads)
    rw [ahead, List.length_append] at stuck
    omega

theorem statement_reads (room : Nat) : Reads (statement room) Leads := by
  induction room with
  | zero =>
    refine (Reads.accept [.leftBrace]).bind ?_
    intro taken found looked
    cases found with
    | some brace => exact Reads.failNext _
    | none =>
      subst looked
      exact simpleStatement_reads 0
  | succ room ih =>
    refine (Reads.accept [.leftBrace]).bind ?_
    intro taken found looked
    cases found with
    | none =>
      subst looked
      exact simpleStatement_reads (room + 1)
    | some brace =>
      obtain ⟨rfl, opens⟩ := looked
      have inside : Reads (statementsUntil closesBlock (statement room)) Sentence :=
        fun cursor _ _ success => (statementsUntil_reads closesBlock ih cursor success).2
      refine inside.bind ?_
      intro tokens body sentence
      refine (Reads.expect .rightBrace .braceAfterBlock).bind ?_
      rintro _ close ⟨rfl, closes⟩
      refine Reads.pure _ ?_
      simpa [Leads] using Sentence.block (List.mem_singleton.mp opens) sentence closes .nil

end Reader

theorem plain_takeWhile (tokens : List Token) :
    ∀ token ∈ tokens.takeWhile fun token => !token.isEnd, token.isEnd = false := by
  intro token member
  simpa using List.all_eq_true.mp List.all_takeWhile token member

theorem isEnd_of_dropWhile {tokens others : List Token} {final : Token}
    (rest : (tokens.dropWhile fun token => !token.isEnd) = final :: others) : final.isEnd = true := by
  have first := List.head_dropWhile_not (fun token : Token => !token.isEnd) (l := tokens)
    (by simp [rest])
  simpa [rest] using first

theorem exists_firstEnd {tokens : List Token} (ends : ∃ token ∈ tokens, token.isEnd = true) :
    ∃ words final others, tokens = words ++ final :: others ∧ (∀ token ∈ words, token.isEnd = false) ∧
      final.isEnd = true := by
  obtain ⟨final, found⟩ := Option.isSome_iff_exists.mp (List.find?_isSome.mpr ends)
  obtain ⟨isEnd, words, others, split, inner⟩ := List.find?_eq_some_iff_append.mp found
  exact ⟨words, final, others, split, by simpa using inner, isEnd⟩

theorem ofTokens_firstEnd {words : List Token} {final : Token} (others : List Token)
    (inner : ∀ token ∈ words, token.isEnd = false) (ends : final.isEnd = true) :
    Cursor.ofTokens (words ++ final :: others) = ⟨words.headD final, words, final⟩ := by
  have none : ∀ token ∈ words, (!token.isEnd) = true := by simpa using inner
  simp [Cursor.ofTokens, List.takeWhile_append_of_pos none, List.dropWhile_append_of_pos none, ends]

theorem ofTokens_whole {tokens : List Token} {final : Token}
    (inner : ∀ token ∈ tokens, token.isEnd = false) (ends : final.isEnd = true) :
    Cursor.ofTokens (tokens ++ [final]) = ⟨tokens.headD final, tokens, final⟩ :=
  ofTokens_firstEnd [] inner ends

/-- What the strict reader returns is the tree of a sentence: of all the tokens it was given. -/
theorem readStrict_sentence {tokens : List Token} {final : Token} {statements : List Stmt}
    (inner : ∀ token ∈ tokens, token.isEnd = false) (ends : final.isEnd = true)
    (success : readStrict (tokens ++ [final]) = .ok statements) : Sentence tokens statements := by
  unfold readStrict at success
  rw [ofTokens_whole inner ends] at success
  split at success
  · next read after reading =>
    cases success
    obtain ⟨stops, taken, ahead, -, sentence⟩ :=
      Reader.statementsUntil_reads _ (Reader.statement_reads maxNesting) _ reading
    have finished : after.ahead = [] := by simpa [Cursor.atEnd] using stops
    rw [finished, List.append_nil] at ahead
    have whole : tokens = taken := ahead
    rw [whole]
    exact sentence
  · cases success

end Scriptlet
