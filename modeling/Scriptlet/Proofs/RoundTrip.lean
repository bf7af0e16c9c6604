import Scriptlet.Proofs.Literals
import Scriptlet.Proofs.Programs

/-! The canonical text of a program is a program, and a respelling of the one it is laid out from. -/
namespace Scriptlet

open Segment

theorem grouping_laid {paren : Token} {inner : Expr} (scanned : paren.Scanned)
    (isParen : paren.kind = .leftParen) (laid : inner.Laid Rank.assignment) :
    (Expr.grouping paren inner).Laid Rank.primary := by
  obtain ⟨line, rfl⟩ := scanned_sign scanned isParen (by decide : (.leftParen, ['(']) ∈ signs)
  have close : Yields [')'] (Single .rightParen [')']) := .lexeme (.sign (by decide))
  have shown : (Expr.grouping (Scan.token line .leftParen ['(']) inner).layout.toList =
      ['('] ++ (inner.layout.toList ++ [')']) := by simp [Expr.layout]
  refine ⟨⟨_, _, shown, by decide⟩, ?_⟩
  rw [shown]
  refine (Yields.closed (.sign (by decide : (.leftParen, ['(']) ∈ signs)) (by decide)
    (laid.yields.append (parted_cons (by decide) []) close)).weaken ?_
  rintro _ ⟨_, _, rfl, ⟨first, rfl⟩, _, _, rfl, ⟨second, derived, respells⟩, last, rfl⟩
  exact ⟨_, .grouping rfl rfl derived, .grouping (token_same _ _ _ _) respells⟩

theorem unary_laid {operator : Token} {operand : Expr} (scanned : operator.Scanned)
    (sign : operator.kind = .bang ∨ operator.kind = .minus) (tight : operand.isBinary = false)
    (laid : operand.Laid Rank.unary) : (Expr.unary operator operand).Laid Rank.unary := by
  obtain ⟨c, others, starts, noEquals⟩ := laid.opens
  -- Only an equals sign runs into a sign before it.
  have bars (rest : List Char) : Bars (· == '=') (operand.layout.toList ++ rest) := by
    rw [starts]
    rintro d head
    cases head
    simpa using noEquals
  have step {kind : TokenKind} {mark : Char} (listed : (kind, [mark]) ∈ signs)
      (isSign : kind = .bang ∨ kind = .minus) (line : Int) (apart : mark ≠ '=')
      (detached : ∀ rest, Detached kind (operand.layout.toList ++ rest)) :
      (Expr.unary (Scan.token line kind [mark]) operand).Laid Rank.unary := by
    have shown : (Expr.unary (Scan.token line kind [mark]) operand).layout.toList =
        [mark] ++ operand.layout.toList := by
      simp [Expr.layout, tight, Expr.parenthesized, Scan.token, ByteString.shown]
    refine ⟨⟨_, _, shown, apart⟩, ?_⟩
    rw [shown]
    refine (Yields.before (.sign listed) (fun rest _ => detached rest) laid.yields).weaken ?_
    rintro _ ⟨_, _, rfl, ⟨place, rfl⟩, second, derived, respells⟩
    exact ⟨_, .unary isSign derived, .unary (token_same _ _ _ _) respells⟩
  rcases sign with isBang | isMinus
  · obtain ⟨line, rfl⟩ := scanned_sign scanned isBang (by decide : (.bang, ['!']) ∈ signs)
    exact step (by decide) (.inl rfl) line (by decide) bars
  · obtain ⟨line, rfl⟩ := scanned_sign scanned isMinus (by decide : (.minus, ['-']) ∈ signs)
    exact step (by decide) (.inr rfl) line (by decide) fun rest => detached_closed (by decide) _

theorem binary_laid {rank : Nat} {operator : Token} {left right : Expr} (scanned : operator.Scanned)
    (joins : 0 < rank) (binds : operator.kind.tightness = rank)
    (looser : left.needsParensLeft operator.kind = false)
    (tighter : right.needsParensRight operator.kind = false) (onLeft : left.Laid rank)
    (onRight : right.Laid (rank + 1)) : (Expr.binary left operator right).Laid rank := by
  obtain ⟨line, kind, text, rfl, lexeme⟩ := scanned
  have shown : (Expr.binary left (Scan.token line kind text) right).layout.toList =
      left.layout.toList ++ ' ' :: (text ++ ' ' :: right.layout.toList) := by
    have plainLeft : left.needsParensLeft kind = false := looser
    have plainRight : right.needsParensRight kind = false := tighter
    simp [Expr.layout, plainLeft, plainRight, Expr.parenthesized, Scan.token, ByteString.shown]
  refine ⟨?_, ?_⟩
  · obtain ⟨c, rest, starts, apart⟩ := onLeft.opens
    exact ⟨c, _, by rw [shown, starts, List.cons_append], apart⟩
  · rw [shown]
    refine (onLeft.yields.append (parted_cons (by decide) _) (.blank (by decide)
      ((Yields.lexeme lexeme).append (parted_cons (by decide) _)
        (.blank (by decide) onRight.yields)))).weaken ?_
    rintro _ ⟨_, _, rfl, ⟨first, leftDerived, respells⟩, _, _, rfl, ⟨place, rfl⟩, second, rightDerived,
      respellsToo⟩
    exact ⟨_, .binary joins binds leftDerived rightDerived,
      .binary (token_same _ _ _ _) respells respellsToo⟩

theorem assign_laid {name : Token} {value : Expr} (scanned : name.Scanned)
    (isName : name.kind = .identifier) (laid : value.Laid Rank.assignment) :
    (Expr.assign name value).Laid Rank.assignment := by
  obtain ⟨line, kind, text, rfl, lexeme⟩ := scanned
  obtain rfl : kind = .identifier := isName
  have target : (Expr.reference (Scan.token line .identifier text)).Laid Rank.primary := name_laid lexeme
  have shown : (Expr.assign (Scan.token line .identifier text) value).layout.toList =
      text ++ ' ' :: (['='] ++ ' ' :: value.layout.toList) := by
    simp [Expr.layout, Scan.token, ByteString.shown]
  refine ⟨?_, ?_⟩
  · obtain ⟨c, rest, starts, apart⟩ := target.opens
    have front : text = c :: rest := String.toList_ofList.symm.trans starts
    exact ⟨c, _, by rw [shown, front, List.cons_append], apart⟩
  · rw [shown]
    have equals : Yields ['='] (Single .equal ['=']) := .lexeme (.sign (by decide))
    refine ((Yields.lexeme lexeme).append (parted_cons (by decide) _) (.blank (by decide)
      (equals.append (parted_cons (by decide) _) (.blank (by decide) laid.yields)))).weaken ?_
    rintro _ ⟨_, _, rfl, ⟨first, rfl⟩, _, _, rfl, ⟨place, rfl⟩, second, derived, respells⟩
    exact ⟨_, .assign rfl rfl derived, .assign (token_same _ _ _ _) respells⟩

theorem needsParens_of_rank {expr : Expr} {operator : TokenKind} :
    (operator.tightness ≤ expr.rank → expr.needsParensLeft operator = false) ∧
      (operator.tightness < expr.rank → expr.needsParensRight operator = false) := by
  cases expr with
  | binary left inner right => simp [Expr.rank, Expr.needsParensLeft, Expr.needsParensRight]
  | _ => exact ⟨fun _ => rfl, fun _ => rfl⟩

theorem isBinary_of_rank {expr : Expr} (tight : Rank.unary ≤ expr.rank) : expr.isBinary = false := by
  cases expr with
  | binary left inner right =>
    have loose : inner.kind.tightness < Rank.unary := Nat.lt_succ_of_le (Reader.tightness_le inner.kind)
    exact absurd tight (Nat.not_le.mpr loose)
  | _ => rfl

/-- An expression that was read is laid out without parentheses of its own, and can be read again. -/
theorem derives_laid {rank : Nat} {tokens : List Token} {expr : Expr} (derived : Derives rank tokens expr)
    (scanned : ∀ token ∈ tokens, token.Scanned) : expr.Laid rank := by
  -- Each rule hands its tokens down to its parts, so the induction is on the derivation.
  induction derived with
  | leaf stands => exact leaf_laid stands (scanned _ List.mem_cons_self)
  | grouping opens _ _ ih =>
    simp only [List.forall_mem_cons, List.forall_mem_append] at scanned
    obtain ⟨paren, inner, -⟩ := scanned
    exact grouping_laid paren opens (ih inner)
  | unary sign derived ih =>
    obtain ⟨operator, operand⟩ := List.forall_mem_cons.mp scanned
    exact unary_laid operator sign (isBinary_of_rank (derives_rank derived).1) (ih operand)
  | binary joins binds leftDerived rightDerived leftIH rightIH =>
    simp only [List.forall_mem_cons, List.forall_mem_append] at scanned
    obtain ⟨left, operator, right⟩ := scanned
    -- The grammar put no looser operand here, so the layout adds no parentheses.
    have looser := needsParens_of_rank.1 (binds.le.trans (derives_rank leftDerived).1)
    have tighter := needsParens_of_rank.2 (binds.trans_lt (derives_rank rightDerived).1)
    exact binary_laid operator joins binds looser tighter (leftIH left) (rightIH right)
  | assign target _ _ ih =>
    simp only [List.forall_mem_cons] at scanned
    obtain ⟨name, -, value⟩ := scanned
    exact assign_laid name target (ih value)
  | tighter _ ih =>
    obtain ⟨opens, yields⟩ := ih scanned
    refine ⟨opens, yields.weaken ?_⟩
    rintro tokens ⟨second, derived, respells⟩
    exact ⟨second, .tighter derived, respells⟩

def Rewritten (statements : List Stmt) (tokens : List Token) : Prop :=
  ∃ second, Sentence tokens second ∧ Stmt.Respells statements second

namespace Yields

variable {text more : List Char} {shape further : List Token → Prop}

theorem spaces (count : Nat) (yields : Yields more shape) :
    Yields (List.replicate count ' ' ++ more) shape := by
  induction count with
  | zero => exact yields
  | succ count ih => exact blank (by decide) ih

theorem indented (depth : Nat) (yields : Yields more shape) :
    Yields ((Stmt.indentation depth).toList ++ more) shape := by
  rw [Stmt.indentation, String.toList_ofList]
  exact spaces _ yields

theorem ended (yields : Yields text shape) (also : Yields more further) :
    Yields (text ++ (';' :: '\n' :: more)) (Joined shape (Joined (Single .semicolon [';']) further)) := by
  have semicolon : Yields [';'] (Single .semicolon [';']) := lexeme (.sign (by decide))
  have lineBreak : Yields ('\n' :: more) further := blank (by decide) also
  exact yields.append (parted_cons (by decide) _) (semicolon.append (parted_cons (by decide) _) lineBreak)

end Yields

theorem parted_indented (depth : Nat) {more : List Char} (parted : Parted more) :
    Parted ((Stmt.indentation depth).toList ++ more) := by
  refine parted_append ?_ parted
  intro c head
  rw [Stmt.indentation, String.toList_ofList] at head
  rw [List.eq_of_mem_replicate (List.mem_of_mem_head? head)]
  decide

theorem declaration_laid {keyword name : Token} {statements : List Stmt} (scanned : keyword.Scanned)
    (declares : keyword.kind = .letWord) (nameScanned : name.Scanned) (named : name.kind = .identifier)
    (depth : Nat) (further : Yields (Stmt.layoutLines depth statements).toList (Rewritten statements)) :
    Yields (Stmt.layoutLines depth (.letIn name (.nil name) :: statements)).toList
      (Rewritten (.letIn name (.nil name) :: statements)) := by
  obtain ⟨line, -, word⟩ := scanned_word "let" scanned declares (by decide) (by decide)
  obtain ⟨place, kind, text, rfl, lexeme⟩ := nameScanned
  obtain rfl : kind = .identifier := named
  have shown : (Stmt.layoutLines depth (.letIn (Scan.token place .identifier text)
      (.nil (Scan.token place .identifier text)) :: statements)).toList =
      (Stmt.indentation depth).toList ++ ("let".toList ++ ' ' :: (text ++ ';' :: '\n' ::
        (Stmt.layoutLines depth statements).toList)) := by
    simp [Stmt.layoutLines, Stmt.layout, Expr.isImplicitNil, Scan.token, ByteString.shown]
  rw [shown]
  refine (Yields.indented depth ((Yields.lexeme word).append (parted_cons (by decide) _)
    (.blank (by decide) ((Yields.lexeme lexeme).ended further)))).weaken ?_
  rintro _ ⟨_, _, rfl, ⟨first, rfl⟩, _, _, rfl, ⟨second, rfl⟩, _, _, rfl, ⟨last, rfl⟩, others, sentence,
    respells⟩
  exact ⟨_, .declaration rfl rfl rfl sentence,
    .letIn (token_same _ _ _ _) (.nil (token_same _ _ _ _)) respells⟩

theorem definition_laid {keyword name : Token} {value : Expr} {statements : List Stmt}
    (scanned : keyword.Scanned) (declares : keyword.kind = .letWord) (nameScanned : name.Scanned)
    (named : name.kind = .identifier) (explicit : value.isImplicitNil = false)
    (laid : value.Laid Rank.assignment) (depth : Nat)
    (further : Yields (Stmt.layoutLines depth statements).toList (Rewritten statements)) :
    Yields (Stmt.layoutLines depth (.letIn name value :: statements)).toList
      (Rewritten (.letIn name value :: statements)) := by
  obtain ⟨line, -, word⟩ := scanned_word "let" scanned declares (by decide) (by decide)
  obtain ⟨place, kind, text, rfl, lexeme⟩ := nameScanned
  obtain rfl : kind = .identifier := named
  have equals : Yields ['='] (Single .equal ['=']) := .lexeme (.sign (by decide))
  have shown : (Stmt.layoutLines depth (.letIn (Scan.token place .identifier text) value ::
      statements)).toList =
      (Stmt.indentation depth).toList ++ ("let".toList ++ ' ' :: (text ++ ' ' :: (['='] ++ ' ' ::
        (value.layout.toList ++ ';' :: '\n' :: (Stmt.layoutLines depth statements).toList)))) := by
    simp [Stmt.layoutLines, Stmt.layout, explicit, Scan.token, ByteString.shown]
  rw [shown]
  refine (Yields.indented depth ((Yields.lexeme word).append (parted_cons (by decide) _)
    (.blank (by decide) ((Yields.lexeme lexeme).append (parted_cons (by decide) _)
      (.blank (by decide) (equals.append (parted_cons (by decide) _)
        (.blank (by decide) (laid.yields.ended further)))))))).weaken ?_
  rintro _ ⟨_, _, rfl, ⟨first, rfl⟩, _, _, rfl, ⟨second, rfl⟩, _, _, rfl, ⟨third, rfl⟩, _, _, rfl,
    ⟨again, derived, same⟩, _, _, rfl, ⟨last, rfl⟩, others, sentence, respells⟩
  exact ⟨_, .definition rfl rfl rfl derived rfl sentence, .letIn (token_same _ _ _ _) same respells⟩

theorem print_laid {keyword : Token} {value : Expr} {statements : List Stmt} (scanned : keyword.Scanned)
    (prints : keyword.kind = .printWord) (laid : value.Laid Rank.assignment) (depth : Nat)
    (further : Yields (Stmt.layoutLines depth statements).toList (Rewritten statements)) :
    Yields (Stmt.layoutLines depth (.print keyword value :: statements)).toList
      (Rewritten (.print keyword value :: statements)) := by
  obtain ⟨line, rfl, word⟩ := scanned_word "print" scanned prints (by decide) (by decide)
  have shown : (Stmt.layoutLines depth (.print (Scan.token line .printWord "print".toList) value ::
      statements)).toList = (Stmt.indentation depth).toList ++ ("print".toList ++ ' ' ::
        (value.layout.toList ++ ';' :: '\n' :: (Stmt.layoutLines depth statements).toList)) := by
    simp [Stmt.layoutLines, Stmt.layout]
  rw [shown]
  refine (Yields.indented depth ((Yields.lexeme word).append (parted_cons (by decide) _)
    (.blank (by decide) (laid.yields.ended further)))).weaken ?_
  rintro _ ⟨_, _, rfl, ⟨first, rfl⟩, _, _, rfl, ⟨again, derived, same⟩, _, _, rfl, ⟨last, rfl⟩, others,
    sentence, respells⟩
  exact ⟨_, .print rfl derived rfl sentence, .print (token_same _ _ _ _) same respells⟩

theorem expression_laid {value : Expr} {statements : List Stmt} (laid : value.Laid Rank.assignment)
    (depth : Nat) (further : Yields (Stmt.layoutLines depth statements).toList (Rewritten statements)) :
    Yields (Stmt.layoutLines depth (.expression value :: statements)).toList
      (Rewritten (.expression value :: statements)) := by
  have shown : (Stmt.layoutLines depth (.expression value :: statements)).toList =
      (Stmt.indentation depth).toList ++ (value.layout.toList ++ ';' :: '\n' ::
        (Stmt.layoutLines depth statements).toList) := by
    simp [Stmt.layoutLines, Stmt.layout]
  rw [shown]
  refine (Yields.indented depth (laid.yields.ended further)).weaken ?_
  rintro _ ⟨_, _, rfl, ⟨again, derived, same⟩, _, _, rfl, ⟨last, rfl⟩, others, sentence, respells⟩
  exact ⟨_, .expression derived rfl sentence, .expression same respells⟩

theorem block_laid {brace : Token} {body statements : List Stmt} (scanned : brace.Scanned)
    (opens : brace.kind = .leftBrace) (depth : Nat)
    (inside : Yields (Stmt.layoutLines (depth + 1) body).toList (Rewritten body))
    (further : Yields (Stmt.layoutLines depth statements).toList (Rewritten statements)) :
    Yields (Stmt.layoutLines depth (.block brace body :: statements)).toList
      (Rewritten (.block brace body :: statements)) := by
  obtain ⟨line, rfl⟩ := scanned_sign scanned opens (by decide : (.leftBrace, ['\x7b']) ∈ signs)
  have close : Yields ['\x7d'] (Single .rightBrace ['\x7d']) := .lexeme (.sign (by decide))
  have rest := close.append (parted_cons (by decide) _) (.blank (by decide : '\n' ∈ blanks) further)
  -- An empty block has its braces side by side.
  obtain ⟨within, shown, yields⟩ : ∃ within,
      (Stmt.layoutLines depth (.block (Scan.token line .leftBrace ['\x7b']) body :: statements)).toList =
        (Stmt.indentation depth).toList ++ (['\x7b'] ++ (within ++ (['\x7d'] ++ '\n' ::
          (Stmt.layoutLines depth statements).toList))) ∧ Yields within (Rewritten body) := by
    by_cases none : body = []
    · subst none
      refine ⟨[], by simp [Stmt.layoutLines, Stmt.layout], Yields.nil.weaken ?_⟩
      rintro _ rfl
      exact ⟨[], .nil, .nil⟩
    · have margin := Yields.nil.indented depth
      rw [List.append_nil] at margin
      have edge := parted_indented depth parted_nil
      rw [List.append_nil] at edge
      refine ⟨'\n' :: ((Stmt.layoutLines (depth + 1) body).toList ++ (Stmt.indentation depth).toList), ?_,
        .blank (by decide) ((inside.append edge margin).weaken ?_)⟩
      · rw [Stmt.layoutLines, layout_block depth _ none]
        simp
      · rintro _ ⟨_, _, rfl, rewritten, rfl⟩
        rwa [List.append_nil]
  rw [shown]
  refine (Yields.indented depth (Yields.closed (.sign (by decide : (.leftBrace, ['\x7b']) ∈ signs))
    (by decide) (yields.append (parted_cons (by decide) _) rest))).weaken ?_
  rintro _ ⟨_, _, rfl, ⟨first, rfl⟩, _, _, rfl, ⟨inner, sentence, same⟩, _, _, rfl, ⟨last, rfl⟩, others,
    sentences, respells⟩
  exact ⟨_, .block rfl sentence rfl sentences, .block (token_same _ _ _ _) same respells⟩

/-- Statements that were read are laid out as statements that can be read again. -/
theorem sentence_laid {tokens : List Token} {statements : List Stmt}
    (sentence : Sentence tokens statements) (scanned : ∀ token ∈ tokens, token.Scanned) (depth : Nat) :
    Yields (Stmt.layoutLines depth statements).toList (Rewritten statements) := by
  induction sentence generalizing depth with
  | nil =>
    refine Yields.nil.weaken ?_
    rintro _ rfl
    exact ⟨[], .nil, .nil⟩
  | declaration declares named _ _ ih =>
    simp only [List.forall_mem_cons] at scanned
    obtain ⟨keyword, name, -, rest⟩ := scanned
    exact declaration_laid keyword declares name named depth (ih rest depth)
  | definition declares named _ derived _ _ ih =>
    simp only [List.forall_mem_cons, List.forall_mem_append] at scanned
    obtain ⟨keyword, name, -, value, -, rest⟩ := scanned
    exact definition_laid keyword declares name named (derives_explicit derived)
      (derives_laid derived value) depth (ih rest depth)
  | print prints derived _ _ ih =>
    simp only [List.forall_mem_cons, List.forall_mem_append] at scanned
    obtain ⟨keyword, value, -, rest⟩ := scanned
    exact print_laid keyword prints (derives_laid derived value) depth (ih rest depth)
  | expression derived _ _ ih =>
    simp only [List.forall_mem_cons, List.forall_mem_append] at scanned
    obtain ⟨value, -, rest⟩ := scanned
    exact expression_laid (derives_laid derived value) depth (ih rest depth)
  | block opens _ _ _ inside ih =>
    simp only [List.forall_mem_cons, List.forall_mem_append] at scanned
    obtain ⟨brace, body, -, rest⟩ := scanned
    exact block_laid brace opens depth (inside body (depth + 1)) (ih rest depth)

theorem words_scanned (source : String) : ∀ token ∈ Scan.words source, token.Scanned := by
  intro token member
  obtain ⟨line, kind, text, same, found⟩ := Scan.mem_placed member
  exact ⟨line, kind, text, same, lexeme_of_mem found⟩

theorem laid_sentence {statements : List Stmt}
    (laid : Yields (Stmt.layoutLines 0 statements).toList (Rewritten statements)) :
    (∀ cause text, Segment.fault cause text ∉ segments (sourceText statements).toList) ∧
      ∃ second, Sentence (Scan.words (sourceText statements)) second ∧
        Stmt.Respells statements second := by
  rw [sourceText]
  exact laid.scanned

theorem sourceText_respells {source : String} {statements : List Stmt}
    (accepted : Program.ofSource source = .ok statements) :
    ∃ second, Program.ofSource (sourceText statements) = .ok second ∧ Stmt.Respells statements second := by
  obtain ⟨-, reads⟩ := Program.ofSource_eq_ok.mp accepted
  rw [Scan.scan_tokens] at reads
  have sentence := readStrict_sentence (Scan.words_inner source) rfl reads
  have fits := readStrict_levels (Scan.words_inner source) rfl reads
  obtain ⟨clean, second, again, respells⟩ :=
    laid_sentence (sentence_laid sentence (words_scanned source) 0)
  refine ⟨second, Program.ofSource_eq_ok.mpr ⟨clean, ?_⟩, respells⟩
  rw [Scan.scan_tokens]
  exact (readStrict_complete (Scan.words_inner _) rfl again).1 (respells.allLevels.symm ▸ fits)

/-- The canonical text of a program is a program: the same one node for node, with the same tree, and
laid out it is the same text again. -/
theorem canonical_text_reads_back {source : String} {statements : List Stmt}
    (accepted : Program.ofSource source = .ok statements) :
    ∃ second, Program.ofSource (sourceText statements) = .ok second ∧
      Stmt.Respells statements second ∧ treeText second = treeText statements ∧
      sourceText second = sourceText statements := by
  obtain ⟨second, again, respells⟩ := sourceText_respells accepted
  exact ⟨second, again, respells, respells.treeText, respells.sourceText⟩

/-- An integer that does not fit is laid out as the float it stands for, and a string with a quote in it
between the delimiters that admit one. -/
theorem canonical_text_reads_back_overflow :
    ∃ statements second,
      Program.ofSource "\x7bprint 99999999999999999999+\x60a\"b\x60;\x7d" = .ok statements ∧
      sourceText statements = "\x7b\n  print 100000000000000000000.0 + \x60a\"b\x60;\n\x7d\n" ∧
      Program.ofSource (sourceText statements) = .ok second ∧ Stmt.Respells statements second ∧
      treeText second = treeText statements ∧ sourceText second = sourceText statements := by
  let source := "\x7bprint 99999999999999999999+\x60a\"b\x60;\x7d"
  let figures := "99999999999999999999"
  let value := Float.ofBits 0x4415AF1D78B58C40
  let brace : Token := ⟨.leftBrace, "\x7b", "\x7b", 1⟩
  let print : Token := ⟨.printWord, "print", "", 1⟩
  let number : Token := ⟨.integer, figures, figures, 1⟩
  let plus : Token := ⟨.plus, "+", "+", 1⟩
  let string : Token := ⟨.string, "\x60a\"b\x60", "a\"b", 1⟩
  let semicolon : Token := ⟨.semicolon, ";", ";", 1⟩
  let close : Token := ⟨.rightBrace, "\x7d", "\x7d", 1⟩
  let tokens : List Token := [brace, print, number, plus, string, semicolon, close]
  let sum : Expr := .binary (.float number value) plus (.string string "a\"b")
  let statements : List Stmt := [.block brace [.print print sum]]
  have parts : segments source.toList = [.token .leftBrace ['\x7b'], .token .printWord "print".toList,
      .blank ' ', .token .integer figures.toList, .token .plus ['+'],
      .token .string "\x60a\"b\x60".toList, .token .semicolon [';'], .token .rightBrace ['\x7d']] := by cbv
  have scanned : (scan source).tokens = tokens ++ [.endOfInput 1] := by
    rw [scan_eq, parts]
    decide +kernel
  have clean : ∀ cause text, Segment.fault cause text ∉ segments source.toList := by
    rw [parts]
    simp
  have literal : Expr.ofLiteral number number.literal = .float number value := by
    have noInteger : Decimal.readInteger? figures = none := by decide +kernel
    have float : Decimal.readFloat? figures = some value := by decide +kernel
    simp only [Expr.ofLiteral, Expr.ofText, number, noInteger, float]
  have left : Derives 6 [number] (.float number value) := literal ▸ .leaf (.integer rfl)
  have right : Derives 6 [string] (.string string "a\"b") := .leaf (.string rfl)
  have added : Derives 3 [number, plus, string] sum :=
    .binary (by decide) (rfl : plus.kind.tightness = 3) (.tighter (.tighter (.tighter left)))
      (.tighter (.tighter right))
  have sentence : Sentence tokens statements :=
    .block rfl (.print rfl (.tighter (.tighter (.tighter added))) rfl .nil) rfl .nil
  have accepted : Program.ofSource source = .ok statements := by
    refine Program.ofSource_eq_ok.mpr ⟨clean, ?_⟩
    rw [scanned]
    exact (readStrict_complete (by decide) rfl sentence).1 (by decide)
  obtain ⟨second, again, respells, tree, text⟩ := canonical_text_reads_back accepted
  exact ⟨statements, second, accepted, by decide +kernel, again, respells, tree, text⟩

end Scriptlet
