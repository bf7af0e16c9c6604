import Scriptlet.Proofs.Respelling
import Scriptlet.Proofs.Positions
import Scriptlet.Proofs.Truncation
import Scriptlet.Session

/-! Programs of several lines. The first lines of a program are a program by themselves, and then so are
the others; or they are known to stop partway. Two programs one below the other are a program. -/
namespace Scriptlet

theorem Token.same_moved (offset : Int) (token : Token) : token.Same (token.moved offset) :=
  ⟨rfl, rfl, rfl⟩

theorem Token.moved_back (offset : Int) (token : Token) :
    (token.moved offset).moved (-offset) = token := by
  simp only [Token.moved, Int.add_neg_cancel_right]

theorem readStrict_moved {tokens : List Token} {final : Token} (other : Token) {statements : List Stmt}
    (offset : Int) (inner : ∀ token ∈ tokens, token.isEnd = false) (ends : final.isEnd = true)
    (endsToo : other.isEnd = true)
    (reads : readStrict (tokens.map (Token.moved offset) ++ [final]) = .ok statements) :
    ∃ second, readStrict (tokens ++ [other]) = .ok second ∧ Stmt.Respells statements second := by
  have innerMoved : ∀ token ∈ tokens.map (Token.moved offset), token.isEnd = false := by
    simpa [Token.isEnd, Token.moved] using inner
  have sentence := readStrict_sentence innerMoved ends reads
  obtain ⟨back, respells⟩ := sentence_elsewhere (Token.same_moved (-offset)) sentence
  rw [List.map_map] at back
  have identity : Token.moved (-offset) ∘ Token.moved offset = id := by
    funext token
    exact Token.moved_back offset token
  rw [identity, List.map_id] at back
  -- Where tokens stand has no part in how deep they nest.
  have fits := readStrict_levels innerMoved ends reads
  rw [← respells.allLevels] at fits
  exact ⟨_, (readStrict_complete inner endsToo back).1 fits, respells⟩

theorem words_lineCut {part rest : String}
    (split : segments (part ++ "\n" ++ rest).toList =
      segments part.toList ++ .blank '\n' :: segments rest.toList) :
    Scan.words (part ++ "\n" ++ rest) = Scan.words part ++
      (Scan.words rest).map (Token.moved (Scan.breaks (segments part.toList) + 1)) := by
  unfold Scan.words
  rw [split, Scan.placed_append, ← Scan.placed_moved]
  simp [Scan.placed, Segment.lineBreaks, Segment.text, Int.add_assoc]

theorem clean_lineCut {part rest : List Segment} :
    (∀ cause text, Segment.fault cause text ∉ part ++ .blank '\n' :: rest) ↔
      (∀ cause text, Segment.fault cause text ∉ part) ∧ ∀ cause text, Segment.fault cause text ∉ rest := by
  simp [forall_and]

/-- A source that scans without a fault is incomplete if all its syntax errors are for want of more. -/
theorem isIncomplete_of_truncated {source : String}
    (clean : ∀ cause text, Segment.fault cause text ∉ segments source.toList)
    (some : (readAll (scan source).tokens).2 ≠ [])
    (truncated : ∀ error ∈ (readAll (scan source).tokens).2, error.truncated = true) :
    isIncomplete source = true := by
  have none : (scan source).errors = [] := Scan.scan_clean.mpr clean
  have short : ∀ error ∈ (readAll (scan source).tokens).2, (error.atEnd || error.truncated) = true := by
    intro error member
    simp [truncated error member]
  simp [isIncomplete, none, some]
  simpa using short

theorem isIncomplete_of_open {source : String} {cause : LexicalFault} {text : List Char}
    (member : Segment.fault cause text ∈ segments source.toList) (isOpen : cause.isOpen = true) :
    isIncomplete source = true := by
  obtain ⟨error, found, rfl⟩ := Scan.mem_scan_errors member
  have stops : (scan source).errors.any (fun error => error.cause.isOpen) = true :=
    List.any_eq_true.mpr ⟨error, found, isOpen⟩
  simp [isIncomplete, stops]

theorem isIncomplete_of_ok {source : String} {statements : List Stmt}
    (accepted : Program.ofSource source = .ok statements) : isIncomplete source = false := by
  obtain ⟨clean, reads⟩ := Program.ofSource_eq_ok.mp accepted
  have none : (scan source).errors = [] := Scan.scan_clean.mpr clean
  have all := (readAll_eq _ _).mpr reads
  simp [isIncomplete, none, all]

/-- The first lines of a program are incomplete, or a program with the other lines as another. -/
theorem ofSource_lines {part rest : String} {statements : List Stmt}
    (accepted : Program.ofSource (part ++ "\n" ++ rest) = .ok statements) :
    isIncomplete part = true ∨
      ∃ found later others, Program.ofSource part = .ok found ∧ Program.ofSource rest = .ok others ∧
        statements = found ++ later ∧ Stmt.Respells later others := by
  obtain ⟨clean, reads⟩ := Program.ofSource_eq_ok.mp accepted
  have text : (part ++ "\n" ++ rest).toList = part.toList ++ '\n' :: rest.toList := by simp
  have cut := segments_lineCut part.toList rest.toList
  rw [← text] at cut
  rcases cut with split | ⟨cause, stretch, member, isOpen⟩
  · rw [split] at clean
    obtain ⟨cleanPart, cleanRest⟩ := clean_lineCut.mp clean
    have inner := Scan.words_inner (part ++ "\n" ++ rest)
    rw [Scan.scan_tokens, words_lineCut split] at reads
    rw [words_lineCut split] at inner
    rcases readAll_part (.endOfInput (1 + Scan.breaks (segments part.toList))) inner rfl rfl
      reads with ⟨found, later, all, whole, readsLater⟩ | ⟨some, truncated⟩
    · right
      obtain ⟨others, readsOthers, respells⟩ := readStrict_moved
        (.endOfInput (1 + Scan.breaks (segments rest.toList))) _ (Scan.words_inner rest) rfl rfl
        readsLater
      rw [← Scan.scan_tokens] at all
      refine ⟨found, later, others, ?_, ?_, whole, respells⟩
      · exact Program.ofSource_eq_ok.mpr ⟨cleanPart, (readAll_eq _ _).mp all⟩
      · refine Program.ofSource_eq_ok.mpr ⟨cleanRest, ?_⟩
        rw [Scan.scan_tokens]
        exact readsOthers
    · left
      rw [← Scan.scan_tokens] at some truncated
      exact isIncomplete_of_truncated cleanPart some truncated
  · exact .inl (isIncomplete_of_open member isOpen)

/-- Tokens that are read, with others that are read after them, moved, are read as the two together. -/
theorem readStrict_append {tokens more : List Token} {final finalToo : Token} (last : Token)
    {statements others : List Stmt} (offset : Int) (inner : ∀ token ∈ tokens, token.isEnd = false)
    (innerToo : ∀ token ∈ more, token.isEnd = false) (ends : final.isEnd = true)
    (endsToo : finalToo.isEnd = true) (endsBoth : last.isEnd = true)
    (reads : readStrict (tokens ++ [final]) = .ok statements)
    (readsToo : readStrict (more ++ [finalToo]) = .ok others) :
    readStrict (tokens ++ more.map (Token.moved offset) ++ [last]) =
      .ok (statements ++ Stmt.mapAllTokens (Token.moved offset) others) := by
  have sentence := readStrict_sentence inner ends reads
  obtain ⟨moved, respells⟩ := sentence_elsewhere (Token.same_moved offset)
    (readStrict_sentence innerToo endsToo readsToo)
  have innerBoth : ∀ token ∈ tokens ++ more.map (Token.moved offset), token.isEnd = false := by
    refine List.forall_mem_append.mpr ⟨inner, ?_⟩
    simpa [Token.isEnd, Token.moved] using innerToo
  refine (readStrict_complete innerBoth endsBoth (sentence_append sentence moved)).1 ?_
  rw [allLevels_append, respells.allLevels]
  exact Nat.max_le.mpr ⟨readStrict_levels inner ends reads, readStrict_levels innerToo endsToo readsToo⟩

theorem ofSource_below {part rest : String} {found others : List Stmt}
    (accepted : Program.ofSource part = .ok found) (acceptedRest : Program.ofSource rest = .ok others) :
    Program.ofSource (part ++ "\n" ++ rest) =
      .ok (found ++ others.map (Stmt.mapTokens (Token.moved (1 + part.toList.count '\n')))) := by
  obtain ⟨clean, reads⟩ := Program.ofSource_eq_ok.mp accepted
  obtain ⟨cleanRest, readsRest⟩ := Program.ofSource_eq_ok.mp acceptedRest
  have text : (part ++ "\n" ++ rest).toList = part.toList ++ '\n' :: rest.toList := by simp
  have cut := segments_lineCut part.toList rest.toList
  rw [← text] at cut
  rcases cut with split | ⟨cause, stretch, member, -⟩
  · refine Program.ofSource_eq_ok.mpr ⟨?_, ?_⟩
    · rw [split]
      exact clean_lineCut.mpr ⟨clean, cleanRest⟩
    · rw [Scan.scan_tokens] at reads readsRest ⊢
      rw [words_lineCut split, breaks_segments, Int.add_comm _ 1, ← Stmt.mapAllTokens_eq]
      exact readStrict_append _ _ (Scan.words_inner part) (Scan.words_inner rest) rfl rfl rfl reads
        readsRest
  · exact absurd member (clean cause stretch)

theorem ofSource_respells {source : String} {statements : List Stmt}
    (accepted : Program.ofSource source = .ok statements) : Stmt.Respells statements statements := by
  obtain ⟨-, reads⟩ := Program.ofSource_eq_ok.mp accepted
  rw [Scan.scan_tokens] at reads
  have sentence := readStrict_sentence (Scan.words_inner source) rfl reads
  have here : ∀ token : Token, token.Same (id token) := fun token => ⟨rfl, rfl, rfl⟩
  obtain ⟨-, respells⟩ := sentence_elsewhere here sentence
  rwa [Stmt.mapAllTokens_id] at respells

end Scriptlet
