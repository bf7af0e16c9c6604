import Scriptlet.Proofs.Segmentation

/-! Runs of the scanner. The scanner finds its way with two places in the text and counts lines where it
passes their breaks; the segments of a text know nothing of either. One step of the scanner passes one
segment, counts the breaks in it and adds its token, with the line it starts on, or its error, with the
line it ends on. So a run passes the segments of the text one after another. -/
namespace Scriptlet

theorem Scan.literal_word (word : String) (text : List Char) : Scan.literal (.ofWord word) text = "" := by
  unfold Scan.literal
  rcases Segment.ofWord_isWord word with isName | reserved
  · rw [isName]
  · split
    · next same =>
      rw [same] at reserved
      exact absurd reserved (by decide)
    · rfl
    · rw [if_pos reserved]

namespace Scanner

def ahead (source : Array Char) (scanner : Scanner) : List Char :=
  source.toList.drop scanner.current

def pass (text : List Char) (scanner : Scanner) : Scanner :=
  { scanner with current := scanner.current + text.length, line := scanner.line + text.count '\n' }

def take (scanner : Scanner) : Segment → Scanner
  | .token kind text =>
    { scanner.pass text with tokens := scanner.tokens.push (Scan.token scanner.line kind text) }
  | .blank char => scanner.pass [char]
  | .comment text => scanner.pass text
  | .fault cause text => (scanner.pass text).fail cause

theorem pass_nil (scanner : Scanner) : scanner.pass [] = scanner := by
  simp [pass]

theorem pass_append (scanner : Scanner) (first second : List Char) :
    (scanner.pass first).pass second = scanner.pass (first ++ second) := by
  simp [pass, Nat.add_assoc, Int.add_assoc]

theorem pass_break (scanner : Scanner) :
    scanner.pass ['\n'] = { scanner.advance with line := scanner.line + 1 } := by
  simp [pass, advance]

theorem pass_plain {c : Char} (plain : c ≠ '\n') (scanner : Scanner) :
    scanner.pass [c] = scanner.advance := by
  simp [pass, advance, plain]

section Reading

variable {source : Array Char} {scanner : Scanner} {c d : Char} {rest text : List Char}

theorem ahead_pass (split : ahead source scanner = text ++ rest) :
    ahead source (scanner.pass text) = rest := by
  have further : ahead source (scanner.pass text) = (ahead source scanner).drop text.length := by
    simp [ahead, pass]
  rw [further, split, List.drop_left]

theorem atEnd_iff : scanner.atEnd source = true ↔ ahead source scanner = [] := by
  simp [atEnd, ahead]

theorem exists_ahead (goesOn : ¬ scanner.atEnd source = true) : ∃ c rest, ahead source scanner = c :: rest :=
  List.exists_cons_of_ne_nil fun none => goesOn (atEnd_iff.mpr none)

theorem atEnd_cons (more : ahead source scanner = c :: rest) : scanner.atEnd source = false := by
  simp [Bool.eq_false_iff, atEnd_iff, more]

theorem peek_eq : scanner.peek source = (ahead source scanner).head?.getD '\x00' := by
  simp [peek, ahead]

theorem peek_cons (more : ahead source scanner = c :: rest) : scanner.peek source = c := by
  simp [peek_eq, more]

theorem peekNext_cons (more : ahead source scanner = c :: rest) :
    scanner.peekNext source = rest.head?.getD '\x00' := by
  have next : source.toList.drop (scanner.current + 1) = rest := by
    rw [← List.tail_drop]
    exact congrArg List.tail more
  simp [peekNext, ← next]

theorem sees_iff : scanner.sees source d = true ↔ (ahead source scanner).head? = some d := by
  cases more : ahead source scanner with
  | nil => simp [sees, atEnd_iff.mpr more]
  | cons c rest => simp [sees, atEnd_cons more, peek_cons more]

theorem passCounting_eq (more : ahead source scanner = c :: rest) :
    scanner.passCounting source = scanner.pass [c] := by
  by_cases breaks : c = '\n'
  · subst breaks
    rw [passCounting, if_pos (peek_cons more), pass_break]
  · rw [passCounting, peek_cons more, if_neg breaks, pass_plain breaks]

theorem stretch_eq (start stop : Nat) :
    stretch source start stop = String.ofList ((source.toList.drop start).take (stop - start)) := by
  simp [stretch, List.extract_eq_take_drop]

theorem text_pass (begins : scanner.start = scanner.current) (split : ahead source scanner = text ++ rest) :
    (scanner.pass text).text source = String.ofList text := by
  have taken : (ahead source scanner).take text.length = text := by simp [split]
  have passed : (scanner.pass text).current - (scanner.pass text).start = text.length := by
    simp [pass, begins]
  rw [ahead, ← begins] at taken
  rw [Scanner.text, stretch_eq, passed]
  exact congrArg _ taken

/-! The loops. Each passes the text that its description tells. -/

theorem passWhile_eq {kept : Char → Bool} (stops : kept '\n' = false) (scanner : Scanner) :
    scanner.passWhile source kept = scanner.pass ((ahead source scanner).takeWhile kept) := by
  fun_induction passWhile source kept scanner with
  | case1 scanner finished => rw [atEnd_iff.mp finished, List.takeWhile_nil, pass_nil]
  | case2 scanner goesOn keeps ih =>
    obtain ⟨c, rest, more⟩ := exists_ahead goesOn
    rw [peek_cons more] at keeps
    have plain : c ≠ '\n' := by
      rintro rfl
      simp [stops] at keeps
    have next : ahead source (scanner.pass [c]) = rest := ahead_pass more
    rw [ih, ← pass_plain plain, next, pass_append, more, List.takeWhile_cons_of_pos keeps]
    rfl
  | case3 scanner goesOn leaves =>
    obtain ⟨c, rest, more⟩ := exists_ahead goesOn
    rw [peek_cons more] at leaves
    rw [more, List.takeWhile_cons_of_neg leaves, pass_nil]

theorem scanString_eq (scanner : Scanner) :
    let inside := (ahead source scanner).takeWhile fun c => c != '"' && c != '\n'
    scanner.scanString source =
      if ((ahead source scanner).dropWhile fun c => c != '"' && c != '\n').head? = some '"' then
        (scanner.pass (inside ++ ['"'])).addString source scanner.line
      else (scanner.pass inside).fail .unterminatedString := by
  intro inside
  fun_induction scanString source scanner with
  | case1 scanner goesOn breaks =>
    obtain ⟨c, rest, more⟩ := exists_ahead goesOn.2
    obtain rfl : c = '\n' := by rw [← peek_cons more, breaks]
    simp [inside, more, pass_nil]
  | case2 scanner goesOn plain ih =>
    obtain ⟨c, rest, more⟩ := exists_ahead goesOn.2
    rw [peek_cons more] at goesOn plain
    have next : ahead source scanner.advance = rest := pass_plain plain scanner ▸ ahead_pass more
    have advanced := pass_append scanner [c]
    rw [pass_plain plain] at advanced
    have line : scanner.advance.line = scanner.line := rfl
    simp [inside, ih, next, more, goesOn.1, plain, advanced, line]
  | case3 scanner _ finished => simp [inside, atEnd_iff.mp finished, pass_nil]
  | case4 scanner closes goesOn =>
    obtain ⟨c, rest, more⟩ := exists_ahead goesOn
    obtain rfl : c = '"' := by
      by_contra other
      exact closes ⟨by rwa [peek_cons more], goesOn⟩
    simp [inside, more, pass_plain]

theorem scanRawString_eq (line : Int) (scanner : Scanner) :
    let inside := (ahead source scanner).takeWhile (· != rawQuote)
    scanner.scanRawString source line =
      if (ahead source scanner).dropWhile (· != rawQuote) = [] then
        (scanner.pass inside).fail .unterminatedRawString
      else (scanner.pass (inside ++ [rawQuote])).addString source line := by
  intro inside
  fun_induction scanRawString source line scanner with
  | case1 scanner goesOn ih =>
    obtain ⟨c, rest, more⟩ := exists_ahead goesOn.2
    rw [peek_cons more] at goesOn
    have next : ahead source (scanner.pass [c]) = rest := ahead_pass more
    rw [passCounting_eq more] at ih
    simp [inside, ih, next, more, goesOn.1, passCounting_eq more, pass_append]
  | case2 scanner _ finished => simp [inside, atEnd_iff.mp finished, pass_nil]
  | case3 scanner closes goesOn =>
    obtain ⟨c, rest, more⟩ := exists_ahead goesOn
    obtain rfl : c = rawQuote := by
      by_contra other
      exact closes ⟨by rwa [peek_cons more], goesOn⟩
    have plain : rawQuote ≠ '\n' := by decide
    simp [inside, more, pass_plain plain]

theorem skipComment_eq (scanner : Scanner) : scanner.skipComment source =
    (Segment.cutAtCommentEnd (ahead source scanner)).elim
      ((scanner.pass (ahead source scanner)).fail .unterminatedComment) fun cut => scanner.pass cut.1 := by
  fun_induction skipComment source scanner with
  | case1 scanner finished => simp [atEnd_iff.mp finished, Segment.cutAtCommentEnd, pass_nil]
  | case2 scanner goesOn closes =>
    obtain ⟨c, rest, more⟩ := exists_ahead goesOn
    rw [peek_cons more, peekNext_cons more] at closes
    obtain ⟨rfl, slash⟩ := closes
    cases rest with
    | nil => exact absurd slash (by decide)
    | cons d rest =>
      obtain rfl : d = '/' := slash
      simp [more, Segment.cutAtCommentEnd, pass, advance]
  | case3 scanner goesOn runs ih =>
    obtain ⟨c, rest, more⟩ := exists_ahead goesOn
    rw [peek_cons more, peekNext_cons more] at runs
    have next : ahead source (scanner.pass [c]) = rest := ahead_pass more
    have noEnd : ∀ others, c = '*' → rest = '/' :: others → False := by
      rintro others rfl rfl
      exact runs ⟨rfl, rfl⟩
    rw [ih, passCounting_eq more, next, more, Segment.cutAtCommentEnd]
    · cases Segment.cutAtCommentEnd rest <;> simp [pass_append]
    · exact noEnd

theorem passWhile_cons {kept : Char → Bool} (stops : kept '\n' = false)
    (more : ahead source scanner = c :: rest) (plain : c ≠ '\n') :
    scanner.advance.passWhile source kept = scanner.pass (c :: rest.takeWhile kept) ∧
      ahead source scanner = (c :: rest.takeWhile kept) ++ rest.dropWhile kept ∧
      '\n' ∉ c :: rest.takeWhile kept := by
  have next : ahead source (scanner.pass [c]) = rest := ahead_pass more
  refine ⟨?_, ?_, ?_⟩
  · rw [← pass_plain plain, passWhile_eq stops, next, pass_append]
    rfl
  · rw [more, List.cons_append, List.takeWhile_append_dropWhile]
  · intro member
    rcases List.mem_cons.mp member with same | inside
    · exact plain same.symm
    · exact absurd (Segment.mem_takeWhile _ inside) (by simp [stops])

/-! One step. -/

variable (begins : scanner.start = scanner.current)

include begins

theorem addLiteral_pass {kind : TokenKind} {literal : String} (split : ahead source scanner = text ++ rest)
    (same : Scan.literal kind text = literal) :
    (scanner.pass text).addLiteral source kind literal scanner.line = scanner.take (.token kind text) := by
  rw [addLiteral, text_pass begins split, take, Scan.token, same]
  rfl

theorem addToken_pass {kind : TokenKind} (split : ahead source scanner = text ++ rest)
    (oneLine : '\n' ∉ text) (plain : Scan.literal kind text = String.ofList text) :
    (scanner.pass text).addToken source kind = scanner.take (.token kind text) := by
  have line : (scanner.pass text).line = scanner.line := by simp [pass, List.count_eq_zero.mpr oneLine]
  rw [addToken, text_pass begins split, line]
  exact addLiteral_pass begins split plain

theorem addString_pass {quote : Char} {inside : List Char}
    (split : ahead source scanner = quote :: (inside ++ [quote]) ++ rest) :
    (scanner.pass (quote :: (inside ++ [quote]))).addString source scanner.line =
      scanner.take (.token .string (quote :: (inside ++ [quote]))) := by
  have between : (ahead source scanner).tail.take inside.length = inside := by simp [split]
  have passed : (scanner.pass (quote :: (inside ++ [quote]))).current - 1 - (scanner.start + 1) =
      inside.length := by
    simp [pass, begins]
    omega
  have literal : stretch source (scanner.start + 1)
      ((scanner.pass (quote :: (inside ++ [quote]))).current - 1) = String.ofList inside := by
    rw [stretch_eq, passed, begins, ← List.tail_drop]
    exact congrArg _ between
  have same : Scan.literal .string (quote :: (inside ++ [quote])) = String.ofList inside := by
    simp [Scan.literal]
  exact addLiteral_pass begins split (same.trans literal.symm)

theorem scanSign_eq {short long : TokenKind} (more : ahead source scanner = c :: rest) (plain : c ≠ '\n')
    (literal : Scan.literal short [c] = String.ofList [c])
    (longer : Scan.literal long [c, '='] = String.ofList [c, '=']) :
    scanner.advance.scanSign source short long = scanner.take (Segment.sign c short long rest).1 := by
  have next : ahead source (scanner.pass [c]) = rest := ahead_pass more
  rw [← pass_plain plain, scanSign]
  by_cases equals : rest.head? = some '='
  · obtain ⟨others, rfl⟩ := List.head?_eq_some_iff.mp equals
    have both : scanner.pass [c, '='] = (scanner.pass [c]).advance := by
      rw [← pass_plain (by decide : '=' ≠ '\n') (scanner.pass [c]), pass_append]
      rfl
    rw [if_pos (sees_iff.mpr (next ▸ rfl)), ← both]
    exact addToken_pass begins more (by simp [plain.symm]) longer
  · rw [if_neg (by rwa [sees_iff, next])]
    have alone : Segment.sign c short long rest = (.token short [c], rest) := by
      unfold Segment.sign
      split
      · exact absurd rfl equals
      · rfl
    rw [alone]
    exact addToken_pass begins more (by simp [plain.symm]) literal

theorem scanNumber_eq (more : ahead source scanner = c :: rest) (digit : isDigit c = true) :
    scanner.advance.scanNumber source = scanner.take (Segment.number c rest).1 := by
  have plain : c ≠ '\n' := by
    rintro rfl
    exact absurd digit (by decide)
  obtain ⟨whole, split, oneLine⟩ := passWhile_cons (by decide : isDigit '\n' = false) more plain
  have left := ahead_pass split
  simp only [scanNumber, whole]
  by_cases point : ∃ d after, rest.dropWhile isDigit = '.' :: d :: after ∧ isDigit d = true
  · obtain ⟨d, after, same, place⟩ := point
    rw [same] at split left
    obtain ⟨places, splitToo, oneLineToo⟩ := passWhile_cons (by decide : isDigit '\n' = false) left
      (by decide : '.' ≠ '\n')
    rw [List.takeWhile_cons_of_pos place, List.dropWhile_cons_of_pos place] at splitToo
    rw [List.takeWhile_cons_of_pos place] at places oneLineToo
    have parts : ahead source scanner =
        (c :: rest.takeWhile isDigit ++ '.' :: d :: after.takeWhile isDigit) ++ after.dropWhile isDigit := by
      rw [split, ← left, splitToo, List.append_assoc]
    rw [if_pos ⟨peek_cons left, by simpa [peekNext_cons left] using place⟩, places, pass_append]
    simp only [Segment.number, same, place, if_true]
    exact addToken_pass begins parts (List.not_mem_append oneLine oneLineToo) rfl
  · have found : Segment.number c rest =
        (.token .integer (c :: rest.takeWhile isDigit), rest.dropWhile isDigit) := by
      simp only [Segment.number]
      split
      · next d after same =>
        rw [if_neg fun place => point ⟨d, after, same, place⟩, same]
      · rfl
    rw [if_neg, found]
    · exact addToken_pass begins split oneLine rfl
    · rintro ⟨dot, place⟩
      obtain ⟨d, tail, follows⟩ := List.exists_cons_of_ne_nil (l := rest.dropWhile isDigit) (by
        intro none
        simp [peek_eq, left, none] at dot)
      rw [follows] at left
      rw [peek_cons left] at dot
      rw [peekNext_cons left] at place
      cases tail with
      | nil => exact absurd place (by decide)
      | cons e others => exact point ⟨e, others, dot ▸ follows, place⟩

theorem scanWord_eq (more : ahead source scanner = c :: rest) (starts : startsWord c = true) :
    scanner.advance.scanWord source = scanner.take (Segment.word c rest).1 := by
  have plain : c ≠ '\n' := by
    rintro rfl
    exact absurd starts (by decide)
  obtain ⟨word, split, oneLine⟩ := passWhile_cons (by decide : continuesWord '\n' = false) more plain
  have line : (scanner.pass (c :: rest.takeWhile continuesWord)).line = scanner.line := by
    simp [pass, List.count_eq_zero.mpr oneLine]
  simp only [scanWord, word, text_pass begins split, line]
  exact addLiteral_pass begins split (Scan.literal_word _ _)

theorem quoted_eq (more : ahead source scanner = '"' :: rest) :
    scanner.advance.scanString source = scanner.take (Segment.quoted rest).1 := by
  have next : ahead source (scanner.pass ['"']) = rest := ahead_pass more
  have line : (scanner.pass ['"']).line = scanner.line := by simp [pass]
  rw [← pass_plain (by decide : '"' ≠ '\n'), scanString_eq, next, line, pass_append, pass_append]
  simp only [Segment.quoted]
  by_cases closes : (rest.dropWhile fun c => c != '"' && c != '\n').head? = some '"'
  · obtain ⟨after, same⟩ := List.head?_eq_some_iff.mp closes
    have parts := List.takeWhile_append_dropWhile (p := fun c => c != '"' && c != '\n') (l := rest)
    rw [same] at parts
    have split : ahead source scanner =
        '"' :: ((rest.takeWhile fun c => c != '"' && c != '\n') ++ ['"']) ++ after := by
      rw [more, List.cons_append, List.append_assoc]
      exact congrArg _ parts.symm
    rw [if_pos closes, same]
    exact addString_pass begins split
  · rw [if_neg closes]
    split
    · next after same => exact absurd (by rw [same]; rfl) closes
    · rfl

theorem rawQuoted_eq (more : ahead source scanner = rawQuote :: rest) :
    scanner.advance.scanRawString source scanner.line = scanner.take (Segment.rawQuoted rest).1 := by
  have next : ahead source (scanner.pass [rawQuote]) = rest := ahead_pass more
  rw [← pass_plain (by decide : rawQuote ≠ '\n'), scanRawString_eq, next, pass_append, pass_append]
  have parts := List.takeWhile_append_dropWhile (p := fun c => c != rawQuote) (l := rest)
  have bars := Segment.bars_dropWhile (fun c => c != rawQuote) rest
  simp only [Segment.rawQuoted]
  cases closes : rest.dropWhile (· != rawQuote) with
  | nil => rfl
  | cons c after =>
    rw [closes] at parts bars
    obtain rfl : c = rawQuote := by simpa using bars c rfl
    have split : ahead source scanner =
        rawQuote :: (rest.takeWhile (· != rawQuote) ++ [rawQuote]) ++ after := by
      rw [more, List.cons_append, List.append_assoc]
      exact congrArg _ parts.symm
    rw [if_neg (by simp)]
    exact addString_pass begins split

theorem slash_eq (more : ahead source scanner = '/' :: rest) :
    (if scanner.advance.sees source '*' then scanner.advance.advance.skipComment source
      else scanner.advance.addToken source .slash) = scanner.take (Segment.first '/' rest).1 := by
  have next : ahead source (scanner.pass ['/']) = rest := ahead_pass more
  have passed : scanner.advance = scanner.pass ['/'] := (pass_plain (by decide) scanner).symm
  rw [passed]
  rcases Segment.slash_cases rest with ⟨inside, rfl⟩ | bars
  · have opened : (scanner.pass ['/']).advance = scanner.pass ['/', '*'] := by
      rw [← pass_plain (by decide : '*' ≠ '\n'), pass_append]
      rfl
    have left : ahead source (scanner.pass ['/', '*']) = inside := ahead_pass more
    rw [if_pos (sees_iff.mpr (next ▸ rfl)), opened, skipComment_eq, left]
    show _ = scanner.take (Segment.blockComment inside).1
    unfold Segment.blockComment
    cases Segment.cutAtCommentEnd inside with
    | none =>
      simp only [Option.elim_none, pass_append]
      rfl
    | some cut =>
      simp only [Option.elim_some, pass_append]
      rfl
  · rw [if_neg, Segment.slash_of_bars bars]
    · exact addToken_pass begins more (by decide) rfl
    · intro star
      rw [sees_iff, next] at star
      exact absurd (bars '*' star) (by decide)

/-- One step of the scanner takes the first segment of what is ahead. -/
theorem scanToken_eq (more : ahead source scanner = c :: rest) :
    scanner.scanToken source = scanner.take (Segment.first c rest).1 := by
  have alone {kind : TokenKind} (plain : c ≠ '\n') (literal : Scan.literal kind [c] = String.ofList [c]) :
      scanner.advance.addToken source kind = scanner.take (.token kind [c]) := by
    rw [← pass_plain plain]
    exact addToken_pass begins more (by simp [plain.symm]) literal
  unfold scanToken
  rw [peek_cons more]
  dsimp only
  split
  -- A character with a case of its own has a lemma of its own; what is left is told by its class.
  all_goals first
    | exact alone (by decide) rfl
    | exact scanSign_eq begins more (by decide) rfl rfl
    | exact (passWhile_cons (by decide) more (by decide)).1
    | exact slash_eq begins more
    | exact quoted_eq begins more
    | exact rawQuoted_eq begins more
    | exact (pass_plain (by decide) scanner).symm
    | exact (pass_break scanner).symm
    | skip
  · split
    · next digit =>
      rw [Segment.first_number digit]
      exact scanNumber_eq begins more digit
    · next noDigit =>
      split
      · next starts =>
        rw [Segment.first_word starts]
        exact scanWord_eq begins more starts
      · next noWord =>
        have noSign : c ∉ Segment.signStarts := by simp_all [Segment.signStarts]
        have other : c ∉ Segment.untoken := by simp_all [Segment.untoken, rawQuote]
        have plain : c ≠ '\n' := fun same => other (same ▸ by decide)
        rw [Segment.first_unexpected noSign other (Bool.eq_false_iff.mpr noDigit)
          (Bool.eq_false_iff.mpr noWord), ← pass_plain plain]
        rfl

end Reading

section Taking

variable (scanner : Scanner) (segment : Segment)

theorem current_take : (scanner.take segment).current = scanner.current + segment.text.length := by
  cases segment <;> rfl

theorem line_take : (scanner.take segment).line = scanner.line + segment.lineBreaks := by
  cases segment <;> rfl

theorem ahead_take {source : Array Char} {rest : List Char}
    (split : ahead source scanner = segment.text ++ rest) : ahead source (scanner.take segment) = rest := by
  rw [ahead, current_take]
  exact ahead_pass split

theorem tokens_take (rest : List Segment) :
    (scanner.take segment).tokens.toList ++ Scan.tokensFrom (scanner.take segment).line rest =
      scanner.tokens.toList ++ Scan.tokensFrom scanner.line (segment :: rest) := by
  rw [line_take]
  cases segment <;> simp [take, pass, fail, Scan.tokensFrom]

theorem errors_take (rest : List Segment) :
    (scanner.take segment).errors.toList ++ Scan.errorsFrom (scanner.take segment).line rest =
      scanner.errors.toList ++ Scan.errorsFrom scanner.line (segment :: rest) := by
  rw [line_take]
  cases segment <;> simp [take, pass, fail, Scan.errorsFrom, Segment.lineBreaks, Segment.text]

end Taking

/-- A run of the scanner takes all segments of what is ahead, and adds the token that ends them. -/
theorem scanAll_eq (source : Array Char) (scanner : Scanner) :
    (scanner.scanAll source).tokens.toList =
        scanner.tokens.toList ++ Scan.tokensFrom scanner.line (segments (ahead source scanner)) ∧
      (scanner.scanAll source).errors.toList =
        scanner.errors.toList ++ Scan.errorsFrom scanner.line (segments (ahead source scanner)) := by
  fun_induction scanAll source scanner with
  | case1 scanner finished =>
    rw [atEnd_iff.mp finished, segments]
    simp [Scan.tokensFrom, Scan.errorsFrom]
  | case2 scanner goesOn ih =>
    obtain ⟨c, rest, more⟩ := exists_ahead goesOn
    -- A step starts where the last one stopped, so what it takes is the first segment of what is ahead.
    let started : Scanner := { scanner with start := scanner.current }
    have begun : ahead source started = c :: rest := more
    have left := ahead_take started _ (begun.trans (Segment.first_opens c rest).split)
    rw [scanToken_eq rfl begun, left, tokens_take, errors_take] at ih
    rw [scanToken_eq rfl begun, more, segments]
    exact ih

end Scanner

/-- What the scanner finds is told by the segments of the text. -/
theorem scan_eq (source : String) : scan source =
    ⟨Scan.tokensFrom 1 (segments source.toList), Scan.errorsFrom 1 (segments source.toList)⟩ := by
  obtain ⟨tokens, errors⟩ := Scanner.scanAll_eq source.toList.toArray {}
  rw [scan, tokens, errors]
  simp [Scanner.ahead]

end Scriptlet
