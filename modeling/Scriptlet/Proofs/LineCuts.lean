import Scriptlet.Proofs.Lexemes

/-! Cutting a text at a line break. The segments of the first lines are segments of the whole text,
unless the first lines stop within a comment or a string that may span lines. -/
namespace Scriptlet

namespace Segment

/-- The segments of a text cut at a line break: the first one is the same with and without the text
after the break, or is left open. -/
def Cuts (rest : List Char) (part whole : Segment × List Char) : Prop :=
  whole = (part.1, part.2 ++ '\n' :: rest) ∨
    ∃ cause text, part = (fault cause text, []) ∧ cause.isOpen = true

theorem detached_lineBreak {kind : TokenKind} {after : List Char} (rest : List Char)
    (detached : Detached kind after) : Detached kind (after ++ '\n' :: rest) := by
  have bars {kept : Char → Bool} (other : kept '\n' = false) (bars : Bars kept after) :
      Bars kept (after ++ '\n' :: rest) := by
    cases after with
    | nil =>
      rintro c head
      cases head
      exact other
    | cons d tail => exact bars
  by_cases isWord : kind = .identifier ∨ kind.isReserved = true
  · rw [detached_word isWord] at detached ⊢
    exact bars (by decide) detached
  · cases kind
    all_goals first
      | exact bars (by decide) detached
      | exact fun reserved => absurd reserved isWord
      | skip
    -- An integer looks two characters ahead; a point last on its line has the break behind it.
    refine ⟨bars (by decide) detached.1, ?_⟩
    intro d tail same
    match after, detached.2 with
    | [], _ => cases same
    | [_], _ =>
      cases same
      rfl
    | _ :: _ :: _, noPlace =>
      cases same
      exact noPlace d _ rfl

theorem token_cuts {c : Char} {kind : TokenKind} {part text after : List Char} (rest : List Char)
    (found : first c part = (token kind text, after)) :
    first c (part ++ '\n' :: rest) = (token kind text, after ++ '\n' :: rest) := by
  obtain ⟨lexeme, split, detached⟩ := first_longest found
  refine first_of_longest ⟨lexeme, ?_, detached_lineBreak rest detached⟩
  rw [← List.cons_append, split, List.append_assoc]

theorem takeWhile_cut (kept : Char → Bool) (stops : kept '\n' = false) (part rest : List Char) :
    (part ++ '\n' :: rest).takeWhile kept = part.takeWhile kept := by
  induction part with
  | nil => simp [stops]
  | cons c part ih => cases keeps : kept c <;> simp [keeps, ih]

theorem dropWhile_cut (kept : Char → Bool) (stops : kept '\n' = false) (part rest : List Char) :
    (part ++ '\n' :: rest).dropWhile kept = part.dropWhile kept ++ '\n' :: rest := by
  induction part with
  | nil => simp [stops]
  | cons c part ih => cases keeps : kept c <;> simp [keeps, ih]

theorem quoted_cuts (part rest : List Char) :
    Cuts rest (quoted part) (quoted (part ++ '\n' :: rest)) := by
  -- A quoted string ends with its line, closed or not.
  left
  simp only [quoted]
  rw [takeWhile_cut _ (by decide), dropWhile_cut _ (by decide)]
  cases part.dropWhile fun c => c != '"' && c != '\n' with
  | nil => rfl
  | cons c tail =>
    by_cases closes : c = '"'
    · subst closes
      rfl
    · simp [closes]

theorem rawQuoted_cuts (part rest : List Char) :
    Cuts rest (rawQuoted part) (rawQuoted (part ++ '\n' :: rest)) := by
  have parts := List.takeWhile_append_dropWhile (p := fun c => c != rawQuote) (l := part)
  cases closes : part.dropWhile fun c => c != rawQuote with
  | nil =>
    -- Not closed within the part, it may yet be closed by what comes after.
    right
    simp only [rawQuoted, closes]
    exact ⟨_, _, rfl, rfl⟩
  | cons c tail =>
    have same : c = rawQuote := by
      have bars := bars_dropWhile (fun c => c != rawQuote) part
      rw [closes] at bars
      simpa using bars c rfl
    subst same
    rw [closes] at parts
    left
    rw [← parts, List.append_assoc, List.cons_append, rawQuoted_eq _ mem_takeWhile,
      rawQuoted_eq _ mem_takeWhile]

theorem cutAtCommentEnd_append {part inside after : List Char} (rest : List Char)
    (found : cutAtCommentEnd part = some (inside, after)) :
    cutAtCommentEnd (part ++ rest) = some (inside, after ++ rest) := by
  fun_induction cutAtCommentEnd part generalizing inside with
  | case1 => cases found
  | case2 tail =>
    cases found
    rfl
  | case3 c tail noEnd ih =>
    obtain ⟨⟨inner, last⟩, deeper, same⟩ := Option.map_eq_some_iff.mp found
    cases same
    have further := ih deeper
    cases tail with
    | nil => cases deeper
    | cons d others =>
      rw [List.cons_append, List.cons_append, cutAtCommentEnd]
      · rw [← List.cons_append, further]
        rfl
      · rintro _ rfl same
        cases same
        exact noEnd _ rfl rfl

theorem blockComment_cuts (part rest : List Char) :
    Cuts rest (blockComment part) (blockComment (part ++ '\n' :: rest)) := by
  unfold blockComment
  cases found : cutAtCommentEnd part with
  | none => exact .inr ⟨_, _, rfl, rfl⟩
  | some cut =>
    rw [cutAtCommentEnd_append ('\n' :: rest) found]
    exact .inl rfl

theorem lineComment_cuts (part rest : List Char) :
    Cuts rest (lineComment part) (lineComment (part ++ '\n' :: rest)) := by
  left
  simp only [lineComment]
  rw [takeWhile_cut _ (by decide), dropWhile_cut _ (by decide)]

def untoken : List Char := ['#', '/', ' ', '\r', '\t', '\n', '"', rawQuote]

def signStarts : List Char :=
  ['(', ')', '\x7b', '\x7d', ',', '.', '-', '+', ';', '*', '!', '=', '<', '>']

theorem sign_isToken (c : Char) (short long : TokenKind) (rest : List Char) :
    ∃ kind text after, sign c short long rest = (token kind text, after) := by
  unfold sign
  split
  · exact ⟨_, _, _, rfl⟩
  · exact ⟨_, _, _, rfl⟩

theorem number_isToken (c : Char) (rest : List Char) :
    ∃ kind text after, number c rest = (token kind text, after) := by
  simp only [number]
  split
  · split
    · exact ⟨_, _, _, rfl⟩
    · exact ⟨_, _, _, rfl⟩
  · exact ⟨_, _, _, rfl⟩

theorem first_signStart {c : Char} (listed : c ∈ signStarts) (rest : List Char) :
    ∃ kind text after, first c rest = (token kind text, after) := by
  revert c
  simp only [signStarts, List.forall_mem_cons]
  refine ⟨?_, ?_, ?_, ?_, ?_, ?_, ?_, ?_, ?_, ?_, ?_, ?_, ?_, ?_, by simp⟩
  all_goals first
    | exact ⟨_, _, _, rfl⟩
    | exact sign_isToken _ _ _ rest

theorem first_unexpected {c : Char} (noSign : c ∉ signStarts) (other : c ∉ untoken)
    (noDigit : isDigit c = false) (noWord : startsWord c = false) (rest : List Char) :
    first c rest = (fault .unexpectedCharacter [c], rest) := by
  unfold first
  split
  all_goals first
    | exact absurd (by decide) noSign
    | exact absurd (by decide) other
    | simp [noDigit, noWord]

theorem slash_cases (rest : List Char) : (∃ inside, rest = '*' :: inside) ∨ Bars (· == '*') rest := by
  cases rest with
  | nil => exact .inr fun c head => nomatch head
  | cons d tail =>
    by_cases star : d = '*'
    · exact .inl ⟨tail, by rw [star]⟩
    · right
      rintro c head
      cases head
      simpa using star

theorem slash_cuts (part rest : List Char) :
    Cuts rest (first '/' part) (first '/' (part ++ '\n' :: rest)) := by
  rcases slash_cases part with ⟨inside, rfl⟩ | bars
  · exact blockComment_cuts inside rest
  · left
    rw [token_cuts rest (slash_of_bars bars), slash_of_bars bars]

theorem untoken_cuts {c : Char} (listed : c ∈ untoken) (part rest : List Char) :
    Cuts rest (first c part) (first c (part ++ '\n' :: rest)) := by
  revert c
  simp only [untoken, List.forall_mem_cons]
  refine ⟨lineComment_cuts part rest, slash_cuts part rest, ?_, ?_, ?_, ?_, quoted_cuts part rest,
    rawQuoted_cuts part rest, by simp⟩
  all_goals exact .inl rfl

theorem first_cases (c : Char) (rest : List Char) :
    (∃ kind text after, first c rest = (token kind text, after)) ∨
      c ∉ signStarts ∧ isDigit c = false ∧ startsWord c = false := by
  by_cases listed : c ∈ signStarts
  · exact .inl (first_signStart listed rest)
  by_cases digit : isDigit c = true
  · left
    rw [first_number digit]
    exact number_isToken c rest
  by_cases starts : startsWord c = true
  · left
    rw [first_word starts]
    exact ⟨_, _, _, rfl⟩
  exact .inr ⟨listed, Bool.eq_false_iff.mpr digit, Bool.eq_false_iff.mpr starts⟩

/-- The first segment of the first lines, within them and within the whole text. -/
theorem first_cuts (c : Char) (part rest : List Char) :
    Cuts rest (first c part) (first c (part ++ '\n' :: rest)) := by
  by_cases other : c ∈ untoken
  · exact untoken_cuts other part rest
  left
  rcases first_cases c part with ⟨kind, text, after, found⟩ | ⟨noSign, noDigit, noWord⟩
  · rw [found, token_cuts rest found]
  · have unexpected := first_unexpected noSign other noDigit noWord
    rw [unexpected, unexpected]

end Segment

theorem segments_lineCut (part rest : List Char) :
    segments (part ++ '\n' :: rest) = segments part ++ .blank '\n' :: segments rest ∨
      ∃ cause text, Segment.fault cause text ∈ segments part ∧ cause.isOpen = true := by
  fun_induction segments part with
  | case1 =>
    left
    rw [List.nil_append, segments]
    rfl
  | case2 c part ih =>
    rcases Segment.first_cuts c part rest with same | ⟨cause, text, found, isOpen⟩
    · rw [List.cons_append, segments, same]
      rcases ih with follows | ⟨cause, text, member, isOpen⟩
      · left
        rw [follows, List.cons_append]
      · exact .inr ⟨cause, text, List.mem_cons_of_mem _ member, isOpen⟩
    · right
      rw [found]
      exact ⟨cause, text, List.mem_cons_self, isOpen⟩

end Scriptlet
