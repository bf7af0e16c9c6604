import Scriptlet.Proofs.LineCuts

/-! A text is made up of its segments. Put together again they are the text, and each of them is a token,
a blank, a comment or a faulty stretch, as long as what comes after it allows. -/
namespace Scriptlet

namespace Segment

def commentEnd : List Char := ['*', '/']

/-- `Stands segment after`: what a segment is made of, and what it leaves for the next. A token is a
lexeme that is not extended; a comment ends at its line or at the first sign that ends it; a faulty
stretch is one character that starts nothing, or all there is of something that is never closed. -/
inductive Stands : Segment → List Char → Prop
  | token {kind : TokenKind} {text after : List Char} (lexeme : Lexeme kind text)
      (detached : Detached kind after) : Stands (.token kind text) after
  | blank {c : Char} {after : List Char} (isBlank : c ∈ [' ', '\r', '\t', '\n']) : Stands (.blank c) after
  | lineComment {inside after : List Char} (within : '\n' ∉ inside) (ends : Bars (· != '\n') after) :
      Stands (.comment ('#' :: inside)) after
  | blockComment {inside after : List Char} (within : ¬ commentEnd <:+: inside ++ ['*']) :
      Stands (.comment ('/' :: '*' :: (inside ++ commentEnd))) after
  | openString {inside after : List Char} (within : '"' ∉ inside ∧ '\n' ∉ inside)
      (ends : Bars (· != '\n') after) : Stands (.fault .unterminatedString ('"' :: inside)) after
  | openRawString {inside : List Char} (within : rawQuote ∉ inside) :
      Stands (.fault .unterminatedRawString (rawQuote :: inside)) []
  | openComment {inside : List Char} (within : ¬ commentEnd <:+: inside) :
      Stands (.fault .unterminatedComment ('/' :: '*' :: inside)) []
  | unexpected {c : Char} {after : List Char} (noSign : c ∉ signStarts) (other : c ∉ untoken)
      (noDigit : isDigit c = false) (noWord : startsWord c = false) :
      Stands (.fault .unexpectedCharacter [c]) after

structure Opens (source : List Char) (found : Segment × List Char) : Prop where
  split : source = found.1.text ++ found.2
  stands : Stands found.1 found.2

theorem token_opens {c : Char} {rest : List Char}
    (isToken : ∃ kind text after, first c rest = (token kind text, after)) :
    Opens (c :: rest) (first c rest) := by
  obtain ⟨kind, text, after, found⟩ := isToken
  obtain ⟨lexeme, split, detached⟩ := first_longest found
  rw [found]
  exact ⟨split, .token lexeme detached⟩

theorem lineComment_opens (rest : List Char) : Opens ('#' :: rest) (lineComment rest) := by
  constructor
  · simp [lineComment, text]
  · apply Stands.lineComment
    · intro member
      exact absurd (mem_takeWhile _ member) (by decide)
    · exact bars_dropWhile _ rest

theorem commentEnd_cons {c : Char} {rest : List Char} (noEnd : ¬ commentEnd <:+: rest)
    (apart : c = '*' → rest.head? ≠ some '/') : ¬ commentEnd <:+: c :: rest := by
  intro inside
  rcases List.infix_cons_iff.mp inside with ⟨tail, starts⟩ | deeper
  · cases starts
    exact apart rfl rfl
  · exact noEnd deeper

/-- A text is cut at the first sign that ends a comment. -/
theorem cutAtCommentEnd_first {source inside after : List Char}
    (cut : cutAtCommentEnd source = some (inside, after)) :
    ∃ body, inside = body ++ commentEnd ∧ source = inside ++ after ∧
      ¬ commentEnd <:+: body ++ ['*'] := by
  fun_induction cutAtCommentEnd source generalizing inside with
  | case1 => cases cut
  | case2 rest =>
    cases cut
    exact ⟨[], rfl, rfl, by decide⟩
  | case3 c rest noEnd ih =>
    obtain ⟨⟨inner, tail⟩, deeper, same⟩ := Option.map_eq_some_iff.mp cut
    cases same
    obtain ⟨body, rfl, split, within⟩ := ih deeper
    refine ⟨c :: body, rfl, by rw [split]; rfl, ?_⟩
    rw [List.cons_append]
    apply commentEnd_cons within
    -- A slash right after a star would have ended the comment here.
    intro star slash
    subst star
    cases body with
    | nil => cases slash
    | cons d others =>
      cases slash
      exact noEnd _ rfl (by rw [split]; rfl)

theorem cutAtCommentEnd_none {source : List Char} (uncut : cutAtCommentEnd source = none) :
    ¬ commentEnd <:+: source := by
  fun_induction cutAtCommentEnd source with
  | case1 => decide
  | case2 rest => cases uncut
  | case3 c rest noEnd ih =>
    apply commentEnd_cons (ih (Option.map_eq_none_iff.mp uncut))
    intro star slash
    cases rest with
    | nil => cases slash
    | cons d others =>
      cases slash
      exact noEnd _ star rfl

theorem blockComment_opens (rest : List Char) :
    Opens ('/' :: '*' :: rest) (blockComment rest) := by
  unfold blockComment
  cases found : cutAtCommentEnd rest with
  | none =>
    constructor
    · simp [text]
    · exact .openComment (cutAtCommentEnd_none found)
  | some cut =>
    obtain ⟨inside, after⟩ := cut
    obtain ⟨body, rfl, split, within⟩ := cutAtCommentEnd_first found
    constructor
    · simp [text, split]
    · exact .blockComment within

theorem slash_opens (rest : List Char) : Opens ('/' :: rest) (first '/' rest) := by
  rcases slash_cases rest with ⟨inside, rfl⟩ | bars
  · exact blockComment_opens inside
  · exact token_opens ⟨_, _, _, slash_of_bars bars⟩

theorem quoted_opens (rest : List Char) : Opens ('"' :: rest) (first '"' rest) := by
  have parts := List.takeWhile_append_dropWhile (p := fun c => c != '"' && c != '\n') (l := rest)
  have bars := bars_dropWhile (fun c => c != '"' && c != '\n') rest
  by_cases closes : (rest.dropWhile fun c => c != '"' && c != '\n').head? = some '"'
  · obtain ⟨after, closes⟩ := List.head?_eq_some_iff.mp closes
    rw [closes] at parts
    rw [← parts]
    exact token_opens ⟨_, _, _, quoted_eq after mem_takeWhile⟩
  · have found : first '"' rest = (fault .unterminatedString
        ('"' :: rest.takeWhile fun c => c != '"' && c != '\n'),
        rest.dropWhile fun c => c != '"' && c != '\n') := by
      simp only [first, quoted]
      split
      · next after same => simp [same] at closes
      · rfl
    rw [found]
    constructor
    · simp [text, parts]
    · apply Stands.openString
      · constructor
        · intro member
          exact absurd (mem_takeWhile _ member) (by decide)
        · intro member
          exact absurd (mem_takeWhile _ member) (by decide)
      · intro c head
        have stops := bars c head
        have noQuote : c ≠ '"' := fun same => closes (same ▸ head)
        simpa [noQuote] using stops

theorem rawQuoted_opens (rest : List Char) : Opens (rawQuote :: rest) (first rawQuote rest) := by
  have parts := List.takeWhile_append_dropWhile (p := fun c => c != rawQuote) (l := rest)
  have bars := bars_dropWhile (fun c => c != rawQuote) rest
  cases closes : rest.dropWhile fun c => c != rawQuote with
  | cons c after =>
    rw [closes] at parts bars
    have same : c = rawQuote := by simpa using bars c rfl
    rw [← parts, same]
    exact token_opens ⟨_, _, _, rawQuoted_eq after mem_takeWhile⟩
  | nil =>
    have found : first rawQuote rest =
        (fault .unterminatedRawString (rawQuote :: rest.takeWhile (· != rawQuote)), []) := by
      show rawQuoted rest = _
      simp only [rawQuoted, closes]
    rw [closes, List.append_nil] at parts
    rw [found]
    constructor
    · simp [text, parts]
    · apply Stands.openRawString
      intro member
      exact absurd (mem_takeWhile _ member) (by decide)

theorem untoken_opens {c : Char} (listed : c ∈ untoken) (rest : List Char) :
    Opens (c :: rest) (first c rest) := by
  revert c
  simp only [untoken, List.forall_mem_cons]
  refine ⟨lineComment_opens rest, slash_opens rest, ?_, ?_, ?_, ?_, quoted_opens rest,
    rawQuoted_opens rest, by simp⟩
  all_goals exact ⟨rfl, .blank (by decide)⟩

theorem first_opens (c : Char) (rest : List Char) : Opens (c :: rest) (first c rest) := by
  by_cases other : c ∈ untoken
  · exact untoken_opens other rest
  rcases first_cases c rest with isToken | ⟨noSign, noDigit, noWord⟩
  · exact token_opens isToken
  · rw [first_unexpected noSign other noDigit noWord]
    exact ⟨rfl, .unexpected noSign other noDigit noWord⟩

theorem stands_nonempty {segment : Segment} {after : List Char} (stands : Stands segment after) :
    segment.text ≠ [] := by
  cases stands with
  | token lexeme _ =>
    obtain ⟨c, rest, same⟩ := lexeme_cons lexeme
    simp [text, same]
  | _ => simp [text]

/-- A text as segments one after another, each standing before the text of those that follow. -/
inductive Segmented : List Char → List Segment → Prop
  | nil : Segmented [] []
  | cons {segment : Segment} {after : List Char} {rest : List Segment} (stands : Stands segment after)
      (further : Segmented after rest) : Segmented (segment.text ++ after) (segment :: rest)

theorem segments_segmented (source : List Char) : Segmented source (segments source) := by
  fun_induction segments source with
  | case1 => exact .nil
  | case2 c rest ih =>
    have opens := first_opens c rest
    have segmented := Segmented.cons opens.stands ih
    rwa [← opens.split] at segmented

/-- Nothing is lost, and no segment is empty. -/
theorem segmented_text {source : List Char} {parts : List Segment} (segmented : Segmented source parts) :
    parts.flatMap text = source ∧ ∀ part ∈ parts, part.text ≠ [] := by
  induction segmented with
  | nil => simp
  | cons stands _ ih =>
    constructor
    · rw [List.flatMap_cons, ih.1]
    · exact List.forall_mem_cons.mpr ⟨stands_nonempty stands, ih.2⟩

end Segment

end Scriptlet
