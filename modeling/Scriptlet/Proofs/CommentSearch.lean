import Scriptlet.Comments
import Scriptlet.Proofs.Positions

/-! The search for comments beside the scanner. The search follows quotes alone, one character at a time;
the scanner goes from segment to segment. Between segments the search is never inside quotes, so it finds
a comment exactly where the scanner enters one. -/
namespace Scriptlet

namespace Segment

/-- The texts that the scanner comes to: the source, and what each segment leaves for the next. -/
inductive ComesTo (source : List Char) : List Char → Prop
  | start : ComesTo source source
  | step {c : Char} {rest : List Char} (here : ComesTo source (c :: rest)) :
      ComesTo source (first c rest).2

def OpensComment (text : List Char) : Prop := ['#'] <+: text ∨ ['/', '*'] <+: text

def isComment : Segment → Bool
  | comment _ => true
  | fault .unterminatedComment _ => true
  | _ => false

def isPlain (c : Char) : Bool := c != '"' && c != rawQuote && c != '#' && c != '/'

end Segment

open Segment

/-! The search, outside of quotes and inside. -/

theorem commentStarts_plain {text : List Char} (plain : ∀ c ∈ text, isPlain c = true)
    (rest : List Char) : commentStarts none (text ++ rest) = commentStarts none rest := by
  induction text with
  | nil => rfl
  | cons c others ih =>
    obtain ⟨first, further⟩ := List.forall_mem_cons.mp plain
    simp only [isPlain, rawQuote, Bool.and_eq_true, bne_iff_ne] at first
    obtain ⟨⟨⟨noQuote, noRawQuote⟩, noHash⟩, noSlash⟩ := first
    rw [← ih further]
    simp [commentStarts, noQuote, noRawQuote, noHash, noSlash]

theorem commentStarts_inside {quote : Char} {inside : List Char}
    (within : ∀ c ∈ inside, c ≠ quote ∧ (quote = '"' → c ≠ '\n')) (rest : List Char) :
    commentStarts (some quote) (inside ++ rest) = commentStarts (some quote) rest := by
  induction inside with
  | nil => rfl
  | cons c others ih =>
    obtain ⟨⟨noQuote, sameLine⟩, further⟩ := List.forall_mem_cons.mp within
    have goesOn : ¬ (c == quote || (quote == '"' && c == '\n')) = true := by
      simpa [noQuote] using sameLine
    rw [List.cons_append, commentStarts, if_neg goesOn, ih further]

theorem commentStarts_opened {quote : Char} (opens : quote = '"' ∨ quote = rawQuote) {inside : List Char}
    (within : ∀ c ∈ inside, c ≠ quote ∧ (quote = '"' → c ≠ '\n')) (rest : List Char) :
    commentStarts none (quote :: inside ++ rest) = commentStarts (some quote) rest := by
  rw [← commentStarts_inside within, List.cons_append]
  rcases opens with rfl | rfl
  · simp [commentStarts]
  · simp [commentStarts, rawQuote]

theorem commentStarts_closed (quote : Char) (rest : List Char) :
    commentStarts (some quote) (quote :: rest) = commentStarts none rest := by
  simp [commentStarts]

theorem commentStarts_cut {rest : List Char} (ends : Bars (· != '\n') rest) :
    commentStarts (some '"') rest = commentStarts none rest := by
  -- A string in double quotes that is not closed ends with its line, or with the text.
  cases rest with
  | nil => rfl
  | cons c others =>
    have same : c = '\n' := by simpa using ends c rfl
    subst same
    simp [commentStarts]

/-! Segment by segment. -/

theorem isPlain_of_continuesWord {c : Char} (continues : continuesWord c = true) : isPlain c = true := by
  have differs {d : Char} (other : continuesWord d = false) : c ≠ d := by
    rintro rfl
    rw [continues] at other
    cases other
  simp [isPlain, rawQuote, differs (d := '"') (by decide), differs (d := '\x60') (by decide),
    differs (d := '#') (by decide), differs (d := '/') (by decide)]

theorem isPlain_of_isDigit {c : Char} (digit : isDigit c = true) : isPlain c = true :=
  isPlain_of_continuesWord (by simp [continuesWord, digit])

theorem signs_isPlain {kind : TokenKind} {text : List Char} (listed : (kind, text) ∈ signs) :
    (kind = .slash ∧ text = ['/']) ∨ ∀ c ∈ text, isPlain c = true := by
  have each : signs.all (fun entry =>
      (entry.1 == .slash && entry.2 == ['/']) || entry.2.all isPlain) = true := by decide
  have found := List.all_eq_true.mp each _ listed
  simp only [Bool.or_eq_true, Bool.and_eq_true, beq_iff_eq, List.all_eq_true] at found
  exact found

theorem commentStarts_slash {rest : List Char} (detached : Detached .slash rest) :
    commentStarts none ('/' :: rest) = commentStarts none rest := by
  have noStar : rest.head? ≠ some '*' := by
    intro head
    exact absurd (detached '*' head) (by decide)
  simp [commentStarts, noStar]

theorem commentStarts_lexeme {kind : TokenKind} {text after : List Char} (lexeme : Lexeme kind text)
    (detached : Detached kind after) : commentStarts none (text ++ after) = commentStarts none after := by
  cases lexeme with
  | sign listed =>
    rcases signs_isPlain listed with ⟨rfl, rfl⟩ | plain
    · exact commentStarts_slash detached
    · exact commentStarts_plain plain after
  | @quoted inside plain =>
    have within : ∀ c ∈ inside, c ≠ '"' ∧ ('"' = '"' → c ≠ '\n') := by
      simpa using plain
    calc commentStarts none ('"' :: (inside ++ ['"']) ++ after)
        = commentStarts none ('"' :: inside ++ '"' :: after) := by simp
      _ = commentStarts (some '"') ('"' :: after) := commentStarts_opened (.inl rfl) within _
      _ = commentStarts none after := commentStarts_closed _ _
  | @rawQuoted inside plain =>
    have within : ∀ c ∈ inside, c ≠ rawQuote ∧ (rawQuote = '"' → c ≠ '\n') := by
      simpa [rawQuote] using plain
    calc commentStarts none (rawQuote :: (inside ++ [rawQuote]) ++ after)
        = commentStarts none (rawQuote :: inside ++ rawQuote :: after) := by simp
      _ = commentStarts (some rawQuote) (rawQuote :: after) := commentStarts_opened (.inr rfl) within _
      _ = commentStarts none after := commentStarts_closed _ _
  | integer first others =>
    apply commentStarts_plain
    exact List.forall_mem_cons.mpr
      ⟨isPlain_of_isDigit first, fun d member => isPlain_of_isDigit (others d member)⟩
  | float first others place further =>
    apply commentStarts_plain
    intro c member
    simp only [List.cons_append, List.mem_cons, List.mem_append] at member
    rcases member with rfl | member | rfl | rfl | member
    · exact isPlain_of_isDigit first
    · exact isPlain_of_isDigit (others c member)
    · decide
    · exact isPlain_of_isDigit place
    · exact isPlain_of_isDigit (further c member)
  | word starts continues =>
    apply commentStarts_plain
    exact List.forall_mem_cons.mpr
      ⟨isPlain_of_continuesWord (by simp [continuesWord, starts]),
        fun d member => isPlain_of_continuesWord (continues d member)⟩

theorem isPlain_blank {c : Char} (isBlank : c ∈ [' ', '\r', '\t', '\n']) : isPlain c = true := by
  have each : [' ', '\r', '\t', '\n'].all isPlain = true := by decide
  exact List.all_eq_true.mp each c isBlank

theorem isPlain_unexpected {c : Char} (other : c ∉ untoken) : isPlain c = true := by
  simp only [untoken, List.mem_cons, List.not_mem_nil, or_false, not_or] at other
  simp [isPlain, other]

/-- The step of the search over a segment: outside of quotes before it, outside of quotes after it. -/
theorem commentStarts_stands {segment : Segment} {after : List Char} (stands : Stands segment after) :
    commentStarts none (segment.text ++ after) = (segment.isComment || commentStarts none after) := by
  cases stands with
  | token lexeme detached => exact commentStarts_lexeme lexeme detached
  | @blank c after isBlank =>
    apply commentStarts_plain
    exact List.forall_mem_singleton.mpr (isPlain_blank isBlank)
  | lineComment => simp [text, isComment, commentStarts]
  | blockComment => simp [text, isComment, commentStarts]
  | @openString inside after within ends =>
    have inLine : ∀ c ∈ inside, c ≠ '"' ∧ ('"' = '"' → c ≠ '\n') := by
      intro c member
      constructor
      · rintro rfl
        exact within.1 member
      · rintro _ rfl
        exact within.2 member
    exact (commentStarts_opened (.inl rfl) inLine after).trans (commentStarts_cut ends)
  | @openRawString inside within =>
    have inText : ∀ c ∈ inside, c ≠ rawQuote ∧ (rawQuote = '"' → c ≠ '\n') := by
      intro c member
      constructor
      · rintro rfl
        exact within member
      · intro same
        exact absurd same (by decide)
    exact commentStarts_opened (.inr rfl) inText []
  | openComment => simp [text, isComment, commentStarts]
  | @unexpected c after _ other =>
    apply commentStarts_plain
    exact List.forall_mem_singleton.mpr (isPlain_unexpected other)

theorem commentStarts_segmented {source : List Char} {parts : List Segment}
    (segmented : Segmented source parts) : commentStarts none source = parts.any isComment := by
  -- The search over a whole text: by induction on its segments.
  induction segmented with
  | nil => rfl
  | cons stands _ ih => rw [commentStarts_stands stands, ih, List.any_cons]

/-! What the scanner enters. -/

namespace Segment

theorem not_opensComment {c : Char} (noHash : c ≠ '#') (noSlash : c ≠ '/') (rest : List Char) :
    ¬ OpensComment (c :: rest) := by
  simp [OpensComment, List.cons_prefix_cons, noHash.symm, noSlash.symm]

theorem not_opensComment_plain {c : Char} (plain : isPlain c = true) (rest : List Char) :
    ¬ OpensComment (c :: rest) := by
  simp only [isPlain, Bool.and_eq_true, bne_iff_ne] at plain
  exact not_opensComment plain.1.2 plain.2 rest

theorem not_opensComment_lexeme {kind : TokenKind} {text after : List Char} (lexeme : Lexeme kind text)
    (detached : Detached kind after) : ¬ OpensComment (text ++ after) := by
  obtain ⟨c, rest, split⟩ := lexeme_cons lexeme
  cases lexeme with
  | sign listed =>
    rcases signs_isPlain listed with ⟨rfl, rfl⟩ | plain
    · rintro (hash | ⟨others, comment⟩)
      · exact absurd hash (by simp)
      · obtain rfl : '*' :: others = after := by simpa using comment
        exact absurd (detached '*' rfl) (by decide)
    · subst split
      exact not_opensComment_plain (plain c List.mem_cons_self) _
  | quoted => exact not_opensComment (by decide) (by decide) _
  | rawQuoted => exact not_opensComment (by decide) (by decide) _
  | integer first => exact not_opensComment_plain (isPlain_of_isDigit first) _
  | float first => exact not_opensComment_plain (isPlain_of_isDigit first) _
  | word starts =>
    exact not_opensComment_plain (isPlain_of_continuesWord (by simp [continuesWord, starts])) _

theorem isComment_stands {segment : Segment} {after : List Char} (stands : Stands segment after) :
    segment.isComment = true ↔ OpensComment (segment.text ++ after) := by
  cases stands with
  | token lexeme detached => simp [isComment, text, not_opensComment_lexeme lexeme detached]
  | @blank c after isBlank =>
    have plain := isPlain_blank isBlank
    simp [isComment, text, not_opensComment_plain plain]
  | lineComment => simp [isComment, text, OpensComment]
  | blockComment => simp [isComment, text, OpensComment]
  | openString => simp [isComment, text, OpensComment]
  | openRawString => simp [isComment, text, OpensComment, rawQuote]
  | openComment => simp [isComment, text, OpensComment]
  | unexpected _ other => simp [isComment, text, not_opensComment_plain (isPlain_unexpected other)]

theorem isComment_first (c : Char) (rest : List Char) :
    (first c rest).1.isComment = true ↔ OpensComment (c :: rest) := by
  have opens := first_opens c rest
  rw [isComment_stands opens.stands, ← opens.split]

theorem segments_comesTo {source text : List Char} (comes : ComesTo source text) :
    segments text <:+ segments source := by
  induction comes with
  | start => exact List.suffix_rfl
  | @step c rest _ ih =>
    apply List.IsSuffix.trans _ ih
    rw [segments]
    exact List.suffix_cons _ _

theorem comesTo_trans {source middle text : List Char} (before : ComesTo source middle)
    (after : ComesTo middle text) : ComesTo source text := by
  induction after with
  | start => exact before
  | step _ ih => exact .step ih

/-- The segments of a text are those that the scanner steps over. -/
theorem mem_segments_iff (source : List Char) (segment : Segment) :
    segment ∈ segments source ↔ ∃ c rest, ComesTo source (c :: rest) ∧ (first c rest).1 = segment := by
  constructor
  · fun_induction segments source with
    | case1 => simp
    | case2 c rest ih =>
      intro member
      rcases List.mem_cons.mp member with rfl | later
      · exact ⟨c, rest, .start, rfl⟩
      · obtain ⟨d, others, comes, same⟩ := ih later
        exact ⟨d, others, comesTo_trans (.step .start) comes, same⟩
  · rintro ⟨c, rest, comes, rfl⟩
    apply (segments_comesTo comes).subset
    rw [segments]
    exact List.mem_cons_self

end Segment

/-- The search finds a comment exactly when one of the scanner's steps starts at the sign of a comment,
which is when a segment of the source is a comment, closed or not. -/
theorem comment_search_agrees_with_scanner (source : String) :
    (hasComments source = true ↔ ∃ text, ComesTo source.toList text ∧ OpensComment text) ∧
      (hasComments source = true ↔ ∃ segment ∈ segments source.toList, segment.isComment = true) := by
  have found : hasComments source = true ↔
      ∃ segment ∈ segments source.toList, segment.isComment = true := by
    rw [hasComments, commentStarts_segmented (segments_segmented _), List.any_eq_true]
  constructor
  · rw [found]
    constructor
    · rintro ⟨segment, member, isComment⟩
      obtain ⟨c, rest, comes, rfl⟩ := (mem_segments_iff _ _).mp member
      exact ⟨c :: rest, comes, (isComment_first c rest).mp isComment⟩
    · rintro ⟨text, comes, opens⟩
      cases text with
      | nil => simp [OpensComment] at opens
      | cons c rest =>
        exact ⟨_, (mem_segments_iff _ _).mpr ⟨c, rest, comes, rfl⟩, (isComment_first c rest).mpr opens⟩
  · exact found

end Scriptlet
