import Scriptlet.Proofs.Alignment
import Scriptlet.Proofs.Positions
import Scriptlet.Proofs.Soundness
import Scriptlet.Proofs.Traces

/-! Where a run is. A program that was read keeps its tokens, so the lines a run records are lines of the
source text, and so is the line of the error that stops it; and it counts no more statements than the
text has tokens. -/
namespace Scriptlet

/-! Tokens. -/

namespace Scan

theorem placed_line {line : Int} {parts : List Segment} {token : Token}
    (listed : token ∈ placed line parts) : line ≤ token.line ∧ token.line ≤ line + breaks parts := by
  induction parts generalizing line with
  | nil => cases listed
  | cons segment rest ih =>
    have deeper (inside : token ∈ placed (line + segment.lineBreaks) rest) :
        line ≤ token.line ∧ token.line ≤ line + breaks (segment :: rest) := by
      obtain ⟨low, high⟩ := ih inside
      simp only [breaks]
      omega
    rw [placed.eq_def] at listed
    cases segment with
    | token kind text =>
      rcases List.mem_cons.mp listed with rfl | inside
      · simp [Scan.token, breaks]
        omega
      · exact deeper inside
    | blank c => exact deeper listed
    | comment text => exact deeper listed
    | fault cause text => exact deeper listed

theorem placed_length (line : Int) (parts : List Segment) : (placed line parts).length ≤ parts.length := by
  induction parts generalizing line with
  | nil => exact Nat.le_refl 0
  | cons segment rest ih =>
    have further := ih (line + segment.lineBreaks)
    rw [placed.eq_def]
    cases segment <;> simp only [List.length_cons] <;> omega

theorem words_line {source : String} {token : Token} (listed : token ∈ words source) :
    1 ≤ token.line ∧ token.line ≤ source.length + 1 := by
  obtain ⟨low, high⟩ := placed_line listed
  rw [breaks_segments] at high
  have few : source.toList.count '\n' ≤ source.length := List.count_le_length
  omega

theorem parts_length {parts : List Segment} (nonempty : ∀ part ∈ parts, part.text ≠ []) :
    parts.length ≤ (parts.flatMap Segment.text).length := by
  induction parts with
  | nil => exact Nat.le_refl 0
  | cons part rest ih =>
    obtain ⟨first, others⟩ := List.forall_mem_cons.mp nonempty
    have further := ih others
    have some := List.length_pos_iff.mpr first
    simp only [List.length_cons, List.flatMap_cons, List.length_append]
    omega

theorem words_length (source : String) : (words source).length ≤ source.length := by
  obtain ⟨whole, nonempty⟩ := Segment.segmented_text (Segment.segments_segmented source.toList)
  have parts := parts_length nonempty
  rw [whole] at parts
  exact (placed_length 1 _).trans parts

end Scan

/-! Trees. -/

theorem leaf_line {token : Token} {expr : Expr} (leaf : Leaf token expr) : expr.line = token.line := by
  cases leaf with
  | no | yes | nil | string | name => rfl
  | integer | float =>
    rcases ofLiteral_cases token token.literal with ⟨value, same⟩ | ⟨value, same⟩ | ⟨value, same⟩ |
      ⟨value, same⟩ | same
    all_goals rw [same]; rfl

theorem leaf_aligned {matched : Token → Token → Prop} {token : Token} {expr : Expr}
    (leaf : Leaf token expr) (pair : matched token token) : expr.Aligned matched expr := by
  cases leaf with
  | no | yes => exact .boolean
  | nil => exact .nil
  | string => exact .string
  | name => exact .reference pair
  | integer | float =>
    rcases ofLiteral_cases token token.literal with ⟨value, same⟩ | ⟨value, same⟩ | ⟨value, same⟩ |
      ⟨value, same⟩ | same
    all_goals rw [same]; constructor

section Derived

variable {rank : Nat} {tokens : List Token} {expr : Expr}

theorem derives_line (derived : Derives rank tokens expr) : ∃ token ∈ tokens, token.line = expr.line := by
  induction derived with
  | leaf stands => exact ⟨_, List.mem_singleton_self _, (leaf_line stands).symm⟩
  | grouping _ _ _ _ => exact ⟨_, List.mem_cons_self, rfl⟩
  | unary _ _ _ => exact ⟨_, List.mem_cons_self, rfl⟩
  | binary _ _ _ _ _ _ => exact ⟨_, List.mem_append_right _ List.mem_cons_self, rfl⟩
  | assign _ _ _ _ => exact ⟨_, List.mem_cons_self, rfl⟩
  | tighter _ ih => exact ih

theorem derives_aligned {held : Token → Prop} (derived : Derives rank tokens expr)
    (all : ∀ token ∈ tokens, held token) :
    expr.Aligned (fun token other => token = other ∧ held token) expr := by
  induction derived with
  | leaf stands => exact leaf_aligned stands ⟨rfl, all _ (List.mem_singleton_self _)⟩
  | grouping _ _ _ ih =>
    refine .grouping (ih fun token inside => all token ?_)
    exact List.mem_cons_of_mem _ (List.mem_append_left _ inside)
  | unary _ _ ih =>
    refine .unary ⟨rfl, all _ List.mem_cons_self⟩ (ih fun token inside => all token ?_)
    exact List.mem_cons_of_mem _ inside
  | binary _ _ _ _ left right =>
    refine .binary ⟨rfl, all _ (List.mem_append_right _ List.mem_cons_self)⟩ (left fun token inside => ?_)
      (right fun token inside => ?_)
    · exact all token (List.mem_append_left _ inside)
    · exact all token (List.mem_append_right _ (List.mem_cons_of_mem _ inside))
  | assign _ _ _ ih =>
    refine .assign ⟨rfl, all _ List.mem_cons_self⟩ (ih fun token inside => all token ?_)
    exact List.mem_cons_of_mem _ (List.mem_cons_of_mem _ inside)
  | tighter _ ih => exact ih all

theorem derives_fails (derived : Derives rank tokens expr) {error : RuntimeError}
    {before after : Environment} (fails : expr.evaluate before = .error error after) :
    error.token ∈ tokens := by
  have same {token other : Token} (pair : token = other ∧ token ∈ tokens) : token.Same other :=
    pair.1 ▸ ⟨rfl, rfl, rfl⟩
  have alike := (derives_aligned derived fun token inside => inside).evaluate same before before rfl
  rw [fails] at alike
  cases alike with
  | error matched _ => exact matched.token.2

end Derived

namespace Stmt

mutual

def parts : Stmt → List Stmt
  | block brace body => .block brace body :: allParts body
  | other => [other]

def allParts : List Stmt → List Stmt
  | [] => []
  | stmt :: rest => stmt.parts ++ allParts rest

end

theorem mem_allParts (stmt : Stmt) (rest : List Stmt) : stmt ∈ allParts (stmt :: rest) := by
  cases stmt <;> simp [allParts, parts]

structure At (tokens : List Token) (stmt : Stmt) : Prop where
  stands : ∃ token ∈ tokens, token.line = stmt.line
  raises : ∀ error, stmt.Raises error → error.token ∈ tokens

theorem At.mono {tokens others : List Token} {stmt : Stmt} (part : tokens ⊆ others)
    (placed : At tokens stmt) : At others stmt := by
  obtain ⟨token, inside, same⟩ := placed.stands
  exact ⟨⟨token, part inside, same⟩, fun error raises => part (placed.raises error raises)⟩

end Stmt

theorem parts_cons {tokens rest : List Token} {stmt : Stmt} {statements : List Stmt}
    (first : ∀ part ∈ stmt.parts, part.At tokens) (later : rest ⊆ tokens)
    (others : ∀ part ∈ Stmt.allParts statements, part.At rest) :
    ∀ part ∈ Stmt.allParts (stmt :: statements), part.At tokens :=
  List.forall_mem_append.mpr ⟨first, fun part inside => (others part inside).mono later⟩

/-- Every statement of a program that was read is at one of its tokens. -/
theorem sentence_parts {tokens : List Token} {statements : List Stmt}
    (sentence : Sentence tokens statements) : ∀ stmt ∈ Stmt.allParts statements, stmt.At tokens := by
  induction sentence with
  | nil => exact List.forall_mem_nil _
  | @declaration keyword name semicolon rest statements _ _ _ _ ih =>
    refine parts_cons (List.forall_mem_singleton.mpr ⟨⟨name, by simp, rfl⟩, ?_⟩) ?_ ih
    · rintro error ⟨before, after, fails⟩
      cases fails
    · exact fun token inside => by simp [inside]
  | @definition keyword name equals semicolon value rest expr statements _ _ _ derived _ _ ih =>
    refine parts_cons (List.forall_mem_singleton.mpr ⟨⟨name, by simp, rfl⟩, ?_⟩) ?_ ih
    · rintro error ⟨before, after, fails⟩
      simp [derives_fails derived fails]
    · exact fun token inside => by simp [inside]
  | @print keyword semicolon value rest expr statements _ derived _ _ ih =>
    refine parts_cons (List.forall_mem_singleton.mpr ⟨⟨keyword, by simp, rfl⟩, ?_⟩) ?_ ih
    · rintro error ⟨before, after, fails⟩
      simp [derives_fails derived fails]
    · exact fun token inside => by simp [inside]
  | @expression semicolon value rest expr statements derived _ _ ih =>
    obtain ⟨token, found, same⟩ := derives_line derived
    refine parts_cons (List.forall_mem_singleton.mpr ⟨⟨token, by simp [found], same⟩, ?_⟩) ?_ ih
    · rintro error ⟨before, after, fails⟩
      simp [derives_fails derived fails]
    · exact fun token inside => by simp [inside]
  | @block brace close inner rest body statements _ _ _ _ deeper ih =>
    refine parts_cons (List.forall_mem_cons.mpr ⟨⟨⟨brace, by simp, rfl⟩, ?_⟩, ?_⟩) ?_ ih
    · exact fun error raises => False.elim raises
    · exact fun stmt within => (deeper stmt within).mono fun token inside => by simp [inside]
    · exact fun token inside => by simp [inside]

theorem sentence_count {tokens : List Token} {statements : List Stmt}
    (sentence : Sentence tokens statements) :
    statements.length ≤ tokens.length ∧ Stmt.countAll statements ≤ tokens.length := by
  induction sentence with
  | nil => exact ⟨Nat.le_refl 0, Nat.le_refl 0⟩
  | declaration | definition | print | expression | block =>
    simp only [List.length_cons, List.length_append, Stmt.countAll, Stmt.count]
    omega

/-! Records. -/

section Record

variable {echo : Bool} {statements around : List Stmt} {events : List Event}

theorem wrote_line {stmt : Stmt} {inner : List Event} (wrote : Wrote echo stmt inner) :
    ∀ event ∈ inner, event.line = stmt.line := by
  cases wrote <;> simp [Event.line, Stmt.line]

theorem finished_line (finished : Finished echo statements events) :
    ∀ event ∈ events, ∃ stmt ∈ Stmt.allParts statements, event.line = stmt.line := by
  intro event listed
  induction finished with
  | nil => cases listed
  | @simple stmt inner wrote value =>
    simp only [List.cons_append, List.mem_cons, List.mem_append, List.not_mem_nil, or_false] at listed
    refine ⟨stmt, Stmt.mem_allParts stmt [], ?_⟩
    rcases listed with rfl | inside | rfl
    · rfl
    · exact wrote_line wrote event inside
    · rfl
  | @block brace body inner _ value ih =>
    simp only [List.cons_append, List.mem_cons, List.mem_append, List.not_mem_nil, or_false] at listed
    rcases listed with rfl | inside | rfl
    · exact ⟨.block brace body, Stmt.mem_allParts _ [], rfl⟩
    · obtain ⟨stmt, found, same⟩ := ih inside
      exact ⟨stmt, by simp [Stmt.allParts, Stmt.parts, found], same⟩
    · exact ⟨.block brace body, Stmt.mem_allParts _ [], rfl⟩
  | cons ran further ih ihToo =>
    rcases List.mem_append.mp listed with first | others
    · obtain ⟨stmt, found, same⟩ := ih first
      rw [Stmt.allParts, Stmt.allParts, List.append_nil] at found
      exact ⟨stmt, List.mem_append_left _ found, same⟩
    · obtain ⟨stmt, found, same⟩ := ihToo others
      exact ⟨stmt, List.mem_append_right _ found, same⟩

theorem stopped_line {stop : Stop} (stopped : Stopped echo statements stop around events) :
    ∀ event ∈ events, ∃ stmt ∈ Stmt.allParts statements, event.line = stmt.line := by
  intro event listed
  induction stopped with
  | cancelled => cases listed
  | @failed stmt rest error raises =>
    obtain rfl := List.mem_singleton.mp listed
    exact ⟨stmt, Stmt.mem_allParts stmt rest, rfl⟩
  | @inside brace body rest around stop events _ ih =>
    rcases List.mem_cons.mp listed with rfl | within
    · exact ⟨.block brace body, Stmt.mem_allParts _ rest, rfl⟩
    · obtain ⟨stmt, found, same⟩ := ih within
      exact ⟨stmt, by simp [Stmt.allParts, Stmt.parts, found], same⟩
  | @later stmt rest around stop first events ran _ ih =>
    rcases List.mem_append.mp listed with early | late
    · obtain ⟨part, found, same⟩ := finished_line ran event early
      rw [Stmt.allParts, Stmt.allParts, List.append_nil] at found
      exact ⟨part, List.mem_append_left _ found, same⟩
    · obtain ⟨part, found, same⟩ := ih late
      exact ⟨part, List.mem_append_right _ found, same⟩

/-- A run fails inside one of its statements. -/
theorem stopped_raises {stop : Stop} (stopped : Stopped echo statements stop around events) :
    ∀ error, stop = .error error → ∃ stmt ∈ Stmt.allParts statements, stmt.Raises error := by
  intro error fails
  induction stopped with
  | cancelled => cases fails
  | @failed stmt rest other raises =>
    cases fails
    exact ⟨stmt, Stmt.mem_allParts stmt rest, raises⟩
  | inside _ ih =>
    obtain ⟨stmt, found, raises⟩ := ih fails
    exact ⟨stmt, by simp [Stmt.allParts, Stmt.parts, found], raises⟩
  | later _ _ ih =>
    obtain ⟨stmt, found, raises⟩ := ih fails
    exact ⟨stmt, List.mem_append_right _ found, raises⟩

theorem stopped_count {stop : Stop} (stopped : Stopped echo statements stop around events) :
    events.countP Event.isStatementEnd ≤ Stmt.countAll statements := by
  induction stopped with
  | cancelled => exact Nat.zero_le _
  | failed raises => exact Nat.zero_le _
  | inside _ ih =>
    rw [List.countP_cons_of_neg (by simp [Event.opening, Event.isStatementEnd]), Stmt.countAll, Stmt.count]
    omega
  | later ran _ ih =>
    have early := finished_count ran
    rw [List.countP_append, early]
    simp only [Stmt.countAll]
    omega

end Record

section Source

variable {source : String} {statements around : List Stmt} {echo : Bool} {body : List Event}
  {report : RunReport} (accepted : Program.ofSource source = .ok statements)
  (holds : report.Holds echo statements around body)

include accepted

theorem sentence_of_source : Sentence (Scan.words source) statements := by
  obtain ⟨-, reads⟩ := Program.ofSource_eq_ok.mp accepted
  rw [Scan.scan_tokens] at reads
  exact readStrict_sentence (Scan.words_inner source) rfl reads

include holds

/-- Every line in the record of a run is a line of the source text, or 0 for the run as a whole. -/
theorem record_line : ∀ event ∈ report.events, 0 ≤ event.line ∧ event.line ≤ source.length + 1 := by
  have placed := sentence_parts (sentence_of_source accepted)
  have inner (event : Event) (listed : event ∈ body) : 0 ≤ event.line ∧ event.line ≤ source.length + 1 := by
    obtain ⟨stmt, found, same⟩ : ∃ stmt ∈ Stmt.allParts statements, event.line = stmt.line := by
      have recorded := holds.recorded
      cases ending : report.result with
      | ok value =>
        rw [ending] at recorded
        exact finished_line recorded.1 event listed
      | error stop =>
        rw [ending] at recorded
        exact stopped_line recorded event listed
    obtain ⟨token, word, stands⟩ := (placed stmt found).stands
    have lines := Scan.words_line word
    omega
  have failed (event : Event) (listed : event ∈ errorEvents report.result) :
      0 ≤ event.line ∧ event.line ≤ source.length + 1 := by
    have recorded := holds.recorded
    unfold errorEvents at listed
    split at listed
    · next error fails =>
      rw [fails] at recorded
      obtain rfl := List.mem_singleton.mp listed
      obtain ⟨stmt, found, raises⟩ := stopped_raises recorded error rfl
      have lines := Scan.words_line ((placed stmt found).raises error raises)
      simp only [Event.line]
      omega
    · cases listed
  intro event listed
  rw [holds.events, List.mem_cons, List.mem_append, List.mem_append, List.mem_singleton] at listed
  rcases listed with rfl | (inside | error) | rfl
  · simp only [Event.line]
    omega
  · exact inner event inside
  · exact failed event error
  · simp only [Event.line]
    omega

theorem record_count : statements.length ≤ source.length ∧ report.completed ≤ source.length := by
  obtain ⟨listed, counted⟩ := sentence_count (sentence_of_source accepted)
  have words := Scan.words_length source
  have completed : report.completed ≤ Stmt.countAll statements := by
    have recorded := holds.recorded
    rw [holds.completed]
    cases ending : report.result with
    | ok value =>
      rw [ending] at recorded
      exact (finished_count recorded.1).le
    | error stop =>
      rw [ending] at recorded
      exact stopped_count recorded
  omega

end Source

end Scriptlet
