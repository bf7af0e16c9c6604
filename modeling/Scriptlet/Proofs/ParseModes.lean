import Scriptlet.Proofs.Calls

/-! The two modes of a session. A source is a program in one exactly if it is in the other. Where it is
none, the mode that stops early reports what the other does up to the first syntax error. -/
namespace Scriptlet

/-- Stopping at the first error and reading on find the same. Tokens fail in one way exactly if they do
in the other; where they do not, both ways find the same statements, and where they do, the one error of
the first is the first of the other. So a session that stops early accepts the sources that one that reads
on accepts, as the same statements, and where both refuse, what it returns and reports are all lexical
errors and the first syntax error, where the other returns and reports every diagnostic of the source. -/
theorem parse_modes_agree :
    (∀ tokens : List Token,
      ((∃ error, readStrict tokens = .error error) ↔ (readAll tokens).2 ≠ []) ∧
      (∀ statements, readStrict tokens = .ok statements → readAll tokens = (statements, [])) ∧
      ∀ error, readStrict tokens = .error error → (readAll tokens).2.head? = some error) ∧
    ∀ (strict collecting : Session) (source : String), strict.settings.mode = .failFast →
      collecting.settings.mode = .collect →
      (∃ statements, Program.ofSource source = .ok statements ∧
        strict.read source = (.ok statements, { strict with collector := strict.collector.reset }, {}) ∧
        collecting.read source =
          (.ok statements, { collecting with collector := collecting.collector.reset }, {})) ∨
      ∃ found all, Program.ofSource source = .error all ∧ found <+: all ∧
        found = (scan source).errors.map (·.diagnostic) ++
          ((readAll (scan source).tokens).2.map (·.diagnostic)).take 1 ∧
        strict.read source = (.error (.diagnostics found), strict.refusing found,
          { stderr := strict.collector.written found }) ∧
        collecting.read source = (.error (.diagnostics all), collecting.refusing all,
          { stderr := collecting.collector.written all }) := by
  constructor
  · intro tokens
    have agrees := readAll_agrees tokens
    cases outcome : readStrict tokens with
    | ok statements =>
      rw [outcome] at agrees
      simp [agrees]
    | error error =>
      rw [outcome] at agrees
      obtain ⟨more, errors⟩ := agrees
      simp [errors]
  · intro strict collecting source stops readsOn
    cases outcome : Program.ofSource source with
    | ok statements =>
      left
      exact ⟨statements, rfl, strict.read_accepted outcome, collecting.read_accepted outcome⟩
    | error all =>
      right
      obtain ⟨diagnosed, some⟩ := Program.ofSource_eq_error.mp outcome
      have early : Session.diagnosticsOf strict.settings.mode source =
          (scan source).errors.map (·.diagnostic) ++
            ((readAll (scan source).tokens).2.map (·.diagnostic)).take 1 := by rw [stops]; rfl
      have late : Session.diagnosticsOf collecting.settings.mode source = all := by
        rw [readsOn]
        exact diagnosed
      refine ⟨_, all, rfl, ?_, rfl, strict.read_refused early ?_, collecting.read_refused late some⟩
      · rw [← diagnosed]
        exact (List.prefix_append_right_inj _).mpr (List.take_prefix 1 _)
      · intro none
        apply some
        rw [← diagnosed]
        simp only [List.append_eq_nil_iff, List.take_eq_nil_iff] at none
        simpa [Program.diagnostics] using none

/-- After the error in the block there is another, which only reading on comes to. -/
theorem parse_modes_agree_block :
    let source := "@\x7blet;\x7dprint;"
    let strict := Session.new { mode := .failFast }
    let collecting := Session.new {}
    let stray : Diagnostic := ⟨"E_LEX", "Unexpected character.", 1, ""⟩
    let nameless : Diagnostic := ⟨"E_PARSE", "Expect variable name.", 1, "at ';'"⟩
    let valueless : Diagnostic := ⟨"E_PARSE", "Expect expression.", 1, "at ';'"⟩
    strict.settings.mode = .failFast ∧ collecting.settings.mode = .collect ∧
      (strict.read source).1 = .error (.diagnostics [stray, nameless]) ∧
      (collecting.read source).1 = .error (.diagnostics [stray, nameless, valueless]) := by
  intro source strict collecting stray nameless valueless
  let semicolon : Token := ⟨.semicolon, ";", ";", 1⟩
  have lexical : (scan source).errors = [⟨1, .unexpectedCharacter⟩] := by cbv
  have tokens : (scan source).tokens = [⟨.leftBrace, "\x7b", "\x7b", 1⟩, ⟨.letWord, "let", "", 1⟩,
      semicolon, ⟨.rightBrace, "\x7d", "\x7d", 1⟩, ⟨.printWord, "print", "", 1⟩, semicolon,
      .endOfInput 1] := by cbv
  have syntactic : (readAll (scan source).tokens).2 =
      [⟨semicolon, .variableName, false⟩, ⟨semicolon, .expression, false⟩] := by
    rw [tokens]
    cbv
  have all : Program.diagnostics source = [stray, nameless, valueless] := by
    simp only [Program.diagnostics, lexical, syntactic]
    rfl
  have refused : Program.ofSource source = .error [stray, nameless, valueless] :=
    Program.ofSource_eq_error.mpr ⟨all, by simp⟩
  rcases parse_modes_agree.2 strict collecting source rfl rfl with
    ⟨statements, accepted, -⟩ | ⟨found, _, same, -, early, reads, readsToo⟩
  · rw [refused] at accepted
    cases accepted
  · rw [refused] at same
    cases same
    rw [lexical, syntactic] at early
    subst early
    refine ⟨rfl, rfl, ?_, ?_⟩
    · rw [reads]
      rfl
    · rw [readsToo]

end Scriptlet
