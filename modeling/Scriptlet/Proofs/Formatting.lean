import Scriptlet.Proofs.RoundTrip
import Scriptlet.Proofs.Runs

/-! Formatting a program does not change what it does. Its canonical text is a respelling of it, so the two
run side by side, and only the lines that errors are reported at may differ. -/
namespace Scriptlet

/-- A program and its canonical text do the same from any bindings: they write the same, leave the same
bindings and complete as many statements, and they come to the same value, or to errors with the same fault
at the same token, maybe on another line. -/
theorem formatting_preserves_runs {source : String} {statements : List Stmt}
    (accepted : Program.ofSource source = .ok statements) :
    ∃ text formatted, format source = .ok text ∧ Program.ofSource text = .ok formatted ∧
      ∀ (globals : Scope) (echo : Bool),
        let report := execute statements (.global globals) echo none
        let again := execute formatted (.global globals) echo none
        again.output = report.output ∧ again.environment = report.environment ∧
          again.completed = report.completed ∧
          ((∃ value, report.result = .ok value ∧ again.result = .ok value) ∨
            ∃ error other, report.result = .error (.error error) ∧
              again.result = .error (.error other) ∧ other.fault.code = error.fault.code ∧
              other.fault.message = error.fault.message ∧ error.token.Same other.token) := by
  obtain ⟨formatted, accepts, respells⟩ := sourceText_respells accepted
  refine ⟨sourceText statements, formatted, ?_, accepts, ?_⟩
  · rw [format, accepted]
    rfl
  · intro globals echo report again
    have resumes : report.Resumes Eq Token.Same [] 0 again :=
      execute_aligned id respells.aligned globals echo
    refine ⟨?_, resumes.environment.symm, ?_, ?_⟩
    · rw [RunReport.output, RunReport.output, resumes.written, List.nil_append]
    · rw [resumes.completed, Nat.zero_add]
    · rcases resumes.result.cases with
        ⟨value, _, succeeds, succeedsToo, rfl⟩ | ⟨error, other, fails, failsToo, same⟩
      · exact .inl ⟨value, succeeds, succeedsToo⟩
      · right
        refine ⟨error, other, fails, failsToo, ?_, ?_, same.token⟩
        · rw [same.fault]
        · rw [same.fault]

/-- A string gets other delimiters, and the error after it moves up a line. -/
theorem formatting_preserves_runs_moved :
    let source := "print\n\n\x60a\x60;x;"
    let text := "print \"a\";\nx;\n"
    ∃ statements formatted error other, Program.ofSource source = .ok statements ∧
      format source = .ok text ∧ Program.ofSource text = .ok formatted ∧
      (execute statements (.global .empty) false none).result = .error (.error error) ∧
      error.token.line = 3 ∧
      (execute formatted (.global .empty) false none).output = "a\n" ∧
      (execute formatted (.global .empty) false none).result = .error (.error other) ∧
      other.fault.message = "Undefined variable 'x'." := by
  intro source text
  let print : Token := ⟨.printWord, "print", "", 1⟩
  let string : Token := ⟨.string, "\x60a\x60", "a", 3⟩
  let name : Token := ⟨.identifier, "x", "", 3⟩
  let statements : List Stmt := [.print print (.string string "a"), .expression (.reference name)]
  have accepted : Program.ofSource source = .ok statements := by cbv
  have laid : format source = .ok text := by cbv
  have fails : (execute statements (.global .empty) false none).result =
      .error (.error (.undefined name)) := by rfl
  obtain ⟨shown, formatted, formats, accepts, runs⟩ := formatting_preserves_runs accepted
  obtain rfl : text = shown := Except.ok.inj (laid.symm.trans formats)
  obtain ⟨written, -, -, ⟨value, succeeds, -⟩ | ⟨error, other, failed, failsToo, -, message, -⟩⟩ :=
    runs .empty false
  · rw [fails] at succeeds
    cases succeeds
  · rw [fails] at failed
    cases failed
    refine ⟨statements, formatted, _, other, accepted, laid, accepts, fails, rfl, ?_, failsToo, ?_⟩
    · rw [written]
      rfl
    · rw [message]
      rfl

end Scriptlet
