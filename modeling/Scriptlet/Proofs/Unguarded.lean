import Mathlib

/-! Recursion that nothing guards. Routines that call one another are given by one round: what each does,
where its calls are answered by some routines or other. Round upon round, started from routines that never
answer, they answer more and more, and what they answer at last, after however many rounds, is what the
recursion answers; where it does not come to an end, it has no answer. It meets its own equation as soon
as a round gets each of its answers from finitely many rounds before. -/
namespace Scriptlet.Unguarded

variable {σ : Type}

def Below {α : Type} (first second : StateT σ Option α) : Prop :=
  ∀ state answer, first state = some answer → second state = some answer

/-- The parts answer more and more, and together just what the whole answers. -/
structure Approaches {α : Type} (parts : Nat → StateT σ Option α) (whole : StateT σ Option α) : Prop where
  increasing : ∀ {less more}, less ≤ more → Below (parts less) (parts more)
  bounded : ∀ rounds, Below (parts rounds) whole
  reached : ∀ state answer, whole state = some answer → ∃ rounds, parts rounds state = some answer

theorem approaches_const {α : Type} (whole : StateT σ Option α) : Approaches (fun _ => whole) whole :=
  ⟨fun _ _ _ same => same, fun _ _ _ same => same, fun _ _ same => ⟨0, same⟩⟩

theorem bind_eq_some {α β : Type} {first : StateT σ Option α} {next : α → StateT σ Option β}
    {state : σ} {answer : β × σ} :
    (first >>= next) state = some answer ↔
      ∃ middle, first state = some middle ∧ next middle.1 middle.2 = some answer :=
  Option.bind_eq_some_iff

theorem approaches_bind {α β : Type} {parts : Nat → StateT σ Option α} {whole : StateT σ Option α}
    {partsNext : Nat → α → StateT σ Option β} {wholeNext : α → StateT σ Option β}
    (first : Approaches parts whole)
    (next : ∀ value, Approaches (fun rounds => partsNext rounds value) (wholeNext value)) :
    Approaches (fun rounds => parts rounds >>= partsNext rounds) (whole >>= wholeNext) := by
  -- One after another, both parts are needed to finitely many rounds.
  refine ⟨fun {less more} few state answer same => ?_, fun rounds state answer same => ?_,
    fun state answer same => ?_⟩
  · obtain ⟨middle, early, late⟩ := bind_eq_some.mp same
    exact bind_eq_some.mpr ⟨middle, first.increasing few state middle early,
      (next middle.1).increasing few middle.2 answer late⟩
  · obtain ⟨middle, early, late⟩ := bind_eq_some.mp same
    exact bind_eq_some.mpr ⟨middle, first.bounded rounds state middle early,
      (next middle.1).bounded rounds middle.2 answer late⟩
  · obtain ⟨middle, early, late⟩ := bind_eq_some.mp same
    obtain ⟨some, reached⟩ := first.reached state middle early
    obtain ⟨others, reachedToo⟩ := (next middle.1).reached middle.2 answer late
    refine ⟨Nat.max some others, bind_eq_some.mpr ⟨middle, ?_, ?_⟩⟩
    · exact first.increasing (Nat.le_max_left some others) state middle reached
    · exact (next middle.1).increasing (Nat.le_max_right some others) middle.2 answer reachedToo

theorem approaches_unique {α : Type} {parts : Nat → StateT σ Option α} {whole other : StateT σ Option α}
    (approaches : Approaches parts whole) (approachesToo : Approaches parts other) : whole = other := by
  funext state
  apply Option.ext
  intro answer
  constructor
  · intro same
    obtain ⟨rounds, reached⟩ := approaches.reached state answer same
    exact approachesToo.bounded rounds state answer reached
  · intro same
    obtain ⟨rounds, reached⟩ := approachesToo.reached state answer same
    exact approaches.bounded rounds state answer reached

section Routines

variable {ι : Type} {Result : ι → Type}

abbrev Routines (σ : Type) (Result : ι → Type) := (call : ι) → StateT σ Option (Result call)

def after (round : Routines σ Result → Routines σ Result) : Nat → Routines σ Result
  | 0 => fun _ _ => none
  | rounds + 1 => round (after round rounds)

/-- What is answered after some number of rounds. -/
noncomputable def forever (round : Routines σ Result → Routines σ Result) : Routines σ Result :=
  fun call state =>
    after round (Classical.epsilon fun rounds => (after round rounds call state).isSome = true) call state

/-- A round answers with the routines what it answers with the parts that approach them. -/
def Finitary (round : Routines σ Result → Routines σ Result) : Prop :=
  ∀ {parts : Nat → Routines σ Result} {whole : Routines σ Result},
    (∀ call, Approaches (fun rounds => parts rounds call) (whole call)) →
    ∀ call, Approaches (fun rounds => round (parts rounds) call) (round whole call)

variable {round : Routines σ Result → Routines σ Result}

theorem Finitary.below (finitary : Finitary round) {first second : Routines σ Result}
    (below : ∀ call, Below (first call) (second call)) (call : ι) :
    Below (round first call) (round second call) := by
  -- Two routines are a sequence that changes once.
  let parts (rounds : Nat) := if rounds = 0 then first else second
  have approaches : ∀ call, Approaches (fun rounds => parts rounds call) (second call) := by
    intro call
    refine ⟨fun {less more} few => ?_, fun rounds => ?_, fun _ _ same => ⟨1, same⟩⟩
    · cases less with
      | zero =>
        cases more with
        | zero => exact fun _ _ same => same
        | succ more => exact below call
      | succ less =>
        cases more with
        | zero => exact absurd few (Nat.not_succ_le_zero less)
        | succ more => exact fun _ _ same => same
    · cases rounds with
      | zero => exact below call
      | succ rounds => exact fun _ _ same => same
  exact (finitary approaches call).bounded 0

theorem after_succ (finitary : Finitary round) (rounds : Nat) :
    ∀ call, Below (after round rounds call) (after round (rounds + 1) call) := by
  induction rounds with
  | zero => exact fun _ _ _ answered => nomatch answered
  | succ rounds ih => exact finitary.below ih

theorem after_le (finitary : Finitary round) {less more : Nat} (few : less ≤ more) (call : ι) :
    Below (after round less call) (after round more call) := by
  induction few with
  | refl => exact fun _ _ same => same
  | step _ ih => exact fun state answer same => after_succ finitary _ call state answer (ih state answer same)

theorem after_approaches (finitary : Finitary round) (call : ι) :
    Approaches (fun rounds => after round rounds call) (forever round call) := by
  refine ⟨fun few => after_le finitary few call, fun rounds state answer same => ?_,
    fun _ _ same => ⟨_, same⟩⟩
  have answered := Classical.epsilon_spec
    (p := fun rounds => (after round rounds call state).isSome = true) ⟨rounds, by simp [same]⟩
  obtain ⟨other, chosen⟩ := Option.isSome_iff_exists.mp answered
  have agree : some answer = some other := by
    rw [← after_le finitary (Nat.le_max_left rounds _) call state answer same]
    exact after_le finitary (Nat.le_max_right rounds _) call state other chosen
  rw [agree]
  exact chosen

/-- The recursion meets its equation. -/
theorem forever_eq (finitary : Finitary round) : forever round = round (forever round) := by
  funext call
  have whole := after_approaches finitary call
  have later : Approaches (fun rounds => after round (rounds + 1) call) (forever round call) := by
    refine ⟨fun few => whole.increasing (Nat.succ_le_succ few), fun rounds => whole.bounded _,
      fun state answer same => ?_⟩
    obtain ⟨rounds, reached⟩ := whole.reached state answer same
    exact ⟨rounds, after_succ finitary rounds call state answer reached⟩
  exact approaches_unique later (finitary (after_approaches finitary) call)

end Routines

end Scriptlet.Unguarded
