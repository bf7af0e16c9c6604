/-! Computations that pass a state on and may fail: what one after another does, by what the first one
does. Readers, evaluations and runs are all of this form. -/
namespace Scriptlet

variable {ε σ α β : Type} {start finish : σ}

theorem pure_run (value : α) (start : σ) : (pure value : EStateM ε σ α) start = .ok value start :=
  rfl

theorem bind_run (first : EStateM ε σ α) (next : α → EStateM ε σ β) (start : σ) :
    (first >>= next) start = match first start with
      | .ok value middle => next value middle
      | .error error middle => .error error middle := by
  show EStateM.bind first next start = _
  unfold EStateM.bind
  cases first start <;> rfl

theorem bind_of_ok {first : EStateM ε σ α} {value : α} (next : α → EStateM ε σ β)
    (succeeds : first start = .ok value finish) : (first >>= next) start = next value finish := by
  rw [bind_run, succeeds]

theorem bind_of_error {first : EStateM ε σ α} {error : ε} (next : α → EStateM ε σ β)
    (fails : first start = .error error finish) : (first >>= next) start = .error error finish := by
  rw [bind_run, fails]

theorem bind_eq_ok {first : EStateM ε σ α} {next : α → EStateM ε σ β} {result : β} :
    (first >>= next) start = .ok result finish ↔
      ∃ value middle, first start = .ok value middle ∧ next value middle = .ok result finish := by
  rw [bind_run]
  cases outcome : first start with
  | ok value middle =>
    constructor
    · intro follows
      exact ⟨value, middle, rfl, follows⟩
    · rintro ⟨_, _, same, follows⟩
      cases same
      exact follows
  | error error middle => simp

/-! One computation on its own, from where it starts to where it comes. -/

section Leading

/-- What holds between the two states if the computation succeeds, and what if it fails. -/
def Leads (succeeds fails : σ → σ → Prop) (computation : EStateM ε σ α) : Prop :=
  ∀ start, match computation start with
    | .ok _ finish => succeeds start finish
    | .error _ finish => fails start finish

theorem leads_mono {computation : EStateM ε σ α} {succeeds fails goesOn stops : σ → σ → Prop}
    (leads : Leads succeeds fails computation)
    (success : ∀ start finish, succeeds start finish → goesOn start finish)
    (failure : ∀ start finish, fails start finish → stops start finish) :
    Leads goesOn stops computation := by
  intro start
  have held := leads start
  cases outcome : computation start with
  | ok value finish =>
    rw [outcome] at held
    exact success start finish held
  | error error finish =>
    rw [outcome] at held
    exact failure start finish held

theorem leads_bind {first : EStateM ε σ α} {next : α → EStateM ε σ β}
    {succeeds goesOn early late ends fails : σ → σ → Prop}
    (leads : Leads succeeds early first) (further : ∀ value, Leads goesOn late (next value))
    (join : ∀ start middle finish, succeeds start middle → goesOn middle finish → ends start finish)
    (failEarly : ∀ start finish, early start finish → fails start finish)
    (failLate : ∀ start middle finish, succeeds start middle → late middle finish → fails start finish) :
    Leads ends fails (first >>= next) := by
  intro start
  have ofFirst := leads start
  rw [bind_run]
  cases outcome : first start with
  | error error middle =>
    rw [outcome] at ofFirst
    exact failEarly start middle ofFirst
  | ok value middle =>
    rw [outcome] at ofFirst
    have ofNext := further value middle
    dsimp only
    cases final : next value middle with
    | error error finish =>
      rw [final] at ofNext
      exact failLate start middle finish ofFirst ofNext
    | ok result finish =>
      rw [final] at ofNext
      exact join start middle finish ofFirst ofNext

/-- What holds step by step, whether the steps succeed or fail, holds from the first to the last. -/
theorem leads_seq {first : EStateM ε σ α} {next : α → EStateM ε σ β} {related : σ → σ → Prop}
    (trans : ∀ start middle finish, related start middle → related middle finish → related start finish)
    (leads : Leads related related first) (further : ∀ value, Leads related related (next value)) :
    Leads related related (first >>= next) :=
  leads_bind leads further trans (fun _ _ fails => fails) trans

end Leading

/-! Two computations side by side, from states that correspond. -/

section Following

variable {errors : ε → ε → Prop} {states : σ → σ → Prop}

inductive Alike (errors : ε → ε → Prop) (states : σ → σ → Prop) :
    EStateM.Result ε σ α → EStateM.Result ε σ α → Prop
  | ok {value : α} {after other : σ} (related : states after other) :
      Alike errors states (.ok value after) (.ok value other)
  | error {error second : ε} {after other : σ} (fails : errors error second)
      (related : states after other) : Alike errors states (.error error after) (.error second other)

/-- From corresponding states the two come out alike. -/
def Follows (errors : ε → ε → Prop) (states : σ → σ → Prop) (first second : EStateM ε σ α) : Prop :=
  ∀ start other, states start other → Alike errors states (first start) (second other)

theorem follows_pure (value : α) : Follows errors states (pure value) (pure value) :=
  fun _ _ related => .ok related

theorem follows_bind {first second : EStateM ε σ α} {next nextToo : α → EStateM ε σ β}
    (leads : Follows errors states first second)
    (further : ∀ value, Follows errors states (next value) (nextToo value)) :
    Follows errors states (first >>= next) (second >>= nextToo) := by
  intro start other related
  have alike := leads start other related
  rw [bind_run, bind_run]
  generalize first start = outcome at alike
  generalize second other = outcomeToo at alike
  cases alike with
  | ok after => exact further _ _ _ after
  | error fails after => exact .error fails after

theorem follows_throw {error second : ε} (fails : errors error second) :
    Follows errors states (throw error : EStateM ε σ α) (throw second) :=
  fun _ _ related => .error fails related

theorem follows_modify {change changeToo : σ → σ}
    (keeps : ∀ start other, states start other → states (change start) (changeToo other)) :
    Follows errors states (modify change : EStateM ε σ PUnit) (modify changeToo) :=
  fun start other related => .ok (keeps start other related)

end Following

end Scriptlet
