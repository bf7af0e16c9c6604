import Scriptlet.Scope

/-! What scopes bind. A definition binds one name more and an assignment binds none, so the scopes
around a running statement bind the same names before and after it. -/
namespace Scriptlet

namespace Scope

theorem lookup_insert_self (name : ByteString) (value : Value) (bindings : List (ByteString × Value)) :
    (insert name value bindings).lookup name = some value := by
  induction bindings with
  | nil => simp [insert]
  | cons binding rest ih =>
    obtain ⟨other, held⟩ := binding
    by_cases same : name = other
    · simp [insert, same]
    · by_cases earlier : name.precedes other = true
      · simp [insert, same, earlier]
      · have missed : (name == other) = false := by simpa using same
        simp [insert, same, earlier, List.lookup_cons, missed, ih]

theorem lookup_insert_other {name sought : ByteString} (value : Value)
    (bindings : List (ByteString × Value)) (differs : sought ≠ name) :
    (insert name value bindings).lookup sought = bindings.lookup sought := by
  have missed : (sought == name) = false := by simpa using differs
  induction bindings with
  | nil => simp [insert, List.lookup_cons, missed]
  | cons binding rest ih =>
    obtain ⟨other, held⟩ := binding
    by_cases same : name = other
    · subst same
      simp [insert, List.lookup_cons, missed]
    · by_cases earlier : name.precedes other = true
      · simp [insert, same, earlier, List.lookup_cons, missed]
      · simp [insert, same, earlier, List.lookup_cons, ih]

theorem get?_set (scope : Scope) (name sought : ByteString) (value : Value) :
    (scope.set name value).get? sought = if sought = name then some value else scope.get? sought := by
  by_cases same : sought = name
  · subst same
    simpa [get?, set] using lookup_insert_self sought value scope.bindings
  · simpa [get?, set, same] using lookup_insert_other value scope.bindings same

theorem binds_set (scope : Scope) (name sought : ByteString) (value : Value) :
    (scope.set name value).binds sought = (decide (sought = name) || scope.binds sought) := by
  unfold binds
  rw [get?_set]
  by_cases same : sought = name <;> simp [same]

theorem binds_iff_mem_names (scope : Scope) (name : ByteString) :
    scope.binds name = scope.names.contains name := by
  show (scope.bindings.lookup name).isSome = (scope.bindings.map (·.1)).contains name
  generalize scope.bindings = bindings
  induction bindings with
  | nil => rfl
  | cons binding rest ih =>
    rw [List.lookup_cons, List.map_cons, List.contains_cons, ← ih]
    cases name == binding.1 <;> rfl

theorem binds_set_of_bound {scope : Scope} {name : ByteString} (value : Value)
    (bound : scope.binds name = true) : (scope.set name value).binds = scope.binds := by
  funext sought
  rw [binds_set]
  by_cases same : sought = name
  · subst same
    simp [bound]
  · simp [same]

end Scope

namespace Environment

def binds (environment : Environment) (name : ByteString) : Bool :=
  environment.scopes.any (·.binds name)

def outline (environment : Environment) : List (ByteString → Bool) :=
  environment.scopes.map Scope.binds

theorem lookup?_isSome (environment : Environment) (name : ByteString) :
    (environment.lookup? name).isSome = environment.binds name := by
  unfold lookup? binds
  induction environment.scopes with
  | nil => rfl
  | cons scope rest ih =>
    rw [List.findSome?_cons, List.any_cons, ← ih, Scope.binds]
    cases scope.get? name <;> rfl

theorem binds_eq_outline_any (environment : Environment) (name : ByteString) :
    environment.binds name = environment.outline.any (· name) := by
  simp [binds, outline, List.any_map, Function.comp_def]

theorem binds_of_outline {environment other : Environment} (same : environment.outline = other.outline)
    (name : ByteString) : environment.binds name = other.binds name := by
  rw [binds_eq_outline_any, binds_eq_outline_any, same]

theorem binds_define (environment : Environment) (name sought : ByteString) (value : Value) :
    (environment.define name value).binds sought =
      (decide (sought = name) || environment.binds sought) := by
  simp [binds, define, scopes, Scope.binds_set, Bool.or_assoc]

theorem binds_enter (environment : Environment) (name : ByteString) :
    environment.enter.binds name = environment.binds name := by
  simp [binds, enter, scopes, Scope.binds, Scope.get?, Scope.empty]

theorem assignIn_outline {name : ByteString} {value : Value} {scopes changed : List Scope}
    (assigned : assignIn name value scopes = some changed) :
    changed.map Scope.binds = scopes.map Scope.binds := by
  induction scopes generalizing changed with
  | nil => simp [assignIn] at assigned
  | cons scope rest ih =>
    -- The innermost scope that binds the name is the one that changes.
    by_cases bound : scope.binds name = true
    · simp only [assignIn, bound, if_true, Option.some.injEq] at assigned
      subst assigned
      simp [Scope.binds_set_of_bound value bound]
    · simp only [assignIn, bound, Bool.false_eq_true, if_false, Option.map_eq_some_iff] at assigned
      obtain ⟨further, deeper, rfl⟩ := assigned
      simp [ih deeper]

theorem assignIn_isSome (name : ByteString) (value : Value) (scopes : List Scope) :
    (assignIn name value scopes).isSome = scopes.any (·.binds name) := by
  induction scopes with
  | nil => rfl
  | cons scope rest ih =>
    rw [assignIn, List.any_cons, ← ih]
    cases scope.binds name <;> simp

theorem assign?_eq (environment : Environment) (name : ByteString) (value : Value) :
    (environment.assign? name value).map scopes = assignIn name value environment.scopes := by
  simp only [assign?, scopes, assignIn]
  cases environment.inner.binds name
  · simp [scopes, Function.comp_def]
  · simp [scopes, define]

/-- An assignment finds its name exactly where a lookup does. -/
theorem assign?_isSome (environment : Environment) (name : ByteString) (value : Value) :
    (environment.assign? name value).isSome = environment.binds name := by
  rw [← Option.isSome_map (f := scopes), assign?_eq, assignIn_isSome, binds]

theorem assign?_outline {environment changed : Environment} {name : ByteString} {value : Value}
    (assigned : environment.assign? name value = some changed) :
    changed.outline = environment.outline := by
  have inScopes := assign?_eq environment name value
  rw [assigned] at inScopes
  exact assignIn_outline inScopes.symm

end Environment

end Scriptlet
