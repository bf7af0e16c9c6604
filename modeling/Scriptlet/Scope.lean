import Scriptlet.Value.Basic

/-! Scopes bind names to values; an environment is a chain of scopes, the innermost first. -/
namespace Scriptlet

/-- Bindings in the order of their names, each name once. -/
structure Scope where
  bindings : List (ByteString × Value)
  ordered : bindings.Pairwise fun first second => first.1.precedes second.1 = true

namespace Scope

def empty : Scope := ⟨[], .nil⟩

def get? (scope : Scope) (name : ByteString) : Option Value :=
  scope.bindings.lookup name

def binds (scope : Scope) (name : ByteString) : Bool :=
  (scope.get? name).isSome

def insert (name : ByteString) (value : Value) : List (ByteString × Value) → List (ByteString × Value)
  | [] => [(name, value)]
  | (other, held) :: rest =>
    if name = other then (name, value) :: rest
    else if name.precedes other then (name, value) :: (other, held) :: rest
    else (other, held) :: insert name value rest

theorem mem_insert {name : ByteString} {value : Value} {bindings : List (ByteString × Value)}
    {binding : ByteString × Value} (member : binding ∈ insert name value bindings) :
    binding = (name, value) ∨ binding ∈ bindings := by
  fun_induction insert name value bindings <;> grind

theorem insert_ordered (name : ByteString) (value : Value) {bindings : List (ByteString × Value)}
    (ordered : bindings.Pairwise fun first second => first.1.precedes second.1 = true) :
    (insert name value bindings).Pairwise fun first second => first.1.precedes second.1 = true := by
  induction bindings with
  | nil => exact List.pairwise_singleton _ _
  | cons binding rest ih =>
    obtain ⟨other, held⟩ := binding
    obtain ⟨first, further⟩ := List.pairwise_cons.mp ordered
    rw [insert]
    by_cases same : name = other
    · rw [if_pos same]
      exact List.pairwise_cons.mpr ⟨same ▸ first, further⟩
    rw [if_neg same]
    by_cases before : name.precedes other = true
    · rw [if_pos before]
      refine List.pairwise_cons.mpr ⟨?_, ordered⟩
      intro later member
      rcases List.mem_cons.mp member with rfl | member
      · exact before
      · exact ByteString.precedes_trans before (first later member)
    · rw [if_neg before]
      refine List.pairwise_cons.mpr ⟨?_, ih further⟩
      intro later member
      rcases mem_insert member with rfl | member
      · exact ByteString.precedes_of_not same before
      · exact first later member

def set (scope : Scope) (name : ByteString) (value : Value) : Scope :=
  ⟨insert name value scope.bindings, insert_ordered name value scope.ordered⟩

def names (scope : Scope) : List ByteString :=
  scope.bindings.map (·.1)

def ofList (bindings : List (ByteString × Value)) : Scope :=
  bindings.foldl (fun scope binding => scope.set binding.1 binding.2) empty

end Scope

structure Environment where
  inner : Scope
  outer : List Scope

namespace Environment

def global (scope : Scope) : Environment := ⟨scope, []⟩

def scopes (environment : Environment) : List Scope :=
  environment.inner :: environment.outer

def enter (environment : Environment) : Environment :=
  ⟨.empty, environment.scopes⟩

/-- Leaves the innermost scope; the outermost is never left. -/
def leave (environment : Environment) : Environment :=
  match environment.outer with
  | [] => environment
  | scope :: rest => ⟨scope, rest⟩

def lookup? (environment : Environment) (name : ByteString) : Option Value :=
  environment.scopes.findSome? (·.get? name)

def define (environment : Environment) (name : ByteString) (value : Value) : Environment :=
  { environment with inner := environment.inner.set name value }

def assignIn (name : ByteString) (value : Value) : List Scope → Option (List Scope)
  | [] => none
  | scope :: rest =>
    if scope.binds name then some (scope.set name value :: rest)
    else (assignIn name value rest).map (scope :: ·)

def assign? (environment : Environment) (name : ByteString) (value : Value) : Option Environment :=
  if environment.inner.binds name then some (environment.define name value)
  else (assignIn name value environment.outer).map fun outer => { environment with outer }

end Environment

end Scriptlet
