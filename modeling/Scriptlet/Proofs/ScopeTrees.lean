import Mathlib.Logic.Relation
import Scriptlet.Proofs.Scopes
import Scriptlet.ScopeTree

/-! What the operations on a tree of scopes change. Scopes share the scopes around them, so a binding
can be seen from many places: from each scope that comes to its holder on the way outward, with no
other binding of the name before. Everything else stays as it is. -/
namespace Scriptlet.ScopeTree

def size (tree : ScopeTree) : Nat := tree.nodes.length

def parent? (tree : ScopeTree) (id : Nat) : Option Nat :=
  tree.nodes[id]?.bind (·.parent)

def Around (tree : ScopeTree) : Nat → Nat → Prop :=
  Relation.ReflTransGen fun id parent => tree.parent? id = some parent

/-- `Clear tree name id outer`: outward from the scope one comes to `outer`, and none of the scopes
before it binds the name. -/
inductive Clear (tree : ScopeTree) (name : ByteString) : Nat → Nat → Prop
  | here {id : Nat} : Clear tree name id id
  | outward {id parent outer : Nat} (free : (tree.scope id).binds name = false)
      (around : tree.parent? id = some parent) (further : Clear tree name parent outer) :
      Clear tree name id outer

/-- The name means its binding in the holder when it is looked for from the scope. -/
def Resolves (tree : ScopeTree) (name : ByteString) (id holder : Nat) : Prop :=
  tree.Clear name id holder ∧ (tree.scope holder).binds name = true

/-! Trees that come about. -/

inductive Use
  | child
  | define (name : ByteString) (value : Value)
  | assign (name : Token) (value : Value)

def use (tree : ScopeTree) (id : Nat) : Use → ScopeTree
  | .child => tree.child id
  | .define name value => tree.define id name value
  | .assign name value =>
    match ScopeTree.assign id name value tree with
    | .ok _ after => after
    | .error _ after => after

/-- The trees that come of one scope when scopes in them are used, in any order. -/
inductive Reachable : ScopeTree → Prop
  | global : Reachable .global
  | use {tree : ScopeTree} {id : Nat} (reached : Reachable tree) (known : id < tree.size) (use : Use) :
      Reachable (tree.use id use)

def Ordered (tree : ScopeTree) : Prop :=
  ∀ id parent, tree.parent? id = some parent → parent < id

theorem parent?_child (tree : ScopeTree) (parent id : Nat) :
    (tree.child parent).parent? id = if id = tree.size then some parent else tree.parent? id := by
  unfold parent? child size
  by_cases new : id = tree.nodes.length
  · subst new
    simp
  · by_cases old : id < tree.nodes.length
    · simp [new, List.getElem?_append_left old]
    · have beyond : tree.nodes.length + 1 ≤ id := by omega
      have outside : (tree.nodes ++ [⟨some parent, .empty⟩])[id]? = none := by
        simpa using beyond
      have outsideToo : tree.nodes[id]? = none := by simpa using Nat.le_of_succ_le beyond
      simp [new, outside, outsideToo]

@[simp] theorem parent?_define (tree : ScopeTree) (id other : Nat) (name : ByteString) (value : Value) :
    (tree.define id name value).parent? other = tree.parent? other := by
  unfold parent? define
  rw [List.getElem?_modify]
  cases tree.nodes[other]? with
  | none => rfl
  | some node => by_cases same : id = other <;> simp [same]

theorem ordered_child {tree : ScopeTree} {parent : Nat} (ordered : tree.Ordered)
    (known : parent < tree.size) : (tree.child parent).Ordered := by
  intro id around inside
  rw [parent?_child] at inside
  by_cases new : id = tree.size
  · rw [if_pos new, Option.some.injEq] at inside
    omega
  · rw [if_neg new] at inside
    exact ordered id around inside

theorem ordered_define {tree : ScopeTree} (ordered : tree.Ordered) (id : Nat) (name : ByteString)
    (value : Value) : (tree.define id name value).Ordered := by
  intro other around inside
  rw [parent?_define] at inside
  exact ordered other around inside

theorem ordered_use {tree : ScopeTree} {id : Nat} (ordered : tree.Ordered) (known : id < tree.size)
    (use : Use) : (tree.use id use).Ordered := by
  cases use with
  | child => exact ordered_child ordered known
  | define name value => exact ordered_define ordered id name value
  | assign name value =>
    cases found : tree.resolve? id name.lexeme with
    | none => simpa [ScopeTree.use, ScopeTree.assign, assign?, found] using ordered
    | some holder =>
      simpa [ScopeTree.use, ScopeTree.assign, assign?, found] using ordered_define ordered holder _ value

theorem reachable_ordered {tree : ScopeTree} (reachable : tree.Reachable) : tree.Ordered := by
  induction reachable with
  | global =>
    intro id parent inside
    cases id <;> simp [parent?, global] at inside
  | use reached known use ih => exact ordered_use ih known use

/-- Induction outward: what holds of a scope if it holds of the one around it, holds of all. -/
theorem outward_induction {tree : ScopeTree} (ordered : tree.Ordered) {motive : Nat → Prop}
    (step : ∀ id, (∀ parent, tree.parent? id = some parent → motive parent) → motive id) (id : Nat) :
    motive id := by
  induction id using Nat.strongRecOn with
  | ind id ih => exact step id fun parent around => ih parent (ordered id parent around)

/-! Looking outward. -/

theorem path_eq {tree : ScopeTree} (ordered : tree.Ordered) (id : Nat) :
    tree.path id = id :: ((tree.parent? id).map tree.path).getD [] := by
  rw [path]
  split
  · next parent scope found =>
    have around : tree.parent? id = some parent := by simp [parent?, found]
    rw [if_pos (ordered id parent around), around]
    rfl
  · next outermost =>
    have none : tree.parent? id = none := by
      unfold parent?
      cases found : tree.nodes[id]? with
      | none => rfl
      | some node =>
        obtain ⟨parent, scope⟩ := node
        cases parent with
        | none => rfl
        | some parent => exact absurd found (outermost parent scope)
    rw [none]
    rfl

theorem resolve?_eq {tree : ScopeTree} (ordered : tree.Ordered) (id : Nat) (name : ByteString) :
    tree.resolve? id name = if (tree.scope id).binds name then some id
      else (tree.parent? id).bind fun parent => tree.resolve? parent name := by
  unfold resolve?
  rw [path_eq ordered, List.find?_cons]
  cases (tree.scope id).binds name with
  | true => rfl
  | false => cases tree.parent? id <;> rfl

theorem lookup?_eq {tree : ScopeTree} (ordered : tree.Ordered) (id : Nat) (name : ByteString) :
    tree.lookup? id name = if (tree.scope id).binds name then (tree.scope id).get? name
      else (tree.parent? id).bind fun parent => tree.lookup? parent name := by
  unfold lookup?
  rw [resolve?_eq ordered]
  cases (tree.scope id).binds name with
  | true => rfl
  | false => cases tree.parent? id <;> rfl

/-- A name is resolved to the first scope on the way outward that binds it. -/
theorem resolve?_eq_some {tree : ScopeTree} (ordered : tree.Ordered) {name : ByteString} {holder : Nat}
    (id : Nat) : tree.resolve? id name = some holder ↔ tree.Resolves name id holder := by
  induction id using outward_induction ordered with
  | step id ih =>
  rw [resolve?_eq ordered]
  cases bound : (tree.scope id).binds name with
  | true =>
    constructor
    · intro same
      cases same
      exact ⟨.here, bound⟩
    · rintro ⟨clear, -⟩
      cases clear with
      | here => rfl
      | outward free => simp [bound] at free
  | false =>
    simp only [Bool.false_eq_true, if_false, Option.bind_eq_some_iff]
    constructor
    · rintro ⟨parent, around, found⟩
      obtain ⟨clear, holds⟩ := (ih parent around).mp found
      exact ⟨.outward bound around clear, holds⟩
    · rintro ⟨clear, holds⟩
      cases clear with
      | here => simp [bound] at holds
      | outward _ around further => exact ⟨_, around, (ih _ around).mpr ⟨further, holds⟩⟩

theorem resolve?_eq_none {tree : ScopeTree} (ordered : tree.Ordered) {name : ByteString} (id : Nat) :
    tree.resolve? id name = none ↔
      ∀ outer, tree.Around id outer → (tree.scope outer).binds name = false := by
  induction id using outward_induction ordered with
  | step id ih =>
  rw [resolve?_eq ordered]
  cases bound : (tree.scope id).binds name with
  | true =>
    constructor
    · intro none
      cases none
    · intro free
      have unbound := free id .refl
      simp [bound] at unbound
  | false =>
    simp only [Bool.false_eq_true, if_false, Option.bind_eq_none_iff]
    constructor
    · intro none outer around
      rcases around.cases_head with rfl | ⟨parent, inside, further⟩
      · exact bound
      · exact (ih parent inside).mp (none parent inside) outer further
    · intro free parent inside
      exact (ih parent inside).mpr fun outer further => free outer (.head inside further)

/-! What a definition changes. -/

theorem scope_define (tree : ScopeTree) {id : Nat} (known : id < tree.size) (other : Nat)
    (name : ByteString) (value : Value) :
    (tree.define id name value).scope other =
      if other = id then (tree.scope other).set name value else tree.scope other := by
  unfold scope define
  rw [List.getElem?_modify]
  by_cases same : other = id
  · subst same
    have node : tree.nodes[other]? = some tree.nodes[other] := List.getElem?_eq_getElem known
    simp [node]
  · have apart : ¬ id = other := fun equal => same equal.symm
    simp [same, apart]

theorem get?_define {tree : ScopeTree} {id : Nat} (known : id < tree.size) (other : Nat)
    (name sought : ByteString) (value : Value) :
    ((tree.define id name value).scope other).get? sought =
      if other = id ∧ sought = name then some value else (tree.scope other).get? sought := by
  rw [scope_define tree known]
  by_cases same : other = id
  · simp [same, Scope.get?_set]
  · simp [same]

theorem binds_define {tree : ScopeTree} {id : Nat} (known : id < tree.size) (other : Nat)
    (name sought : ByteString) (value : Value) :
    ((tree.define id name value).scope other).binds sought =
      if other = id ∧ sought = name then true else (tree.scope other).binds sought := by
  unfold Scope.binds
  rw [get?_define known]
  split <;> rfl

theorem lookup?_define_seen {tree : ScopeTree} (ordered : tree.Ordered) {id other : Nat}
    (known : id < tree.size) {name : ByteString} (value : Value) (clear : tree.Clear name other id) :
    (tree.define id name value).lookup? other name = some value := by
  have orderedToo := ordered_define ordered id name value
  induction clear with
  | here => simp [lookup?_eq orderedToo, get?_define known, binds_define known]
  | @outward other parent id free around _ ih =>
    rw [lookup?_eq orderedToo, get?_define known, binds_define known, parent?_define, around, free]
    by_cases same : other = id
    · simp [same]
    · simpa [same] using ih known orderedToo

theorem lookup?_define_unseen {tree : ScopeTree} (ordered : tree.Ordered) {id : Nat}
    (known : id < tree.size) {name sought : ByteString} (value : Value) (other : Nat)
    (hidden : ¬ (sought = name ∧ tree.Clear name other id)) :
    (tree.define id name value).lookup? other sought = tree.lookup? other sought := by
  induction other using outward_induction ordered with
  | step other ih =>
  have elsewhere : ¬ (other = id ∧ sought = name) := by
    rintro ⟨rfl, same⟩
    exact hidden ⟨same, .here⟩
  rw [lookup?_eq (ordered_define ordered id name value), lookup?_eq ordered, get?_define known,
    binds_define known, if_neg elsewhere, if_neg elsewhere, parent?_define]
  cases bound : (tree.scope other).binds sought with
  | true => rfl
  | false =>
    cases around : tree.parent? other with
    | none => rfl
    | some parent =>
      refine ih parent around ?_
      rintro ⟨rfl, clear⟩
      exact hidden ⟨rfl, .outward bound around clear⟩

/-! What an assignment changes: it is a definition in the scope that holds the name. -/

theorem assign_of_resolves {tree : ScopeTree} (ordered : tree.Ordered) {id holder : Nat} {name : Token}
    (value : Value) (resolves : tree.Resolves name.lexeme id holder) :
    assign id name value tree = .ok () (tree.define holder name.lexeme value) := by
  simp [assign, assign?, (resolve?_eq_some ordered id).mpr resolves]

theorem assign_of_unbound {tree : ScopeTree} (ordered : tree.Ordered) {id : Nat} {name : Token}
    (value : Value)
    (unbound : ∀ outer, tree.Around id outer → (tree.scope outer).binds name.lexeme = false) :
    assign id name value tree = .error (.undefined name) tree := by
  simp [assign, assign?, (resolve?_eq_none ordered id).mpr unbound]

theorem known_of_binds {tree : ScopeTree} {id : Nat} {name : ByteString}
    (bound : (tree.scope id).binds name = true) : id < tree.size := by
  apply Nat.lt_of_not_le
  intro beyond
  have none : tree.nodes[id]? = none := by simpa [size] using beyond
  simp [scope, none, Scope.binds, Scope.get?, Scope.empty] at bound

theorem names_define {tree : ScopeTree} {holder : Nat} {name : ByteString} (value : Value)
    (bound : (tree.scope holder).binds name = true) (other : Nat) (sought : ByteString) :
    sought ∈ ((tree.define holder name value).scope other).names ↔ sought ∈ (tree.scope other).names := by
  rw [← List.contains_iff_mem, ← List.contains_iff_mem, ← Scope.binds_iff_mem_names,
    ← Scope.binds_iff_mem_names, binds_define (known_of_binds bound)]
  split
  · next here =>
    obtain ⟨rfl, rfl⟩ := here
    simp [bound]
  · rfl

/-- From the first tree to the second, a name was bound to a value, and that is seen from some scopes:
there the name means the value, and nothing else has changed anywhere. -/
structure Rebinds (before after : ScopeTree) (name : ByteString) (value : Value) (seen : Nat → Prop) :
    Prop where
  bound : ∀ other, seen other → after.lookup? other name = some value
  kept : ∀ other sought, ¬ (sought = name ∧ seen other) →
    after.lookup? other sought = before.lookup? other sought

theorem define_rebinds {tree : ScopeTree} (ordered : tree.Ordered) {id : Nat} (known : id < tree.size)
    (name : ByteString) (value : Value) :
    tree.Rebinds (tree.define id name value) name value fun other => tree.Clear name other id where
  bound := fun _ clear => lookup?_define_seen ordered known value clear
  kept := fun other _ hidden => lookup?_define_unseen ordered known value other hidden

theorem resolves_unique {tree : ScopeTree} (ordered : tree.Ordered) {name : ByteString}
    {id holder second : Nat} (first : tree.Resolves name id holder)
    (again : tree.Resolves name id second) : holder = second := by
  rw [← resolve?_eq_some ordered] at first again
  exact Option.some.inj (first.symm.trans again)

theorem assign_rebinds {tree : ScopeTree} (ordered : tree.Ordered) {id holder : Nat}
    {name : ByteString} (value : Value) (resolves : tree.Resolves name id holder) :
    tree.Rebinds (tree.define holder name value) name value fun other =>
      ∃ holder, tree.Resolves name other holder ∧ tree.Resolves name id holder := by
  obtain ⟨bound, kept⟩ := define_rebinds ordered (known_of_binds resolves.2) name value
  constructor
  · rintro other ⟨second, seen, again⟩
    rw [← resolves_unique ordered resolves again] at seen
    exact bound other seen.1
  · intro other sought hidden
    refine kept other sought ?_
    rintro ⟨same, clear⟩
    exact hidden ⟨same, holder, ⟨clear, resolves.2⟩, resolves⟩

/-- What is done at a scope of any tree that comes about changes just the bindings it should. An
assignment is seen from the scopes where the name means what it means here, and no scope binds another
name for it; it fails if no scope from here outward binds the name, and then changes nothing. A
definition is seen from the scopes that come to this one on the way outward, unless one before it
binds the name. -/
theorem operations_change_only_there {tree : ScopeTree} (reachable : tree.Reachable) {id : Nat}
    (known : id < tree.size) (name : Token) (value : Value) :
    (∀ after, assign id name value tree = .ok () after →
      (tree.Rebinds after name.lexeme value fun other =>
        ∃ holder, tree.Resolves name.lexeme other holder ∧ tree.Resolves name.lexeme id holder) ∧
      ∀ other sought, sought ∈ (after.scope other).names ↔ sought ∈ (tree.scope other).names) ∧
    ((∃ error after, assign id name value tree = .error error after) ↔
      ∀ outer, tree.Around id outer → name.lexeme ∉ (tree.scope outer).names) ∧
    (∀ error after, assign id name value tree = .error error after →
      error = .undefined name ∧ error.fault.code = "E_UNDEFINED" ∧ after = tree) ∧
    tree.Rebinds (tree.define id name.lexeme value) name.lexeme value
      fun other => tree.Clear name.lexeme other id := by
  have ordered := reachable_ordered reachable
  have unnamed (outer : Nat) : name.lexeme ∉ (tree.scope outer).names ↔
      (tree.scope outer).binds name.lexeme = false := by
    rw [Scope.binds_iff_mem_names, ← List.contains_iff_mem, Bool.not_eq_true]
  have defined := define_rebinds ordered known name.lexeme value
  simp only [unnamed]
  cases found : tree.resolve? id name.lexeme with
  | none =>
    have unbound := (resolve?_eq_none ordered id).mp found
    have fails := assign_of_unbound ordered value unbound
    refine ⟨?_, ?_, ?_, defined⟩
    · intro after succeeds
      rw [fails] at succeeds
      cases succeeds
    · exact ⟨fun _ => unbound, fun _ => ⟨_, _, fails⟩⟩
    · intro error after failed
      rw [fails] at failed
      cases failed
      exact ⟨rfl, rfl, rfl⟩
  | some holder =>
    have resolves := (resolve?_eq_some ordered id).mp found
    have succeeds := assign_of_resolves ordered value resolves
    refine ⟨?_, ?_, ?_, defined⟩
    · intro after same
      rw [succeeds] at same
      cases same
      exact ⟨assign_rebinds ordered value resolves, names_define value resolves.2⟩
    · constructor
      · rintro ⟨error, after, failed⟩
        rw [succeeds] at failed
        cases failed
      · intro unbound
        rw [(resolve?_eq_none ordered id).mpr unbound] at found
        cases found
    · intro error after failed
      rw [succeeds] at failed
      cases failed

/-- Two scopes inside the outermost one, with another inside the first of them. The second has a binding
of its own, to no value at all, so an assignment from the innermost passes it by. -/
theorem operations_change_only_there_siblings :
    let outermost := ScopeTree.global.use 0 (.define "n" (.integer 0))
    let siblings := (outermost.use 0 .child).use 0 .child
    let tree := (siblings.use 2 (.define "n" .absent)).use 1 .child
    let name : Token := ⟨.identifier, "n", "", 1⟩
    tree.Reachable ∧ 3 < tree.size ∧ ∃ after, assign 3 name (.integer 9) tree = .ok () after ∧
      after.lookup? 1 "n" = some (.integer 9) ∧ after.lookup? 2 "n" = tree.lookup? 2 "n" ∧
      (tree.define 1 "n" .nil).lookup? 3 "n" = some .nil ∧
      (tree.define 1 "n" .nil).lookup? 0 "n" = tree.lookup? 0 "n" := by
  intro outermost siblings tree name
  have reachable : tree.Reachable :=
    .use (.use (.use (.use (.use .global (by decide) _) (by decide) _) (by decide) _) (by decide) _)
      (by decide) _
  have ordered := reachable_ordered reachable
  have inner : tree.Resolves "n" 3 0 := ⟨.outward rfl rfl (.outward rfl rfl .here), rfl⟩
  have first : tree.Resolves "n" 1 0 := ⟨.outward rfl rfl .here, rfl⟩
  have second : tree.Resolves "n" 2 2 := ⟨.here, rfl⟩
  have assigned : assign 3 name (.integer 9) tree = .ok () (tree.define 0 "n" (.integer 9)) :=
    assign_of_resolves ordered _ inner
  obtain ⟨succeeds, -, -, -⟩ :=
    operations_change_only_there reachable (by decide : 3 < tree.size) name (.integer 9)
  obtain ⟨rebinds, -⟩ := succeeds _ assigned
  obtain ⟨-, -, -, defines⟩ :=
    operations_change_only_there reachable (by decide : 1 < tree.size) name .nil
  refine ⟨reachable, by decide, _, assigned, rebinds.bound 1 ⟨0, first, inner⟩, rebinds.kept 2 "n" ?_,
    defines.bound 3 (.outward rfl rfl .here), defines.kept 0 "n" ?_⟩
  · rintro ⟨-, holder, fromSecond, fromInner⟩
    have same := resolves_unique ordered inner fromInner
    have other := resolves_unique ordered second fromSecond
    omega
  · rintro ⟨-, clear⟩
    cases clear with
    | outward free => exact absurd free (by decide)

end Scriptlet.ScopeTree
