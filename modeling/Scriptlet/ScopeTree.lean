import Scriptlet.RuntimeError
import Scriptlet.Scope

/-! Scopes that share their outer scopes: a tree in which every scope but the first has an older one
around it. -/
namespace Scriptlet

structure ScopeNode where
  parent : Option Nat
  scope : Scope

structure ScopeTree where
  nodes : List ScopeNode

namespace ScopeTree

def global : ScopeTree := ⟨[⟨none, .empty⟩]⟩

/-- A new scope inside the given one. Its number is the count of the scopes before it. -/
def child (tree : ScopeTree) (parent : Nat) : ScopeTree :=
  ⟨tree.nodes ++ [⟨some parent, .empty⟩]⟩

def scope (tree : ScopeTree) (id : Nat) : Scope :=
  (tree.nodes[id]?.map (·.scope)).getD .empty

def path (tree : ScopeTree) (id : Nat) : List Nat :=
  match tree.nodes[id]? with
  | some ⟨some parent, _⟩ => if parent < id then id :: path tree parent else [id]
  | _ => [id]

def resolve? (tree : ScopeTree) (id : Nat) (name : ByteString) : Option Nat :=
  (tree.path id).find? fun around => (tree.scope around).binds name

def lookup? (tree : ScopeTree) (id : Nat) (name : ByteString) : Option Value :=
  (tree.resolve? id name).bind fun holder => (tree.scope holder).get? name

def define (tree : ScopeTree) (id : Nat) (name : ByteString) (value : Value) : ScopeTree :=
  ⟨tree.nodes.modify id fun node => { node with scope := node.scope.set name value }⟩

def assign? (tree : ScopeTree) (id : Nat) (name : ByteString) (value : Value) : Option ScopeTree :=
  (tree.resolve? id name).map fun holder => tree.define holder name value

/-- An assignment as a program makes it: a name that no scope binds is an error at the name. -/
def assign (id : Nat) (name : Token) (value : Value) : EStateM RuntimeError ScopeTree Unit := fun tree =>
  match tree.assign? id name.lexeme value with
  | some changed => .ok () changed
  | none => .error (.undefined name) tree

end ScopeTree

end Scriptlet
