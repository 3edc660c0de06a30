import PromiseDetection.Code.Binding
import PromiseDetection.Text.Span

/-!
Candidates: the definitions and calls that may produce a promise and have a name to report.
-/

namespace PromiseDetection

inductive CandidateSort where
  | function
  | call
  deriving DecidableEq, Repr

structure Candidate where
  kind : CandidateSort
  node : Nat
  name : Nat
  deriving DecidableEq, Repr

namespace Tree

def candidate? (tree : Tree) (position : Nat) : Option Candidate :=
  if tree.kind position = .callExpression then
    (tree.nameOfCall? position).map fun name => { kind := .call, node := position, name }
  else if tree.isFunction position then
    (tree.nameOfFunction? position).map fun name => { kind := .function, node := position, name }
  else none

def span (tree : Tree) (position : Nat) : Span where
  start := tree.start position
  stop := tree.stop position

end Tree

end PromiseDetection
