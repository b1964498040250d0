/-! # Logical cores

An lcore is a polling thread tied to one processor. A thread knows the lcore it runs on, if any,
and whether it drives the application.
-/
namespace Dataplane

structure Lcore where
  number : Nat
  deriving DecidableEq, Repr

namespace Lcore

def text (l : Lcore) : String := s!"lcore{l.number}"

/-- The lcore that drives the application. -/
def main : Lcore := ⟨0⟩

/-- The number given to callers for a thread that is no lcore. -/
def anyNumber : Nat := 4294967295

end Lcore

/-- The processors that lcores can be tied to. -/
structure Topology where
  processors : Nat
  deriving DecidableEq, Repr

namespace Topology

def lcore? (t : Topology) (number : Nat) : Option Lcore :=
  if number < t.processors then some ⟨number⟩ else none

def workers (t : Topology) : List Lcore := ((List.range t.processors).drop 1).map Lcore.mk

/-- The lcores of `n` workers. Those that find no lcore of their own share the main one. -/
def pick (t : Topology) (n : Nat) : List Lcore :=
  let own := t.workers.take n
  own ++ List.replicate (n - own.length) Lcore.main

end Topology

/-- What a thread knows of itself. -/
structure Thread where
  lcore : Option Lcore := none
  isMain : Bool := false
  deriving DecidableEq, Repr

namespace Thread

def becomeMain (_ : Thread) : Thread := ⟨some Lcore.main, true⟩

def onLcore (t : Thread) (l : Lcore) : Thread := { t with lcore := some l }

/-- The memory node of the thread's lcore under `node`. A thread that is no lcore is on node 0. -/
def node (t : Thread) (node : Lcore → Nat) : Nat := (t.lcore.map node).getD 0

end Thread
end Dataplane
