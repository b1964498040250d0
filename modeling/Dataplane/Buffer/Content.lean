import Dataplane.Buffer.Basic

/-! # Reading, writing and copying buffers

Bytes of a slot are written only through the one handle that holds it. A handle that shares its slot
is refused, or is first replaced by a private copy.
-/
namespace Dataplane
namespace Store

/-- The bytes `start … start + length` of the window, all of which must be there. -/
def read? (s : Store) (b : Buffer) (start length : Nat) : Option (List UInt8) :=
  let data := s.data b
  if start + length ≤ data.length then some ((data.drop start).take length) else none

def clone (s : Store) (b : Buffer) : Buffer × Store := (b, s.update b.pool (·.retain b.slot))

/-- A handle to a slot of its own with the same window and bytes. -/
def duplicate (s : Store) (b : Buffer) : Except Fault (Buffer × Store) := do
  let (copy, s') ← s.alloc b.pool
  let copy := { copy with window := b.window }
  return (copy, s'.write copy 0 (s'.data b))

def writable (s : Store) (b : Buffer) : Except Fault Unit :=
  if s.isShared b then .error .shared else .ok ()

/-- The handle itself if no other shares its slot, else a copy that takes its place. -/
def unshare (s : Store) (b : Buffer) : Except Fault (Buffer × Store) :=
  if s.isShared b then do
    let (copy, s) ← s.duplicate b
    return (copy, s.drop b)
  else .ok (b, s)

def extend (s : Store) (b : Buffer) (bytes : List UInt8) : Except Fault (Buffer × Store) := do
  s.writable b
  let grown ← b.append s bytes.length
  return (grown, s.write grown b.window.size bytes)

def prependBytes (s : Store) (b : Buffer) (bytes : List UInt8) :
    Except Fault (Buffer × Store) := do
  s.writable b
  let grown ← b.prepend bytes.length
  return (grown, s.write grown 0 bytes)

end Store
end Dataplane
