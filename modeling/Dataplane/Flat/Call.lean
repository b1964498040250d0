import Dataplane.Lock.Spin
import Dataplane.Pool.Config
import Dataplane.Port.Basic
import Dataplane.Refusal

/-! # Calls of the flat interface

The calls, and what they return. Handles are named by registers, names are octets that may be
missing, and an array is given by the text that the registers of its entries start with, or is
missing too. A call that returns results through pointers says whether it was given them. What the
host decides during a call comes with it: whether there is memory for a pool, and the octets that it
draws for an address.
-/
namespace Dataplane

inductive FlatQuery
  | init
  | lastError
  | version
  | cacheLine
  | transactions
  | lcoreCount
  | lcoreNumber
  | nodeOf (lcore : Nat)
  /-- The cycle counter or its frequency, as the machine reads it. -/
  | clock (reading : UInt64)
  /-- A busy wait, which is over when the call returns. -/
  | delay
  deriving Repr

inductive FlatLockCall
  | create (l : String)
  | free (l : String)
  | lock (l : String) (way : Way)
  | tryLock (l : String) (way : Way)
  | unlock (l : String) (way : Way)
  | isLocked (l : String)
  | createRecursive (l : String)
  | freeRecursive (l : String)
  | lockRecursive (l : String) (way : Way)
  | tryLockRecursive (l : String) (way : Way)
  | unlockRecursive (l : String) (way : Way)
  deriving Repr

inductive FlatBufferCall
  | createPool (p : String) (name : Option (List UInt8)) (buffers cacheSize : Nat)
      (dataRoom : UInt16) (socket : Int) (hasMemory : Bool)
  | freePool (p : String)
  | available (p : String)
  | inUse (p : String)
  | alloc (p m : String)
  | allocBulk (p : String) (array : Option String) (count : Nat)
  | allocPartial (p : String) (array : Option String) (count : Nat)
  | free (m : String)
  | clone (m target : String)
  | copy (m target : String)
  | data (m : String)
  | writableData (m : String)
  | prepend (m : String) (n : Nat)
  | append (m : String) (n : Nat)
  | adj (m : String) (n : Nat)
  | trim (m : String) (n : Nat)
  | reset (m : String)
  | size (m : String)
  | headroom (m : String)
  | tailroom (m : String)
  | holders (m : String)
  deriving Repr

/-- What a caller does with several calls and the memory behind the pointers they return. -/
inductive FlatUse
  /-- The four counts of a buffer. -/
  | inspect (m : String)
  /-- Whether the data of two buffers starts at the same place. -/
  | compare (m other : String)
  | peek (m : String)
  | poke (m : String) (start : Nat) (bytes : List UInt8)
  deriving Repr

inductive FlatPortCall
  | countOpen
  | createPair (a b : Option (List UInt8)) (hasOut : Bool) (first second : Vector UInt8 6)
  | createLoopback (name : Option (List UInt8)) (octets : Vector UInt8 6)
  | find (name : Option (List UInt8))
  | configure (port rx tx : Nat)
  | setupRx (port queue descriptors : Nat)
  | setupTx (port queue descriptors : Nat)
  | start (port : Nat)
  | stop (port : Nat)
  | close (port : Nat)
  | setLink (port : Nat) (up : Bool)
  | pauseRx (port queue : Nat) (paused : Bool)
  | pauseTx (port queue : Nat) (paused : Bool)
  | info (port : Nat) (hasOut : Bool)
  | socket (port : Nat)
  | mac (port : Nat) (hasOut : Bool)
  | setMac (port : Nat) (mac : Option Mac)
  | mtu (port : Nat) (hasOut : Bool)
  | setMtu (port mtu : Nat)
  | setPromiscuous (port : Nat) (on : Bool)
  | promiscuous (port : Nat)
  | link (port : Nat) (hasOut : Bool)
  | stats (port : Nat) (hasOut : Bool)
  | resetStats (port : Nat)
  deriving Repr

inductive FlatQueueCall
  | takeRx (port queue : Nat) (h : String)
  | takeTx (port queue : Nat) (h : String)
  | putRx (h : String)
  | putTx (h : String)
  | receive (h : String) (array : Option String) (count : UInt16)
  /-- The entries of the array are buffer registers or missing. -/
  | send (h : String) (array : Option (List (Option String))) (count : UInt16)
  deriving Repr

inductive FlatCall
  | query (c : FlatQuery)
  | lock (c : FlatLockCall)
  | buffer (c : FlatBufferCall)
  | use (c : FlatUse)
  | port (c : FlatPortCall)
  | queue (c : FlatQueueCall)
  deriving Repr

inductive FlatReply
  | void
  | int (n : Int32)
  | unsigned (n : Nat)
  | text (s : String)
  /-- A handle, or null. -/
  | handle (isNull : Bool)
  /-- A new pool, or null. -/
  | pool (p : Option (String × PoolConfig))
  /-- A pointer into a buffer, as the distance from the start of its data, or null. -/
  | place (distance : Option Nat)
  /-- A result, and how many entries of an array were filled. -/
  | filled (result : Int32) (entries : Nat)
  /-- The depth of a recursive lock, and whether it is taken. -/
  | depth (depth : UInt32) (isLocked : Bool)
  | ports (result : Int32) (out : Option (Nat × Nat))
  | info (result : Int32) (out : Option Port)
  | mac (result : Int32) (out : Option Mac)
  | mtu (result : Int32) (out : Nat)
  | link (result : Int32) (isUp : Bool) (speed : Nat)
  | stats (result : Int32) (out : Stats)
  | sent (n : UInt16)
  /-- A result, and how many entries of an array were filled. -/
  | received (n : UInt16) (entries : Nat)
  | counts (size headroom tailroom holders : UInt16)
  | flag (b : Bool)
  | bytes (b : Option (List UInt8))
  | written (done : Bool)
  | refused (r : Refusal)
  deriving DecidableEq, Repr

end Dataplane
