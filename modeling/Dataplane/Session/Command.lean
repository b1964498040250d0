import Dataplane.Fault
import Dataplane.Frame.Mac
import Dataplane.Pool.Config
import Dataplane.Port.Basic

/-! # Commands

What a session can be told to do. Registers are named by text, ports by the numbers that callers
outside use.
-/
namespace Dataplane

inductive PoolCommand
  | create (p name : String) (config : PoolConfig) (hasMemory : Bool)
  | info (p : String)
  | debug (p : String)
  | clone (p target : String)
  | drop (p : String)
  | alloc (p m : String)
  | allocBulk (p v : String) (n : Nat)
  | allocExact (p v : String) (n : Nat)
  | allocInto (p v : String) (n : Nat)
  | freeBulk (v : String)
  | drill (p : String) (threads iterations batch : Nat)
  deriving Repr

inductive CacheCommand
  | create (p c : String)
  | info (c : String)
  | alloc (c m : String)
  | allocBulk (c v : String) (n : Nat)
  | free (c m : String)
  | freeAll (c v : String)
  | flush (c : String)
  | drop (c : String)
  deriving Repr

inductive BufferCommand
  | info (m : String)
  | debug (m : String)
  | pool (m : String)
  | prepend (m : String) (n : Nat)
  | append (m : String) (n : Nat)
  | adj (m : String) (n : Nat)
  | trim (m : String) (n : Nat)
  | reset (m : String)
  | resetHeadroom (m : String)
  | data (m : String)
  | read (m : String) (start length : Nat)
  | write (m : String) (start : Nat) (bytes : List UInt8)
  /-- Writes into a private copy if the slot is shared. -/
  | writeCopy (m : String) (start : Nat) (bytes : List UInt8)
  | extend (m : String) (bytes : List UInt8)
  | prependBytes (m : String) (bytes : List UInt8)
  | clone (m target : String)
  | duplicate (m target : String)
  | free (m : String)
  | push (v m : String)
  | take (v : String) (i : Nat) (m : String)
  | list (v : String)
  /-- Fills a batch with frames of given lengths. -/
  | craft (p v : String) (lengths : List Nat) (start : List UInt8) (tag : Nat)
  deriving Repr

inductive PortCommand
  | renew
  | pair (a b : String) (first second : Vector UInt8 6)
  | loopback (name : String) (octets : Vector UInt8 6)
  /-- One port for each address that is drawn. -/
  | loopbacks (name : String) (draws : List (Vector UInt8 6))
  | identify (port : Nat)
  | find (name : String)
  | countOpen
  | numbers
  | registryDebug
  | debug (port : Nat)
  | info (port : Nat)
  | configure (port rx tx : Nat) (config : PortConfig)
  | setupRx (port queue descriptors : Nat)
  | setupTx (port queue descriptors : Nat)
  | start (port : Nat)
  | stop (port : Nat)
  | close (port : Nat)
  | setLink (port : Nat) (up : Bool)
  | pauseRx (port queue : Nat) (paused : Bool)
  | pauseTx (port queue : Nat) (paused : Bool)
  | setMac (port : Nat) (mac : Mac)
  | mac (port : Nat)
  | macKind (port : Nat)
  | setMtu (port mtu : Nat)
  | setPromiscuous (port : Nat) (on : Bool)
  | stats (port : Nat)
  | resetStats (port : Nat)
  | forwardingMac (port : Nat)
  deriving Repr

inductive QueueCommand
  | takeRx (port queue : Nat) (h : String)
  | takeTx (port queue : Nat) (h : String)
  | putRx (h : String) (port : Option Nat)
  | putTx (h : String) (port : Option Nat)
  | pending (h : String)
  | freeSlots (h : String)
  | receive (h v : String) (max : Nat)
  | send (h v : String)
  | retry (h v : String) (attempts : Nat)
  | generate (p h : String) (frame : List UInt8) (goal : Nat) (stopped : Bool)
  deriving Repr

inductive Command
  | pool (c : PoolCommand)
  | cache (c : CacheCommand)
  | buffer (c : BufferCommand)
  | port (c : PortCommand)
  | queue (c : QueueCommand)
  deriving Repr

end Dataplane
