import Dataplane.Demo.Rig
import Dataplane.Proofs.Pool.Allocation

/-! # Settings that a demo can run with

A demo is set up from the numbers it was told, if its host has the memory. The first thing that is
wrong is the reason why it is not set up.
-/
namespace Dataplane
namespace Invocation

def queues : Invocation → Nat
  | forward _ _ => 1
  | meter _ queues _ => queues

structure Sound (i : Invocation) : Prop where
  some_queues : 1 ≤ i.queues
  buffers : 1 ≤ i.settings.buffers ∧ i.settings.buffers ≤ 2 ^ 32 - 1
  cacheSize : i.settings.cacheSize ≤ min 512 i.settings.buffers
  descriptors : 1 ≤ i.settings.descriptors ∧ i.settings.descriptors ≤ 16384
  few_queues : i.queues ≤ 64
  payload : i.settings.payload ≤ 65507

/-- What is wrong with an invocation on a host. Of several things it is the first in this order. -/
def flaw? (host : DemoHost) (i : Invocation) : Option DemoFault :=
  let s := i.settings
  if ¬1 ≤ i.queues then some .noQueues
  else if ¬(1 ≤ s.buffers ∧ s.buffers ≤ 2 ^ 32 - 1) then
    some (.library (.config s!"invalid buffer count {s.buffers}"))
  else if ¬s.cacheSize ≤ min 512 s.buffers then
    some (.library (.config s!"invalid cache size {s.cacheSize}"))
  else if ¬host.hasMemory = true then some (.library (.exhausted .pool))
  else if ¬(1 ≤ s.descriptors ∧ s.descriptors ≤ 16384) then
    some (.library (.config s!"descriptor count {s.descriptors} not in 1..={maxDescriptors}"))
  else if ¬i.queues ≤ 64 then
    some (.library (.config s!"queue counts {i.queues}/{i.queues} not in 1..={maxQueues}"))
  else if ¬s.payload ≤ 65507 then some (.frame ⟨8 + s.payload⟩)
  else none

theorem refuse_eq_none {c : Prop} [Decidable c] {e : DemoFault} {rest : Option DemoFault} :
    (if ¬c then some e else rest) = none ↔ c ∧ rest = none := by
  by_cases hc : c <;> simp [hc]

theorem flaw?_eq_none_iff (host : DemoHost) (i : Invocation) :
    i.flaw? host = none ↔ i.Sound ∧ host.hasMemory = true := by
  simp only [flaw?, refuse_eq_none, and_true]
  constructor
  · rintro ⟨hsome, hbuffers, hcache, hmemory, hdescriptors, hfew, hpayload⟩
    exact ⟨⟨hsome, hbuffers, hcache, hdescriptors, hfew, hpayload⟩, hmemory⟩
  · rintro ⟨⟨hsome, hbuffers, hcache, hdescriptors, hfew, hpayload⟩, hmemory⟩
    exact ⟨hsome, hbuffers, hcache, hmemory, hdescriptors, hfew, hpayload⟩

end Invocation

/-! ## The pool -/

namespace DemoSettings

def poolConfig (s : DemoSettings) : PoolConfig := { buffers := s.buffers, cacheSize := s.cacheSize }

@[simp] theorem dataRoom_poolConfig (s : DemoSettings) : s.poolConfig.dataRoom = 2048 := rfl

@[simp] theorem bufferLength_poolConfig (s : DemoSettings) :
    s.poolConfig.bufferLength = 2176 := by
  change (128 : UInt16).toNat + (2048 : UInt16).toNat = 2176
  simp

def freshPool (s : DemoSettings) : Pool :=
  ⟨"demo", s.poolConfig, Array.replicate s.buffers ⟨0, List.replicate s.poolConfig.bufferLength 0⟩,
    .ofList (List.range s.buffers)⟩

end DemoSettings

namespace Rig

variable {host : DemoHost} {s : DemoSettings}

/-- The pool of a demo is the first one of its store. -/
theorem openPool_eq : openPool host s =
    ((Pool.create "demo" s.poolConfig host.hasMemory).map fun p => (0, ⟨#[p]⟩)).mapError
      .library := by
  rw [openPool, ← DemoSettings.poolConfig, Store.create]
  cases Pool.create "demo" s.poolConfig host.hasMemory <;> rfl

theorem openPool_of_validate {e : Fault} (h : s.poolConfig.validate = .error e) :
    openPool host s = .error (.library e) := by
  rw [openPool_eq, Pool.create, h]
  rfl

theorem openPool_of_buffers (h : ¬(1 ≤ s.buffers ∧ s.buffers ≤ 2 ^ 32 - 1)) :
    openPool host s = .error (.library (.config s!"invalid buffer count {s.buffers}")) := by
  apply openPool_of_validate
  rw [PoolConfig.validate, if_pos]
  · rfl
  · simp only [DemoSettings.poolConfig, maxBuffers]
    omega

theorem openPool_of_cacheSize (hbuffers : 1 ≤ s.buffers ∧ s.buffers ≤ 2 ^ 32 - 1)
    (h : ¬s.cacheSize ≤ min 512 s.buffers) :
    openPool host s = .error (.library (.config s!"invalid cache size {s.cacheSize}")) := by
  apply openPool_of_validate
  rw [PoolConfig.validate, if_neg, if_neg (by simp), if_neg (by simp [maxBufferLength]), if_pos]
  · rfl
  · simp only [DemoSettings.poolConfig, maxCacheSize]
    omega
  · simp only [DemoSettings.poolConfig, maxBuffers]
    omega

theorem valid_poolConfig (hbuffers : 1 ≤ s.buffers ∧ s.buffers ≤ 2 ^ 32 - 1)
    (hcache : s.cacheSize ≤ min 512 s.buffers) : s.poolConfig.Valid where
  buffers_pos := hbuffers.1
  buffers_le := hbuffers.2
  dataRoom_pos := by
    rw [s.dataRoom_poolConfig]
    decide
  length_le := by
    rw [s.bufferLength_poolConfig]
    decide
  cache_le := hcache.trans (Nat.min_le_left _ _)
  cache_le_buffers := hcache.trans (Nat.min_le_right _ _)

theorem openPool_of_memory (hbuffers : 1 ≤ s.buffers ∧ s.buffers ≤ 2 ^ 32 - 1)
    (hcache : s.cacheSize ≤ min 512 s.buffers) (h : ¬host.hasMemory = true) :
    openPool host s = .error (.library (.exhausted .pool)) := by
  rw [openPool_eq, Pool.create_of_valid "demo" (valid_poolConfig hbuffers hcache), if_neg h]
  rfl

/-- The slots of so many buffers fit into what can be addressed. -/
theorem openPool_ok (hbuffers : 1 ≤ s.buffers ∧ s.buffers ≤ 2 ^ 32 - 1)
    (hcache : s.cacheSize ≤ min 512 s.buffers) (hmemory : host.hasMemory = true) :
    openPool host s = .ok (0, ⟨#[s.freshPool]⟩) := by
  rw [openPool_eq, Pool.create_of_valid "demo" (valid_poolConfig hbuffers hcache),
    if_pos hmemory]
  rfl

/-! ## Ranges of numbers -/

theorem checkDescriptors_ok {d : Nat} (h : 1 ≤ d ∧ d ≤ 16384) : checkDescriptors d = .ok () :=
  if_neg (by simp only [maxDescriptors]; omega)

theorem checkDescriptors_error {d : Nat} (h : ¬(1 ≤ d ∧ d ≤ 16384)) :
    checkDescriptors d = .error (.config s!"descriptor count {d} not in 1..={maxDescriptors}") :=
  if_pos (by simp only [maxDescriptors]; omega)

theorem checkQueueCounts_ok {n : Nat} (hsome : 1 ≤ n) (hfew : n ≤ 64) :
    checkQueueCounts n n = .ok () :=
  if_neg (by simp only [maxQueues]; omega)

theorem checkQueueCounts_error {n : Nat} (h : ¬n ≤ 64) :
    checkQueueCounts n n = .error (.config s!"queue counts {n}/{n} not in 1..={maxQueues}") :=
  if_pos (by simp only [maxQueues]; omega)

theorem makeFrame_error {payload : Nat} (f : Fabric) (h : ¬payload ≤ 65507) :
    makeFrame f payload = .error (.frame ⟨8 + payload⟩) := by
  rw [makeFrame, Frame.udp, if_pos]
  simp only [Frame.maxDatagram]
  omega

/-- An Ethernet, an IPv4 and a UDP header stand before the payload. -/
theorem makeFrame_ok {payload : Nat} (f : Fabric) (h : payload ≤ 65507) :
    ∃ frame, makeFrame f payload = .ok frame ∧ frame.length = 42 + payload := by
  rw [makeFrame, Frame.udp, if_neg]
  · exact ⟨_, rfl, by
      simp [Frame.etherHeader, Frame.ipv4Header, Frame.udpHeader, Frame.octets16, Frame.sender,
        Frame.receiver]
      omega⟩
  · simp only [Frame.maxDatagram]
    omega

end Rig
end Dataplane
