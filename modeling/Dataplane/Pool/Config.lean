import Dataplane.Fault

/-! # Pool configurations

What a pool of buffers is made of, and the check that every pool has passed. The first violated
condition in the order of the check is the one reported.
-/
namespace Dataplane

def defaultHeadroom : Nat := 128

def defaultDataRoom : Nat := 2048

def maxCacheSize : Nat := 512

def maxBuffers : Nat := 4294967295

/-- The largest sum of headroom and data room. -/
def maxBufferLength : Nat := 65535

structure PoolConfig where
  buffers : Nat := 8191
  cacheSize : Nat := 250
  dataRoom : UInt16 := 2048
  headroom : UInt16 := 128
  socket : Nat := 0
  deriving DecidableEq, Repr

namespace PoolConfig

/-- Length of a buffer, headroom included. -/
def bufferLength (c : PoolConfig) : Nat := c.headroom.toNat + c.dataRoom.toNat

def validate (c : PoolConfig) : Except Fault Unit :=
  if c.buffers = 0 ∨ c.buffers > maxBuffers then
    .error (.config s!"invalid buffer count {c.buffers}")
  else if c.dataRoom = 0 then .error (.config "data room must not be empty")
  else if c.bufferLength > maxBufferLength then
    .error (.config
      s!"headroom {c.headroom} + data room {c.dataRoom} exceeds {maxBufferLength}")
  else if c.cacheSize > maxCacheSize ∨ c.cacheSize > c.buffers then
    .error (.config s!"invalid cache size {c.cacheSize}")
  else .ok ()

end PoolConfig
end Dataplane
