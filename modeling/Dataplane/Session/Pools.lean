import Dataplane.Pool.Bulk
import Dataplane.Pool.Drill
import Dataplane.Session.Basic
import Dataplane.Session.Command

/-! # Commands on pools and caches -/
namespace Dataplane
namespace Session

def runPool (s : Session) : PoolCommand → Step
  | .create p name config hasMemory =>
    match s.store.create name config hasMemory with
    | .error e => (.fault e, s)
    | .ok (n, store) =>
      (.ok (.pool (store.poolView n)), { s.setStore store with pools := s.pools.put p n })
  | .info p => s.withPool p fun n => (.ok (.pool (s.store.poolView n)), s)
  | .debug p => s.withPool p fun n => (.ok (.text (s.store.pool n).debug), s)
  | .clone p target => s.withPool p fun n => (.ok .done, { s with pools := s.pools.put target n })
  | .drop p => s.withPool p fun _ => (.ok .done, { s with pools := s.pools.erase p })
  | .alloc p m =>
    s.withPool p fun n =>
      match s.store.alloc n with
      | .error e => (.fault e, s)
      | .ok (b, store) => (s.setStore store).showAndKeep m b
  | .allocBulk p v n =>
    s.withPool p fun pool =>
      match s.store.allocBulk? pool n with
      | none => s.refuse .panicked
      | some (bs, store) =>
        (.ok (.batch (slotsOf bs)), (s.setStore store).keepBatch v bs)
  | .allocExact p v n =>
    s.withPool p fun pool =>
      match s.store.allocExact? pool n with
      | none => s.refuse .panicked
      | some (.error e, store) => (.fault e, s.setStore store)
      | some (.ok bs, store) =>
        (.ok (.batch (slotsOf bs)), (s.setStore store).keepBatch v bs)
  | .allocInto p v n =>
    s.withPool p fun pool =>
      let (bs, store) := s.store.allocUpTo pool n
      let all := s.batch v ++ bs
      (.ok (.grown bs.length (slotsOf all)), (s.setStore store).setBatch v all)
  | .freeBulk v => (.ok .done, s.keepBatch v [])
  | .drill p threads iterations batch =>
    s.withPool p fun n =>
      let pool := Drill.run (s.store.pool n) threads iterations batch
      let s := s.updateStore (·.update n fun _ => pool)
      (.ok (.occupancy pool.available pool.inUse), s)

/-- Frees a batch into a cache front to back and collects the lengths of the cache. -/
def freeInto (c : Cache) (store : Store) : List Buffer → List Nat × Cache × Store
  | [] => ([], c, store)
  | b :: rest =>
    let (c, store) := c.free store b
    let (lengths, c', store) := freeInto c store rest
    (c.stack.length :: lengths, c', store)

def runCache (s : Session) : CacheCommand → Step
  | .create p c => s.withPool p fun n => (.ok .done, s.keepCache c (Cache.create s.store n))
  | .info c =>
    s.withCache c fun x => (.ok (.cache x.stack.length (s.store.pool x.pool).name), s)
  | .alloc c m =>
    s.withCache c fun x =>
      match x.alloc s.store with
      | .error e => (.fault e, s)
      | .ok (b, x, store) =>
        (.ok (.cached (store.view b) x.stack.length),
          ((s.setStore store).setCache c x).keepBuffer m b)
  | .allocBulk c v n =>
    s.withCache c fun x =>
      let (bs, x, store) := x.allocUpTo s.store n
      let all := s.batch v ++ bs
      (.ok (.cachedBatch bs.length (slotsOf all) x.stack.length),
        ((s.setStore store).setCache c x).setBatch v all)
  | .free c m =>
    s.withCache c fun x =>
      s.withBuffer m fun b =>
        let (x, store) := x.free s.store b
        (.ok (.cacheLength x.stack.length),
          { (s.setStore store).setCache c x with buffers := s.buffers.erase m })
  | .freeAll c v =>
    s.withCache c fun x =>
      let (lengths, x, store) := freeInto x s.store (s.batch v)
      (.ok (.cacheLengths lengths), ((s.setStore store).setCache c x).setBatch v [])
  | .flush c =>
    s.withCache c fun x =>
      let (x, store) := x.flush s.store
      (.ok (.cacheLength x.stack.length), (s.setStore store).setCache c x)
  | .drop c =>
    s.withCache c fun x =>
      let (_, store) := x.flush s.store
      (.ok .done, { s.setStore store with caches := s.caches.erase c })

end Session
end Dataplane
