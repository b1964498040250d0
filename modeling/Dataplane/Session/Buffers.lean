import Dataplane.Buffer.Content
import Dataplane.Session.Basic
import Dataplane.Session.Command

/-! # Commands on buffers and batches -/
namespace Dataplane
namespace Session

/-- Puts a moved window into its register, or shows the buffer with the fault. -/
def moveWindow (s : Session) (m : String) (b : Buffer) (moved : Except Fault Buffer) : Step :=
  match moved with
  | .error e => (.faultOn e (s.store.view b), s)
  | .ok b => (.ok (.buffer (s.store.view b)), s.setBuffer m b)

/-- Writes through a view of the whole window. Bytes that do not fit are not written. -/
def writeIn (s : Session) (b : Buffer) (start : Nat) (bytes : List UInt8) : Step :=
  if start + bytes.length > b.window.size then s.refuse .outOfRange
  else
    let s := s.updateStore (·.write b start bytes)
    (.ok (.buffer (s.store.view b)), s)

def replaceBuffer (s : Session) (m : String) (r : Except Fault (Buffer × Store)) : Step :=
  match r with
  | .error e => (.fault e, s)
  | .ok (b, store) =>
    let s := (s.setStore store).setBuffer m b
    (.ok (.buffer (s.store.view b)), s)

/-- What a crafted frame starts with: the given octets, and a tag in the octet after the first
address. Octets that the frame is too short for are left out. -/
def stamp (s : Store) (b : Buffer) (start : List UInt8) (tag : Nat) : Store :=
  let s := s.write b 0 (start.take b.window.size)
  if b.window.size > 6 then s.write b 6 [UInt8.ofNat tag] else s

/-- One buffer per length, as far as the pool and the slots allow. -/
def craft (store : Store) (p : Nat) (start : List UInt8) (tag : Nat) :
    List Nat → Except Fault Unit × List Buffer × Store
  | [] => (.ok (), [], store)
  | n :: rest =>
    match store.alloc p with
    | .error e => (.error e, [], store)
    | .ok (b, store) =>
      match b.append store n with
      | .error e => (.error e, [], store.drop b)
      | .ok b =>
        let (outcome, bs, store) := craft (stamp store b start tag) p start (tag + 1) rest
        (outcome, b :: bs, store)

def runBuffer (s : Session) : BufferCommand → Step
  | .info m =>
    s.withBuffer m fun b => (.ok (.bufferInfo (s.store.view b) (s.store.bufferLength b)), s)
  | .debug m => s.withBuffer m fun b => (.ok (.text (b.debug s.store)), s)
  | .pool m => s.withBuffer m fun b => (.ok (.pool (s.store.poolView b.pool)), s)
  | .prepend m n => s.withBuffer m fun b => s.moveWindow m b (b.prepend n)
  | .append m n => s.withBuffer m fun b => s.moveWindow m b (b.append s.store n)
  | .adj m n => s.withBuffer m fun b => s.moveWindow m b (b.adj n)
  | .trim m n => s.withBuffer m fun b => s.moveWindow m b (b.trim n)
  | .reset m => s.withBuffer m fun b => s.moveWindow m b (.ok (b.reset s.store))
  | .resetHeadroom m => s.withBuffer m fun b => s.moveWindow m b (.ok (b.resetHeadroom s.store))
  | .data m => s.withBuffer m fun b => (.ok (.bytes (s.store.data b)), s)
  | .read m start length =>
    s.withBuffer m fun b => (.ok (.bytes? (s.store.read? b start length)), s)
  | .write m start bytes =>
    s.withBuffer m fun b =>
      match s.store.writable b with
      | .error e => (.fault e, s)
      | .ok () => s.writeIn b start bytes
  | .writeCopy m start bytes =>
    s.withBuffer m fun b =>
      match s.store.unshare b with
      | .error e => (.fault e, s)
      | .ok (b, store) => ((s.setStore store).setBuffer m b).writeIn b start bytes
  | .extend m bytes => s.withBuffer m fun b => s.replaceBuffer m (s.store.extend b bytes)
  | .prependBytes m bytes =>
    s.withBuffer m fun b => s.replaceBuffer m (s.store.prependBytes b bytes)
  | .clone m target =>
    s.withBuffer m fun b =>
      let (c, store) := s.store.clone b
      (s.setStore store).showAndKeep target c
  | .duplicate m target =>
    s.withBuffer m fun b =>
      match s.store.duplicate b with
      | .error e => (.fault e, s)
      | .ok (c, store) => (s.setStore store).showAndKeep target c
  | .free m =>
    s.withBuffer m fun b =>
      (.ok .done, { s with buffers := s.buffers.erase m }.updateStore (·.drop b))
  | .push v m =>
    s.withBuffer m fun b =>
      let all := s.batch v ++ [b]
      (.ok (.batch (slotsOf all)), { s with buffers := s.buffers.erase m }.setBatch v all)
  | .take v i m =>
    match (s.batch v)[i]? with
    | none => s.refuse .noSuch
    | some b => (s.setBatch v ((s.batch v).eraseIdx i)).showAndKeep m b
  | .list v =>
    let bs := s.batch v
    (.ok (.frames (slotsOf bs) (bs.map s.store.frameView)), s)
  | .craft p v lengths start tag =>
    s.withPool p fun n =>
      let (outcome, bs, store) := craft s.store n start tag lengths
      let all := s.batch v ++ bs
      let s := (s.setStore store).setBatch v all
      match outcome with
      | .error e => (.fault e, s)
      | .ok () => (.ok (.batch (slotsOf all)), s)

end Session
end Dataplane
