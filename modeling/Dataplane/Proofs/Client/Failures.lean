import Dataplane.Proofs.Client.Wiring

/-! # Calls that fail

A call on the registry, on a port, or for a queue handle either does what it is for or fails, and
what fails leaves no trace: ports, rings, pools and the handles in the hands are what they were.
Most calls make all their checks before they change anything. A send handle is taken from two ports,
from its own before the other is looked at, and what was taken first is put back when the second
has nothing to give.
-/
namespace Dataplane

namespace Fabric

variable {f : Fabric} {e : Fault} {p q : Nat}

theorem checked_eq_error {check : Except Fault Unit} {effect : Fabric → Fabric}
    (h : (f.checked check effect).1 = .error e) : (f.checked check effect).2 = f := by
  rcases checked_cases f check effect with ⟨-, heq⟩ | ⟨_, heq⟩
  · rw [heq] at h
    cases h
  · rw [heq]

theorem runPort_eq_error {c : PortCall} (h : (c.run f p).1 = .error e) : (c.run f p).2 = f := by
  cases c with
  | setPromiscuous on => cases h
  | resetStats => cases h
  | _ => exact checked_eq_error h

theorem takeRx_eq_error (h : (f.takeRx p q).1 = .error e) : (f.takeRx p q).2 = f := by
  rcases f.takeRx_cases p q with ⟨r, -, -, heq⟩ | ⟨_, heq⟩
  · rw [heq] at h
    cases h
  · rw [heq]

/-- Also where the entry of the port was taken and the peer had no end to give, be the peer another
port or the same. -/
theorem takeTx_eq_error (h : (f.takeTx p q).1 = .error e) : (f.takeTx p q).2 = f := by
  rcases f.takeTx_cases p q with ⟨_, r, -, -, -, heq⟩ | ⟨_, heq⟩
  · rw [heq] at h
    cases h
  · rw [heq]

theorem createPair_eq_error {a b : String} {macA macB : Mac}
    (h : (f.createPair a b macA macB).1 = .error e) : (f.createPair a b macA macB).2 = f := by
  unfold createPair at h ⊢
  dsimp only at h ⊢
  split
  · rfl
  · rename_i hcheck
    rw [hcheck] at h
    cases h

theorem createLoopback_eq_error {name : String} {mac : Mac}
    (h : (f.createLoopback name mac).1 = .error e) : (f.createLoopback name mac).2 = f := by
  unfold createLoopback at h ⊢
  dsimp only at h ⊢
  split
  · rfl
  · rename_i hcheck
    rw [hcheck] at h
    cases h

end Fabric

namespace Client

/-- A call that may fail returns this fault. Giving a handle back, bursts, a new registry, and the
two settings of a port that have no check never fail. -/
def Fails (w : Client) (e : Fault) : Call → Prop
  | .registry (.createPair a b macA macB) => (w.fabric.createPair a b macA macB).1 = .error e
  | .registry (.createLoopback name mac) => (w.fabric.createLoopback name mac).1 = .error e
  | .port p c => (c.run w.fabric p).1 = .error e
  | .queue (.takeRx p q) => (w.fabric.takeRx p q).1 = .error e
  | .queue (.takeTx p q) => (w.fabric.takeTx p q).1 = .error e
  | _ => False

/-- A call that fails leaves everything as it was, in every reachable state and whatever its
arguments are. -/
theorem unchanged_of_fails (calls : List Call) {c : Call} {e : Fault}
    (h : (run calls).Fails e c) : (run calls).call c = run calls := by
  generalize run calls = w at h ⊢
  cases c with
  | registry c =>
    cases c with
    | createPair a b macA macB =>
      have hsame := Fabric.createPair_eq_error h
      rw [call, callRegistry, hsame]
    | createLoopback name mac =>
      have hsame := Fabric.createLoopback_eq_error h
      rw [call, callRegistry, hsame]
    | renew => exact absurd h id
  | port p c =>
    have hsame := Fabric.runPort_eq_error h
    rw [call, callPort, hsame]
    exact ite_self w
  | queue c =>
    cases c with
    | takeRx p q =>
      have hsame := Fabric.takeRx_eq_error h
      have htaken : w.fabric.takeRx p q = (.error e, w.fabric) := Prod.ext h hsame
      rw [call, callQueue, takeRx, htaken]
      exact ite_self w
    | takeTx p q =>
      have hsame := Fabric.takeTx_eq_error h
      have htaken : w.fabric.takeTx p q = (.error e, w.fabric) := Prod.ext h hsame
      rw [call, callQueue, takeTx, htaken]
      exact ite_self w
    | _ => exact absurd h id
  | _ => exact absurd h id

/-- The first port of a pair has its send queue ready, and the second was never configured. -/
theorem unchanged_of_fails_without_peer :
    let w := run [.registry (.createPair "a" "b" (.forwarding 1) (.forwarding 2)),
      .port 0 (.configure 1 1 {}), .port 0 (.setupRx 0 2), .port 0 (.setupTx 0 2), .port 0 .start]
    w.Fails (.badState "peer rx queue not set up or in use") (.queue (.takeTx 0 0)) ∧
      w.call (.queue (.takeTx 0 0)) = w :=
  ⟨by rfl, unchanged_of_fails _ (by rfl)⟩

end Client
end Dataplane
