import Mathlib.Data.List.GetD
import Dataplane.Frame.Udp
import Dataplane.Proofs.Traffic.Loads

/-! # Generated frames read back

The headers of a generated frame say how long it is, for every payload that fits, so that a reader
goes from each header to the next and finds the addresses that were written. It never looks at the
station addresses in front of them, and a redirection changes nothing else.
-/
namespace Dataplane

namespace Frame

variable {length sum n : Nat} {body stations packet : List UInt8}

/-! ## Headers -/

theorem number_octets16 (h : n < 65536) :
    (UInt8.ofNat (n / 256)).toNat * 256 + (UInt8.ofNat n).toNat = n := by
  rw [UInt8.toNat_ofNat', UInt8.toNat_ofNat']
  omega

theorem word16_append (front back : List UInt8) :
    word16 (front ++ back) front.length = word16 back 0 := by
  rw [word16, octet, octet, List.getD_append_right _ _ _ _ (Nat.le_refl _),
    List.getD_append_right _ _ _ _ (Nat.le_add_right _ 1), Nat.sub_self, Nat.add_sub_cancel_left]
  rfl

/-- What follows twelve octets of station addresses and the number of IPv4 is read as that. -/
theorem headers?_of_stations (h : stations.length = 12) (packet : List UInt8) :
    headers? (stations ++ octets16 0x0800 ++ packet) = network? 0x0800 packet := by
  have hether : (stations ++ octets16 0x0800).length = 14 := by
    rw [List.length_append, h]
    rfl
  have hbody : after? (stations ++ octets16 0x0800 ++ packet) 14 = some packet := by
    have hlong : ¬(stations ++ octets16 0x0800 ++ packet).length < 14 := by
      rw [List.length_append, hether]
      omega
    rw [after?, if_neg hlong, List.drop_left' hether]
  have htype : word16 (stations ++ octets16 0x0800 ++ packet) 12 = 0x0800 := by
    have hhigh : octet (octets16 0x0800 ++ packet) 0 = 8 := rfl
    have hlow : octet (octets16 0x0800 ++ packet) 1 = 0 := rfl
    rw [List.append_assoc, ← h, word16_append, word16, hhigh, hlow]
  have huntagged : untag? 2 0x0800 packet = some (0x0800, packet) := rfl
  rw [headers?, hbody, htype, Option.bind_eq_bind, Option.bind_some, huntagged]
  rfl

/-- An IPv4 header gives back the datagram that it was made for. -/
theorem ipv4Payload?_ipv4Header (hbody : body.length = length) (h : 20 + length < 65536) :
    ipv4Payload? (ipv4Header length sum ++ body) = some ⟨17, body, false⟩ := by
  have hheader : (ipv4Header length sum).length = 20 := rfl
  have hlength : (ipv4Header length sum ++ body).length = 20 + length := by
    rw [List.length_append, hheader, hbody]
  have hversion : octet (ipv4Header length sum ++ body) 0 = 0x45 := rfl
  have htotal : word16 (ipv4Header length sum ++ body) 2 = 20 + length := by
    simp only [word16, octet, ipv4Header, octets16, List.cons_append, List.nil_append,
      List.getD_cons_succ, List.getD_cons_zero]
    exact number_octets16 h
  have hwhole : word16 (ipv4Header length sum ++ body) 6 = 0x4000 := by
    have hhigh : octet (ipv4Header length sum ++ body) 6 = 0x40 := rfl
    have hlow : octet (ipv4Header length sum ++ body) 7 = 0 := rfl
    rw [word16, hhigh, hlow]
  have hprotocol : octet (ipv4Header length sum ++ body) 9 = 17 := rfl
  have hrest : slice (ipv4Header length sum ++ body) 20 length = body := by
    rw [slice, List.drop_left' hheader, ← hbody, List.take_length]
  unfold ipv4Payload?
  simp [hlength, hversion, htotal, hwhole, hprotocol, hrest]

theorem network?_ipv4Header (hbody : body.length = length) (hlength : 8 ≤ length)
    (h : 20 + length < 65536) :
    network? 0x0800 (ipv4Header length sum ++ body) = some (.ipv4 sender receiver) := by
  have htransport : transportWhole ⟨17, body, false⟩ = true := by
    rw [transportWhole, hbody]
    exact decide_eq_true hlength
  have hsource : slice (ipv4Header length sum ++ body) 12 4 = sender := rfl
  have hdestination : slice (ipv4Header length sum ++ body) 16 4 = receiver := rfl
  rw [network?, ipv4Payload?_ipv4Header hbody h, Option.bind_eq_bind, Option.bind_some,
    if_pos htransport, hsource, hdestination]
  rfl

/-! ## Generated frames -/

/-- All of a generated frame that follows the Ethernet header. -/
def datagram (n : Nat) : List UInt8 :=
  ipv4Header (8 + n) (checksum (ipv4Header (8 + n) 0)) ++
    (udpHeader (8 + n) (udpSum (List.replicate n 0)) ++ List.replicate n 0)

theorem length_datagram (n : Nat) : (datagram n).length = 28 + n := by
  have hpayload : (List.replicate n (0 : UInt8)).length = n := List.length_replicate
  have hudp (sum : Nat) : (udpHeader (8 + n) sum).length = 8 := rfl
  have hipv4 (sum : Nat) : (ipv4Header (8 + n) sum).length = 20 := rfl
  rw [datagram, List.length_append, List.length_append, hipv4, hudp, hpayload]
  omega

theorem udp_eq (src dst : Mac) (h : n ≤ 65507) :
    udp src dst n = .ok (dst.bytes ++ src.bytes ++ octets16 0x0800 ++ datagram n) := by
  have hfits : ¬8 + n > maxDatagram := by
    unfold maxDatagram
    omega
  rw [udp, if_neg hfits, etherHeader, datagram]
  simp only [List.append_assoc]

theorem addressLine_datagram (hstations : stations.length = 12) (h : n ≤ 65507) :
    addressLine (stations ++ octets16 0x0800 ++ datagram n) = .ok "IP: 10.0.0.1 > 10.0.0.2" := by
  have hbody (sum : Nat) :
      (udpHeader (8 + n) sum ++ List.replicate n 0).length = 8 + n := by
    rw [List.length_append, List.length_replicate]
    rfl
  have hread : headers? (stations ++ octets16 0x0800 ++ datagram n) =
      some (.ipv4 sender receiver) := by
    rw [headers?_of_stations hstations, datagram]
    exact network?_ipv4Header (hbody _) (by omega) (by omega)
  have hsender : ipv4Text sender = "10.0.0.1" := by decide
  have hreceiver : ipv4Text receiver = "10.0.0.2" := by decide
  simp only [addressLine, hread, hsender, hreceiver]
  rfl

end Frame

/-! ## Redirected frames -/

namespace Redirection

theorem length_stations (a b : Mac) : (a.bytes ++ b.bytes).length = 12 := by
  rw [List.length_append, Mac.length_bytes, Mac.length_bytes]

theorem drop_apply (r : Redirection) (frame : List UInt8) :
    (r.apply frame).drop 12 = frame.drop 12 := by
  by_cases h : 12 ≤ frame.length
  · rw [r.apply_eq h, List.drop_left' (length_stations _ _)]
  · rw [apply, if_pos (Nat.not_le.mp h)]

theorem apply_apply (r r' : Redirection) (frame : List UInt8) :
    r'.apply (r.apply frame) = r'.apply frame := by
  by_cases h : 12 ≤ frame.length
  · rw [r'.apply_eq (by rwa [length_apply]), r'.apply_eq h, drop_apply]
  · have hshort : r.apply frame = frame := if_pos (Nat.not_le.mp h)
    rw [hshort]

theorem apply_stations (r : Redirection) {stations : List UInt8} (h : stations.length = 12)
    (rest : List UInt8) :
    r.apply (stations ++ rest) = r.destination.bytes ++ r.source.bytes ++ rest := by
  have hlong : 12 ≤ (stations ++ rest).length := by
    rw [List.length_append, h]
    exact Nat.le_add_right 12 _
  rw [r.apply_eq hlong, List.drop_left' h]

/-- What redirections do to a frame, however short it is. -/
structure Rewrites (frame : List UInt8) : Prop where
  length : ∀ r : Redirection, (r.apply frame).length = frame.length
  kept : ∀ r : Redirection, (r.apply frame).drop 12 = frame.drop 12
  written : ∀ r : Redirection, 12 ≤ frame.length →
    (r.apply frame).take 12 = r.destination.bytes ++ r.source.bytes
  last : ∀ r r' : Redirection, r'.apply (r.apply frame) = r'.apply frame

theorem rewrites (frame : List UInt8) : Rewrites frame where
  length r := r.length_apply frame
  kept r := r.drop_apply frame
  written r h := by
    rw [r.apply_eq h]
    exact List.take_left' (length_stations _ _)
  last r r' := r.apply_apply r' frame

end Redirection

namespace Frame

/-- A frame from `src` to `dst` with `n` octets of payload, the network addresses of which are found
in it and in whatever redirections make of it. -/
structure Legible (src dst : Mac) (n : Nat) (frame : List UInt8) : Prop where
  length : frame.length = 42 + n
  stations : frame.take 12 = dst.bytes ++ src.bytes
  line : addressLine frame = .ok "IP: 10.0.0.1 > 10.0.0.2"
  redirected : ∀ r : Redirection, addressLine (r.apply frame) = .ok "IP: 10.0.0.1 > 10.0.0.2"

/-- Every payload that an IPv4 packet has room for makes a frame that can be read back, also after
it was redirected. Redirections touch the station addresses only, and the last one counts. -/
theorem generated_legible (src dst : Mac) {n : Nat} (h : n ≤ 65507) :
    (∃ frame, udp src dst n = .ok frame ∧ Legible src dst n frame) ∧
      ∀ frame, Redirection.Rewrites frame := by
  have hstations := Redirection.length_stations dst src
  refine ⟨⟨_, udp_eq src dst h, ?_, ?_, ?_, ?_⟩, Redirection.rewrites⟩
  · rw [List.length_append, List.length_append, hstations, length_datagram]
    change 12 + 2 + (28 + n) = 42 + n
    omega
  · rw [List.append_assoc (dst.bytes ++ src.bytes)]
    exact List.take_left' hstations
  · exact addressLine_datagram hstations h
  · intro r
    rw [List.append_assoc (dst.bytes ++ src.bytes), r.apply_stations hstations, ← List.append_assoc]
    exact addressLine_datagram (Redirection.length_stations _ _) h

/-- The longest payload. -/
theorem generated_legible_longest : 65507 ≤ 65507 ∧
    (∃ frame, udp (.forwarding 0) (.forwarding 1) 65507 = .ok frame ∧
      Legible (.forwarding 0) (.forwarding 1) 65507 frame) ∧
    ∀ frame, Redirection.Rewrites frame :=
  ⟨Nat.le_refl _, generated_legible (.forwarding 0) (.forwarding 1) (Nat.le_refl _)⟩

end Frame
end Dataplane
