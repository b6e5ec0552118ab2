import Payout.Inclusion
import Payout.Proofs.Json.HexText
import Payout.Proofs.Scale.Compact

/-!
# Extrinsics as they are served

Extrinsics are served in hexadecimal with their lengths, and the hash of an extrinsic is taken over its length
and its bytes. Reading strips the length and hashing writes it again, so that the hash is that of the bytes as
they are served.
-/
namespace Payout
open Scale (IsByteVector)

/-- The text is the bytes in digits of either case, with or without `0x` before them. -/
def Hex.Writes (text : String) (bytes : Bytes) : Prop :=
  ∃ digits, decode digits = some bytes ∧ (text.toList = digits ∨ text.toList = '0' :: 'x' :: digits)

/-- The node serves the bytes for a block, one text for each extrinsic. -/
def Node.Serves (n : Node) (block : BlockHash) (extrinsics : List Bytes) : Prop :=
  .block ∉ n.refused ∧ ∃ b texts, n.block? block = some b ∧ b.served = .ok (some texts) ∧
    List.Forall₂ Hex.Writes texts extrinsics

theorem Hex.writes_text (bytes : Bytes) : Writes (text bytes) bytes :=
  ⟨encode bytes, decode_encode bytes, .inl (by simp [text])⟩

theorem Hex.writes_marked_text (bytes : Bytes) : Writes ("0x" ++ text bytes) bytes :=
  ⟨encode bytes, decode_encode bytes, .inr (by simp [text])⟩

/-- A text of nothing but digits is read as the bytes that it is. -/
theorem Hex.Writes.bytesOfText {text : String} {bytes : Bytes} (h : Writes text bytes) :
    Json.bytesOfText text.toList = .ok bytes := by
  obtain ⟨digits, hdigits, hplain | hmarked⟩ := h
  · -- `x` is no digit, so that digits are not taken for marked ones
    have hmark : ∀ more, digits ≠ '0' :: 'x' :: more := by
      intro more hmore
      rw [hmore] at hdigits
      cases hdigits
    rw [hplain]
    exact Json.bytesOfText_of_decode (by rwa [Json.afterMark_of_unmarked hmark])
  · rw [hmarked]
    exact Json.bytesOfText_of_decode hdigits

theorem Extrinsic.bodyOfServed?_of_writes {text : String} {bytes body : Bytes} (htext : Hex.Writes text bytes)
    (hbody : IsByteVector body bytes) : bodyOfServed? text = some body := by
  have hread := Scale.decodeBytes_eq_some_iff.mpr ⟨bytes, hbody, (List.append_nil bytes).symm⟩
  simp only [bodyOfServed?, htext.bytesOfText, Except.toOption, hread, Option.bind_eq_bind, Option.bind_some]
  rfl

/-- The length of every extrinsic is stripped. -/
theorem Node.bodiesOfServed_of_writes {texts : List String} {extrinsics bodies : List Bytes}
    (h : List.Forall₂ Hex.Writes texts extrinsics) (hbodies : List.Forall₂ IsByteVector bodies extrinsics) :
    bodiesOfServed texts = .ok bodies := by
  have hread : texts.mapM Extrinsic.bodyOfServed? = some bodies := by
    induction h generalizing bodies with
    | nil =>
      cases hbodies
      rfl
    | cons htext _ ih =>
      cases hbodies with
      | cons hbody hrest =>
        rw [List.mapM_cons, Extrinsic.bodyOfServed?_of_writes htext hbody, ih hrest]
        rfl
  rw [bodiesOfServed, hread]

theorem Node.Serves.bodies {n : Node} {block : BlockHash} {extrinsics bodies : List Bytes}
    (h : n.Serves block extrinsics) (hbodies : List.Forall₂ IsByteVector bodies extrinsics) :
    n.bodies block = .ok (some bodies) := by
  obtain ⟨hanswers, b, texts, hblock, htexts, hwrites⟩ := h
  have hserved := bodiesOfServed_of_writes hwrites hbodies
  simp only [Node.bodies, answer, if_neg hanswers, hblock, htexts, hserved]
  rfl

/-- Writing the length again gives the bytes that were served. -/
theorem Extrinsic.map_hashOfBody {bodies extrinsics : List Bytes} (h : List.Forall₂ IsByteVector bodies extrinsics) :
    bodies.map hashOfBody = extrinsics.map Crypto.blake2b256 := by
  induction h with
  | nil => rfl
  | cons hbody _ ih => rw [List.map_cons, List.map_cons, ih, hashOfBody, ← hbody.eq_encodeBytes]

theorem Client.blockContains_of_serves {c : Client} {block : BlockHash} {extrinsics bodies : List Bytes}
    (hserves : c.node.Serves block extrinsics) (hbodies : List.Forall₂ IsByteVector bodies extrinsics)
    (tx : TxHash) :
    c.blockContains block tx = .ok (decide (tx ∈ extrinsics.map Crypto.blake2b256)) := by
  have hany : (bodies.any fun body => Extrinsic.hashOfBody body = tx) =
      decide (tx ∈ bodies.map Extrinsic.hashOfBody) := by
    rw [Bool.eq_iff_iff]
    simp
  rw [← Extrinsic.map_hashOfBody hbodies, ← hany]
  simp only [blockContains, hserves.bodies hbodies]

end Payout
