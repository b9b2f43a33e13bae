import ConfidentialIoT.Lib.Bytes
import ConfidentialIoT.TrustedApp.Session

/-!
# `Sensor/Frames.lean` — the framing of the serial link

`sensor_link_proto.h` and the wire part of `pta_sensor_link.h`: `[1B type][2B length BE][payload]`.
Both ends of the link have their own copy of these constants; there is one here.
-/

set_option autoImplicit false

namespace ConfidentialIoT

/-- `SENSOR_LINK_FRAME_…` -/
inductive FrameType where
  | challenge | challengeResponse | reading | secretRequest | secret
deriving DecidableEq, Repr

/-- The byte a frame type is announced by. -/
def FrameType.byte : FrameType → UInt8
  | .challenge => 0x01
  | .challengeResponse => 0x02
  | .reading => 0x03
  | .secretRequest => 0x04
  | .secret => 0x05

theorem FrameType.byte_inj {t t' : FrameType} (h : t.byte = t'.byte) : t = t' := by
  cases t <;> cases t' <;> first | rfl | exact absurd h (by decide)

abbrev frameHdrSize : Nat := 3

/-- The header of a frame: the type, then the payload's length in two bytes. -/
def frameHdr (type : FrameType) (len : Nat) : Bytes := type.byte :: Bytes.toBE 2 len

@[simp] theorem length_frameHdr (type : FrameType) (len : Nat) :
    (frameHdr type len).length = frameHdrSize := by
  rw [frameHdr, List.length_cons, Bytes.length_toBE]

/-- The length field of a header. -/
def hdrLen (hdr : Bytes) : Nat := Bytes.ofBE (hdr.slice 1 2)

/-- The type field of a header. -/
def hdrType (hdr : Bytes) : UInt8 := hdr.getD 0 0

@[simp] theorem hdrType_frameHdr (type : FrameType) (len : Nat) :
    hdrType (frameHdr type len) = type.byte := rfl

theorem hdrLen_frameHdr (type : FrameType) {len : Nat} (h : len < 65536) :
    hdrLen (frameHdr type len) = len := by
  have hbody : (frameHdr type len).slice 1 2 = Bytes.toBE 2 len :=
    Bytes.slice_eq_part (p := [type.byte]) (q := []) (by simp [frameHdr]) rfl (by simp)
  rw [hdrLen, hbody]
  exact Bytes.ofBE_toBE h

/-- A header is its two fields. -/
theorem frameHdr_fields {hdr : Bytes} (h : hdr.length = frameHdrSize) :
    hdr = hdrType hdr :: Bytes.toBE 2 (hdrLen hdr) := by
  obtain ⟨a, b, c, rfl⟩ := List.length_eq_three.mp h
  show [a, b, c] = a :: Bytes.toBE 2 (Bytes.ofBE [b, c])
  rw [Bytes.toBE_ofBE_of_length (n := 2) rfl]

/-- One frame: a type, known or not, and a payload that the length field can announce. -/
structure LinkFrame where
  type : UInt8
  payload : Bytes
  short : payload.length < 65536

namespace LinkFrame

/-- The bytes of a frame on the wire. -/
def bytes (f : LinkFrame) : Bytes := f.type :: Bytes.toBE 2 f.payload.length ++ f.payload

/-- The frame that refuses the secret. -/
def refusal : LinkFrame := ⟨FrameType.secret.byte, [], by decide⟩

/-- **Frames can be told apart**: where two streams that begin with a frame agree, the frames
do. -/
theorem bytes_append_inj {f g : LinkFrame} {a b : Bytes} (h : f.bytes ++ a = g.bytes ++ b) :
    f = g ∧ a = b := by
  obtain ⟨t, p, hp⟩ := f
  obtain ⟨t', p', hp'⟩ := g
  simp only [bytes, List.cons_append, List.append_assoc] at h
  obtain ⟨rfl, hbody⟩ := List.cons.inj h
  obtain ⟨hlen, htail⟩ := List.append_inj hbody (by simp)
  have hsame : p.length = p'.length := Bytes.toBE_inj hp hp' hlen
  obtain ⟨rfl, rfl⟩ := List.append_inj htail hsame
  exact ⟨rfl, rfl⟩

theorem bytes_ne_nil (f : LinkFrame) : f.bytes ≠ [] := List.cons_ne_nil _ _

end LinkFrame

/-- What a sequence of frames puts on the wire. -/
def wireOf (frames : List LinkFrame) : Bytes := frames.flatMap LinkFrame.bytes

@[simp] theorem wireOf_nil : wireOf [] = [] := rfl

@[simp] theorem wireOf_cons (f : LinkFrame) (frames : List LinkFrame) :
    wireOf (f :: frames) = f.bytes ++ wireOf frames := rfl

@[simp] theorem wireOf_append (frames frames' : List LinkFrame) :
    wireOf (frames ++ frames') = wireOf frames ++ wireOf frames' := List.flatMap_append

end ConfidentialIoT
