import EclairWallet.Crypto.ChannelsBackup

/-!
# Reading a backup from Drive

`getBytesFromDriveContents` asks the stream once how much is available, and
reads once.  A stream may announce less than it has, and deliver less than is
asked.
-/

namespace EclairWallet

open ByteString

/-- A stream that keeps the contract of `InputStream`.  `available` and
`delivered` say at each position what is announced, and how many of the bytes
asked for a read delivers. -/
structure InputStream where
  content : Bytes
  available : Nat → Nat
  delivered : Nat → Nat → Nat
  available_le : ∀ position, available position ≤ content.length - position
  delivered_le : ∀ position asked,
    delivered position asked ≤ min asked (content.length - position)
  delivered_pos : ∀ position asked, position < content.length → 0 < asked →
    0 < delivered position asked

namespace InputStream

/-- The stream as the contents of a Drive file, which is read from its
start. -/
def driveContents (stream : InputStream) : DriveContents where
  bytes := stream.content
  available := stream.available 0
  firstRead := stream.delivered 0 (stream.available 0)

/-- Everything is announced, and what the one read does not deliver is
zero. -/
def ReadAtOnce (stream : InputStream) : Prop :=
  stream.available 0 = stream.content.length ∧
    ∀ byte ∈ stream.content.drop
      (stream.delivered 0 stream.content.length), byte = 0

/-- The whole content is returned exactly when the stream announces all of it,
and delivers all of it at once but for zeros at the end. -/
theorem whole_content_iff (stream : InputStream) :
    getBytesFromDriveContents stream.driveContents = stream.content ↔
      stream.ReadAtOnce := by
  have delivered := stream.delivered_le 0 (stream.available 0)
  have within : min (stream.delivered 0 (stream.available 0))
      (stream.available 0) = stream.delivered 0 (stream.available 0) := by
    omega
  have bytes : getBytesFromDriveContents stream.driveContents =
      fill (stream.available 0) (stream.content.take
        (stream.delivered 0 (stream.available 0))) := by
    rw [getBytesFromDriveContents]
    simp only [driveContents, within]
  rw [bytes]
  constructor
  · intro whole
    have announced : stream.available 0 = stream.content.length := by
      rw [← whole, length_fill]
    refine ⟨announced, ?_⟩
    rw [announced] at whole
    exact fill_take_eq_iff.mp whole
  · intro given
    obtain ⟨announced, rest⟩ := given
    rw [announced]
    exact fill_take_eq_iff.mpr rest

/-- A stream that delivers its bytes one by one. -/
def byByte (content : Bytes) : InputStream where
  content := content
  available position := content.length - position
  delivered position asked := min 1 (min asked (content.length - position))
  available_le _ := Nat.le_refl _
  delivered_le _ _ := Nat.min_le_right _ _
  delivered_pos := by
    intro position asked inside some
    omega

/-- A read that delivers one of two bytes leaves a zero for the other. -/
theorem short_read_loses_bytes :
    ¬ ∀ stream : InputStream,
      getBytesFromDriveContents stream.driveContents = stream.content := by
  intro claim
  exact absurd (claim (byByte [1, 2])) (by decide)

end InputStream

end EclairWallet
