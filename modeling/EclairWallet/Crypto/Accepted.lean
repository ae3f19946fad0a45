import EclairWallet.Crypto.Container

/-!
# What the containers accept

Writing checks the length of every field, reading checks the version only: a
truncated container is read with its missing bytes filled with zeros.
-/

namespace EclairWallet

open ByteString

namespace Layout

/-- Size of all that precedes the cipher text. -/
def headerLength (layout : Layout) : Nat :=
  1 + layout.saltLength.getD 0 + ivLength + macLength

/-- The bytes are read exactly when they were written, and written back as
they were read. -/
def AcceptsAsWritten (layout : Layout) (bytes : Bytes) : Prop :=
  ((∃ data, layout.read bytes = .ok data) ↔
      ∃ data, layout.write data = .ok bytes) ∧
    ∀ data, layout.read bytes = .ok data → layout.write data = .ok bytes

variable {layout : Layout} {bytes : Bytes} {data : EncryptedData}

theorem headerLength_le_of_write (written : layout.write data = .ok bytes) :
    layout.headerLength ≤ bytes.length := by
  obtain ⟨fits, rfl⟩ := write_eq_ok_iff.mp written
  have salt := fits.salt
  have iv := fits.iv
  have mac := fits.mac
  cases salted : data.salt with
  | none =>
      rw [salted, Option.map_none] at salt
      simp only [headerLength, salt, Option.getD_none, serialize, salted,
        List.nil_append, List.length_cons, List.length_append]
      omega
  | some bytes =>
      rw [salted, Option.map_some] at salt
      simp only [headerLength, salt, Option.getD_some, serialize, salted,
        List.length_cons, List.length_append]
      omega

theorem version_of_write (written : layout.write data = .ok bytes) :
    readVersion bytes ∈ layout.versions := by
  obtain ⟨fits, rfl⟩ := write_eq_ok_iff.mp written
  rw [readVersion_serialize fits]
  exact fits.version

theorem read_eq_ok_iff :
    layout.read bytes = .ok data ↔
      readVersion bytes ∈ layout.versions ∧
      let stream := bytes.drop 1
      let unsalted := stream.drop (layout.saltLength.getD 0)
      let uncovered := unsalted.drop ivLength
      data =
        { version := readVersion bytes
          salt := layout.saltLength.map (fun length => fill length stream)
          civ :=
            { cipherText := uncovered.drop macLength
              iv := fill ivLength unsalted
              mac := fill macLength uncovered } } := by
  by_cases handled : readVersion bytes ∈ layout.versions
  · simp only [read, handled, if_true, Except.ok.injEq, true_and]
    exact eq_comm
  · simp [read, handled]

theorem ofNat_readVersion_cons (byte : UInt8) (stream : Bytes) :
    UInt8.ofNat (readVersion (byte :: stream)).toNat = byte := by
  simp [readVersion]

/-- A container as long as its header at least is written back as it was
read. -/
theorem write_of_read (enough : layout.headerLength ≤ bytes.length)
    (accepted : layout.read bytes = .ok data) :
    layout.write data = .ok bytes := by
  obtain ⟨handled, rfl⟩ := read_eq_ok_iff.mp accepted
  cases bytes with
  | nil => simp [headerLength] at enough
  | cons byte stream =>
      apply write_eq_ok_iff.mpr
      cases salted : layout.saltLength with
      | none =>
          simp only [headerLength, salted, Option.getD_none,
            List.length_cons] at enough
          have iv : ivLength ≤ stream.length := by omega
          have mac : macLength ≤ (stream.drop ivLength).length := by
            rw [List.length_drop]
            omega
          simp only [List.drop_succ_cons, List.drop_zero, Option.getD_none,
            Option.map_none, fill_of_le iv, fill_of_le mac]
          constructor
          · refine ⟨handled, salted, ?_, ?_⟩
            · exact List.length_take_of_le iv
            · exact List.length_take_of_le mac
          · simp only [serialize, ofNat_readVersion_cons, Option.getD_none,
              List.nil_append, List.take_append_drop]
      | some length =>
          simp only [headerLength, salted, Option.getD_some,
            List.length_cons] at enough
          have salt : length ≤ stream.length := by omega
          have iv : ivLength ≤ (stream.drop length).length := by
            rw [List.length_drop]
            omega
          have mac : macLength ≤
              ((stream.drop length).drop ivLength).length := by
            rw [List.length_drop, List.length_drop]
            omega
          simp only [List.drop_succ_cons, List.drop_zero, Option.getD_some,
            Option.map_some, fill_of_le salt, fill_of_le iv, fill_of_le mac]
          constructor
          · refine ⟨handled, ?_, ?_, ?_⟩
            · rw [salted, Option.map_some, List.length_take_of_le salt]
            · exact List.length_take_of_le iv
            · exact List.length_take_of_le mac
          · simp only [serialize, ofNat_readVersion_cons, Option.getD_some,
              List.take_append_drop]

theorem acceptsAsWritten_iff :
    layout.AcceptsAsWritten bytes ↔
      readVersion bytes ∉ layout.versions ∨
        layout.headerLength ≤ bytes.length := by
  constructor
  · intro given
    obtain ⟨accepted, _⟩ := given
    by_cases handled : readVersion bytes ∈ layout.versions
    · right
      obtain ⟨data, written⟩ :=
        accepted.mp ⟨_, read_eq_ok_iff.mpr ⟨handled, rfl⟩⟩
      exact headerLength_le_of_write written
    · exact Or.inl handled
  · intro given
    rcases given with unhandled | enough
    · have refused : ∀ data, layout.read bytes ≠ .ok data := by
        intro data accepted
        exact unhandled (read_eq_ok_iff.mp accepted).1
      refine ⟨⟨?_, ?_⟩, ?_⟩
      · intro given
        obtain ⟨data, accepted⟩ := given
        exact (refused data accepted).elim
      · intro given
        obtain ⟨data, written⟩ := given
        exact (unhandled (version_of_write written)).elim
      · intro data accepted
        exact (refused data accepted).elim
    · refine ⟨⟨?_, ?_⟩, fun data => write_of_read enough⟩
      · intro given
        obtain ⟨data, accepted⟩ := given
        exact ⟨data, write_of_read enough accepted⟩
      · intro given
        obtain ⟨data, written⟩ := given
        obtain ⟨fits, rfl⟩ := write_eq_ok_iff.mp written
        exact ⟨data, read_serialize fits⟩

/-- Reading what was written gives the container back, and what may be written
always can. -/
theorem read_write (fits : layout.Fits data) :
    ∃ bytes, layout.write data = .ok bytes ∧ layout.read bytes = .ok data :=
  ⟨serialize data, write_of_fits fits, read_serialize fits⟩

end Layout

/-- Both containers are read back as they were written, and accept an array of
bytes exactly as it would have been written when its version is unknown or it
holds a whole header. -/
theorem accepted_as_written_iff (bytes : Bytes) :
    (∀ data, EncryptedBackup.layout.Fits data →
      ∃ written, EncryptedBackup.write data = .ok written ∧
        EncryptedBackup.read written = .ok data) ∧
    (∀ data, EncryptedSeed.layout.Fits data →
      ∃ written, EncryptedSeed.write data = .ok written ∧
        EncryptedSeed.read written = .ok data) ∧
    ((((∃ data, EncryptedBackup.read bytes = .ok data) ↔
          ∃ data, EncryptedBackup.write data = .ok bytes) ∧
        ∀ data, EncryptedBackup.read bytes = .ok data →
          EncryptedBackup.write data = .ok bytes) ↔
      Layout.readVersion bytes ∉ EncryptedBackup.layout.versions ∨
        1 + 16 + 32 ≤ bytes.length) ∧
    ((((∃ data, EncryptedSeed.read bytes = .ok data) ↔
          ∃ data, EncryptedSeed.write data = .ok bytes) ∧
        ∀ data, EncryptedSeed.read bytes = .ok data →
          EncryptedSeed.write data = .ok bytes) ↔
      Layout.readVersion bytes ∉ EncryptedSeed.layout.versions ∨
        1 + 128 + 16 + 32 ≤ bytes.length) := by
  refine ⟨?_, ?_, ?_, ?_⟩
  · intro data fits
    exact Layout.read_write fits
  · intro data fits
    exact Layout.read_write fits
  · exact Layout.acceptsAsWritten_iff
  · exact Layout.acceptsAsWritten_iff

/-- A backup of one block. -/
def oneBlock : EncryptedData :=
  { version := 2
    salt := none
    civ :=
      { cipherText := List.replicate 16 5
        iv := List.replicate Layout.ivLength 7
        mac := List.replicate Layout.macLength 9 } }

theorem oneBlock_accepted :
    ∃ written, EncryptedBackup.write oneBlock = .ok written ∧
      EncryptedBackup.read written = .ok oneBlock :=
  (accepted_as_written_iff []).1 oneBlock
    { version := by decide, salt := rfl, iv := rfl, mac := rfl }

/-- The version byte alone is read, and nothing writes it. -/
theorem truncated_accepted :
    (¬ ∀ bytes : Bytes, (∃ data, EncryptedBackup.read bytes = .ok data) ↔
        ∃ data, EncryptedBackup.write data = .ok bytes) ∧
      ¬ ∀ bytes : Bytes, (∃ data, EncryptedSeed.read bytes = .ok data) ↔
        ∃ data, EncryptedSeed.write data = .ok bytes := by
  constructor
  · intro claim
    obtain ⟨data, written⟩ := (claim [1]).mp ⟨_, rfl⟩
    have whole := Layout.headerLength_le_of_write written
    simp [Layout.headerLength, Layout.ivLength, Layout.macLength] at whole
  · intro claim
    obtain ⟨data, written⟩ := (claim [1]).mp ⟨_, rfl⟩
    have whole := Layout.headerLength_le_of_write written
    simp [Layout.headerLength, Layout.ivLength, Layout.macLength] at whole

end EclairWallet
