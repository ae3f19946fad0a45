import EclairWallet.Crypto.BackupRoundTrip
import EclairWallet.Library.Crash
import EclairWallet.Startup.Activity

/-!
# Restoring the channels backup

`RestoreChannelsBackupActivity.restoreBackup` opens the file on Drive, makes
the directory of the chain, reads and decrypts the contents, and writes the
result straight to the database file.  Each of these steps may fail or be the
last of the process; the write may be cut anywhere once it has opened the
file.
-/

namespace EclairWallet

open ByteString Crash

/-- The data directory of the chain and the node's database in it. -/
structure ChainDatadir where
  created : Bool := false
  eclairDB : Option Bytes := none
  deriving DecidableEq, Repr

namespace ChainDatadir

/-- What a cut write leaves: the old file as long as the file was not opened,
and a prefix of the new one afterwards. -/
def cutDB (bytes : Bytes) (extent : Nat) (datadir : ChainDatadir) :
    ChainDatadir :=
  match extent with
  | 0 => datadir
  | extent + 1 =>
      if datadir.created then
        { datadir with eclairDB := some (bytes.take extent) }
      else datadir

end ChainDatadir

/-- The step the restore screen shows at the end. -/
inductive RestoreStep where
  | success
  | failure
  deriving DecidableEq, Repr

namespace RestoreChannelsBackupActivity

abbrev RestoreProgram := Program ChainDatadir Throwable

def openFile : RestoreProgram Unit :=
  .perform (.reading (fun _ => .ok ()) .io)

/-- `File.mkdirs`, whose result is not looked at. -/
def mkdirs : RestoreProgram Unit :=
  Program.tryCatch
    (.perform
      { whole := fun datadir => .ok ((), { datadir with created := true })
        failure := .io
        onFail := fun _ datadir => datadir
        onKill := fun extent datadir =>
          if extent = 0 then datadir else { datadir with created := true } })
    (fun _ => pure ())

/-- The contents are read, parsed and decrypted. -/
def decryptContents (provider : SecurityProvider) (app : BackupKeys)
    (driveFileContents : DriveContents) : RestoreProgram Bytes :=
  .perform (.reading (fun _ =>
    RestoreChannelsBackup.restoreBackup provider app driveFileContents) .io)

/-- `Files.write` to the database file. -/
def writeDB (bytes : Bytes) : RestoreProgram Unit :=
  .perform
    { whole := fun datadir =>
        if datadir.created then
          .ok ((), { datadir with eclairDB := some bytes })
        else .error .io
      failure := .io
      onFail := .cutDB bytes
      onKill := .cutDB bytes }

/-- The success listener of `openFile`. -/
def onOpened (provider : SecurityProvider) (app : BackupKeys)
    (driveFileContents : DriveContents) : RestoreProgram RestoreStep :=
  Program.tryCatch
    (do
      mkdirs
      let bytes ← decryptContents provider app driveFileContents
      writeDB bytes
      pure .success)
    (fun _ => pure .failure)

def restoreBackup (provider : SecurityProvider) (app : BackupKeys)
    (driveFileContents : DriveContents) : RestoreProgram RestoreStep :=
  Program.tryCatch
    (openFile >>= fun _ => onOpened provider app driveFileContents)
    (fun _ => pure .failure)

end RestoreChannelsBackupActivity

/-- Unless it ended in success, the database file is as it was, and the next
startup decides as it would have decided before. -/
structure AllOrNothing (before : ChainDatadir)
    (ended : Ended ChainDatadir Throwable RestoreStep) : Prop where
  unchanged : ended.outcome ≠ .returned .success →
    ended.state.eclairDB = before.eclairDB
  decided : ended.outcome ≠ .returned .success → ∀ prefs : StartupPrefs,
    { prefs with
      eclairDBExists :=
        ended.state.eclairDB.isSome }.checkChannelsBackupRestore =
    { prefs with
      eclairDBExists := before.eclairDB.isSome }.checkChannelsBackupRestore

/-- The fates of the four steps are such that the write is reached and cut
after `extent` bytes: the file was opened, the directory is there, and the
contents were read. -/
structure WriteCut (before : ChainDatadir) (fates : List Fate)
    (extent : Nat) : Prop where
  opened : fates[0]? = some .proceeds
  directory : fates[1]? = some .proceeds ∨
    before.created = true ∧ ∃ came, fates[1]? = some (.fails came)
  contentsRead : fates[2]? = some .proceeds
  cut : fates[3]? = some (.fails (extent + 1)) ∨
    fates[3]? = some (.killed (extent + 1))

namespace RestoreChannelsBackupActivity

variable {provider : SecurityProvider} {app : BackupKeys}
  {contents : DriveContents} {before : ChainDatadir} {fates : List Fate}

/-- Unless it ended in success, the database file is this one. -/
def Spares (db : Option Bytes)
    (ended : Ended ChainDatadir Throwable RestoreStep) : Prop :=
  ended.outcome ≠ .returned .success → ended.state.eclairDB = db

theorem allOrNothing_iff_spares
    {ended : Ended ChainDatadir Throwable RestoreStep} :
    AllOrNothing before ended ↔ Spares before.eclairDB ended := by
  constructor
  · intro whole
    exact whole.unchanged
  · intro spares
    refine ⟨spares, ?_⟩
    intro unsuccessful prefs
    rw [spares unsuccessful]

/-- The end of the block, from the write on. -/
def writeAndCelebrate (bytes : Bytes) : RestoreProgram RestoreStep :=
  writeDB bytes >>= fun _ => pure .success

theorem cutDB_eq_iff (datadir : ChainDatadir) (bytes : Bytes) (came : Nat) :
    (datadir.cutDB bytes came).eclairDB = datadir.eclairDB ↔
      ∀ extent, datadir.created = true → came = extent + 1 →
        datadir.eclairDB = some (bytes.take extent) := by
  cases came with
  | zero => simp [ChainDatadir.cutDB]
  | succ came =>
      cases created : datadir.created with
      | false => simp [ChainDatadir.cutDB, created]
      | true =>
          simp only [ChainDatadir.cutDB, created, if_true]
          constructor
          · intro same extent _ given
            obtain ⟨⟩ := given
            exact same.symm
          · intro cut
            exact (cut came trivial rfl).symm

/-- The write spares the file exactly when it is not cut once it has opened
the file. -/
theorem spares_write_iff (datadir : ChainDatadir) (bytes : Bytes) :
    Spares datadir.eclairDB
        ((writeAndCelebrate bytes).tryCatch (fun _ => pure .failure) datadir
          fates) ↔
      ∀ extent, datadir.created = true →
        fates[0]? = some (.fails (extent + 1)) ∨
          fates[0]? = some (.killed (extent + 1)) →
        datadir.eclairDB = some (bytes.take extent) := by
  rw [writeAndCelebrate]
  have performs : writeDB bytes = .perform _ := rfl
  rcases perform_cases performs datadir fates with
    ⟨came, fate, ended⟩ | ⟨came, fate, ended⟩ | ⟨fate, ended⟩
  · rw [tryCatch_bind_of_thrown ended]
    have spares := cutDB_eq_iff datadir bytes came
    simpa [Spares, pure, Program.ret, fate] using spares
  · rw [tryCatch_bind_of_killed ended]
    have spares := cutDB_eq_iff datadir bytes came
    simpa [Spares, fate] using spares
  · refine iff_of_true ?_ ?_
    · cases created : datadir.created with
      | true =>
          simp only [created, if_true] at ended
          rw [tryCatch_bind_of_returned ended]
          intro unsuccessful
          exact (unsuccessful rfl).elim
      | false =>
          simp only [created] at ended
          rw [tryCatch_bind_of_thrown ended]
          intro _
          rfl
    · intro extent _ given
      rcases given with failed | killed
      · simp [failed] at fate
      · simp [killed] at fate

variable (provider app contents) in
theorem spares_decrypt_iff (datadir : ChainDatadir) :
    Spares datadir.eclairDB
        ((decryptContents provider app contents >>=
            writeAndCelebrate).tryCatch (fun _ => pure .failure) datadir
          fates) ↔
      ∀ bytes extent,
        RestoreChannelsBackup.restoreBackup provider app contents =
          .ok bytes →
        datadir.created = true → fates[0]? = some .proceeds →
        fates[1]? = some (.fails (extent + 1)) ∨
          fates[1]? = some (.killed (extent + 1)) →
        datadir.eclairDB = some (bytes.take extent) := by
  have performs : decryptContents provider app contents = .perform _ := rfl
  rcases perform_cases performs datadir fates with
    ⟨came, fate, ended⟩ | ⟨came, fate, ended⟩ | ⟨fate, ended⟩
  · rw [tryCatch_bind_of_thrown ended]
    refine iff_of_true (fun _ => rfl) ?_
    intro bytes extent _ _ proceeds
    simp [fate] at proceeds
  · rw [tryCatch_bind_of_killed ended]
    refine iff_of_true (fun _ => rfl) ?_
    intro bytes extent _ _ proceeds
    simp [fate] at proceeds
  · cases reads : RestoreChannelsBackup.restoreBackup provider app
        contents with
    | error thrown =>
        simp only [Action.reading, reads, Except.map] at ended
        rw [tryCatch_bind_of_thrown ended]
        refine iff_of_true (fun _ => rfl) ?_
        intro bytes extent given
        obtain ⟨⟩ := given
    | ok bytes =>
        simp only [Action.reading, reads, Except.map] at ended
        rw [tryCatch_bind_of_returned ended, spares_write_iff]
        simp only [List.getElem?_tail]
        constructor
        · intro spares _ extent given created _ interrupted
          obtain ⟨⟩ := given
          exact spares extent created interrupted
        · intro spares extent created interrupted
          refine spares bytes extent rfl created ?_ interrupted
          rcases fate with ended | proceeds
          · obtain rfl : fates = [] := by simpa using ended
            simp at interrupted
          · exact proceeds

/-- Unless the process is killed, `mkdirs` returns; the directory is there
when it was made or was there before.  The database file is not touched. -/
theorem mkdirs_cases (datadir : ChainDatadir) (fates : List Fate) :
    (∃ came after, fates[0]? = some (.killed came) ∧
        mkdirs datadir fates = ⟨.killed, after, fates.tail⟩ ∧
        after.eclairDB = datadir.eclairDB) ∨
      ∃ after, mkdirs datadir fates = ⟨.returned (), after, fates.tail⟩ ∧
        after.eclairDB = datadir.eclairDB ∧
        (after.created = true ↔
          (fates[0]? = none ∨ fates[0]? = some .proceeds) ∨
            datadir.created = true ∧
              ∃ came, fates[0]? = some (.fails came)) := by
  cases fates with
  | nil => exact .inr ⟨{ datadir with created := true }, rfl, rfl, by simp⟩
  | cons fate rest =>
      cases fate with
      | proceeds =>
          exact .inr ⟨{ datadir with created := true }, rfl, rfl, by simp⟩
      | fails came => exact .inr ⟨datadir, rfl, rfl, by simp⟩
      | killed came =>
          refine .inl ⟨came, _, rfl, rfl, ?_⟩
          change (if came = 0 then datadir
            else { datadir with created := true }).eclairDB = _
          split <;> rfl

variable (provider app contents) in
theorem spares_onOpened_iff :
    Spares before.eclairDB (onOpened provider app contents before fates) ↔
      ∀ bytes extent,
        RestoreChannelsBackup.restoreBackup provider app contents =
          .ok bytes →
        (fates[0]? = some .proceeds ∨
          before.created = true ∧ ∃ came, fates[0]? = some (.fails came)) →
        fates[1]? = some .proceeds →
        fates[2]? = some (.fails (extent + 1)) ∨
          fates[2]? = some (.killed (extent + 1)) →
        before.eclairDB = some (bytes.take extent) := by
  rcases mkdirs_cases before fates with
    ⟨came, after, fate, ended, same⟩ | ⟨after, ended, same, created⟩
  · rw [onOpened, tryCatch_bind_of_killed ended]
    refine iff_of_true (fun _ => same) ?_
    intro bytes extent _ given
    rcases given with made | ⟨_, _, failed⟩
    · simp [made] at fate
    · simp [failed] at fate
  · rw [onOpened, tryCatch_bind_of_returned ended, ← same]
    refine (spares_decrypt_iff provider app contents after).trans ?_
    simp only [List.getElem?_tail, created]
    constructor
    · intro spares bytes extent reads directory
      apply spares bytes extent reads
      rcases directory with made | present
      · exact .inl (.inr made)
      · exact .inr present
    · intro spares bytes extent reads directory contentsRead
      apply spares bytes extent reads _ contentsRead
      rcases directory with (ended | made) | present
      · obtain rfl : fates = [] := by simpa using ended
        simp at contentsRead
      · exact .inl made
      · exact .inr present

variable (provider app contents) in
theorem spares_restoreBackup_iff :
    Spares before.eclairDB
        (restoreBackup provider app contents before fates) ↔
      ∀ bytes extent,
        RestoreChannelsBackup.restoreBackup provider app contents =
          .ok bytes →
        WriteCut before fates extent →
        before.eclairDB = some (bytes.take extent) := by
  rw [restoreBackup]
  have performs : openFile = .perform _ := rfl
  rcases perform_cases performs before fates with
    ⟨came, fate, ended⟩ | ⟨came, fate, ended⟩ | ⟨fate, ended⟩
  · rw [tryCatch_bind_of_thrown ended]
    refine iff_of_true (fun _ => rfl) ?_
    intro bytes extent _ cut
    simp [cut.opened] at fate
  · rw [tryCatch_bind_of_killed ended]
    refine iff_of_true (fun _ => rfl) ?_
    intro bytes extent _ cut
    simp [cut.opened] at fate
  · simp only [Action.reading, Except.map] at ended
    rw [tryCatch_bind_of_returned ended, onOpened, tryCatch_of_handled,
      ← onOpened, spares_onOpened_iff]
    simp only [List.getElem?_tail]
    constructor
    · intro spares bytes extent reads cut
      exact spares bytes extent reads cut.directory cut.contentsRead cut.cut
    · intro spares bytes extent reads directory contentsRead interrupted
      refine spares bytes extent reads
        ⟨?_, directory, contentsRead, interrupted⟩
      rcases fate with ended | proceeds
      · obtain rfl : fates = [] := by simpa using ended
        simp at interrupted
      · exact proceeds

/-- Restoring a backup is all or nothing exactly when a cut write leaves
nothing but what the file held before. -/
theorem all_or_nothing_iff (provider : SecurityProvider) (app : BackupKeys)
    (contents : DriveContents) (before : ChainDatadir) (fates : List Fate) :
    AllOrNothing before
        (restoreBackup provider app contents before fates) ↔
      ∀ bytes extent,
        RestoreChannelsBackup.restoreBackup provider app contents =
          .ok bytes →
        WriteCut before fates extent →
        before.eclairDB = some (bytes.take extent) := by
  rw [allOrNothing_iff_spares]
  exact spares_restoreBackup_iff provider app contents

/-- A write that fails once it has opened the file leaves it empty, and no
restore is offered again. -/
theorem empty_database_left :
    ¬ ∀ provider app contents before fates,
      AllOrNothing before
        (restoreBackup provider app contents before fates) := by
  intro claim
  let file := Layout.serialize (EncryptedBackup.encrypt sampleProvider
    firstSample.iv [1] sampleKeys EncryptedBackup.backupVersion2)
  let contents : DriveContents := ⟨file, file.length, file.length⟩
  have handled : EncryptedBackup.backupVersion2 ∈
      EncryptedBackup.layout.versions := by decide
  have restored : RestoreChannelsBackup.restoreBackup sampleProvider sampleApp
      contents = .ok [1] := by
    apply restores_encrypt sampleProvider_sound handled rfl rfl rfl
      firstSample.iv [1]
    exact ⟨rfl, rfl, Nat.le_refl _⟩
  have spares := (spares_restoreBackup_iff sampleProvider sampleApp
    contents).mp (claim sampleProvider sampleApp contents {}
      [.proceeds, .proceeds, .proceeds, .fails 1]).unchanged
  have impossible := spares [1] 0 restored
    ⟨rfl, .inl rfl, rfl, .inl rfl⟩
  cases impossible

end RestoreChannelsBackupActivity

end EclairWallet
