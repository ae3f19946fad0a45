import EclairWallet.Backup.Restore

/-!
# What a restore leaves of the database

One triple for each step of `restoreBackup`, put together by the rules for
sequences and handlers: the database is what it was, or a part of what was
decrypted, and the whole after a success.
-/

namespace EclairWallet

open ByteString Crash

namespace RestoreChannelsBackupActivity

variable {provider : SecurityProvider} {app : BackupKeys}
  {contents : DriveContents} {db : Option Bytes}

/-- What a restore may leave in the place of the database: what it held, or a
part of what was decrypted. -/
def Touched (provider : SecurityProvider) (app : BackupKeys)
    (contents : DriveContents) (db : Option Bytes)
    (datadir : ChainDatadir) : Prop :=
  datadir.eclairDB = db ∨
    ∃ bytes length,
      RestoreChannelsBackup.restoreBackup provider app contents = .ok bytes ∧
        datadir.eclairDB = some (bytes.take length)

/-- A restore that succeeds has written everything. -/
def Succeeds (provider : SecurityProvider) (app : BackupKeys)
    (contents : DriveContents) (restoreStep : RestoreStep)
    (datadir : ChainDatadir) : Prop :=
  restoreStep = .success → ∃ bytes,
    RestoreChannelsBackup.restoreBackup provider app contents = .ok bytes ∧
      datadir.eclairDB = some bytes

theorem touched_cutDB {bytes : Bytes} {datadir : ChainDatadir}
    (decrypted : RestoreChannelsBackup.restoreBackup provider app contents =
      .ok bytes)
    (same : datadir.eclairDB = db) (extent : Nat) :
    Touched provider app contents db (datadir.cutDB bytes extent) := by
  cases extent with
  | zero => exact .inl same
  | succ extent =>
      simp only [ChainDatadir.cutDB]
      split
      · exact .inr ⟨bytes, extent, decrypted, rfl⟩
      · exact .inl same

theorem mkdirs_triple :
    Triple (fun datadir => datadir.eclairDB = db) mkdirs
      (fun _ datadir => datadir.eclairDB = db)
      (fun datadir => datadir.eclairDB = db)
      (fun datadir => datadir.eclairDB = db) := by
  apply triple_tryCatch
  · apply triple_perform
    · intro state value after same made
      obtain ⟨⟩ := made
      exact same
    · intro state same
      exact same
    · intro state extent same
      exact same
    · intro state extent same
      change (if extent = 0 then state
        else { state with created := true }).eclairDB = db
      split <;> exact same
  · intro error
    apply triple_ret
    intro state same
    exact same

theorem writeDB_triple {bytes : Bytes}
    (decrypted : RestoreChannelsBackup.restoreBackup provider app contents =
      .ok bytes) :
    Triple (fun datadir => datadir.eclairDB = db) (writeDB bytes)
      (fun _ datadir => datadir.eclairDB = some bytes)
      (Touched provider app contents db)
      (Touched provider app contents db) := by
  apply triple_perform
  · intro state value after same written
    simp only at written
    split at written
    · obtain ⟨⟩ := written
      rfl
    · cases written
  · intro state same
    exact .inl same
  · intro state extent same
    exact touched_cutDB decrypted same extent
  · intro state extent same
    exact touched_cutDB decrypted same extent

theorem touched_of_same (datadir : ChainDatadir)
    (same : datadir.eclairDB = db) :
    Touched provider app contents db datadir :=
  .inl same

theorem failure_triple :
    Triple (Touched provider app contents db)
      (pure .failure : RestoreProgram RestoreStep)
      (fun restoreStep datadir =>
        Succeeds provider app contents restoreStep datadir ∧
          Touched provider app contents db datadir)
      (Touched provider app contents db)
      (Touched provider app contents db) := by
  apply triple_ret
  intro datadir touched
  refine ⟨?_, touched⟩
  intro impossible
  cases impossible

theorem decryptContents_triple :
    Triple (fun datadir => datadir.eclairDB = db)
      (decryptContents provider app contents)
      (fun bytes datadir => datadir.eclairDB = db ∧
        RestoreChannelsBackup.restoreBackup provider app contents = .ok bytes)
      (Touched provider app contents db)
      (Touched provider app contents db) := by
  apply triple_reading
  · intro state bytes same decrypted
    exact ⟨same, decrypted⟩
  · exact touched_of_same
  · exact touched_of_same

theorem writeAndCelebrate_triple (bytes : Bytes) :
    Triple
      (fun datadir => datadir.eclairDB = db ∧
        RestoreChannelsBackup.restoreBackup provider app contents = .ok bytes)
      (writeAndCelebrate bytes)
      (fun restoreStep datadir =>
        Succeeds provider app contents restoreStep datadir ∧
          Touched provider app contents db datadir)
      (Touched provider app contents db)
      (Touched provider app contents db) := by
  intro datadir fates both
  have celebrates :
      Triple (fun datadir : ChainDatadir => datadir.eclairDB = some bytes)
        (pure .success : RestoreProgram RestoreStep)
        (fun restoreStep datadir =>
          Succeeds provider app contents restoreStep datadir ∧
            Touched provider app contents db datadir)
        (Touched provider app contents db)
        (Touched provider app contents db) := by
    apply triple_ret
    intro after written
    refine ⟨fun _ => ⟨bytes, both.2, written⟩, .inr ⟨bytes, bytes.length,
      both.2, ?_⟩⟩
    rw [written, List.take_length]
  exact triple_bind (writeDB_triple both.2) (fun _ => celebrates) datadir
    fates both.1

theorem onOpened_triple :
    Triple (fun datadir => datadir.eclairDB = db)
      (onOpened provider app contents)
      (fun restoreStep datadir =>
        Succeeds provider app contents restoreStep datadir ∧
          Touched provider app contents db datadir)
      (Touched provider app contents db)
      (Touched provider app contents db) := by
  have makes : Triple (fun datadir => datadir.eclairDB = db) mkdirs
      (fun _ datadir => datadir.eclairDB = db)
      (Touched provider app contents db)
      (Touched provider app contents db) :=
    fun datadir fates same => (mkdirs_triple datadir fates same).mono
      (fun _ _ same => same) touched_of_same touched_of_same
  exact triple_tryCatch
    (triple_bind makes (fun _ =>
      triple_bind decryptContents_triple writeAndCelebrate_triple))
    (fun _ => failure_triple)

/-- Whatever becomes of its steps, a restore leaves the database alone or
writes a part of what it decrypts, and the whole if it succeeds. -/
theorem restoreBackup_triple :
    Triple (fun datadir => datadir.eclairDB = db)
      (restoreBackup provider app contents)
      (fun restoreStep datadir =>
        Succeeds provider app contents restoreStep datadir ∧
          Touched provider app contents db datadir)
      (Touched provider app contents db)
      (Touched provider app contents db) := by
  have opens : Triple (fun datadir => datadir.eclairDB = db) openFile
      (fun _ datadir => datadir.eclairDB = db)
      (Touched provider app contents db)
      (Touched provider app contents db) := by
    apply triple_reading
    · intro state value same _
      exact same
    · exact touched_of_same
    · exact touched_of_same
  exact triple_tryCatch (triple_bind opens (fun _ => onOpened_triple))
    (fun _ => failure_triple)

theorem restoreBackup_leaves (provider : SecurityProvider) (app : BackupKeys)
    (contents : DriveContents) (datadir : ChainDatadir)
    (fates : List Fate) :
    let ended := restoreBackup provider app contents datadir fates
    Touched provider app contents datadir.eclairDB ended.state ∧
      (ended.outcome = .returned .success → ∃ bytes,
        RestoreChannelsBackup.restoreBackup provider app contents =
            .ok bytes ∧
          ended.state.eclairDB = some bytes) := by
  intro ended
  have spec : ended.Satisfies _ _ _ :=
    restoreBackup_triple datadir fates rfl
  rcases spec.cases with ⟨restoreStep, after, rest, isEnded, both⟩ |
    ⟨error, after, rest, isEnded, touched⟩ |
    ⟨after, rest, isEnded, touched⟩
  · rw [isEnded]
    refine ⟨both.2, ?_⟩
    intro successful
    simp only [Outcome.returned.injEq] at successful
    exact both.1 successful
  · rw [isEnded]
    refine ⟨touched, ?_⟩
    intro impossible
    cases impossible
  · rw [isEnded]
    refine ⟨touched, ?_⟩
    intro impossible
    cases impossible

end RestoreChannelsBackupActivity

end EclairWallet
