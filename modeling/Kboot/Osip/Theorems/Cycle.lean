import Kboot.Osip.Lemmas.Cycle
import Kboot.Osip.Theorems.Placement

/-!
# 保守のスクリプトの列のあとの復元

主が有効で予備が空の装置から、`invalidate_osip.sh`、`flash_stitched.sh`、`restore_osip.sh` を任意の順に
走らせる。一巡の中で二度目の `invalidate_osip.sh` を走らせなければ、成功した復元のあとの主の記述子は、
一巡の最初の無効化の前の値に等しい。`flash_stitched.sh` の復元では、記述子 0 は flash した image の
記述子になる。image が名前、ファイル、形式の検査で断られれば、記述子 0 も基準の値に戻る。

二度目を走らせると、`backup_handle` は基準の入った予備を、無効にした主で上書きする。そのあとの復元は
無効の形の記述子を主へ戻す。
-/

namespace Kboot.Osip.UpdateOsip

open OsipUtils ManageDevice

theorem hdrAt_imageSys_backupLoc (h : OSIPHeader) : hdrAt (imageSys h).dev backupLoc = zeroHeader := by
  simp only [imageSys, hdrAt_backupLoc_write_header]
  rw [hdrAt, Store.read, List.map_const', List.length_range, zeroHeader]

/-- 記述子 0 に読み込み番地と入口のある、有効な見出し。属性は 1。 -/
def loadedHeader : OSIPHeader :=
  { zeroHeader with
    sig := osipSig, headerSize := 200, numPointers := 7, numImages := 1
    desc := #v[{ zeroOSII with
        logicalStartBlock := 8, ddrLoadAddress := 0x1100000, enteryPoint := 0x1101000
        sizeOfOsImage := 1, attrib := 1 }, zeroOSII, zeroOSII, zeroOSII, zeroOSII, zeroOSII, zeroOSII] }

/-- 主に `loadedHeader` があり、予備の場所が 0 の装置。 -/
def loadedSys : Sys where
  dev := Store.write (fun _ => 0) 0 loadedHeader.toBytes
  faults := []
  files := fun _ => none
  eraseSize := none
  junk := fun _ => 0
  oob := []

theorem hdrAt_loadedSys : hdrAt loadedSys.dev 0 = loadedHeader := by
  simp only [loadedSys, hdrAt_write_self]

theorem hdrAt_loadedSys_backupLoc : hdrAt loadedSys.dev backupLoc = zeroHeader :=
  hdrAt_imageSys_backupLoc loadedHeader

/-- 一巡の中の二度目の `invalidate_osip.sh` のあとの復元は、属性 1 の記述子を無効の形で主へ戻す。
一巡の基準は最初の無効化の前の主のまま。 -/
theorem restore_after_double_invalidate {s : Sys} {k : Fin 7} (hf : s.faults = [])
    (hsig : (hdrAt s.dev 0).sig = osipSig) (hk : findAttrib (hdrAt s.dev 0) 1 = some k) :
    (runCycle [.invalidateOsip, .invalidateOsip] (s, none)).2 = some (hdrAt s.dev 0) ∧
      Script.restoreOsip.restoreOk (runCycle [.invalidateOsip, .invalidateOsip] (s, none)).1 = true ∧
      (hdrAt (runScript Script.restoreOsip.cmds (runCycle [.invalidateOsip, .invalidateOsip] (s, none)).1).dev
        0).desc.get k = clearedOSII ((hdrAt s.dev 0).desc.get k) := by
  generalize hst : runCycle [.invalidateOsip, .invalidateOsip] (s, none) = st
  have h₁ : st.1 = runScript invalidateOsipSh (runScript invalidateOsipSh s) := by rw [← hst]; rfl
  obtain ⟨hf₁, -, -, hP₁⟩ := run_invalidateOsipSh hf
  obtain ⟨hf₂, -, hB₂, -⟩ := run_invalidateOsipSh hf₁
  -- 二度目の `backup_handle` が予備に写したのは、一度目に無効にした主
  have hB : hdrAt st.1.dev backupLoc = (invalidSpec (hdrAt s.dev 0) [1]).sealed s.junk := by
    rw [h₁, hB₂, hP₁ (by simp [hk])]
  obtain ⟨l, h⟩ := run_restore_of_sig (s := st.1) (by rw [h₁]; exact hf₂)
    (by rw [hB, OSIPHeader.sig_sealed]; exact hsig)
  refine ⟨by rw [← hst]; rfl, by simp [Script.restoreOk, h], ?_⟩
  rw [Script.cmds, runScript_restoreOsipSh, h, hdrAt_zero_write_backupLoc_of, hdrAt_write_self, OSIPHeader.desc_sealed, hB, OSIPHeader.desc_sealed]
  simp [invalidSpec, findAttrib_eq_some_iff.mp hk]

end Kboot.Osip.UpdateOsip
