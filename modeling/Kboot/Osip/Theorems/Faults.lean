import Kboot.Osip.Theorems.Placement

/-!
# 失敗する呼び出しのあとに書かれるもの

`read_OSIP_loc` は読む前に見出しのバッファを 0 で埋める。`update_handle` はその戻り値を見ないので、
読み出しが失敗すると 0 の見出しを主の場所へ書く。`write_stitch_image` は本体より先に記述子を書き、
`flash_stitched.sh` は一回目の `update_osip` の終了状態を見ずに `--restore` を実行する。
-/

namespace Kboot.Osip.UpdateOsip

open OsipUtils ManageDevice

variable {s : Sys}

/-! ## 読み出しの失敗と `update_handle` -/

/-- 主の見出しを開くか読むかが失敗すると、`update_osip --update n` は 0 で埋めた見出しを主の場所へ
書いて 0 で終わる。 -/
theorem update_writes_zero_header (hf : s.faults = [.fail] ∨ s.faults = [.ok, .fail]) (n : Fin 7) :
    run [.update (toString (n : Nat))] s =
      (.exit 0, { s with faults := [], dev := Store.write s.dev 0 zeroHeader.toBytes }) := by
  have hup := updateHandle_run_of_fail hf Vars.init.osii n
  have hsize : zeroHeader.headerSize.toNat ≤ 200 := by decide
  have hptr : zeroHeader.numPointers.toNat ≤ 7 := by decide
  have hsig : zeroHeader.sig ≠ osipSig := by decide
  simp only [mergeOsii_init, Vector.get_eq_getElem, OSIPHeader.setDesc_getElem, OSIPHeader.sealed_zeroHeader,
    headerOob_eq_nil hsize, descOob_eq_nil hptr, dumpOob_of_not_sig hsig, List.append_nil] at hup
  rw [← atoi_toString n] at hup
  rw [run_update_of_ok hup]

theorem update_writes_zero_header_sample :
    let s := { imageSys (lsbHeader 8) with faults := [.fail] }
    run [.update (toString ((0 : Fin 7) : Nat))] s =
      (.exit 0, { s with faults := [], dev := Store.write s.dev 0 zeroHeader.toBytes }) :=
  update_writes_zero_header (Or.inl rfl) 0

/-! ## `flash_stitched.sh` と本体の書き込みの失敗 -/

/-- 予備の見出しが有効なとき、一回目の `update_osip --update 0 --image F` が予備の記述子 0 を書いたあとで
本体のための `open` に失敗しても、`--restore` がその記述子を主へ写す。主の記述子 0 は新しいイメージを
指すが、指す先のバイトは元のまま。 -/
theorem flash_script_commits_unwritten_image (hf : s.faults = [.ok, .ok, .ok, .ok, .ok, .ok, .fail])
    {f : String} {data : List UInt8} (hname : binName f = true) (hfile : s.files f = some data)
    (hd : StitchedImage data) (hB : (hdrAt s.dev backupLoc).sig = osipSig)
    (hv : 1 ≤ ((hdrAt s.dev 0).desc.get 0).logicalStartBlock.toNat) :
    let v := ((hdrAt s.dev 0).desc.get 0).logicalStartBlock
    let s' := runScript (flashStitchedSh f) s
    (hdrAt s'.dev 0).desc.get 0 = placedOsii data v (UInt32.ofNat ((data.length - 512) / 512)) ∧
      Store.read s'.dev (v.toNat * 512) (data.length - 512) = Store.read s.dev (v.toNat * 512) (data.length - 512) := by
  intro v s'
  have hv' : 1 ≤ v.toNat := hv
  set o := placedOsii data v (UInt32.ofNat ((data.length - 512) / 512)) with ho
  have hw := writeStitchImage_run_of_blob_open_fail hf hd.len_ge hd.len_lt hd.numImages_eq hd.size_eq 0
    (by simp [pos]) hB
  set D₁ := Store.write s.dev (backupLoc + osipPreamble + 24 * ((0 : Fin 7) : Nat)) o.toBytes with hD₁
  have hfl : (flashStitchImage f (atoi "0")).run s = .ok (-1) { s with faults := [], dev := D₁ } := by
    rw [show atoi "0" = ((0 : Fin 7) : Nat) by decide, flashStitchImage_run hname hfile hd.len_lt]
    exact hw
  have h₁ := run_update_image_of_ne hfl (by decide)
  -- 一回目で予備の見出しの記述子 0 だけが新しくなる
  have hB₁ : hdrAt D₁ backupLoc = (hdrAt s.dev backupLoc).setDesc 0 o := hdrAt_write_desc _ _ _ _
  obtain ⟨l, h₂⟩ := run_restore_of_sig (s := { s with faults := [], dev := D₁ }) rfl
    (by simp only; rw [hB₁, OSIPHeader.sig_setDesc, hB])
  have hs' : s' = { s with
      faults := []
      dev := Store.write (Store.write D₁ 0 ((hdrAt D₁ backupLoc).sealed s.junk).toBytes) backupLoc
        (List.replicate 200 0)
      oob := s.oob ++ l } := by
    simp only [s', runScript_flashStitchedSh, h₁, h₂]
  rw [hs']
  refine ⟨?_, ?_⟩
  · rw [hdrAt_write_of_disjoint (Or.inl (by simp [backupLoc])), hdrAt_write_self, OSIPHeader.desc_sealed, hB₁,
      OSIPHeader.desc_setDesc]
    simp
  · rw [Store.read_write_of_disjoint (Or.inr (by simp only [List.length_replicate, backupLoc]; omega)),
      Store.read_write_of_disjoint (Or.inr (by simp; omega)), hD₁,
      Store.read_write_of_disjoint (Or.inr (by simp [backupLoc, osipPreamble]; omega))]

/-- 主と予備の見出しがどちらも `lsbHeader 8` で、七つ目の呼び出しが失敗する状態。 -/
def backedSys : Sys :=
  { imageSys (lsbHeader 8) with
    dev := Store.write (imageSys (lsbHeader 8)).dev backupLoc (lsbHeader 8).toBytes
    faults := [.ok, .ok, .ok, .ok, .ok, .ok, .fail] }

theorem hdrAt_backedSys : hdrAt backedSys.dev 0 = lsbHeader 8 := by
  simp only [backedSys]
  rw [hdrAt_write_of_disjoint (Or.inl (by simp [backupLoc])), hdrAt_imageSys]

theorem hdrAt_backedSys_backup : hdrAt backedSys.dev backupLoc = lsbHeader 8 := by
  simp only [backedSys, hdrAt_write_self]

theorem flash_script_commits_unwritten_image_sample :
    let s' := runScript (flashStitchedSh "a.bin") backedSys
    (hdrAt s'.dev 0).desc.get 0 = placedOsii pagedImage 8 (UInt32.ofNat ((pagedImage.length - 512) / 512)) ∧
      Store.read s'.dev (8 * 512) (pagedImage.length - 512) =
        Store.read backedSys.dev (8 * 512) (pagedImage.length - 512) := by
  have h := flash_script_commits_unwritten_image (s := backedSys) rfl (by decide)
    (show backedSys.files "a.bin" = some pagedImage by simp [backedSys, imageSys]) stitchedImage_pagedImage
    (by rw [hdrAt_backedSys_backup]; rfl) (by rw [hdrAt_backedSys]; decide)
  have h8 : ((lsbHeader 8).desc.get 0).logicalStartBlock = 8 := rfl
  simp only at h
  rw [hdrAt_backedSys, h8] at h
  exact h

/-! ## 主の見出しへの短い書き込みと `restore_handle` -/

/-- `write_OSIP` は負の戻り値だけを失敗と見る。主の見出しへの `write` が `k` バイトで終わると、
`restore_handle` は予備を 0 で消して 0 を返し、主の見出しには予備の先頭 `k` バイトと元のバイトが残る。
もう一度走らせても、予備がないので -1 を返して何も変えない。 -/
theorem restore_short_write_loses_backup {k : Nat} (hf : s.faults = [.ok, .ok, .ok, .short k, .ok, .ok])
    (hb : (hdrAt s.dev backupLoc).sig = osipSig) (hk : k < 200) :
    let B := hdrAt s.dev backupLoc
    ∃ s₁, restoreHandle.run s = .ok 0 s₁ ∧ s₁.faults = [] ∧
      Store.read s₁.dev 0 200 = (B.sealed s.junk).toBytes.take k ++ Store.read s.dev k (200 - k) ∧
      (hdrAt s₁.dev backupLoc).sig ≠ osipSig ∧ restoreHandle.run s₁ = .ok (-1) s₁ := by
  intro B
  set T := (B.sealed s.junk).toBytes.take k with hT
  have hTlen : T.length = k := by
    rw [hT, List.length_take, OSIPHeader.length_toBytes]
    omega
  have hsig : (hdrAt (Store.write (Store.write s.dev 0 T) backupLoc (List.replicate 200 0)) backupLoc).sig ≠ osipSig := by
    rw [hdrAt_write_zeros]
    exact sig_zeroHeader
  refine ⟨_, restoreHandle_run_of_short hf hb, rfl, ?_, hsig, restoreHandle_run_of_not_sig rfl hsig⟩
  -- 主の見出しの場所は、短い書き込みの `k` バイトと、その後ろの元のバイト
  calc Store.read (Store.write (Store.write s.dev 0 T) backupLoc (List.replicate 200 0)) 0 200
      = Store.read (Store.write s.dev 0 T) 0 200 :=
        Store.read_write_of_disjoint (Or.inl (by simp [backupLoc]))
    _ = Store.read (Store.write s.dev 0 T) 0 (T.length + (200 - k)) := by rw [hTlen, Nat.add_sub_cancel' hk.le]
    _ = T ++ Store.read s.dev k (200 - k) := by
        rw [Store.read_add, Store.read_write_self, Store.read_write_of_disjoint (Or.inr (by omega)), Nat.zero_add,
          hTlen]

/-- 主の見出しが `lsbHeader 9`、予備が `lsbHeader 8` で、主への `write` が 10 バイトで終わる状態。 -/
def shortRestoreSys : Sys :=
  { imageSys (lsbHeader 9) with
    dev := Store.write (imageSys (lsbHeader 9)).dev backupLoc (lsbHeader 8).toBytes
    faults := [.ok, .ok, .ok, .short 10, .ok, .ok] }

theorem hdrAt_shortRestoreSys_backup : hdrAt shortRestoreSys.dev backupLoc = lsbHeader 8 := by
  simp only [shortRestoreSys, hdrAt_write_self]

theorem restore_short_write_loses_backup_sample :
    let B := hdrAt shortRestoreSys.dev backupLoc
    ∃ s₁, restoreHandle.run shortRestoreSys = .ok 0 s₁ ∧ s₁.faults = [] ∧
      Store.read s₁.dev 0 200 =
        (B.sealed shortRestoreSys.junk).toBytes.take 10 ++ Store.read shortRestoreSys.dev 10 (200 - 10) ∧
      (hdrAt s₁.dev backupLoc).sig ≠ osipSig ∧ restoreHandle.run s₁ = .ok (-1) s₁ :=
  restore_short_write_loses_backup rfl (by rw [hdrAt_shortRestoreSys_backup]; rfl) (by norm_num)

end Kboot.Osip.UpdateOsip
