import Kboot.Osip.Lemmas.Scripts

/-!
# 本体を書く場所

`write_stitch_image` は本体を、装置の見出しから読んだ `logical_start_block` のブロックへ書く。
この値は検査されない。値が 0 なら本体は LBA0 に重なり、2^22 以上 2^23 未満なら `uint32` の積が
32 ビットの `off_t` で負になって `lseek` が失敗し、本体は 0 バイト目に書かれる。`check_image_valid`
も同じ位置を読むので、どちらの場合も検査は通る。
-/

namespace Kboot.Osip.UpdateOsip

open OsipUtils ManageDevice

variable {s : Sys}

/-- 記述子 0 が属性 1 で開始ブロック `v` の、有効な見出し。 -/
def lsbHeader (v : UInt32) : OSIPHeader :=
  { zeroHeader with
    sig := osipSig, headerSize := 200, numPointers := 7
    desc := #v[{ zeroOSII with logicalStartBlock := v, attrib := 1 }, zeroOSII, zeroOSII, zeroOSII, zeroOSII, zeroOSII,
      zeroOSII] }

/-- 大きさ 1 ページの stitched image。本体は 512 バイトの `0xAA`。 -/
def pagedImage : List UInt8 := ((List.replicate 512 0).set 9 1).set 48 1 ++ List.replicate 512 0xAA

/-- 主の見出しが `h` で、`a.bin` が `pagedImage` の状態。 -/
def imageSys (h : OSIPHeader) : Sys where
  dev := Store.write (fun _ => 0) 0 h.toBytes
  faults := []
  files := fun name => if name = "a.bin" then some pagedImage else none
  eraseSize := none
  junk := fun _ => 0
  oob := []

theorem hdrAt_imageSys (h : OSIPHeader) : hdrAt (imageSys h).dev 0 = h := by
  simp only [imageSys, hdrAt_write_self]

theorem length_pagedImage : pagedImage.length = 1024 := by
  simp only [pagedImage, List.length_append, List.length_set, List.length_replicate]

theorem stitchedImage_pagedImage : StitchedImage pagedImage :=
  ⟨by rw [length_pagedImage]; decide, by rw [length_pagedImage]; decide, by decide,
    by rw [length_pagedImage]; decide⟩

/-! ## 開始ブロックが 2^22 以上のとき -/

/-- 開始ブロック `v` が 2^22 以上 2^23 未満の記述子へ書くと、本体は 0 バイト目に書かれ、検査も
0 バイト目を比べて 0 を返す。`v * 512` バイト目からの区間は元のまま。 -/
theorem stitch_blob_wraps_to_zero (hf : s.faults = []) {data : List UInt8} (hd : StitchedImage data) (n : Fin 7)
    (h₁ : 2 ^ 22 ≤ ((hdrAt s.dev 0).desc.get n).logicalStartBlock.toNat)
    (h₂ : ((hdrAt s.dev 0).desc.get n).logicalStartBlock.toNat < 2 ^ 23) :
    let v := ((hdrAt s.dev 0).desc.get n).logicalStartBlock
    ∃ s', (writeStitchImage data (UInt32.ofNat data.length) n).run s = .ok 0 s' ∧
      Store.read s'.dev 0 (data.length - 512) = data.drop 512 ∧
      Store.read s'.dev (v.toNat * 512) (data.length - 512) = Store.read s.dev (v.toNat * 512) (data.length - 512) := by
  intro v
  have hv : 2 ^ 22 ≤ v.toNat := h₁
  have hL := hd.len_lt
  obtain ⟨l, hw⟩ := writeStitchImage_run_nil hf hd.len_ge hd.len_lt hd.numImages_eq hd.size_eq n
  rw [blobOff_of_wrap h₁ h₂, checkOff_of_wrap h₁ h₂] at hw
  set P := hdrAt s.dev 0
  set B := hdrAt s.dev backupLoc
  set o := placedOsii data v (UInt32.ofNat ((data.length - 512) / 512))
  set q := ({ P with numImages := 1 }.setDesc n o).sealed s.junk
  set dev₁ := if (n : Int) = pos then Store.write s.dev 0 q.toBytes else s.dev with hdev₁
  set dev₂ := if B.sig = osipSig then Store.write dev₁ (backupLoc + osipPreamble + 24 * n) o.toBytes
    else Store.write dev₁ 0 q.toBytes with hdev₂
  have hpay : Store.read (Store.write dev₂ 0 (data.drop 512)) 0 (data.length - 512) = data.drop 512 := by
    rw [← List.length_drop]
    exact Store.read_write_self _ _ _
  rw [if_pos hpay] at hw
  -- 見出しの書き込みも本体の書き込みも 2^31 バイト目より前で終わる
  have hlow : ∀ (m : Nat → UInt8) (a : Nat) (bs : List UInt8), a + bs.length ≤ 2 ^ 31 →
      Store.read (Store.write m a bs) (v.toNat * 512) (data.length - 512) =
        Store.read m (v.toNat * 512) (data.length - 512) :=
    fun m a bs h => Store.read_write_of_disjoint (Or.inr (by omega))
  have hentry : backupLoc + osipPreamble + 24 * (n : Nat) + o.toBytes.length ≤ 2 ^ 31 := by
    simp only [backupLoc, osipPreamble, OSII.length_toBytes]
    omega
  have h₁' : Store.read dev₁ (v.toNat * 512) (data.length - 512) = Store.read s.dev (v.toNat * 512) (data.length - 512) := by
    rw [hdev₁]
    split_ifs
    · exact hlow _ _ _ (by simp)
    · rfl
  have h₂' : Store.read dev₂ (v.toNat * 512) (data.length - 512) = Store.read s.dev (v.toNat * 512) (data.length - 512) := by
    rw [hdev₂]
    split_ifs
    · rw [hlow _ _ _ hentry, h₁']
    · rw [hlow _ _ _ (by simp), h₁']
  refine ⟨_, hw, hpay, ?_⟩
  rw [hlow _ _ _ (by simp; omega), h₂']

theorem stitch_blob_wraps_to_zero_sample :
    let s := imageSys (lsbHeader 0x400000)
    ∃ s', (writeStitchImage pagedImage (UInt32.ofNat pagedImage.length) 0).run s = .ok 0 s' ∧
      Store.read s'.dev 0 (pagedImage.length - 512) = pagedImage.drop 512 ∧
      Store.read s'.dev (0x400000 * 512) (pagedImage.length - 512) =
        Store.read s.dev (0x400000 * 512) (pagedImage.length - 512) := by
  have hv : ((lsbHeader 0x400000).desc.get 0).logicalStartBlock.toNat = 0x400000 := rfl
  have h := stitch_blob_wraps_to_zero (s := imageSys (lsbHeader 0x400000)) rfl stitchedImage_pagedImage 0
    (by rw [hdrAt_imageSys, hv]; norm_num) (by rw [hdrAt_imageSys, hv]; norm_num)
  simp only at h
  rw [hdrAt_imageSys, hv] at h
  exact h

/-! ## 開始ブロックが 0 のとき -/

/-- 記述子の開始ブロックが 0 なら、`update_osip --update n --image F` は本体を 0 バイト目から書き、
LBA0 の 446 バイト目からの 66 バイト（分割表）は本体のバイトになる。 -/
theorem flash_overwrites_partition_table (hf : s.faults = []) {f : String} {data : List UInt8}
    (hname : binName f = true) (hfile : s.files f = some data) (hd : StitchedImage data)
    (hL : 1024 ≤ data.length) (n : Fin 7) (h0 : ((hdrAt s.dev 0).desc.get n).logicalStartBlock = 0) :
    ∃ s', run [.update (toString (n : Nat)), .image f] s = (.exit 0, s') ∧
      Store.read s'.dev 446 66 = (data.drop 958).take 66 := by
  have hv : ((hdrAt s.dev 0).desc.get n).logicalStartBlock.toNat < 2 ^ 22 := by
    rw [h0]
    decide
  obtain ⟨l, hrun⟩ := run_update_image_nil hf hname hfile hd n hv
  refine ⟨_, hrun, ?_⟩
  simp only [h0, UInt32.toNat_zero, Nat.zero_mul]
  rw [Store.read_write_of_disjoint (Or.inr (by simp)), show 446 = 0 + 446 from rfl,
    Store.read_write_sub _ _ _ _ _ (by simp; omega), List.drop_drop]

theorem flash_overwrites_partition_table_sample :
    ∃ s', run [.update (toString ((0 : Fin 7) : Nat)), .image "a.bin"] (imageSys (lsbHeader 0)) = (.exit 0, s') ∧
      Store.read s'.dev 446 66 = (pagedImage.drop 958).take 66 :=
  flash_overwrites_partition_table rfl (by decide) (by simp [imageSys]) stitchedImage_pagedImage
    length_pagedImage.ge 0 (by rw [hdrAt_imageSys]; rfl)

end Kboot.Osip.UpdateOsip
