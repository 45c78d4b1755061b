import Kboot.Osip.Theorems.PayloadPaths

/-!
# stitched image の形式の検査

`write_stitch_image` は、ファイルの 9 バイト目の `num_images` が 1 であることと、記述子 0 の
`size_of_os_image * 512` が `size - 512` に等しいことを確かめる。前者は `uint32`、後者は 32 ビットの
`size_t` で計算される。左辺は 512 の倍数なので、検査を通るファイルの長さは 512 の倍数になる。空のファイルでは
`num_images` がバッファの外から読まれるが、`calloc(0, 1)` の塊の 12 バイトは 0 なので、検査は断る。
長さが 512 以上なら、二つの欄はファイルの中から読まれる。

検査を通れば、本体はファイルの 512 バイト目から後ろで、記録される `size_of_os_image` の 512 倍がその長さ。
libosip の `write_payload_os_image` は同じ検査のあと、大きさを自分のページの大きさ `erase_size / 1024` で
数え直すので、ページが 512 バイトでなければ記録される大きさの 512 倍は本体の長さにならない。
-/

namespace Kboot.Osip.UpdateOsip

open OsipUtils ManageDevice

variable {s : Sys}

theorem writeStitchImage_run_empty (n : Int) (h9 : s.junk 9 ≠ 1) :
    (writeStitchImage [] (UInt32.ofNat 0) n).run s = .ok (-1) { s with oob := s.oob ++ [.image 9] } := by
  simp [writeStitchImage, crackStitchedImage, imageByte, logOob, h9]

/-- 開始ブロックが 1 から 2^22 のあいだなら、本体は二つの見出しの後ろに書かれ、`write_stitch_image` が記録した
記述子は、有効な予備があれば予備の、なければ主の見出しの記述子 `n` に残る。 -/
theorem writeStitchImage_recorded (hf : s.faults = []) {data : List UInt8} (hd : StitchedImage data) (n : Fin 7)
    (hv₁ : 1 ≤ ((hdrAt s.dev 0).desc.get n).logicalStartBlock.toNat)
    (hv₂ : ((hdrAt s.dev 0).desc.get n).logicalStartBlock.toNat < 2 ^ 22) :
    let v := ((hdrAt s.dev 0).desc.get n).logicalStartBlock
    let slot := if (hdrAt s.dev backupLoc).sig = osipSig then backupLoc else 0
    ∃ s', (writeStitchImage data (UInt32.ofNat data.length) n).run s = .ok 0 s' ∧
      Store.read s'.dev (v.toNat * 512) (data.length - 512) = data.drop 512 ∧
      (hdrAt s'.dev slot).desc.get n = placedOsii data v (UInt32.ofNat ((data.length - 512) / 512)) := by
  intro v slot
  obtain ⟨l, hw⟩ := writeStitchImage_run_ok hf hd.len_ge hd.len_lt hd.numImages_eq hd.size_eq n
  rw [blobOff_of_lt hv₂] at hw
  refine ⟨_, hw, ?_, ?_⟩
  · dsimp only
    rw [← List.length_drop]
    exact Store.read_write_self _ _ _
  -- 二つの見出しは 512 バイト目より前にあり、本体は `v * 512 ≥ 512` バイト目から
  have hslot : slot + 200 ≤ v.toNat * 512 := by
    have hv : 1 ≤ v.toNat := hv₁
    by_cases hB : (hdrAt s.dev backupLoc).sig = osipSig
    · simp only [slot, if_pos hB, backupLoc]
      omega
    · simp only [slot, if_neg hB]
      omega
  dsimp only
  rw [hdrAt_write_of_disjoint (Or.inl hslot)]
  by_cases hB : (hdrAt s.dev backupLoc).sig = osipSig
  · -- 予備があれば `write_OSII_entry` が予備の記述子 `n` を書く
    simp only [slot, v, if_pos hB, hdrAt_write_desc, OSIPHeader.desc_setDesc, Vector.get_eq_getElem,
      Vector.getElem_set_self]
  · simp only [slot, v, if_neg hB, hdrAt_write_self, OSIPHeader.desc_sealed, OSIPHeader.desc_setDesc,
      Vector.get_eq_getElem, Vector.getElem_set_self]

end Kboot.Osip.UpdateOsip
