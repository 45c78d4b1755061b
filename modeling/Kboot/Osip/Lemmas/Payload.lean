import Kboot.Osip.Lemmas.Stitched

/-!
# libosip の `write_payload_os_image` の補題

libosip の版は、sysfs の `erase_size` を 1024 で割った値をページとブロックの大きさに使う。本体は記述子 0
（payload）と記述子 1（POS）の開始ブロックの大きい方へ書き、小さい方を記述子 1 に残す。大きさの欄は
ページの大きさで数え直す。
-/

namespace Kboot.Osip.ManageDevice

variable {s : Sys}

theorem descRead_payload (osip : OSIPHeader) : descRead osip payloadOsiiRec = pure osip.desc[(0 : Fin 7)] :=
  descRead_of_lt osip 0

theorem descRead_pos (osip : OSIPHeader) : descRead osip posOsiiRec = pure osip.desc[(1 : Fin 7)] :=
  descRead_of_lt osip 1

theorem descWrite_payload (osip : OSIPHeader) (o : OSII) :
    descWrite osip payloadOsiiRec o = pure (osip.setDesc 0 o) :=
  descWrite_of_lt osip 0 o

theorem descWrite_pos (osip : OSIPHeader) (o : OSII) : descWrite osip posOsiiRec o = pure (osip.setDesc 1 o) :=
  descWrite_of_lt osip 1 o

/-- `MAX` と `MIN` の `uint32` 版。 -/
theorem uint32_max_of_le {a b : UInt32} (h : b ≤ a) : max a b = a := by
  change (if a ≤ b then b else a) = a
  split
  · exact UInt32.le_antisymm h ‹_›
  · rfl

theorem uint32_min_of_le {a b : UInt32} (h : b ≤ a) : min a b = b := by
  change (if a ≤ b then a else b) = b
  split
  · exact UInt32.le_antisymm ‹_› h
  · rfl

theorem uint32_max_of_ge {a b : UInt32} (h : a ≤ b) : max a b = b := by
  change (if a ≤ b then b else a) = b
  rw [if_pos h]

theorem uint32_min_of_ge {a b : UInt32} (h : a ≤ b) : min a b = a := by
  change (if a ≤ b then a else b) = a
  rw [if_pos h]

theorem getPageSize_some {e : Int} {pg : Nat} (hpg : e.tdiv 1024 = pg) : getPageSize (some e) = pg := by
  simp [getPageSize, kbytes, hpg]

theorem getBlockSize_some {e : Int} {pg : Nat} (hpg : e.tdiv 1024 = pg) : getBlockSize (some e) = pg := by
  simp [getBlockSize, getPageSize_some hpg, mmcPagesPerBlock]

/-- 積が 2^31 より小さければ、本体は数としての `lsb * page_size` バイト目に書かれる。 -/
theorem blobOff_of_mul_lt {v : UInt32} {pg : Nat} (hpg : pg < 2 ^ 32) (h : v.toNat * pg < 2 ^ 31) :
    blobOff v pg = v.toNat * pg := by
  rw [blobOff, uint32_ofInt_natCast, UInt32.toNat_mul, UInt32.toNat_ofNat_of_lt' hpg, Nat.mod_eq_of_lt (by omega),
    offT_of_lt h, lseek_natCast]

/-- どの呼び出しも成功し、`erase_size / 1024` が正のとき。記述子 0 と 1 を書き換えた主の見出しを書き、
本体を二つの開始ブロックの大きい方のブロックへ書く。 -/
theorem writePayloadOsImage_run_nil (hf : s.faults = []) {data : List UInt8} (h512 : 512 ≤ data.length)
    (h31 : data.length < 2 ^ 31) (hcrack : (OSIPHeader.ofBytes data).numImages = 1)
    (hsize : ((OSIPHeader.ofBytes data).desc.get 0).sizeOfOsImage * 512 = UInt32.ofNat data.length - 512)
    {e : Int} {pg : Nat} (he : s.eraseSize = some e) (hpg : e.tdiv 1024 = pg) (hpg₁ : 0 < pg)
    (hpg₂ : pg < 2 ^ 31) :
    let P := hdrAt s.dev 0
    let d := P.desc.get 0
    let p := P.desc.get 1
    let v := max d.logicalStartBlock p.logicalStartBlock
    let o := placedOsii data v (UInt32.ofNat ((data.length - 512) / pg))
    let q := (({ P with numImages := 1 }.setDesc 1
      { p with logicalStartBlock := min d.logicalStartBlock p.logicalStartBlock }).setDesc 0 o).sealed s.junk
    ∃ l, (writePayloadOsImage data (UInt32.ofNat data.length)).run s =
      .ok 0 { s with
        dev := Store.write (Store.write s.dev 0 q.toBytes) (blobOff v pg) (data.drop 512)
        oob := s.oob ++ l } := by
  intro P d p v o q
  have hLs : data.length < UInt32.size := by simp only [UInt32.size]; omega
  have hsub : UInt32.ofNat data.length - 512 = UInt32.ofNat (data.length - 512) := by
    apply UInt32.toNat_inj.mp
    rw [UInt32.toNat_sub_of_le _ _ (by rw [UInt32.le_iff_toNat_le, UInt32.toNat_ofNat_of_lt' hLs]; simpa using h512),
      UInt32.toNat_ofNat_of_lt' hLs, UInt32.toNat_ofNat_of_lt' (by omega)]
    rfl
  have hcr := crackStitchedImage_run (show 10 ≤ data.length by omega)
  have hdiv := OsipUtils.size_div_page h512 h31 (show pg < 2 ^ 32 by omega) hsize
  have hpage : UInt32.ofInt (pg : Int) = UInt32.ofNat pg := uint32_ofInt_natCast pg
  have hpage₀ : ¬UInt32.ofNat pg = 0 := by
    intro h
    have h' := congrArg UInt32.toNat h
    rw [UInt32.toNat_ofNat_of_lt' (by simp only [UInt32.size]; omega)] at h'
    simp at h'
    omega
  have hnn : ¬(pg : Int) < 0 := by omega
  obtain ⟨A, o₀, C, hA, rfl⟩ := exists_split (show 56 ≤ data.length by omega)
  simp only [Vector.get_eq_getElem, Fin.val_zero, desc_zero_ofBytes hA] at hsize hdiv
  have hofInt : UInt32.ofInt 512 = 512 := rfl
  simp only [writePayloadOsImage, EStateM.run_bind, EStateM.run_get]
  -- 大きさを sysfs から読むところを先に置き換える（一度の simp にまとめると核での検査が重くなる）
  rw [he]
  simp only [EStateM.run_bind, getPageSize_some hpg, getBlockSize_some hpg, hnn, if_false, stitchedImagePageSize, stitchedImageBlockSize, hofInt, hcr, hcrack,
    bne_self_eq_false, Bool.false_eq_true, Int.reduceLT, imageU32_size hA, EStateM.run_pure, hsize,
    readOSIP_run_nil hf]
  have hlenX : ∀ o' : OSII, (A ++ o'.toBytes ++ C).length = (A ++ o₀.toBytes ++ C).length := by simp
  have hpay : ∀ o' : OSII, imageRead (A ++ o'.toBytes ++ C) 512 (UInt32.ofNat ((A ++ o₀.toBytes ++ C).length - 512)).toNat =
      pure ((A ++ o₀.toBytes ++ C).drop 512) := by
    intro o'
    rw [UInt32.toNat_ofNat_of_lt' (by omega), ← hlenX o', imageRead_payload (by rw [hlenX]; exact h512),
      drop_payload hA]
  have hlt : ∀ x : UInt32, (x < x) = False := fun x => by simp
  simp (disch := simp [hf]) only [descRead_payload, descRead_pos, EStateM.run_pure, imageSetU32_lsb hA,
    descWrite_pos, imageU32_size hA, hpage, hpage₀, if_false, EStateM.run_bind, imageSetU32_size hA, hdiv,
    imageOSII_desc hA, descWrite_payload, writeOSIP_run_nil, devOpen_run_nil, Bool.not_true, Bool.false_eq_true,
    imageU32_lsb hA, hsub, hpay, devWrite_run_nil, List.length_drop, uint32_ofInt_natCast, hlt]
  simp only [q, o, v, d, p, P, placedOsii, desc_zero_ofBytes hA, blobOff, hpage]
  exact ⟨_, by rw [← he]; simp only [List.append_assoc]; rfl⟩

/-- `erase_size` が 1024 より小さければページの大きさは 0 で、大きさの欄を `uint32` の 0 で割る。 -/
theorem writePayloadOsImage_run_of_page_zero (hf : s.faults = []) {data : List UInt8} (h512 : 512 ≤ data.length)
    (h31 : data.length < 2 ^ 31) (hcrack : (OSIPHeader.ofBytes data).numImages = 1)
    (hsize : ((OSIPHeader.ofBytes data).desc.get 0).sizeOfOsImage * 512 = UInt32.ofNat data.length - 512)
    {e : Int} (he : s.eraseSize = some e) (hpg : e.tdiv 1024 = 0) :
    ∃ s', (writePayloadOsImage data (UInt32.ofNat data.length)).run s = .error (.ub .divZero) s' := by
  have hcr := crackStitchedImage_run (show 10 ≤ data.length by omega)
  have hpg' : e.tdiv 1024 = ((0 : Nat) : Int) := hpg
  have hnn : ¬((0 : Nat) : Int) < 0 := by omega
  have hzero : UInt32.ofInt ((0 : Nat) : Int) = 0 := rfl
  obtain ⟨A, o₀, C, hA, rfl⟩ := exists_split (show 56 ≤ data.length by omega)
  simp only [Vector.get_eq_getElem, Fin.val_zero, desc_zero_ofBytes hA] at hsize
  have hofInt : UInt32.ofInt 512 = 512 := rfl
  simp only [writePayloadOsImage, EStateM.run_bind, EStateM.run_get]
  rw [he]
  simp only [EStateM.run_bind, getPageSize_some hpg', getBlockSize_some hpg', hnn, if_false, stitchedImagePageSize,
    stitchedImageBlockSize, hofInt, hcr, hcrack, bne_self_eq_false, Bool.false_eq_true, Int.reduceLT,
    imageU32_size hA, EStateM.run_pure, hsize, readOSIP_run_nil hf]
  simp only [descRead_payload, descRead_pos, EStateM.run_pure, imageSetU32_lsb hA, descWrite_pos, imageU32_size hA,
    hzero, if_true, EStateM.run_bind, EStateM.run_throw]
  exact ⟨_, rfl⟩

end Kboot.Osip.ManageDevice
