import Kboot.Osip.Lemmas.OsipUtils

/-!
# stitched image の書き込みと検査の補題

stitched image は 512 バイトの見出し（`struct OSIP_header` の形）と、そのあとの本体からなる。見出しの
記述子 0 は 32 バイト目からの 24 バイト。`write_stitch_image` と `write_payload_os_image` は、この記述子
の `logical_start_block` と `size_of_os_image` をファイルの読み込み先のバッファの上で書き換え、装置の
見出しへ写し、本体を `logical_start_block` のブロックへ書く。

どの呼び出しも成功する eMMC で、形式の検査を通るイメージについての各関数の結果。
-/

namespace Kboot.Osip

open Bytes

/-- イメージの記述子 0 に、装置の上の開始ブロックと大きさを入れたもの。 -/
def placedOsii (data : List UInt8) (lsb size : UInt32) : OSII :=
  { (OSIPHeader.ofBytes data).desc[0] with logicalStartBlock := lsb, sizeOfOsImage := size }

/-- 本体を書く位置: `logical_start_block * block_size` を `uint32` で計算し、`off_t` にして `lseek` する。 -/
def blobOff (lsb : UInt32) (blockSize : Int) : Nat := lseek 0 (offT (lsb * UInt32.ofInt blockSize).toNat)

/-- 本体を書く位置は、数としての `lsb * 512` を 32 ビットの符号付きの値にしたもの。 -/
theorem blobOff_eq (v : UInt32) : blobOff v 512 = lseek 0 (((v.toNat * 512 : Nat) : Int).bmod (2 ^ 32)) := by
  rw [blobOff, offT_uint32, UInt32.toNat_mul, Int.natCast_emod]
  exact congrArg _ (Int.emod_bmod _ _)

/-- `check_image_valid` は `(int) lsb * 512` へ `lseek` する。`int` の掛け算も 32 ビットで回るので、
位置は本体を書く位置と同じ値になる。 -/
theorem checkOff_eq (v : UInt32) :
    lseek 0 (v.toInt32 * 512).toInt = lseek 0 (((v.toNat * 512 : Nat) : Int).bmod (2 ^ 32)) := by
  rw [Int32.toInt_mul, toInt_toInt32, Int.bmod_mul_bmod]
  rfl

/-- 開始ブロックが 2^22 より小さければ、本体は数としての `lsb * 512` バイト目に書かれる。 -/
theorem blobOff_of_lt {v : UInt32} (hv : v.toNat < 2 ^ 22) : blobOff v 512 = v.toNat * 512 := by
  rw [blobOff_eq, lseek_bmod_of_lt (by omega)]

theorem checkOff_of_lt {v : UInt32} (hv : v.toNat < 2 ^ 22) :
    lseek 0 (v.toInt32 * 512).toInt = v.toNat * 512 := by
  rw [checkOff_eq, lseek_bmod_of_lt (by omega)]

/-- 開始ブロックが 2^22 以上 2^23 未満では `off_t` の位置が負になり、`lseek` が失敗して 0 バイト目のまま
書く。 -/
theorem blobOff_of_wrap {v : UInt32} (h₁ : 2 ^ 22 ≤ v.toNat) (h₂ : v.toNat < 2 ^ 23) : blobOff v 512 = 0 := by
  rw [blobOff_eq, lseek_bmod_of_ge (by omega) (by omega)]

theorem checkOff_of_wrap {v : UInt32} (h₁ : 2 ^ 22 ≤ v.toNat) (h₂ : v.toNat < 2 ^ 23) :
    lseek 0 (v.toInt32 * 512).toInt = 0 := by
  rw [checkOff_eq, lseek_bmod_of_ge (by omega) (by omega)]

/-! ## イメージの並び -/

section Image

variable {A C : List UInt8} {o : OSII}

theorem exists_split {data : List UInt8} (h : 56 ≤ data.length) :
    ∃ A o C, A.length = 32 ∧ data = A ++ OSII.toBytes o ++ C := by
  refine ⟨data.take 32, OSII.ofBytes (data.drop 32), data.drop 56, by simp; omega, ?_⟩
  rw [OSII.toBytes_ofBytes (by simp; omega), take_append_take_drop, List.take_append_drop]

theorem desc_zero_ofBytes (hA : A.length = 32) : (OSIPHeader.ofBytes (A ++ o.toBytes ++ C)).desc[0] = o := by
  simp [OSIPHeader.ofBytes, List.drop_append, hA]

theorem imageU32_lsb (hA : A.length = 32) : imageU32 (A ++ o.toBytes ++ C) 36 = pure o.logicalStartBlock := by
  rw [imageU32_of_le (by simp [hA]; omega), show 36 = A.length + 4 by omega, ← List.drop_drop,
    List.append_assoc, List.drop_left]
  simp

theorem imageU32_size (hA : A.length = 32) : imageU32 (A ++ o.toBytes ++ C) 48 = pure o.sizeOfOsImage := by
  rw [imageU32_of_le (by simp [hA]; omega), show 48 = A.length + 16 by omega, ← List.drop_drop,
    List.append_assoc, List.drop_left]
  simp

theorem imageOSII_desc (hA : A.length = 32) : imageOSII (A ++ o.toBytes ++ C) 32 = pure o := by
  rw [imageOSII_of_le (by simp only [List.length_append, OSII.length_toBytes, hA]; omega), ← hA, List.append_assoc, List.drop_left, List.take_left' (by simp)]
  simp

theorem imageSetU32_lsb (hA : A.length = 32) (v : UInt32) :
    imageSetU32 (A ++ o.toBytes ++ C) 36 v = pure (A ++ ({ o with logicalStartBlock := v } : OSII).toBytes ++ C) := by
  rw [OSII.toBytes_logicalStartBlock o v, imageSetU32_of_le (by simp [hA]; omega)]
  simp [List.take_append, List.drop_append, hA, List.take_of_length_le, List.drop_eq_nil_of_le]

theorem imageSetU32_size (hA : A.length = 32) (v : UInt32) :
    imageSetU32 (A ++ o.toBytes ++ C) 48 v = pure (A ++ ({ o with sizeOfOsImage := v } : OSII).toBytes ++ C) := by
  rw [OSII.toBytes_sizeOfOsImage o v, imageSetU32_of_le (by simp [hA]; omega)]
  simp [List.take_append, List.drop_append, hA, List.take_of_length_le, List.drop_eq_nil_of_le]

/-- 見出しの記述子 0 を書き換えても、512 バイト目からの本体は変わらない。 -/
theorem drop_payload (hA : A.length = 32) (o' : OSII) :
    (A ++ o'.toBytes ++ C).drop 512 = (A ++ o.toBytes ++ C).drop 512 := by
  simp [List.drop_append, hA, List.drop_eq_nil_of_le]

theorem imageRead_payload {data : List UInt8} (h : 512 ≤ data.length) :
    imageRead data 512 (data.length - 512) = pure (data.drop 512) := by
  rw [imageRead_of_le (by omega), List.take_of_length_le (by simp)]

end Image

namespace ManageDevice

theorem crackStitchedImage_run {data : List UInt8} (h : 10 ≤ data.length) (s : Sys) :
    (crackStitchedImage data).run s = .ok (if (OSIPHeader.ofBytes data).numImages != 1 then -1 else 1) s := by
  have h9 : data[9] = (OSIPHeader.ofBytes data).numImages := by
    simp [OSIPHeader.ofBytes, getU8_drop, List.getElem?_eq_getElem (show 9 < data.length by omega)]
  by_cases hn : (OSIPHeader.ofBytes data).numImages = 1
  · simp [crackStitchedImage, imageByte_of_lt (show 9 < data.length by omega), h9, hn]
  · simp [crackStitchedImage, imageByte_of_lt (show 9 < data.length by omega), h9, hn]

theorem crackStitchedImage_run_any (data : List UInt8) (s : Sys) :
    ∃ c l, (crackStitchedImage data).run s = .ok c { s with oob := s.oob ++ l } := by
  obtain ⟨b, l, h⟩ := imageByte_run data 9 s
  by_cases hb : b = 1
  · exact ⟨1, l, by simp [crackStitchedImage, h, hb]⟩
  · exact ⟨-1, l, by simp [crackStitchedImage, h, hb]⟩

end ManageDevice

/-! ## 大きさの検査 -/

/-- 大きさの検査の左辺は 512 の倍数なので、検査を通る長さは 512 の倍数。 -/
theorem size_check_mod {x : UInt32} {L : Nat} (hL : L < 2 ^ 32) (h : x * 512 = UInt32.ofNat L - 512) :
    L % 512 = 0 := by
  have h' := congrArg UInt32.toNat h
  rw [UInt32.toNat_mul, UInt32.toNat_sub, UInt32.toNat_ofNat_of_lt' (by simpa [UInt32.size] using hL)] at h'
  simp only [UInt32.reduceToNat] at h'
  omega

namespace OsipUtils

open ManageDevice

variable {s : Sys}

/-! ## イメージの検査 -/

theorem checkBlocks_run_nil (hf : s.faults = []) (data : List UInt8) (k : Nat) :
    ∀ off b, b + 512 * k ≤ data.length →
      (checkBlocks data k off b).run s =
        .ok (decide (Store.read s.dev off (512 * k) = (data.drop b).take (512 * k))) s := by
  induction k with
  | zero => intro off b _; simp [checkBlocks]
  | succ k ih =>
    intro off b hb
    have hsplit : Store.read s.dev off (512 * (k + 1)) = Store.read s.dev off 512 ++ Store.read s.dev (off + 512) (512 * k) := by
      rw [show 512 * (k + 1) = 512 + 512 * k by ring, Store.read_add]
    have hdata : (data.drop b).take (512 * (k + 1)) = (data.drop b).take 512 ++ (data.drop (b + 512)).take (512 * k) := by
      rw [show 512 * (k + 1) = 512 + 512 * k by ring, ← take_append_take_drop, List.drop_drop]
    have hb' : b + 512 ≤ data.length := by linarith
    rw [checkBlocks]
    have happ : ∀ {l₁ l₂ m₁ m₂ : List UInt8}, l₁.length = m₁.length → (l₁ ++ l₂ = m₁ ++ m₂ ↔ l₁ = m₁ ∧ l₂ = m₂) :=
      fun h => ⟨fun e => List.append_inj e h, fun ⟨e₁, e₂⟩ => e₁ ▸ e₂ ▸ rfl⟩
    have hlen : (Store.read s.dev off 512).length = ((data.drop b).take 512).length := by
      rw [Store.length_read, List.length_take, List.length_drop, Nat.min_eq_left (Nat.le_sub_of_add_le' hb')]
    simp only [EStateM.run_bind, devRead_run_nil hf, imageRead_of_le hb', hsplit, hdata, happ hlen]
    by_cases heq : (data.drop b).take 512 = Store.read s.dev off 512
    · simp [heq, ih (off + 512) (b + 512) (by linarith)]
    · have hne : Store.read s.dev off 512 ≠ (data.drop b).take 512 := fun e => heq e.symm
      simp [heq, hne]

theorem checkImageValid_run_nil (hf : s.faults = []) {data : List UInt8} {L : Nat} (hL : data.length = L)
    (h512 : 512 ≤ L) (h31 : L < 2 ^ 31) (lsb : Int32) :
    (checkImageValid (UInt32.ofNat L) data 512 lsb).run s =
      .ok (if Store.read s.dev (lseek 0 (lsb * 512).toInt) (L - 512) = data.drop 512 then 0 else -1) s := by
  subst hL
  have hL32 : (UInt32.ofNat data.length).toNat = data.length :=
    UInt32.toNat_ofNat_of_lt' (by simp [UInt32.size]; omega)
  have hq : 1 ≤ data.length / 512 := (Nat.le_div_iff_mul_le (by norm_num)).mpr (by simpa using h512)
  have hdiv : (UInt32.ofNat data.length / 512 - 1).toNat = data.length / 512 - 1 := by
    rw [UInt32.toNat_sub_of_le _ _ (by rw [UInt32.le_iff_toNat_le, UInt32.toNat_div, hL32]; simpa using hq),
      UInt32.toNat_div, hL32]
    rfl
  have hblk : (Int32.ofNat (UInt32.ofNat data.length / 512 - 1).toNat).toInt =
      ((data.length / 512 - 1 : Nat) : Int) := by
    rw [hdiv, Int32.toInt_ofNat_of_lt (by omega)]
  have hres : (UInt32.ofNat data.length % 512).toNat = data.length % 512 := by
    rw [UInt32.toNat_mod, hL32]
    rfl
  generalize hoff : lseek 0 (lsb * 512).toInt = off
  generalize hm : data.length / 512 - 1 = m at hblk
  generalize hr : data.length % 512 = r at hres
  have hmr : 512 * m + r = data.length - 512 := by
    have := Nat.div_add_mod data.length 512
    rw [← hm, ← hr, Nat.mul_sub_one]
    omega
  have hiff : Store.read s.dev off (data.length - 512) = data.drop 512 ↔
      Store.read s.dev off (512 * m) = (data.drop 512).take (512 * m) ∧
        Store.read s.dev (off + 512 * m) r = (data.drop (512 + 512 * m)).take r := by
    have hdata : data.drop 512 = (data.drop 512).take (512 * m) ++ (data.drop (512 + 512 * m)).take r := by
      rw [← List.drop_drop, take_append_take_drop, hmr, List.take_of_length_le (by simp)]
    have hlen : (Store.read s.dev off (512 * m)).length = ((data.drop 512).take (512 * m)).length := by
      simp only [Store.length_read, List.length_take, List.length_drop]
      omega
    rw [← hmr, Store.read_add]
    nth_rewrite 1 [hdata]
    exact ⟨fun e => List.append_inj e hlen, fun ⟨e₁, e₂⟩ => e₁ ▸ e₂ ▸ rfl⟩
  have himg : imageRead data (512 + 512 * m) r = pure ((data.drop (512 + 512 * m)).take r) :=
    imageRead_of_le (by omega)
  simp only [checkImageValid, EStateM.run_bind, devOpen_run_nil hf, hblk, hres, hoff, Int.toNat_natCast,
    Bool.not_true, Bool.false_eq_true, if_false, checkBlocks_run_nil hf data m off 512 (by omega), hiff]
  by_cases h1 : Store.read s.dev off (512 * m) = (data.drop 512).take (512 * m)
  · rcases Nat.eq_zero_or_pos r with hr0 | hr0
    · simp [h1, hr0]
    · simp only [h1, Nat.pos_iff_ne_zero.mp hr0, devRead_run_nil hf, himg, decide_true, Bool.not_true,
        Bool.false_eq_true, if_false, ne_eq, not_false_eq_true, if_true, EStateM.run_bind, EStateM.run_pure,
        lt_self_iff_false, true_and]
      by_cases h2 : Store.read s.dev (off + 512 * m) r = (data.drop (512 + 512 * m)).take r
      · simp [h2]
      · simp [h2, Ne.symm h2]
  · simp [h1]

/-! ## `write_stitch_image` -/

@[simp] theorem getPageSize_eq : getPageSize = 512 := rfl
@[simp] theorem getBlockSize_eq : getBlockSize = 512 := rfl

/-- 大きさの欄の書き換え: 検査を通った `size_of_os_image * 512` を、`uint32` のままページの大きさ `k` で
割ると、本体の長さを `k` で割ったもの。 -/
theorem size_div_page {L k : Nat} {sz : UInt32} (h512 : 512 ≤ L) (h31 : L < 2 ^ 31) (hk32 : k < 2 ^ 32) (hsize : sz * 512 = UInt32.ofNat L - 512) :
    sz * 512 / UInt32.ofNat k = UInt32.ofNat ((L - 512) / k) := by
  have hsub : (UInt32.ofNat L - 512).toNat = L - 512 := by
    rw [UInt32.toNat_sub_of_le _ _ (by rw [UInt32.le_iff_toNat_le, UInt32.toNat_ofNat_of_lt' (by simp [UInt32.size]; omega)]; simpa using h512),
      UInt32.toNat_ofNat_of_lt' (by simp [UInt32.size]; omega)]
    rfl
  have hq : (L - 512) / k < 2 ^ 32 := lt_of_le_of_lt (Nat.div_le_self _ _) (by omega)
  apply UInt32.toNat_inj.mp
  rw [hsize, UInt32.toNat_div, hsub, UInt32.toNat_ofNat_of_lt' (by simp only [UInt32.size]; omega),
    UInt32.toNat_ofNat_of_lt' (by simp only [UInt32.size]; omega)]

theorem size_div {L : Nat} {sz : UInt32} (h512 : 512 ≤ L) (h31 : L < 2 ^ 31)
    (hsize : sz * 512 = UInt32.ofNat L - 512) : sz * 512 / 512 = UInt32.ofNat ((L - 512) / 512) :=
  size_div_page h512 h31 (by norm_num) hsize

theorem writeStitchImage_run_nil (hf : s.faults = []) {data : List UInt8} (h512 : 512 ≤ data.length)
    (h31 : data.length < 2 ^ 31) (hcrack : (OSIPHeader.ofBytes data).numImages = 1)
    (hsize : ((OSIPHeader.ofBytes data).desc.get 0).sizeOfOsImage * 512 = UInt32.ofNat data.length - 512)
    (n : Fin 7) :
    let v := ((hdrAt s.dev 0).desc.get n).logicalStartBlock
    let o := placedOsii data v (UInt32.ofNat ((data.length - 512) / 512))
    let q := ({ hdrAt s.dev 0 with numImages := 1 }.setDesc n o).sealed s.junk
    let dev₁ := if (n : Int) = pos then Store.write s.dev 0 q.toBytes else s.dev
    let dev₂ := if (hdrAt s.dev backupLoc).sig = osipSig then
        Store.write dev₁ (backupLoc + osipPreamble + 24 * n) o.toBytes
      else Store.write dev₁ 0 q.toBytes
    let dev₃ := Store.write dev₂ (blobOff v 512) (data.drop 512)
    ∃ l, (writeStitchImage data (UInt32.ofNat data.length) n).run s =
      .ok (if Store.read dev₃ (lseek 0 (v.toInt32 * 512).toInt) (data.length - 512) = data.drop 512 then 0 else -1)
        { s with dev := dev₃, oob := s.oob ++ l } := by
  intro v o q dev₁ dev₂ dev₃
  have hLs : data.length < UInt32.size := by simp only [UInt32.size]; omega
  have hsub : UInt32.ofNat data.length - 512 = UInt32.ofNat (data.length - 512) := by
    apply UInt32.toNat_inj.mp
    rw [UInt32.toNat_sub_of_le _ _ (by rw [UInt32.le_iff_toNat_le, UInt32.toNat_ofNat_of_lt' hLs]; simpa using h512),
      UInt32.toNat_ofNat_of_lt' hLs, UInt32.toNat_ofNat_of_lt' (by omega)]
    rfl
  have hcr := crackStitchedImage_run (show 10 ≤ data.length by omega)
  have hdiv := size_div h512 h31 hsize
  obtain ⟨A, o₀, C, hA, rfl⟩ := exists_split (show 56 ≤ data.length by omega)
  simp only [Vector.get_eq_getElem, Fin.val_zero, desc_zero_ofBytes hA] at hsize hdiv
  have hofInt : UInt32.ofInt 512 = 512 := rfl
  simp only [writeStitchImage, getBlockSize_eq, getPageSize_eq, stitchedImagePageSize, stitchedImageBlockSize,
    hofInt, Int.reduceLT, if_false, EStateM.run_bind, hcr, hcrack, bne_self_eq_false, Bool.false_eq_true,
    imageU32_size hA, EStateM.run_pure, hsize, readOSIPLoc_run_nil hf, slotOff_rStart, dumpOob_notDump,
    List.append_nil, lt_self_iff_false]
  simp only [descRead_of_lt, descWrite_of_lt, EStateM.run_pure, imageSetU32_lsb hA, imageU32_size hA,
    imageSetU32_size hA, imageOSII_desc hA, hdiv]
  have hlenX : ∀ o' : OSII, (A ++ o'.toBytes ++ C).length = (A ++ o₀.toBytes ++ C).length := by simp
  have hpay : ∀ o' : OSII, imageRead (A ++ o'.toBytes ++ C) 512 (UInt32.ofNat ((A ++ o₀.toBytes ++ C).length - 512)).toNat =
      pure ((A ++ o₀.toBytes ++ C).drop 512) := by
    intro o'
    rw [UInt32.toNat_ofNat_of_lt' (by omega), ← hlenX o', imageRead_payload (by rw [hlenX]; exact h512),
      drop_payload hA]
  have hchk : ∀ t : Sys, t.faults = [] → ∀ (o' : OSII) (lsb : Int32),
      (checkImageValid (UInt32.ofNat (A ++ o₀.toBytes ++ C).length) (A ++ o'.toBytes ++ C) 512 lsb).run t =
        .ok (if Store.read t.dev (lseek 0 (lsb * 512).toInt) ((A ++ o₀.toBytes ++ C).length - 512) =
          (A ++ o₀.toBytes ++ C).drop 512 then 0 else -1) t := by
    intro t ht o' lsb
    rw [checkImageValid_run_nil ht (hlenX o') h512 h31 lsb, drop_payload hA]
  simp only [hsub, hpay, imageU32_lsb hA]
  have hbk₁ : ∀ h : OSIPHeader, hdrAt (Store.write s.dev 0 h.toBytes) backupLoc = hdrAt s.dev backupLoc :=
    fun h => hdrAt_write_of_disjoint (by simp [backupLoc])
  have hlt : ∀ x : UInt32, (x < x) = False := fun x => by simp
  simp only [dev₃, dev₂, dev₁, o, q, v, placedOsii, desc_zero_ofBytes hA]
  -- 記述子 1（POS）のときだけ、予備の見出しを読む前に主の見出しを書く
  by_cases hpos : ((n : Nat) : Int) = pos
  · simp (disch := simp [hf]) only [if_pos hpos, writeOSIP_run_nil, EStateM.run_bind, EStateM.run_pure,
      readOSIPLoc_run_nil, slotOff_rBck, dumpOob_notDump, List.append_nil, hbk₁]
    by_cases hbk : (hdrAt s.dev backupLoc).sig = osipSig
    · simp (disch := simp [hf]) only [hbk, if_true, bne_self_eq_false, Bool.false_eq_true, if_false,
        writeOSIIEntry_run_nil, EStateM.run_bind, EStateM.run_pure, devOpen_run_nil, Bool.not_true,
        devWrite_run_nil, List.length_drop, uint32_ofInt_natCast, hlt, hchk, blobOff, hofInt]
      exact ⟨_, by simp only [List.append_assoc]; rfl⟩
    · simp (disch := simp [hf]) only [hbk, if_false, bne_iff_ne, ne_eq, not_false_eq_true,
        if_true, writeOSIP_run_nil, OSIPHeader.sealed_sealed, EStateM.run_bind, EStateM.run_pure, devOpen_run_nil,
        Bool.not_true, Bool.false_eq_true, devWrite_run_nil, List.length_drop, uint32_ofInt_natCast, hlt, hchk,
        blobOff, hofInt]
      exact ⟨_, by simp only [List.append_assoc]; rfl⟩
  · simp (disch := simp [hf]) only [if_neg hpos, EStateM.run_bind, EStateM.run_pure, readOSIPLoc_run_nil,
      slotOff_rBck, dumpOob_notDump, List.append_nil]
    by_cases hbk : (hdrAt s.dev backupLoc).sig = osipSig
    · simp (disch := simp [hf]) only [hbk, if_true, bne_self_eq_false, Bool.false_eq_true, if_false,
        writeOSIIEntry_run_nil, EStateM.run_bind, EStateM.run_pure, devOpen_run_nil, Bool.not_true,
        devWrite_run_nil, List.length_drop, uint32_ofInt_natCast, hlt, hchk, blobOff, hofInt]
      exact ⟨[], by rw [List.append_nil]⟩
    · simp (disch := simp [hf]) only [hbk, if_false, bne_iff_ne, ne_eq, not_false_eq_true,
        if_true, writeOSIP_run_nil, EStateM.run_bind, EStateM.run_pure, devOpen_run_nil,
        Bool.not_true, Bool.false_eq_true, devWrite_run_nil, List.length_drop, uint32_ofInt_natCast, hlt, hchk,
        blobOff, hofInt]
      exact ⟨_, by simp only [List.append_assoc]; rfl⟩

/-- `check_image_valid` は本体を書いた位置と同じ位置を読むので、開始ブロックが何であっても検査は通り、
`write_stitch_image` は 0 を返す。 -/
theorem writeStitchImage_run_ok (hf : s.faults = []) {data : List UInt8} (h512 : 512 ≤ data.length)
    (h31 : data.length < 2 ^ 31) (hcrack : (OSIPHeader.ofBytes data).numImages = 1)
    (hsize : ((OSIPHeader.ofBytes data).desc.get 0).sizeOfOsImage * 512 = UInt32.ofNat data.length - 512)
    (n : Fin 7) :
    let v := ((hdrAt s.dev 0).desc.get n).logicalStartBlock
    let o := placedOsii data v (UInt32.ofNat ((data.length - 512) / 512))
    let q := ({ hdrAt s.dev 0 with numImages := 1 }.setDesc n o).sealed s.junk
    let dev₁ := if (n : Int) = pos then Store.write s.dev 0 q.toBytes else s.dev
    let dev₂ := if (hdrAt s.dev backupLoc).sig = osipSig then
        Store.write dev₁ (backupLoc + osipPreamble + 24 * n) o.toBytes
      else Store.write dev₁ 0 q.toBytes
    ∃ l, (writeStitchImage data (UInt32.ofNat data.length) n).run s =
      .ok 0 { s with dev := Store.write dev₂ (blobOff v 512) (data.drop 512), oob := s.oob ++ l } := by
  intro v o q dev₁ dev₂
  obtain ⟨l, hw⟩ := writeStitchImage_run_nil hf h512 h31 hcrack hsize n
  rw [checkOff_eq, ← blobOff_eq] at hw
  have hpay : Store.read (Store.write dev₂ (blobOff v 512) (data.drop 512)) (blobOff v 512) (data.length - 512) =
      data.drop 512 := by
    rw [← List.length_drop]
    exact Store.read_write_self _ _ _
  rw [if_pos hpay] at hw
  exact ⟨l, hw⟩

/-- 予備の見出しが有効で記述子が 1（POS）でなければ、`write_stitch_image` は二つの見出しを読み、予備の
記述子を書いてから、本体のために装置を開く。七つ目の呼び出しでそれが失敗すると、予備の記述子だけが
書き換わったまま -1 を返す。 -/
theorem writeStitchImage_run_of_blob_open_fail {fs : List Outcome}
    (hf : s.faults = .ok :: .ok :: .ok :: .ok :: .ok :: .ok :: .fail :: fs) {data : List UInt8}
    (h512 : 512 ≤ data.length) (h31 : data.length < 2 ^ 31) (hcrack : (OSIPHeader.ofBytes data).numImages = 1)
    (hsize : ((OSIPHeader.ofBytes data).desc.get 0).sizeOfOsImage * 512 = UInt32.ofNat data.length - 512)
    (n : Fin 7) (hpos : (n : Int) ≠ pos) (hB : (hdrAt s.dev backupLoc).sig = osipSig) :
    let o := placedOsii data ((hdrAt s.dev 0).desc.get n).logicalStartBlock (UInt32.ofNat ((data.length - 512) / 512))
    (writeStitchImage data (UInt32.ofNat data.length) n).run s =
      .ok (-1) { s with faults := fs, dev := Store.write s.dev (backupLoc + osipPreamble + 24 * n) o.toBytes } := by
  intro o
  have hcr := crackStitchedImage_run (show 10 ≤ data.length by omega)
  have hdiv := size_div h512 h31 hsize
  obtain ⟨A, o₀, C, hA, rfl⟩ := exists_split (show 56 ≤ data.length by omega)
  simp only [Vector.get_eq_getElem, Fin.val_zero, desc_zero_ofBytes hA] at hsize hdiv
  have hofInt : UInt32.ofInt 512 = 512 := rfl
  have hrd₂ := readOSIPLoc_run_of_ok (s := { s with faults := .ok :: .ok :: .ok :: .ok :: .fail :: fs }) rfl rBck
  have hent := writeOSIIEntry_run_of_ok (s := { s with faults := .ok :: .ok :: .fail :: fs }) rfl
  simp only [writeStitchImage, getBlockSize_eq, getPageSize_eq, stitchedImagePageSize, stitchedImageBlockSize,
    hofInt, Int.reduceLT, if_false, EStateM.run_bind, hcr, hcrack, bne_self_eq_false, Bool.false_eq_true,
    imageU32_size hA, EStateM.run_pure, hsize, readOSIPLoc_run_of_ok hf, slotOff_rStart, lt_self_iff_false]
  simp only [descRead_of_lt, descWrite_of_lt, EStateM.run_bind, EStateM.run_pure, imageSetU32_lsb hA,
    imageU32_size hA, imageSetU32_size hA, imageOSII_desc hA, hdiv, if_neg hpos, hrd₂, slotOff_rBck, hB, bne_self_eq_false,
    Bool.false_eq_true, if_false, hent, o, placedOsii, desc_zero_ofBytes hA]
  simp [devOpen_run]

/-! ## 形式の検査で断るとき -/

/-- 長さが 512 の倍数でなければ、範囲の外のバイトが何であっても大きさの検査で断り、記録のほかは
何も変えない。 -/
theorem writeStitchImage_run_of_mod {data : List UInt8} (hm : data.length % 512 ≠ 0) (h32 : data.length < 2 ^ 32)
    (n : Int) (s : Sys) :
    ∃ l, (writeStitchImage data (UInt32.ofNat data.length) n).run s = .ok (-1) { s with oob := s.oob ++ l } := by
  obtain ⟨c, l₁, hc⟩ := crackStitchedImage_run_any data s
  obtain ⟨x, l₂, hx⟩ := imageU32_run data 48 { s with oob := s.oob ++ l₁ }
  have hne : x * 512 ≠ UInt32.ofNat data.length - 512 := fun h => hm (size_check_mod h32 h)
  have hofInt : UInt32.ofInt 512 = 512 := rfl
  by_cases hc0 : c < 0
  · exact ⟨l₁, by simp [writeStitchImage, hc, hc0]⟩
  · exact ⟨l₁ ++ l₂, by simp [writeStitchImage, hc, hc0, hx, hne, hofInt, stitchedImagePageSize,
      stitchedImageBlockSize, List.append_assoc]⟩

/-- 長さが 56 バイト以上なら、検査は `num_images` と記述子 0 の大きさをファイルの中から読む。どちらかが
合わなければ、状態を変えずに断る。 -/
theorem writeStitchImage_run_of_not_format {data : List UInt8} (h56 : 56 ≤ data.length)
    (h : ¬((OSIPHeader.ofBytes data).numImages = 1 ∧
      ((OSIPHeader.ofBytes data).desc.get 0).sizeOfOsImage * 512 = UInt32.ofNat data.length - 512)) (n : Int) (s : Sys) :
    (writeStitchImage data (UInt32.ofNat data.length) n).run s = .ok (-1) s := by
  have hcr := crackStitchedImage_run (show 10 ≤ data.length by omega)
  have hofInt : UInt32.ofInt 512 = 512 := rfl
  obtain ⟨A, o₀, C, hA, rfl⟩ := exists_split h56
  simp only [Vector.get_eq_getElem, Fin.val_zero, desc_zero_ofBytes hA] at h
  by_cases hn : (OSIPHeader.ofBytes (A ++ o₀.toBytes ++ C)).numImages = 1
  · have hs : ¬o₀.sizeOfOsImage * 512 = UInt32.ofNat (A ++ o₀.toBytes ++ C).length - 512 := fun hs => h ⟨hn, hs⟩
    simp only [writeStitchImage, getBlockSize_eq, getPageSize_eq, stitchedImagePageSize, stitchedImageBlockSize,
      hofInt, Int.reduceLT, if_false, EStateM.run_bind, hcr, hn, bne_self_eq_false, Bool.false_eq_true,
      imageU32_size hA, EStateM.run_pure, bne_iff_ne, ne_eq, hs, not_false_eq_true, if_true]
  · simp only [writeStitchImage, getBlockSize_eq, Int.reduceLT, if_false, EStateM.run_bind, hcr, bne_iff_ne,
      ne_eq, hn, not_false_eq_true, if_true, EStateM.run_pure]

/-- 空のファイルでは、二つの欄をバッファの外から読む。検査で断るか、通れば記述子をバッファの外へ書こうとして
止まる。どちらでも装置には触れない。 -/
theorem writeStitchImage_run_of_empty (hf : s.faults = []) (n : Fin 7) :
    ∃ l, (writeStitchImage [] (UInt32.ofNat 0) n).run s = .ok (-1) { s with oob := s.oob ++ l } ∨
      (writeStitchImage [] (UInt32.ofNat 0) n).run s = .error (.ub .imageWrite) { s with oob := s.oob ++ l } := by
  obtain ⟨c, l₁, hc⟩ := crackStitchedImage_run_any [] s
  obtain ⟨x, l₂, hx⟩ := imageU32_run [] 48 { s with oob := s.oob ++ l₁ }
  have hofInt : UInt32.ofInt 512 = 512 := rfl
  by_cases hc0 : c < 0
  · exact ⟨l₁, .inl (by simp [writeStitchImage, hc, hc0])⟩
  by_cases hx0 : x * 512 = UInt32.ofNat 0 - 512
  · -- 大きさの検査を通ると、見出しを読んだあと、0 バイトのバッファの 36 バイト目へ書こうとする
    refine ⟨l₁ ++ l₂, .inr ?_⟩
    have hrd := readOSIPLoc_run_nil (s := { s with oob := s.oob ++ (l₁ ++ l₂) }) hf rStart notDump
    have hset : ∀ v, imageSetU32 [] 36 v = throw (.ub .imageWrite) := fun v => by simp [imageSetU32]
    simp only [writeStitchImage, getBlockSize_eq, getPageSize_eq, stitchedImagePageSize, stitchedImageBlockSize,
      hofInt, Int.reduceLT, if_false, EStateM.run_bind, hc, hc0, hx, hx0, bne_self_eq_false, Bool.false_eq_true,
      hrd, slotOff_rStart, dumpOob_notDump, List.append_nil, lt_self_iff_false, descRead_of_lt, EStateM.run_pure,
      hset, List.append_assoc]
    rfl
  · refine ⟨l₁ ++ l₂, .inl ?_⟩
    simp only [writeStitchImage, getBlockSize_eq, stitchedImagePageSize, stitchedImageBlockSize, hofInt,
      Int.reduceLT, if_false, EStateM.run_bind, hc, hc0, hx, bne_iff_ne, ne_eq, hx0, not_false_eq_true, if_true,
      EStateM.run_pure, List.append_assoc]

/-- `flash_stitch_image` が受け付けるファイル名: 最後の `.` から先が `.bin` で始まる。 -/
def binName (argv : String) : Bool :=
  let ext := (argv.toList.reverse.takeWhile (· != '.')).reverse
  ext.length != argv.length && ('.' :: ext).take 4 == ".bin".toList

/-- 名前の検査が通らなければ、`flash_stitch_image` はファイルを開く前に `exit(1)` で終わる。 -/
theorem flashStitchImage_run_of_binName {argv : String} (h : binName argv = false) (n : Int) (s : Sys) :
    (flashStitchImage argv n).run s = .error (.exit 1) s := by
  unfold flashStitchImage
  simp only [binName, Bool.and_eq_false_iff, bne_eq_false_iff_eq, beq_eq_false_iff_ne] at h
  rcases h with h | h
  · -- `strrchr` が `NULL`
    rw [if_pos h]
    rfl
  · -- `strncmp` が 0 でない
    dsimp only
    split
    · rfl
    · rw [if_pos (bne_iff_ne.mpr h)]
      rfl

theorem flashStitchImage_run {argv : String} {data : List UInt8} (hname : binName argv = true)
    (hfile : s.files argv = some data) (h31 : data.length < 2 ^ 31) (n : Int) :
    (flashStitchImage argv n).run s = (writeStitchImage data (UInt32.ofNat data.length) n).run s := by
  simp only [binName, Bool.and_eq_true, bne_iff_ne, ne_eq, beq_iff_eq, List.length_reverse] at hname
  obtain ⟨h₁, h₂⟩ := hname
  have h₃ : ¬2147483648 ≤ data.length := by omega
  simp [flashStitchImage, h₁, h₂, hfile, h₃]

end OsipUtils

end Kboot.Osip
