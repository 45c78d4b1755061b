import Kboot.Osip.Lemmas.UpdateOsip

/-!
# 見出しの水準でのスクリプトの一段

`flash_stitched.sh` の一回目の `update_osip --update n --image F` が、主と予備の見出しと装置の本体の
場所に残すもの。どの呼び出しも成功する eMMC で、形式の検査を通るイメージを、開始ブロックが
1 から 2^22 のあいだの記述子へ書くとき。
-/

namespace Kboot.Osip.UpdateOsip

open OsipUtils ManageDevice

variable {s : Sys}

/-- `write_stitch_image` の形式の検査を通り、本体が 512 バイトの見出しのあとに続く stitched image。 -/
structure StitchedImage (data : List UInt8) : Prop where
  len_ge : 512 ≤ data.length
  len_lt : data.length < 2 ^ 31
  numImages_eq : (OSIPHeader.ofBytes data).numImages = 1
  size_eq : ((OSIPHeader.ofBytes data).desc.get 0).sizeOfOsImage * 512 = UInt32.ofNat data.length - 512

theorem desc_get_zero_ofBytes (bs : List UInt8) : (OSIPHeader.ofBytes bs).desc.get 0 = OSII.ofBytes (bs.drop 32) := by
  simp [OSIPHeader.ofBytes]

instance (data : List UInt8) : Decidable (StitchedImage data) :=
  decidable_of_iff (512 ≤ data.length ∧ data.length < 2 ^ 31 ∧ (OSIPHeader.ofBytes data).numImages = 1 ∧
      (OSII.ofBytes (data.drop 32)).sizeOfOsImage * 512 = UInt32.ofNat data.length - 512)
    (by
      rw [← desc_get_zero_ofBytes]
      exact ⟨fun h => ⟨h.1, h.2.1, h.2.2.1, h.2.2.2⟩, fun h => ⟨h.len_ge, h.len_lt, h.numImages_eq, h.size_eq⟩⟩)

/-! ## 断られる image -/

/-- 空でなく形式を満たさないファイルは、`write_stitch_image` が記録のほかは何も変えずに断る。 -/
theorem writeStitchImage_run_of_not_stitched {data : List UInt8} (h31 : data.length < 2 ^ 31) (h0 : data ≠ [])
    (hns : ¬StitchedImage data) (n : Int) (s : Sys) :
    ∃ l, (writeStitchImage data (UInt32.ofNat data.length) n).run s = .ok (-1) { s with oob := s.oob ++ l } := by
  by_cases hm : data.length % 512 = 0
  swap
  · exact writeStitchImage_run_of_mod hm (by omega) n s
  -- 長さが 512 の倍数で 0 でないので、二つの欄はファイルの中にあり、そのどちらかが違う
  have h512 : 512 ≤ data.length := by
    have := List.length_pos_iff.mpr h0
    omega
  have hfmt : ¬((OSIPHeader.ofBytes data).numImages = 1 ∧
      ((OSIPHeader.ofBytes data).desc.get 0).sizeOfOsImage * 512 = UInt32.ofNat data.length - 512) :=
    fun hd => hns ⟨h512, h31, hd.1, hd.2⟩
  refine ⟨[], ?_⟩
  rw [List.append_nil]
  exact writeStitchImage_run_of_not_format (by omega) hfmt n s

/-- 名前、ファイル、形式のどれかの検査で断られる `flash_stitch_image` は、装置に触れずに 0 でない値を返すか
止まる。変わるのは範囲の外の読み出しの記録だけ。 -/
theorem flashStitchImage_run_rejected (hf : s.faults = []) {f : String}
    (h : ¬(binName f = true ∧ ∃ data, s.files f = some data ∧ StitchedImage data)) (n : Fin 7) :
    ∃ l, (∃ r, r ≠ 0 ∧ (flashStitchImage f n).run s = .ok r { s with oob := s.oob ++ l }) ∨
      ∃ e, (flashStitchImage f n).run s = .error e { s with oob := s.oob ++ l } := by
  cases hname : binName f
  · -- 名前の検査で `exit(1)`
    refine ⟨[], .inr ⟨.exit 1, ?_⟩⟩
    rw [List.append_nil]
    exact flashStitchImage_run_of_binName hname n s
  have hname' := hname
  simp only [binName, Bool.and_eq_true, bne_iff_ne, ne_eq, beq_iff_eq, List.length_reverse] at hname'
  obtain ⟨h₁, h₂⟩ := hname'
  cases hfile : s.files f with
  | none =>
    -- `fopen` が失敗して `exit(1)`
    refine ⟨[], .inr ⟨.exit 1, ?_⟩⟩
    simp [flashStitchImage, h₁, h₂, hfile]
    rfl
  | some data =>
    by_cases h31 : data.length < 2 ^ 31
    swap
    · -- 32 ビットの `off_t` に入らず `fstat` が失敗する
      have h31' : 2147483648 ≤ data.length := by omega
      refine ⟨[], .inr ⟨.exit 1, ?_⟩⟩
      simp [flashStitchImage, h₁, h₂, hfile, h31']
    rw [flashStitchImage_run hname hfile h31]
    have hns : ¬StitchedImage data := fun hd => h ⟨hname, data, hfile, hd⟩
    by_cases h0 : data = []
    · -- 空のファイルは、断られるか、バッファの外へ書こうとして止まる
      subst h0
      obtain ⟨l, hl | hl⟩ := writeStitchImage_run_of_empty hf n
      · exact ⟨l, .inl ⟨-1, by decide, hl⟩⟩
      · exact ⟨l, .inr ⟨_, hl⟩⟩
    obtain ⟨l, hl⟩ := writeStitchImage_run_of_not_stitched h31 h0 hns n s
    exact ⟨l, .inl ⟨-1, by decide, hl⟩⟩

theorem run_flash_rejected (hf : s.faults = []) {f : String}
    (h : ¬(binName f = true ∧ ∃ data, s.files f = some data ∧ StitchedImage data)) (n : Fin 7) :
    ∃ c l, run [.update (toString (n : Nat)), .image f] s = (c, { s with oob := s.oob ++ l }) := by
  obtain ⟨l, ⟨r, hr, hfl⟩ | ⟨e, hfl⟩⟩ := flashStitchImage_run_rejected hf h n
  · rw [← atoi_toString n] at hfl
    exact ⟨_, l, run_update_image_of_ne hfl hr⟩
  · rw [← atoi_toString n] at hfl
    exact ⟨_, l, run_update_image_of_error hfl⟩

/-! ## 受け付けられる image -/

/-- `update_osip --update n --image F` の実行。`write_stitch_image` が見出しと本体を書き、検査が通った
あとで `update_handle` が主の見出しを読み直し、封をして書き戻す。 -/
theorem run_update_image_nil {f : String} {data : List UInt8} (hf : s.faults = []) (hname : binName f = true)
    (hfile : s.files f = some data) (hd : StitchedImage data) (n : Fin 7)
    (hv : ((hdrAt s.dev 0).desc.get n).logicalStartBlock.toNat < 2 ^ 22) :
    let P := hdrAt s.dev 0
    let B := hdrAt s.dev backupLoc
    let v := (P.desc.get n).logicalStartBlock
    let o := placedOsii data v (UInt32.ofNat ((data.length - 512) / 512))
    let q := ({ P with numImages := 1 }.setDesc n o).sealed s.junk
    let dev₁ := if (n : Int) = pos then Store.write s.dev 0 q.toBytes else s.dev
    let dev₂ := if B.sig = osipSig then Store.write dev₁ (backupLoc + osipPreamble + 24 * n) o.toBytes
      else Store.write dev₁ 0 q.toBytes
    let dev₃ := Store.write dev₂ (v.toNat * 512) (data.drop 512)
    ∃ l, run [.update (toString (n : Nat)), .image f] s =
      (.exit 0, { s with dev := Store.write dev₃ 0 ((hdrAt dev₃ 0).sealed s.junk).toBytes, oob := s.oob ++ l }) := by
  intro P B v o q dev₁ dev₂ dev₃
  obtain ⟨l, hw⟩ := writeStitchImage_run_nil hf hd.len_ge hd.len_lt hd.numImages_eq hd.size_eq n
  rw [blobOff_of_lt hv, checkOff_of_lt hv] at hw
  change (writeStitchImage data (UInt32.ofNat data.length) n).run s =
    .ok (if Store.read dev₃ (v.toNat * 512) (data.length - 512) = data.drop 512 then 0 else -1)
      { s with dev := dev₃, oob := s.oob ++ l } at hw
  have hpay : Store.read dev₃ (v.toNat * 512) (data.length - 512) = data.drop 512 := by
    rw [← List.length_drop]
    exact Store.read_write_self _ _ _
  rw [if_pos hpay] at hw
  have hfl : (flashStitchImage f (atoi (toString (n : Nat)))).run s = .ok 0 { s with dev := dev₃, oob := s.oob ++ l } := by
    rw [atoi_toString, flashStitchImage_run hname hfile hd.len_lt]
    exact hw
  have hup := updateHandle_run_nil (s := { s with dev := dev₃, oob := s.oob ++ l }) hf Vars.init.osii n
  simp only [mergeOsii_init, Vector.get_eq_getElem, OSIPHeader.setDesc_getElem] at hup
  rw [← atoi_toString n] at hup
  rw [run_update_image_of_ok hfl hup]
  exact ⟨_, by simp only [List.append_assoc]; rfl⟩

/-- 予備の見出しが有効なら記述子は予備に入り、主は記述子 1（POS）のときだけ書き換わる。予備がなければ
主に入る。どちらでも本体は `lsb * 512` バイト目に置かれる。 -/
theorem run_flash {f : String} {data : List UInt8} (hf : s.faults = []) (hname : binName f = true)
    (hfile : s.files f = some data) (hd : StitchedImage data) (n : Fin 7)
    (hv₁ : 1 ≤ ((hdrAt s.dev 0).desc.get n).logicalStartBlock.toNat)
    (hv₂ : ((hdrAt s.dev 0).desc.get n).logicalStartBlock.toNat < 2 ^ 22) :
    let P := hdrAt s.dev 0
    let B := hdrAt s.dev backupLoc
    let v := (P.desc.get n).logicalStartBlock
    let o := placedOsii data v (UInt32.ofNat ((data.length - 512) / 512))
    ∃ s', run [.update (toString (n : Nat)), .image f] s = (.exit 0, s') ∧
      s'.faults = [] ∧ s'.files = s.files ∧ s'.junk = s.junk ∧
      hdrAt s'.dev 0 =
        (if (n : Int) = pos ∨ B.sig ≠ osipSig then { P with numImages := 1 }.setDesc n o else P).sealed s.junk ∧
      hdrAt s'.dev backupLoc = (if B.sig = osipSig then B.setDesc n o else B) ∧
      Store.read s'.dev (v.toNat * 512) (data.length - 512) = data.drop 512 := by
  intro P B v o
  have hv : 1 ≤ v.toNat := hv₁
  obtain ⟨l, hrun⟩ := run_update_image_nil hf hname hfile hd n hv₂
  set q := ({ P with numImages := 1 }.setDesc n o).sealed s.junk with hq
  set dev₁ := if (n : Int) = pos then Store.write s.dev 0 q.toBytes else s.dev with hdev₁
  set dev₂ := if B.sig = osipSig then Store.write dev₁ (backupLoc + osipPreamble + 24 * n) o.toBytes
    else Store.write dev₁ 0 q.toBytes with hdev₂
  set dev₃ := Store.write dev₂ (v.toNat * 512) (data.drop 512) with hdev₃
  have hpay : Store.read dev₃ (v.toNat * 512) (data.length - 512) = data.drop 512 := by
    rw [hdev₃, ← List.length_drop]
    exact Store.read_write_self _ _ _
  -- 本体は 512 バイト目より後ろにあり、二つの見出しに重ならない
  have hblob : ∀ off, off + 200 ≤ 512 → hdrAt dev₃ off = hdrAt dev₂ off :=
    fun off h => hdrAt_write_of_disjoint (Or.inl (by omega))
  have h₁ : hdrAt dev₁ backupLoc = B := by
    by_cases hpos : (n : Int) = pos
    · simp only [hdev₁, if_pos hpos]
      exact hdrAt_write_of_disjoint (Or.inr (by simp [backupLoc]))
    · simp only [hdev₁, if_neg hpos, B]
  have h₀ : hdrAt dev₃ 0 = if (n : Int) = pos ∨ B.sig ≠ osipSig then q else P := by
    rw [hblob 0 (by omega)]
    by_cases hB : B.sig = osipSig
    · rw [hdev₂, if_pos hB, hdrAt_write_of_disjoint (Or.inl (by simp only [backupLoc, osipPreamble]; omega)),
        hdev₁]
      by_cases hpos : (n : Int) = pos
      · simp [hpos]
      · rw [if_neg hpos, if_neg (by simp [hpos, hB])]
    · simp [hdev₂, hB]
  refine ⟨_, hrun, hf, rfl, rfl, ?_, ?_, ?_⟩
  · simp only [hdrAt_write_self, h₀]
    split_ifs <;> simp [hq]
  · rw [hdrAt_write_of_disjoint (Or.inr (by simp [backupLoc])), hblob backupLoc (by simp [backupLoc])]
    by_cases hB : B.sig = osipSig
    · rw [hdev₂, if_pos hB, if_pos hB, hdrAt_write_desc, h₁]
    · rw [hdev₂, if_neg hB, if_neg hB, hdrAt_write_of_disjoint (Or.inr (by simp [backupLoc])), h₁]
  · rw [Store.read_write_of_disjoint (Or.inr (by simp; omega))]
    exact hpay

end Kboot.Osip.UpdateOsip
