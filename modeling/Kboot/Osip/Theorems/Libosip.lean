import Kboot.Osip.Theorems.PayloadPaths

/-!
# libosip の `write_payload_os_image`

本体の開始ブロックは記述子 0 と 1 の大きい方、記述子 1（POS）の開始ブロックは小さい方になる。
ヘッダの注釈は POS が下にあると仮定するが、装置から読んだ並びは確かめられない。POS が上にあれば、
本体は POS の開始ブロックに書かれ、POS の記述子は本体のあった場所を指す。

ページの大きさは sysfs の `erase_size / 1024` で、負の値だけが断られる。1024 より小さい値では 0 で
割り、割り切れない値では本体の末尾が大きさの欄から落ちる。
-/

namespace Kboot.Osip.UpdateOsip

open OsipUtils ManageDevice

variable {s : Sys}

/-! ## POS の上に本体を書く -/

/-- 記述子 1 の開始ブロックが記述子 0 のものより大きいと、本体は記述子 1 の開始ブロックから書かれ、
記録される記述子 1 は大きさを変えずに記述子 0 の開始ブロックを指す。 -/
theorem payload_overwrites_pos (hf : s.faults = []) {data : List UInt8} (hd : StitchedImage data) {e : Int}
    (he : s.eraseSize = some e) {pg : Nat} (hpg : e.tdiv 1024 = pg) (hpg₁ : 0 < pg) (hpg₂ : pg < 2 ^ 31)
    (hlt : (hdrAt s.dev 0).desc[(0 : Fin 7)].logicalStartBlock < (hdrAt s.dev 0).desc[(1 : Fin 7)].logicalStartBlock)
    (hoff : (hdrAt s.dev 0).desc[(1 : Fin 7)].logicalStartBlock.toNat * pg < 2 ^ 31) :
    ∃ (q : OSIPHeader) (l : List Oob), (writePayloadOsImage data (UInt32.ofNat data.length)).run s =
        .ok 0 { s with
          dev := Store.write (Store.write s.dev 0 q.toBytes)
            ((hdrAt s.dev 0).desc[(1 : Fin 7)].logicalStartBlock.toNat * pg) (data.drop 512)
          oob := s.oob ++ l } ∧
      q.desc[(1 : Fin 7)].logicalStartBlock = (hdrAt s.dev 0).desc[(0 : Fin 7)].logicalStartBlock ∧
      q.desc[(1 : Fin 7)].sizeOfOsImage = (hdrAt s.dev 0).desc[(1 : Fin 7)].sizeOfOsImage := by
  obtain ⟨l, hw⟩ := writePayloadOsImage_run_nil hf hd.len_ge hd.len_lt hd.numImages_eq hd.size_eq he hpg hpg₁ hpg₂
  have hle : ((hdrAt s.dev 0).desc.get 0).logicalStartBlock ≤ ((hdrAt s.dev 0).desc.get 1).logicalStartBlock :=
    UInt32.le_of_lt hlt
  have hoff' : ((hdrAt s.dev 0).desc.get 1).logicalStartBlock.toNat * pg < 2 ^ 31 := hoff
  -- `MAX` は POS の開始ブロック、`MIN` は本体の開始ブロックを選ぶ
  rw [uint32_max_of_ge hle, uint32_min_of_ge hle, blobOff_of_mul_lt (by omega) hoff'] at hw
  exact ⟨_, l, hw, by simp, by simp⟩

/-- 本体（開始ブロック 8、大きさ 1）の上に POS（開始ブロック 16、大きさ 1）がある見出し。 -/
def posAboveHeader : OSIPHeader :=
  { zeroHeader with
    sig := osipSig, headerSize := 200, numPointers := 7
    desc := #v[{ zeroOSII with logicalStartBlock := 8, sizeOfOsImage := 1, attrib := 1 },
      { zeroOSII with logicalStartBlock := 16, sizeOfOsImage := 1 }, zeroOSII, zeroOSII, zeroOSII, zeroOSII, zeroOSII] }

def posAboveSys : Sys := { imageSys posAboveHeader with eraseSize := some 524288 }

theorem hdrAt_posAboveSys : hdrAt posAboveSys.dev 0 = posAboveHeader := by
  simp only [posAboveSys, hdrAt_imageSys]

theorem payload_overwrites_pos_sample :
    ∃ (q : OSIPHeader) (l : List Oob), (writePayloadOsImage pagedImage (UInt32.ofNat pagedImage.length)).run posAboveSys =
        .ok 0 { posAboveSys with
          dev := Store.write (Store.write posAboveSys.dev 0 q.toBytes) (16 * 512) (pagedImage.drop 512)
          oob := posAboveSys.oob ++ l } ∧
      (q.desc.get 1).logicalStartBlock = 8 ∧ (q.desc.get 1).sizeOfOsImage = 1 := by
  have h := payload_overwrites_pos (s := posAboveSys) rfl stitchedImage_pagedImage rfl
    (show (524288 : Int).tdiv 1024 = ((512 : Nat) : Int) by decide) (by norm_num) (by norm_num)
    (by rw [hdrAt_posAboveSys]; decide) (by rw [hdrAt_posAboveSys]; decide)
  have h₀ : posAboveHeader.desc[(0 : Fin 7)].logicalStartBlock = 8 := rfl
  have h₁ : posAboveHeader.desc[(1 : Fin 7)].logicalStartBlock.toNat = 16 := rfl
  have h₂ : posAboveHeader.desc[(1 : Fin 7)].sizeOfOsImage = 1 := rfl
  rw [hdrAt_posAboveSys, h₀, h₁, h₂] at h
  exact h

/-! ## ページの大きさ -/

/-- `erase_size` が 0 以上 1024 未満なら 0 で割って止まる。1024 以上なら、記録される大きさは本体の長さを
ページの大きさで切り捨てて割ったもの。 -/
theorem payload_page_arith (hf : s.faults = []) {data : List UInt8} (hd : StitchedImage data) {N : Int}
    (he : s.eraseSize = some N) (hN₀ : 0 ≤ N) (hN : N < 2 ^ 31) :
    (N < 1024 → ∃ s', (writePayloadOsImage data (UInt32.ofNat data.length)).run s = .error (.ub .divZero) s') ∧
    (1024 ≤ N → ∃ (q : OSIPHeader) (s' : Sys), (writePayloadOsImage data (UInt32.ofNat data.length)).run s = .ok 0 s' ∧
      (∃ off, s'.dev = Store.write (Store.write s.dev 0 q.toBytes) off (data.drop 512)) ∧
      (q.desc.get 0).sizeOfOsImage.toNat = (data.length - 512) / (N.tdiv 1024).toNat) := by
  refine ⟨fun hlt => ?_, fun hge => ?_⟩
  · exact writePayloadOsImage_run_of_page_zero hf hd.len_ge hd.len_lt hd.numImages_eq hd.size_eq he
      (Int.tdiv_eq_zero_of_lt hN₀ hlt)
  · set pg := (N.tdiv 1024).toNat with hpgdef
    have hdiv : N.tdiv 1024 = N / 1024 := Int.tdiv_eq_ediv_of_nonneg hN₀
    have hpg : N.tdiv 1024 = pg := by rw [hpgdef, Int.toNat_of_nonneg (by omega)]
    have hpg₁ : 0 < pg := by omega
    have hpg₂ : pg < 2 ^ 31 := by omega
    obtain ⟨l, hw⟩ := writePayloadOsImage_run_nil hf hd.len_ge hd.len_lt hd.numImages_eq hd.size_eq he hpg hpg₁
      hpg₂
    refine ⟨_, _, hw, ⟨_, rfl⟩, ?_⟩
    have hL := hd.len_lt
    simp only [OSIPHeader.desc_sealed, OSIPHeader.desc_setDesc, Vector.get_eq_getElem, Vector.getElem_set_self,
      placedOsii]
    have hq : (data.length - 512) / pg < UInt32.size :=
      lt_of_le_of_lt (Nat.div_le_self _ _) (by simp only [UInt32.size]; omega)
    exact UInt32.toNat_ofNat_of_lt' hq

theorem payload_page_arith_sample :
    (∃ s', (writePayloadOsImage pagedImage (UInt32.ofNat pagedImage.length)).run (eraseSys 1000) =
      .error (.ub .divZero) s') ∧
    (∃ (q : OSIPHeader) (s' : Sys), (writePayloadOsImage pagedImage (UInt32.ofNat pagedImage.length)).run (eraseSys 1048576) = .ok 0 s' ∧
      (∃ off, s'.dev = Store.write (Store.write (eraseSys 1048576).dev 0 q.toBytes) off (pagedImage.drop 512)) ∧
      (q.desc.get 0).sizeOfOsImage.toNat = (pagedImage.length - 512) / ((1048576 : Int).tdiv 1024).toNat) :=
  ⟨(payload_page_arith (s := eraseSys 1000) rfl stitchedImage_pagedImage rfl (by decide) (by decide)).1 (by decide),
    (payload_page_arith (s := eraseSys 1048576) rfl stitchedImage_pagedImage rfl (by decide) (by decide)).2
      (by decide)⟩

end Kboot.Osip.UpdateOsip
