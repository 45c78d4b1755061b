import Kboot.Osip.Lemmas.Payload
import Kboot.Osip.Theorems.Placement

/-!
# 本体を書く二つの実装

libosip の `write_payload_os_image` と、`update_osip` の `write_stitch_image(image, 0)`。二つは別々に
定義された `get_page_size` を使う。libosip のものは sysfs の `erase_size / 1024`、`update_osip` の
ものは定数 512 を返す。`erase_size / 1024` が 512 のときに限り、二つは本体を同じ場所に書き、記述子 0
に同じ開始ブロックと大きさを記録する。
-/

namespace Kboot.Osip.UpdateOsip

open OsipUtils ManageDevice

variable {s : Sys}

/-- `erase_size / 1024 = 512` で、記述子 1 の開始ブロックが記述子 0 のもの以下なら、二つの実装は本体を
同じ位置に書き、同じ記述子 0 を記録する。libosip は主の見出しに、`write_stitch_image` は有効な予備が
あれば予備の記述子に、なければ主の見出しに記録する。予備がなければ装置の中身も一致する。 -/
theorem payload_paths_agree (hf : s.faults = []) {data : List UInt8} (hd : StitchedImage data) {e : Int}
    (he : s.eraseSize = some e) (hpg : e.tdiv 1024 = 512)
    (hlay : (hdrAt s.dev 0).desc[(1 : Fin 7)].logicalStartBlock ≤ (hdrAt s.dev 0).desc[(0 : Fin 7)].logicalStartBlock) :
    let P := hdrAt s.dev 0
    let B := hdrAt s.dev backupLoc
    let v := P.desc[(0 : Fin 7)].logicalStartBlock
    let o := placedOsii data v (UInt32.ofNat ((data.length - 512) / 512))
    let q := ({ P with numImages := 1 }.setDesc 0 o).sealed s.junk
    (∃ l, (writePayloadOsImage data (UInt32.ofNat data.length)).run s =
      .ok 0 { s with
        dev := Store.write (Store.write s.dev 0 q.toBytes) (blobOff v 512) (data.drop 512)
        oob := s.oob ++ l }) ∧
    (∃ l, (writeStitchImage data (UInt32.ofNat data.length) ((0 : Fin 7) : Nat)).run s =
      .ok 0 { s with
        dev := Store.write
          (if B.sig = osipSig then Store.write s.dev (backupLoc + osipPreamble) o.toBytes else Store.write s.dev 0 q.toBytes)
          (blobOff v 512) (data.drop 512)
        oob := s.oob ++ l }) := by
  intro P B v o q
  refine ⟨?_, ?_⟩
  · obtain ⟨l, hw⟩ := writePayloadOsImage_run_nil hf hd.len_ge hd.len_lt hd.numImages_eq hd.size_eq he
      (show e.tdiv 1024 = ((512 : Nat) : Int) from hpg) (by norm_num) (by norm_num)
    -- 記述子 1 の開始ブロックは小さい方なので、記述子 1 は書き換わらない
    have hlay' : (P.desc.get 1).logicalStartBlock ≤ (P.desc.get 0).logicalStartBlock := hlay
    have hmax : max (P.desc.get 0).logicalStartBlock (P.desc.get 1).logicalStartBlock = v :=
      uint32_max_of_le hlay'
    have hmin : { P.desc.get 1 with
        logicalStartBlock := min (P.desc.get 0).logicalStartBlock (P.desc.get 1).logicalStartBlock } =
        ({ P with numImages := 1 } : OSIPHeader).desc[((1 : Fin 7) : Nat)] := by
      rw [uint32_min_of_le hlay']
      rfl
    rw [hmax, hmin, OSIPHeader.setDesc_getElem] at hw
    exact ⟨l, hw⟩
  · obtain ⟨l, hw⟩ := writeStitchImage_run_ok hf hd.len_ge hd.len_lt hd.numImages_eq hd.size_eq 0
    -- 記述子 0 は POS ではないので、主の見出しは予備がないときだけ書かれる
    have hpos : ¬((((0 : Fin 7) : Nat) : Int) = pos) := by decide
    simp only [hpos, if_false] at hw
    exact ⟨l, hw⟩

/-- 主の見出しが `lsbHeader 8` で、sysfs の `erase_size` が `e` の状態。 -/
def eraseSys (e : Int) : Sys := { imageSys (lsbHeader 8) with eraseSize := some e }

theorem hdrAt_eraseSys (e : Int) : hdrAt (eraseSys e).dev 0 = lsbHeader 8 := by
  simp only [eraseSys, hdrAt_imageSys]

/-- 見出しの 200 バイトより後ろは 0。 -/
theorem read_eraseSys (e : Int) {off : Nat} (h : 200 ≤ off) (n : Nat) :
    Store.read (eraseSys e).dev off n = List.replicate n 0 := by
  simp only [eraseSys, imageSys]
  rw [Store.read_write_of_disjoint (Or.inr (by simpa using h)), Store.read, List.map_const', List.length_range]

theorem hdrAt_eraseSys_backup (e : Int) : hdrAt (eraseSys e).dev backupLoc = zeroHeader := by
  rw [hdrAt, read_eraseSys e (by simp [backupLoc]), zeroHeader]

theorem payload_paths_agree_sample :
    let s := eraseSys 524288
    let o := placedOsii pagedImage 8 (UInt32.ofNat ((pagedImage.length - 512) / 512))
    let q := ({ lsbHeader 8 with numImages := 1 }.setDesc 0 o).sealed s.junk
    (∃ l, (writePayloadOsImage pagedImage (UInt32.ofNat pagedImage.length)).run s =
      .ok 0 { s with dev := Store.write (Store.write s.dev 0 q.toBytes) (blobOff 8 512) (pagedImage.drop 512),
                     oob := s.oob ++ l }) ∧
    (∃ l, (writeStitchImage pagedImage (UInt32.ofNat pagedImage.length) ((0 : Fin 7) : Nat)).run s =
      .ok 0 { s with dev := Store.write (Store.write s.dev 0 q.toBytes) (blobOff 8 512) (pagedImage.drop 512),
                     oob := s.oob ++ l }) := by
  have h := payload_paths_agree (s := eraseSys 524288) rfl stitchedImage_pagedImage rfl (by decide)
    (by rw [hdrAt_eraseSys]; decide)
  have h8 : (lsbHeader 8).desc[(0 : Fin 7)].logicalStartBlock = 8 := rfl
  have hB : (hdrAt (eraseSys 524288).dev backupLoc).sig ≠ osipSig := by
    rw [hdrAt_eraseSys_backup]
    decide
  simp only [if_neg hB] at h
  rw [hdrAt_eraseSys, h8] at h
  exact h

/-- `erase_size` が 1 MiB の `eraseSys` では、libosip のページは 1024 バイトで、本体は 8 KiB 目に書かれ、
記述子 0 には大きさ 0 が記録される。 -/
theorem writePayloadOsImage_run_mib :
    ∃ s₁, (writePayloadOsImage pagedImage (UInt32.ofNat pagedImage.length)).run (eraseSys 1048576) = .ok 0 s₁ ∧
      ((hdrAt s₁.dev 0).desc.get 0).sizeOfOsImage = 0 ∧
      Store.read s₁.dev (8 * 1024) (pagedImage.length - 512) = pagedImage.drop 512 ∧
      Store.read s₁.dev (8 * 512) (pagedImage.length - 512) = List.replicate (pagedImage.length - 512) 0 := by
  have hL := length_pagedImage
  obtain ⟨l₁, h₁⟩ := writePayloadOsImage_run_nil (s := eraseSys 1048576) rfl stitchedImage_pagedImage.len_ge
    stitchedImage_pagedImage.len_lt stitchedImage_pagedImage.numImages_eq stitchedImage_pagedImage.size_eq rfl
    (show (1048576 : Int).tdiv 1024 = ((1024 : Nat) : Int) by decide) (by norm_num) (by norm_num)
  have hmax : max ((lsbHeader 8).desc.get 0).logicalStartBlock ((lsbHeader 8).desc.get 1).logicalStartBlock = 8 := by
    decide
  have hoff₁ : blobOff 8 ((1024 : Nat) : Int) = 8 * 1024 := by decide
  simp only [hdrAt_eraseSys, hmax, hoff₁] at h₁
  refine ⟨_, h₁, ?_, ?_, ?_⟩
  · rw [hdrAt_write_of_disjoint (Or.inl (by omega)), hdrAt_write_self]
    simp only [OSIPHeader.desc_sealed, OSIPHeader.desc_setDesc, Vector.get_eq_getElem, Vector.getElem_set_self]
    show UInt32.ofNat ((pagedImage.length - 512) / 1024) = 0
    rw [hL]
    rfl
  · dsimp only
    rw [← List.length_drop]
    exact Store.read_write_self _ _ _
  · -- 本体は 8 KiB 目からで、4 KiB 目からの 512 バイトは元の 0 のまま
    dsimp only
    rw [Store.read_write_of_disjoint (Or.inl (by omega)), Store.read_write_of_disjoint (Or.inr (by simp)),
      read_eraseSys _ (by omega)]

/-- `erase_size` が 1 MiB なら libosip のページは 1024 バイトになる。libosip は本体を 8 KiB 目に書いて
大きさ 0 を記録し、`write_stitch_image(image, 0)` は 4 KiB 目に書いて大きさ 1 を記録する。 -/
theorem payload_paths_differ :
    ∃ s₁ s₂, (writePayloadOsImage pagedImage (UInt32.ofNat pagedImage.length)).run (eraseSys 1048576) = .ok 0 s₁ ∧
      (writeStitchImage pagedImage (UInt32.ofNat pagedImage.length) ((0 : Fin 7) : Nat)).run (eraseSys 1048576) =
        .ok 0 s₂ ∧
      ((hdrAt s₁.dev 0).desc.get 0).sizeOfOsImage = 0 ∧ ((hdrAt s₂.dev 0).desc.get 0).sizeOfOsImage = 1 ∧
      Store.read s₁.dev (8 * 512) (pagedImage.length - 512) = List.replicate (pagedImage.length - 512) 0 ∧
      Store.read s₂.dev (8 * 512) (pagedImage.length - 512) = pagedImage.drop 512 := by
  have hL := length_pagedImage
  obtain ⟨s₁, h₁, hsize₁, -, hold₁⟩ := writePayloadOsImage_run_mib
  obtain ⟨l₂, h₂⟩ := writeStitchImage_run_ok (s := eraseSys 1048576) rfl stitchedImage_pagedImage.len_ge
    stitchedImage_pagedImage.len_lt stitchedImage_pagedImage.numImages_eq stitchedImage_pagedImage.size_eq 0
  have hB : (hdrAt (eraseSys 1048576).dev backupLoc).sig ≠ osipSig := by
    rw [hdrAt_eraseSys_backup]
    decide
  have hpos : ¬((((0 : Fin 7) : Nat) : Int) = pos) := by decide
  have h8 : ((lsbHeader 8).desc.get 0).logicalStartBlock = 8 := rfl
  have hoff₂ : blobOff 8 512 = 8 * 512 := by decide
  simp only [hdrAt_eraseSys, if_neg hB, if_neg hpos, h8, hoff₂] at h₂
  refine ⟨s₁, _, h₁, h₂, hsize₁, ?_, hold₁, ?_⟩
  · rw [hdrAt_write_of_disjoint (Or.inl (by omega)), hdrAt_write_self]
    simp only [OSIPHeader.desc_sealed, OSIPHeader.desc_setDesc, Vector.get_eq_getElem, Vector.getElem_set_self]
    show UInt32.ofNat ((pagedImage.length - 512) / 512) = 1
    rw [hL]
    rfl
  · dsimp only
    rw [← List.length_drop]
    exact Store.read_write_self _ _ _

end Kboot.Osip.UpdateOsip
