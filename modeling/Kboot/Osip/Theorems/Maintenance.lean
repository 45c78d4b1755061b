import Kboot.Osip.Lemmas.Scripts

/-!
# 保守の一巡

`invalidate_osip.sh` の `update_osip --backup --invalidate A...` のあと、`flash_stitched.sh` の
`update_osip --update n --image F` と `update_osip --restore` を走らせる。どの呼び出しも成功する
eMMC では三回とも 0 で終わり、主の見出しは一巡の前の見出しの記述子 `n` だけを F の記述子に
置き換えたものになる。無効にした記述子は予備から戻り、予備は消え、本体は記述子の開始ブロックにある。
-/

namespace Kboot.Osip.UpdateOsip

open OsipUtils ManageDevice

variable {s : Sys}

theorem maintenance_cycle (hf : s.faults = []) (hsig : (hdrAt s.dev 0).sig = osipSig) {A : List String}
    (hA : A ≠ []) (h10 : A.length ≤ 10) (hinv : invalidateLoop (hdrAt s.dev 0) (A.map atoi) ≠ none) (n : Fin 7)
    (hv₁ : 1 ≤ (hdrAt s.dev 0).desc[n].logicalStartBlock.toNat)
    (hv₂ : (hdrAt s.dev 0).desc[n].logicalStartBlock.toNat < 2 ^ 22) {f : String} {data : List UInt8}
    (hname : binName f = true) (hfile : s.files f = some data) (hd : StitchedImage data) :
    let P := hdrAt s.dev 0
    let v := P.desc[n].logicalStartBlock
    let r₁ := run (.backup :: A.map .invalidate) s
    let r₂ := run [.update (toString (n : Nat)), .image f] r₁.2
    let r₃ := run [.restore] r₂.2
    r₁.1 = .exit 0 ∧ r₂.1 = .exit 0 ∧ r₃.1 = .exit 0 ∧
      hdrAt r₃.2.dev 0 = (P.setDesc n (placedOsii data v (UInt32.ofNat ((data.length - 512) / 512)))).sealed s.junk ∧
      Store.read r₃.2.dev backupLoc 200 = List.replicate 200 0 ∧
      Store.read r₃.2.dev (v.toNat * 512) (data.length - 512) = data.drop 512 := by
  intro P v r₁ r₂ r₃
  have hP : hdrAt s.dev 0 = P := rfl
  have hsig' : P.sig = osipSig := hsig
  obtain ⟨q, hq⟩ := Option.ne_none_iff_exists'.mp hinv
  -- 一回目: 主を予備へ写し、主の記述子を無効にする
  obtain ⟨l₁, h₁⟩ := run_backup_invalidate hf hA h10
  rw [hP] at hq h₁
  rw [hq] at h₁
  dsimp only at h₁
  generalize hD₁ : Store.write (Store.write s.dev backupLoc P.toBytes) 0 (q.sealed s.junk).toBytes = D₁ at h₁
  have hP₁ : hdrAt D₁ 0 = q.sealed s.junk := by
    rw [← hD₁, hdrAt_write_self]
  have hB₁ : hdrAt D₁ backupLoc = P := by
    rw [← hD₁, hdrAt_write_of_disjoint (Or.inr (by simp [backupLoc])), hdrAt_write_self]
  have hv : ((hdrAt D₁ 0).desc.get n).logicalStartBlock = v := by
    rw [hP₁, OSIPHeader.desc_sealed]
    exact ((invalidateLoop_some hq).2 n).1
  -- 二回目: 記述子は予備に入り、本体は lsb * 512 バイト目に書かれる
  obtain ⟨s₂, h₂, hf₂, -, hj₂, -, hB₂, hpay₂⟩ := run_flash (s := { s with dev := D₁, oob := s.oob ++ l₁ }) hf
    hname hfile hd n (by simp only [hv]; exact hv₁) (by simp only [hv]; exact hv₂)
  simp only [hB₁, hsig', if_true, hv] at hB₂ hpay₂
  -- 三回目: 予備を主へ戻し、予備を消す
  obtain ⟨l₃, h₃⟩ := run_restore_of_sig hf₂ (by rw [hB₂, OSIPHeader.sig_setDesc]; exact hsig')
  have hv₁' : 1 ≤ v.toNat := hv₁
  simp only [r₃, r₂, r₁, h₁, h₂, h₃]
  refine ⟨trivial, trivial, trivial, ?_, ?_, ?_⟩
  · rw [hdrAt_write_of_disjoint (Or.inl (by simp [backupLoc])), hdrAt_write_self, hB₂, hj₂]
  · have h := Store.read_write_self (Store.write s₂.dev 0 ((hdrAt s₂.dev backupLoc).sealed s₂.junk).toBytes)
      backupLoc (List.replicate 200 (0 : UInt8))
    rwa [List.length_replicate] at h
  · rw [Store.read_write_of_disjoint (Or.inr (by simp only [List.length_replicate, backupLoc]; omega)),
      Store.read_write_of_disjoint (Or.inr (by simp only [OSIPHeader.length_toBytes]; omega))]
    exact hpay₂

/-- 記述子 0 が属性 1 で開始ブロック 8 の、有効な見出し。 -/
def sampleHeader : OSIPHeader :=
  { zeroHeader with
    sig := osipSig, headerSize := 200, numPointers := 7
    desc := #v[{ zeroOSII with logicalStartBlock := 8, attrib := 1 }, zeroOSII, zeroOSII, zeroOSII, zeroOSII, zeroOSII,
      zeroOSII] }

/-- 大きさ 1 ページの stitched image。本体は 512 バイトの `0xAA`。 -/
def sampleImage : List UInt8 := ((List.replicate 512 0).set 9 1).set 48 1 ++ List.replicate 512 0xAA

def sampleSys : Sys where
  dev := Store.write (fun _ => 0) 0 sampleHeader.toBytes
  faults := []
  files := fun name => if name = "a.bin" then some sampleImage else none
  eraseSize := none
  junk := fun _ => 0
  oob := []

theorem hdrAt_sampleSys : hdrAt sampleSys.dev 0 = sampleHeader := by
  simp only [sampleSys, hdrAt_write_self]

theorem maintenance_cycle_sample :
    let r₁ := run (.backup :: ["1"].map .invalidate) sampleSys
    let r₂ := run [.update (toString ((0 : Fin 7) : Nat)), .image "a.bin"] r₁.2
    let r₃ := run [.restore] r₂.2
    r₁.1 = .exit 0 ∧ r₂.1 = .exit 0 ∧ r₃.1 = .exit 0 ∧
      hdrAt r₃.2.dev 0 =
        (sampleHeader.setDesc 0 (placedOsii sampleImage 8 (UInt32.ofNat ((sampleImage.length - 512) / 512)))).sealed
          sampleSys.junk ∧
      Store.read r₃.2.dev backupLoc 200 = List.replicate 200 0 ∧
      Store.read r₃.2.dev (8 * 512) (sampleImage.length - 512) = sampleImage.drop 512 := by
  have hL : sampleImage.length = 1024 := by
    simp only [sampleImage, List.length_append, List.length_set, List.length_replicate]
  have h := maintenance_cycle (s := sampleSys) (A := ["1"]) (f := "a.bin") rfl
    (by rw [hdrAt_sampleSys]; rfl) (by decide) (by decide) (by rw [hdrAt_sampleSys]; decide) 0
    (by rw [hdrAt_sampleSys]; decide)
    (by rw [hdrAt_sampleSys]; decide) (by decide)
    (show sampleSys.files "a.bin" = some sampleImage by simp [sampleSys])
    ⟨by rw [hL]; decide, by rw [hL]; decide, by decide, by rw [hL]; decide⟩
  have h8 : sampleHeader.desc[(0 : Fin 7)].logicalStartBlock = 8 := rfl
  simp only at h
  rw [hdrAt_sampleSys, h8] at h
  exact h

end Kboot.Osip.UpdateOsip
