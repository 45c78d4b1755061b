import Kboot.Stitch.Layout

/-!
# stitch.sh のイメージを読み戻す

`cmdline` が 1024 バイト以下、`bootstub` が 4096 バイト以下で、二つの大きさと二つの旗が 2^32 より小さい
なら、`stitch.sh` の並べ方どおりに読むと、入力がそのまま戻る（`stitch_read_back`）。どの入力でもとは
言えない。1024 バイトより長い `cmdline` は、その 1024 バイト目から見出しに上書きされ、2^32 以上の旗は
下位 32 ビットしか残らない（`stitch_read_back_counterexample`）。
-/

namespace Kboot.Stitch

open Dd Bytes

/-- 並べ方に収まる入力なら、`stitch.sh` のイメージを並べ方どおりに読むと入力が戻る。出力のファイルの
はじめの中身 `out` によらない。 -/
theorem stitch_read_back (a : StitchArgs) (out : List UInt8) (hc : a.cmdline.length ≤ 1024) (hb : a.bootstub.length ≤ 4096)
    (hbz : a.bzImage.length < 2 ^ 32) (hird : a.initrd.length < 2 ^ 32) (hf : a.spiFlag < 2 ^ 32)
    (ht : a.spiType < 2 ^ 32) :
    readStitched (stitch a out) a.cmdline.length a.bootstub.length = a := by
  obtain ⟨e₁, e₂, e₃, e₄⟩ := header_fields a ((block a.cmdline).drop 1040 ++ block a.bootstub ++ a.bzImage ++ a.initrd)
  have h₁ := take_stitch_1024 a out
  have h₂ := drop_stitch_1024 a out
  have h₃ := drop_stitch_4096 a out
  generalize stitch a out = img at h₁ h₂ h₃
  have hdrop : ∀ k, img.drop (1024 + k) = (img.drop 1024).drop k := fun k => List.drop_drop.symm
  have hbz' : leNat ((img.drop 1024).take 4) = a.bzImage.length := by
    rw [h₂, e₁, leNat_binstring, Nat.mod_eq_of_lt hbz]
  have hird' : leNat ((img.drop (1024 + 4)).take 4) = a.initrd.length := by
    rw [hdrop 4, h₂, e₂, leNat_binstring, Nat.mod_eq_of_lt hird]
  apply StitchArgs.ext <;> dsimp only [readStitched]
  · -- `cmdline` は見出しより前の 1024 バイトの中にある
    rw [← min_eq_left hc, ← List.take_take, h₁, List.take_take, min_eq_left hc, take_block (by omega)]
  · rw [h₃, List.take_append_of_le_length (by simp; omega), take_block hb]
  · rw [hbz', show 8192 = 4096 + 4096 from rfl, ← List.drop_drop, h₃, List.drop_left' (length_block _),
      List.take_left' rfl]
  · rw [hbz', hird', show 8192 + a.bzImage.length = 4096 + (4096 + a.bzImage.length) by omega, ← List.drop_drop,
      h₃, ← List.drop_drop, List.drop_left' (length_block _), List.drop_left' rfl, List.take_of_length_le le_rfl]
  · rw [hdrop 8, h₂, e₃, leNat_binstring, Nat.mod_eq_of_lt hf]
  · rw [hdrop 12, h₂, e₄, leNat_binstring, Nat.mod_eq_of_lt ht]

theorem stitch_read_back_sample :
    readStitched (stitch ⟨[1, 2], [3], [4, 5, 6], [7], 0, 1⟩ []) 2 1 = ⟨[1, 2], [3], [4, 5, 6], [7], 0, 1⟩ :=
  stitch_read_back ⟨[1, 2], [3], [4, 5, 6], [7], 0, 1⟩ [] (by decide) (by decide) (by decide) (by decide)
    (by decide) (by decide)

/-- 1025 バイトの `cmdline` は 1024 バイト目が見出しに上書きされ、2^32 の旗は 0 と読まれる。 -/
theorem stitch_read_back_counterexample :
    readStitched (stitch ⟨List.replicate 1025 0x41, [], [], [], 0, 0⟩ []) 1025 0 ≠
        ⟨List.replicate 1025 0x41, [], [], [], 0, 0⟩ ∧
      readStitched (stitch ⟨[], [], [], [], 2 ^ 32, 0⟩ []) 0 0 ≠ ⟨[], [], [], [], 2 ^ 32, 0⟩ := by
  constructor
  · intro h
    have hc := congrArg (fun r => r.cmdline.getD 1024 0) h
    have hh := getD_stitch_header ⟨List.replicate 1025 0x41, [], [], [], 0, 0⟩ [] (i := 0) (by decide)
    have hr : (List.replicate 1025 (0x41 : UInt8)).getD 1024 0 = 0x41 := by
      rw [List.getD_eq_getElem?_getD, List.getElem?_replicate, if_pos (by decide)]
      rfl
    have ht : ∀ l : List UInt8, (l.take 1025).getD 1024 0 = l.getD 1024 0 := fun l => by
      rw [List.getD_eq_getElem?_getD, List.getD_eq_getElem?_getD, List.getElem?_take, if_pos (by decide)]
    dsimp only [readStitched] at hc
    rw [ht, hr, hh] at hc
    exact absurd hc (by decide)
  · intro h
    have hf := congrArg StitchArgs.spiFlag h
    rw [spiFlag_readStitched] at hf
    exact absurd hf (by decide)

end Kboot.Stitch
