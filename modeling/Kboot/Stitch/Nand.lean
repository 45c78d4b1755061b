import Kboot.Stitch.Layout

/-!
# nand.sh

`nand.sh` は `stitch.sh` と同じ三回の `dd` で、`cmdline` と `bootstub` を 0 で埋めたブロックに、`bzImage` と
`initrd` をその後ろに書き、二つの大きさを 256 バイト目と 260 バイト目に上書きして `exit 0` で終わる。
NAND のイメージ `$8` を作る後半の行は走らない。大きさの見出しは `cmdline` のブロックの中にあるので、
256 バイトより長い `cmdline` はその 8 バイトを失う。
-/

namespace Kboot.Stitch

open Dd Bytes

/-- `nand.sh` の引数のうち、`exit 0` までに読むもの: `$1` から `$4` の四つのファイルの中身。 -/
structure NandArgs where
  cmdline : List UInt8
  bootstub : List UInt8
  bzImage : List UInt8
  initrd : List UInt8
  deriving DecidableEq, Repr

/-- 起動イメージ `$7` の、はじめの中身 `out` からの五回の `dd`。 -/
def nandBoot (a : NandArgs) (out : List UInt8) : List UInt8 :=
  let out := dd (catDevZero a.cmdline 4096) out 4096 (some 1) 0 false
  let out := dd (catDevZero a.bootstub 4096) out 4096 (some 1) 1 false
  let out := dd (a.bzImage ++ a.initrd) out 4096 none 2 false
  let out := dd (binstring a.bzImage.length) out 1 none 256 true
  dd (binstring a.initrd.length) out 1 none 260 true

/-- どの入力でも、はじめの中身によらず、`nand.sh` の起動イメージは `cmdline` のブロックの 256 バイト目からの
8 バイトを二つの大きさ（下位 32 ビット）で置き換え、`bootstub` のブロック、`bzImage`、`initrd` を続けたもの。 -/
theorem nand_boot_layout (a : NandArgs) (out : List UInt8) :
    nandBoot a out = (block a.cmdline).take 256 ++ binstring a.bzImage.length ++ binstring a.initrd.length ++
      (block a.cmdline).drop 264 ++ block a.bootstub ++ a.bzImage ++ a.initrd := by
  have hlen : 256 + (binstring a.bzImage.length).length + (binstring a.initrd.length).length ≤
      (block a.cmdline ++ block a.bootstub ++ (a.bzImage ++ a.initrd)).length := by
    simp only [List.length_append, length_binstring, length_block]
    omega
  -- 二つの 4 バイトの上書きは隣り合い、`cmdline` のブロックの中の一度の上書きになる
  have p₁ : dd (binstring a.bzImage.length) (block a.cmdline ++ block a.bootstub ++ (a.bzImage ++ a.initrd)) 1 none
      256 true = splice (block a.cmdline ++ block a.bootstub ++ (a.bzImage ++ a.initrd)) 256
        (binstring a.bzImage.length) := by
    rw [dd_notrunc _ _ _ _ (by omega), Nat.mul_one]
  simp only [nandBoot, dd_blocks]
  rw [p₁, dd_splice_next hlen (by simp), List.append_assoc, List.append_assoc,
    splice_append_of_le (by simp)]
  simp [splice]

end Kboot.Stitch
