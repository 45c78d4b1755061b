import Kboot.Stitch.Script

/-!
# stitch.sh のイメージの並び

七回の `dd` のあと、イメージは `cmdline` のブロックの前 1024 バイト、16 バイトの見出し、ブロックの残り、
`bootstub` のブロック、`bzImage`、`initrd` と並ぶ（`stitch_eq`）。これはどの入力でも、出力のファイルの
はじめの中身によらずそうなる。並べ方どおりに読み戻せるのは、`cmdline` が見出しの手前の 1024 バイトに、
`bootstub` が一つのブロックに収まり、二つの大きさと二つの旗が 32 ビットに収まるときに限る。
-/

namespace Kboot.Stitch

open Dd Bytes

/-- `stitch.sh` の並べ方で読んだ引数。大きさは 1024 バイト目からの見出しから取り、`cmdline` と
`bootstub` の長さは読み手が知っているものとする。 -/
def readStitched (img : List UInt8) (cmdlineLen bootstubLen : Nat) : StitchArgs :=
  let bzSize := leNat ((img.drop 1024).take 4)
  let initrdSize := leNat ((img.drop 1028).take 4)
  { cmdline := img.take cmdlineLen
    bootstub := (img.drop 4096).take bootstubLen
    bzImage := (img.drop 8192).take bzSize
    initrd := (img.drop (8192 + bzSize)).take initrdSize
    spiFlag := leNat ((img.drop 1032).take 4)
    spiType := leNat ((img.drop 1036).take 4) }

/-- 0 で埋めた 4096 バイトのブロック。 -/
def block (f : List UInt8) : List UInt8 := (catDevZero f 4096).take 4096

/-- 1024 バイト目からの 16 バイトの見出し。 -/
def header (a : StitchArgs) : List UInt8 :=
  binstring a.bzImage.length ++ binstring a.initrd.length ++ binstring a.spiFlag ++ binstring a.spiType

@[simp] theorem length_block (f : List UInt8) : (block f).length = 4096 := by
  simp only [block, catDevZero, List.length_take, List.length_append, List.length_replicate]
  omega

@[simp] theorem length_binstring (v : Nat) : (binstring v).length = 4 := rfl

@[simp] theorem take_binstring (v : Nat) : (binstring v).take 4 = binstring v := rfl

@[simp] theorem drop_binstring {k : Nat} (h : 4 ≤ k) (v : Nat) : (binstring v).drop k = [] :=
  List.drop_eq_nil_of_le (by rw [length_binstring]; exact h)

@[simp] theorem length_header (a : StitchArgs) : (header a).length = 16 := by
  simp [header]

theorem leNat_binstring (v : Nat) : leNat (binstring v) = v % 2 ^ 32 := by
  rw [show binstring v = leBytes 4 v from rfl, leNat_leBytes]
  norm_num

/-- はじめの三回の `dd` は、0 で埋めた二つのブロックと、続けて書いた本体を残す。`nand.sh` も同じ三回を行う。 -/
theorem dd_blocks (c b k out : List UInt8) :
    dd k (dd (catDevZero b 4096) (dd (catDevZero c 4096) out 4096 (some 1) 0 false) 4096 (some 1) 1 false) 4096
      none 2 false = block c ++ block b ++ k := by
  have h₁ : dd (catDevZero c 4096) out 4096 (some 1) 0 false = block c := by
    rw [dd_trunc]
    simp [block]
  have h₂ : dd (catDevZero b 4096) (block c) 4096 (some 1) 1 false = block c ++ block b := by
    rw [dd_trunc, take_append_replicate_of_le (by simp), List.take_of_length_le (by simp)]
    simp [block]
  rw [h₁, h₂, dd_trunc, take_append_replicate_of_le (by simp), List.take_of_length_le (by simp)]

/-- 七回の `dd` のあとのイメージ。 -/
theorem stitch_eq (a : StitchArgs) (out : List UInt8) :
    stitch a out = (block a.cmdline).take 1024 ++ header a ++ (block a.cmdline).drop 1040 ++
      block a.bootstub ++ a.bzImage ++ a.initrd := by
  -- 四つの 4 バイトの上書きは、隣り合うので見出しの一度の上書きになる
  have p₁ : dd (binstring a.bzImage.length) (block a.cmdline ++ block a.bootstub ++ (a.bzImage ++ a.initrd)) 1 none
      1024 true =
      splice (block a.cmdline ++ block a.bootstub ++ a.bzImage ++ a.initrd) 1024 (binstring a.bzImage.length) := by
    rw [dd_notrunc _ _ _ _ (by simp only [List.length_append, length_binstring, length_block]; omega), Nat.mul_one,
      List.append_assoc (block a.cmdline ++ block a.bootstub)]
  simp only [stitch, dd_blocks]
  rw [p₁, dd_splice_next (by simp only [List.length_append, length_binstring, length_block]; omega) (by simp),
    dd_splice_next (by simp only [List.length_append, length_binstring, length_block]; omega) (by simp),
    dd_splice_next (by simp only [List.length_append, length_binstring, length_block]; omega) (by simp),
    List.append_assoc, List.append_assoc, splice_append_of_le (by simp)]
  simp [splice, header]

theorem take_block {f : List UInt8} (h : f.length ≤ 4096) : (block f).take f.length = f := by
  rw [block, catDevZero, List.take_take, min_eq_left h, List.take_left' rfl]

section

variable (a : StitchArgs) (out : List UInt8)

theorem take_stitch_1024 : (stitch a out).take 1024 = (block a.cmdline).take 1024 := by
  rw [stitch_eq]
  simp only [List.append_assoc]
  exact List.take_left' (by simp)

theorem drop_stitch_1024 :
    (stitch a out).drop 1024 = header a ++ ((block a.cmdline).drop 1040 ++ block a.bootstub ++ a.bzImage ++ a.initrd) := by
  rw [stitch_eq]
  simp only [List.append_assoc]
  exact List.drop_left' (by simp)

theorem drop_stitch_4096 : (stitch a out).drop 4096 = block a.bootstub ++ (a.bzImage ++ a.initrd) := by
  have h : ((block a.cmdline).take 1024 ++ header a ++ (block a.cmdline).drop 1040).length = 4096 := by simp
  have e : stitch a out = ((block a.cmdline).take 1024 ++ header a ++ (block a.cmdline).drop 1040) ++
      (block a.bootstub ++ (a.bzImage ++ a.initrd)) := by
    rw [stitch_eq]
    simp only [List.append_assoc]
  rw [e, List.drop_left' h]

/-- 見出しの四つの値の読み出し。 -/
theorem header_fields (T : List UInt8) :
    (header a ++ T).take 4 = binstring a.bzImage.length ∧
      ((header a ++ T).drop 4).take 4 = binstring a.initrd.length ∧
      ((header a ++ T).drop 8).take 4 = binstring a.spiFlag ∧
      ((header a ++ T).drop 12).take 4 = binstring a.spiType := by
  simp [header, List.drop_append, List.take_append]

/-- 見出しの場所の 16 バイトは、`cmdline` の長さによらず見出し。 -/
theorem getD_stitch_header {i : Nat} (hi : i < 16) : (stitch a out).getD (1024 + i) 0 = (header a).getD i 0 := by
  have h := congrArg (fun l => l.getD i 0) (drop_stitch_1024 a out)
  simp only [List.getD_eq_getElem?_getD, List.getElem?_drop] at h
  rw [List.getD_eq_getElem?_getD, h, List.getElem?_append_left (by simpa using hi)]
  rfl

/-- 見出しから読む旗は、`$5` の下位 32 ビット。 -/
theorem spiFlag_readStitched (m n : Nat) : (readStitched (stitch a out) m n).spiFlag = a.spiFlag % 2 ^ 32 := by
  dsimp only [readStitched]
  rw [show 1032 = 1024 + 8 from rfl, ← List.drop_drop, drop_stitch_1024, (header_fields a _).2.2.1, leNat_binstring]

end

end Kboot.Stitch
