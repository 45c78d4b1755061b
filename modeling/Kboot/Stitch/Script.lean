import Kboot.Lib.Dd
import Kboot.Lib.Bytes

/-!
# stitch.sh

`stitch.sh` は起動イメージを七回の `dd` で作る。`cmdline` と `bootstub` を 0 で埋めた 4096 バイトの
ブロックとして 0 番と 1 番のブロックに書き、`bzImage` と `initrd` を続けて 2 番のブロックから書く。
そのあと `conv=notrunc` の `dd` で、二つの大きさと二つの旗を 1024 バイト目から 4 バイトずつ上書きする。
`cat $f /dev/zero` は終わらない流れだが、`count=1` の `dd` は 4096 バイトしか読まないので、その分の
0 を足した列で表す。
-/

namespace Kboot.Stitch

open Dd Bytes

/-- `binstring`: `$1` の 256 進の下位 4 桁を、小さい方から `printf` で書くバイト。 -/
def binstring (v : Nat) : List UInt8 :=
  [UInt8.ofNat (v % 256), UInt8.ofNat (v / 256 % 256), UInt8.ofNat (v / 256 / 256 % 256),
    UInt8.ofNat (v / 256 / 256 / 256 % 256)]

/-- `stitch.sh` の引数 `$1` から `$6`: 四つのファイルの中身と、二つの旗の値。 -/
@[ext] structure StitchArgs where
  cmdline : List UInt8
  bootstub : List UInt8
  bzImage : List UInt8
  initrd : List UInt8
  spiFlag : Nat
  spiType : Nat
  deriving DecidableEq, Repr

/-- `cat $f /dev/zero` のうち、`dd` が `n` バイトまでに読む部分。 -/
def catDevZero (f : List UInt8) (n : Nat) : List UInt8 := f ++ List.replicate n 0

/-- 出力のファイル `$7` の、はじめの中身 `out` からの七回の `dd`。`stat -L -c %s` はファイルの長さ。 -/
def stitch (a : StitchArgs) (out : List UInt8) : List UInt8 :=
  let out := dd (catDevZero a.cmdline 4096) out 4096 (some 1) 0 false
  let out := dd (catDevZero a.bootstub 4096) out 4096 (some 1) 1 false
  let out := dd (a.bzImage ++ a.initrd) out 4096 none 2 false
  let out := dd (binstring a.bzImage.length) out 1 none 1024 true
  let out := dd (binstring a.initrd.length) out 1 none 1028 true
  let out := dd (binstring a.spiFlag) out 1 none 1032 true
  dd (binstring a.spiType) out 1 none 1036 true

end Kboot.Stitch
