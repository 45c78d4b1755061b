import Kboot.Osip.Layout
import Kboot.Lib.Store

/-!
# プロセスの状態と、eMMC へのシステムコール

`update_osip` と libosip が動くときの、プロセスから見える状態 `Sys` と、その上のプログラム `Proc`。

* eMMC（`/dev/mmcblk0`）は番地ごとに 1 バイトを持つ記憶で、大きさの上限を置かない。
* eMMC への `open`、`read`、`write` の結果は `faults` の先頭から順に決まる。列が尽きたあとは、
  どの呼び出しも成功する。`lseek` は POSIX のとおり、負の `off_t` のときだけ失敗し、位置は変わらない。
* 構造体やバッファの外の読み出しは、記録したうえで、外側にあるバイト `junk` を返す。外への書き込み
  と 0 による除算は、その先を定められないので `Halt.ub` で止める。
* `exit` もプロセスの終わりとして `Halt` で表す。`EStateM` は止まったときの状態も返す。
-/

namespace Kboot.Osip

/-- eMMC への一回のシステムコールの結果。`short k` は `k` バイトだけを移す。 -/
inductive Outcome where
  | ok
  | short (k : Nat)
  | fail
  deriving DecidableEq, Repr

/-- 範囲の外の読み出しの記録。番地は読んだオブジェクトの先頭からのもの。 -/
inductive Oob where
  | header (off : Int)
  | image (off : Int)
  deriving DecidableEq, Repr

inductive Site where
  | descIndex
  | invalValues
  | imageWrite
  | divZero
  deriving DecidableEq, Repr

inductive Halt where
  | exit (code : Int)
  | ub (site : Site)
  deriving DecidableEq, Repr

/-- プロセスから見える状態。`files`、`eraseSize`、`junk` はプロセスの中で変わらない。 -/
structure Sys where
  dev : Nat → UInt8
  faults : List Outcome
  files : String → Option (List UInt8)
  eraseSize : Option Int
  junk : Int → UInt8
  oob : List Oob

abbrev Proc := EStateM Halt Sys

/-! ## システムコール -/

def nextOutcome : Proc Outcome := modifyGet fun s =>
  match s.faults with
  | [] => (.ok, s)
  | o :: os => (o, { s with faults := os })

def devOpen : Proc Bool := do
  let o ← nextOutcome
  return o != .fail

def offT (v : Int) : Int := (Int32.ofInt v).toInt

/-- `lseek(fd, off, SEEK_SET)` のあとの位置。負の `off` では位置 `cur` のまま。 -/
def lseek (cur : Nat) (off : Int) : Nat := if off < 0 then cur else off.toNat

def devRead (off n : Nat) : Proc (Int × List UInt8) := do
  let o ← nextOutcome
  let s ← get
  match o with
  | .ok => return (n, Store.read s.dev off n)
  | .short k => return (min k n, Store.read s.dev off (min k n))
  | .fail => return (-1, [])

def devWrite (off : Nat) (bs : List UInt8) : Proc Int := do
  let o ← nextOutcome
  match o with
  | .ok =>
      modify fun s => { s with dev := Store.write s.dev off bs }
      return bs.length
  | .short k =>
      modify fun s => { s with dev := Store.write s.dev off (bs.take k) }
      return min k bs.length
  | .fail => return -1

/-! ## メモリの上のオブジェクト -/

def logOob (e : Oob) : Proc Unit := modify fun s => { s with oob := s.oob ++ [e] }

/-- 見出しの構造体の `i` バイト目（`((uint8 *) osip)[i]`）。 -/
def headerByte (osip : OSIPHeader) (i : Nat) : Proc UInt8 :=
  if i < 200 then pure (osip.toBytes.getD i 0) else do
    logOob (.header i)
    return (← get).junk i

def descRead (osip : OSIPHeader) (i : Int) : Proc OSII :=
  if h : 0 ≤ i ∧ i < 7 then pure osip.desc[i.toNat] else do
    logOob (.header (32 + 24 * i))
    let s ← get
    return OSII.ofBytes ((List.range 24).map fun k => s.junk (32 + 24 * i + k))

def descWrite (osip : OSIPHeader) (i : Int) (o : OSII) : Proc OSIPHeader :=
  if h : 0 ≤ i ∧ i < 7 then pure (osip.setDesc ⟨i.toNat, by omega⟩ o) else throw (.ub .descIndex)

def imageByte (data : List UInt8) (i : Nat) : Proc UInt8 :=
  if h : i < data.length then pure data[i] else do
    logOob (.image i)
    return (← get).junk i

/-- `-m32` の glibc の `calloc(n, 1)` が返す塊の使えるバイト数。塊は 4 バイトの大きさの欄を足して 16 の倍数に
切り上げ、16 バイト以上にしたもので、欄の 4 バイトを除く。`calloc(0, 1)` では 12 バイト。 -/
def callocUsable (n : Nat) : Nat := max 16 ((n + 4 + 15) / 16 * 16) - 4

/-- `flash_stitch_image` が `calloc(st_size, 1)` で取ったバッファの外に見えるバイト: `calloc` は塊の使える
バイトをすべて 0 にするので、`n` バイト目から塊の終わりまでは 0。 -/
def CallocSlack (junk : Int → UInt8) (n : Nat) : Prop :=
  ∀ i : Nat, n ≤ i → i < callocUsable n → junk i = 0

def imageRead (data : List UInt8) (off n : Nat) : Proc (List UInt8) :=
  (List.range n).mapM fun k => imageByte data (off + k)

def imageU32 (data : List UInt8) (off : Nat) : Proc UInt32 := do
  return Bytes.getU32 (← imageRead data off 4)

def imageOSII (data : List UInt8) (off : Nat) : Proc OSII := do
  return OSII.ofBytes (← imageRead data off 24)

def imageSetU32 (data : List UInt8) (off : Nat) (v : UInt32) : Proc (List UInt8) :=
  if off + 4 ≤ data.length then pure (data.take off ++ Bytes.u32 v ++ data.drop (off + 4))
  else throw (.ub .imageWrite)

end Kboot.Osip
