import Kboot.Lib.CString
import Kboot.Lib.Res
import Kboot.Lib.Bytes
import Kboot.Lib.Dd

/-!
# ifwi-update

`ifwi-update` の、IFWI のバッファを調べる `find_fuph_header_len` と、装置番号を探す `find_device_id`、
その二つを呼ぶ `main` の部分。

`find_fuph_header_len` は IFWI のバッファの末尾から 4 バイトずつ戻りながら `"UPH$"` を探す。ここでは
バッファの記憶を `bufMem` とし、`[0, n)` の外で読む値は `junk` が決める。読んだ番地は結果と一緒に
返り、外を読んだかどうかはその列で述べる。`find_device_id` は `/proc` のファイルを `getline` の行の
列として読む。

`main` は外の世界 `World` を読み、外から見える出来事の列を残す。記述子の `open` と `close`、
バッファの `calloc` と `free` は `Res.Ev` の出来事で、`goto` の行き先 `fwdata`、`fwp`、`dnxdata`、
`dnxp`、`end` は、それぞれの後始末を順に行う関数。`main` の中で一度ずつ呼ぶシステムコールの結果は
`World` の欄で、`read` は要求より短く終わってもよい。
-/

namespace Kboot.Fw.IfwiUpdate

open CString

def skipBytes : Nat := 8

def fuphMaxLen : Nat := 36

def fuphStrLen : Nat := 4

/-- `FUPH_STR`: `"UPH$"` と終端の NUL。 -/
def fuphStr : List UInt8 := [0x55, 0x50, 0x48, 0x24, 0]

/-- `file_data` の記憶: `[0, n)` の中はバッファのバイト、外は `junk`。 -/
def bufMem (data : List UInt8) (junk : Int → UInt8) (i : Int) : UInt8 :=
  if 0 ≤ i ∧ i < data.length then data.getD i.toNat 0 else junk i

/-- `while (cnt <= FUPH_MAX_LEN)`: 見つかれば `cnt + SKIP_BYTES`。 -/
def fuphLoop (mem : Int → UInt8) (temp : Int) (cnt : Nat) : Option Nat × List Int :=
  if cnt ≤ fuphMaxLen then
    let r := strncmp mem temp fuphStr fuphStrLen
    if r.1 = 0 then (some (cnt + skipBytes), r.2)
    else
      let t := fuphLoop mem (temp - 4) (cnt + 4)
      (t.1, r.2 ++ t.2)
  else (none, [])
termination_by fuphMaxLen + 1 - cnt

/-- `find_fuph_header_len(len, file_data, file_size)`: 戻り値と `*len`、読んだ番地。`main` は
`file_size` にバッファの長さを渡す。 -/
def findFuphHeaderLen (len : Nat) (data : List UInt8) (junk : Int → UInt8) : (Int × Nat) × List Int :=
  if data.length = 0 then ((-1, len), [])
  else
    let temp : Int := (data.length : Int) - skipBytes
    let r := fuphLoop (bufMem data junk) temp 0
    match r.1 with
    | some l => ((0, l), r.2)
    | none => ((-1, len), r.2)

/-- `find_device_id` の `getline` の繰り返し。値は `(ret, *id)`。`found` が立っても、次の行を読んでから
止まる。 -/
def findDeviceIdLoop (devName : List Char) : List (List Char) → Bool → Int → Int → Int × Int
  | [], _, ret, id => (ret, id)
  | line :: lines, found, ret, id =>
    if found then (ret, id)
    else if (strstr line devName).isSome then
      match sscanfInt line with
      | some k => findDeviceIdLoop devName lines true 0 k
      | none => (ret, id)
    else findDeviceIdLoop devName lines found ret id

/-- `find_device_id(id, proc_file, dev_name)`: `proc_file` は `getline` が返す行の列で、開けなければ
`none`。 -/
def findDeviceId (id : Int) (procFile : Option (List (List Char))) (devName : List Char) : Int × Int :=
  match procFile with
  | none => (-1, id)
  | some lines => findDeviceIdLoop devName lines false (-1) id

def devList : String := "/proc/devices"

def miscList : String := "/proc/misc"

def ipcDev : List Char := "mid_ipc".toList

def miscDev : List Char := "misc".toList

/-- `main` が `makedev` に渡す `(major, minor)`。どちらかが見つからなければ `goto end`。 -/
def findIpcDevice (procFiles : String → Option (List (List Char))) : Option (Int × Int) :=
  let r₁ := findDeviceId 0 (procFiles devList) miscDev
  if r₁.1 < 0 then none
  else
    let r₂ := findDeviceId 0 (procFiles miscList) ipcDev
    if r₂.1 < 0 then none else some (r₁.2, r₂.2)

/-! ## main -/

/-- `checksufix(fw)`: 最後の `.` から後ろが `".bin"` なら 0。 -/
def checksufix (fw : List Char) : Int :=
  match strrchr fw '.' with
  | none => -1
  | some sufix => if !strEq sufix ".bin".toList then -1 else 0

def dnxSize : Nat := 128 * 1024

def ifwiSize : Nat := 1024 * 1024 * 3

def dnxSizeOffset : Nat := 0

def gpFlagOffset : Nat := 4

def xorChkOffset : Nat := 20

def gpfBit32 : UInt32 := 1

/-- `dnxSH`: 0 で埋めた 24 バイトに、大きさ、`gpFlags`、その排他的論理和を `memcpy` した DnX の見出し。 -/
def dnxHeader (size : UInt32) : List UInt8 :=
  -- `GPF_BIT32 << 31` は `int` の桁あふれだが、gcc の値を `unsigned int` の `gpFlags` に入れる
  let gpFlags : UInt32 := (0 : UInt32) ||| (gpfBit32 <<< 31)
  let xorcs := size ^^^ gpFlags
  let sh := List.replicate 24 0
  let sh := Dd.splice sh dnxSizeOffset (Bytes.u32 size)
  let sh := Dd.splice sh gpFlagOffset (Bytes.u32 gpFlags)
  Dd.splice sh xorChkOffset (Bytes.u32 xorcs)

/-- `calloc(n, 1)` のバッファに、`read` が `k` バイトを読んだもの。 -/
def readBuf (data : List UInt8) (n k : Nat) : List UInt8 :=
  data.take (min k n) ++ List.replicate (n - min k n) 0

/-- `ioctl(devfd, INTEL_SCU_IPC_MEDFIELD_FW_UPDATE, &fwud)` に渡す `fw_ud`。 -/
structure FwUd where
  fwFileData : List UInt8
  fsize : Nat
  dnxhdr : List UInt8
  dnxFileData : List UInt8
  dnxsize : Nat
  fuphHdrLen : Nat
  deriving DecidableEq, Repr

/-- `main` が開いて閉じる記述子と、確保して解放するバッファ。 -/
inductive Handle where
  | dnxFd
  | dnxFileData
  | ifwiFd
  | fwFileData
  | devfd
  deriving DecidableEq, Repr

/-- `main` の外から見える出来事。 -/
inductive Ev where
  | res (e : Res.Ev Handle)
  | unlink
  | mknod (major minor : Int)
  | sync
  | ioctl (ud : FwUd)
  | reboot
  deriving DecidableEq, Repr

/-- `main` の外の世界。 -/
structure World where
  /-- `open(name, O_RDONLY)` が成功するファイルの中身。`fstat` の大きさはその長さ。 -/
  files : String → Option (List UInt8)
  procFiles : String → Option (List (List Char))
  mknodOk : Bool
  dnxStatOk : Bool
  dnxAllocOk : Bool
  /-- `read` の戻り値: `none` は -1。 -/
  dnxRead : Option Nat
  ifwiStatOk : Bool
  fwAllocOk : Bool
  fwRead : Option Nat
  devOpenOk : Bool
  ioctlRet : Int
  /-- IFWI のバッファの外のバイト。 -/
  junk : Int → UInt8

abbrev Prog := StateM (List Ev)

def emit (e : Ev) : Prog Unit := modify (· ++ [e])

/-- `end:`: 更新を試みたあとなら `sync` と `reboot -f`。 -/
def atEnd (ret : Int) (reboot : Bool) : Prog Int := do
  if reboot then
    emit .sync
    emit .reboot
  return ret

def dnxp (ret : Int) (reboot : Bool) : Prog Int := do
  emit (.res (.release .dnxFd))
  atEnd ret reboot

def dnxdata (ret : Int) (reboot : Bool) : Prog Int := do
  emit (.res (.release .dnxFileData))
  dnxp ret reboot

def fwp (ret : Int) (reboot : Bool) : Prog Int := do
  emit (.res (.release .ifwiFd))
  dnxdata ret reboot

def fwdata (ret : Int) (reboot : Bool) : Prog Int := do
  emit (.res (.release .fwFileData))
  fwp ret reboot

/-- IFWI のファイルを開いてから `ioctl` と後始末まで。DnX の見出しとバッファはできている。 -/
def updateIfwi (w : World) (fwBinFile : String) (dnxSH dnxFileData : List UInt8) (dnxFileSize : Nat) :
    Prog Int :=
  match w.files fwBinFile with
  | none => dnxdata (-1) false
  | some fw => do
    emit (.res (.acquire .ifwiFd))
    if !w.ifwiStatOk then fwp (-1) false
    else if fw.length > ifwiSize ∨ fw.length = 0 then fwp (-1) false
    else if !w.fwAllocOk then fwp (-1) false
    else do
      emit (.res (.acquire .fwFileData))
      match w.fwRead with
      | none => fwdata (-1) false
      | some k =>
        let size := fw.length
        let fwFileData := readBuf fw size k
        -- `fwud.fuph_hdr_len` は初期化されないが、失敗すればその値は使われない
        let r := (findFuphHeaderLen 0 fwFileData w.junk).1
        if r.1 < 0 then fwdata (-1) false
        else if !w.devOpenOk then fwdata (-1) false
        else do
          emit (.res (.acquire .devfd))
          emit .sync
          emit (.ioctl ⟨fwFileData, size, dnxSH, dnxFileData, dnxFileSize, r.2⟩)
          let ret : Int := if w.ioctlRet < 0 then -1 else 0
          emit (.res (.release .devfd))
          fwdata ret true

/-- DnX のファイルを開いたあと、見出しを作るまで。 -/
def loadDnx (w : World) (fwBinFile : String) (dnx : List UInt8) : Prog Int :=
  if !w.dnxStatOk then dnxp (-1) false
  else if dnx.length > dnxSize ∨ dnx.length = 0 then dnxp (-1) false
  else if !w.dnxAllocOk then dnxp (-1) false
  else do
    emit (.res (.acquire .dnxFileData))
    match w.dnxRead with
    | none => dnxdata (-1) false
    | some k =>
      let size := dnx.length
      updateIfwi w fwBinFile (dnxHeader (UInt32.ofNat size)) (readBuf dnx size k) size

/-- `main(argc, argv)`: `args` はプログラムの名前のあとの引数。 -/
def main (w : World) : List String → Prog Int
  | [dnxBinFile, fwBinFile] =>
    if checksufix dnxBinFile.toList ≠ 0 then atEnd (-1) false
    else if checksufix fwBinFile.toList ≠ 0 then atEnd (-1) false
    else
      match findIpcDevice w.procFiles with
      | none => atEnd (-1) false
      | some (major, minor) => do
        emit .unlink
        if !w.mknodOk then atEnd (-1) false
        else do
          emit (.mknod major minor)
          match w.files dnxBinFile with
          | none => atEnd (-1) false
          | some dnx => do
            emit (.res (.acquire .dnxFd))
            loadDnx w fwBinFile dnx
  | _ => atEnd (-1) false

end Kboot.Fw.IfwiUpdate
