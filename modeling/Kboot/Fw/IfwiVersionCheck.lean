import Kboot.Lib.Stdio
import Kboot.Lib.Bytes

/-!
# ifwi_version_check

`crack_update_fw` は更新用のファイルを 4 バイトずつ読み、読み始めの一つ先へ戻りながら `FIP_pattern`
を探す。見つかれば、その位置から `struct FIP_header` の 44 バイトを読み、`ifwi_rev` の二つのバイトを
版とする。繰り返しは読み出しが終端に届けば止まる。その尺度はファイルの長さから位置を引いたもので、
`findFipLoop` の停止の証明がそれにあたる。

`find_fw_rev` は基板の版を IPC から読み、`compare_fw_rev` はそれとファイルの版を比べる。
-/

namespace Kboot.Fw.IfwiVersionCheck

open Stdio Bytes

/-- `FIP_pattern`: 小さい方から `24 46 49 50`、`"$FIP"`。 -/
def fipPattern : UInt32 := 0x50494624

/-- `sizeof(struct FIP_header)`。 -/
def fipHeaderSize : Nat := 44

/-- `struct IFWI_rev` のうち `crack_update_fw` が使う二つのバイト。見出しの 40 バイト目から。 -/
structure IFWIRev where
  ifwiMinor : UInt8
  ifwiMajor : UInt8
  deriving DecidableEq, Repr

def IFWIRev.ofFip (fip : List UInt8) : IFWIRev :=
  ⟨getU8 (fip.drop 40), getU8 (fip.drop 41)⟩

/-- `while (tmp != FIP_pattern)`: 見つかったときのストリームか、終端に届いて `none`。 -/
def findFipLoop (tmp : UInt32) (fd : File) : Option File :=
  if tmp = fipPattern then some fd
  else
    let r := fread fd 4
    if h : r.2.eof then none
    else
      let cur := ftell r.2 - 4
      findFipLoop (getU32 r.1) (fseek r.2 (cur + 1)).2
termination_by fd.data.length + 1 - fd.pos
decreasing_by
  have he : (fread fd 4).2.eof = false := by simpa using h
  have hle := le_of_not_eof_fread he
  rw [ftell_fread he, fseek_of_nonneg (by omega)]
  simp only [data_fread]
  omega

def crackUpdateFw (fwFile : Option (List UInt8)) : Int :=
  match fopen fwFile with
  | none => -1
  | some fd =>
    match findFipLoop 0 fd with
    | none => -1
    | some fd₁ =>
      let location := ftell fd₁ - 1
      let r := fread (fseek fd₁ location).2 fipHeaderSize
      if r.2.eof then -1
      else
        let rev := IFWIRev.ofFip r.1
        let ifwiVersion : UInt32 := rev.ifwiMajor.toUInt32
        let ifwiVersion := (ifwiVersion <<< 8) + rev.ifwiMinor.toUInt32
        ifwiVersion.toNat

/-- `find_fw_rev`: `ipc` は `/dev/mid_ipc` への `INTE_SCU_IPC_FW_REVISION_GET` が `version.data` に返す
16 バイトで、`open` か `ioctl` が失敗すれば `none`。 -/
def findFwRev (ipc : Option (List UInt8)) : Int :=
  match ipc with
  | none => -1
  | some data =>
    let ifwiVersion : UInt32 := (getU8 (data.drop 15)).toUInt32
    let ifwiVersion := (ifwiVersion <<< 8) + (getU8 (data.drop 14)).toUInt32
    ifwiVersion.toNat

/-- `compare_fw_rev`: 二つの版は `uint32` に入れて比べる。`-1` との比較も `uint32` の上で行う。 -/
def compareFwRev (ipc fwFile : Option (List UInt8)) : Int :=
  let curFw : UInt32 := UInt32.ofInt (findFwRev ipc)
  let updFw : UInt32 := UInt32.ofInt (crackUpdateFw fwFile)
  if curFw = UInt32.ofInt (-1) ∨ updFw = UInt32.ofInt (-1) then -1
  else if updFw > curFw then 0
  else if updFw < curFw then 1
  else 2

/-- `main`: `args` はプログラムの名前のあとの引数で、`files` はその名前で開くファイルの中身。 -/
def main (ipc : Option (List UInt8)) (files : String → Option (List UInt8)) (args : List String) : Int :=
  match args with
  | [fwFile] => compareFwRev ipc (files fwFile)
  | _ => -1

end Kboot.Fw.IfwiVersionCheck
