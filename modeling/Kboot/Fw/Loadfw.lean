import Kboot.Lib.CString
import Kboot.Lib.Res

/-!
# loadfw

`loadfw` は、258 KiB のファイアウェアのファイルを読み、装置 `/dev/mid_ipc` の `ioctl` に渡す。`goto` は
なく、失敗した検査はそれまでに開いたものを閉じて `exit(1)` で終わる。`main` は外の世界 `World` を読み、
外から見える出来事の列を残し、`exit` の値を返す。`fopen`、`calloc`、`open` の記述子とバッファは
`Res.Ev` の出来事。
-/

namespace Kboot.Fw.Loadfw

open CString

def fwBinFileSize : Nat := 258 * 1024

def fileExt : List Char := ".bin".toList

/-- `main` が開いて閉じる記述子と、確保して解放するバッファ。 -/
inductive Handle where
  | fwp
  | fwFileData
  | devfd
  deriving DecidableEq, Repr

/-- `main` の外から見える出来事。`ioctl(devfd, DEVICE_FW_UPGRADE, fwFileData)` はバッファを渡す。 -/
inductive Ev where
  | res (e : Res.Ev Handle)
  | ioctl (fwFileData : List UInt8)
  deriving DecidableEq, Repr

/-- `main` の外の世界。 -/
structure World where
  uid : Nat
  /-- `fopen(name, "rb")` が成功するファイルの中身。`fstat` の大きさはその長さ。 -/
  files : String → Option (List UInt8)
  statOk : Bool
  allocOk : Bool
  /-- `fread` が返すバイト数。 -/
  freadCount : Nat
  devOpenOk : Bool
  ioctlRet : Int

abbrev Prog := StateM (List Ev)

def emit (e : Ev) : Prog Unit := modify (· ++ [e])

/-- `main(argc, argv)`: `args` はプログラムの名前のあとの引数。値は `exit` に渡す数。 -/
def main (w : World) (args : List String) : Prog Int :=
  if w.uid ≠ 0 then return 1
  else match args with
    | [fwBinFile] =>
      match strrchr fwBinFile.toList '.' with
      | none => return 1
      | some tempPtr =>
        -- `strncmp(tempPtr, FILE_EXT, strlen(FILE_EXT))`: 最後の `.` から 4 文字だけを比べる
        if !strnEq tempPtr fileExt fileExt.length then return 1
        else
          match w.files fwBinFile with
          | none => return 1
          | some fw => do
            emit (.res (.acquire .fwp))
            if !w.statOk then do
              emit (.res (.release .fwp))
              return 1
            else if fw.length ≠ fwBinFileSize then do
              emit (.res (.release .fwp))
              return 1
            else if !w.allocOk then do
              emit (.res (.release .fwp))
              return 1
            else do
              emit (.res (.acquire .fwFileData))
              let n := min w.freadCount fw.length
              let fwFileData := fw.take n ++ List.replicate (fw.length - n) 0
              if n < fw.length then do
                emit (.res (.release .fwFileData))
                emit (.res (.release .fwp))
                return 1
              else if !w.devOpenOk then do
                emit (.res (.release .fwFileData))
                emit (.res (.release .fwp))
                return 1
              else do
                emit (.res (.acquire .devfd))
                -- `ioctl` の失敗は表示されるだけで、`exit` の値は変わらない
                emit (.ioctl fwFileData)
                emit (.res (.release .fwFileData))
                emit (.res (.release .fwp))
                emit (.res (.release .devfd))
                return 0
    | _ => return 1

end Kboot.Fw.Loadfw
