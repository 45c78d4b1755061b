import Kboot.Osip.ManageDevice

/-!
# osip_utils.c

`update_osip` の処理。見出しの場所ごとの読み出し（`read_OSIP_loc`）、予備の見出しへの退避と復元
（`backup_handle`、`restore_handle`）、記述子の書き換え（`update_handle`、`invalidate_handle`、
`write_OSII_entry`）、stitched image の書き込みと検査（`write_stitch_image`、`check_image_valid`）。
この版の `get_page_size` は定数 512 を返す。

`write` の戻り値が `size_t` の長さと比べられるところでは、戻り値の -1 は `0xFFFFFFFF` になって
失敗として見えない。`check_image_valid` の `int` の掛け算は、`-m32` の gcc のとおり 32 ビットで回る。
-/

namespace Kboot.Osip.OsipUtils

open ManageDevice (dumpOsipHeader writeOSIP crackStitchedImage)

def getPageSize : Int := mmcPageSize

def getBlockSize : Int := getPageSize * mmcPagesPerBlock

def readOSIPLoc (location dump : Int) : Proc (Int × OSIPHeader) := do
  if !(← devOpen) then return (-1, zeroHeader)
  let off := if location ≠ 0 then lseek 0 backupLoc else lseek 0 0
  let (r, bs) ← devRead off 200
  if r < 0 then return (-1, zeroHeader)
  let osip := OSIPHeader.ofBytes (bs ++ List.replicate (200 - bs.length) 0)
  if dump ≠ 0 ∧ osip.sig = osipSig then dumpOsipHeader osip
  return (0, osip)

/-- 装置の位置 `off` とバッファの位置 `b` から、512 バイトのブロックを `k` 個比べる。 -/
def checkBlocks (data : List UInt8) : Nat → Nat → Nat → Proc Bool
  | 0, _, _ => pure true
  | k + 1, off, b => do
      let (r, buff) ← devRead off 512
      if r < 512 then return false
      if (← imageRead data b 512) != buff then return false
      checkBlocks data k (off + 512) (b + 512)

def checkImageValid (size : UInt32) (data : List UInt8) (blob : Nat) (logicalStartBlock : Int32) :
    Proc Int := do
  let blockNum : Int := (Int32.ofNat (size / 512 - 1).toNat).toInt
  let residueBytes : Nat := (size % 512).toNat
  if !(← devOpen) then return -1
  let off := lseek 0 (logicalStartBlock * 512).toInt
  if !(← checkBlocks data blockNum.toNat off blob) then return -1
  if residueBytes ≠ 0 then
    let (r, buff) ← devRead (off + 512 * blockNum.toNat) residueBytes
    if r < residueBytes then return -1
    if (← imageRead data (blob + 512 * blockNum.toNat) residueBytes) != buff then return -1
  return 0

def writeOSIIEntry (updOsii : OSII) (updateNumber location : Int) : Proc Int := do
  if !(← devOpen) then return -1
  let off := if location = rStart then lseek 0 (offT (osipPreamble + 24 * updateNumber))
    else lseek 0 (offT (backupLoc + osipPreamble + 24 * updateNumber))
  if (← devWrite off updOsii.toBytes) < 0 then return -1
  return 0

def writeStitchImage (data : List UInt8) (size : UInt32) (updateNumber : Int) : Proc Int := do
  let blockSize := getBlockSize
  let pageSize := getPageSize
  if blockSize < 0 then return -1
  if (← crackStitchedImage data) < 0 then return -1
  let s ← imageU32 data 48
  if s * UInt32.ofInt stitchedImagePageSize != size - UInt32.ofInt stitchedImageBlockSize then return -1
  let (r, osip) ← readOSIPLoc rStart notDump
  if r < 0 then return -1
  let osip := { osip with numImages := 1 }
  let data ← imageSetU32 data 36 (← descRead osip updateNumber).logicalStartBlock
  let s ← imageU32 data 48
  let data ← imageSetU32 data 48 (s * UInt32.ofInt stitchedImagePageSize / UInt32.ofInt pageSize)
  let osip ← descWrite osip updateNumber (← imageOSII data 32)
  let osip ← if updateNumber = pos then do
      let (_, osip) ← writeOSIP osip
      pure osip
    else pure osip
  let (_, bckOsip) ← readOSIPLoc rBck notDump
  if bckOsip.sig != osipSig then
    let _ ← writeOSIP osip
  else
    let _ ← writeOSIIEntry (← imageOSII data 32) updateNumber rBck
  if !(← devOpen) then return -1
  let lsb ← imageU32 data 36
  let off := lseek 0 (offT (lsb * UInt32.ofInt blockSize).toNat)
  let len := size - UInt32.ofInt stitchedImageBlockSize
  let w ← devWrite off (← imageRead data 512 len.toNat)
  if UInt32.ofInt w < len then return -1
  checkImageValid size data 512 lsb.toInt32

/-- `flash_stitch_image`: 名前の最後の `.` から先が `.bin` で始まるファイルを読み、書き込む。 -/
def flashStitchImage (argv : String) (updateNumber : Int) : Proc Int := do
  let ext := (argv.toList.reverse.takeWhile (· != '.')).reverse
  if ext.length = argv.length then throw (.exit 1)
  if ('.' :: ext).take 4 != ".bin".toList then throw (.exit 1)
  let some data := (← get).files argv | throw (.exit 1)
  if 2 ^ 31 ≤ data.length then throw (.exit 1)
  writeStitchImage data (UInt32.ofNat data.length) updateNumber

def backupHandle (osip : OSIPHeader) : Proc Int := do
  if !(← devOpen) then return -1
  if (← devWrite (lseek 0 backupLoc) osip.toBytes) < 0 then return -1
  let _ ← readOSIPLoc rBck dumpOsip
  return 0

def restoreHandle : Proc Int := do
  let (r, bckOsip) ← readOSIPLoc rBck dumpOsip
  if r < 0 then return -1
  if bckOsip.sig != osipSig then return -1
  let (w, _) ← writeOSIP bckOsip
  if w < 0 then return -1
  if !(← devOpen) then return -1
  if (← devWrite (lseek 0 backupLoc) (List.replicate 200 0)) < 0 then return -1
  return 0

def removeBackupOSII (updateNumber : Int) : Proc Int := do
  if !(← devOpen) then return -1
  let off := lseek 0 (offT (backupLoc + osipPreamble + 24 * updateNumber))
  if (← devWrite off (List.replicate 24 0xDD)) < 0 then return -1
  return 0

/-- `update_handle` の欄ごとの選択: 全ビットが 1 の値は「指定なし」。 -/
def pick {α : Type} [BEq α] (given old allOnes : α) : α := if given != allOnes then given else old

/-- `update_handle` が書く記述子 `upd_osii`: 元の記述子 `upd` に、`osii` の指定のある欄を重ねる。 -/
def mergeOsii (osii upd : OSII) : OSII :=
  { upd with
    osRevMajor := pick osii.osRevMajor upd.osRevMajor 0xffff
    osRevMinor := pick osii.osRevMinor upd.osRevMinor 0xffff
    logicalStartBlock := pick osii.logicalStartBlock upd.logicalStartBlock 0xffffffff
    ddrLoadAddress := pick osii.ddrLoadAddress upd.ddrLoadAddress 0xffffffff
    enteryPoint := pick osii.enteryPoint upd.enteryPoint 0xffffffff
    sizeOfOsImage := pick osii.sizeOfOsImage upd.sizeOfOsImage 0xffffffff
    attrib := pick osii.attrib upd.attrib 0xff }

def updateHandle (osii : OSII) (updateNumber : Int) : Proc Int := do
  let (_, osip) ← readOSIPLoc rStart notDump
  let upd ← descRead osip updateNumber
  let osip ← descWrite osip updateNumber (mergeOsii osii upd)
  let (w, _) ← writeOSIP osip
  if w < 0 then return -1
  let _ ← readOSIPLoc rStart dumpOsip
  return 0

/-- 記述子を無効の形にする: `logical_start_block`、`size_of_os_image` と `attribute` のほかは 0。 -/
def OSII.invalidated (o : OSII) (v : Int) : OSII :=
  { zeroOSII with
    logicalStartBlock := o.logicalStartBlock
    sizeOfOsImage := o.sizeOfOsImage
    attrib := UInt8.ofInt v }

/-- `attribute` が `v` に等しい最初の記述子。`int` と `uint8` の比べ方で比べる。 -/
def findAttrib (osip : OSIPHeader) (v : Int) : Option (Fin 7) :=
  (List.finRange 7).find? fun j => v == ((osip.desc.get j).attrib.toNat : Int)

/-- `invalidate_handle` の二重の繰り返し。見つからない値があれば `none`。 -/
def invalidateLoop (osip : OSIPHeader) : List Int → Option OSIPHeader
  | [] => some osip
  | v :: vs =>
      match findAttrib osip v with
      | none => none
      | some j => invalidateLoop (osip.setDesc j (OSII.invalidated (osip.desc.get j) v)) vs

def invalidateHandle (invalValues : List Int) : Proc Int := do
  let (r, osip) ← readOSIPLoc rStart notDump
  if r < 0 then return -1
  let some osip := invalidateLoop osip invalValues | return -1
  let (w, _) ← writeOSIP osip
  if w < 0 then return -1
  return 0

end Kboot.Osip.OsipUtils
