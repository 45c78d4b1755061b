import Kboot.Osip.Proc

/-!
# manage_device.c

libosip の関数。見出しの読み書き（`read_OSIP`、`write_OSIP`）、見出しの表示（`dump_osip_header`）、
stitched image の分解（`crack_stitched_image`）と、payload のイメージの書き込み
（`write_payload_os_image`）。`get_page_size` は sysfs の `erase_size` を読む版である。
-/

namespace Kboot.Osip.ManageDevice

def payloadOsiiRec : Int := 0
def posOsiiRec : Int := 1
def kbytes : Int := 1024

/-- `get_page_size`。sysfs の `erase_size` を開けない、読めない、`%d` として読めないときは `none`。 -/
def getPageSize (eraseSize : Option Int) : Int :=
  match eraseSize with
  | some n => n.tdiv kbytes
  | none => -1

def getBlockSize (eraseSize : Option Int) : Int := getPageSize eraseSize * mmcPagesPerBlock

def dumpOsipHeader (osip : OSIPHeader) : Proc Unit :=
  (List.range osip.numPointers.toNat).forM fun i => do
    let _ ← descRead osip i

def readOSIP : Proc (Int × OSIPHeader) := do
  if !(← devOpen) then return (-1, zeroHeader)
  let (r, bs) ← devRead (lseek 0 0) 200
  if r < 0 then return (-1, zeroHeader)
  let osip := OSIPHeader.ofBytes (bs ++ List.replicate (200 - bs.length) 0)
  dumpOsipHeader osip
  return (1, osip)

/-- `header_checksum` を 0 にしてから、先頭の `header_size` バイトの排他的論理和を取る。 -/
def checksumLoop (osip : OSIPHeader) : Proc UInt8 :=
  (List.range osip.headerSize.toNat).foldlM (fun c i => do return c ^^^ (← headerByte osip i)) 0

def writeOSIP (osip : OSIPHeader) : Proc (Int × OSIPHeader) := do
  let osip := { osip with headerChecksum := 0 }
  let checksum ← checksumLoop osip
  let osip := { osip with headerChecksum := checksum }
  if !(← devOpen) then return (-1, osip)
  let w ← devWrite (lseek 0 0) osip.toBytes
  if w < 0 then return (-1, osip)
  dumpOsipHeader osip
  return (1, osip)

def crackStitchedImage (data : List UInt8) : Proc Int := do
  if (← imageByte data 9) != 1 then return -1
  return 1

def invalidateOsipRecord (i : Int) : Proc Int := do
  let (r, osip) ← readOSIP
  if r < 0 then return -1
  let d ← descRead osip i
  let osip ← descWrite osip i
    { zeroOSII with logicalStartBlock := d.logicalStartBlock, sizeOfOsImage := d.sizeOfOsImage, attrib := d.attrib }
  let (w, _) ← writeOSIP osip
  if w < 0 then return -1
  return 0

def invalidatePayloadOsipRecord : Proc Int := invalidateOsipRecord payloadOsiiRec

def restorePayloadOsipRecord : Proc Int := do
  let (r, osip) ← readOSIP
  if r < 0 then return -1
  let d ← descRead osip payloadOsiiRec
  let p ← descRead osip posOsiiRec
  let osip ← descWrite osip payloadOsiiRec { d with ddrLoadAddress := p.ddrLoadAddress, enteryPoint := p.enteryPoint }
  let (w, _) ← writeOSIP osip
  if w < 0 then return -1
  return 0

def writePayloadOsImage (data : List UInt8) (size : UInt32) : Proc Int := do
  let blockSize := getBlockSize (← get).eraseSize
  let pageSize := getPageSize (← get).eraseSize
  if blockSize < 0 then return -1
  if (← crackStitchedImage data) < 0 then return -1
  let s ← imageU32 data 48
  if s * UInt32.ofInt stitchedImagePageSize != size - UInt32.ofInt stitchedImageBlockSize then return -1
  let (r, osip) ← readOSIP
  if r < 0 then return -1
  let osip := { osip with numImages := 1 }
  let d ← descRead osip payloadOsiiRec
  let p ← descRead osip posOsiiRec
  let data ← imageSetU32 data 36 (max d.logicalStartBlock p.logicalStartBlock)
  let osip ← descWrite osip posOsiiRec { p with logicalStartBlock := min d.logicalStartBlock p.logicalStartBlock }
  let s ← imageU32 data 48
  -- uint32 を int の page_size で割る: page_size は unsigned int に変換される
  if UInt32.ofInt pageSize = 0 then throw (.ub .divZero)
  let data ← imageSetU32 data 48 (s * UInt32.ofInt stitchedImagePageSize / UInt32.ofInt pageSize)
  let osip ← descWrite osip payloadOsiiRec (← imageOSII data 32)
  let _ ← writeOSIP osip
  if !(← devOpen) then return -1
  let lsb ← imageU32 data 36
  let off := lseek 0 (offT (lsb * UInt32.ofInt blockSize).toNat)
  let len := size - UInt32.ofInt stitchedImageBlockSize
  let w ← devWrite off (← imageRead data 512 len.toNat)
  -- ssize_t の戻り値は size_t に変換して比べる
  if UInt32.ofInt w < len then return -1
  return 0

def writePayloadOsImageFile (fwBinFile : String) : Proc Int := do
  let some data := (← get).files fwBinFile | return -1
  -- 32 ビットの off_t に入らない大きさでは fstat が EOVERFLOW で失敗する
  if 2 ^ 31 ≤ data.length then return -1
  writePayloadOsImage data (UInt32.ofNat data.length)

end Kboot.Osip.ManageDevice
