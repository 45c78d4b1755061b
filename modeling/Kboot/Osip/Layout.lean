import Kboot.Lib.Bytes

/-!
# OSIP の見出しの型と、そのバイトの並び

`manage_device.h` の `struct OSII` と `struct OSIP_header`、`osip.h` の定数。`-m32` の i386 では
どちらの構造体にも詰め物がなく、`struct OSII` は 24 バイト、`struct OSIP_header` は 200 バイトで、
各欄はリトルエンディアンで並ぶ。`toBytes` はその並びを、`ofBytes` は並びから各欄を読み出す。
-/

namespace Kboot.Osip

open Bytes

/-! ## osip.h の定数 -/

def backupLoc : Nat := 0xE0
def osipPreamble : Nat := 0x20
def osipSig : UInt32 := 0x24534f24
def androidOs : Int := 0
def pos : Int := 1
def cos : Int := 3
def osiiTotal : Nat := 7
def dumpOsip : Int := 1
def notDump : Int := 0
def rBck : Int := 1
def rStart : Int := 0
def mmcPagesPerBlock : Int := 1
def mmcPageSize : Int := 512
def stitchedImagePageSize : Int := 512
def stitchedImageBlockSize : Int := 512

/-! ## 構造体 -/

/-- `struct OSII`（OS のイメージの識別子）。 -/
structure OSII where
  osRevMinor : UInt16
  osRevMajor : UInt16
  logicalStartBlock : UInt32
  ddrLoadAddress : UInt32
  enteryPoint : UInt32
  sizeOfOsImage : UInt32
  attrib : UInt8
  reserved : Vector UInt8 3
  deriving DecidableEq, Repr

/-- `struct OSIP_header`（OS のイメージの一覧）。 -/
structure OSIPHeader where
  sig : UInt32
  intelReserved : UInt8
  headerRevMinor : UInt8
  headerRevMajor : UInt8
  headerChecksum : UInt8
  numPointers : UInt8
  numImages : UInt8
  headerSize : UInt16
  reserved : Vector UInt32 5
  desc : Vector OSII 7
  deriving DecidableEq, Repr

/-! ## バイトの並び -/

namespace OSII

def toBytes (o : OSII) : List UInt8 :=
  u16 o.osRevMinor ++ u16 o.osRevMajor ++ u32 o.logicalStartBlock ++ u32 o.ddrLoadAddress ++
    u32 o.enteryPoint ++ u32 o.sizeOfOsImage ++ [o.attrib] ++ o.reserved.toList

def ofBytes (bs : List UInt8) : OSII where
  osRevMinor := getU16 bs
  osRevMajor := getU16 (bs.drop 2)
  logicalStartBlock := getU32 (bs.drop 4)
  ddrLoadAddress := getU32 (bs.drop 8)
  enteryPoint := getU32 (bs.drop 12)
  sizeOfOsImage := getU32 (bs.drop 16)
  attrib := getU8 (bs.drop 20)
  reserved := Vector.ofFn fun i => getU8 ((bs.drop 21).drop i)

@[simp] theorem length_toBytes (o : OSII) : o.toBytes.length = 24 := by
  simp [toBytes]

@[simp] theorem ofBytes_toBytes_append (o : OSII) (rest : List UInt8) : ofBytes (o.toBytes ++ rest) = o := by
  have hres := @ofFn_dec_flatMap _ _ 1 (fun b => [b]) getU8 (fun _ => rfl) (fun _ _ => rfl) o.reserved rest
  simp only [List.flatMap_singleton', Nat.one_mul] at hres
  have h21 : (o.toBytes ++ rest).drop 21 = o.reserved.toList ++ rest := by
    rw [toBytes, List.append_assoc, List.drop_left' (by simp)]
  rw [ofBytes, h21, hres]
  simp only [toBytes, List.append_assoc, List.singleton_append]
  simp [List.drop_append, List.drop_eq_nil_of_le]

@[simp] theorem ofBytes_toBytes (o : OSII) : ofBytes o.toBytes = o := by
  simpa using ofBytes_toBytes_append o []

theorem toBytes_ofBytes {l : List UInt8} (h : 24 ≤ l.length) : (ofBytes l).toBytes = l.take 24 := by
  have hres := @flatMap_ofFn_dec _ 1 (fun b => [b]) getU8 (fun l hl => getU8_singleton hl) 3 (l.drop 21)
    (by simp; omega)
  simp only [List.flatMap_singleton', Nat.one_mul] at hres
  simp only [toBytes, ofBytes, Vector.toList_ofFn, hres, u16_getU16 (l := l) (by omega)]
  rw [u16_getU16 (by simp; omega), u32_getU32 (by simp; omega), u32_getU32 (by simp; omega),
    u32_getU32 (by simp; omega), u32_getU32 (by simp; omega), getU8_singleton (by simp; omega)]
  simp only [take_append_take_drop]

theorem toBytes_logicalStartBlock (o : OSII) (v : UInt32) :
    ({ o with logicalStartBlock := v } : OSII).toBytes = o.toBytes.take 4 ++ u32 v ++ o.toBytes.drop 8 := by
  simp [toBytes, List.take_append, List.drop_append, List.take_of_length_le, List.drop_eq_nil_of_le]

theorem toBytes_sizeOfOsImage (o : OSII) (v : UInt32) :
    ({ o with sizeOfOsImage := v } : OSII).toBytes = o.toBytes.take 16 ++ u32 v ++ o.toBytes.drop 20 := by
  simp [toBytes, List.take_append, List.drop_append, List.take_of_length_le, List.drop_eq_nil_of_le]

@[simp] theorem getU32_drop_four_toBytes_append (o : OSII) (rest : List UInt8) :
    getU32 ((o.toBytes ++ rest).drop 4) = o.logicalStartBlock := by
  simp [toBytes, List.drop_append, List.drop_eq_nil_of_le]

@[simp] theorem getU32_drop_sixteen_toBytes_append (o : OSII) (rest : List UInt8) :
    getU32 ((o.toBytes ++ rest).drop 16) = o.sizeOfOsImage := by
  simp [toBytes, List.drop_append, List.drop_eq_nil_of_le]

end OSII

namespace OSIPHeader

def prefixBytes (h : OSIPHeader) : List UInt8 :=
  u32 h.sig ++ [h.intelReserved, h.headerRevMinor, h.headerRevMajor, h.headerChecksum, h.numPointers,
    h.numImages] ++ u16 h.headerSize

def toBytes (h : OSIPHeader) : List UInt8 :=
  h.prefixBytes ++ h.reserved.toList.flatMap u32 ++ h.desc.toList.flatMap OSII.toBytes

def ofBytes (bs : List UInt8) : OSIPHeader where
  sig := getU32 bs
  intelReserved := getU8 (bs.drop 4)
  headerRevMinor := getU8 (bs.drop 5)
  headerRevMajor := getU8 (bs.drop 6)
  headerChecksum := getU8 (bs.drop 7)
  numPointers := getU8 (bs.drop 8)
  numImages := getU8 (bs.drop 9)
  headerSize := getU16 (bs.drop 10)
  reserved := Vector.ofFn fun i => getU32 ((bs.drop 12).drop (4 * i))
  desc := Vector.ofFn fun i => OSII.ofBytes ((bs.drop 32).drop (24 * i))

@[simp] theorem length_prefixBytes (h : OSIPHeader) : h.prefixBytes.length = 12 := by
  simp [prefixBytes]

@[simp] theorem length_toBytes (h : OSIPHeader) : h.toBytes.length = 200 := by
  simp [toBytes, List.length_flatMap]

@[simp] theorem ofBytes_toBytes_append (h : OSIPHeader) (rest : List UInt8) :
    ofBytes (h.toBytes ++ rest) = h := by
  have hres := ofFn_dec_flatMap (w := 4) (by simp) getU32_u32_append h.reserved
    (h.desc.toList.flatMap OSII.toBytes ++ rest)
  have hdesc := ofFn_dec_flatMap (w := 24) (by simp) OSII.ofBytes_toBytes_append h.desc rest
  have h32 : (h.toBytes ++ rest).drop 32 = h.desc.toList.flatMap OSII.toBytes ++ rest := by
    rw [toBytes, List.append_assoc, List.drop_left' (by simp [List.length_flatMap])]
  have h12 : (h.toBytes ++ rest).drop 12 =
      h.reserved.toList.flatMap u32 ++ (h.desc.toList.flatMap OSII.toBytes ++ rest) := by
    simp only [toBytes, List.append_assoc]
    rw [List.drop_left' (by simp)]
  rw [ofBytes, h32, h12, hres, hdesc]
  simp only [toBytes, prefixBytes, List.append_assoc, List.cons_append]
  simp [List.drop_append, List.drop_eq_nil_of_le]

@[simp] theorem ofBytes_toBytes (h : OSIPHeader) : ofBytes h.toBytes = h := by
  simpa using ofBytes_toBytes_append h []

theorem toBytes_ofBytes {l : List UInt8} (h : 200 ≤ l.length) : (ofBytes l).toBytes = l.take 200 := by
  have hres := flatMap_ofFn_dec (w := 4) (fun l hl => u32_getU32 hl) 5 (l := l.drop 12) (by simp; omega)
  have hdesc := flatMap_ofFn_dec (w := 24) (fun l hl => OSII.toBytes_ofBytes hl) 7 (l := l.drop 32)
    (by simp; omega)
  have hmid : [getU8 (l.drop 4), getU8 (l.drop 5), getU8 (l.drop 6), getU8 (l.drop 7), getU8 (l.drop 8),
      getU8 (l.drop 9)] = (l.drop 4).take 6 := by
    apply List.ext_getElem (by simp; omega)
    intro i h₁ _
    have hi : i < 6 := by simpa using h₁
    interval_cases i <;> simp (disch := omega) [getU8_drop]
  simp only [toBytes, prefixBytes, ofBytes, Vector.toList_ofFn, hres, hdesc, hmid]
  rw [u32_getU32 (by omega), u16_getU16 (by simp; omega)]
  simp only [take_append_take_drop]

theorem toBytes_headerChecksum (h : OSIPHeader) (c : UInt8) :
    ({ h with headerChecksum := c } : OSIPHeader).toBytes = h.toBytes.set 7 c := by
  simp [toBytes, prefixBytes]

theorem getD_toBytes_seven (h : OSIPHeader) : h.toBytes.getD 7 0 = h.headerChecksum := by
  simp [toBytes, prefixBytes]

-- 記述子は `Fin 7` の番号で `Vector.get` によって読み、証明では `getElem` に戻して扱う
attribute [simp] Vector.get_eq_getElem

def setDesc (osip : OSIPHeader) (j : Fin 7) (o : OSII) : OSIPHeader :=
  { osip with desc := osip.desc.set j o }

@[simp] theorem desc_setDesc (h : OSIPHeader) (j : Fin 7) (o : OSII) : (h.setDesc j o).desc = h.desc.set j o := rfl

@[simp] theorem sig_setDesc (h : OSIPHeader) (j : Fin 7) (o : OSII) : (h.setDesc j o).sig = h.sig := rfl

@[simp] theorem setDesc_getElem (h : OSIPHeader) (j : Fin 7) : h.setDesc j h.desc[(j : Nat)] = h := by
  simp [setDesc]

/-- 記述子 `j` の置き換えは、並びの `32 + 24 * j` バイト目からの 24 バイトの置き換え。 -/
theorem toBytes_setDesc (h : OSIPHeader) (j : Fin 7) (o : OSII) :
    (h.setDesc j o).toBytes = h.toBytes.take (32 + 24 * j) ++ o.toBytes ++ h.toBytes.drop (32 + 24 * j + 24) := by
  have hl : j < h.desc.toList.length := by simp
  set pre := h.prefixBytes ++ h.reserved.toList.flatMap u32 ++ (h.desc.toList.take j).flatMap OSII.toBytes
  set post := (h.desc.toList.drop (j + 1)).flatMap OSII.toBytes
  have hpre : pre.length = 32 + 24 * j := by
    simp only [pre, List.length_append, length_prefixBytes, length_flatMap_of_const length_u32,
      length_flatMap_of_const OSII.length_toBytes, List.length_take, Vector.length_toList]
    omega
  have hsplit : h.toBytes = pre ++ h.desc[j].toBytes ++ post := by
    rw [toBytes, flatMap_eq_getElem OSII.toBytes h.desc.toList hl]
    simp [pre, post]
  have htake : h.toBytes.take (32 + 24 * j) = pre := by
    rw [hsplit, List.append_assoc, List.take_left' hpre]
  have hdrop : h.toBytes.drop (32 + 24 * j + 24) = post := by
    rw [hsplit, List.drop_left' (by simp [hpre])]
  rw [htake, hdrop]
  simp only [setDesc, toBytes, prefixBytes, Vector.toList_set, flatMap_set OSII.toBytes _ hl, pre, post]
  simp

end OSIPHeader

/-- `memset` で 0 にした構造体。 -/
def zeroHeader : OSIPHeader := OSIPHeader.ofBytes (List.replicate 200 0)

def zeroOSII : OSII := OSII.ofBytes (List.replicate 24 0)

end Kboot.Osip
