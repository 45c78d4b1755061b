import Kboot.Osip.ManageDevice
import Kboot.Osip.Lemmas.Proc

/-!
# manage_device.c の補題: 検査和、見出しの表示、見出しの読み書き

`write_OSIP` の検査和の繰り返しは構造体の先頭から `header_size` バイトを読み、200 バイトを越える分は
構造体の外を読む。`dump_osip_header` の繰り返しは `num_pointers` 個の記述子を読み、7 個目からは
構造体の外を読む。どちらも読んだ値のほかには、範囲の外の読み出しの記録だけを残す。

`header_size` が 8 から 200 のあいだなら、書いた並びの先頭 `header_size` バイトの排他的論理和は 0 で、
検査和は前の `header_checksum` によらない。
-/

namespace Kboot.Osip

open Bytes

/-! ## 見出しのバイトと、範囲の外の読み出し -/

/-- 見出しの構造体の `i` バイト目として読まれる値。200 バイト目からは構造体の外。 -/
def rawByte (junk : Int → UInt8) (h : OSIPHeader) (i : Nat) : UInt8 :=
  if i < 200 then h.toBytes.getD i 0 else junk i

def headerOob (n : Nat) : List Oob := ((List.range n).filter (200 ≤ ·)).map fun (i : Nat) => .header i

def descOob (n : Nat) : List Oob :=
  ((List.range n).filter (7 ≤ ·)).map fun (i : Nat) => .header (32 + 24 * (i : Int))

theorem headerOob_eq_nil {n : Nat} (h : n ≤ 200) : headerOob n = [] := by
  simp only [headerOob, List.map_eq_nil_iff, List.filter_eq_nil_iff, List.mem_range, decide_eq_true_eq]
  omega

theorem descOob_eq_nil {n : Nat} (h : n ≤ 7) : descOob n = [] := by
  simp only [descOob, List.map_eq_nil_iff, List.filter_eq_nil_iff, List.mem_range, decide_eq_true_eq]
  omega

/-- 構造体の 200 バイト目を読むのは、`header_size` が 200 を越えるときだけ。 -/
theorem header_mem_headerOob {n : Nat} : Oob.header 200 ∈ headerOob n ↔ 200 < n := by
  simp only [headerOob, List.mem_map, List.mem_filter, List.mem_range, decide_eq_true_eq, Oob.header.injEq]
  constructor
  · rintro ⟨a, ⟨ha, -⟩, he⟩
    omega
  · intro h
    exact ⟨200, ⟨h, le_refl _⟩, rfl⟩

/-- `desc[7]` は構造体の 200 バイト目から始まる。 -/
theorem header_mem_descOob {n : Nat} : Oob.header 200 ∈ descOob n ↔ 7 < n := by
  simp only [descOob, List.mem_map, List.mem_filter, List.mem_range, decide_eq_true_eq, Oob.header.injEq]
  constructor
  · rintro ⟨a, ⟨ha, -⟩, he⟩
    omega
  · intro h
    exact ⟨7, ⟨h, le_refl _⟩, rfl⟩
/-- 装置の `off` バイト目から読んだ見出し。 -/
def hdrAt (dev : Nat → UInt8) (off : Nat) : OSIPHeader := OSIPHeader.ofBytes (Store.read dev off 200)

@[simp] theorem hdrAt_write_self (dev : Nat → UInt8) (off : Nat) (h : OSIPHeader) :
    hdrAt (Store.write dev off h.toBytes) off = h := by
  have hr := Store.read_write_self dev off h.toBytes
  rw [OSIPHeader.length_toBytes] at hr
  rw [hdrAt, hr, OSIPHeader.ofBytes_toBytes]

theorem hdrAt_write_of_disjoint {dev : Nat → UInt8} {off off' : Nat} {bs : List UInt8}
    (h : off' + 200 ≤ off ∨ off + bs.length ≤ off') : hdrAt (Store.write dev off bs) off' = hdrAt dev off' := by
  rw [hdrAt, Store.read_write_of_disjoint h, hdrAt]

/-- 0 で埋めた 200 バイトを書いた場所の見出しは `zeroHeader`。 -/
theorem hdrAt_write_zeros (dev : Nat → UInt8) (off : Nat) :
    hdrAt (Store.write dev off (List.replicate 200 0)) off = zeroHeader := by
  have h := Store.read_write_self dev off (List.replicate 200 (0 : UInt8))
  rw [List.length_replicate] at h
  rw [hdrAt, h, zeroHeader]

theorem sig_zeroHeader : zeroHeader.sig ≠ osipSig := by
  decide

/-- 記述子 `j` の場所への 24 バイトの書き込みは、その場所の見出しの記述子 `j` を置き換える。 -/
theorem hdrAt_write_desc (dev : Nat → UInt8) (off : Nat) (j : Fin 7) (o : OSII) :
    hdrAt (Store.write dev (off + osipPreamble + 24 * j) o.toBytes) off = (hdrAt dev off).setDesc j o := by
  have hk : osipPreamble + 24 * (j : Nat) + 24 + (200 - (osipPreamble + 24 * j) - 24) = 200 := by
    simp only [osipPreamble]; omega
  have hR := Store.read_write_inside dev off (osipPreamble + 24 * j) (200 - (osipPreamble + 24 * j) - 24)
    o.toBytes
  have hD := Store.read_write_inside dev off (osipPreamble + 24 * j) (200 - (osipPreamble + 24 * j) - 24)
    (Store.read dev (off + (osipPreamble + 24 * j)) 24)
  rw [OSII.length_toBytes, hk, ← Nat.add_assoc] at hR
  rw [Store.length_read, hk, Store.write_read_self, ← Nat.add_assoc] at hD
  have hpre : 32 + 24 * (j : Nat) = osipPreamble + 24 * j := rfl
  rw [hdrAt, hR, hdrAt, ← OSIPHeader.ofBytes_toBytes (OSIPHeader.setDesc _ _ _), OSIPHeader.toBytes_setDesc,
    OSIPHeader.toBytes_ofBytes (by simp), List.take_of_length_le (Nat.le_of_eq (Store.length_read dev off 200)),
    hD, hpre, List.drop_left' (by simp), List.append_assoc _ (Store.read dev (off + osipPreamble + 24 * j) 24),
    List.take_left' (Store.length_read _ _ _)]

namespace OSIPHeader

def checksum (junk : Int → UInt8) (h : OSIPHeader) : UInt8 :=
  (List.range h.headerSize.toNat).foldl (fun c i => c ^^^ rawByte junk { h with headerChecksum := 0 } i) 0

/-- `write_OSIP` が書く見出し: `header_checksum` を検査和に置き換えたもの。 -/
def sealed (junk : Int → UInt8) (h : OSIPHeader) : OSIPHeader :=
  { h with headerChecksum := h.checksum junk }

@[simp] theorem checksum_headerChecksum (junk : Int → UInt8) (h : OSIPHeader) (c : UInt8) :
    ({ h with headerChecksum := c } : OSIPHeader).checksum junk = h.checksum junk := rfl

@[simp] theorem sealed_headerChecksum (junk : Int → UInt8) (h : OSIPHeader) (c : UInt8) :
    ({ h with headerChecksum := c } : OSIPHeader).sealed junk = h.sealed junk := rfl

@[simp] theorem sealed_sealed (junk : Int → UInt8) (h : OSIPHeader) :
    (h.sealed junk).sealed junk = h.sealed junk := rfl

@[simp] theorem desc_sealed (junk : Int → UInt8) (h : OSIPHeader) : (h.sealed junk).desc = h.desc := rfl

@[simp] theorem sig_sealed (junk : Int → UInt8) (h : OSIPHeader) : (h.sealed junk).sig = h.sig := rfl

@[simp] theorem headerSize_sealed (junk : Int → UInt8) (h : OSIPHeader) :
    (h.sealed junk).headerSize = h.headerSize := rfl

@[simp] theorem numPointers_sealed (junk : Int → UInt8) (h : OSIPHeader) :
    (h.sealed junk).numPointers = h.numPointers := rfl

/-- 0 で埋めた見出しは `header_size` が 0 なので、検査和も 0 のまま。 -/
@[simp] theorem sealed_zeroHeader (junk : Int → UInt8) : zeroHeader.sealed junk = zeroHeader := rfl

theorem toBytes_sealed (junk : Int → UInt8) (h : OSIPHeader) :
    (h.sealed junk).toBytes = h.toBytes.set 7 (h.checksum junk) :=
  toBytes_headerChecksum h _

/-- 200 バイトの中だけを読む検査和は、7 バイト目を 0 にした並びの排他的論理和。 -/
theorem checksum_of_le (junk : Int → UInt8) {h : OSIPHeader} (hs : h.headerSize.toNat ≤ 200) :
    h.checksum junk = xorSum ((h.toBytes.set 7 0).take h.headerSize.toNat) := by
  have hraw : ∀ c, ∀ i ∈ List.range h.headerSize.toNat,
      c ^^^ rawByte junk { h with headerChecksum := 0 } i = c ^^^ (h.toBytes.set 7 0).getD i 0 := by
    intro c i hi
    have hi' : i < 200 := by simp at hi; omega
    simp only [rawByte, hi', if_true, toBytes_headerChecksum]
  rw [checksum, List.foldl_ext _ _ _ hraw, foldl_range_getD_xor _ (by simpa using hs)]

theorem xorSum_sealed (junk : Int → UInt8) {h : OSIPHeader} (h8 : 8 ≤ h.headerSize.toNat)
    (h200 : h.headerSize.toNat ≤ 200) : xorSum ((h.sealed junk).toBytes.take h.headerSize.toNat) = 0 := by
  have h7 : 7 < (h.toBytes.take h.headerSize.toNat).length := by simp; omega
  rw [toBytes_sealed, checksum_of_le junk h200, List.take_set, List.take_set]
  exact xorSum_set_xorSum h7

end OSIPHeader

/-! ## 一段ずつの読み出し -/

theorem headerByte_run (osip : OSIPHeader) (i : Nat) (s : Sys) :
    (headerByte osip i).run s =
      .ok (rawByte s.junk osip i) { s with oob := s.oob ++ if i < 200 then [] else [.header i] } := by
  by_cases hi : i < 200
  · simp [headerByte, rawByte, hi]
  · simp [headerByte, rawByte, hi, logOob]

theorem descRead_natCast_run (osip : OSIPHeader) (i : Nat) (s : Sys) :
    ∃ o, (descRead osip i).run s =
      .ok o { s with oob := s.oob ++ if i < 7 then [] else [.header (32 + 24 * (i : Int))] } := by
  by_cases hi : i < 7
  · simp [descRead, hi]
  · simp [descRead, hi, logOob]

theorem foldlM_headerByte_run (osip : OSIPHeader) (l : List Nat) (c : UInt8) (s : Sys) :
    (l.foldlM (fun c i => do return c ^^^ (← headerByte osip i)) c).run s =
      .ok (l.foldl (fun c i => c ^^^ rawByte s.junk osip i) c)
        { s with oob := s.oob ++ (l.filter (200 ≤ ·)).map fun i => .header i } := by
  induction l generalizing c s with
  | nil => simp
  | cons i l ih =>
    simp only [List.foldlM_cons, EStateM.run_bind, headerByte_run, ih]
    by_cases hi : i < 200
    · simp [hi, Nat.not_le.mpr hi]
    · simp [hi, Nat.le_of_not_lt hi]

theorem forM_descRead_run (osip : OSIPHeader) (l : List Nat) (s : Sys) :
    (l.forM fun i => do let _ ← descRead osip i).run s =
      .ok () { s with oob := s.oob ++ (l.filter (7 ≤ ·)).map fun i => .header (32 + 24 * (i : Int)) } := by
  induction l generalizing s with
  | nil => simp [List.forM]
  | cons i l ih =>
    obtain ⟨o, ho⟩ := descRead_natCast_run osip i s
    rw [List.forM]
    simp only [EStateM.run_bind, ho, ih]
    by_cases hi : i < 7
    · simp [hi, Nat.not_le.mpr hi]
    · simp [hi, Nat.le_of_not_lt hi]

namespace ManageDevice

variable {s : Sys}

/-! ## 関数ごとの結果 -/

theorem checksumLoop_run (h : OSIPHeader) (s : Sys) :
    (checksumLoop { h with headerChecksum := 0 }).run s =
      .ok (h.checksum s.junk) { s with oob := s.oob ++ headerOob h.headerSize.toNat } := by
  simp only [checksumLoop, foldlM_headerByte_run, OSIPHeader.checksum, headerOob]

theorem dumpOsipHeader_run (osip : OSIPHeader) (s : Sys) :
    (dumpOsipHeader osip).run s = .ok () { s with oob := s.oob ++ descOob osip.numPointers.toNat } := by
  simp only [dumpOsipHeader, forM_descRead_run, descOob]

/-- 検査和の前に `header_checksum` を 0 にするので、`write_OSIP` は元の `header_checksum` を見ない。 -/
theorem writeOSIP_headerChecksum (osip : OSIPHeader) (c : UInt8) :
    writeOSIP { osip with headerChecksum := c } = writeOSIP osip := rfl

theorem writeOSIP_run_nil (hf : s.faults = []) (osip : OSIPHeader) :
    (writeOSIP osip).run s =
      .ok (1, osip.sealed s.junk)
        { s with
          dev := Store.write s.dev 0 (osip.sealed s.junk).toBytes
          oob := s.oob ++ headerOob osip.headerSize.toNat ++ descOob osip.numPointers.toNat } := by
  simp [writeOSIP, checksumLoop_run, devOpen_run_nil, devWrite_run_nil, dumpOsipHeader_run, hf,
    OSIPHeader.sealed]

/-- `write` が `k` バイトだけを書いても、負でない戻り値なので `write_OSIP` は成功を返す。 -/
theorem writeOSIP_run_of_short {fs : List Outcome} {k : Nat} (hf : s.faults = .ok :: .short k :: fs)
    (osip : OSIPHeader) :
    (writeOSIP osip).run s =
      .ok (1, osip.sealed s.junk)
        { s with
          faults := fs
          dev := Store.write s.dev 0 ((osip.sealed s.junk).toBytes.take k)
          oob := s.oob ++ headerOob osip.headerSize.toNat ++ descOob osip.numPointers.toNat } := by
  have hk : ¬((k : Int) < 0) := by omega
  simp [writeOSIP, checksumLoop_run, devOpen_run, devWrite_run, dumpOsipHeader_run, hf, hk, OSIPHeader.sealed]

theorem readOSIP_run_nil (hf : s.faults = []) :
    readOSIP.run s =
      .ok (1, hdrAt s.dev 0) { s with oob := s.oob ++ descOob (hdrAt s.dev 0).numPointers.toNat } := by
  simp [readOSIP, devOpen_run_nil, devRead_run_nil, dumpOsipHeader_run, hf, hdrAt]

end ManageDevice

end Kboot.Osip
