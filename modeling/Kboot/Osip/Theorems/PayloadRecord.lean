import Kboot.Osip.Lemmas.Invalidate
import Kboot.Osip.Lemmas.Payload

/-!
# libosip の payload の記録

`invalidate_payload_osip_record` は payload の記述子を、位置と大きさと `attribute` のほかは 0 にし
（`clearedOSII`）、`restore_payload_osip_record` は、その読み込み番地と入口を POS の記述子から写す。
どちらも見出しを読み、一つの記述子を書き換え、検査和を付け直して書く。

装置の主の見出しの `header_size` と `num_pointers` が 200 バイトの構造体に収まれば、どの故障の列でも、
二つの関数は見出しの外を読まず、0 か -1 を返し、-1 を返すときは eMMC に何も書いていない。収まらない
見出しでは、`write_OSIP` の検査和の繰り返しが関数の局所変数の外を読む。故障のない eMMC で二つを続けて呼ぶと、payload の記述子は `restoredOSII` になる。元の記述子に戻るのは、
元の記述子がもともとその形のときだけで、版の番号などの欄は戻らない。
-/

namespace Kboot.Osip

/-! ## 見出しの中に収まる読み出し

見出しは関数の中の 200 バイトの局所変数で、`write_OSIP` の検査和は `header_size` バイト、
`dump_osip_header` は `num_pointers` 個の記述子を読む。どちらの欄も 200 バイトと 7 個に収まる見出しでは、
どの読み出しも構造体の中にある。短く読んだ見出しは残りが 0 なので、二つの欄は装置の見出しの欄を超えない。
-/

/-- 検査和と表示の繰り返しが、200 バイトの見出しの中に収まる見出し。 -/
structure OSIPHeader.InBounds (h : OSIPHeader) : Prop where
  headerSize_le : h.headerSize.toNat ≤ 200
  numPointers_le : h.numPointers.toNat ≤ 7

theorem OSIPHeader.InBounds.setDesc {h : OSIPHeader} (hb : h.InBounds) (j : Fin 7) (o : OSII) :
    (h.setDesc j o).InBounds :=
  ⟨hb.headerSize_le, hb.numPointers_le⟩

namespace ManageDevice

open OsipUtils

variable {s : Sys}

/-- 無効にしてから戻したあとの payload の記述子: 位置、大きさ、`attribute` は元のまま、読み込み番地と
入口は POS の記述子のもの、ほかは 0。 -/
def restoredOSII (osip : OSIPHeader) : OSII :=
  { clearedOSII (osip.desc.get 0) with
    ddrLoadAddress := (osip.desc.get 1).ddrLoadAddress
    enteryPoint := (osip.desc.get 1).enteryPoint }

/-- `restore_payload_osip_record` が書く payload の記述子: 読み込み番地と入口を POS の記述子から写す。 -/
def withPosEntry (osip : OSIPHeader) : OSII :=
  { osip.desc.get 0 with
    ddrLoadAddress := (osip.desc.get 1).ddrLoadAddress
    enteryPoint := (osip.desc.get 1).enteryPoint }

theorem natCast_not_neg (k : Nat) : ¬((k : Int) < 0) := (Int.natCast_nonneg k).not_gt

/-- payload（記述子 0）と POS（記述子 1）が別の版、位置、読み込み番地と入口を持つ、有効な見出し。 -/
def recordHeader : OSIPHeader :=
  { zeroHeader with
    sig := osipSig, headerRevMajor := 1, numPointers := 2, numImages := 2, headerSize := 200
    desc := #v[{ zeroOSII with
        osRevMajor := 3, logicalStartBlock := 8, ddrLoadAddress := 0x1100000, enteryPoint := 0x1101000
        sizeOfOsImage := 4, attrib := 1 },
      { zeroOSII with
        osRevMajor := 2, logicalStartBlock := 32, ddrLoadAddress := 0x1200000, enteryPoint := 0x1201000
        sizeOfOsImage := 2 }, zeroOSII, zeroOSII, zeroOSII, zeroOSII, zeroOSII] }

def recordSys (faults : List Outcome) : Sys where
  dev := Store.write (fun _ => 0) 0 recordHeader.toBytes
  faults := faults
  files := fun _ => none
  eraseSize := none
  junk := fun _ => 0
  oob := []

theorem hdrAt_recordSys (faults : List Outcome) : hdrAt (recordSys faults).dev 0 = recordHeader := by
  simp only [recordSys, hdrAt_write_self]

theorem inBounds_padded (dev : Nat → UInt8) {m : Nat} (hm : m ≤ 200) (hb : (hdrAt dev 0).InBounds) :
    (OSIPHeader.ofBytes (Store.read dev 0 m ++ List.replicate (200 - m) 0)).InBounds := by
  have hsplit := Store.read_add dev 0 m (200 - m)
  rw [Nat.add_sub_cancel' hm, Nat.zero_add] at hsplit
  -- 0 で埋めた並びはバイトごとに装置の 200 バイト以下なので、そこから読む二つの欄も装置の欄以下
  have hle : Bytes.BytesLe (Store.read dev 0 m ++ List.replicate (200 - m) 0) (Store.read dev 0 200) := by
    have h := Bytes.bytesLe_take_append_zeros (Store.read dev 0 200) m
    rwa [Store.length_read, hsplit, List.take_left' (Store.length_read dev 0 m), ← hsplit] at h
  exact ⟨(Bytes.getU16_le_of_bytesLe (hle.drop 10)).trans hb.headerSize_le,
    (Bytes.getU8_le_of_bytesLe (hle.drop 8)).trans hb.numPointers_le⟩

/-! ## 見出しの読み書きと故障 -/

theorem readOSIP_frame (s : Sys) (hb : (hdrAt s.dev 0).InBounds) :
    ∃ r osip s', readOSIP.run s = .ok (r, osip) s' ∧ (r = 1 ∧ osip.InBounds ∨ r = -1) ∧ s'.dev = s.dev ∧
      s'.oob = s.oob := by
  rcases s with ⟨dev, faults, files, eraseSize, junk, oob⟩
  have hnil := descOob_eq_nil hb.numPointers_le
  -- `read` が短ければ、残りを 0 で埋めた見出しを表示する
  have hp : ∀ k, (OSIPHeader.ofBytes (Store.read dev 0 (min k 200) ++ List.replicate (200 - min k 200) 0)).InBounds :=
    fun k => inBounds_padded dev (min_le_right k 200) hb
  have hpnil : ∀ k, descOob (OSIPHeader.ofBytes
      (Store.read dev 0 (min k 200) ++ List.replicate (200 - min k 200) 0)).numPointers.toNat = [] :=
    fun k => descOob_eq_nil (hp k).numPointers_le
  -- `open` と `read` の二つの結果で分ける
  rcases faults with _ | ⟨o, _ | ⟨o', os⟩⟩
  · exact ⟨1, _, _, readOSIP_run_nil rfl, .inl ⟨rfl, hb⟩, rfl, by simp [hnil]⟩
  · cases o <;> simp [readOSIP, devOpen_run, devRead_run_nil, dumpOsipHeader_run] <;> exact ⟨hb, hnil⟩
  · cases o <;> cases o' <;> simp [readOSIP, devOpen_run, devRead, nextOutcome, dumpOsipHeader_run, natCast_not_neg,
      hp, hpnil] <;> exact ⟨hb, hnil⟩

/-- どの故障の列でも `write_OSIP` は止まらず、-1 を返すときは何も書いていない。短い `write` は 1 を返す。 -/
theorem writeOSIP_frame (osip : OSIPHeader) (hb : osip.InBounds) (s : Sys) :
    ∃ r s', (writeOSIP osip).run s = .ok (r, osip.sealed s.junk) s' ∧ s'.oob = s.oob ∧
      (r = 1 ∨ r = -1 ∧ s'.dev = s.dev) := by
  rcases s with ⟨dev, faults, files, eraseSize, junk, oob⟩
  have hsz := headerOob_eq_nil hb.headerSize_le
  have hnil := descOob_eq_nil hb.numPointers_le
  -- `open` と `write` の二つの結果で分ける
  rcases faults with _ | ⟨o, _ | ⟨o', os⟩⟩
  · exact ⟨1, _, writeOSIP_run_nil rfl osip, by simp [hsz, hnil], .inl rfl⟩
  · cases o <;> simp [writeOSIP, checksumLoop_run, devOpen_run, devWrite_run, dumpOsipHeader_run, OSIPHeader.sealed,
      hsz, hnil]
  · cases o <;> cases o' <;> simp [writeOSIP, checksumLoop_run, devOpen_run, devWrite_run, dumpOsipHeader_run,
      OSIPHeader.sealed, natCast_not_neg, hsz, hnil]

/-! ## 記録の関数と故障 -/

theorem invalidateOsipRecord_frame (j : Fin 7) (s : Sys) (hb : (hdrAt s.dev 0).InBounds) :
    ∃ r s', (invalidateOsipRecord j).run s = .ok r s' ∧ s'.oob = s.oob ∧ (r = 0 ∨ r = -1 ∧ s'.dev = s.dev) := by
  obtain ⟨r₁, osip, s₁, h₁, hr₁, hdev₁, hoob₁⟩ := readOSIP_frame s hb
  rcases hr₁ with ⟨rfl, hb₁⟩ | rfl
  · -- 無効の形にした記述子を書いても、二つの欄は読んだ見出しのまま
    obtain ⟨r₂, s₂, h₂, hoob₂, hr₂⟩ :=
      writeOSIP_frame (osip.setDesc j (clearedOSII (osip.desc.get j))) (hb₁.setDesc j _) s₁
    simp only [clearedOSII, Vector.get_eq_getElem] at h₂
    rcases hr₂ with rfl | ⟨rfl, hdev₂⟩
    · simp [invalidateOsipRecord, h₁, descRead_of_lt, descWrite_of_lt, h₂, hoob₂, hoob₁]
    · simp [invalidateOsipRecord, h₁, descRead_of_lt, descWrite_of_lt, h₂, hoob₂, hoob₁, hdev₂, hdev₁]
  · simp [invalidateOsipRecord, h₁, hdev₁, hoob₁]

theorem restorePayloadOsipRecord_frame (s : Sys) (hb : (hdrAt s.dev 0).InBounds) :
    ∃ r s', restorePayloadOsipRecord.run s = .ok r s' ∧ s'.oob = s.oob ∧ (r = 0 ∨ r = -1 ∧ s'.dev = s.dev) := by
  obtain ⟨r₁, osip, s₁, h₁, hr₁, hdev₁, hoob₁⟩ := readOSIP_frame s hb
  rcases hr₁ with ⟨rfl, hb₁⟩ | rfl
  · obtain ⟨r₂, s₂, h₂, hoob₂, hr₂⟩ := writeOSIP_frame (osip.setDesc 0 (withPosEntry osip)) (hb₁.setDesc 0 _) s₁
    simp only [withPosEntry, Vector.get_eq_getElem, Fin.val_zero, Fin.val_one] at h₂
    rcases hr₂ with rfl | ⟨rfl, hdev₂⟩
    · simp [restorePayloadOsipRecord, h₁, descRead_payload, descRead_pos, descWrite_payload, h₂, hoob₂, hoob₁]
    · simp [restorePayloadOsipRecord, h₁, descRead_payload, descRead_pos, descWrite_payload, h₂, hoob₂, hoob₁,
        hdev₂, hdev₁]
  · simp [restorePayloadOsipRecord, h₁, hdev₁, hoob₁]

/-- 装置の主の見出しの `header_size` が 200 以下で `num_pointers` が 7 以下なら、どの故障の列でも、
`invalidate_payload_osip_record` と `restore_payload_osip_record` は見出しの外を読まず、止まらずに 0 か -1 を
返し、-1 を返すときは eMMC に何も書いていない。 -/
theorem payload_record_fail_keeps_emmc (s : Sys) (hsize : (hdrAt s.dev 0).headerSize.toNat ≤ 200)
    (hnum : (hdrAt s.dev 0).numPointers.toNat ≤ 7) :
    (∃ r s', invalidatePayloadOsipRecord.run s = .ok r s' ∧ s'.oob = s.oob ∧ (r = 0 ∨ r = -1 ∧ s'.dev = s.dev)) ∧
      ∃ r s', restorePayloadOsipRecord.run s = .ok r s' ∧ s'.oob = s.oob ∧ (r = 0 ∨ r = -1 ∧ s'.dev = s.dev) :=
  ⟨invalidateOsipRecord_frame 0 s ⟨hsize, hnum⟩, restorePayloadOsipRecord_frame s ⟨hsize, hnum⟩⟩

theorem payload_record_fail_keeps_emmc_short :
    let s := recordSys [.ok, .short 12, .fail]
    (hdrAt s.dev 0).headerSize.toNat ≤ 200 ∧ (hdrAt s.dev 0).numPointers.toNat ≤ 7 ∧
      (∃ r s', invalidatePayloadOsipRecord.run s = .ok r s' ∧ s'.oob = s.oob ∧ (r = 0 ∨ r = -1 ∧ s'.dev = s.dev)) ∧
      ∃ r s', restorePayloadOsipRecord.run s = .ok r s' ∧ s'.oob = s.oob ∧ (r = 0 ∨ r = -1 ∧ s'.dev = s.dev) := by
  intro s
  have hsize : (hdrAt s.dev 0).headerSize.toNat ≤ 200 := by
    rw [hdrAt_recordSys]
    decide
  have hnum : (hdrAt s.dev 0).numPointers.toNat ≤ 7 := by
    rw [hdrAt_recordSys]
    decide
  exact ⟨hsize, hnum, payload_record_fail_keeps_emmc s hsize hnum⟩

/-! ## 故障のない eMMC -/

theorem invalidateOsipRecord_run_nil (hf : s.faults = []) (j : Fin 7) :
    ∃ l, (invalidateOsipRecord j).run s =
      .ok 0 { s with
        dev := Store.write s.dev 0
          (((hdrAt s.dev 0).setDesc j (clearedOSII ((hdrAt s.dev 0).desc.get j))).sealed s.junk).toBytes
        oob := s.oob ++ l } := by
  simp [invalidateOsipRecord, readOSIP_run_nil hf, descRead_of_lt, descWrite_of_lt, writeOSIP_run_nil, hf,
    clearedOSII]

theorem restorePayloadOsipRecord_run_nil (hf : s.faults = []) :
    ∃ l, restorePayloadOsipRecord.run s =
      .ok 0 { s with
        dev := Store.write s.dev 0 (((hdrAt s.dev 0).setDesc 0 (withPosEntry (hdrAt s.dev 0))).sealed s.junk).toBytes
        oob := s.oob ++ l } := by
  simp [restorePayloadOsipRecord, readOSIP_run_nil hf, descRead_payload, descRead_pos, descWrite_payload,
    writeOSIP_run_nil, hf, withPosEntry]

/-! ## 無効にしてから戻す -/

theorem setDesc_setDesc (h : OSIPHeader) (j : Fin 7) (a b : OSII) : (h.setDesc j a).setDesc j b = h.setDesc j b := by
  simp [OSIPHeader.setDesc]

theorem sealed_setDesc_sealed (junk : Int → UInt8) (h : OSIPHeader) (j : Fin 7) (o : OSII) :
    ((h.sealed junk).setDesc j o).sealed junk = (h.setDesc j o).sealed junk := rfl

theorem withPosEntry_invalidated (junk : Int → UInt8) (h : OSIPHeader) :
    withPosEntry ((h.setDesc 0 (clearedOSII (h.desc.get 0))).sealed junk) = restoredOSII h := by
  simp [withPosEntry, restoredOSII, clearedOSII]

theorem desc_setDesc_eq_self_iff {h : OSIPHeader} {j : Fin 7} {o : OSII} :
    (h.setDesc j o).desc = h.desc ↔ h.desc.get j = o := by
  rw [OSIPHeader.desc_setDesc]
  constructor
  · intro he
    rw [← he]
    simp
  · intro he
    rw [← he]
    simp

/-- 故障のない eMMC で payload の記録を無効にしてから戻すと、主の見出しは、payload の記述子だけを
`restoredOSII` にして封をし直したものになり、見出しの外は変わらない。記述子の並びが元に戻るのは、元の
payload の記述子がもともと `restoredOSII` の形のときだけ。 -/
theorem payload_record_round_trip (hf : s.faults = []) :
    ∃ s', (do let _ ← invalidatePayloadOsipRecord; restorePayloadOsipRecord).run s = .ok 0 s' ∧
      hdrAt s'.dev 0 = ((hdrAt s.dev 0).setDesc 0 (restoredOSII (hdrAt s.dev 0))).sealed s.junk ∧
      (∀ a, 200 ≤ a → s'.dev a = s.dev a) ∧
      ((hdrAt s'.dev 0).desc = (hdrAt s.dev 0).desc ↔ (hdrAt s.dev 0).desc.get 0 = restoredOSII (hdrAt s.dev 0)) := by
  set H := hdrAt s.dev 0
  obtain ⟨l₁, h₁⟩ := invalidateOsipRecord_run_nil hf 0
  set H₁ := (H.setDesc 0 (clearedOSII (H.desc.get 0))).sealed s.junk
  set s₁ : Sys := { s with dev := Store.write s.dev 0 H₁.toBytes, oob := s.oob ++ l₁ }
  obtain ⟨l₂, h₂⟩ := restorePayloadOsipRecord_run_nil (s := s₁) hf
  -- 二回目に書く見出しは、元の見出しの payload の記述子を `restoredOSII` にして封をしたもの
  have hH₂ : ((hdrAt s₁.dev 0).setDesc 0 (withPosEntry (hdrAt s₁.dev 0))).sealed s₁.junk =
      (H.setDesc 0 (restoredOSII H)).sealed s.junk := by
    simp only [s₁, hdrAt_write_self, H₁, withPosEntry_invalidated, sealed_setDesc_sealed, setDesc_setDesc]
  rw [hH₂] at h₂
  set X := (H.setDesc 0 (restoredOSII H)).sealed s.junk
  have hdev : Store.write s₁.dev 0 X.toBytes = Store.write s.dev 0 X.toBytes := Store.write_write_self (by simp)
  have hhdr : hdrAt (Store.write s.dev 0 X.toBytes) 0 = X := hdrAt_write_self _ _ _
  have h₁' : invalidatePayloadOsipRecord.run s = .ok 0 s₁ := h₁
  refine ⟨{ s₁ with dev := Store.write s₁.dev 0 X.toBytes, oob := s₁.oob ++ l₂ }, ?_, ?_, ?_, ?_⟩
  · simp only [EStateM.run_bind, h₁']
    exact h₂
  · rw [hdev, hhdr]
  · intro a ha
    dsimp only
    rw [hdev]
    exact Store.write_apply_of_le (by simpa using ha)
  · rw [hdev, hhdr, OSIPHeader.desc_sealed]
    exact desc_setDesc_eq_self_iff

theorem payload_record_round_trip_distinct :
    let s := recordSys []
    ∃ s', (do let _ ← invalidatePayloadOsipRecord; restorePayloadOsipRecord).run s = .ok 0 s' ∧
      hdrAt s'.dev 0 = ((hdrAt s.dev 0).setDesc 0 (restoredOSII (hdrAt s.dev 0))).sealed s.junk ∧
      (∀ a, 200 ≤ a → s'.dev a = s.dev a) ∧
      ((hdrAt s'.dev 0).desc = (hdrAt s.dev 0).desc ↔ (hdrAt s.dev 0).desc.get 0 = restoredOSII (hdrAt s.dev 0)) :=
  payload_record_round_trip rfl

end ManageDevice

end Kboot.Osip
