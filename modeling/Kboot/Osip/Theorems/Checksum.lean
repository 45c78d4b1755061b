import Kboot.Osip.Lemmas.Scripts

/-!
# 検査和の法則と、見出しの欄が決める繰り返しの範囲

`write_OSIP` は `header_checksum` を 0 にしてから先頭の `header_size` バイトの排他的論理和を取り、
7 バイト目に置いて 200 バイトを書く。`header_size` が 8 から 200 のあいだなら、書いた並びの先頭
`header_size` バイトの排他的論理和は 0 になり、書き直しても装置は変わらない。

繰り返しの上限 `header_size` と `num_pointers` は装置から読んだ値で、確かめられない。
-/

namespace Kboot.Osip.UpdateOsip

open Bytes OsipUtils ManageDevice

variable {s : Sys}

/-! ## 検査和 -/

theorem writeOSIP_checksum_law (hf : s.faults = []) (h : OSIPHeader) (h8 : 8 ≤ h.headerSize.toNat)
    (h200 : h.headerSize.toNat ≤ 200) :
    let c := xorSum ((h.toBytes.set 7 0).take h.headerSize.toNat)
    let written := { s with dev := Store.write s.dev 0 (h.toBytes.set 7 c) }
    (∃ l, (writeOSIP h).run s = .ok (1, h.sealed s.junk) { written with oob := s.oob ++ l }) ∧
      xorSum ((h.toBytes.set 7 c).take h.headerSize.toNat) = 0 ∧
      (∀ c' : UInt8, writeOSIP { h with headerChecksum := c' } = writeOSIP h) ∧
      (∃ l, (writeOSIP (hdrAt written.dev 0)).run written = .ok (1, h.sealed s.junk) { written with oob := s.oob ++ l }) ∧
      ∀ n : Fin 7, ∃ l, (updateHandle Vars.init.osii n).run written = .ok 0 { written with oob := s.oob ++ l } := by
  dsimp only
  have hbytes : h.toBytes.set 7 (xorSum ((h.toBytes.set 7 0).take h.headerSize.toNat)) = (h.sealed s.junk).toBytes := by
    rw [OSIPHeader.toBytes_sealed, OSIPHeader.checksum_of_le s.junk h200]
  rw [hbytes]
  have hdev : Store.write (Store.write s.dev 0 (h.sealed s.junk).toBytes) 0 (h.sealed s.junk).toBytes =
      Store.write s.dev 0 (h.sealed s.junk).toBytes := Store.write_write_self rfl
  refine ⟨?_, OSIPHeader.xorSum_sealed s.junk h8 h200, fun c' => writeOSIP_headerChecksum h c', ?_, fun n => ?_⟩
  · rw [writeOSIP_run_nil hf]
    exact ⟨_, by simp only [List.append_assoc]; rfl⟩
  · rw [writeOSIP_run_nil (s := { s with dev := Store.write s.dev 0 (h.sealed s.junk).toBytes }) hf,
      hdrAt_write_self, OSIPHeader.sealed_sealed, hdev]
    exact ⟨_, by simp only [List.append_assoc]; rfl⟩
  · rw [updateHandle_run_nil (s := { s with dev := Store.write s.dev 0 (h.sealed s.junk).toBytes }) hf]
    simp only [mergeOsii_init, Vector.get_eq_getElem, OSIPHeader.setDesc_getElem, hdrAt_write_self,
      OSIPHeader.sealed_sealed, hdev]
    exact ⟨_, by simp only [List.append_assoc]; rfl⟩

/-- どの呼び出しも成功し、ファイルのない状態。 -/
def quietSys (dev : Nat → UInt8) : Sys :=
  { dev := dev, faults := [], files := fun _ => none, eraseSize := none, junk := fun _ => 0, oob := [] }

/-- 版、数、記述子 0 の欄が 0 でなく、古い検査和が残っている見出し。検査和は記述子 0 までの 56 バイトを覆う。 -/
def filledHeader : OSIPHeader :=
  { zeroHeader with
    sig := osipSig, headerRevMinor := 2, headerRevMajor := 1, headerChecksum := 0x5A, numPointers := 1
    numImages := 1, headerSize := 56
    desc := #v[{ zeroOSII with
        logicalStartBlock := 8, ddrLoadAddress := 0x1100000, enteryPoint := 0x1101000, sizeOfOsImage := 4
        attrib := 1 }, zeroOSII, zeroOSII, zeroOSII, zeroOSII, zeroOSII, zeroOSII] }

theorem writeOSIP_checksum_law_filled :
    let h := filledHeader
    let s := quietSys fun _ => 0
    let c := xorSum ((h.toBytes.set 7 0).take h.headerSize.toNat)
    let written := { s with dev := Store.write s.dev 0 (h.toBytes.set 7 c) }
    (∃ l, (writeOSIP h).run s = .ok (1, h.sealed s.junk) { written with oob := s.oob ++ l }) ∧
      xorSum ((h.toBytes.set 7 c).take h.headerSize.toNat) = 0 ∧
      (∀ c' : UInt8, writeOSIP { h with headerChecksum := c' } = writeOSIP h) ∧
      (∃ l, (writeOSIP (hdrAt written.dev 0)).run written = .ok (1, h.sealed s.junk) { written with oob := s.oob ++ l }) ∧
      ∀ n : Fin 7, ∃ l, (updateHandle Vars.init.osii n).run written = .ok 0 { written with oob := s.oob ++ l } :=
  writeOSIP_checksum_law rfl _ (by decide) (by decide)

/-! ## 見出しの欄が決める繰り返し -/

theorem update_reads_outside_header (hf : s.faults = []) (n : Fin 7)
    (hb : 200 < (hdrAt s.dev 0).headerSize.toNat ∨ 7 < (hdrAt s.dev 0).numPointers.toNat) :
    (run [.update (toString (n : Nat))] s).1 = .exit 0 ∧
      Oob.header 200 ∈ (run [.update (toString (n : Nat))] s).2.oob := by
  have hup := updateHandle_run_nil hf Vars.init.osii n
  simp only [mergeOsii_init, Vector.get_eq_getElem, OSIPHeader.setDesc_getElem] at hup
  rw [← atoi_toString n] at hup
  rw [run_update_of_ok hup]
  refine ⟨rfl, ?_⟩
  simp only [List.mem_append, header_mem_headerOob, header_mem_descOob]
  omega

/-- `header_size` が 201 の見出し。 -/
def wideHeader : OSIPHeader := { zeroHeader with headerSize := 201 }

theorem update_reads_outside_header_wide :
    let s := quietSys (Store.write (fun _ => 0) 0 wideHeader.toBytes)
    (run [.update (toString ((0 : Fin 7) : Nat))] s).1 = .exit 0 ∧
      Oob.header 200 ∈ (run [.update (toString ((0 : Fin 7) : Nat))] s).2.oob :=
  update_reads_outside_header rfl 0 (Or.inl (by simp only [quietSys, hdrAt_write_self]; decide))

end Kboot.Osip.UpdateOsip
