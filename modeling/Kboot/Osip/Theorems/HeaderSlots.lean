import Kboot.Osip.Theorems.ReadOnly

/-!
# 見出しの外を書かないコマンド行

`--image` のない `update_osip` のコマンド行が書くのは、主の見出し `[0, 200)` と、控えの見出し
`[BACKUP_LOC, BACKUP_LOC + 200)` だけ。`--backup`、`--restore`、`--update` のフィールドの書き換え、
`--invalidate`、`--check` のどれを組み合わせても、装置の入出力がどう失敗しても、そのほかのバイトは
変わらない。見出しと同じ 512 バイトの区画にある MBR の区画表 `[446, 512)` も変わらない。さらに、控えを
書くのは `--backup` と `--restore` だけで、主の見出しを書くのは `--restore`、`--update`、`--invalidate`
だけ。

書き込みはどれも `devWrite` で、書く範囲が番地の集まり `R` の中にあることを、呼び出しごとに
`Frame.Keeps` で示す。`R` は、コマンド行が書いてよい見出しを集めたもの。
-/

namespace Kboot.Osip

open Frame ManageDevice OsipUtils

/-- 主の見出しの番地。 -/
def InPrimary (a : Nat) : Prop := a < 200

/-- 控えの見出しの番地。 -/
def InBackup (a : Nat) : Prop := backupLoc ≤ a ∧ a < backupLoc + 200

/-- 番地の集まり `R` の外の eMMC。 -/
def devOutside (R : Nat → Prop) (s : Sys) : {a : Nat // ¬R a} → UInt8 := fun a => s.dev a.1

theorem headerByte_keepsDev (osip : OSIPHeader) (i : Nat) : Keeps Sys.dev (fun _ => True) (headerByte osip i) := by
  unfold headerByte
  exact keeps_ite (keeps_pure trivial) ((logOob_keepsDev _).bind fun _ _ => keeps_get.bind fun _ _ => keeps_pure trivial)

theorem descWrite_keeps (osip : OSIPHeader) (i : Int) (o : OSII) :
    Keeps Sys.dev (fun _ => True) (descWrite osip i o) := by
  unfold descWrite
  split
  · exact keeps_pure trivial
  · exact keeps_throw _

section Region

variable {R : Nat → Prop}

theorem keepsOutside {α : Type} {Q : α → Prop} {p : Proc α} (hp : Keeps Sys.dev Q p) : Keeps (devOutside R) Q p :=
  hp.weaken fun _ _ h => by
    funext a
    simp only [devOutside, h]

/-- 書く範囲が `R` の中にあれば、`write` は `R` の外を変えない。 -/
theorem devWrite_keepsOutside {off : Nat} {bs : List UInt8} (hR : ∀ a, off ≤ a → a < off + bs.length → R a) :
    Keeps (devOutside R) (fun _ => True) (devWrite off bs) := by
  have hwrite (k : Nat) :
      Keeps (devOutside R) (fun _ => True)
        (modify fun s : Sys => { s with dev := Store.write s.dev off (bs.take k) } : Proc PUnit) := by
    refine keeps_modify fun s => funext fun a => Store.write_apply_of_not_mem ?_
    by_contra hin
    have hlen : (bs.take k).length ≤ bs.length := List.length_take_le' k bs
    exact a.2 (hR a.1 (by omega) (by omega))
  refine (keepsOutside nextOutcome_keepsDev).bind fun o _ => ?_
  cases o with
  | ok =>
    have h := hwrite bs.length
    rw [List.take_length] at h
    exact h.bind fun _ _ => keeps_pure trivial
  | short k => exact (hwrite k).bind fun _ _ => keeps_pure trivial
  | fail => exact keeps_pure trivial

/-- `write_OSIP` が書くのは、主の見出しの 200 バイトだけ。 -/
theorem writeOSIP_keepsOutside (hP : ∀ a, InPrimary a → R a) (osip : OSIPHeader) :
    Keeps (devOutside R) (fun _ => True) (writeOSIP osip) := by
  unfold writeOSIP
  have hsum : Keeps Sys.dev (fun _ => True) (checksumLoop { osip with headerChecksum := 0 }) :=
    keeps_foldlM (fun _ _ i _ => (headerByte_keepsDev _ i).bind fun _ _ => keeps_pure trivial) trivial
  refine (keepsOutside hsum).bind fun c _ => (keepsOutside devOpen_keepsDev).bind fun _ _ =>
    keeps_ite (keeps_pure trivial) ?_
  refine (devWrite_keepsOutside fun a _ ha => hP a ?_).bind fun _ _ => ?_
  · simpa [InPrimary] using ha
  exact keeps_ite (keeps_pure trivial) ((keepsOutside (dumpOsipHeader_keepsDev _)).bind fun _ _ => keeps_pure trivial)

/-- 控えの見出しへ書く 200 バイト。 -/
theorem devWrite_backupLoc_keepsOutside (hB : ∀ a, InBackup a → R a) {bs : List UInt8} (hbs : bs.length = 200) :
    Keeps (devOutside R) (fun _ => True) (devWrite (lseek 0 backupLoc) bs) :=
  devWrite_keepsOutside fun a h₁ h₂ => hB a ⟨by simpa using h₁, by simpa [hbs] using h₂⟩

theorem backupHandle_keepsOutside (hB : ∀ a, InBackup a → R a) (osip : OSIPHeader) :
    Keeps (devOutside R) (fun _ => True) (backupHandle osip) := by
  unfold backupHandle
  refine (keepsOutside devOpen_keepsDev).bind fun _ _ => keeps_ite (keeps_pure trivial) ?_
  refine (devWrite_backupLoc_keepsOutside hB (by simp)).bind fun _ _ => keeps_ite (keeps_pure trivial) ?_
  exact (keepsOutside (readOSIPLoc_keepsDev _ _)).bind fun _ _ => keeps_pure trivial

theorem restoreHandle_keepsOutside (hP : ∀ a, InPrimary a → R a) (hB : ∀ a, InBackup a → R a) :
    Keeps (devOutside R) (fun _ => True) restoreHandle := by
  unfold restoreHandle
  refine (keepsOutside (readOSIPLoc_keepsDev _ _)).bind fun x _ => ?_
  obtain ⟨r, bckOsip⟩ := x
  dsimp only
  refine keeps_ite (keeps_pure trivial) (keeps_ite (keeps_pure trivial) ?_)
  refine (writeOSIP_keepsOutside hP _).bind fun y _ => ?_
  obtain ⟨w, _⟩ := y
  dsimp only
  refine keeps_ite (keeps_pure trivial) ((keepsOutside devOpen_keepsDev).bind fun _ _ => keeps_ite (keeps_pure trivial) ?_)
  -- 主の見出しを書けたら、控えを 0 で消す
  exact (devWrite_backupLoc_keepsOutside hB (List.length_replicate ..)).bind fun _ _ =>
    keeps_ite (keeps_pure trivial) (keeps_pure trivial)

theorem updateHandle_keepsOutside (hP : ∀ a, InPrimary a → R a) (osii : OSII) (updateNumber : Int) :
    Keeps (devOutside R) (fun _ => True) (updateHandle osii updateNumber) := by
  unfold updateHandle
  refine (keepsOutside (readOSIPLoc_keepsDev _ _)).bind fun x _ => ?_
  obtain ⟨_, osip⟩ := x
  dsimp only
  refine (keepsOutside (descRead_keepsDev _ _)).bind fun _ _ => (keepsOutside (descWrite_keeps _ _ _)).bind fun _ _ => ?_
  refine (writeOSIP_keepsOutside hP _).bind fun y _ => ?_
  obtain ⟨w, _⟩ := y
  dsimp only
  exact keeps_ite (keeps_pure trivial) ((keepsOutside (readOSIPLoc_keepsDev _ _)).bind fun _ _ => keeps_pure trivial)

theorem invalidateHandle_keepsOutside (hP : ∀ a, InPrimary a → R a) (invalValues : List Int) :
    Keeps (devOutside R) (fun _ => True) (invalidateHandle invalValues) := by
  unfold invalidateHandle
  refine (keepsOutside (readOSIPLoc_keepsDev _ _)).bind fun x _ => ?_
  obtain ⟨r, osip⟩ := x
  dsimp only
  refine keeps_ite (keeps_pure trivial) ?_
  -- 見つからない値があれば、書かずに -1
  split
  · refine (writeOSIP_keepsOutside hP _).bind fun y _ => ?_
    obtain ⟨w, _⟩ := y
    exact keeps_ite (keeps_pure trivial) (keeps_pure trivial)
  · exact keeps_pure trivial

end Region

namespace UpdateOsip

/-- 主の見出しを書きうる選択肢。 -/
def Opt.writesPrimary : Opt → Bool
  | .restore | .update _ | .invalidate _ => true
  | _ => false

/-- 控えの見出しを書きうる選択肢。 -/
def Opt.writesBackup : Opt → Bool
  | .backup | .restore => true
  | _ => false

section Region

variable {R : Nat → Prop}

theorem backupCase_keepsOutside {v : Vars} (hB : v.backupFlag = true → ∀ a, InBackup a → R a) :
    Keeps (devOutside R) (fun _ => True) (backupCase v) := by
  unfold backupCase
  split
  next hb =>
    refine (keepsOutside (readOSIPLoc_keepsDev _ _)).bind fun x _ => ?_
    obtain ⟨r, oriOsip⟩ := x
    dsimp only
    refine keeps_ite (keeps_throw_bind _ _) ?_
    exact (backupHandle_keepsOutside (hB hb) _).bind fun _ _ => keeps_ite (keeps_throw _) (keeps_pure trivial)
  next => exact keeps_pure trivial

theorem restoreCase_keepsOutside {v : Vars}
    (hR : v.restoreFlag = true → (∀ a, InPrimary a → R a) ∧ ∀ a, InBackup a → R a) :
    Keeps (devOutside R) (fun _ => True) (restoreCase v) := by
  unfold restoreCase
  split
  next hr =>
    exact (restoreHandle_keepsOutside (hR hr).1 (hR hr).2).bind fun _ _ =>
      keeps_ite (keeps_throw _) (keeps_pure trivial)
  next => exact keeps_pure trivial

/-- `--image` がなければ、`--update` は記述子の欄を書き換えるだけ。 -/
theorem updateCase_keepsOutside {v : Vars} (hv : v.fwBinFile = none)
    (hP : v.updateFlag = true → ∀ a, InPrimary a → R a) :
    Keeps (devOutside R) (fun _ => True) (updateCase v) := by
  unfold updateCase
  split
  next hu =>
    rw [hv]
    exact (updateHandle_keepsOutside (hP hu) _ _).bind fun _ _ => keeps_ite (keeps_throw _) (keeps_pure trivial)
  next => exact keeps_pure trivial

theorem invalCase_keepsOutside {v : Vars} (hP : v.invalFlag = true → ∀ a, InPrimary a → R a) :
    Keeps (devOutside R) (fun _ => True) (invalCase v) := by
  unfold invalCase
  split
  next hi =>
    dsimp only
    -- `--backup` がなければ `error:` へ
    refine keeps_ite (keeps_throw_bind _ _) ?_
    exact (invalidateHandle_keepsOutside (hP hi) _).bind fun _ _ => keeps_ite (keeps_throw _) (keeps_pure trivial)
  next => exact keeps_pure trivial

/-- `R` が、コマンド行の選択肢が書きうる見出しを含めば、`main` は `R` の外を変えない。 -/
theorem main_keepsOutside {opts : List Opt} (h : ∀ o ∈ opts, ∀ f, o ≠ .image f)
    (hP : (∃ o ∈ opts, o.writesPrimary = true) → ∀ a, InPrimary a → R a)
    (hB : (∃ o ∈ opts, o.writesBackup = true) → ∀ a, InBackup a → R a) :
    Keeps (devOutside R) (fun _ => True) (main opts) := by
  unfold main
  refine ((foldlM_option_flagsFrom opts).of_id (devOutside R)).bind fun v hv => ?_
  have himage : v.fwBinFile = none := by
    cases hf : v.fwBinFile with
    | none => rfl
    | some f => exact absurd rfl (h _ (hv.image f hf) f)
  dsimp only
  refine keeps_ite (keeps_throw_bind _ _) ?_
  -- 旗は、それを立てる選択肢がコマンド行にあるときだけ立つ
  have hbackup := backupCase_keepsOutside (R := R) fun hb => hB ⟨_, hv.backup hb, rfl⟩
  have hrestore := restoreCase_keepsOutside (R := R) fun hr =>
    ⟨hP ⟨_, hv.restore hr, rfl⟩, hB ⟨_, hv.restore hr, rfl⟩⟩
  have hupdate := updateCase_keepsOutside (R := R) himage fun hu => by
    obtain ⟨_, hx⟩ := hv.update hu
    exact hP ⟨_, hx, rfl⟩
  have hinval := invalCase_keepsOutside (R := R) fun hi => by
    obtain ⟨_, hx⟩ := hv.inval hi
    exact hP ⟨_, hx, rfl⟩
  exact hbackup.bind fun _ _ => hrestore.bind fun _ _ => hupdate.bind fun _ _ => hinval.bind fun _ _ =>
    (keepsOutside (checkCase_keepsDev v)).bind fun _ _ => keeps_throw _

theorem run_dev_of_not_mem {opts : List Opt} (h : ∀ o ∈ opts, ∀ f, o ≠ .image f)
    (hP : (∃ o ∈ opts, o.writesPrimary = true) → ∀ a, InPrimary a → R a)
    (hB : (∃ o ∈ opts, o.writesBackup = true) → ∀ a, InBackup a → R a) (s : Sys) (a : Nat) (ha : ¬R a) :
    (run opts s).2.dev a = s.dev a := by
  rw [run_snd]
  exact congrFun ((main_keepsOutside h hP hB) s).1 ⟨a, ha⟩

end Region

/-- `--image` のないコマンド行は、装置の入出力がどう失敗しても、主の見出し `[0, 200)` と控えの見出し
`[BACKUP_LOC, BACKUP_LOC + 200)` の外のバイトを変えない。 -/
theorem command_without_image_writes_only_headers {opts : List Opt} (h : ∀ o ∈ opts, ∀ f, o ≠ .image f) (s : Sys)
    {a : Nat} (ha : 200 ≤ a) (hb : a < backupLoc ∨ backupLoc + 200 ≤ a) :
    (run opts s).2.dev a = s.dev a := by
  refine run_dev_of_not_mem (R := fun a => InPrimary a ∨ InBackup a) h (fun _ a ha => .inl ha)
    (fun _ a ha => .inr ha) s a ?_
  simp only [InPrimary, InBackup]
  omega

/-- 控えを取ってから無効にし、元に戻し、調べても、MBR の区画表の最初のバイトは変わらない。 -/
theorem command_without_image_writes_only_headers_mbr :
    let s : Sys := ⟨fun _ => 0, [.ok, .short 3], fun _ => none, none, fun _ => 0, []⟩
    let opts := [Opt.backup, .invalidate "0", .restore, .update "1", .addr "16", .check]
    (∀ o ∈ opts, ∀ f, o ≠ .image f) ∧ 200 ≤ 446 ∧ (446 < backupLoc ∨ backupLoc + 200 ≤ 446) ∧
      (run opts s).2.dev 446 = s.dev 446 :=
  have hopts : ∀ o ∈ [Opt.backup, .invalidate "0", .restore, .update "1", .addr "16", .check], ∀ f, o ≠ .image f := by
    simp
  ⟨hopts, by decide, by decide, command_without_image_writes_only_headers hopts _ (by decide) (by decide)⟩

/-- `--image` のないコマンド行で、控えの見出しを書くのは `--backup` と `--restore` だけ、主の見出しを書くのは
`--restore`、`--update`、`--invalidate` だけ。`--update` のフィールドの書き換えは控えを壊さない。 -/
theorem command_writes_only_named_slots {opts : List Opt} (h : ∀ o ∈ opts, ∀ f, o ≠ .image f) (s : Sys) :
    (∀ a, a < 200 → (∀ o ∈ opts, o.writesPrimary = false) → (run opts s).2.dev a = s.dev a) ∧
      (∀ a, backupLoc ≤ a → a < backupLoc + 200 → (∀ o ∈ opts, o.writesBackup = false) →
        (run opts s).2.dev a = s.dev a) := by
  have hrun := run_dev_of_not_mem
    (R := fun a => (InPrimary a ∧ ∃ o ∈ opts, o.writesPrimary = true) ∨ (InBackup a ∧ ∃ o ∈ opts, o.writesBackup = true))
    h (fun hw _ ha => .inl ⟨ha, hw⟩) (fun hw _ ha => .inr ⟨ha, hw⟩) s
  refine ⟨fun a ha hnone => hrun a ?_, fun a h₁ h₂ hnone => hrun a ?_⟩
  · rintro (⟨-, o, ho, hw⟩ | ⟨hb, -⟩)
    · simp [hnone o ho] at hw
    · exact absurd hb.1 (by simp only [backupLoc]; omega)
  · rintro (⟨hp, -⟩ | ⟨-, o, ho, hw⟩)
    · exact absurd hp (by simp only [InPrimary, backupLoc] at h₁ ⊢; omega)
    · simp [hnone o ho] at hw

theorem command_writes_only_named_slots_update :
    let s : Sys := ⟨fun _ => 0, [.short 7], fun _ => none, none, fun _ => 0, []⟩
    let opts := [Opt.update "0", .addr "16"]
    (∀ o ∈ opts, ∀ f, o ≠ .image f) ∧
      (∀ a, backupLoc ≤ a → a < backupLoc + 200 → (∀ o ∈ opts, o.writesBackup = false) →
        (run opts s).2.dev a = s.dev a) :=
  have hopts : ∀ o ∈ [Opt.update "0", .addr "16"], ∀ f, o ≠ .image f := by simp
  ⟨hopts, (command_writes_only_named_slots hopts _).2⟩

end UpdateOsip

end Kboot.Osip
