import Kboot.Fw.Theorems.IfwiMain
import Kboot.Lib.EventLog

/-!
# ifwi-update の main: 装置の節点 `/dev/mid_ipc`

`main` は `/proc` から見つけた番号で `/dev/mid_ipc` を消して作り直す。消すのは、二つの名前が `".bin"` で
終わり、二つの番号がどちらも見つかったときだけで、作り直す番号はその二つ。`mknod` が失敗すれば、消した
節点は戻らない。ドライバへの `ioctl` は、作り直した節点を開いたあとにしか起きない。

DnX のファイルを開いたあとの段 `loadDnx` と `updateIfwi` は、節点に触れない（`EventLog.AppendsIn`）。
-/

namespace Kboot.Fw.IfwiUpdate

open CString EventLog

/-- `/dev/mid_ipc` を消すか作る出来事。 -/
def Ev.touchesNode : Ev → Bool
  | .unlink | .mknod _ _ => true
  | _ => false

/-- `main` が `/dev/mid_ipc` を作り直す番号: 二つの名前が `".bin"` で終わるとき、`/proc` から見つけた番号。 -/
def nodeRequest (w : World) : List String → Option (Int × Int)
  | [dnxBinFile, fwBinFile] =>
    if ".bin".toList <:+ cstr dnxBinFile.toList ∧ ".bin".toList <:+ cstr fwBinFile.toList then
      findIpcDevice w.procFiles
    else none
  | _ => none

/-! ## 節点に触れない段 -/

theorem keepsNode_emit {e : Ev} (he : e.touchesNode = false) :
    AppendsIn (fun e => e.touchesNode = false) (emit e) :=
  appendsIn_append he

theorem keepsNode_cleanup {p : Prog Int} {ret : Int} {k : Nat} {reboot : Bool}
    (hrun : ∀ log, p.run log = pure (ret, log ++ releases k ++ if reboot then [.sync, .reboot] else [])) :
    AppendsIn (fun e => e.touchesNode = false) p := by
  refine appendsIn_of_run (fun log => by rw [hrun, List.append_assoc]) fun e he => ?_
  rcases List.mem_append.mp he with h | h
  · obtain ⟨r, rfl⟩ := mem_releases h
    rfl
  · cases reboot
    · simp at h
    · simp only [if_true, List.mem_cons, List.not_mem_nil, or_false] at h
      rcases h with rfl | rfl <;> rfl

theorem updateIfwi_keepsNode (w : World) (fwBinFile : String) (dnxSH dnxFileData : List UInt8)
    (dnxFileSize : Nat) :
    AppendsIn (fun e => e.touchesNode = false) (updateIfwi w fwBinFile dnxSH dnxFileData dnxFileSize) := by
  unfold updateIfwi
  split
  · exact keepsNode_cleanup (dnxdata_run _ _)
  refine (keepsNode_emit rfl).bind fun _ => ?_
  split
  · exact keepsNode_cleanup (fwp_run _ _)
  split
  · exact keepsNode_cleanup (fwp_run _ _)
  split
  · exact keepsNode_cleanup (fwp_run _ _)
  refine (keepsNode_emit rfl).bind fun _ => ?_
  split
  · exact keepsNode_cleanup (fwdata_run _ _)
  dsimp only
  split
  · exact keepsNode_cleanup (fwdata_run _ _)
  split
  · exact keepsNode_cleanup (fwdata_run _ _)
  -- `ioctl` の道: 装置を開き、`sync` と `ioctl` のあと `devfd` を閉じて `fwdata` へ
  refine (keepsNode_emit rfl).bind fun _ => (keepsNode_emit rfl).bind fun _ => ?_
  refine (keepsNode_emit rfl).bind fun _ => (keepsNode_emit rfl).bind fun _ => ?_
  exact keepsNode_cleanup (fwdata_run _ _)

theorem loadDnx_keepsNode (w : World) (fwBinFile : String) (dnx : List UInt8) :
    AppendsIn (fun e => e.touchesNode = false) (loadDnx w fwBinFile dnx) := by
  unfold loadDnx
  split
  · exact keepsNode_cleanup (dnxp_run _ _)
  split
  · exact keepsNode_cleanup (dnxp_run _ _)
  split
  · exact keepsNode_cleanup (dnxp_run _ _)
  refine (keepsNode_emit rfl).bind fun _ => ?_
  split
  · exact keepsNode_cleanup (dnxdata_run _ _)
  exact updateIfwi_keepsNode _ _ _ _ _

/-! ## main の形 -/

/-- `main` の残す出来事 `es` の、節点についての形。節点に触れるのは最初の二つの出来事だけ。 -/
structure NodeOutcome (w : World) (args : List String) (es : List Ev) : Prop where
  unlink : Ev.unlink ∈ es ↔ (nodeRequest w args).isSome
  mknod : ∀ major minor, Ev.mknod major minor ∈ es ↔ nodeRequest w args = some (major, minor) ∧ w.mknodOk
  ioctl_after : ∀ ud, Ev.ioctl ud ∈ es → ∃ major minor rest, es = .unlink :: .mknod major minor :: rest
  later : ∀ e ∈ es.drop 2, e.touchesNode = false

theorem nodeOutcome_nil {w : World} {args : List String} (h : nodeRequest w args = none) :
    NodeOutcome w args [] where
  unlink := by simp [h]
  mknod _ _ := by simp [h]
  ioctl_after _ hm := absurd hm List.not_mem_nil
  later _ he := absurd he List.not_mem_nil

theorem nodeOutcome_unlink {w : World} {args : List String} {mm : Int × Int} (h : nodeRequest w args = some mm)
    (hmk : w.mknodOk = false) : NodeOutcome w args [.unlink] where
  unlink := by simp [h]
  mknod _ _ := by simp [hmk]
  ioctl_after _ hm := by simp at hm
  later _ he := absurd he List.not_mem_nil

theorem nodeOutcome_recreate {w : World} {args : List String} {major minor : Int} {rest : List Ev}
    (h : nodeRequest w args = some (major, minor)) (hmk : w.mknodOk = true)
    (hrest : ∀ e ∈ rest, e.touchesNode = false) :
    NodeOutcome w args (.unlink :: .mknod major minor :: rest) where
  unlink := by simp [h]
  mknod a b := by
    simp only [List.mem_cons, reduceCtorEq, Ev.mknod.injEq, false_or, h, Option.some.injEq, Prod.mk.injEq,
      hmk, and_true]
    constructor
    · rintro (hab | hm)
      · exact ⟨hab.1.symm, hab.2.symm⟩
      · exact absurd (hrest _ hm) (by simp [Ev.touchesNode])
    · rintro ⟨rfl, rfl⟩
      exact .inl ⟨rfl, rfl⟩
  ioctl_after _ _ := ⟨major, minor, rest, rfl⟩
  later := hrest

theorem nodeRequest_eq_none_of {w : World} {dnxBinFile fwBinFile : String}
    (h : ¬(".bin".toList <:+ cstr dnxBinFile.toList ∧ ".bin".toList <:+ cstr fwBinFile.toList)) :
    nodeRequest w [dnxBinFile, fwBinFile] = none := by
  simp only [nodeRequest]
  rw [if_neg h]

theorem main_nodeOutcome_pair (w : World) (dnxBinFile fwBinFile : String) :
    ∃ ret es, (main w [dnxBinFile, fwBinFile]).run [] = pure (ret, es) ∧
      NodeOutcome w [dnxBinFile, fwBinFile] es := by
  rw [main]
  split
  next hd =>
    exact ⟨-1, [], by simp [atEnd_run],
      nodeOutcome_nil (nodeRequest_eq_none_of fun h => hd ((checksufix_eq_zero_iff _).mpr h.1))⟩
  split
  next hf =>
    exact ⟨-1, [], by simp [atEnd_run],
      nodeOutcome_nil (nodeRequest_eq_none_of fun h => hf ((checksufix_eq_zero_iff _).mpr h.2))⟩
  rename_i hd hf
  rw [not_not, checksufix_eq_zero_iff] at hd hf
  have hnode : nodeRequest w [dnxBinFile, fwBinFile] = findIpcDevice w.procFiles := by
    simp only [nodeRequest]
    rw [if_pos ⟨hd, hf⟩]
  cases hdev : findIpcDevice w.procFiles with
  | none => exact ⟨-1, [], by simp [atEnd_run], nodeOutcome_nil (hnode.trans hdev)⟩
  | some mm =>
    obtain ⟨major, minor⟩ := mm
    cases hmk : w.mknodOk with
    | false =>
      exact ⟨-1, [.unlink], by simp [emit, atEnd_run], nodeOutcome_unlink (hnode.trans hdev) hmk⟩
    | true =>
      -- `mknod` のあとの出来事は、どの道でも節点に触れない
      cases hfile : w.files dnxBinFile with
      | none =>
        exact ⟨-1, [.unlink, .mknod major minor], by simp [emit, atEnd_run],
          nodeOutcome_recreate (hnode.trans hdev) hmk (by simp)⟩
      | some dnx =>
        obtain ⟨es, ret, hrun, hes⟩ :=
          loadDnx_keepsNode w fwBinFile dnx [.unlink, .mknod major minor, .res (.acquire .dnxFd)]
        refine ⟨ret, .unlink :: .mknod major minor :: .res (.acquire .dnxFd) :: es, ?_,
          nodeOutcome_recreate (hnode.trans hdev) hmk ?_⟩
        · simpa [emit, hmk, hfile] using hrun
        · intro e he
          rcases List.mem_cons.mp he with rfl | he
          · rfl
          · exact hes e he

theorem main_nodeOutcome (w : World) (args : List String) :
    ∃ ret es, (main w args).run [] = pure (ret, es) ∧ NodeOutcome w args es := by
  rcases args with _ | ⟨dnxBinFile, _ | ⟨fwBinFile, _ | ⟨_, _⟩⟩⟩
  rotate_left 2
  · exact main_nodeOutcome_pair w dnxBinFile fwBinFile
  -- 引数が二つでなければ `goto end`
  all_goals exact ⟨-1, [], by simp [main, atEnd_run], nodeOutcome_nil rfl⟩

/-- `main` が `/dev/mid_ipc` を消すのは、二つの名前が `".bin"` で終わり、`/proc` から二つの番号が見つかった
ときだけで、作り直すのはその番号の節点。`mknod` が失敗すれば節点は消えたまま。`ioctl` を呼ぶ道では、
最初の二つの出来事が節点を消して作り直すこと。どの道でも、三つ目からの出来事（DnX のファイルを開いてから
あと）は節点に触れない。 -/
theorem main_device_node (w : World) (args : List String) :
    ∃ ret es, (main w args).run [] = pure (ret, es) ∧
      (Ev.unlink ∈ es ↔ (nodeRequest w args).isSome) ∧
      (∀ major minor, Ev.mknod major minor ∈ es ↔ nodeRequest w args = some (major, minor) ∧ w.mknodOk) ∧
      (∀ ud, Ev.ioctl ud ∈ es → ∃ major minor rest, es = .unlink :: .mknod major minor :: rest) ∧
      ∀ e ∈ es.drop 2, e.touchesNode = false := by
  obtain ⟨ret, es, hrun, ho⟩ := main_nodeOutcome w args
  exact ⟨ret, es, hrun, ho.unlink, ho.mknod, ho.ioctl_after, ho.later⟩

end Kboot.Fw.IfwiUpdate
