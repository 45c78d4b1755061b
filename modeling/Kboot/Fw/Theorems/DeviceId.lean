import Kboot.Fw.IfwiUpdate

/-!
# find_device_id が選ぶ行

`find_device_id` は、装置の名前を C の文字列として含む最初の行で止まる。その行の先頭が数なら、その数を
`*id` に書いて `0` を返し、数でなければ `-1` を返す。行がその名前の装置のものかどうかは見ない。
名前を部分として含むだけの行（`5 xmisc`）が前にあれば、その数が選ばれる。
-/

namespace Kboot.Fw.IfwiUpdate

open CString

variable {devName : List Char}

@[simp] theorem findDeviceIdLoop_found (lines : List (List Char)) (ret id : Int) :
    findDeviceIdLoop devName lines true ret id = (ret, id) := by
  cases lines <;> rfl

/-- 繰り返しは、名前を含む最初の行だけで決まる。 -/
theorem findDeviceIdLoop_eq (lines : List (List Char)) (ret id : Int) :
    findDeviceIdLoop devName lines false ret id =
      match lines.find? (fun line => (strstr line devName).isSome) with
      | some line => (match sscanfInt line with | some k => (0, k) | none => (ret, id))
      | none => (ret, id) := by
  induction lines with
  | nil => rfl
  | cons line lines ih =>
    by_cases h : (strstr line devName).isSome
    · rw [List.find?_cons_of_pos (p := fun line => (strstr line devName).isSome) h]
      cases hk : sscanfInt line <;> simp [findDeviceIdLoop, h, hk]
    · rw [List.find?_cons_of_neg (p := fun line => (strstr line devName).isSome) h]
      simp only [findDeviceIdLoop, h, Bool.false_eq_true, if_false, ih]

theorem findDeviceId_ret (id : Int) (procFile : Option (List (List Char))) :
    (findDeviceId id procFile devName).1 = 0 ∨ (findDeviceId id procFile devName).1 = -1 := by
  cases procFile with
  | none => right; rfl
  | some lines =>
    rw [findDeviceId, findDeviceIdLoop_eq]
    split
    · split
      · left; rfl
      · right; rfl
    · right; rfl

/-- `main` が `makedev` に渡す組は、二つの探索がどちらも `0` を返したときの `*id` の組。 -/
theorem findIpcDevice_eq_some (procFiles : String → Option (List (List Char))) (major minor : Int) :
    findIpcDevice procFiles = some (major, minor) ↔
      findDeviceId 0 (procFiles devList) miscDev = (0, major) ∧
        findDeviceId 0 (procFiles miscList) ipcDev = (0, minor) := by
  have h₁ := @findDeviceId_ret miscDev 0 (procFiles devList)
  have h₂ := @findDeviceId_ret ipcDev 0 (procFiles miscList)
  unfold findIpcDevice
  rcases h₁ with h₁ | h₁ <;> rcases h₂ with h₂ | h₂ <;>
    simp [h₁, h₂, Prod.ext_iff, eq_comm]

/-- `find_device_id` は名前を部分として含む最初の行の数を返し、`main` はその二つの数で装置を作る。 -/
theorem find_device_id_first_containing (id : Int) (lines : List (List Char)) :
    findDeviceId id (some lines) devName =
      (match lines.find? (fun line => decide (cstr devName <:+: cstr line)) with
        | some line => (match sscanfInt line with | some k => (0, k) | none => (-1, id))
        | none => (-1, id)) ∧
    ∀ (procFiles : String → Option (List (List Char))) (major minor : Int),
      findIpcDevice procFiles = some (major, minor) ↔
        findDeviceId 0 (procFiles devList) miscDev = (0, major) ∧
          findDeviceId 0 (procFiles miscList) ipcDev = (0, minor) := by
  refine ⟨?_, findIpcDevice_eq_some⟩
  have hp : (fun line => (strstr line devName).isSome) = fun line => decide (cstr devName <:+: cstr line) := by
    funext line
    rw [Bool.eq_iff_iff, decide_eq_true_iff]
    exact isSome_strstr line devName
  rw [findDeviceId, findDeviceIdLoop_eq, hp]

theorem find_device_id_first_containing_xmisc :
    findDeviceId 0 (some ["5 xmisc\n".toList, "10 misc\n".toList]) miscDev = (0, 5) ∧
      findIpcDevice (fun f => if f = devList then some ["5 xmisc\n".toList, "10 misc\n".toList]
        else some ["58 mid_ipc\n".toList]) = some (5, 58) := by
  have h := @find_device_id_first_containing miscDev 0 ["5 xmisc\n".toList, "10 misc\n".toList]
  refine ⟨by rw [h.1]; decide, ?_⟩
  rw [h.2]
  decide

end Kboot.Fw.IfwiUpdate
