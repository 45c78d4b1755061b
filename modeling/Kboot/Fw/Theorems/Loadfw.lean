import Kboot.Fw.Loadfw

/-!
# loadfw の main: 後始末、`ioctl` の条件、終了の値

`main` はどの道でも、開いた記述子と確保したバッファをすべて閉じて終わる（最後の道は `devfd` を最後に
閉じるので、取った順の逆ではない）。`ioctl` に渡すのはファイルの中身そのもので、渡す条件 `Accepts` の
名前の検査は、最後の `.` の後ろが `"bin"` で始まること。`FW.binary` も通る。`exit` の値は、`ioctl` を
呼んだときに限り 0 で、`ioctl` の戻り値によらない。
-/

namespace Kboot.Fw.Loadfw

open CString

/-! ## 名前の検査 -/

/-- 最後の `.` の後ろが `"bin"` で始まる。 -/
def ExtOk (name : List Char) : Prop :=
  ∃ p q, cstr name = p ++ '.' :: q ∧ '.' ∉ q ∧ "bin".toList <+: q

/-- `strncmp` は 4 文字しか比べないので、`.bin` で終わらない名前も通る。 -/
example : ExtOk "FW.binary".toList := ⟨"FW".toList, "binary".toList, rfl, by decide, by decide⟩

theorem strnEq_fileExt_iff {q : List Char} (hq : ∀ c ∈ '.' :: q, c ≠ '\x00') :
    strnEq ('.' :: q) fileExt fileExt.length = true ↔ "bin".toList <+: q := by
  rw [strnEq, cstr_eq_self hq, show cstr fileExt = fileExt from rfl, beq_iff_eq, List.prefix_iff_eq_take]
  simp [fileExt, eq_comm]

/-- `strrchr` と `strncmp` の検査が通るのは、`ExtOk` のときだけ。 -/
theorem extOk_iff (s : List Char) :
    ExtOk s ↔ ∃ t, strrchr s '.' = some t ∧ strnEq t fileExt fileExt.length = true := by
  have hnul {p q : List Char} (hs : cstr s = p ++ '.' :: q) : ∀ c ∈ '.' :: q, c ≠ '\x00' :=
    fun c hc => ne_nul_of_mem_cstr (hs ▸ List.mem_append_right p hc)
  constructor
  · rintro ⟨p, q, hs, hq, hpre⟩
    exact ⟨'.' :: q, strrchr_eq_some_iff.mpr ⟨p, q, hs, hq, rfl⟩, (strnEq_fileExt_iff (hnul hs)).mpr hpre⟩
  · rintro ⟨t, ht, heq⟩
    obtain ⟨p, q, hs, hq, rfl⟩ := strrchr_eq_some_iff.mp ht
    exact ⟨p, q, hs, hq, (strnEq_fileExt_iff (hnul hs)).mp heq⟩

/-! ## ioctl の条件 -/

/-- `ioctl` にファイル `fw` を渡す条件: root で、引数が一つで、名前が `ExtOk`、ファイルが開けて
258 KiB ちょうどで、バッファが確保でき、`fread` が全部を読み、装置が開けるとき。 -/
def Accepts (w : World) (args : List String) (fw : List UInt8) : Prop :=
  match args with
  | [name] => w.uid = 0 ∧ ExtOk name.toList ∧ w.files name = some fw ∧ w.statOk ∧
      fw.length = fwBinFileSize ∧ w.allocOk ∧ fw.length ≤ w.freadCount ∧ w.devOpenOk
  | _ => False

theorem Accepts.uid {w : World} {args : List String} {fw : List UInt8} (h : Accepts w args fw) : w.uid = 0 := by
  match args, h with
  | [_], h => exact h.1

theorem Accepts.eq_of_files {w : World} {name : String} {fw fw' : List UInt8} (h : Accepts w [name] fw')
    (hf : w.files name = some fw) : fw' = fw :=
  Option.some.inj (h.2.2.1.symm.trans hf)

def Ev.resOf : Ev → Option (Res.Ev Handle)
  | .res e => some e
  | _ => none

/-- 記述子とバッファの出来事だけを抜き出した列。 -/
def resEvents (es : List Ev) : List (Res.Ev Handle) := es.filterMap Ev.resOf

/-- `main` の残す出来事 `es` と `exit` の値 `ret` の形。 -/
structure Outcome (w : World) (args : List String) (es : List Ev) (ret : Int) : Prop where
  balanced : Res.Balanced (resEvents es)
  ioctl : ∀ fw, Ev.ioctl fw ∈ es ↔ Accepts w args fw
  ret_zero : ret = 0 ↔ ∃ fw, Accepts w args fw
  ret_one : ret = 0 ∨ ret = 1

theorem outcome_fail {w : World} {args : List String} {es : List Ev} (hb : Res.Balanced (resEvents es))
    (hio : ∀ fw, Ev.ioctl fw ∉ es) (hacc : ∀ fw, ¬Accepts w args fw) : Outcome w args es 1 where
  balanced := hb
  ioctl fw := iff_of_false (hio fw) (hacc fw)
  ret_zero := iff_of_false (by decide) fun ⟨fw, h⟩ => hacc fw h
  ret_one := .inr rfl

-- `main` の道ごとの出来事の列: `fclose(fwp)` で終わる道、`free` のあとに終わる道、`ioctl` を呼ぶ道
def closeFwp : List Ev := [.res (.acquire .fwp), .res (.release .fwp)]

def freeData : List Ev :=
  [.res (.acquire .fwp), .res (.acquire .fwFileData), .res (.release .fwFileData), .res (.release .fwp)]

def ioctlRun (fw : List UInt8) : List Ev :=
  [.res (.acquire .fwp), .res (.acquire .fwFileData), .res (.acquire .devfd), .ioctl fw,
    .res (.release .fwFileData), .res (.release .fwp), .res (.release .devfd)]

theorem main_run (w : World) (args : List String) (log : List Ev) :
    ∃ es ret, (main w args).run log = pure (ret, log ++ es) ∧ Outcome w args es ret := by
  unfold main
  split
  next huid => exact ⟨[], 1, by simp, outcome_fail (by decide) (by simp) fun fw h => huid h.uid⟩
  rename_i huid
  match args with
  | [name] =>
    dsimp only
    cases ht : strrchr name.toList '.' with
    | none =>
      refine ⟨[], 1, by simp, outcome_fail (by decide) (by simp) fun fw h => ?_⟩
      obtain ⟨t', ht', -⟩ := (extOk_iff _).mp h.2.1
      simp [ht] at ht'
    | some t =>
      dsimp only
      split
      next hext =>
        refine ⟨[], 1, by simp, outcome_fail (by decide) (by simp) fun fw h => ?_⟩
        obtain ⟨t', ht', heq⟩ := (extOk_iff _).mp h.2.1
        rw [ht, Option.some.injEq] at ht'
        rw [← ht'] at heq
        simp [heq] at hext
      rename_i hext
      have hok : ExtOk name.toList := (extOk_iff _).mpr ⟨t, ht, by simpa using hext⟩
      cases hf : w.files name with
      | none => exact ⟨[], 1, by simp, outcome_fail (by decide) (by simp) fun fw h => by simp [Accepts, hf] at h⟩
      | some fw =>
        dsimp only
        -- `fstat`、大きさ、`calloc` の失敗は `fwp` を閉じて終わる
        have hfwp (hacc : ∀ fw, ¬Accepts w [name] fw) : Outcome w [name] closeFwp 1 :=
          outcome_fail (by decide) (by simp [closeFwp]) hacc
        split
        next hstat => exact ⟨_, 1, by simp [emit, closeFwp], hfwp fun fw h => by simp_all [Accepts]⟩
        split
        next hsize =>
          refine ⟨_, 1, by simp [emit, closeFwp], hfwp fun fw' h => ?_⟩
          obtain rfl := h.eq_of_files hf
          obtain ⟨-, -, -, -, hlen, -⟩ := h
          exact hsize hlen
        split
        next halloc => exact ⟨_, 1, by simp [emit, closeFwp], hfwp fun fw h => by simp_all [Accepts]⟩
        rename_i hstat hsize halloc
        -- `fread` と装置の `open` の失敗は、バッファも解放して終わる
        have hdata (hacc : ∀ fw, ¬Accepts w [name] fw) : Outcome w [name] freeData 1 :=
          outcome_fail (by decide) (by simp [freeData]) hacc
        split
        next hread =>
          refine ⟨_, 1, by simp [emit, freeData], hdata fun fw' h => ?_⟩
          obtain rfl := h.eq_of_files hf
          obtain ⟨-, -, -, -, -, -, hcount, -⟩ := h
          omega
        split
        next hdev => exact ⟨_, 1, by simp [emit, freeData], hdata fun fw h => by simp_all [Accepts]⟩
        rename_i hread hdev
        have hacc : Accepts w [name] fw := by
          simp only [Bool.not_eq_true', Bool.not_eq_false, ne_eq, not_not, not_lt] at hstat halloc hdev hsize hread
          exact ⟨by simpa using huid, hok, hf, hstat, hsize, halloc, by omega, hdev⟩
        have hbuf : fw.take (min w.freadCount fw.length) ++ List.replicate (fw.length - min w.freadCount fw.length) 0 =
            fw := by
          rw [Nat.min_eq_right (by omega), List.take_length, Nat.sub_self, List.replicate_zero, List.append_nil]
        refine ⟨ioctlRun fw, 0, by simp [emit, hbuf, ioctlRun], ?_⟩
        exact {
          balanced := by
            simp only [resEvents, ioctlRun, List.filterMap_cons, Ev.resOf, List.filterMap_nil]
            decide
          ioctl := fun fw' => by
            constructor
            · intro h
              simp only [ioctlRun, List.mem_cons, reduceCtorEq, Ev.ioctl.injEq, false_or, List.not_mem_nil,
                or_false] at h
              exact h ▸ hacc
            · intro h
              obtain rfl := h.eq_of_files hf
              simp [ioctlRun]
          ret_zero := iff_of_true rfl ⟨fw, hacc⟩
          ret_one := .inl rfl }
  | [] | _ :: _ :: _ => exact ⟨[], 1, by simp, outcome_fail (by decide) (by simp) fun fw h => h.elim⟩

/-! ## main -/

/-- `loadfw` はどの道でも、開いた記述子と確保したバッファをすべて閉じて終わる。`exit` の値は 0 か 1 で、
0 になるのは `ioctl` を呼んだときだけで、`ioctl` が失敗しても 0。 -/
theorem loadfw_exit_status (w : World) (args : List String) :
    ∃ ret es, (main w args).run [] = pure (ret, es) ∧ Res.Balanced (resEvents es) ∧
      (ret = 0 ↔ ∃ fw, Ev.ioctl fw ∈ es) ∧ (ret = 0 ∨ ret = 1) := by
  obtain ⟨es, ret, hrun, ho⟩ := main_run w args []
  refine ⟨ret, es, by simpa using hrun, ho.balanced, ?_, ho.ret_one⟩
  rw [ho.ret_zero]
  exact exists_congr fun fw => (ho.ioctl fw).symm

/-- `loadfw` が `ioctl` に渡すのはファイルの中身そのもので、渡すのは `Accepts` のときだけ。 -/
theorem loadfw_ioctl (w : World) (args : List String) :
    ∃ ret es, (main w args).run [] = pure (ret, es) ∧ ∀ fw, Ev.ioctl fw ∈ es ↔ Accepts w args fw := by
  obtain ⟨es, ret, hrun, ho⟩ := main_run w args []
  exact ⟨ret, es, by simpa using hrun, ho.ioctl⟩

end Kboot.Fw.Loadfw
