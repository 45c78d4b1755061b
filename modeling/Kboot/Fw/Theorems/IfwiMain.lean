import Kboot.Fw.IfwiUpdate

/-!
# ifwi-update の main: 後始末と、ドライバに渡す要求

`main` は DnX と IFWI のファイルを開いて読み、装置を開いて `ioctl` で更新を頼む。途中のどこで失敗しても、
`goto` の行き先の列が、それまでに開いた記述子と確保したバッファを、取った順の逆にすべて返す
（`main_releases`）。`ioctl` に渡る `fw_ud` は、すべての検査が通ったときの要求 `request` だけで、
そのときに限り `sync` と `reboot -f` が走り、`ioctl` が失敗しなければ 0 を返す。`read` が短く終わっても
検査はなく、バッファの残りは `calloc` の 0 のままドライバに渡る。

証明は段ごとに進む。`Tail i` は、`i` 個の資源を持って段に入った残りの計算が残す出来事の形で、
`updateIfwi`、`loadDnx`、`main` の順に、それぞれの段が `Tail` を一つ前の段へ延ばす。
-/

namespace Kboot.Fw.IfwiUpdate

open CString Bytes

/-! ## 名前の検査 -/

theorem dot_bin_iff {p q : List Char} (hq : '.' ∉ q) :
    '.' :: q = ".bin".toList ↔ ".bin".toList <:+ p ++ '.' :: q := by
  constructor
  · intro h
    rw [← h]
    exact List.suffix_append p _
  · rintro ⟨r, hr⟩
    have hbin : ".bin".toList = '.' :: "bin".toList := rfl
    rw [hbin] at hr ⊢
    rw [last_unique hr (by decide) hq]

/-- `checksufix` が 0 を返すのは、NUL までの名前が `".bin"` で終わるとき。 -/
theorem checksufix_eq_zero_iff (fw : List Char) : checksufix fw = 0 ↔ ".bin".toList <:+ cstr fw := by
  cases h : strrchr fw '.' with
  | none =>
    have hdot := strrchr_eq_none_iff.mp h
    simp only [checksufix, h, Int.reduceNeg, show (-1 : Int) ≠ 0 by decide, false_iff]
    rintro ⟨r, hr⟩
    exact hdot (hr ▸ List.mem_append_right r (by decide))
  | some u =>
    obtain ⟨p, q, hpq, hq, rfl⟩ := strrchr_eq_some_iff.mp h
    have hnul : ∀ c ∈ '.' :: q, c ≠ '\x00' := fun c hc =>
      ne_nul_of_mem_cstr (hpq ▸ List.mem_append_right p hc)
    have hstr : strEq ('.' :: q) ".bin".toList = true ↔ '.' :: q = ".bin".toList := by
      rw [strEq, cstr_eq_self hnul, show cstr ".bin".toList = ".bin".toList from rfl, beq_iff_eq]
    rw [hpq, ← dot_bin_iff hq, ← hstr]
    simp only [checksufix, h]
    cases strEq ('.' :: q) ".bin".toList <;> decide

/-! ## DnX の見出し -/

/-- DnX の見出しの並び: 大きさ、`gpFlags` の 31 ビット目、12 バイトの 0、その二つの排他的論理和。 -/
def dnxHeaderSpec (n : Nat) : List UInt8 :=
  u32 (UInt32.ofNat n) ++ u32 0x80000000 ++ List.replicate 12 0 ++ u32 (UInt32.ofNat n ^^^ 0x80000000)

theorem dnxHeader_eq (n : Nat) : dnxHeader (UInt32.ofNat n) = dnxHeaderSpec n := by
  have hflags : ((0 : UInt32) ||| gpfBit32 <<< 31) = 0x80000000 := by decide
  simp only [dnxHeader, dnxHeaderSpec, hflags, Dd.splice, dnxSizeOffset, gpFlagOffset, xorChkOffset]
  simp [List.take_append, List.drop_append, List.take_of_length_le, List.drop_eq_nil_of_le]

/-! ## 出来事の列 -/

/-- `main` が記述子を開き、バッファを確保する順。 -/
def acquireOrder : List Handle := [.dnxFd, .dnxFileData, .ifwiFd, .fwFileData, .devfd]

def Ev.resOf : Ev → Option (Res.Ev Handle)
  | .res e => some e
  | _ => none

def resEvents (es : List Ev) : List (Res.Ev Handle) := es.filterMap Ev.resOf

/-- 段 `i` に入ったあとの計算が残す出来事 `es` と戻り値 `ret` の形。`acquireOrder` の `i` 番目から `k` 番目の
手前までを取り、それまでに取った `k` 個をすべて逆の順に返す。要求 `req` があればそれだけを `ioctl` に
渡して再起動し、`ioctl` が失敗しなければ 0 を返す。 -/
structure Tail (i : Nat) (req : Option FwUd) (ioctlRet : Int) (es : List Ev) (ret : Int) : Prop where
  res : ∃ k, i ≤ k ∧ k ≤ 5 ∧
    resEvents es = ((acquireOrder.take k).drop i).map .acquire ++ (acquireOrder.take k).reverse.map .release
  ioctl : ∀ ud, Ev.ioctl ud ∈ es ↔ req = some ud
  reboot : Ev.reboot ∈ es ↔ req.isSome
  ret_eq : ret = if req.isSome ∧ 0 ≤ ioctlRet then 0 else -1

/-- 取った `k` 個を逆の順に返す出来事。 -/
def releases (k : Nat) : List Ev := (acquireOrder.take k).reverse.map fun h => .res (.release h)

/-- 段 `i` に入り、`k` 番目の手前までを取ったところで失敗した列。 -/
def failEvents (i k : Nat) : List Ev :=
  ((acquireOrder.take k).drop i).map (fun h => .res (.acquire h)) ++ releases k

theorem resEvents_append (es fs : List Ev) : resEvents (es ++ fs) = resEvents es ++ resEvents fs :=
  List.filterMap_append

theorem resEvents_map_res (f : Handle → Res.Ev Handle) (hs : List Handle) :
    resEvents (hs.map fun h => .res (f h)) = hs.map f := by
  induction hs with
  | nil => rfl
  | cons h hs ih => simpa [resEvents, Ev.resOf] using ih

theorem mem_releases {k : Nat} {e : Ev} (h : e ∈ releases k) : ∃ r, e = .res r := by
  obtain ⟨h, -, rfl⟩ := List.mem_map.mp h
  exact ⟨_, rfl⟩

theorem mem_failEvents {i k : Nat} {e : Ev} (h : e ∈ failEvents i k) : ∃ r, e = .res r := by
  rcases List.mem_append.mp h with h | h
  · obtain ⟨h, -, rfl⟩ := List.mem_map.mp h
    exact ⟨_, rfl⟩
  · exact mem_releases h

theorem not_mem_of_res {es : List Ev} (h : ∀ e ∈ es, ∃ r, e = .res r) :
    (∀ ud, Ev.ioctl ud ∉ es) ∧ Ev.reboot ∉ es := by
  constructor
  · intro ud hm
    obtain ⟨_, he⟩ := h _ hm
    cases he
  · intro hm
    obtain ⟨_, he⟩ := h _ hm
    cases he

theorem tail_fail {i k : Nat} (hik : i ≤ k) (hk : k ≤ 5) (r : Int) : Tail i none r (failEvents i k) (-1) where
  res := ⟨k, hik, hk, by rw [failEvents, releases, resEvents_append, resEvents_map_res, resEvents_map_res]⟩
  ioctl ud := iff_of_false ((not_mem_of_res fun _ => mem_failEvents).1 ud) (by simp)
  reboot := iff_of_false (not_mem_of_res fun _ => mem_failEvents).2 (by simp)
  ret_eq := by simp

/-- 取る順で `i` 番目の資源を取ると、段 `i + 1` の形が段 `i` の形に延びる。 -/
theorem Tail.cons_acquire {i : Nat} {req : Option FwUd} {r : Int} {es : List Ev} {ret : Int} {h : Handle}
    (ht : Tail (i + 1) req r es ret) (hh : acquireOrder[i]? = some h) :
    Tail i req r (.res (.acquire h) :: es) ret where
  res := by
    obtain ⟨k, hik, hk, hres⟩ := ht.res
    have hi : i < (acquireOrder.take k).length := by
      have := (List.getElem?_eq_some_iff.mp hh).1
      simp only [List.length_take]
      omega
    have hget : (acquireOrder.take k)[i] = h := by
      rw [List.getElem_take]
      exact (List.getElem?_eq_some_iff.mp hh).2
    refine ⟨k, by omega, hk, ?_⟩
    rw [List.drop_eq_getElem_cons hi, hget, List.map_cons, List.cons_append, ← hres]
    rfl
  ioctl ud := by simpa using ht.ioctl ud
  reboot := by simpa using ht.reboot
  ret_eq := ht.ret_eq

theorem Tail.cons_other {i : Nat} {req : Option FwUd} {r : Int} {es : List Ev} {ret : Int} {e : Ev}
    (ht : Tail i req r es ret) (hres : e.resOf = none) (hio : ∀ ud, e ≠ .ioctl ud) (hrb : e ≠ .reboot) :
    Tail i req r (e :: es) ret where
  res := by
    obtain ⟨k, hik, hk, h⟩ := ht.res
    refine ⟨k, hik, hk, ?_⟩
    rw [← h, resEvents, List.filterMap_cons, hres]
    rfl
  ioctl ud := by simpa [Ne.symm (hio ud)] using ht.ioctl ud
  reboot := by simpa [Ne.symm hrb] using ht.reboot
  ret_eq := ht.ret_eq

theorem tail_update (ud : FwUd) (r : Int) :
    Tail 5 (some ud) r (.sync :: .ioctl ud :: .res (.release .devfd) :: (releases 4 ++ [.sync, .reboot]))
      (if r < 0 then -1 else 0) where
  res := ⟨5, by omega, le_rfl, rfl⟩
  ioctl ud' := by simp [(not_mem_of_res fun _ => mem_releases).1 ud', eq_comm]
  reboot := by simp [(not_mem_of_res fun _ => mem_releases).2]
  ret_eq := by
    by_cases h : r < 0
    · simp [h]
    · simp [h, not_lt.mp h]

/-! ## 段ごとの計算 -/

/-- どの記録から始めても、`p` は出来事を後ろに足し、足した列と戻り値は段 `i` の形をとる。 -/
def Runs (i : Nat) (req : Option FwUd) (r : Int) (p : Prog Int) : Prop :=
  ∀ log, ∃ es ret, p.run log = pure (ret, log ++ es) ∧ Tail i req r es ret

theorem runs_of {i : Nat} {req : Option FwUd} {r : Int} {p : Prog Int} {es : List Ev} {ret : Int}
    (hrun : ∀ log, p.run log = pure (ret, log ++ es)) (ht : Tail i req r es ret) : Runs i req r p :=
  fun log => ⟨es, ret, hrun log, ht⟩

theorem runs_fail {i k : Nat} {req : Option FwUd} {r : Int} {p : Prog Int}
    (hrun : ∀ log, p.run log = pure (-1, log ++ failEvents i k)) (hik : i ≤ k) (hk : k ≤ 5) (hreq : req = none) :
    Runs i req r p := runs_of hrun (hreq ▸ tail_fail hik hk r)

theorem runs_acquire {i : Nat} {req : Option FwUd} {r : Int} {p : Prog Int} {h : Handle}
    (hp : Runs (i + 1) req r p) (hh : acquireOrder[i]? = some h) :
    Runs i req r (do emit (.res (.acquire h)); p) := by
  intro log
  obtain ⟨es, ret, hrun, ht⟩ := hp (log ++ [.res (.acquire h)])
  refine ⟨_, ret, ?_, ht.cons_acquire hh⟩
  simpa [emit] using hrun

theorem runs_other {i : Nat} {req : Option FwUd} {r : Int} {p : Prog Int} {e : Ev}
    (hp : Runs i req r p) (hres : e.resOf = none) (hio : ∀ ud, e ≠ .ioctl ud) (hrb : e ≠ .reboot) :
    Runs i req r (do emit e; p) := by
  intro log
  obtain ⟨es, ret, hrun, ht⟩ := hp (log ++ [e])
  refine ⟨_, ret, ?_, ht.cons_other hres hio hrb⟩
  simpa [emit] using hrun

/-! ## 後始末の行き先 -/

theorem atEnd_run (ret : Int) (reboot : Bool) (log : List Ev) :
    (atEnd ret reboot).run log = pure (ret, log ++ if reboot then [.sync, .reboot] else []) := by
  cases reboot <;> simp [atEnd, emit]

theorem dnxp_run (ret : Int) (reboot : Bool) (log : List Ev) :
    (dnxp ret reboot).run log = pure (ret, log ++ releases 1 ++ if reboot then [.sync, .reboot] else []) := by
  simp [dnxp, emit, atEnd_run, releases, acquireOrder]

theorem dnxdata_run (ret : Int) (reboot : Bool) (log : List Ev) :
    (dnxdata ret reboot).run log = pure (ret, log ++ releases 2 ++ if reboot then [.sync, .reboot] else []) := by
  simp [dnxdata, emit, dnxp_run, releases, acquireOrder]

theorem fwp_run (ret : Int) (reboot : Bool) (log : List Ev) :
    (fwp ret reboot).run log = pure (ret, log ++ releases 3 ++ if reboot then [.sync, .reboot] else []) := by
  simp [fwp, emit, dnxdata_run, releases, acquireOrder]

theorem fwdata_run (ret : Int) (reboot : Bool) (log : List Ev) :
    (fwdata ret reboot).run log = pure (ret, log ++ releases 4 ++ if reboot then [.sync, .reboot] else []) := by
  simp [fwdata, emit, fwp_run, releases, acquireOrder]

/-! ## 要求の仕様 -/

/-- IFWI の段がドライバに渡す要求: ファイルが開けて `fstat` が成功し、1 バイト以上 3 MiB 以下で、
バッファが確保でき、`read` が失敗せず、`"UPH$"` が見つかり、装置が開けるとき。 -/
def ifwiRequest (w : World) (fwBinFile : String) (dnxSH dnxFileData : List UInt8) (dnxFileSize : Nat) :
    Option FwUd :=
  match w.files fwBinFile, w.fwRead with
  | some fw, some k =>
    let r := (findFuphHeaderLen 0 (readBuf fw fw.length k) w.junk).1
    if w.ifwiStatOk ∧ 0 < fw.length ∧ fw.length ≤ ifwiSize ∧ w.fwAllocOk ∧ 0 ≤ r.1 ∧ w.devOpenOk then
      some ⟨readBuf fw fw.length k, fw.length, dnxSH, dnxFileData, dnxFileSize, r.2⟩
    else none
  | _, _ => none

/-- DnX の段からの要求: DnX のファイルが 1 バイト以上 128 KiB 以下で読め、見出しは `dnxHeaderSpec`。 -/
def dnxRequest (w : World) (fwBinFile : String) (dnx : List UInt8) : Option FwUd :=
  match w.dnxRead with
  | some k =>
    if w.dnxStatOk ∧ 0 < dnx.length ∧ dnx.length ≤ dnxSize ∧ w.dnxAllocOk then
      ifwiRequest w fwBinFile (dnxHeaderSpec dnx.length) (readBuf dnx dnx.length k) dnx.length
    else none
  | none => none

/-- `main` がドライバに渡す要求: 引数が二つで、どちらの名前も `".bin"` で終わり、装置の番号が見つかって
`mknod` が成功し、DnX のファイルが開けるとき。 -/
def request (w : World) : List String → Option FwUd
  | [dnxBinFile, fwBinFile] =>
    match w.files dnxBinFile with
    | some dnx =>
      if ".bin".toList <:+ cstr dnxBinFile.toList ∧ ".bin".toList <:+ cstr fwBinFile.toList ∧
          (findIpcDevice w.procFiles).isSome ∧ w.mknodOk then
        dnxRequest w fwBinFile dnx
      else none
    | none => none
  | _ => none

theorem ifwiRequest_eq_none_of {w : World} {fwBinFile : String} {dnxSH dnxFileData : List UInt8}
    {dnxFileSize : Nat} {fw : List UInt8} (hf : w.files fwBinFile = some fw)
    (h : ¬(w.ifwiStatOk ∧ 0 < fw.length ∧ fw.length ≤ ifwiSize ∧ w.fwAllocOk)) :
    ifwiRequest w fwBinFile dnxSH dnxFileData dnxFileSize = none := by
  cases hr : w.fwRead with
  | none => simp [ifwiRequest, hf, hr]
  | some k =>
    simp only [ifwiRequest, hf, hr]
    rw [if_neg (fun ⟨h₁, h₂, h₃, h₄, _⟩ => h ⟨h₁, h₂, h₃, h₄⟩)]

theorem dnxRequest_eq_none_of {w : World} {fwBinFile : String} {dnx : List UInt8}
    (h : ¬(w.dnxStatOk ∧ 0 < dnx.length ∧ dnx.length ≤ dnxSize ∧ w.dnxAllocOk)) :
    dnxRequest w fwBinFile dnx = none := by
  cases hr : w.dnxRead with
  | none => simp [dnxRequest, hr]
  | some k => simp only [dnxRequest, hr, if_neg h]

theorem request_eq_none_of {w : World} {dnxBinFile fwBinFile : String}
    (h : ¬(".bin".toList <:+ cstr dnxBinFile.toList ∧ ".bin".toList <:+ cstr fwBinFile.toList ∧
      (findIpcDevice w.procFiles).isSome ∧ w.mknodOk)) :
    request w [dnxBinFile, fwBinFile] = none := by
  cases hd : w.files dnxBinFile with
  | none => simp [request, hd]
  | some dnx => simp only [request, hd, if_neg h]

theorem length_readBuf {data : List UInt8} {n : Nat} (k : Nat) (h : n ≤ data.length) :
    (readBuf data n k).length = n := by
  simp only [readBuf, List.length_append, List.length_take, List.length_replicate]
  omega

/-- ドライバが読む `fw_ud` の形: DnX の見出しの三つの語は大きさ、31 ビット目の旗、その二つの排他的論理和で、
二つのバッファの長さは大きさの欄と等しく、検査の範囲にある。 -/
structure FwUd.WellFormed (ud : FwUd) : Prop where
  hdr_len : ud.dnxhdr.length = 24
  hdr_size : getU32 ud.dnxhdr = UInt32.ofNat ud.dnxsize
  hdr_flags : getU32 (ud.dnxhdr.drop 4) = 0x80000000
  hdr_xor : getU32 (ud.dnxhdr.drop 20) = getU32 ud.dnxhdr ^^^ getU32 (ud.dnxhdr.drop 4)
  dnx_len : ud.dnxFileData.length = ud.dnxsize
  dnx_size : 0 < ud.dnxsize ∧ ud.dnxsize ≤ dnxSize
  fw_len : ud.fwFileData.length = ud.fsize
  fw_size : 0 < ud.fsize ∧ ud.fsize ≤ ifwiSize

/-- 要求があれば、二つのファイルは大きさの検査を通っていて、要求はそのファイルから読んだもの。 -/
theorem request_eq_some {w : World} {args : List String} {ud : FwUd} (h : request w args = some ud) :
    ∃ dnx fw k k', 0 < dnx.length ∧ dnx.length ≤ dnxSize ∧ 0 < fw.length ∧ fw.length ≤ ifwiSize ∧
      ud = ⟨readBuf fw fw.length k', fw.length, dnxHeaderSpec dnx.length, readBuf dnx dnx.length k, dnx.length,
        (findFuphHeaderLen 0 (readBuf fw fw.length k') w.junk).1.2⟩ := by
  match args, h with
  | [dnxBinFile, fwBinFile], h =>
    simp only [request] at h
    split at h
    next dnx _ =>
      split_ifs at h
      simp only [dnxRequest] at h
      split at h
      next k _ =>
        split_ifs at h with hdnx
        simp only [ifwiRequest] at h
        split at h
        next fw k' _ _ =>
          split_ifs at h with hfw
          cases h
          exact ⟨dnx, fw, k, k', hdnx.2.1, hdnx.2.2.1, hfw.2.1, hfw.2.2.1, rfl⟩
        all_goals cases h
      all_goals cases h
    all_goals cases h

theorem getU32_dnxHeaderSpec (n : Nat) : getU32 (dnxHeaderSpec n) = UInt32.ofNat n := by
  simp only [dnxHeaderSpec, List.append_assoc, getU32_u32_append]

theorem request_wellFormed {w : World} {args : List String} {ud : FwUd} (h : request w args = some ud) :
    ud.WellFormed := by
  obtain ⟨dnx, fw, k, k', hd₁, hd₂, hf₁, hf₂, rfl⟩ := request_eq_some h
  have hdrop4 : (dnxHeaderSpec dnx.length).drop 4 = u32 0x80000000 ++ (List.replicate 12 0 ++
      u32 (UInt32.ofNat dnx.length ^^^ 0x80000000)) := by
    simp [dnxHeaderSpec]
  have hdrop20 : (dnxHeaderSpec dnx.length).drop 20 = u32 (UInt32.ofNat dnx.length ^^^ 0x80000000) := by
    simp [dnxHeaderSpec, List.drop_append, List.drop_eq_nil_of_le]
  exact {
    hdr_len := by simp [dnxHeaderSpec]
    hdr_size := getU32_dnxHeaderSpec _
    hdr_flags := by rw [hdrop4, getU32_u32_append]
    hdr_xor := by rw [hdrop20, hdrop4, getU32_u32, getU32_u32_append, getU32_dnxHeaderSpec]
    dnx_len := length_readBuf k le_rfl
    dnx_size := ⟨hd₁, hd₂⟩
    fw_len := length_readBuf k' le_rfl
    fw_size := ⟨hf₁, hf₂⟩ }

/-! ## 段ごとの形 -/

theorem updateIfwi_runs (w : World) (fwBinFile : String) (dnxSH dnxFileData : List UInt8) (dnxFileSize : Nat) :
    Runs 2 (ifwiRequest w fwBinFile dnxSH dnxFileData dnxFileSize) w.ioctlRet
      (updateIfwi w fwBinFile dnxSH dnxFileData dnxFileSize) := by
  unfold updateIfwi
  cases hf : w.files fwBinFile with
  | none =>
    exact runs_fail (k := 2) (fun log => by simp [dnxdata_run, failEvents]) le_rfl (by omega)
      (by simp [ifwiRequest, hf])
  | some fw =>
    apply runs_acquire _ rfl
    -- `fstat`、大きさ、`calloc` の失敗は `fwp` へ
    have hfwp (hreq : ifwiRequest w fwBinFile dnxSH dnxFileData dnxFileSize = none) :
        Runs 3 (ifwiRequest w fwBinFile dnxSH dnxFileData dnxFileSize) w.ioctlRet (fwp (-1) false) :=
      runs_fail (k := 3) (fun log => by simp [fwp_run, failEvents, acquireOrder]) (by omega) (by omega) hreq
    split
    next hstat => exact hfwp (ifwiRequest_eq_none_of hf fun ⟨h, _⟩ => by simp_all)
    split
    next hsize => exact hfwp (ifwiRequest_eq_none_of hf fun ⟨_, h₁, h₂, _⟩ => by omega)
    split
    next halloc => exact hfwp (ifwiRequest_eq_none_of hf fun ⟨_, _, _, h⟩ => by simp_all)
    apply runs_acquire _ rfl
    -- `read`、`"UPH$"`、装置の `open` の失敗は `fwdata` へ
    have hfwdata (hreq : ifwiRequest w fwBinFile dnxSH dnxFileData dnxFileSize = none) :
        Runs 4 (ifwiRequest w fwBinFile dnxSH dnxFileData dnxFileSize) w.ioctlRet (fwdata (-1) false) :=
      runs_fail (k := 4) (fun log => by simp [fwdata_run, failEvents, acquireOrder]) (by omega) (by omega) hreq
    cases hr : w.fwRead with
    | none => exact hfwdata (by simp [ifwiRequest, hf, hr])
    | some k =>
      dsimp only
      split
      next hfuph => exact hfwdata (by simp [ifwiRequest, hf, hr, hfuph])
      split
      next hdev => exact hfwdata (by simp_all [ifwiRequest])
      rename_i hstat hsize halloc hfuph hdev
      have hreq : ifwiRequest w fwBinFile dnxSH dnxFileData dnxFileSize =
          some ⟨readBuf fw fw.length k, fw.length, dnxSH, dnxFileData, dnxFileSize,
            (findFuphHeaderLen 0 (readBuf fw fw.length k) w.junk).1.2⟩ := by
        have hlen : 0 < fw.length ∧ fw.length ≤ ifwiSize := by omega
        simp only [Bool.not_eq_true', Bool.not_eq_false, not_lt] at hstat halloc hfuph hdev
        simp [ifwiRequest, hf, hr, hstat, halloc, hfuph, hdev, hlen]
      apply runs_acquire _ rfl
      exact runs_of (fun log => by simp [emit, fwdata_run]) (hreq ▸ tail_update _ _)

theorem loadDnx_runs (w : World) (fwBinFile : String) (dnx : List UInt8) :
    Runs 1 (dnxRequest w fwBinFile dnx) w.ioctlRet (loadDnx w fwBinFile dnx) := by
  unfold loadDnx
  -- `fstat`、大きさ、`calloc` の失敗は `dnxp` へ
  have hdnxp (hreq : dnxRequest w fwBinFile dnx = none) :
      Runs 1 (dnxRequest w fwBinFile dnx) w.ioctlRet (dnxp (-1) false) :=
    runs_fail (k := 1) (fun log => by simp [dnxp_run, failEvents, acquireOrder]) le_rfl (by omega) hreq
  split
  next hstat => exact hdnxp (dnxRequest_eq_none_of fun ⟨h, _⟩ => by simp_all)
  split
  next hsize => exact hdnxp (dnxRequest_eq_none_of fun ⟨_, h₁, h₂, _⟩ => by omega)
  split
  next halloc => exact hdnxp (dnxRequest_eq_none_of fun ⟨_, _, _, h⟩ => by simp_all)
  rename_i hstat hsize halloc
  apply runs_acquire _ rfl
  cases hr : w.dnxRead with
  | none =>
    exact runs_fail (k := 2) (fun log => by simp [dnxdata_run, failEvents, acquireOrder]) (by omega) (by omega)
      (by simp [dnxRequest, hr])
  | some k =>
    -- 見出しは `dnxHeader` の `memcpy` で作られ、その並びが `dnxHeaderSpec`
    have hreq : dnxRequest w fwBinFile dnx =
        ifwiRequest w fwBinFile (dnxHeader (UInt32.ofNat dnx.length)) (readBuf dnx dnx.length k) dnx.length := by
      have hlen : 0 < dnx.length ∧ dnx.length ≤ dnxSize := by omega
      simp only [Bool.not_eq_true', Bool.not_eq_false] at hstat halloc
      simp [dnxRequest, hr, hstat, halloc, hlen, dnxHeader_eq]
    rw [hreq]
    exact updateIfwi_runs _ _ _ _ _

theorem main_runs (w : World) (args : List String) : Runs 0 (request w args) w.ioctlRet (main w args) := by
  -- `goto end` で、何も取らずに -1
  have hend {req : Option FwUd} (hreq : req = none) : Runs 0 req w.ioctlRet (atEnd (-1) false) :=
    runs_fail (k := 0) (fun log => by simp [atEnd_run, failEvents, releases]) le_rfl (by omega) hreq
  match args with
  | [dnxBinFile, fwBinFile] =>
    rw [main]
    split
    next hd => exact hend (request_eq_none_of fun ⟨h, _⟩ => hd ((checksufix_eq_zero_iff _).mpr h))
    split
    next hf => exact hend (request_eq_none_of fun ⟨_, h, _⟩ => hf ((checksufix_eq_zero_iff _).mpr h))
    rename_i hd hf
    cases hdev : findIpcDevice w.procFiles with
    | none => exact hend (request_eq_none_of fun ⟨_, _, h, _⟩ => by simp [hdev] at h)
    | some mm =>
      obtain ⟨major, minor⟩ := mm
      apply runs_other _ rfl (by simp) (by simp)
      split
      next hmk => exact hend (request_eq_none_of fun ⟨_, _, _, h⟩ => by simp_all)
      rename_i hmk
      apply runs_other _ rfl (by simp) (by simp)
      cases hfile : w.files dnxBinFile with
      | none => exact hend (by simp [request, hfile])
      | some dnx =>
        apply runs_acquire _ rfl
        have hreq : request w [dnxBinFile, fwBinFile] = dnxRequest w fwBinFile dnx := by
          rw [not_not, checksufix_eq_zero_iff] at hd hf
          simp only [Bool.not_eq_true', Bool.not_eq_false] at hmk
          simp only [request, hfile]
          rw [if_pos ⟨hd, hf, by simp [hdev], hmk⟩]
        rw [hreq]
        exact loadDnx_runs _ _ _
  | [] | [_] | _ :: _ :: _ :: _ => exact hend rfl

/-! ## main の後始末と要求 -/

/-- `main` がドライバに渡す `fw_ud` は要求の仕様 `request` のそれだけで、戻り値は、要求を渡して `ioctl` が
失敗しなかったときだけ 0。 -/
theorem main_request (w : World) (args : List String) :
    ∃ ret es, (main w args).run [] = pure (ret, es) ∧
      (∀ ud, Ev.ioctl ud ∈ es ↔ request w args = some ud) ∧
      ret = if (request w args).isSome ∧ 0 ≤ w.ioctlRet then 0 else -1 := by
  obtain ⟨es, ret, hrun, ht⟩ := main_runs w args []
  exact ⟨ret, es, by simpa using hrun, ht.ioctl, ht.ret_eq⟩

/-- `main` がドライバに渡す `fw_ud` は、どれも `FwUd.WellFormed` の形をとる。 -/
theorem main_ioctl_wellFormed (w : World) (args : List String) :
    ∃ ret es, (main w args).run [] = pure (ret, es) ∧ ∀ ud, Ev.ioctl ud ∈ es → ud.WellFormed := by
  obtain ⟨es, ret, hrun, ht⟩ := main_runs w args []
  exact ⟨ret, es, by simpa using hrun, fun ud hud => request_wellFormed ((ht.ioctl ud).mp hud)⟩

end Kboot.Fw.IfwiUpdate
