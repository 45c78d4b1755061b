import Kboot.Osip.Lemmas.UpdateOsip

/-!
# 記述子の欄の指定

`--revmaj` から `--attrib` までの選択肢は、`main` の `osii`（全ビットが 1 で始まる）の一つの欄に
`atoi` の値を欄の幅で書く。同じ欄の指定が重なれば最後のものが残る。`update_handle` は全ビットが 1
でない欄だけを元の記述子に重ねる。ここでは、その結果を欄ごとに述べる仕様 `fieldSpec` を置き、
選択肢の列と `mergeOsii` がそれに一致することを示す。
-/

namespace Kboot.Osip.UpdateOsip

open OsipUtils ManageDevice

/-- 記述子の欄を指定する選択肢の種類。 -/
inductive Field where
  | revmaj
  | revmin
  | addr
  | entry
  | lba
  | size
  | attrib
  deriving DecidableEq, Repr

def Field.toOpt : Field → String → Opt
  | .revmaj, a => .revmaj a
  | .revmin, a => .revmin a
  | .addr, a => .addr a
  | .entry, a => .entry a
  | .lba, a => .lba a
  | .size, a => .size a
  | .attrib, a => .attrib a

/-- 選択肢が `main` の `osii` に書くもの。 -/
def Field.apply : Field → String → OSII → OSII
  | .revmaj, a, o => { o with osRevMajor := UInt16.ofInt (atoi a) }
  | .revmin, a, o => { o with osRevMinor := UInt16.ofInt (atoi a) }
  | .addr, a, o => { o with ddrLoadAddress := UInt32.ofInt (atoi a) }
  | .entry, a, o => { o with enteryPoint := UInt32.ofInt (atoi a) }
  | .lba, a, o => { o with logicalStartBlock := UInt32.ofInt (atoi a) }
  | .size, a, o => { o with sizeOfOsImage := UInt32.ofInt (atoi a) }
  | .attrib, a, o => { o with attrib := UInt8.ofInt (atoi a) }

/-- 列の中で欄 `f` を指定した最後の引数。 -/
def lastArg (opts : List (Field × String)) (f : Field) : Option String :=
  (opts.filterMap fun p => if p.1 = f then some p.2 else none).getLast?

/-- 欄の仕様: 最後の指定の値 `v` を幅で切った値が全ビット 1 でなければそれ、そうでなければ元の値。 -/
def given {α : Type} [DecidableEq α] (conv : Int → α) (allOnes : α) (arg : Option String) (old : α) : α :=
  match arg with
  | some a => if conv (atoi a) ≠ allOnes then conv (atoi a) else old
  | none => old

/-- `update_osip --update n` と欄の指定の列が記述子 `n` に残すものの仕様。予備の 3 バイトは元のまま。 -/
def fieldSpec (opts : List (Field × String)) (old : OSII) : OSII :=
  { old with
    osRevMajor := given UInt16.ofInt 0xffff (lastArg opts .revmaj) old.osRevMajor
    osRevMinor := given UInt16.ofInt 0xffff (lastArg opts .revmin) old.osRevMinor
    logicalStartBlock := given UInt32.ofInt 0xffffffff (lastArg opts .lba) old.logicalStartBlock
    ddrLoadAddress := given UInt32.ofInt 0xffffffff (lastArg opts .addr) old.ddrLoadAddress
    enteryPoint := given UInt32.ofInt 0xffffffff (lastArg opts .entry) old.enteryPoint
    sizeOfOsImage := given UInt32.ofInt 0xffffffff (lastArg opts .size) old.sizeOfOsImage
    attrib := given UInt8.ofInt 0xff (lastArg opts .attrib) old.attrib }

/-! ## 選択肢の列の畳み込み -/

theorem option_toOpt (v : Vars) (f : Field) (a : String) :
    option v (f.toOpt a) = pure { v with osii := f.apply a v.osii } := by
  cases f <;> rfl

theorem foldlM_fields (opts : List (Field × String)) (v : Vars) :
    (opts.map fun p => p.1.toOpt p.2).foldlM option v =
      pure { v with osii := opts.foldl (fun o p => p.1.apply p.2 o) v.osii } := by
  induction opts generalizing v with
  | nil => rfl
  | cons p ps ih => simp [option_toOpt, ih]

@[simp] theorem lastArg_nil (f : Field) : lastArg [] f = none := rfl

theorem lastArg_append_singleton (opts : List (Field × String)) (p : Field × String) (f : Field) :
    lastArg (opts ++ [p]) f = if p.1 = f then some p.2 else lastArg opts f := by
  by_cases h : p.1 = f
  · simp [lastArg, h]
  · simp [lastArg, h]

/-- 畳み込みのあとの `osii`: 各欄は最後の指定の値か、指定がなければ畳み込みの前の値。 -/
def lastVals (opts : List (Field × String)) (o : OSII) : OSII :=
  { o with
    osRevMajor := ((lastArg opts .revmaj).map fun a => UInt16.ofInt (atoi a)).getD o.osRevMajor
    osRevMinor := ((lastArg opts .revmin).map fun a => UInt16.ofInt (atoi a)).getD o.osRevMinor
    logicalStartBlock := ((lastArg opts .lba).map fun a => UInt32.ofInt (atoi a)).getD o.logicalStartBlock
    ddrLoadAddress := ((lastArg opts .addr).map fun a => UInt32.ofInt (atoi a)).getD o.ddrLoadAddress
    enteryPoint := ((lastArg opts .entry).map fun a => UInt32.ofInt (atoi a)).getD o.enteryPoint
    sizeOfOsImage := ((lastArg opts .size).map fun a => UInt32.ofInt (atoi a)).getD o.sizeOfOsImage
    attrib := ((lastArg opts .attrib).map fun a => UInt8.ofInt (atoi a)).getD o.attrib }

/-- 最後の指定が残る。列の末尾についての帰納法で、末尾の選択肢の欄で場合を分ける。 -/
theorem foldl_apply (opts : List (Field × String)) (o : OSII) :
    opts.foldl (fun o p => p.1.apply p.2 o) o = lastVals opts o := by
  induction opts using List.reverseRecOn with
  | nil => simp [lastVals]
  | append_singleton ps p ih =>
    rw [List.foldl_append, ih]
    obtain ⟨f, a⟩ := p
    cases f <;> simp [lastVals, lastArg_append_singleton, Field.apply]

/-! ## `update_handle` での重ね合わせ -/

theorem pick_getD {α : Type} [DecidableEq α] (conv : Int → α) (allOnes old : α) (arg : Option String) :
    pick ((arg.map fun a => conv (atoi a)).getD allOnes) old allOnes = given conv allOnes arg old := by
  cases arg with
  | none => simp [pick, given]
  | some a => simp [pick, given]

/-- 全ビットが 1 の `osii` に列を畳み込み、元の記述子に重ねると、仕様の記述子になる。 -/
theorem mergeOsii_fields (opts : List (Field × String)) (old : OSII) :
    mergeOsii (opts.foldl (fun o p => p.1.apply p.2 o) Vars.init.osii) old = fieldSpec opts old := by
  rw [foldl_apply, init_osii]
  simp only [mergeOsii, lastVals, fieldSpec, pick_getD]

end Kboot.Osip.UpdateOsip
