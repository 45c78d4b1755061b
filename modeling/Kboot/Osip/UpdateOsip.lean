import Kboot.Osip.OsipUtils

/-!
# update_osip.c と、それを呼ぶシェルスクリプト

`main` は `getopt_long` が返す選択肢の列を受け取る（`getopt_long` は libc のもので、ここでは
その結果を入力とする）。`atoi` は glibc のとおり `(int) strtol(s, NULL, 10)` で、`-m32` では `long`
も 32 ビットなので、範囲の外は端の値に飽和する。

`invalidate_osip.sh`、`flash_stitched.sh`、`restore_osip.sh` は `update_osip` を順に呼び、
終了状態を見ない。
-/

namespace Kboot.Osip.UpdateOsip

open OsipUtils

/-- `getopt_long` が返す選択肢。`help` は `-h`、`unknown` は `?`。 -/
inductive Opt where
  | backup
  | check
  | restore
  | help
  | unknown
  | invalidate (arg : String)
  | image (arg : String)
  | update (arg : String)
  | revmaj (arg : String)
  | revmin (arg : String)
  | addr (arg : String)
  | entry (arg : String)
  | lba (arg : String)
  | size (arg : String)
  | attrib (arg : String)
  deriving DecidableEq, Repr

def isSpace (c : Char) : Bool := c = ' ' || (9 ≤ c.toNat && c.toNat ≤ 13)

def atoi (s : String) : Int :=
  let cs := s.toList.dropWhile isSpace
  let (neg, ds) : Bool × List Char :=
    match cs with
    | '-' :: r => (true, r)
    | '+' :: r => (false, r)
    | r => (false, r)
  let n : Nat := (ds.takeWhile Char.isDigit).foldl (fun a c => 10 * a + (c.toNat - '0'.toNat)) 0
  let v : Int := if neg then -n else n
  max (-2 ^ 31) (min v (2 ^ 31 - 1))

/-- `main` の局所変数。 -/
structure Vars where
  updateNum : Int
  invalCnt : Nat
  invalValues : Vector Int 10
  backupFlag : Bool
  restoreFlag : Bool
  updateFlag : Bool
  invalFlag : Bool
  checkFlag : Bool
  osii : OSII
  fwBinFile : Option String

def Vars.init : Vars where
  updateNum := 0
  invalCnt := 0
  invalValues := Vector.replicate 10 0
  backupFlag := false
  restoreFlag := false
  updateFlag := false
  invalFlag := false
  checkFlag := false
  osii := OSII.ofBytes (List.replicate 24 0xFF)
  fwBinFile := none

def displayUsage {α : Type} : Proc α := throw (.exit 1)

def option (v : Vars) : Opt → Proc Vars
  | .backup => pure { v with backupFlag := true }
  | .check => pure { v with checkFlag := true }
  | .restore => pure { v with restoreFlag := true }
  | .invalidate a =>
      if h : v.invalCnt < 10 then
        pure { v with invalValues := v.invalValues.set v.invalCnt (atoi a), invalCnt := v.invalCnt + 1,
                      invalFlag := true }
      else throw (.ub .invalValues)
  | .image a => pure { v with fwBinFile := some a }
  | .update a => pure { v with updateNum := atoi a, updateFlag := true }
  | .revmaj a => pure { v with osii := { v.osii with osRevMajor := UInt16.ofInt (atoi a) } }
  | .revmin a => pure { v with osii := { v.osii with osRevMinor := UInt16.ofInt (atoi a) } }
  | .addr a => pure { v with osii := { v.osii with ddrLoadAddress := UInt32.ofInt (atoi a) } }
  | .entry a => pure { v with osii := { v.osii with enteryPoint := UInt32.ofInt (atoi a) } }
  | .lba a => pure { v with osii := { v.osii with logicalStartBlock := UInt32.ofInt (atoi a) } }
  | .size a => pure { v with osii := { v.osii with sizeOfOsImage := UInt32.ofInt (atoi a) } }
  | .attrib a => pure { v with osii := { v.osii with attrib := UInt8.ofInt (atoi a) } }
  | .help => displayUsage
  | .unknown => displayUsage

/-- `error:` の先。`exit(-1)`。 -/
def earlyTerminated {α : Type} : Proc α := throw (.exit (-1))

/-! ## `main` の後半: 旗ごとの処理

`main` は旗を `backup`、`restore`、`update`、`invalidate`、`check` の順に見る。どの処理も、失敗すると
`error:` へ飛ぶ。
-/

def backupCase (v : Vars) : Proc Unit :=
  if v.backupFlag then do
    let (r, oriOsip) ← readOSIPLoc rStart dumpOsip
    if r ≠ 0 then earlyTerminated
    if (← backupHandle oriOsip) ≠ 0 then earlyTerminated
  else pure ()

def restoreCase (v : Vars) : Proc Unit :=
  if v.restoreFlag then do
    if (← restoreHandle) ≠ 0 then earlyTerminated
  else pure ()

def updateCase (v : Vars) : Proc Unit :=
  if v.updateFlag then do
    if let some f := v.fwBinFile then
      if (← flashStitchImage f v.updateNum) ≠ 0 then earlyTerminated
    if (← updateHandle v.osii v.updateNum) ≠ 0 then earlyTerminated
  else pure ()

def invalCase (v : Vars) : Proc Unit :=
  if v.invalFlag then do
    if !v.backupFlag then earlyTerminated
    if (← invalidateHandle (v.invalValues.toList.take v.invalCnt)) ≠ 0 then earlyTerminated
  else pure ()

def checkCase (v : Vars) : Proc Unit :=
  if v.checkFlag then do
    if (← readOSIPLoc rStart dumpOsip).1 ≠ 0 then earlyTerminated
    if (← readOSIPLoc rBck dumpOsip).1 ≠ 0 then earlyTerminated
  else pure ()

def main (opts : List Opt) : Proc Unit := do
  let v ← opts.foldlM option Vars.init
  if opts = [] then displayUsage
  backupCase v
  restoreCase v
  updateCase v
  invalCase v
  checkCase v
  throw (.exit 0)

/-- 一回の `update_osip` の実行。終わり方と、終わったときの状態。 -/
def run (opts : List Opt) (s : Sys) : Halt × Sys :=
  match (main opts).run s with
  | .ok _ s' => (.exit 0, s')
  | .error h s' => (h, s')

/-- 終了状態を見ずに、コマンドを順に実行する。 -/
def runScript : List (List Opt) → Sys → Sys
  | [], s => s
  | c :: cs, s => runScript cs (run c s).2

def invalidateOsipSh : List (List Opt) := [[.backup, .invalidate "1"]]

def flashStitchedSh (image : String) : List (List Opt) := [[.update "0", .image image], [.restore]]

def restoreOsipSh : List (List Opt) := [[.restore]]

end Kboot.Osip.UpdateOsip
