import Mathlib

/-!
# 出来事の記録に足すだけの計算

`StateM (List ε)` の計算のうち、記録の後ろに出来事を足すだけのもの。`AppendsIn S p` は、どの記録から
始めても `p` が記録の後ろに列を足すだけで、足した出来事がどれも `S` を満たすこと。足す列が決まった計算、
出来事を一つ足す `modify`、`bind` の規則で、部分の性質を組み立てた計算へ運ぶ。この節はどのプログラムの名前も使わない。
-/

namespace EventLog

variable {ε α β : Type} {S : ε → Prop}

/-- `p` は記録の後ろに `S` を満たす出来事だけを足す。 -/
def AppendsIn (S : ε → Prop) (p : StateM (List ε) α) : Prop :=
  ∀ log, ∃ es a, p.run log = pure (a, log ++ es) ∧ ∀ e ∈ es, S e

/-- 足す列が記録によらずに決まっていれば、その列を調べればよい。 -/
theorem appendsIn_of_run {p : StateM (List ε) α} {a : α} {es : List ε}
    (hrun : ∀ log, p.run log = pure (a, log ++ es)) (hes : ∀ e ∈ es, S e) : AppendsIn S p :=
  fun log => ⟨es, a, hrun log, hes⟩

theorem appendsIn_append {e : ε} (he : S e) : AppendsIn S (modify (· ++ [e]) : StateM (List ε) Unit) :=
  fun _ => ⟨[e], (), rfl, by simpa using he⟩

theorem AppendsIn.bind {p : StateM (List ε) α} {f : α → StateM (List ε) β} (hp : AppendsIn S p)
    (hf : ∀ a, AppendsIn S (f a)) : AppendsIn S (p >>= f) := by
  intro log
  obtain ⟨es, a, hrun, hes⟩ := hp log
  obtain ⟨fs, b, hrun', hfs⟩ := hf a (log ++ es)
  refine ⟨es ++ fs, b, ?_, fun e he => ?_⟩
  · rw [StateT.run_bind, hrun]
    simpa using hrun'
  · rcases List.mem_append.mp he with h | h
    · exact hes e h
    · exact hfs e h

end EventLog
