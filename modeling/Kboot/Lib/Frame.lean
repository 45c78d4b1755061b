import Mathlib

/-!
# 状態の一部を変えない計算

`EStateM ε σ` の計算が、止まっても止まらなくても状態の `f` を変えないこと。止まらずに返す値の性質 `Q`
も一緒に運ぶ。`pure`、`throw`、`get`、`modify`、`if`、`bind`、`foldlM`、`forM` の規則で、部分の性質を組み立てた
計算へ運ぶ。この節はどのプログラムの名前も使わない。
-/

namespace Frame

open EStateM

variable {ε σ α β γ δ : Type}

/-- 計算が終わったときの状態。止まったときも状態は残る。 -/
def resultState : Result ε σ α → σ
  | .ok _ s => s
  | .error _ s => s

@[simp] theorem resultState_ok (a : α) (s : σ) : resultState (Result.ok a s : Result ε σ α) = s := rfl

@[simp] theorem resultState_error (e : ε) (s : σ) : resultState (Result.error e s : Result ε σ α) = s := rfl

/-- `p` は、止まっても止まらなくても状態の `f` を変えず、止まらずに返す値は `Q` を満たす。 -/
def Keeps (f : σ → γ) (Q : α → Prop) (p : EStateM ε σ α) : Prop :=
  ∀ s, f (resultState (p.run s)) = f s ∧ ∀ a s', p.run s = .ok a s' → Q a

variable {f : σ → γ} {P : α → Prop} {Q : β → Prop}

theorem keeps_pure {a : α} (h : P a) : Keeps f P (pure a : EStateM ε σ α) :=
  fun s => ⟨rfl, fun _ _ he => by cases he; exact h⟩

theorem keeps_throw (e : ε) : Keeps f P (throw e : EStateM ε σ α) :=
  fun _ => ⟨rfl, fun _ _ he => by cases he⟩

theorem keeps_get : Keeps f (fun _ => True) (get : EStateM ε σ σ) :=
  fun _ => ⟨rfl, fun _ _ _ => trivial⟩

theorem keeps_modifyGet {g : σ → α × σ} (hg : ∀ s, f (g s).2 = f s) :
    Keeps f (fun _ => True) (modifyGet g : EStateM ε σ α) :=
  fun s => ⟨hg s, fun _ _ _ => trivial⟩

theorem keeps_modify {g : σ → σ} (hg : ∀ s, f (g s) = f s) : Keeps f (fun _ => True) (modify g : EStateM ε σ PUnit) :=
  fun s => ⟨hg s, fun _ _ _ => trivial⟩

/-- 二つの枝がどちらも `f` を変えなければ、`if` も変えない。 -/
theorem keeps_ite {c : Prop} [Decidable c] {p q : EStateM ε σ α} (hp : Keeps f P p) (hq : Keeps f P q) :
    Keeps f P (if c then p else q) := by
  split
  · exact hp
  · exact hq

/-- 前の計算の値が `P` を満たすときに後の計算が `f` を変えなければ、続けても `f` は変わらない。 -/
theorem Keeps.bind {p : EStateM ε σ α} {q : α → EStateM ε σ β} (hp : Keeps f P p)
    (hq : ∀ a, P a → Keeps f Q (q a)) : Keeps f Q (p >>= q) := by
  intro s
  rw [run_bind]
  cases hr : p.run s with
  | ok a s₁ =>
    have ha := (hp s).2 a s₁ hr
    have hs₁ : f s₁ = f s := by simpa [hr] using (hp s).1
    exact ⟨((hq a ha) s₁).1.trans hs₁, fun b s' he => ((hq a ha) s₁).2 b s' he⟩
  | error e s₁ =>
    have hs₁ : f s₁ = f s := by simpa [hr] using (hp s).1
    exact ⟨hs₁, fun _ _ he => by cases he⟩

/-- 止まる計算のあとは走らない。 -/
theorem keeps_throw_bind (e : ε) (q : α → EStateM ε σ β) : Keeps f Q (throw e >>= q) :=
  (keeps_throw (P := fun _ => False) e).bind fun _ h => h.elim

/-- `f` が等しい二つの状態で `g` も等しければ、`f` を変えない計算は `g` も変えない。 -/
theorem Keeps.weaken {p : EStateM ε σ α} {g : σ → δ} (hp : Keeps f P p) (hfg : ∀ s t, f s = f t → g s = g t) :
    Keeps g P p :=
  fun s => ⟨hfg _ _ (hp s).1, (hp s).2⟩

/-- 状態の全体を変えなければ、どの一部も変えない。 -/
theorem Keeps.of_id {p : EStateM ε σ α} (hp : Keeps id P p) (g : σ → δ) : Keeps g P p :=
  hp.weaken fun _ _ h => congrArg g h

/-- 繰り返しの各段が不変条件 `I` を保ち `f` を変えなければ、`foldlM` 全体もそう。 -/
theorem keeps_foldlM {I : β → Prop} {g : β → α → EStateM ε σ β} :
    ∀ {l : List α} {b : β}, (∀ b, I b → ∀ a ∈ l, Keeps f I (g b a)) → I b → Keeps f I (l.foldlM g b)
  | [], _, _, hb => keeps_pure hb
  | a :: l, b, hg, hb => by
    rw [List.foldlM_cons]
    exact (hg b hb a (by simp)).bind fun c hc =>
      keeps_foldlM (fun d hd x hx => hg d hd x (List.mem_cons_of_mem a hx)) hc

theorem keeps_forM {g : α → EStateM ε σ PUnit} :
    ∀ {l : List α}, (∀ a ∈ l, Keeps f (fun _ => True) (g a)) → Keeps f (fun _ => True) (l.forM g)
  | [], _ => keeps_pure trivial
  | a :: l, hg => by
    rw [List.forM]
    exact (hg a (by simp)).bind fun _ _ => keeps_forM fun x hx => hg x (List.mem_cons_of_mem a hx)

end Frame
