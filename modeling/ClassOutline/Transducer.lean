/-
  Transducer.lean --- machines that turn one list into another, item by item.

  A transducer reads its input from left to right, may answer each item with any
  number of output items, and may answer the end of the input with some more.
  `run` is the loop that is executed, with constant stack; `emit` is the same
  function by recursion on the input, and `run_eq_emit` identifies the two.
-/
set_option autoImplicit false

namespace ClassOutline

/-- A machine with states `σ` that reads items `α` and writes items `β`. -/
structure Transducer (σ α β : Type) where
  /-- The state before any input. -/
  start : σ
  /-- What an input item writes in a state, and the state after it. -/
  step : σ → α → List β × σ
  /-- What the end of the input writes. -/
  finish : σ → List β

namespace Transducer

variable {σ α β : Type}

/-- The state and the output so far, after one more input item. -/
def advance (m : Transducer σ α β) (now : σ × Array β) (a : α) : σ × Array β :=
  match now with
  | (s, out) =>
    match m.step s a with
    | (written, next) => (next, out.appendList written)

/-- The whole output for an input. -/
def run (m : Transducer σ α β) (input : List α) : List β :=
  match input.foldl m.advance (m.start, #[]) with
  | (s, out) => (out.appendList (m.finish s)).toList

/-! ## The same by recursion on the input -/

/-- The output for the rest of an input that is met in state `s`. -/
def emit (m : Transducer σ α β) : σ → List α → List β
  | s, [] => m.finish s
  | s, a :: rest => (m.step s a).1 ++ m.emit (m.step s a).2 rest

/-- The state after an input that is met in state `s`. -/
def after (m : Transducer σ α β) : σ → List α → σ
  | s, [] => s
  | s, a :: rest => m.after (m.step s a).2 rest

/-- What an input writes that is met in state `s`, its end not counted. -/
def written (m : Transducer σ α β) : σ → List α → List β
  | _, [] => []
  | s, a :: rest => (m.step s a).1 ++ m.written (m.step s a).2 rest

theorem foldl_advance (m : Transducer σ α β) (input : List α) (s : σ) (out : Array β) :
    (input.foldl m.advance (s, out)).1 = m.after s input ∧
      (input.foldl m.advance (s, out)).2.toList = out.toList ++ m.written s input := by
  induction input generalizing s out with
  | nil => simp [after, written]
  | cons a rest ih =>
    have h := ih (m.step s a).2 (out.appendList (m.step s a).1)
    simpa [advance, after, written] using h

theorem emit_eq (m : Transducer σ α β) (s : σ) (input : List α) :
    m.emit s input = m.written s input ++ m.finish (m.after s input) := by
  induction input generalizing s with
  | nil => simp [emit, written, after]
  | cons a rest ih => simp [emit, written, after, ih]

theorem run_eq_emit (m : Transducer σ α β) (input : List α) :
    m.run input = m.emit m.start input := by
  obtain ⟨hs, hout⟩ := foldl_advance m input m.start #[]
  rw [emit_eq]
  simp only [run]
  rw [← hs]
  simpa using hout

/-! ## Inputs in two parts -/

theorem written_append (m : Transducer σ α β) (s : σ) (a b : List α) :
    m.written s (a ++ b) = m.written s a ++ m.written (m.after s a) b := by
  induction a generalizing s with
  | nil => simp [written, after]
  | cons x a ih => simp [written, after, ih]

theorem after_append (m : Transducer σ α β) (s : σ) (a b : List α) :
    m.after s (a ++ b) = m.after (m.after s a) b := by
  induction a generalizing s with
  | nil => simp [after]
  | cons x a ih => simp [after, ih]

theorem emit_append (m : Transducer σ α β) (s : σ) (a b : List α) :
    m.emit s (a ++ b) = m.written s a ++ m.emit (m.after s a) b := by
  rw [emit_eq, emit_eq, written_append, after_append, List.append_assoc]

end Transducer

end ClassOutline
