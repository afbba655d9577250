/-! # Notices along a run
A run does its steps one after the other and stops at the first that fails. What is worth telling
about a step is told before it is done, so the notices of a run are those of all steps it reached. -/

namespace Swagger

universe u v w

/-- The notices of the steps that a run reaches. -/
def noticesOfRun {σ : Type u} {α : Type v} {ε : Type w} (run : σ → α → Except ε σ)
    (own : σ → α → List String) : σ → List α → List String
  | _, [] => []
  | s, a :: rest =>
    match run s a with
    | .ok s' => own s a ++ noticesOfRun run own s' rest
    | .error _ => own s a

end Swagger
