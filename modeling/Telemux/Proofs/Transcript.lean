import Mathlib.Data.List.Induction

namespace Telemux

variable {σ ι ω : Type}

/-- Where a machine stands that was asked some things one after the other. -/
def reached (act : σ → ι → σ × ω) (s : σ) (asked : List ι) : σ :=
  asked.foldl (fun s x => (act s x).1) s

/-- What a machine was asked, each with its answer. -/
def transcript (act : σ → ι → σ × ω) (s : σ) : List ι → List (ι × ω)
  | [] => []
  | x :: rest => (x, (act s x).2) :: transcript act (act s x).1 rest

variable {act : σ → ι → σ × ω} {s : σ}

theorem reached_append (asked more : List ι) :
    reached act s (asked ++ more) = reached act (reached act s asked) more :=
  List.foldl_append

theorem transcript_append (asked more : List ι) : transcript act s (asked ++ more) =
    transcript act s asked ++ transcript act (reached act s asked) more := by
  induction asked generalizing s with
  | nil => rfl
  | cons x rest ih =>
    rw [List.cons_append, transcript, ih]
    rfl

theorem map_fst_transcript (act : σ → ι → σ × ω) (s : σ) (asked : List ι) :
    (transcript act s asked).map Prod.fst = asked := by
  induction asked generalizing s with
  | nil => rfl
  | cons x rest ih => exact congrArg (x :: ·) (ih _)

theorem filterMap_concat {α β : Type} (f : α → Option β) (xs : List α) (x : α) :
    (xs ++ [x]).filterMap f = xs.filterMap f ++ (f x).toList := by
  rw [List.filterMap_append]
  cases h : f x <;> simp [h]

/-- What holds at the start and is kept by each answer holds after every run. -/
theorem reached_induction {P : List (ι × ω) → σ → Prop} (start : P [] s)
    (keeps : ∀ past t x, P past t → P (past ++ [(x, (act t x).2)]) (act t x).1) (asked : List ι) :
    P (transcript act s asked) (reached act s asked) := by
  induction asked using List.reverseRecOn with
  | nil => exact start
  | append_singleton asked x ih =>
    rw [transcript_append, reached_append]
    exact keeps _ _ x ih

end Telemux
