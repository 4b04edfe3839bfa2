import Telemux.Proofs.Calls
import Telemux.Proofs.Wire

namespace Telemux.Client

theorem exists_of_mapError {ε δ α : Type} {x : Except ε α} {f : ε → δ} {e : δ}
    (h : x.mapError f = .error e) : ∃ m, e = f m := by
  cases x with
  | error m =>
    cases h
    exact ⟨m, rfl⟩
  | ok a => cases h

variable {config : FrameConfig} {c : Client} {past : List Event}

theorem verdict_eq_some_iff {p : Pending Purpose} {since : List Event} {v : Verdict} :
    verdict p since = some v ↔
      ∃ newer e older, since = newer ++ e :: older ∧ settles p e = some v ∧
        ∀ e' ∈ older, settles p e' = none := by
  rw [verdict, List.findSome?_eq_some_iff]
  constructor
  · rintro ⟨xs, e, ys, hs, he, hn⟩
    refine ⟨ys.reverse, e, xs.reverse, ?_, he, by simpa using hn⟩
    simpa using congrArg List.reverse hs
  · rintro ⟨newer, e, older, rfl, he, hn⟩
    exact ⟨older.reverse, e, newer.reverse, by simp, he, by simpa using hn⟩

end Telemux.Client
