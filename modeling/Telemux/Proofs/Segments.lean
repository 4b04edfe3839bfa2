import Telemux.Url.Path

namespace Telemux

variable {c : Char} {cs s last : List Char} {front rest done segments : List (List Char)}

theorem toNat_lt (c : Char) : c.toNat < 0x110000 := by
  rcases c.valid with low | ⟨-, high⟩
  · exact Nat.lt_trans low (by decide)
  · exact high

theorem utf8Bytes_lt {b : Nat} (h : b ∈ utf8Bytes c) : b < 0x100 := by
  have limit := toNat_lt c
  unfold utf8Bytes at h
  grind

/-- A text in which nothing has to be encoded in a path. -/
def Plain (s : List Char) : Prop :=
  ∀ c ∈ s, mustEncode .path c = false

instance (s : List Char) : Decidable (Plain s) :=
  List.decidableBAll _ s

theorem percentEncode_of_plain (h : Plain cs) : percentEncode .path cs = cs := by
  induction cs with
  | nil => rfl
  | cons c cs ih =>
    obtain ⟨plain, h⟩ := List.forall_mem_cons.mp h
    have rest : cs.flatMap (percentEncodeChar .path) = cs := ih h
    simp [percentEncode, percentEncodeChar, plain, rest]

theorem upperHexChar_plain : ∀ d < 16, mustEncode .path (upperHexChar d) = false ∧
    upperHexChar d ≠ '/' ∧ upperHexChar d ≠ '\\' := by
  decide

theorem mem_percentByte {b : Nat} (hb : b < 0x100) (h : c ∈ percentByte b) :
    mustEncode .path c = false ∧ c ≠ '/' ∧ c ≠ '\\' := by
  simp only [percentByte, List.mem_cons, List.not_mem_nil, or_false] at h
  obtain rfl | rfl | rfl := h
  · decide
  · exact upperHexChar_plain _ (by omega)
  · exact upperHexChar_plain _ (by omega)

/-- What encoding leaves does not have to be encoded again, and it makes no separators. -/
theorem mem_percentEncode (h : c ∈ percentEncode .path cs) :
    mustEncode .path c = false ∧ (c = '/' ∨ c = '\\' → c ∈ cs) := by
  obtain ⟨d, hd, h⟩ := List.mem_flatMap.mp h
  unfold percentEncodeChar at h
  split at h
  next =>
    obtain ⟨b, hb, h⟩ := List.mem_flatMap.mp h
    obtain ⟨plain, slash, backslash⟩ := mem_percentByte (utf8Bytes_lt hb) h
    exact ⟨plain, fun hc => (hc.elim slash backslash).elim⟩
  next plain =>
    obtain rfl := List.mem_singleton.mp h
    exact ⟨by simpa using plain, fun _ => hd⟩

/-- A text without separators. -/
def Whole (s : List Char) : Prop :=
  ∀ c ∈ s, c ≠ '/' ∧ c ≠ '\\'

instance (s : List Char) : Decidable (Whole s) :=
  List.decidableBAll _ s

theorem whole_nil : Whole [] :=
  nofun

theorem Whole.percentEncode (h : Whole s) : Whole (percentEncode .path s) := fun c hc =>
  ⟨fun slash => (h c ((mem_percentEncode hc).2 (.inl slash))).1 slash,
    fun backslash => (h c ((mem_percentEncode hc).2 (.inr backslash))).2 backslash⟩

/-- A segment that stands in a path as it is. -/
structure Settled (s : List Char) : Prop where
  plain : Plain s
  whole : Whole s
  notUp : isDoubleDot s = false
  notHere : isSingleDot s = false

theorem settled_nil : Settled [] :=
  ⟨nofun, whole_nil, rfl, rfl⟩

theorem Whole.settled (h : Whole s) (notUp : isDoubleDot (Telemux.percentEncode .path s) = false)
    (notHere : isSingleDot (Telemux.percentEncode .path s) = false) :
    Settled (Telemux.percentEncode .path s) :=
  ⟨fun _ hc => (mem_percentEncode hc).1, h.percentEncode, notUp, notHere⟩

theorem splitSegments_ne_nil (cs : List Char) : splitSegments cs ≠ [] := by
  cases cs with
  | nil => simp [splitSegments]
  | cons c cs =>
    unfold splitSegments
    split
    · simp
    · split <;> simp

theorem exists_split (cs : List Char) : ∃ front last, splitSegments cs = front ++ [last] := by
  obtain hn | ⟨front, last, hs⟩ := List.eq_nil_or_concat (splitSegments cs)
  · exact (splitSegments_ne_nil cs hn).elim
  · exact ⟨front, last, hs.trans List.concat_eq_append⟩

theorem last_mem_split (h : splitSegments cs = front ++ [last]) : last ∈ splitSegments cs :=
  h ▸ List.mem_append_right front List.mem_cons_self

theorem splitSegments_of_whole (h : Whole s) : splitSegments s = [s] := by
  induction s with
  | nil => rfl
  | cons c s ih =>
    obtain ⟨hc, h⟩ := List.forall_mem_cons.mp h
    simp [splitSegments, hc, ih h]

theorem splitSegments_append (cs rest : List Char) :
    splitSegments (cs ++ '/' :: rest) = splitSegments cs ++ splitSegments rest := by
  induction cs with
  | nil => simp [splitSegments]
  | cons c cs ih =>
    obtain ⟨first, others, hs⟩ := List.exists_cons_of_ne_nil (splitSegments_ne_nil cs)
    rw [List.cons_append, splitSegments, splitSegments, ih, hs]
    split <;> rfl

theorem whole_of_mem_splitSegments (h : s ∈ splitSegments cs) : Whole s := by
  induction cs generalizing s with
  | nil =>
    obtain rfl := List.mem_singleton.mp h
    exact whole_nil
  | cons c cs ih =>
    obtain ⟨first, others, hs⟩ := List.exists_cons_of_ne_nil (splitSegments_ne_nil cs)
    simp only [splitSegments, hs] at h ih
    split at h
    next =>
      obtain rfl | h := List.mem_cons.mp h
      · exact whole_nil
      · exact ih h
    next separates =>
      obtain rfl | h := List.mem_cons.mp h
      · exact List.forall_mem_cons.mpr ⟨not_or.mp separates, ih (.head _)⟩
      · exact ih (.tail _ h)

@[simp]
theorem joinSegments_append (front rest : List (List Char)) :
    joinSegments (front ++ rest) = joinSegments front ++ joinSegments rest :=
  List.flatMap_append

@[simp]
theorem joinSegments_cons (s : List Char) (rest : List (List Char)) :
    joinSegments (s :: rest) = '/' :: (s ++ joinSegments rest) :=
  rfl

@[simp]
theorem joinSegments_nil : joinSegments [] = [] :=
  rfl

theorem splitSegments_join (hs : Whole s) (h : ∀ t ∈ rest, Whole t) :
    splitSegments (s ++ joinSegments rest) = s :: rest := by
  induction rest generalizing s with
  | nil => simpa using splitSegments_of_whole hs
  | cons t rest ih =>
    obtain ⟨ht, h⟩ := List.forall_mem_cons.mp h
    rw [joinSegments_cons, splitSegments_append, splitSegments_of_whole hs, ih ht h]
    rfl

theorem mem_of_mem_goUp (h : s ∈ goUp done) : s ∈ done := by
  unfold goUp at h
  split at h
  next => exact h
  next last above =>
    split at h
    next => exact h
    next => exact .tail _ h

/-- What the last segment of a path becomes. -/
def lastSegment (s : List Char) : List Char :=
  if isDoubleDot (percentEncode .path s) || isSingleDot (percentEncode .path s) then []
  else percentEncode .path s

theorem Settled.lastSegment (h : Settled s) : lastSegment s = s := by
  simp [Telemux.lastSegment, percentEncode_of_plain h.plain, h.notUp, h.notHere]

theorem settled_lastSegment (h : Whole s) : Settled (lastSegment s) := by
  unfold lastSegment
  split
  next => exact settled_nil
  next steady =>
    simp only [Bool.or_eq_true, not_or, Bool.not_eq_true] at steady
    exact h.settled steady.1 steady.2

/-- What a segment that is not the last does to the directories, listed from the last to the first. -/
def enterSegment (done : List (List Char)) (s : List Char) : List (List Char) :=
  if isDoubleDot (percentEncode .path s) then goUp done
  else if isSingleDot (percentEncode .path s) then done
  else percentEncode .path s :: done

/-- The directories that the last segment leaves. -/
def aboveLast (done : List (List Char)) (s : List Char) : List (List Char) :=
  if isDoubleDot (percentEncode .path s) then goUp done else done

theorem resolveSegments_concat (done front : List (List Char)) (last : List Char) :
    resolveSegments done (front ++ [last]) =
      (aboveLast (front.foldl enterSegment done) last).reverse ++ [lastSegment last] := by
  induction front generalizing done with
  | nil =>
    simp only [List.nil_append, resolveSegments, aboveLast, lastSegment, List.foldl_nil]
    grind
  | cons s front ih =>
    obtain ⟨t, rest, hr⟩ := List.exists_cons_of_ne_nil (List.append_ne_nil_of_right_ne_nil front
      (List.cons_ne_nil last []))
    rw [hr] at ih
    simp only [List.cons_append, hr, resolveSegments, ih, List.foldl_cons, enterSegment]
    split
    · rfl
    · split <;> rfl

theorem Settled.enterSegment (h : Settled s) (done : List (List Char)) : enterSegment done s = s :: done := by
  simp [Telemux.enterSegment, percentEncode_of_plain h.plain, h.notUp, h.notHere]

theorem foldl_enterSegment (h : ∀ s ∈ front, Settled s) (done : List (List Char)) :
    front.foldl enterSegment done = front.reverse ++ done := by
  induction front generalizing done with
  | nil => rfl
  | cons s front ih =>
    obtain ⟨hs, h⟩ := List.forall_mem_cons.mp h
    simp [hs.enterSegment, ih h]

theorem settled_enterSegment (hs : Whole s) (hd : ∀ t ∈ done, Settled t) :
    ∀ t ∈ enterSegment done s, Settled t := by
  unfold enterSegment
  split
  next => exact fun t ht => hd t (mem_of_mem_goUp ht)
  next notUp =>
    split
    next => exact hd
    next notHere =>
      exact List.forall_mem_cons.mpr
        ⟨hs.settled (Bool.eq_false_iff.mpr notUp) (Bool.eq_false_iff.mpr notHere), hd⟩

theorem settled_foldl_enterSegment (hf : ∀ s ∈ front, Whole s) (hd : ∀ t ∈ done, Settled t) :
    ∀ t ∈ front.foldl enterSegment done, Settled t := by
  induction front generalizing done with
  | nil => exact hd
  | cons s front ih =>
    obtain ⟨hs, hf⟩ := List.forall_mem_cons.mp hf
    exact ih hf (settled_enterSegment hs hd)

theorem settled_resolveSegments (hs : ∀ s ∈ segments, Whole s) (hd : ∀ t ∈ done, Settled t) :
    ∀ t ∈ resolveSegments done segments, Settled t := by
  obtain rfl | ⟨front, last, rfl⟩ := List.eq_nil_or_concat segments
  · simpa [resolveSegments] using hd
  · obtain ⟨hf, hl⟩ := List.forall_mem_append.mp (List.concat_eq_append ▸ hs)
    have entered := settled_foldl_enterSegment hf hd
    have left : ∀ t ∈ aboveLast (front.foldl enterSegment done) last, Settled t := by
      unfold aboveLast
      split
      next => exact fun t ht => entered t (mem_of_mem_goUp ht)
      next => exact entered
    intro t ht
    rw [List.concat_eq_append, resolveSegments_concat, List.mem_append, List.mem_reverse,
      List.mem_singleton] at ht
    obtain ht | rfl := ht
    · exact left t ht
    · exact settled_lastSegment (hl _ List.mem_cons_self)

/-- Directories that are settled already stand as they are in front of what is resolved behind them. -/
theorem resolvePath_join (h : ∀ s ∈ front, Settled s) (cs : List Char) :
    resolvePath (joinSegments front ++ '/' :: cs) =
      joinSegments (resolveSegments front.reverse (splitSegments cs)) := by
  have resolved : resolveSegments [] (front ++ splitSegments cs) =
      resolveSegments front.reverse (splitSegments cs) := by
    obtain ⟨segments, last, hs⟩ := exists_split cs
    rw [hs, ← List.append_assoc, resolveSegments_concat, resolveSegments_concat, List.foldl_append,
      foldl_enterSegment h, List.append_nil]
  rw [← resolved]
  cases front with
  | nil => rfl
  | cons s front =>
    obtain ⟨hs, h⟩ := List.forall_mem_cons.mp h
    change joinSegments (resolveSegments [] (splitSegments (s ++ joinSegments front ++ '/' :: cs))) = _
    rw [splitSegments_append, splitSegments_join hs.whole fun t ht => (h t ht).whole]

/-- A path with nothing left to resolve. -/
def IsPath (path : List Char) : Prop :=
  ∃ front last, (∀ s ∈ front, Settled s) ∧ Settled last ∧ path = joinSegments (front ++ [last])

theorem isPath_resolvePath (raw : List Char) : IsPath (resolvePath raw) := by
  have resolved (cs : List Char) : IsPath (joinSegments (resolveSegments [] (splitSegments cs))) := by
    have settled : ∀ t ∈ resolveSegments [] (splitSegments cs), Settled t :=
      settled_resolveSegments (fun s => whole_of_mem_splitSegments) nofun
    obtain ⟨segments, last, hs⟩ := exists_split cs
    rw [hs, resolveSegments_concat] at settled ⊢
    obtain ⟨hf, hl⟩ := List.forall_mem_append.mp settled
    exact ⟨_, _, hf, hl _ List.mem_cons_self, rfl⟩
  unfold resolvePath
  split <;> exact resolved _

end Telemux
