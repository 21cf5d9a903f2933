import DataGrid.Number.Power
import DataGrid.Sort.Small

/-!
# Runs

A list is cut into runs, which are merged in pairs. Where the list itself rises or strictly falls
for long enough, that is a run in order; the rest is cut into runs of a fixed length, which are
either sorted before the merging begins or left until they are needed. Neighbours that both wait
to be sorted stay together, and are sorted as one. A sort of a run may fail, and everything fails
with it.
-/

namespace DataGrid.Sort

variable {α : Type u}

/-- Consecutive elements, and whether they are in order. -/
structure Run (α : Type u) where
  items : List α
  sorted : Bool

namespace Run

/-- The elements in order; `sort` is for those that wait to be sorted. -/
def settle? (sort : List α → Option (List α)) (r : Run α) : Option (List α) :=
  if r.sorted then some r.items else sort r.items

/-- One run of two neighbours. -/
def join? (less : α → α → Bool) (sort : List α → Option (List α)) (l r : Run α) : Option (Run α) :=
  if l.sorted || r.sorted then do
    return ⟨merge less (← l.settle? sort) (← r.settle? sort), true⟩
  else some ⟨l.items ++ r.items, false⟩

end Run

/-! ## Cutting -/

/-- How many elements continue from `x` downwards, or else without going down, added to `n`. -/
def stepsFrom (less : α → α → Bool) (down : Bool) (x : α) (n : Nat) : List α → Nat
  | [] => n
  | y :: r => if less y x == down then stepsFrom less down y (n + 1) r else n

/-- The length of the run a list begins with, and whether it goes down. -/
def firstRun (less : α → α → Bool) : List α → Nat × Bool
  | x :: y :: r => (stepsFrom less (less y x) y 2 r, less y x)
  | l => (l.length, false)

/-- The square root of a number, roughly. -/
def roughRoot (n : Nat) : Nat :=
  let k := (n.log2 + 1) / 2
  (2 ^ k + n / 2 ^ k) / 2

/-- How long a run in order has to be that is kept as it is, in a list of length `n`. -/
def goodLength (n : Nat) : Nat := if n ≤ 64 * 64 then min (n - n / 2) 64 else roughRoot n

/-- Cuts off the first run of a list of length `n`. A run that is not kept as it is has `chunk`
elements. -/
def cutRun (less : α → α → Bool) (good chunk n : Nat) (l : List α) : Run α × List α :=
  let (k, down) := if good ≤ n then firstRun less l else (0, false)
  if 0 < k ∧ good ≤ k then
    let items := l.take k
    (⟨if down then items.reverse else items, true⟩, l.drop k)
  else (⟨l.take chunk, false⟩, l.drop chunk)

/-- All runs of a list of length `n`, of which none is empty, so that `n` steps are enough. -/
def cutRuns (less : α → α → Bool) (good chunk : Nat) : Nat → Nat → List α → List (Run α)
  | _, _, [] => []
  | 0, _, l => [⟨l, false⟩]
  | fuel + 1, n, l =>
    let (r, rest) := cutRun less good chunk n l
    r :: cutRuns less good chunk fuel (n - r.items.length) rest

/-! ## Merging -/

/-- How deep in the tree of all merges of a list of length `n` the neighbours `[a, b)` and `[b, c)`
should be merged: the number of bits that their centres have in common. -/
def mergeDepth (n a b c : Nat) : Nat :=
  let scale := (2 ^ 62 + n - 1) / n
  match (scale * (a + b)) ^^^ (scale * (b + c)) with
  | 0 => 64
  | d => 63 - d.log2

/-- Joins a run with those before it that are to be merged at least as deep as `depth`. The runs
before it come latest first, each with the depth of its merge with the next. -/
def collapse? (join : Run α → Run α → Option (Run α)) (depth : Nat) (r : Run α) :
    List (Run α × Nat) → Option (Run α × List (Run α × Nat))
  | [] => some (r, [])
  | (l, d) :: before =>
    if depth ≤ d then do collapse? join depth (← join l r) before
    else some (r, (l, d) :: before)

/-- Joins all runs of a list of length `n`; `r` begins at `start`. -/
def joinRuns? (join : Run α → Run α → Option (Run α)) (n start : Nat) (r : Run α)
    (before : List (Run α × Nat)) : List (Run α) → Option (Run α)
  | [] => (collapse? join 0 r before).map (·.1)
  | next :: rest => do
    let middle := start + r.items.length
    let depth := mergeDepth n start middle (middle + next.items.length)
    let (left, before) ← collapse? join depth r before
    joinRuns? join n middle next ((left, depth) :: before) rest

/-- The runs of a list. With `eager`, those that are cut are short and sorted at once. -/
def runs? (less : α → α → Bool) (eager : Bool) (sort : List α → Option (List α)) (l : List α) :
    Option (List (Run α)) :=
  let good := goodLength l.length
  let runs (chunk : Nat) := cutRuns less good chunk l.length l.length l
  if eager then (runs smallLimit).mapM fun r => (r.settle? sort).map (⟨·, true⟩)
  else some (runs good)

/-- Sorts a list by its runs; `sort` is for those that wait to be sorted. -/
def sortRuns? (less : α → α → Bool) (eager : Bool) (sort : List α → Option (List α))
    (l : List α) : Option (List α) := do
  match ← runs? less eager sort l with
  | [] => some []
  | r :: rest => (← joinRuns? (Run.join? less sort) l.length 0 r [] rest).settle? sort

/-! ## Permutations -/

/-- What comes out of a sort, if anything does, is a permutation. -/
def Permutes (sort : List α → Option (List α)) : Prop := ∀ l m, sort l = some m → m.Perm l

/-- The elements of runs in a row. -/
def itemsOf (rs : List (Run α)) : List α := rs.flatMap (·.items)

variable {less : α → α → Bool} {sort : List α → Option (List α)}

theorem Run.settle?_perm (h : Permutes sort) {r : Run α} {l : List α}
    (settled : r.settle? sort = some l) : l.Perm r.items := by
  unfold Run.settle? at settled
  split at settled
  · exact .of_eq (Option.some.inj settled).symm
  · exact h _ _ settled

theorem Run.join?_perm (h : Permutes sort) {l r s : Run α} (joined : l.join? less sort r = some s) :
    s.items.Perm (l.items ++ r.items) := by
  unfold Run.join? at joined
  split at joined
  · simp only [Option.bind_eq_bind, Option.bind_eq_some_iff] at joined
    obtain ⟨l', left, r', right, same⟩ := joined
    obtain rfl := Option.some.inj same
    exact (merge_perm less l' r').trans ((Run.settle?_perm h left).append (Run.settle?_perm h right))
  · obtain rfl := Option.some.inj joined
    exact .refl _

theorem cutRun_perm (less : α → α → Bool) (good chunk n : Nat) (l : List α) :
    ((cutRun less good chunk n l).1.items ++ (cutRun less good chunk n l).2).Perm l := by
  have cut {k : Nat} {items : List α} (h : items.Perm (l.take k)) : (items ++ l.drop k).Perm l := by
    simpa using h.append_right (l.drop k)
  unfold cutRun
  generalize (if good ≤ n then firstRun less l else (0, false)) = f
  obtain ⟨k, down⟩ := f
  dsimp only
  split
  · refine cut ?_
    cases down
    · exact .refl _
    · exact List.reverse_perm _
  · exact cut (.refl _)

theorem cutRuns_perm (less : α → α → Bool) (good chunk fuel n : Nat) (l : List α) :
    (itemsOf (cutRuns less good chunk fuel n l)).Perm l := by
  fun_induction cutRuns less good chunk fuel n l with
  | case1 => exact .refl _
  | case2 => simp [itemsOf]
  | case3 fuel n l _ r rest h ih =>
    have := cutRun_perm less good chunk n l
    rw [h] at this
    exact (ih.append_left r.items).trans this

theorem runs?_perm (h : Permutes sort) {eager : Bool} {l : List α} {rs : List (Run α)}
    (hr : runs? less eager sort l = some rs) : (itemsOf rs).Perm l := by
  have settled (cut rs : List (Run α))
      (hr : cut.mapM (fun r => (r.settle? sort).map (⟨·, true⟩)) = some rs) :
      (itemsOf rs).Perm (itemsOf cut) := by
    induction cut generalizing rs with
    | nil =>
      obtain rfl := Option.some.inj hr
      exact .refl _
    | cons r cut ih =>
      simp only [List.mapM_cons, Option.bind_eq_bind, Option.bind_eq_some_iff,
        Option.map_eq_some_iff] at hr
      obtain ⟨s, ⟨items, first, rfl⟩, ss, later, same⟩ := hr
      obtain rfl := Option.some.inj same
      exact (Run.settle?_perm h first).append (ih ss later)
  unfold runs? at hr
  dsimp only at hr
  split at hr
  · exact (settled _ _ hr).trans (cutRuns_perm ..)
  · obtain rfl := Option.some.inj hr
    exact cutRuns_perm ..

/-- The elements of the runs before one, of which the latest comes first. -/
def itemsBefore : List (Run α × Nat) → List α
  | [] => []
  | (r, _) :: before => itemsBefore before ++ r.items

section Join

variable {join : Run α → Run α → Option (Run α)}

theorem collapse?_perm (h : ∀ l r s, join l r = some s → s.items.Perm (l.items ++ r.items))
    {depth : Nat} {r : Run α} {before : List (Run α × Nat)} {c : Run α × List (Run α × Nat)}
    (hc : collapse? join depth r before = some c) :
    (itemsBefore c.2 ++ c.1.items).Perm (itemsBefore before ++ r.items) := by
  induction before generalizing r with
  | nil =>
    obtain rfl := Option.some.inj hc
    exact .refl _
  | cons p before ih =>
    obtain ⟨l, d⟩ := p
    unfold collapse? at hc
    split at hc
    · obtain ⟨s, joined, hc⟩ := Option.bind_eq_some_iff.1 hc
      refine (ih hc).trans ?_
      simpa [itemsBefore] using (h l r s joined).append_left (itemsBefore before)
    · obtain rfl := Option.some.inj hc
      exact .refl _

theorem collapse?_zero {r : Run α} {before : List (Run α × Nat)} {c : Run α × List (Run α × Nat)}
    (hc : collapse? join 0 r before = some c) : c.2 = [] := by
  induction before generalizing r with
  | nil =>
    obtain rfl := Option.some.inj hc
    rfl
  | cons p before ih =>
    rw [collapse?, if_pos (Nat.zero_le _)] at hc
    obtain ⟨s, -, hc⟩ := Option.bind_eq_some_iff.1 hc
    exact ih hc

theorem joinRuns?_perm (h : ∀ l r s, join l r = some s → s.items.Perm (l.items ++ r.items))
    {n start : Nat} {r s : Run α} {before : List (Run α × Nat)} {rest : List (Run α)}
    (hs : joinRuns? join n start r before rest = some s) :
    s.items.Perm (itemsBefore before ++ r.items ++ itemsOf rest) := by
  induction rest generalizing start r before with
  | nil =>
    obtain ⟨c, collapsed, rfl⟩ := Option.map_eq_some_iff.1 hs
    have perm := collapse?_perm h collapsed
    rw [collapse?_zero collapsed] at perm
    simpa [itemsOf, itemsBefore] using perm
  | cons next rest ih =>
    obtain ⟨c, collapsed, later⟩ := Option.bind_eq_some_iff.1 hs
    refine (ih later).trans ?_
    have perm := (collapse?_perm h collapsed).append_right (next.items ++ itemsOf rest)
    simpa [itemsBefore, itemsOf] using perm

end Join

theorem sortRuns?_perm {eager : Bool} (h : Permutes sort) :
    Permutes (sortRuns? less eager sort) := by
  intro l m hm
  obtain ⟨rs, cut, hm⟩ := Option.bind_eq_some_iff.1 hm
  have perm := runs?_perm h cut
  split at hm
  · obtain rfl := Option.some.inj hm
    exact perm
  · next r rest =>
    obtain ⟨s, joined, settled⟩ := Option.bind_eq_some_iff.1 hm
    refine (Run.settle?_perm h settled).trans ?_
    refine (joinRuns?_perm (fun _ _ _ => Run.join?_perm h) joined).trans ?_
    simpa [itemsOf, itemsBefore] using perm

end DataGrid.Sort
