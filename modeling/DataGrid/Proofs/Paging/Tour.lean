import DataGrid.Proofs.Paging.Position
import DataGrid.Proofs.Sort.Stable

/-!
# Touring the pages of a result

A reader goes from page to page of one result, in any order, and leaves anchors behind as it goes
on from a page it has read. Every anchor is the last entry of its page, which is what the moves
keep. Main statement: whatever anchors there are, a page is read as if it were cut out of the
sorted result by its position alone.
-/

namespace DataGrid

open DataGrid.Sort

/-- The entries at the positions from `n * s` to `(n + 1) * s`, as far as there are so many. -/
def plainPage (s n : Nat) (l : List Entry) : List Entry :=
  l.extract (n * s) (min ((n + 1) * s) l.length)

/-- The anchor is the last entry of its page. -/
def Anchor.Ends (s : Nat) (l : List Entry) (a : Anchor) : Prop :=
  ∃ q, a.page * s ≤ q ∧ q + 1 = min ((a.page + 1) * s) l.length ∧ l[q]? = some a.entry

namespace Paging

/-- A move of a reader between pages. -/
inductive Move where
  | goTo (page : Nat)
  | back
  /-- Reads the page, and stays there. -/
  | read
  /-- Reads the page, anchors it and goes on to the next one. -/
  | readOn

/-- What is read on the way, each page with its number. Nobody gets any further than to a page that
cannot be read. -/
def reads? (es : List Entry) : Paging → List Move → Option (List (Nat × List Entry))
  | _, [] => some []
  | p, .goTo n :: ms => reads? es (p.withPage n) ms
  | p, .back :: ms => reads? es p.previousPage ms
  | p, .read :: ms => do
    let page ← p.pageOf? es
    return (p.page, page) :: (← reads? es p ms)
  | p, .readOn :: ms => do
    let page ← p.pageOf? es
    return (p.page, page) :: (← reads? es (p.nextPage page) ms)

/-- A paging of the sorted result `l` whose anchors all end their pages. -/
structure Anchored (o : EntryOrder) (s : Nat) (l : List Entry) (p : Paging) : Prop where
  order : p.order = o
  size : p.size = s
  ends : ∀ a ∈ p.anchors, a.Ends s l

variable {o : EntryOrder} {s : Nat} {l : List Entry} {p : Paging}

/-! ## Reading a page -/

theorem nearestAnchor?_spec {a : Anchor} (h : p.nearestAnchor? = some a) :
    a ∈ p.anchors ∧ a.page < p.page := by
  unfold nearestAnchor? at h
  exact ⟨by simpa using List.mem_of_find?_eq_some h, by simpa using List.find?_some h⟩

/-- Whole pages behind the end of an anchored page begin where they do without the anchor, or both
ways behind the end of the result. -/
theorem saturating_start {n k m : Nat} (hn : n ≤ maxPosition) (hkm : k < m) :
    saturatingAdd (min ((k + 1) * s) n) (saturatingMul (m - k - 1) s) = m * s ∨
      n ≤ saturatingAdd (min ((k + 1) * s) n) (saturatingMul (m - k - 1) s) ∧ n ≤ m * s := by
  have split : m * s = (k + 1) * s + (m - k - 1) * s := by
    rw [← Nat.add_mul]
    congr 1
    omega
  unfold saturatingAdd saturatingMul
  generalize (k + 1) * s = x at *
  generalize (m - k - 1) * s = y at *
  omega

/-- Where reading resumes behind every anchored page, if it does. -/
def ResumesAt (o : EntryOrder) (s : Nat) (l : List Entry) (p : Paging) : Prop :=
  ∀ a ∈ p.anchors, positionAfter o l.toArray a = min ((a.page + 1) * s) l.length

theorem pageStart_eq (order : p.order = o) (size : p.size = s) (hp : p.ResumesAt o s l)
    (hn : l.length ≤ maxPosition) :
    p.pageStart l.toArray = p.page * s ∨
      l.length ≤ p.pageStart l.toArray ∧ l.length ≤ p.page * s := by
  unfold pageStart
  cases near : p.nearestAnchor? with
  | none =>
    simp only [size, saturatingAdd, saturatingMul]
    omega
  | some a =>
    obtain ⟨mem, lt⟩ := nearestAnchor?_spec near
    simp only [size, order, hp a mem]
    exact saturating_start hn lt

/-- If reading resumes behind the anchored pages, a page is cut out of the result by its position. -/
theorem pageOfSorted_eq (order : p.order = o) (size : p.size = s) (hp : p.ResumesAt o s l)
    (hn : l.length ≤ maxPosition) : p.pageOfSorted l = plainPage s p.page l := by
  unfold pageOfSorted plainPage
  rw [List.extract_eq_take_drop]
  rcases pageStart_eq order size hp hn with e | ⟨past, past'⟩
  · have stop : min (saturatingAdd (p.page * s) s) l.length = min ((p.page + 1) * s) l.length := by
      rw [Nat.add_one_mul, saturatingAdd]
      omega
    simp only [e, size, stop]
  · simp [List.drop_eq_nil_of_le past, List.drop_eq_nil_of_le past']

theorem positionAfter_of_ends {a : Anchor} (ha : a.Ends s l) (ho : TotalPreorder o.compare l)
    (hl : l.Pairwise fun a b => o.compare a b ≠ .gt) (hk : (l.map (·.key)).Nodup) :
    positionAfter o l.toArray a = min ((a.page + 1) * s) l.length := by
  obtain ⟨q, -, hq, entry⟩ := ha
  obtain ⟨inside, entry⟩ := List.getElem?_eq_some_iff.1 entry
  rw [positionAfter_eq ho hl hk inside entry, hq]

theorem Anchored.resumesAt (hp : p.Anchored o s l) (ho : TotalPreorder o.compare l)
    (hl : l.Pairwise fun a b => o.compare a b ≠ .gt) (hk : (l.map (·.key)).Nodup) :
    p.ResumesAt o s l :=
  fun a ha => positionAfter_of_ends (hp.ends a ha) ho hl hk

/-! ## Going on -/

theorem getLast?_plainPage {n : Nat} {e : Entry} (h : (plainPage s n l).getLast? = some e) :
    Anchor.Ends s l ⟨n, e⟩ := by
  unfold plainPage at h
  rw [List.extract_eq_take_drop, List.getLast?_eq_getElem?, List.getElem?_take] at h
  split at h
  · next lt =>
    simp only [List.length_take, List.length_drop] at h lt
    rw [List.getElem?_drop] at h
    refine ⟨_, ?_, ?_, h⟩
    · exact Nat.le_add_right _ _
    · dsimp only
      omega
  · exact absurd h (by simp)

theorem Anchored.recordAnchor (hp : p.Anchored o s l) {n : Nat} {e : Entry}
    (he : Anchor.Ends s l ⟨n, e⟩) : (p.recordAnchor n e).Anchored o s l := by
  have kept : (p.recordAnchor n e).order = p.order ∧ (p.recordAnchor n e).size = p.size := by
    unfold Paging.recordAnchor recordAnchor?
    split <;> exact ⟨rfl, rfl⟩
  refine ⟨kept.1.trans hp.order, kept.2.trans hp.size, fun a ha => ?_⟩
  rw [recordAnchor_anchors] at ha
  split at ha
  · rcases List.mem_append.1 ha with ha | ha
    · exact hp.ends a ha
    · rw [List.mem_singleton.1 ha]
      exact he
  · exact hp.ends a ha

theorem Anchored.withPage (hp : p.Anchored o s l) (n : Nat) : (p.withPage n).Anchored o s l :=
  ⟨hp.order, hp.size, hp.ends⟩

theorem Anchored.nextPage (hp : p.Anchored o s l) :
    (p.nextPage (plainPage s p.page l)).Anchored o s l := by
  unfold Paging.nextPage
  dsimp only
  split
  · next e h => exact (hp.recordAnchor (getLast?_plainPage h)).withPage _
  · exact hp.withPage _

/-! ## The tour -/

section Tour

variable {es : List Entry}

theorem Anchored.pageOf?_eq (hp : p.Anchored o s l) (sorted : o.sort? es = some l)
    (ho : TotalPreorder o.compare es) (hk : (es.map (·.key)).Nodup) (hn : es.length ≤ maxPosition) :
    p.pageOf? es = some (plainPage s p.page l) := by
  have perm := EntryOrder.sort?_perm sorted
  unfold pageOf?
  rw [hp.order, sorted]
  have resumes := hp.resumesAt (ho.mono perm.subset) (pairwise_stableSort? ho sorted)
    ((perm.map _).nodup_iff.2 hk)
  exact congrArg some (pageOfSorted_eq hp.order hp.size resumes (perm.length_eq ▸ hn))

/-- No move leaves an anchor that does not end its page, so that all pages can be read. -/
theorem Anchored.reads? (hp : p.Anchored o s l) (sorted : o.sort? es = some l)
    (ho : TotalPreorder o.compare es) (hk : (es.map (·.key)).Nodup) (hn : es.length ≤ maxPosition)
    (ms : List Move) :
    ∃ read, reads? es p ms = some read ∧ ∀ r ∈ read, r.2 = plainPage s r.1 l := by
  induction ms generalizing p with
  | nil => exact ⟨[], rfl, by simp⟩
  | cons m ms ih =>
    have here : p.pageOf? es = some (plainPage s p.page l) := hp.pageOf?_eq sorted ho hk hn
    cases m with
    | goTo n => exact ih (hp.withPage n)
    | back => exact ih (hp.withPage _)
    | read =>
      obtain ⟨read, later, pages⟩ := ih hp
      refine ⟨(p.page, plainPage s p.page l) :: read, ?_, List.forall_mem_cons.2 ⟨rfl, pages⟩⟩
      simp [Paging.reads?, here, later]
    | readOn =>
      obtain ⟨read, later, pages⟩ := ih hp.nextPage
      refine ⟨(p.page, plainPage s p.page l) :: read, ?_, List.forall_mem_cons.2 ⟨rfl, pages⟩⟩
      simp [Paging.reads?, here, later]

/-- Every page that a tour comes to is read, and consists of the entries at its own positions of the
stably sorted result. A result is held in memory, so its length is a position. -/
theorem reads_eq_plainPage (o : EntryOrder) (s : Nat) (es : List Entry) (ms : List Move)
    (hs : 1 ≤ s) (hk : (es.map (·.key)).Nodup) (hn : es.length ≤ maxPosition)
    (ho : TotalPreorder o.compare es) :
    ∃ p read, ofSize s = .ok p ∧ reads? es (p.withOrder o) ms = some read ∧
      ∀ r ∈ read, r.2 = plainPage s r.1 (es.mergeSort fun a b => o.compare a b != .gt) := by
  have start : ofSize s = .ok ⟨s, 0, .byValue, [], hs⟩ := by
    simp [ofSize, Nat.lt_of_lt_of_le Nat.zero_lt_one hs]
    rfl
  have anchored : Anchored o s (es.mergeSort fun a b => o.compare a b != .gt)
      (withOrder ⟨s, 0, .byValue, [], hs⟩ o) :=
    ⟨rfl, rfl, fun a ha => absurd ha List.not_mem_nil⟩
  obtain ⟨read, all, pages⟩ := anchored.reads? (stableSort?_eq_mergeSort ho) ho hk hn ms
  exact ⟨_, read, start, all, pages⟩

/-- Two runs of equal entries, of which one goes over the end of a page; the reader jumps ahead,
returns past an anchor and goes on behind the end. -/
theorem reads_eq_plainPage_flags :
    let es : List Entry := [⟨"e", .bool true⟩, ⟨"d", .bool false⟩, ⟨"c", .bool true⟩,
      ⟨"b", .bool false⟩, ⟨"a", .bool true⟩]
    let ms : List Move := [.readOn, .goTo 2, .readOn, .readOn, .goTo 1, .readOn, .back, .read]
    1 ≤ 2 ∧ (es.map (·.key)).Nodup ∧ es.length ≤ maxPosition ∧
      TotalPreorder EntryOrder.byValue.compare es ∧
      ∃ p read, ofSize 2 = .ok p ∧ reads? es (p.withOrder .byValue) ms = some read ∧
        ∀ r ∈ read,
          r.2 = plainPage 2 r.1 (es.mergeSort fun a b => EntryOrder.byValue.compare a b != .gt) := by
  intro es ms
  have hk : (es.map (·.key)).Nodup := by decide
  have hn : es.length ≤ maxPosition := by decide
  have ho : TotalPreorder EntryOrder.byValue.compare es := ⟨by decide, by decide⟩
  exact ⟨by decide, hk, hn, ho, reads_eq_plainPage .byValue 2 es ms (by decide) hk hn ho⟩

end Tour

end Paging

end DataGrid
