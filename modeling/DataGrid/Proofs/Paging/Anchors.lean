import DataGrid.Proofs.Paging.Client
import Mathlib.Data.List.Nodup

/-!
# How anchors are recorded and found

A paging is moved between pages, forwards and backwards, while anchors may only be appended. One
change adds no anchor or one whose page comes after all recorded pages (`change_cases`), which keeps
the pages ascending; and because they ascend, the last anchor before the current page is the one
with the largest page. Main statement: this holds after every sequence of changes, and the anchors
of a client are taken just if their pages ascend.
-/

namespace DataGrid

namespace Paging

/-- A change of a paging. -/
inductive Change where
  /-- Records an entry as the last one of a page. -/
  | record (page : Nat) (e : Entry)
  /-- Goes on to the next page from one on which the entries `read` stand. -/
  | goOn (read : List Entry)
  | goTo (page : Nat)
  | back
  | orderBy (o : EntryOrder)

def change (p : Paging) : Change → Paging
  | .record n e => p.recordAnchor n e
  | .goOn read => p.nextPage read
  | .goTo n => p.withPage n
  | .back => p.previousPage
  | .orderBy o => p.withOrder o

/-- Every anchor has a larger page than those recorded before it. -/
def Ascending (p : Paging) : Prop := (p.anchors.map (·.page)).Pairwise (· < ·)

/-- Of the anchors before the current page the one with the largest page. -/
structure IsNearest (p : Paging) (a : Anchor) : Prop where
  mem : a ∈ p.anchors
  before : a.page < p.page
  largest : ∀ b ∈ p.anchors, b.page < p.page → b.page ≤ a.page

variable {p : Paging} {a : Anchor} {n : Nat} {e : Entry}

theorem ofSize_of_pos {s : Nat} (hs : 1 ≤ s) : ofSize s = .ok ⟨s, 0, .byValue, [], hs⟩ := by
  rw [ofSize, dif_pos (Nat.lt_of_succ_le hs)]
  rfl

/-! ## Recording -/

theorem Ascending.page_le_getLast (hp : p.Ascending) {last : Anchor}
    (h : p.anchors.getLast? = some last) : ∀ a ∈ p.anchors, a.page ≤ last.page := by
  obtain ⟨front, split⟩ := List.getLast?_eq_some_iff.1 h
  intro a ha
  unfold Ascending at hp
  rw [split, List.map_append, List.pairwise_append] at hp
  rw [split, List.mem_append, List.mem_singleton] at ha
  rcases ha with ha | rfl
  · exact Nat.le_of_lt (hp.2.2 a.page (List.mem_map_of_mem ha) last.page (by simp))
  · exact Nat.le_refl _

/-- The newest anchor decides for all of them. -/
theorem Ascending.accepts_iff (hp : p.Ascending) :
    p.accepts n = true ↔ ∀ a ∈ p.anchors, a.page < n := by
  unfold accepts
  cases h : p.anchors.getLast? with
  | none => simp [List.getLast?_eq_none_iff.1 h]
  | some last =>
    have newest := hp.page_le_getLast h
    have mem := List.mem_of_getLast? h
    simp only [Option.all_some, decide_eq_true_eq]
    exact ⟨fun lt a ha => Nat.lt_of_le_of_lt (newest a ha) lt, fun all => all last mem⟩

theorem recordAnchor?_eq_none_iff : p.recordAnchor? n e = none ↔ p.accepts n = false := by
  unfold recordAnchor?
  split <;> simp_all

theorem Ascending.refused_iff (hp : p.Ascending) :
    p.recordAnchor? n e = none ↔ ∃ a ∈ p.anchors, n ≤ a.page := by
  rw [recordAnchor?_eq_none_iff, ← Bool.not_eq_true, hp.accepts_iff]
  simp

theorem change_record_of_refused (h : p.recordAnchor? n e = none) :
    p.change (.record n e) = p := by
  simp [change, recordAnchor, h]

/-! ## Changes -/

/-- A change records nothing, or one anchor behind the recorded ones. -/
theorem change_cases (p : Paging) (c : Change) :
    (p.change c).anchors = p.anchors ∨
      ∃ n e, p.accepts n = true ∧ (p.change c).anchors = p.anchors ++ [⟨n, e⟩] := by
  have record (n : Nat) (e : Entry) : (p.recordAnchor n e).anchors = p.anchors ∨
      ∃ m d, p.accepts m = true ∧ (p.recordAnchor n e).anchors = p.anchors ++ [⟨m, d⟩] := by
    cases h : p.accepts n with
    | false => exact .inl (by simp [recordAnchor_anchors, h])
    | true => exact .inr ⟨n, e, h, by simp [recordAnchor_anchors, h]⟩
  cases c with
  | record n e => exact record n e
  | goOn read =>
    simp only [change, nextPage]
    cases read.getLast? with
    | none => exact .inl rfl
    | some e => exact record p.page e
  | goTo | back | orderBy => exact .inl rfl

theorem Ascending.change (hp : p.Ascending) (c : Change) : (p.change c).Ascending := by
  unfold Ascending
  rcases change_cases p c with same | ⟨n, e, accepted, added⟩
  · rwa [same]
  · have newest := hp.accepts_iff.1 accepted
    rw [added, List.map_append, List.pairwise_append]
    exact ⟨hp, by simp, by simpa using newest⟩

theorem Ascending.run (hp : p.Ascending) (cs : List Change) :
    (cs.foldl Paging.change p).Ascending := by
  induction cs generalizing p with
  | nil => exact hp
  | cons c cs ih => exact ih (hp.change c)

theorem anchors_prefix_change (p : Paging) (c : Change) :
    p.anchors <+: (p.change c).anchors ∧
      (p.change c).anchors.length ≤ p.anchors.length + 1 := by
  rcases change_cases p c with same | ⟨n, e, -, added⟩
  · simp [same]
  · simp [added]

/-! ## Finding -/

theorem nearestAnchor?_eq_none_iff :
    p.nearestAnchor? = none ↔ ∀ a ∈ p.anchors, ¬ a.page < p.page := by
  simp [nearestAnchor?]

theorem Ascending.isNearest (hp : p.Ascending) (h : p.nearestAnchor? = some a) :
    p.IsNearest a := by
  unfold nearestAnchor? at h
  obtain ⟨before, later, earlier, split, past⟩ := List.find?_eq_some_iff_append.1 h
  have split : p.anchors = earlier.reverse ++ a :: later.reverse := by
    simpa using congrArg List.reverse split
  unfold Ascending at hp
  rw [split, List.map_append, List.map_cons, List.pairwise_append] at hp
  refine ⟨by simp [split], by simpa using before, fun b hb lt => ?_⟩
  rw [split, List.mem_append, List.mem_cons] at hb
  rcases hb with hb | rfl | hb
  · exact Nat.le_of_lt (hp.2.2 b.page (List.mem_map_of_mem hb) a.page (by simp))
  · exact Nat.le_refl _
  · -- The search from the end has passed `b`.
    have := past b (by simpa using hb)
    simp [lt] at this

theorem Ascending.eq_of_isNearest {b : Anchor} (hp : p.Ascending) (ha : p.IsNearest a)
    (hb : p.IsNearest b) : a = b := by
  have pages : a.page = b.page :=
    Nat.le_antisymm (hb.largest a ha.mem ha.before) (ha.largest b hb.mem hb.before)
  exact List.inj_on_of_nodup_map (hp.imp Nat.ne_of_lt) ha.mem hb.mem pages

theorem Ascending.nearestAnchor?_eq_some_iff (hp : p.Ascending) :
    p.nearestAnchor? = some a ↔ p.IsNearest a := by
  constructor
  · exact hp.isNearest
  · intro ha
    cases h : p.nearestAnchor? with
    | none => exact absurd ha.before (nearestAnchor?_eq_none_iff.1 h a ha.mem)
    | some b => rw [hp.eq_of_isNearest ha (hp.isNearest h)]

end Paging

/-! ## The anchors of a client -/

namespace PagingRequest

open Paging

theorem ascending_of_addAnchors {p q : Paging} {as : List AnchorRequest} (hp : p.Ascending)
    (h : addAnchors p as = .ok q) :
    (p.anchors.map (·.page) ++ as.map (·.page)).Pairwise (· < ·) := by
  induction as generalizing p with
  | nil => simpa [Ascending] using hp
  | cons a as ih =>
    unfold addAnchors at h
    split at h
    · next next recorded =>
      have accepted : p.accepts a.page = true := by
        rw [← Bool.not_eq_false, ← recordAnchor?_eq_none_iff (e := a.entry), recorded]
        exact Option.some_ne_none next
      have step : next = p.change (.record a.page a.entry) := by
        simp [Paging.change, recordAnchor, recorded]
      have rest := ih (step ▸ hp.change _) h
      rw [step, Paging.change, recordAnchor_anchors, if_pos accepted] at rest
      simpa using rest
    · cases h

/-- With a valid order and size a request is accepted just if the pages of its anchors ascend, and
asks for its own page with just these anchors. -/
theorem toPaging_eq_ok_iff {r : PagingRequest} {o : EntryOrder} {q : Paging} (hs : 1 ≤ r.size)
    (valid : (r.sort.getD {}).toOrder = .ok o) :
    r.toPaging = .ok q ↔ (r.anchors.map (·.page)).Pairwise (· < ·) ∧
      q = ⟨r.size, r.page, o, r.anchors.map fun a => ⟨a.page, a.entry⟩, hs⟩ := by
  let asked : Paging := ⟨r.size, r.page, o, [], hs⟩
  have reads : r.toPaging = addAnchors asked r.anchors := by
    unfold toPaging
    rw [valid, ofSize_of_pos hs]
    rfl
  rw [reads]
  constructor
  · intro h
    have up := ascending_of_addAnchors (p := asked) List.Pairwise.nil h
    rw [addAnchors_eq up] at h
    exact ⟨up, (Except.ok.inj h).symm⟩
  · rintro ⟨up, rfl⟩
    exact addAnchors_eq (p := asked) up

end PagingRequest

namespace Paging

/-- Anchors are only appended, with growing pages, and found by their page: so it is after every
sequence of changes, wherever these have moved the reader. The anchors that come with a request are
accepted just if they could have been recorded so. -/
theorem anchors_append_only (s : Nat) (hs : 1 ≤ s) :
    (∃ p₀, ofSize s = .ok p₀ ∧ ∀ cs : List Change,
      let p := cs.foldl change p₀
      (p.anchors.map (·.page)).Pairwise (· < ·) ∧
      (∀ c, p.anchors <+: (p.change c).anchors ∧
        (p.change c).anchors.length ≤ p.anchors.length + 1) ∧
      (∀ n e, (p.recordAnchor? n e = none ↔ ∃ a ∈ p.anchors, n ≤ a.page) ∧
        (p.recordAnchor? n e = none → p.change (.record n e) = p)) ∧
      (∀ a, p.nearestAnchor? = some a ↔ p.IsNearest a) ∧
      (p.nearestAnchor? = none ↔ ∀ a ∈ p.anchors, ¬ a.page < p.page)) ∧
    ∀ (r : PagingRequest) (o : EntryOrder), r.size = s → (r.sort.getD {}).toOrder = .ok o →
      ((∃ q, r.toPaging = .ok q) ↔ (r.anchors.map (·.page)).Pairwise (· < ·)) ∧
      ∀ q, r.toPaging = .ok q → q.anchors = r.anchors.map fun a => ⟨a.page, a.entry⟩ := by
  constructor
  · refine ⟨_, ofSize_of_pos hs, fun cs => ?_⟩
    intro p
    have start : Ascending ⟨s, 0, .byValue, [], hs⟩ := List.Pairwise.nil
    have up : p.Ascending := start.run cs
    exact ⟨up, anchors_prefix_change p, fun n e => ⟨up.refused_iff, change_record_of_refused⟩,
      fun a => up.nearestAnchor?_eq_some_iff, nearestAnchor?_eq_none_iff⟩
  · rintro r o rfl valid
    have accepted (q : Paging) := PagingRequest.toPaging_eq_ok_iff (q := q) hs valid
    constructor
    · constructor
      · rintro ⟨q, h⟩
        exact ((accepted q).1 h).1
      · intro up
        exact ⟨_, (accepted _).2 ⟨up, rfl⟩⟩
    · intro q h
      rw [((accepted q).1 h).2]

/-- The reader jumps ahead and comes back to a page that has an anchor already. -/
theorem anchors_append_only_back :
    let a : Entry := ⟨"a", .null⟩
    let b : Entry := ⟨"b", .null⟩
    let c : Entry := ⟨"c", .null⟩
    let cs : List Change := [.goOn [c, a], .goTo 3, .goOn [b], .record 2 c, .back]
    let r : PagingRequest := ⟨2, 4, some ⟨none, true⟩, [⟨0, "a", .null⟩, ⟨3, "b", .null⟩]⟩
    1 ≤ 2 ∧ r.size = 2 ∧ (r.sort.getD {}).toOrder = .ok EntryOrder.byValue.reversed ∧
      (∃ p₀, ofSize 2 = .ok p₀ ∧
        let p := cs.foldl change p₀
        p.anchors = [⟨0, a⟩, ⟨3, b⟩] ∧ p.nearestAnchor? = some ⟨0, a⟩ ∧
          p.recordAnchor? 3 c = none ∧ p.change (.record 3 c) = p) ∧
      ∃ q, r.toPaging = .ok q ∧ q.anchors = [⟨0, a⟩, ⟨3, b⟩] := by
  intro a b c cs r
  have valid : (r.sort.getD {}).toOrder = .ok EntryOrder.byValue.reversed := rfl
  obtain ⟨⟨p₀, created, runs⟩, requests⟩ := anchors_append_only 2 (by decide)
  obtain rfl : p₀ = ⟨2, 0, .byValue, [], by decide⟩ := (Except.ok.inj created).symm
  obtain ⟨-, -, refused, nearest, -⟩ := runs cs
  obtain ⟨accepted, stored⟩ := requests r _ rfl valid
  have taken := (refused 3 c).1.2 ⟨⟨3, b⟩, .tail _ (.head _), Nat.le_refl 3⟩
  refine ⟨by decide, rfl, valid, ⟨_, created, rfl, (nearest _).2 ?_, taken, (refused 3 c).2 taken⟩, ?_⟩
  · exact ⟨List.mem_cons_self, by decide, by decide⟩
  · obtain ⟨q, h⟩ := accepted.2 (by decide)
    exact ⟨q, h, stored q h⟩

end Paging

end DataGrid
