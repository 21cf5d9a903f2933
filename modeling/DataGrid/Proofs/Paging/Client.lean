import DataGrid.Paging.Request
import DataGrid.Proofs.Paging.Tour
import DataGrid.Proofs.Value.Plain

/-!
# Pages that a client asks for

A client collects the anchors of the pages it has read and sends all of them along when it asks for
the next page. They come back with values that were read again. Main statement: with the anchors of
all pages before it a page is cut out of the result by its position, unless some page ends with an
entry that is sorted by a big integer (`pageOf_collected`).
-/

namespace DataGrid

open DataGrid.Sort

/-! ## The orders of clients -/

namespace SortRequest

/-- What an entry is sorted by. -/
def sortedBy (s : SortRequest) (e : Entry) : Option Value :=
  match s.attr with
  | none => some e.value
  | some a => (AttributePath.parse a).toOption.bind e.extract

variable {s : SortRequest} {o : EntryOrder} {e : Entry}

theorem compare_toOrder (h : s.toOrder = .ok o) (a b : Entry) :
    o.compare a b =
      if s.descending then EntryOrder.compareOptions (s.sortedBy b) (s.sortedBy a)
      else EntryOrder.compareOptions (s.sortedBy a) (s.sortedBy b) := by
  obtain ⟨attr, descending⟩ := s
  cases attr with
  | none =>
    cases descending <;>
      · cases h
        rfl
  | some raw =>
    unfold toOrder at h
    cases hp : AttributePath.parse raw with
    | error e =>
      simp only [hp] at h
      cases h
    | ok p =>
      have by' (e : Entry) : sortedBy ⟨some raw, descending⟩ e = e.extract p := by
        simp [sortedBy, hp, Except.toOption]
      rw [by', by']
      simp only [hp] at h
      cases descending <;>
        · cases h
          rfl

theorem sortedBy_reread : s.sortedBy e.reread = (s.sortedBy e).map Value.reread := by
  unfold sortedBy
  split
  · rfl
  · next raw _ =>
    cases (AttributePath.parse raw).toOption with
    | none => rfl
    | some p => exact e.extract_reread p

theorem plain_sortedBy (h : e.value.Plain) {v : Value} (found : s.sortedBy e = some v) :
    v.Plain := by
  unfold sortedBy at found
  split at found
  · obtain rfl := Option.some.inj found
    exact h
  · obtain ⟨p, -, found⟩ := Option.bind_eq_some_iff.1 found
    exact Entry.plain_extract h found

/-- Entries that were read from JSON are sorted. -/
theorem totalPreorder (h : s.toOrder = .ok o) {es : List Entry} (plain : ∀ e ∈ es, e.value.Plain) :
    TotalPreorder o.compare es := by
  have level : Value.Level ((es.map s.sortedBy).filterMap id) := by
    refine Value.level_of_plain fun v hv => ?_
    obtain ⟨x, hx, rfl⟩ := List.mem_filterMap.1 hv
    obtain ⟨e, he, found⟩ := List.mem_map.1 hx
    exact plain_sortedBy (plain e he) found
  have up : TotalPreorder
      (fun a b => EntryOrder.compareOptions (s.sortedBy a) (s.sortedBy b)) es :=
    (EntryOrder.totalPreorder_compareOptions level).comap
  have same : o.compare = fun a b =>
      if s.descending then EntryOrder.compareOptions (s.sortedBy b) (s.sortedBy a)
      else EntryOrder.compareOptions (s.sortedBy a) (s.sortedBy b) :=
    funext fun a => funext fun b => compare_toOrder h a b
  rw [same]
  cases s.descending
  · exact up
  · exact up.converse

/-- An entry that is sorted by anything but a big integer comes back in its place. -/
theorem compare_reread (h : s.toOrder = .ok o) (plain : e.value.Plain)
    (small : ∀ n, s.sortedBy e ≠ some (.bigInteger n)) (x : Entry) :
    o.compare x e.reread = o.compare x e := by
  rw [compare_toOrder h, compare_toOrder h, sortedBy_reread]
  cases found : s.sortedBy e with
  | none => rfl
  | some v =>
    have same := Value.totalCompare_reread (plain_sortedBy plain found) fun n big =>
      small n (big ▸ found)
    cases hx : s.sortedBy x with
    | none => rfl
    | some w =>
      change (if s.descending then v.reread.totalCompare w else w.totalCompare v.reread) =
        if s.descending then v.totalCompare w else w.totalCompare v
      rw [Value.totalCompare_swap w v.reread, Value.totalCompare_swap w v, same w]

end SortRequest

/-! ## Anchors -/

namespace PagingRequest

/-- Anchors are taken if their pages go up. -/
theorem addAnchors_eq {p : Paging} {as : List AnchorRequest}
    (h : (p.anchors.map (·.page) ++ as.map (·.page)).Pairwise (· < ·)) :
    addAnchors p as = .ok { p with anchors := p.anchors ++ as.map fun a => ⟨a.page, a.entry⟩ } := by
  induction as generalizing p with
  | nil => simp [addAnchors, pure, Except.pure]
  | cons a as ih =>
    have accepted : p.accepts a.page = true := by
      unfold Paging.accepts
      cases last : p.anchors.getLast? with
      | none => rfl
      | some b =>
        have mem : b.page ∈ p.anchors.map (·.page) :=
          List.mem_map_of_mem (List.mem_of_getLast? last)
        simpa using (List.pairwise_append.1 h).2.2 b.page mem a.page (by simp)
    have recorded : p.recordAnchor? a.page a.entry =
        some { p with anchors := p.anchors ++ [⟨a.page, a.entry⟩] } := by
      rw [Paging.recordAnchor?, if_pos accepted]
    rw [addAnchors, recorded]
    refine (ih (by simpa using h)).trans ?_
    simp

end PagingRequest

theorem mem_of_mem_plainPage {s n : Nat} {l : List Entry} {e : Entry} (h : e ∈ plainPage s n l) :
    e ∈ l := by
  rw [plainPage, List.extract_eq_take_drop] at h
  exact List.mem_of_mem_drop (List.mem_of_mem_take h)

theorem plainPage_append_drop (s n : Nat) (l : List Entry) :
    plainPage s n l ++ l.drop ((n + 1) * s) = l.drop (n * s) := by
  have rest : l.drop ((n + 1) * s) = (l.drop (n * s)).drop (min ((n + 1) * s) l.length - n * s) := by
    rw [List.drop_drop]
    by_cases inside : (n + 1) * s ≤ l.length
    · have le : n * s ≤ (n + 1) * s := Nat.mul_le_mul_right s (Nat.le_succ n)
      congr 1
      omega
    · rw [List.drop_eq_nil_of_le (by omega), List.drop_eq_nil_of_le (by omega)]
  rw [plainPage, List.extract_eq_take_drop, rest, List.take_append_drop]

theorem plainPage_eq_nil_iff {s n : Nat} (hs : 1 ≤ s) {l : List Entry} :
    plainPage s n l = [] ↔ l.length ≤ n * s := by
  have next : (n + 1) * s = n * s + s := Nat.succ_mul n s
  rw [plainPage, List.extract_eq_take_drop, ← List.length_eq_zero_iff, List.length_take,
    List.length_drop]
  omega

/-- The anchors that a client has been given with the first `k` pages of a result. -/
def collected (s : Nat) (l : List Entry) (k : Nat) : List AnchorRequest :=
  (List.range k).filterMap fun i => (plainPage s i l).getLast?.map (.ofEntry i)

theorem collected_succ (s : Nat) (l : List Entry) (k : Nat) :
    collected s l (k + 1) =
      collected s l k ++ ((plainPage s k l).getLast?.map (AnchorRequest.ofEntry k)).toList := by
  rw [collected, List.range_succ, List.filterMap_append, ← collected]
  cases last : (plainPage s k l).getLast? <;> simp [last]

theorem mem_collected {s : Nat} {l : List Entry} {k : Nat} {a : AnchorRequest}
    (h : a ∈ collected s l k) :
    ∃ e, (plainPage s a.page l).getLast? = some e ∧ a.entry = e.reread := by
  obtain ⟨i, -, ha⟩ := List.mem_filterMap.1 h
  obtain ⟨e, last, rfl⟩ := Option.map_eq_some_iff.1 ha
  exact ⟨e, last, rfl⟩

theorem pairwise_collected (s : Nat) (l : List Entry) (k : Nat) :
    ((collected s l k).map (·.page)).Pairwise (· < ·) := by
  rw [collected, List.pairwise_map, List.pairwise_filterMap]
  refine List.pairwise_lt_range.imp fun {i j} lt a ha b hb => ?_
  obtain ⟨e, -, rfl⟩ := Option.map_eq_some_iff.1 ha
  obtain ⟨e', -, rfl⟩ := Option.map_eq_some_iff.1 hb
  exact lt

/-- The `k`-th page of a result, asked for with all anchors that came with the pages before it. -/
def pageRequest (s k : Nat) (sort : Option SortRequest) (l : List Entry) : PagingRequest :=
  ⟨s, k, sort, collected s l k⟩

section Client

variable {s : Nat} {sort : Option SortRequest} {o : EntryOrder} {es l : List Entry}

theorem pageOf?_collected (hs : 1 ≤ s) (valid : (sort.getD {}).toOrder = .ok o)
    (plain : ∀ e ∈ es, e.value.Plain) (hk : (es.map (·.key)).Nodup) (hn : es.length ≤ maxPosition)
    (sorted : o.sort? es = some l) (small : ∀ i e, (plainPage s i l).getLast? = some e →
      ∀ n, (sort.getD {}).sortedBy e ≠ some (.bigInteger n)) (k : Nat) :
    ∃ p, (pageRequest s k sort l).toPaging = .ok p ∧ p.pageOf? es = some (plainPage s k l) := by
  have perm := EntryOrder.sort?_perm sorted
  have ho := SortRequest.totalPreorder valid plain
  have rises := pairwise_stableSort? ho sorted
  let p : Paging := ⟨s, k, o, (collected s l k).map fun a => ⟨a.page, a.entry⟩, hs⟩
  have paging : (pageRequest s k sort l).toPaging = .ok p := by
    have size : Paging.ofSize s = .ok ⟨s, 0, .byValue, [], hs⟩ := by
      rw [Paging.ofSize, dif_pos (by omega)]
      rfl
    let asked := ((⟨s, 0, .byValue, [], hs⟩ : Paging).withOrder o).withPage k
    have up : (asked.anchors.map (·.page) ++
        (collected s l k).map (·.page)).Pairwise (· < ·) :=
      pairwise_collected s l k
    have added := PagingRequest.addAnchors_eq up
    unfold PagingRequest.toPaging pageRequest
    rw [valid, size]
    exact added
  have resumes : p.ResumesAt o s l := by
    intro a ha
    obtain ⟨r, hr, rfl⟩ := List.mem_map.1 ha
    obtain ⟨e, last, entry⟩ := mem_collected hr
    have mem : e ∈ es := perm.subset (mem_of_mem_plainPage (List.mem_of_getLast? last))
    have alike : ∀ x ∈ l, o.compare x r.entry = o.compare x e := by
      intro x _
      rw [entry]
      exact SortRequest.compare_reread valid (plain e mem) (small r.page e last) x
    have key : r.entry.key = e.key := by
      rw [entry]
      rfl
    rw [Paging.positionAfter_congr (b := ⟨r.page, e⟩) key alike]
    exact Paging.positionAfter_of_ends (Paging.getLast?_plainPage last) (ho.mono perm.subset) rises
      ((perm.map _).nodup_iff.2 hk)
  have page : p.pageOfSorted l = plainPage s k l :=
    Paging.pageOfSorted_eq rfl rfl resumes (perm.length_eq ▸ hn)
  refine ⟨p, paging, ?_⟩
  rw [Paging.pageOf?, show p.order.sort? es = some l from sorted]
  exact congrArg some page

end Client

end DataGrid
