import DataGrid.Node.Basic
import DataGrid.Proofs.Paging.Client
import DataGrid.Proofs.Query.Merge
import DataGrid.Proofs.Store.Content

/-!
# Browsing a collection

A client puts entries into a node, and then reads a result page by page until a page is empty; with
every request it sends all anchors it has been given. Main statement: the pages are the sorted
result, each entry once, as long as no page ends with an entry that is sorted by a big integer
(`gets_sorted`). Such an entry comes back as a text, and reading resumes behind that
(`gets_not_complete`).
-/

namespace DataGrid

open Executor

namespace Node

/-! ## Filling a node -/

/-- A node after entries have been put. -/
def fill (n : Node) (rs : List PutRequest) : Node := rs.foldl (fun n r => (n.put r).2) n

theorem put_queryTimeout (n : Node) (r : PutRequest) : (n.put r).2.queryTimeout = n.queryTimeout := by
  unfold put
  split <;> rfl

theorem filled_put {n : Node} (h : n.store.Filled Value.Plain) {r : PutRequest}
    (range : r.value.InRange) : (n.put r).2.store.Filled Value.Plain := by
  unfold put
  split
  · exact h
  · exact h.put r.collection r.key ⟨r.value, range, rfl⟩

theorem fill_queryTimeout (n : Node) (rs : List PutRequest) :
    (n.fill rs).queryTimeout = n.queryTimeout := by
  induction rs generalizing n with
  | nil => rfl
  | cons r rs ih => exact (ih _).trans (n.put_queryTimeout r)

theorem filled_fill {n : Node} (h : n.store.Filled Value.Plain) {rs : List PutRequest}
    (range : ∀ r ∈ rs, r.value.InRange) : (n.fill rs).store.Filled Value.Plain := by
  induction rs generalizing n with
  | nil => exact h
  | cons r rs ih =>
    exact ih (filled_put h (range r List.mem_cons_self)) fun r' hr' =>
      range r' (List.mem_cons_of_mem r hr')

/-! ## Scanning -/

variable {n : Node}

theorem mem_allPartitions {p : Nat} :
    p ∈ n.executor.allPartitions ↔ n.store.partitioning.contains p = true := by
  simp [Partitioning.contains, allPartitions, executor]

theorem scan_executor {c : String} {matching : Entry → Bool} {p : Nat}
    (hp : p ∈ n.executor.allPartitions) :
    n.executor.scanner.scan c matching p = .ok ((n.store.dump c p).filter matching) := by
  change n.store.scan c matching p = _
  rw [Store.scan, if_pos (mem_allPartitions.1 hp)]
  rfl

/-- With any time at all a query over all partitions finds the content of the store. -/
theorem execute_content (time : 0 < n.queryTimeout.nanoseconds) (c : String)
    (matching : Entry → Bool) (paging : Option Paging) :
    n.executor.execute c matching paging n.executor.allPartitions =
      .ok (match paging with
        | some p => p.pageOf? (n.store.content c matching)
        | none => some (n.store.content c matching)) := by
  have distinct : n.executor.allPartitions.Nodup := List.nodup_range
  have valid : ∀ p ∈ n.executor.allPartitions, p < n.executor.scanner.partitionCount := by
    simp [allPartitions]
  have parts : (n.executor.allPartitions.map (n.executor.scanned c matching)).flatten =
      n.store.content c matching := by
    rw [Store.content, List.flatMap_def]
    refine congrArg List.flatten (List.map_congr_left fun p hp => ?_)
    rw [scanned, scan_executor hp]
    rfl
  have early : (n.executor.allPartitions.map n.executor.scanner.delay).sum <
      n.executor.timeout.nanoseconds := by
    simpa [executor, List.map_const', Function.comp_def] using time
  have outcome := (toOption_fanOut (n.executor.scanTask c matching) (.inr early)).trans
    (results?_scanTask fun p hp => ⟨_, scan_executor hp⟩)
  rw [execute_eq_merge? distinct valid]
  cases h : n.executor.fanOut (n.executor.scanTask c matching) n.executor.allPartitions with
  | error e => simp [h, Except.toOption] at outcome
  | ok rs =>
    obtain rfl : rs = _ := by simpa [h, Except.toOption] using outcome
    cases paging with
    | none => exact congrArg (fun es => Except.ok (some es)) parts
    | some p => exact congrArg (fun es => Except.ok (p.pageOf? es)) parts

theorem scan_eq (n : Node) {r : ScanRequest} {f : CompiledFilter} {paging : Option Paging}
    (compiles : r.filter.compile = .ok f) (valid : r.paging.mapM PagingRequest.toPaging = .ok paging)
    (all : r.partitions = none) :
    n.scan r =
      ((n.executor.execute r.collection (f.apply ·) paging n.executor.allPartitions).map
        fun found => found.map fun es => ⟨es, nextAnchor? r.paging es⟩,
        n.waitForQuery n.executor.allPartitions) := by
  simp only [scan, compiles, valid, all]
  rfl

theorem waitForQuery_eq (n : Node) (ps : List Nat) :
    (n.waitForQuery ps).store = n.store ∧ (n.waitForQuery ps).queryTimeout = n.queryTimeout := by
  unfold waitForQuery
  split
  · split <;> exact ⟨rfl, rfl⟩
  · exact ⟨rfl, rfl⟩

theorem scan_snd (n : Node) (r : ScanRequest) :
    (n.scan r).2.store = n.store ∧ (n.scan r).2.queryTimeout = n.queryTimeout := by
  unfold scan
  dsimp only
  split
  · exact ⟨rfl, rfl⟩
  · exact n.waitForQuery_eq _

theorem nextAnchor?_some (g : PagingRequest) (es : List Entry) :
    nextAnchor? (some g) es = es.getLast?.map (AnchorRequest.ofEntry g.page) := by
  unfold nextAnchor?
  cases es.getLast? <;> rfl

theorem scan_all (time : 0 < n.queryTimeout.nanoseconds) {r : ScanRequest} {f : CompiledFilter}
    (compiles : r.filter.compile = .ok f) (all : r.partitions = none) (paging : r.paging = none) :
    (n.scan r).1 = .ok (some ⟨n.store.content r.collection (f.apply ·), none⟩) := by
  have unpaged : r.paging.mapM PagingRequest.toPaging = .ok none := by
    rw [paging]
    rfl
  rw [scan_eq n compiles unpaged all, execute_content time, paging]
  rfl

end Node

/-! ## Browsing -/

/-- What a client reads: the matching entries of a collection in an order, so many at a time. -/
structure Browse where
  collection : String
  filter : Filter
  size : Nat
  sort : Option SortRequest

namespace Browse

/-- Asks for a page. -/
def request (b : Browse) (page : Nat) (anchors : List AnchorRequest) : ScanRequest where
  collection := b.collection
  filter := b.filter
  paging := some ⟨b.size, page, b.sort, anchors⟩

/-- The pages that a client gets from a node, from page `k` on and with some anchors at hand, until
an empty one comes. -/
inductive Gets (b : Browse) : Node → Nat → List AnchorRequest → List (List Entry) → Prop
  | done {n : Node} {k : Nat} {as : List AnchorRequest} {a : ScanAnswer}
      (answer : (n.scan (b.request k as)).1 = .ok (some a)) (empty : a.entries = []) : Gets b n k as []
  | more {n : Node} {k : Nat} {as : List AnchorRequest} {a : ScanAnswer} {pages : List (List Entry)}
      (answer : (n.scan (b.request k as)).1 = .ok (some a)) (full : a.entries ≠ [])
      (later : Gets b (n.scan (b.request k as)).2 (k + 1) (as ++ a.nextAnchor.toList) pages) :
      Gets b n k as (a.entries :: pages)

variable {b : Browse} {n : Node}

/-- There is only one sequence of pages to get. -/
theorem Gets.unique {k : Nat} {as : List AnchorRequest} {pages pages' : List (List Entry)}
    (h : b.Gets n k as pages) (h' : b.Gets n k as pages') : pages = pages' := by
  induction h generalizing pages' with
  | done answer empty =>
    cases h' with
    | done => rfl
    | more answer' full =>
      obtain rfl := Option.some.inj (Except.ok.inj (answer.symm.trans answer'))
      exact absurd empty full
  | more answer full _ ih =>
    cases h' with
    | done answer' empty =>
      obtain rfl := Option.some.inj (Except.ok.inj (answer.symm.trans answer'))
      exact absurd empty full
    | more answer' _ later' =>
      obtain rfl := Option.some.inj (Except.ok.inj (answer.symm.trans answer'))
      rw [ih later']

section Pages

variable {f : CompiledFilter} {o : EntryOrder} {es l : List Entry}

theorem scan_request (compiles : b.filter.compile = .ok f)
    (time : 0 < n.queryTimeout.nanoseconds)
    (content : n.store.content b.collection (f.apply ·) = es) {k : Nat} {as : List AnchorRequest}
    {p : Paging} (valid : PagingRequest.toPaging ⟨b.size, k, b.sort, as⟩ = .ok p)
    (page : p.pageOf? es = some l) :
    (n.scan (b.request k as)).1 =
      .ok (some ⟨l, l.getLast?.map (AnchorRequest.ofEntry k)⟩) := by
  have paging : (b.request k as).paging.mapM PagingRequest.toPaging = .ok (some p) := by
    simp [request, valid]
  rw [n.scan_eq compiles paging rfl, Node.execute_content time]
  have same : n.store.content (b.request k as).collection (f.apply ·) = es := content
  dsimp only
  rw [← Node.nextAnchor?_some ⟨b.size, k, b.sort, as⟩, same, page]
  rfl

section Small

variable (compiles : b.filter.compile = .ok f) (hs : 1 ≤ b.size)
  (valid : (b.sort.getD {}).toOrder = .ok o) (plain : ∀ e ∈ es, e.value.Plain)
  (distinct : (es.map (·.key)).Nodup) (hn : es.length ≤ maxPosition)
  (sorted : o.sort? es = some l) (small : ∀ i e, (plainPage b.size i l).getLast? = some e →
    ∀ n, (b.sort.getD {}).sortedBy e ≠ some (.bigInteger n))

include compiles hs valid plain distinct hn sorted small

/-- The answer to a request that comes with the anchors of all pages before the one it asks for. -/
theorem scan_collected (time : 0 < n.queryTimeout.nanoseconds)
    (content : n.store.content b.collection (f.apply ·) = es) (k : Nat) :
    (n.scan (b.request k (collected b.size l k))).1 =
      .ok (some ⟨plainPage b.size k l,
        (plainPage b.size k l).getLast?.map (AnchorRequest.ofEntry k)⟩) := by
  obtain ⟨p, paging, page⟩ := pageOf?_collected hs valid plain distinct hn sorted small k
  exact scan_request compiles time content paging page

/-- From page `k` on, with the anchors of all pages before it, a client gets the rest of the sorted
result. -/
theorem exists_gets (time : 0 < n.queryTimeout.nanoseconds)
    (content : n.store.content b.collection (f.apply ·) = es) (k : Nat) :
    ∃ pages, b.Gets n k (collected b.size l k) pages ∧
      pages.flatten = l.drop (k * b.size) := by
  -- By induction on how many entries are left.
  induction left : l.length - k * b.size using Nat.strongRecOn generalizing n k with
  | ind left ih =>
    have answer := scan_collected compiles hs valid plain distinct hn sorted small time content k
    by_cases empty : plainPage b.size k l = []
    · refine ⟨[], .done answer empty, ?_⟩
      rw [List.drop_eq_nil_of_le ((plainPage_eq_nil_iff hs).1 empty)]
      rfl
    · obtain ⟨store, timeout⟩ := n.scan_snd (b.request k (collected b.size l k))
      have inside : k * b.size < l.length :=
        Nat.not_le.1 fun past => empty ((plainPage_eq_nil_iff hs).2 past)
      have next : (k + 1) * b.size = k * b.size + b.size := Nat.succ_mul k b.size
      obtain ⟨pages, gets, rest⟩ := ih _ (by omega) (timeout ▸ time) (store ▸ content) (k + 1) rfl
      rw [collected_succ] at gets
      refine ⟨_, .more answer empty gets, ?_⟩
      rw [List.flatten_cons, rest, plainPage_append_drop]

end Small

end Pages

/-- A client that browses what has been put into a node gets the matching entries in their stable
order, page by page and each once, if no page ends with an entry that is sorted by a big integer. A
result is held in memory, so its length is a position. -/
theorem gets_sorted {n : Node} {q : Partitioning} (empty : n.store = .empty q)
    (time : 0 < n.queryTimeout.nanoseconds) {rs : List PutRequest}
    (range : ∀ r ∈ rs, r.value.InRange) {f : CompiledFilter} (compiles : b.filter.compile = .ok f)
    (hs : 1 ≤ b.size) {o : EntryOrder} (valid : (b.sort.getD {}).toOrder = .ok o) :
    ∃ es, ((n.fill rs).scan { collection := b.collection, filter := b.filter }).1 =
        .ok (some ⟨es, none⟩) ∧
      (∀ e, e ∈ es ↔
        (n.fill rs).store.get? b.collection e.key = some e.value ∧ f.apply e = true) ∧
      (es.map (·.key)).Nodup ∧
      (es.length ≤ maxPosition →
        (∀ k e, (plainPage b.size k (es.mergeSort fun a b => o.compare a b != .gt)).getLast? = some e →
          ∀ i, (b.sort.getD {}).sortedBy e ≠ some (.bigInteger i)) →
        ∃ pages, (∀ pages', b.Gets (n.fill rs) 0 [] pages' ↔ pages' = pages) ∧
          pages.flatten = es.mergeSort fun a b => o.compare a b != .gt) := by
  have filled : (n.fill rs).store.Filled Value.Plain :=
    Node.filled_fill (empty ▸ Store.filled_empty q) range
  have time' : 0 < (n.fill rs).queryTimeout.nanoseconds := n.fill_queryTimeout rs ▸ time
  have distinct := Store.nodup_content filled b.collection (f.apply ·)
  refine ⟨(n.fill rs).store.content b.collection (f.apply ·), Node.scan_all time' compiles rfl rfl,
    fun e => Store.mem_content filled, distinct, fun hn small => ?_⟩
  have plain : ∀ e ∈ (n.fill rs).store.content b.collection (f.apply ·), e.value.Plain :=
    fun e he => filled.value he
  have sorted := Sort.stableSort?_eq_mergeSort (SortRequest.totalPreorder valid plain)
  obtain ⟨pages, gets, flatten⟩ := exists_gets compiles hs valid plain distinct hn sorted small time' rfl 0
  refine ⟨pages, fun pages' => ⟨fun gets' => gets'.unique gets, ?_⟩, ?_⟩
  · rintro rfl
    exact gets
  · rw [flatten, Nat.zero_mul, List.drop_zero]

/-- Two pages; the big integer is first on its page. -/
theorem gets_sorted_two_pages :
    let n := (Node.new ⟨1, 1, .ofSeconds 1, 1⟩ .builtin).fill
      [⟨"c", "a", .text "y"⟩, ⟨"c", "b", .text "x"⟩, ⟨"c", "d", .int (2 ^ 63)⟩]
    let b : Browse := ⟨"c", .always, 2, none⟩
    ∃ pages, (∀ pages', b.Gets n 0 [] pages' ↔ pages' = pages) ∧
      pages.flatten = [⟨"d", .bigInteger (2 ^ 63)⟩, ⟨"b", .text "x"⟩, ⟨"a", .text "y"⟩] := by
  intro n b
  let rs : List PutRequest :=
    [⟨"c", "a", .text "y"⟩, ⟨"c", "b", .text "x"⟩, ⟨"c", "d", .int (2 ^ 63)⟩]
  have range : ∀ r ∈ rs, r.value.InRange := by
    simp [rs, Json.InRange, Json.IntegerRange]
  obtain ⟨es, all, -, -, sorted⟩ := gets_sorted (b := b) (q := .ofCount 1) (f := .always)
    (o := .byValue) (n := Node.new ⟨1, 1, .ofSeconds 1, 1⟩ .builtin) rfl (by decide) range rfl
    (by decide) rfl
  have content : n.store.content "c" (CompiledFilter.always.apply ·) =
      [⟨"a", .text "y"⟩, ⟨"b", .text "x"⟩, ⟨"d", .bigInteger (2 ^ 63)⟩] := by
    with_unfolding_all rfl
  have found := n.scan_all (r := { collection := "c" }) (f := .always) (by decide) rfl rfl rfl
  have read : es = [⟨"a", .text "y"⟩, ⟨"b", .text "x"⟩, ⟨"d", .bigInteger (2 ^ 63)⟩] :=
    content ▸ congrArg ScanAnswer.entries (Option.some.inj (Except.ok.inj (all.symm.trans found)))
  have order : es.mergeSort (fun a b => EntryOrder.byValue.compare a b != .gt) =
      [⟨"d", .bigInteger (2 ^ 63)⟩, ⟨"b", .text "x"⟩, ⟨"a", .text "y"⟩] := by
    have texts : EntryOrder.byValue.compare ⟨"a", .text "y"⟩ ⟨"b", .text "x"⟩ = .gt := rfl
    simp [read, List.mergeSort, List.MergeSort.Internal.splitInTwo, List.merge, texts]
    rfl
  rw [← order]
  refine sorted (by rw [read]; decide) ?_
  rw [order]
  rintro (_ | _ | k) e last i
  · obtain rfl := Option.some.inj last
    simp [SortRequest.sortedBy, b]
  · obtain rfl := Option.some.inj last
    simp [SortRequest.sortedBy, b]
  · rw [(plainPage_eq_nil_iff (by decide)).2 (by simp [b]; omega)] at last
    cases last

/-- Of the two least big integers of JSON, read one at a time, a client gets the first. That one comes
back as a text, and no number is behind a text. -/
theorem gets_big (time : 0 < n.queryTimeout.nanoseconds)
    (content : n.store.content "c" (CompiledFilter.always.apply ·) =
      [⟨"a", .bigInteger (2 ^ 63)⟩, ⟨"b", .bigInteger (2 ^ 63 + 1)⟩]) :
    (⟨"c", .always, 1, none⟩ : Browse).Gets n 0 [] [[⟨"a", .bigInteger (2 ^ 63)⟩]] := by
  let b : Browse := ⟨"c", .always, 1, none⟩
  have first : (n.scan (b.request 0 [])).1 = .ok (some ⟨[⟨"a", .bigInteger (2 ^ 63)⟩],
      some ⟨0, "a", .text "9223372036854775808"⟩⟩) :=
    scan_request (b := b) (f := .always) (p := ⟨1, 0, .byValue, [], by decide⟩) rfl time content
      rfl (by with_unfolding_all rfl)
  obtain ⟨store, timeout⟩ := n.scan_snd (b.request 0 [])
  have second : ((n.scan (b.request 0 [])).2.scan
      (b.request 1 [⟨0, "a", .text "9223372036854775808"⟩])).1 = .ok (some ⟨[], none⟩) :=
    scan_request (b := b) (f := .always)
      (p := ⟨1, 1, .byValue, [⟨0, "a", .text "9223372036854775808"⟩], by decide⟩) rfl
      (timeout ▸ time) (store ▸ content) rfl (by with_unfolding_all rfl)
  exact .more first (by simp) (.done second rfl)

/-- So a client may get less than there is. -/
theorem gets_not_complete :
    let n := (Node.new ⟨1, 1, .ofSeconds 1, 1⟩ .builtin).fill
      [⟨"c", "a", .int (2 ^ 63)⟩, ⟨"c", "b", .int (2 ^ 63 + 1)⟩]
    let es : List Entry := [⟨"a", .bigInteger (2 ^ 63)⟩, ⟨"b", .bigInteger (2 ^ 63 + 1)⟩]
    let b : Browse := ⟨"c", .always, 1, none⟩
    (n.scan { collection := "c" }).1 = .ok (some ⟨es, none⟩) ∧
      b.Gets n 0 [] [[⟨"a", .bigInteger (2 ^ 63)⟩]] ∧
      ∀ pages, b.Gets n 0 [] pages →
        pages.flatten ≠ es.mergeSort fun a b => EntryOrder.byValue.compare a b != .gt := by
  intro n es b
  have time : 0 < n.queryTimeout.nanoseconds := by decide
  have content : n.store.content "c" (CompiledFilter.always.apply ·) = es := by
    with_unfolding_all rfl
  have gets : b.Gets n 0 [] [[⟨"a", .bigInteger (2 ^ 63)⟩]] := gets_big time content
  refine ⟨?_, gets, fun pages gets' same => ?_⟩
  · rw [Node.scan_all time (f := .always) rfl rfl rfl, content]
  · rw [gets'.unique gets] at same
    have length := congrArg List.length same
    rw [List.length_mergeSort] at length
    cases length

end Browse

end DataGrid
