import DataGrid.Proofs.Paging.Tour
import Mathlib.Data.List.Nodup

/-!
# Walking through a changing result

A reader goes forward from the first page to the first empty one, while entries come, go, move and
change between two reads. The last entry read so far is anchored, and an entry that stays, and ties
with no other key, has been read once it does not come after that anchor. Main statement: by the
end of the walk every such entry has been read exactly once.
-/

namespace DataGrid

open DataGrid.Sort

namespace Paging

/-- The pages that are read going forward, each from another result, up to the first empty one, or
to one that cannot be read. -/
def walk : Paging → List (List Entry) → List (Option (List Entry))
  | _, [] => []
  | p, es :: ess =>
    match p.pageOf? es with
    | none => [none]
    | some page => some page :: if page.isEmpty then [] else walk (p.nextPage page) ess

/-- The entry is in the result and compares equal to no other key there. -/
structure Untied (o : EntryOrder) (e : Entry) (es : List Entry) : Prop where
  mem : e ∈ es
  apart : ∀ d ∈ es, o.compare e d = .eq → d.key = e.key

/-- A result whose entries are among the entries `m`. A result is held in memory, so its length is
a position. -/
structure Listed (m es : List Entry) : Prop where
  subset : es ⊆ m
  keys : (es.map (·.key)).Nodup
  length : es.length ≤ maxPosition

variable {o : EntryOrder} {s : Nat} {m l es : List Entry} {e : Entry}

/-! ## Where reading resumes -/

/-- An entry that ties with the anchor only by being anchored lies before the place where reading
resumes if and only if it does not come after the anchor. -/
theorem lt_positionAfter_iff {a : Anchor} {q : Nat} (ho : TotalPreorder o.compare m) (sub : l ⊆ m)
    (hl : l.Pairwise fun a b => o.compare a b ≠ .gt) (keys : (l.map (·.key)).Nodup)
    (hx : a.entry ∈ m) (hq : q < l.length) (known : o.compare l[q] a.entry = .eq → l[q] = a.entry) :
    q < positionAfter o l.toArray a ↔ o.compare l[q] a.entry ≠ .gt := by
  obtain ⟨low, high⟩ := positionAfter_bounds ho sub hl hx
  have before := getElem_iff_lt_countP (pairwise_before ho sub hl hx) q hq
  have notAfter := getElem_iff_lt_countP (pairwise_notAfter ho sub hl hx) q hq
  cases h : o.compare l[q] a.entry with
  | lt =>
    have : q < l.countP (o.compare · a.entry == .lt) := before.1 (by simp [h])
    simp
    omega
  | eq =>
    have resumed := positionAfter_eq (ho.mono sub) hl keys hq (known h)
    simp [resumed]
  | gt =>
    have : ¬ q < l.countP (o.compare · a.entry != .gt) := fun lt => by
      simpa [h] using notAfter.2 lt
    simp
    omega

/-- The place where reading resumes behind the last entry read. -/
def resume (o : EntryOrder) (l : List Entry) : Option Entry → Nat
  | none => 0
  | some d => positionAfter o l.toArray ⟨0, d⟩

/-- Whether an entry does not come after the last entry read. -/
def isBehind (o : EntryOrder) (last : Option Entry) (e : Entry) : Bool :=
  last.any (o.compare e · != .gt)

/-- The last entry read is among the entries `m`, and only `e` itself could tie with `e`. -/
def Known (o : EntryOrder) (m : List Entry) (e : Entry) (last : Option Entry) : Prop :=
  ∀ d ∈ last, d ∈ m ∧ (o.compare e d = .eq → e = d)

variable {last : Option Entry}

theorem resume_le (ho : TotalPreorder o.compare m) (sub : l ⊆ m)
    (hl : l.Pairwise fun a b => o.compare a b ≠ .gt) (mem : ∀ d ∈ last, d ∈ m) :
    resume o l last ≤ l.length := by
  cases last with
  | none => exact Nat.zero_le _
  | some d =>
    have high := (positionAfter_bounds (a := ⟨0, d⟩) ho sub hl (mem d rfl)).2
    exact Nat.le_trans high List.countP_le_length

theorem lt_resume_iff {q : Nat} (ho : TotalPreorder o.compare m) (sub : l ⊆ m)
    (hl : l.Pairwise fun a b => o.compare a b ≠ .gt) (keys : (l.map (·.key)).Nodup)
    (hq : q < l.length) (known : Known o m l[q] last) :
    q < resume o l last ↔ isBehind o last l[q] = true := by
  cases last with
  | none => simp [resume, isBehind]
  | some d =>
    obtain ⟨mem, tie⟩ := known d rfl
    simpa [resume, isBehind] using
      lt_positionAfter_iff (a := ⟨0, d⟩) ho sub hl keys mem hq tie

/-! ## One page -/

/-- A paging whose reader has only gone forward. -/
structure Forward (o : EntryOrder) (s : Nat) (last : Option Entry) (p : Paging) : Prop where
  order : p.order = o
  size : p.size = s
  first : last = none → p.page = 0
  later : ∀ d ∈ last, 0 < p.page
  anchored : p.anchors.getLast? = last.map (⟨p.page - 1, ·⟩)

variable {p : Paging}

theorem nearestAnchor?_of_getLast? {a : Anchor} (h : p.anchors.getLast? = some a)
    (lt : a.page < p.page) : p.nearestAnchor? = some a := by
  obtain ⟨front, h⟩ := List.getLast?_eq_some_iff.1 h
  simp [nearestAnchor?, h, lt]

theorem Forward.pageStart (hp : p.Forward o s last) (small : resume o l last ≤ maxPosition) :
    p.pageStart l.toArray = resume o l last := by
  cases last with
  | none =>
    have none : p.anchors = [] := by simpa using hp.anchored
    simp [Paging.pageStart, nearestAnchor?, none, hp.first rfl, resume, saturatingAdd,
      saturatingMul]
  | some d =>
    have pos := hp.later d rfl
    have near := nearestAnchor?_of_getLast? hp.anchored (by dsimp only; omega)
    have skipped : p.page - (p.page - 1) - 1 = 0 := by omega
    simp only [Paging.pageStart, near, hp.order, skipped, saturatingAdd, saturatingMul,
      Nat.zero_mul, Nat.zero_min, Nat.add_zero]
    exact Nat.min_eq_left small

theorem Forward.pageOf?_eq (hp : p.Forward o s last) (ho : TotalPreorder o.compare m)
    (listed : Listed m es) (mem : ∀ d ∈ last, d ∈ m) (sorted : o.sort? es = some l) :
    p.pageOf? es = some ((l.drop (resume o l last)).take s) := by
  have perm := EntryOrder.sort?_perm sorted
  have sub : l ⊆ m := List.Subset.trans perm.subset listed.subset
  have short := resume_le ho sub (pairwise_stableSort? (ho.mono listed.subset) sorted) mem
  have small : l.length ≤ maxPosition := perm.length_eq ▸ listed.length
  have start := hp.pageStart (Nat.le_trans short small)
  unfold pageOf?
  rw [hp.order, sorted]
  refine congrArg some ?_
  unfold pageOfSorted
  simp only [start, hp.size]
  -- The end of the page is cut off at the end of the result, as `take` does by itself.
  rw [List.take_eq_take_iff, List.length_drop, saturatingAdd]
  omega

theorem Listed.exists_sort? (ho : TotalPreorder o.compare m) (listed : Listed m es) :
    ∃ l, o.sort? es = some l :=
  ⟨_, stableSort?_eq_mergeSort (ho.mono listed.subset)⟩

/-- Going on from a page anchors its last entry. -/
theorem Forward.nextPage (hp : p.Forward o s last) {page : List Entry} {d : Entry}
    (hd : page.getLast? = some d) : (p.nextPage page).Forward o s (some d) := by
  have accepts : p.accepts p.page = true := by
    unfold accepts
    rw [hp.anchored]
    cases last with
    | none => rfl
    | some c =>
      have := hp.later c rfl
      simp
      omega
  have next : p.nextPage page =
      { p with page := p.page + 1, anchors := p.anchors ++ [⟨p.page, d⟩] } := by
    simp [Paging.nextPage, hd, recordAnchor, recordAnchor?, accepts, Paging.withPage]
  rw [next]
  exact ⟨hp.order, hp.size, nofun, fun _ _ => Nat.succ_pos _, by simp⟩

/-! ## Following one entry -/

/-- What stands at `q` in a list without repetitions is on the page of the `s` places from `k` on
just if `q` is one of these. -/
theorem mem_page_iff {α : Type} {xs : List α} (h : xs.Nodup) {q : Nat} (hq : q < xs.length)
    (k s : Nat) : xs[q] ∈ (xs.drop k).take s ↔ k ≤ q ∧ q < k + s := by
  rw [List.mem_iff_getElem]
  constructor
  · rintro ⟨i, hi, same⟩
    simp only [List.length_take, List.length_drop] at hi
    rw [List.getElem_take, List.getElem_drop] at same
    have := (List.getElem_inj h).1 same
    omega
  · intro ⟨low, high⟩
    refine ⟨q - k, by simp; omega, ?_⟩
    simp [Nat.add_sub_cancel' low]

theorem count_page {q : Nat} (keys : (l.map (·.key)).Nodup) (hq : q < l.length) (k s : Nat) :
    (((l.drop k).take s).map (·.key)).count l[q].key = if k ≤ q ∧ q < k + s then 1 else 0 := by
  have part : (((l.map (·.key)).drop k).take s).Sublist (l.map (·.key)) :=
    (List.take_sublist _ _).trans (List.drop_sublist _ _)
  have here := mem_page_iff keys (q := q) (by simpa using hq) k s
  rw [List.getElem_map] at here
  rw [List.map_take, List.map_drop, (part.nodup keys).count]
  simp only [here]

/-- An untied entry comes after all that stand before it, and after no other. -/
theorem compare_ne_gt_iff {q j : Nat} (ho : TotalPreorder o.compare m) (sub : l ⊆ m)
    (hl : l.Pairwise fun a b => o.compare a b ≠ .gt) (keys : (l.map (·.key)).Nodup)
    (hq : q < l.length) (hj : j < l.length) (untied : Untied o l[q] l) :
    o.compare l[q] l[j] ≠ .gt ↔ q ≤ j := by
  have mem (i : Nat) (hi : i < l.length) : l[i] ∈ m := sub (List.getElem_mem hi)
  constructor
  · intro le
    rw [← Nat.not_lt]
    intro lt
    have ge := List.pairwise_iff_getElem.1 hl j q hj hq lt
    have tie : o.compare l[q] l[j] = .eq := by
      rw [ho.swap _ (mem q hq) _ (mem j hj)] at ge
      cases h : o.compare l[q] l[j] <;> simp_all
    have same := List.inj_on_of_nodup_map keys (List.getElem_mem hj) (List.getElem_mem hq)
      (untied.apart _ (List.getElem_mem hj) tie)
    have := (List.getElem_inj (keys.of_map _)).1 same
    omega
  · intro le
    rcases Nat.lt_or_eq_of_le le with lt | rfl
    · exact List.pairwise_iff_getElem.1 hl q j hq hj lt
    · simp [ho.refl (mem q hq)]

/-- The last entry of a page. -/
theorem getLast?_page {k : Nat} {d : Entry} (h : ((l.drop k).take s).getLast? = some d) :
    ∃ j, ∃ hj : j < l.length, j + 1 = min (k + s) l.length ∧ d = l[j] := by
  rw [List.getLast?_eq_getElem?, List.getElem?_take] at h
  split at h
  · next lt =>
    simp only [List.length_take, List.length_drop] at h lt
    rw [List.getElem?_drop] at h
    obtain ⟨hj, rfl⟩ := List.getElem?_eq_some_iff.1 h
    exact ⟨_, hj, by omega, rfl⟩
  · cases h

theorem Untied.of_perm (h : Untied o e es) (perm : l.Perm es) : Untied o e l where
  mem := perm.mem_iff.2 h.mem
  apart d hd := h.apart d (perm.mem_iff.1 hd)

/-- What one page does to an entry that is untied in its result: the entry is on the page just if
the page takes it behind the last entry read. -/
theorem Forward.page_untied (hp : p.Forward o s last) (hs : 0 < s) (ho : TotalPreorder o.compare m)
    (known : Known o m e last) (listed : Listed m es) (untied : Untied o e es) {page : List Entry}
    (read : p.pageOf? es = some page) :
    (page = [] → isBehind o last e = true) ∧
      ∀ d, page.getLast? = some d → Known o m e (some d) ∧
        (page.map (·.key)).count e.key + (isBehind o last e).toNat =
          (isBehind o (some d) e).toNat := by
  obtain ⟨l, sorted⟩ := listed.exists_sort? ho
  have perm := EntryOrder.sort?_perm sorted
  have sub := List.Subset.trans perm.subset listed.subset
  have hl := pairwise_stableSort? (ho.mono listed.subset) sorted
  have keys : (l.map (·.key)).Nodup := (perm.map _).nodup_iff.2 listed.keys
  have mem (d : Entry) (hd : d ∈ last) : d ∈ m := (known d hd).1
  obtain rfl := Option.some.inj (read.symm.trans (hp.pageOf?_eq ho listed mem sorted))
  have untied := untied.of_perm perm
  obtain ⟨q, hq, rfl⟩ := List.mem_iff_getElem.1 untied.mem
  have before := lt_resume_iff ho sub hl keys hq known
  constructor
  · intro nothing
    rw [List.take_eq_nil_iff, List.drop_eq_nil_iff] at nothing
    rw [← before]
    omega
  · intro d hd
    obtain ⟨j, hj, stop, rfl⟩ := getLast?_page hd
    have member := List.getElem_mem hj
    refine ⟨fun d hd => ?_, ?_⟩
    · obtain rfl := Option.some.inj hd
      refine ⟨sub member, fun tie => ?_⟩
      exact (List.inj_on_of_nodup_map keys member (List.getElem_mem hq)
        (untied.apart _ member tie)).symm
    · have after : isBehind o (some l[j]) l[q] = true ↔ q ≤ j := by
        simpa [isBehind] using compare_ne_gt_iff ho sub hl keys hq hj untied
      rw [count_page keys hq]
      cases low : isBehind o last l[q] <;>
        cases high : isBehind o (some l[j]) l[q] <;>
        simp only [low, high, Bool.toNat_true, Bool.toNat_false] at before after ⊢ <;> grind

/-! ## The walk -/

variable {ess : List (List Entry)} {page : List Entry} {pages : List (List Entry)}

theorem walk_of_empty (h : p.pageOf? es = some []) : p.walk (es :: ess) = [some []] := by
  simp [walk, h]

theorem walk_of_getLast? {d : Entry} (h : p.pageOf? es = some page) (last : page.getLast? = some d) :
    p.walk (es :: ess) = some page :: (p.nextPage page).walk ess := by
  have some : page ≠ [] := by
    rintro rfl
    simp at last
  simp [walk, h, some]

/-- A walk that begins reads the first result. -/
theorem mem_take_walk (p : Paging) (es : List Entry) (ess : List (List Entry)) :
    es ∈ (es :: ess).take (p.walk (es :: ess)).length := by
  unfold walk
  split <;> simp

theorem pageOf?_subset (h : p.pageOf? es = some page) : page ⊆ es := by
  obtain ⟨l, sorted, rfl⟩ := Option.map_eq_some_iff.1 h
  intro d hd
  exact (EntryOrder.sort?_perm sorted).mem_iff.1 (List.mem_of_mem_drop (List.mem_of_mem_take hd))

/-- All pages can be read. -/
theorem Forward.exists_pages (hp : p.Forward o s last) (ho : TotalPreorder o.compare m)
    (mem : ∀ d ∈ last, d ∈ m) (listed : ∀ es ∈ ess.take (p.walk ess).length, Listed m es) :
    ∃ pages : List (List Entry), p.walk ess = pages.map some := by
  induction ess generalizing p last with
  | nil => exact ⟨[], rfl⟩
  | cons es ess ih =>
    have here := listed es (p.mem_take_walk es ess)
    obtain ⟨l, sorted⟩ := here.exists_sort? ho
    have read := hp.pageOf?_eq ho here mem sorted
    generalize (l.drop (resume o l last)).take s = page at read
    cases h : page.getLast? with
    | none =>
      obtain rfl := List.getLast?_eq_none_iff.1 h
      exact ⟨[[]], walk_of_empty read⟩
    | some d =>
      have known : ∀ c ∈ some d, c ∈ m := by
        rintro c ⟨⟩
        exact here.subset (pageOf?_subset read (List.mem_of_getLast? h))
      rw [walk_of_getLast? read h] at listed ⊢
      rw [List.length_cons, List.take_succ_cons] at listed
      obtain ⟨pages, later⟩ := ih (hp.nextPage h) known
        fun es h => listed es (List.mem_cons_of_mem _ h)
      exact ⟨page :: pages, by rw [later]; rfl⟩

/-- What is read is read from one of the results. -/
theorem exists_of_mem_walk {d : Entry} (read : p.walk ess = pages.map some)
    (h : d ∈ pages.flatten) : ∃ es ∈ ess.take pages.length, d ∈ es := by
  induction ess generalizing p pages with
  | nil =>
    obtain rfl : pages = [] := by simpa [walk] using read.symm
    simp at h
  | cons es ess ih =>
    unfold walk at read
    split at read
    · cases pages <;> simp at read
    · next page first =>
      cases pages with
      | nil => cases read
      | cons page' pages =>
        obtain ⟨rfl, later⟩ : page = page' ∧ _ := by simpa using read
        rw [List.length_cons, List.take_succ_cons]
        rw [List.flatten_cons, List.mem_append] at h
        rcases h with h | h
        · exact ⟨es, List.mem_cons_self, pageOf?_subset first h⟩
        · split at later
          · obtain rfl : pages = [] := by simpa using later.symm
            simp at h
          · obtain ⟨es, mem, hd⟩ := ih later h
            exact ⟨es, List.mem_cons_of_mem _ mem, hd⟩

/-- An entry that has been read is not read again. One that has not been read is read at most once,
and is read if the walk comes to an end. -/
theorem Forward.count_walk (hp : p.Forward o s last) (hs : 0 < s)
    (ho : TotalPreorder o.compare m) (known : Known o m e last)
    (read : p.walk ess = pages.map some)
    (listed : ∀ es ∈ ess.take pages.length, Listed m es)
    (untied : ∀ es ∈ ess.take pages.length, Untied o e es) :
    (pages.flatten.map (·.key)).count e.key + (isBehind o last e).toNat ≤ 1 ∧
      (pages.getLast? = some [] →
        (pages.flatten.map (·.key)).count e.key + (isBehind o last e).toNat = 1) := by
  induction ess generalizing p last pages with
  | nil =>
    obtain rfl : pages = [] := by simpa [walk] using read.symm
    simp [Bool.toNat_le]
  | cons es ess ih =>
    cases pages with
    | nil =>
      have reads := p.mem_take_walk es ess
      simp [read] at reads
    | cons page pages =>
      rw [List.length_cons, List.take_succ_cons] at listed untied
      have first : p.pageOf? es = some page := by
        unfold walk at read
        split at read
        · simp at read
        · next page' first =>
          rw [first]
          exact (List.cons.inj read).1
      obtain ⟨none, some⟩ := hp.page_untied hs ho known (listed es List.mem_cons_self)
        (untied es List.mem_cons_self) first
      cases h : page.getLast? with
      | none =>
        obtain rfl := List.getLast?_eq_none_iff.1 h
        rw [walk_of_empty first] at read
        obtain rfl : pages = [] := by simpa using (List.cons.inj read).2.symm
        simp [none rfl]
      | some d =>
        obtain ⟨known', count⟩ := some d h
        rw [walk_of_getLast? first h] at read
        obtain ⟨once, ended⟩ := ih (hp.nextPage h) known' (List.cons.inj read).2
          (fun es h => listed es (List.mem_cons_of_mem _ h))
          (fun es h => untied es (List.mem_cons_of_mem _ h))
        rw [List.flatten_cons, List.map_append, List.count_append, List.getLast?_cons]
        refine ⟨by omega, fun final => ?_⟩
        have final : pages.getLast? = Option.some [] := by
          cases rest : pages.getLast? with
          | none => simp_all
          | some page => simpa [rest] using final
        have := ended final
        omega

/-- Whatever happens to the other entries between two reads, every page can be read, and an entry
that is in all the results read, and ties with no other key in them, is read at most once, and
exactly once by the time an empty page is read. -/
theorem walk_visits_once (o : EntryOrder) (s : Nat) (ess : List (List Entry)) (hs : 1 ≤ s) :
    ∃ p, ofSize s = .ok p ∧
      let read := walk (p.withOrder o) ess
      let results := ess.take read.length
      TotalPreorder o.compare results.flatten →
      (∀ es ∈ results, (es.map (·.key)).Nodup ∧ es.length ≤ maxPosition) →
      ∃ pages : List (List Entry), read = pages.map some ∧
        ∀ e, (∀ es ∈ results, e ∈ es ∧ ∀ d ∈ es, o.compare e d = .eq → d.key = e.key) →
          (pages.flatten.map (·.key)).count e.key ≤ 1 ∧
            (pages.getLast? = some [] →
              e ∈ pages.flatten ∧ (pages.flatten.map (·.key)).count e.key = 1) := by
  refine ⟨⟨s, 0, .byValue, [], hs⟩, by simp [ofSize, Nat.lt_of_lt_of_le Nat.zero_lt_one hs]; rfl, ?_⟩
  intro read results ho listed
  have start : Forward o s none (withOrder ⟨s, 0, .byValue, [], hs⟩ o) :=
    ⟨rfl, rfl, fun _ => rfl, by simp, rfl⟩
  have inside : ∀ es ∈ results, Listed results.flatten es := fun es hes =>
    ⟨fun _ hd => List.mem_flatten_of_mem hes hd, (listed es hes).1, (listed es hes).2⟩
  obtain ⟨pages, all⟩ := start.exists_pages ho (by simp) inside
  have count : results = ess.take pages.length := by
    have lengths : read.length = pages.length := (congrArg _ all).trans (List.length_map some)
    rw [← lengths]
  refine ⟨pages, all, fun e stays => ?_⟩
  have unread : Known o results.flatten e none := by simp [Known]
  obtain ⟨once, ended⟩ := start.count_walk hs ho unread all (count ▸ inside)
    (count ▸ fun es hes => ⟨(stays es hes).1, (stays es hes).2⟩)
  refine ⟨once, fun final => ⟨?_, ended final⟩⟩
  -- Whatever has the key of the entry in a result is the entry.
  have found : e.key ∈ pages.flatten.map (·.key) := by
    rw [← List.count_pos_iff]
    have : _ = 1 := ended final
    exact Nat.lt_of_lt_of_le Nat.zero_lt_one (Nat.le_of_eq this.symm)
  obtain ⟨d, hd, same⟩ := List.mem_map.1 found
  obtain ⟨es, hes, mem⟩ := exists_of_mem_walk all hd
  rw [← count] at hes
  rwa [← List.inj_on_of_nodup_map (listed es hes).1 mem (stays es hes).1 same]

/-- Between the reads the anchored entry moves to the end, another one comes in front, and the next
anchored entry is removed; the entry `c` is read once. -/
theorem walk_visits_once_moved :
    let e : Entry := ⟨"c", .bool true⟩
    let ess : List (List Entry) := [[⟨"a", .null⟩, ⟨"b", .bool false⟩, e],
      [⟨"a", .text ""⟩, ⟨"x", .null⟩, ⟨"b", .bool false⟩, e], [e, ⟨"x", .null⟩], [e, ⟨"x", .null⟩]]
    ∃ p, ∃ pages : List (List Entry), ofSize 1 = .ok p ∧
      walk (p.withOrder .byValue) ess = pages.map some ∧ pages.getLast? = some [] ∧
      e ∈ pages.flatten ∧ (pages.flatten.map (·.key)).count e.key = 1 := by
  intro e ess
  obtain ⟨p, created, visits⟩ := walk_visits_once .byValue 1 ess (by decide)
  obtain rfl : p = ⟨1, 0, .byValue, [], by decide⟩ := (Except.ok.inj created).symm
  let read := walk (withOrder ⟨1, 0, .byValue, [], by decide⟩ .byValue) ess
  have walked : read.map (·.map (·.map (·.key))) =
      [some ["a"], some ["b"], some ["c"], some []] := by decide +kernel
  have four : read.length = 4 := by simpa using congrArg List.length walked
  have all : ess.take read.length = ess := by rw [four]; rfl
  have ordered : TotalPreorder EntryOrder.byValue.compare (ess.take read.length).flatten := by
    rw [all]
    exact ⟨by decide, by decide⟩
  have listed : ∀ es ∈ ess.take read.length,
      (es.map (·.key)).Nodup ∧ es.length ≤ maxPosition := by
    rw [all]
    decide
  have stays : ∀ es ∈ ess.take read.length,
      e ∈ es ∧ ∀ d ∈ es, EntryOrder.byValue.compare e d = .eq → d.key = e.key := by
    rw [all]
    refine fun es hes => ⟨?_, ?_⟩
    · simp only [ess, List.mem_cons, List.not_mem_nil, or_false] at hes
      rcases hes with rfl | rfl | rfl | rfl <;> simp
    · revert es
      decide
  obtain ⟨pages, pagesRead, count⟩ := visits ordered listed
  have ended : pages.getLast? = some [] := by
    have last := congrArg List.getLast? walked
    rw [show read = pages.map some from pagesRead, List.map_map, List.getLast?_map] at last
    simpa using last
  obtain ⟨-, once⟩ := count e stays
  exact ⟨_, pages, created, pagesRead, ended, once ended⟩

end Paging

end DataGrid
