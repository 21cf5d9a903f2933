import DataGrid.Proofs.Store.Content
import Mathlib.Data.Set.Card

/-!
# The store as one map

Collections, partitions and shards do not show in what a store answers: it answers like one map
from collection and key to value, and its partitions divide the entries of that map among them
(`answers_eq_plainMap`).
-/

namespace DataGrid

inductive StoreCall where
  | put (collection key : String) (value : Value)
  | get (collection key : String)
  | remove (collection key : String)

/-- One map from collection and key to value. -/
abbrev PlainMap := String × String → Option Value

def PlainMap.answer (m : PlainMap) : StoreCall → Option Value × PlainMap
  | .put c k v => (m (c, k), Function.update m (c, k) (some v))
  | .get c k => (m (c, k), m)
  | .remove c k => (m (c, k), Function.update m (c, k) none)

def Store.answer (s : Store) : StoreCall → Option Value × Store
  | .put c k v => s.put c k v
  | .get c k => (s.get? c k, s)
  | .remove c k => s.remove c k

/-- The answers to calls one after the other, and the state after the last. -/
def StoreCall.answers {σ : Type} (answer : σ → StoreCall → Option Value × σ) (s : σ) :
    List StoreCall → List (Option Value) × σ
  | [] => ([], s)
  | call :: calls =>
    let (v, s) := answer s call
    let (vs, s) := answers answer s calls
    (v :: vs, s)

namespace Store

variable {P : Value → Prop} {s : Store} {m : PlainMap} {c c' k k' : String}

/-! ## Removing -/

@[simp] theorem partitioning_put (s : Store) (c k : String) (v : Value) :
    (s.put c k v).2.partitioning = s.partitioning := rfl

@[simp] theorem partitioning_remove (s : Store) (c k : String) :
    (s.remove c k).2.partitioning = s.partitioning := by
  unfold remove
  dsimp only
  split <;> rfl

theorem remove_fst (s : Store) (c k : String) : (s.remove c k).1 = s.get? c k := by
  unfold remove
  dsimp only
  split
  · next h => exact h.symm
  · next h => exact h.symm

theorem getElem?_shard_remove (s : Store) (c k : String) (c' : String) (p : Nat) (j : String) :
    ((s.remove c k).2.shard c' p)[j]? =
      if c = c' ∧ s.partitioning.partitionOf k = p ∧ k = j then none else (s.shard c' p)[j]? := by
  unfold remove
  dsimp only
  split
  · next absent =>
    split
    · next here =>
      obtain ⟨rfl, rfl, rfl⟩ := here
      exact absent
    · rfl
  · simp only [shard, Std.TreeMap.getD_insert, Std.LawfulEqOrd.compare_eq_iff_eq]
    by_cases hc : c = c'
    · subst hc
      by_cases hp : s.partitioning.partitionOf k = p
      · subst hp
        simp [Std.TreeMap.getElem?_erase]
      · simp [hp, Std.TreeMap.getD_insert]
    · simp [hc]

theorem Filled.remove (h : s.Filled P) (c k : String) : (s.remove c k).2.Filled P := by
  have kept {c' : String} {p : Nat} {j : String} {w : Value}
      (found : ((s.remove c k).2.shard c' p)[j]? = some w) : (s.shard c' p)[j]? = some w := by
    rw [getElem?_shard_remove] at found
    split at found
    · cases found
    · exact found
  refine ⟨fun c' p j w found => ?_, fun c' p j w found => h.values c' p j w (kept found)⟩
  rw [partitioning_remove]
  exact h.placed c' p j w (kept found)

/-! ## Looking up -/

theorem get?_put (s : Store) (c k : String) (v : Value) (c' k' : String) :
    (s.put c k v).2.get? c' k' = if c = c' ∧ k = k' then some v else s.get? c' k' := by
  rw [get?, partitioning_put, shard_put, get?]
  by_cases hk : k = k'
  · subst hk
    by_cases hc : c = c' <;> simp [hc]
  · split <;> simp [hk, Std.TreeMap.getElem?_insert]

theorem get?_remove (s : Store) (c k c' k' : String) :
    (s.remove c k).2.get? c' k' = if c = c' ∧ k = k' then none else s.get? c' k' := by
  rw [get?, partitioning_remove, getElem?_shard_remove, get?]
  by_cases hk : k = k'
  · subst hk
    simp
  · simp [hk]

/-! ## Agreement with one map -/

/-- Whatever is looked up, in the store or in the map, is the same. -/
structure Represents (s : Store) (m : PlainMap) : Prop where
  filled : s.Filled fun _ => True
  get? : ∀ c k, s.get? c k = m (c, k)

theorem represents_empty (q : Partitioning) : (empty q).Represents fun _ => none :=
  ⟨filled_empty q, fun c k => by simp [Store.get?]⟩

/-- A call is answered alike and keeps the agreement. -/
theorem Represents.answer (h : s.Represents m) (call : StoreCall) :
    (s.answer call).1 = (m.answer call).1 ∧ (s.answer call).2.Represents (m.answer call).2 := by
  cases call with
  | get c k => exact ⟨h.get? c k, h⟩
  | put c k v =>
    refine ⟨h.get? c k, h.filled.put c k trivial, fun c' k' => ?_⟩
    simp only [Store.answer, PlainMap.answer, get?_put, Function.update_apply, Prod.mk.injEq,
      h.get?, eq_comm]
  | remove c k =>
    refine ⟨(remove_fst s c k).trans (h.get? c k), h.filled.remove c k, fun c' k' => ?_⟩
    simp only [Store.answer, PlainMap.answer, get?_remove, Function.update_apply, Prod.mk.injEq,
      h.get?, eq_comm]

theorem partitioning_answer (s : Store) (call : StoreCall) :
    (s.answer call).2.partitioning = s.partitioning := by
  cases call <;> simp [answer]

theorem Represents.answers (h : s.Represents m) (calls : List StoreCall) :
    (StoreCall.answers Store.answer s calls).1 = (StoreCall.answers PlainMap.answer m calls).1 ∧
      (StoreCall.answers Store.answer s calls).2.Represents
        (StoreCall.answers PlainMap.answer m calls).2 := by
  induction calls generalizing s m with
  | nil => exact ⟨rfl, h⟩
  | cons call calls ih =>
    obtain ⟨same, next⟩ := h.answer call
    obtain ⟨rest, last⟩ := ih next
    exact ⟨congrArg₂ _ same rest, last⟩

theorem partitioning_answers (s : Store) (calls : List StoreCall) :
    (StoreCall.answers answer s calls).2.partitioning = s.partitioning := by
  induction calls generalizing s with
  | nil => rfl
  | cons call calls ih => exact (ih _).trans (partitioning_answer s call)

/-! ## Counting -/

/-- The partitions of a collection that have come into being. -/
def opened (s : Store) (c : String) : List Nat := (s.collections.getD c ∅).keys

theorem mem_opened {p : Nat} (h : (s.shard c p)[k]? ≠ none) : p ∈ s.opened c := by
  rw [opened, Std.TreeMap.mem_keys]
  by_contra absent
  refine h ?_
  rw [shard, Std.TreeMap.getD_eq_fallback absent]
  exact Std.TreeMap.getElem?_emptyc

theorem entryCount_eq (s : Store) (c : String) :
    s.entryCount c = ((s.opened c).flatMap (s.dump c)).length := by
  have sized (e : Nat × Shard) (he : e ∈ (s.collections.getD c ∅).toList) :
      e.2.size = (s.dump c e.1).length := by
    have found := Std.TreeMap.mem_toList_iff_getElem?_eq_some.1 he
    rw [dump, List.length_map, Std.TreeMap.length_toList, shard,
      Std.TreeMap.getD_eq_getD_getElem?, found, Option.getD_some]
  rw [entryCount, opened, ← Std.TreeMap.map_fst_toList_eq_keys, List.flatMap_map,
    List.length_flatMap, ← List.map_congr_left sized, List.sum_eq_foldl, List.foldl_map]

theorem Represents.entryCount (h : s.Represents m) (c : String) :
    {k | m (c, k) ≠ none}.encard = s.entryCount c := by
  have live : {k | m (c, k) ≠ none} =
      ↑(((s.opened c).flatMap (s.dump c)).map (·.key)).toFinset := by
    ext k
    rw [Set.mem_ofPred_eq, Finset.mem_coe, List.mem_toFinset, List.mem_map, ← h.get?,
      Option.ne_none_iff_exists']
    constructor
    · rintro ⟨v, found⟩
      have there : (s.shard c (s.partitioning.partitionOf k))[k]? ≠ none :=
        Option.ne_none_iff_exists'.2 ⟨v, found⟩
      exact ⟨⟨k, v⟩, List.mem_flatMap.2 ⟨_, mem_opened there, mem_dump.2 found⟩, rfl⟩
    · rintro ⟨e, he, rfl⟩
      obtain ⟨p, -, he⟩ := List.mem_flatMap.1 he
      have found := mem_dump.1 he
      obtain rfl := h.filled.placed c p e.key e.value found
      exact ⟨e.value, found⟩
  have distinct : (((s.opened c).flatMap (s.dump c)).map (·.key)).Nodup :=
    nodup_keys h.filled c Std.TreeMap.nodup_keys
  rw [live, Set.encard_coe_eq_coe_finsetCard,
    List.toFinset_card_of_nodup distinct, List.length_map, entryCount_eq]

/-! ## Partitions -/

theorem Represents.mem_dump (h : s.Represents m) {p : Nat} {e : Entry} :
    e ∈ s.dump c p ↔ m (c, e.key) = some e.value ∧ s.partitioning.partitionOf e.key = p := by
  rw [Store.mem_dump, ← h.get?]
  constructor
  · intro found
    obtain rfl := h.filled.placed c p e.key e.value found
    exact ⟨found, rfl⟩
  · rintro ⟨found, rfl⟩
    exact found

theorem scan_of_lt (s : Store) (c : String) (matching : Entry → Bool) {p : Nat}
    (h : p < s.partitioning.count) : s.scan c matching p = .ok ((s.dump c p).filter matching) := by
  simp [scan, Partitioning.contains, h, pure, Except.pure]

theorem scan_of_le (s : Store) (c : String) (matching : Entry → Bool) {p : Nat}
    (h : s.partitioning.count ≤ p) : s.scan c matching p = .error (.unknownPartition p) := by
  simp [scan, Partitioning.contains, Nat.not_lt.2 h, throw, throwThe, MonadExceptOf.throw]

/-- Scanning partitions one after the other gives what each of them holds. -/
theorem mapM_scan (s : Store) (c : String) (matching : Entry → Bool) {ps : List Nat}
    (h : ∀ p ∈ ps, p < s.partitioning.count) :
    ps.mapM (s.scan c matching) = .ok (ps.map fun p => (s.dump c p).filter matching) := by
  induction ps with
  | nil => rfl
  | cons p ps ih =>
    rw [List.mapM_cons, scan_of_lt s c matching (h p (by simp)),
      ih fun q hq => h q (by simp [hq])]
    rfl

/-- A store with any number of partitions, none counting as one, answers calls like one map from
collection and key to value. A collection counts the keys that are live in the map; a partition
lists the live entries whose key selects it, each once, and a scan those of them that match; all
partitions together have every live matching entry once, and there is no other partition. -/
theorem answers_eq_plainMap (n : Nat) (calls : List StoreCall) :
    let s := (StoreCall.answers answer (empty (.ofCount n)) calls).2
    let m := (StoreCall.answers PlainMap.answer (fun _ => none) calls).2
    (StoreCall.answers answer (empty (.ofCount n)) calls).1 =
      (StoreCall.answers PlainMap.answer (fun _ => none) calls).1 ∧
    (∀ c, {k | m (c, k) ≠ none}.encard = s.entryCount c) ∧
    (∀ c, ∀ p < max n 1, ((s.dump c p).map (·.key)).Nodup ∧ ∀ e, e ∈ s.dump c p ↔
      m (c, e.key) = some e.value ∧ (Partitioning.ofCount n).partitionOf e.key = p) ∧
    (∀ c matching, ∀ p < max n 1, ∃ es, s.scan c matching p = .ok es ∧
      (es.map (·.key)).Nodup ∧ ∀ e, e ∈ es ↔
        (m (c, e.key) = some e.value ∧ (Partitioning.ofCount n).partitionOf e.key = p) ∧
          matching e = true) ∧
    (∀ c matching, ∃ ess, (Partitioning.ofCount n).ids.mapM (s.scan c matching) = .ok ess ∧
      (ess.flatten.map (·.key)).Nodup ∧ ∀ e, e ∈ ess.flatten ↔
        m (c, e.key) = some e.value ∧ matching e = true) ∧
    ∀ c matching p, max n 1 ≤ p → s.scan c matching p = .error (.unknownPartition p) := by
  intro s m
  obtain ⟨same, represents⟩ := (represents_empty (.ofCount n)).answers calls
  have represents : s.Represents m := represents
  have partitions : s.partitioning = .ofCount n := partitioning_answers _ calls
  have listed (c : String) (p : Nat) (e : Entry) : e ∈ s.dump c p ↔
      m (c, e.key) = some e.value ∧ (Partitioning.ofCount n).partitionOf e.key = p := by
    rw [represents.mem_dump, partitions]
  have within {p : Nat} (h : p < max n 1) : p < s.partitioning.count := by
    rw [partitions]
    exact h
  refine ⟨same, represents.entryCount, fun c p _ => ⟨nodup_dump s c p, listed c p⟩,
    fun c matching p h => ?_, fun c matching => ?_, fun c matching p h => ?_⟩
  · refine ⟨_, scan_of_lt s c matching (within h), ?_, fun e => ?_⟩
    · exact (nodup_dump s c p).sublist (List.filter_sublist.map _)
    · rw [List.mem_filter, listed]
  · have inside (p : Nat) (hp : p ∈ (Partitioning.ofCount n).ids) : p < s.partitioning.count :=
      within (Partitioning.mem_ids.1 hp)
    have all := mapM_scan s c matching inside
    have content : (((Partitioning.ofCount n).ids.map fun p =>
        (s.dump c p).filter matching)).flatten = s.content c matching := by
      rw [Store.content, partitions, List.flatMap_def]
      rfl
    refine ⟨_, all, ?_, fun e => ?_⟩
    · rw [content]
      exact nodup_content represents.filled c matching
    · rw [content, mem_content represents.filled, represents.get?]
  · exact scan_of_le s c matching (partitions ▸ h)

/-- No partitions are one, which holds what is live after a key was put twice and another one
removed. -/
theorem answers_eq_plainMap_clamped :
    let calls : List StoreCall := [.put "c" "a" .null, .put "c" "b" (.bool true),
      .put "c" "a" (.text "x"), .remove "c" "b", .get "c" "b"]
    let s := (StoreCall.answers answer (empty (.ofCount 0)) calls).2
    (StoreCall.answers answer (empty (.ofCount 0)) calls).1 =
      [none, none, some .null, some (.bool true), none] ∧
    0 < max 0 1 ∧
    (∃ es, s.scan "c" (fun _ => true) 0 = .ok es ∧ ∀ e, e ∈ es ↔ e = ⟨"a", .text "x"⟩) ∧
    max 0 1 ≤ 1 ∧ s.scan "c" (fun _ => true) 1 = .error (.unknownPartition 1) := by
  intro calls s
  obtain ⟨same, -, -, scans, -, refused⟩ := answers_eq_plainMap 0 calls
  refine ⟨same.trans ?_, by decide, ?_, by decide, refused _ _ _ (by decide)⟩
  · simp [calls, StoreCall.answers, PlainMap.answer]
  · obtain ⟨es, found, -, members⟩ := scans "c" (fun _ => true) 0 (by decide)
    refine ⟨es, found, fun ⟨k, v⟩ => (members _).trans ?_⟩
    have only : (Partitioning.ofCount 0).partitionOf k = 0 := Nat.mod_one _
    simp only [calls, StoreCall.answers, PlainMap.answer, Function.update_apply, only]
    grind

end Store

end DataGrid
