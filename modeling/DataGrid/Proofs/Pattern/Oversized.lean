import DataGrid.Proofs.Pattern.Room

/-!
# Wildcard patterns that are too large

An automaton only grows. Backwards, sequences of ranges that begin differently share no states, so
the room that a wildcard takes is known, and a pattern with too many characters or wildcards does
not fit (`room_le_of_fits`).
-/

namespace DataGrid.Pattern

/-! ## Sets of characters -/

section Backwards

variable {s : Shared (Nat × ByteRange)} {seen : List ByteRange} {top target : Nat}
  {key : Nat × ByteRange} {r : ByteRange}

/-- The table has a state for this link. -/
def Linked (s : Shared (Nat × ByteRange)) (key : Nat × ByteRange) : Prop :=
  ∃ slot n, s.table.get? slot = some (key, n)

/-- What the table of a set that ends in the state `top` has: links to states that are built, and
to `top` by these ranges only. -/
structure Known (top : Nat) (seen : List ByteRange) (s : Shared (Nat × ByteRange)) : Prop where
  built : top < s.automaton.states
  below : ∀ key, Linked s key → key.1 < s.automaton.states
  seen : ∀ r, Linked s (top, r) → r ∈ seen

theorem find?_of_not_linked (new : ¬ Linked s key) (slot : Nat) : s.find? slot key = none := by
  unfold Shared.find?
  cases found : s.table.get? slot with
  | none => rfl
  | some p =>
    refine if_neg fun same => new ⟨slot, p.2, ?_⟩
    rw [found, ← same]

theorem linked_build {other : Nat × ByteRange} {grown : Automaton}
    (linked : Linked (s.build slot other grown).2 key) : key = other ∨ Linked s key := by
  obtain ⟨slot, n, found⟩ := linked
  simp only [Shared.build, Std.HashMap.get?_eq_getElem?, Std.HashMap.getElem?_insert] at found
  split at found
  · cases found
    exact .inl rfl
  · exact .inr ⟨slot, n, found⟩

/-- A link to a state is known with the state that it leads from. -/
theorem Known.build (known : Known top seen s) (before : target < s.automaton.states)
    (link : target = top → r ∈ seen) (slot : Nat) :
    Known top seen (s.build slot (target, r) (s.automaton.addStates 1)).2 where
  built := Nat.lt_succ_of_lt known.built
  below key linked := by
    rcases linked_build linked with rfl | old
    · exact Nat.lt_succ_of_lt before
    · exact Nat.lt_succ_of_lt (known.below key old)
  seen r' linked := by
    rcases linked_build linked with same | old
    · cases same
      exact link rfl
    · exact known.seen r' old

/-- Nothing leads yet to the state that is built next. -/
theorem Known.not_linked_build (known : Known top seen s) (before : target < s.automaton.states)
    (slot : Nat) (r' : ByteRange) :
    ¬ Linked (s.build slot (target, r) (s.automaton.addStates 1)).2 (s.automaton.states, r') := by
  intro linked
  rcases linked_build linked with same | old
  · exact absurd (congrArg Prod.fst same) (Nat.ne_of_gt before)
  · exact absurd (known.below _ old) (Nat.lt_irrefl _)

theorem addBackwards_of_not_linked (new : ¬ Linked s (target, r)) (rs : List ByteRange) :
    ∃ slot, addBackwards target s (r :: rs) = addBackwards s.automaton.states
      (s.build slot (target, r) (s.automaton.addStates 1)).2 rs := by
  refine ⟨(mix (mix (mix mixStart target) r.low) r.high).toNat % 1000, ?_⟩
  rw [addBackwards, find?_of_not_linked new]
  rfl

/-- Where nothing leads to a state, each range takes a state of its own. -/
theorem addBackwards_new (known : Known top seen s) (before : target < s.automaton.states)
    (other : target ≠ top) (new : ∀ r, ¬ Linked s (target, r)) (rs : List ByteRange) :
    (addBackwards target s rs).automaton.room = s.automaton.room + 32 * rs.length ∧
      Known top seen (addBackwards target s rs) := by
  induction rs generalizing target s with
  | nil => exact ⟨rfl, known⟩
  | cons r rs ih =>
    obtain ⟨slot, step⟩ := addBackwards_of_not_linked (new r) rs
    obtain ⟨room, known'⟩ := ih (known.build before (fun same => absurd same other) slot)
      (Nat.lt_succ_self _) (Nat.ne_of_gt known.built) (known.not_linked_build before slot)
    rw [step, room, Shared.build, Automaton.room_addStates, List.length_cons]
    exact ⟨by omega, known'⟩

/-- The same at the end of the set, for a first range that leads to it for the first time. -/
theorem addBackwards_first (known : Known top seen s) (first : r ∉ seen) (rs : List ByteRange) :
    (addBackwards top s (r :: rs)).automaton.room = s.automaton.room + 32 * (rs.length + 1) ∧
      Known top (r :: seen) (addBackwards top s (r :: rs)) := by
  obtain ⟨slot, step⟩ := addBackwards_of_not_linked (mt (known.seen r) first) rs
  have wider : Known top (r :: seen) s :=
    ⟨known.built, known.below, fun r' linked => .tail r (known.seen r' linked)⟩
  obtain ⟨room, known'⟩ := addBackwards_new (wider.build known.built (fun _ => .head seen) slot)
    (Nat.lt_succ_self _) (Nat.ne_of_gt known.built) (known.not_linked_build known.built slot) rs
  rw [step, room, Shared.build, Automaton.room_addStates]
  exact ⟨by omega, known'⟩

theorem room_addBackwards_row {sequences : List (List ByteRange)} (some : [] ∉ sequences)
    (distinct : (sequences.map List.head?).Nodup)
    (first : ∀ rs ∈ sequences, ∀ r ∈ rs.head?, r ∉ seen) (known : Known top seen s) :
    (sequences.foldl (fun s rs => addBackwards top s rs) s).automaton.room =
      s.automaton.room + (sequences.map fun rs => 32 * rs.length).sum := by
  induction sequences generalizing s seen with
  | nil => rfl
  | cons rs sequences ih =>
    rw [List.mem_cons, not_or] at some
    rw [List.map_cons, List.nodup_cons] at distinct
    rw [List.forall_mem_cons] at first
    obtain ⟨r, rs, rfl⟩ := List.exists_cons_of_ne_nil (Ne.symm some.1)
    obtain ⟨room, known'⟩ := addBackwards_first known (first.1 r rfl) rs
    have later : ∀ qs ∈ sequences, ∀ q ∈ qs.head?, q ∉ r :: seen := fun qs mem q begins => by
      rw [List.mem_cons, not_or]
      refine ⟨?_, first.2 qs mem q begins⟩
      rintro rfl
      exact distinct.1 (List.mem_map.2 ⟨qs, mem, begins⟩)
    rw [List.foldl_cons, ih some.2 distinct.2 later known', room, List.map_cons, List.sum_cons,
      List.length_cons]
    omega

/-- Sequences that begin differently share no states backwards. -/
theorem room_growBackwards {sequences : List (List ByteRange)} (some : [] ∉ sequences)
    (distinct : (sequences.map List.head?).Nodup) (a : Automaton) :
    (growBackwards sequences a).room =
      a.room + 64 + 4 * sequences.length + (sequences.map fun rs => 32 * rs.length).sum := by
  have start : Known (a.states + 1) []
      ⟨(a.addBranch sequences.length).addStates 1, (∅ : Std.HashMap Nat _)⟩ := by
    refine ⟨Nat.lt_succ_self _, fun key ⟨slot, n, found⟩ => ?_, fun r ⟨slot, n, found⟩ => ?_⟩ <;>
      simp [Std.HashMap.get?_eq_getElem?] at found
  rw [growBackwards, room_addBackwards_row some distinct (by simp) start, Automaton.room_addStates,
    Automaton.room_addBranch]
  omega

theorem room_all_backwards (a : Automaton) :
    ((planOf true (.chars .all)).grow a).room = a.room + 964 := by
  have some : [] ∉ ByteRange.ofCodePoints 0 CharSet.top := by decide +kernel
  have distinct : ((ByteRange.ofCodePoints 0 CharSet.top).map List.head?).Nodup := by
    decide +kernel
  rw [planOf_all, Plan.grow, if_pos rfl, room_growBackwards some distinct]
  have length : (ByteRange.ofCodePoints 0 CharSet.top).length = 9 := by decide +kernel
  have sum : ((ByteRange.ofCodePoints 0 CharSet.top).map fun rs => 32 * rs.length).sum = 864 := by
    decide +kernel
  rw [length, sum]

end Backwards

/-! ## Wildcard texts -/

theorem Automaton.room_le_continueFrom (a : Automaton) (branching : Bool) :
    a.room ≤ (a.continueFrom branching).room := by
  unfold continueFrom
  split <;> simp only [room] <;> omega

/-- What a part of a wildcard pattern takes at least. -/
def least : Pattern → Nat
  | .text cs => 32 * cs.length
  | .chars _ | .repeated .. => 964
  | _ => 0

theorem least_text_append (a b : List Char) :
    least (.text (a ++ b)) = least (.text a) + least (.text b) := by
  simp only [least, List.length_append]
  omega

theorem length_le_utf8ByteSize (cs : List Char) :
    cs.length ≤ (String.ofList cs).utf8ByteSize := by
  induction cs with
  | nil => exact Nat.zero_le _
  | cons c cs ih =>
    have one := c.utf8Size_pos
    rw [utf8ByteSize_ofList_cons, List.length_cons]
    omega

variable {p : Pattern} {ps : List Pattern} {pattern : String}

theorem least_repeated_le {p : Plan} {k : Nat} (room : ∀ a, a.room + k ≤ (p.grow a).room)
    (consuming : Bool) (a : Automaton) :
    a.room + k ≤ ((Plan.repeated p consuming 0 none).grow a).room := by
  have next (a : Automaton) := (p.grow a).room_le_continueFrom p.branching
  rw [Plan.grow, growRepeated]
  dsimp only
  split
  · have := next (a.addBranch 1)
    have := room (a.addBranch 1)
    rw [Automaton.room_addBranch] at this
    omega
  · have := next a
    have := room a
    simp only [Automaton.room_addStates, Automaton.room_addBranch]
    omega

theorem least_part_le (part : WildcardPart p) (a : Automaton) :
    a.room + least p ≤ ((planOf true p).grow a).room := by
  cases part with
  | text cs =>
    have bytes := length_le_utf8ByteSize cs
    simp only [planOf, Plan.grow, Automaton.room, Automaton.addStates, Automaton.empty, least]
    omega
  | look k =>
    simp only [planOf, Plan.grow, Automaton.room, Automaton.addStates, Automaton.empty, least]
    omega
  | one => simp only [least, room_all_backwards, le_refl]
  | run => exact least_repeated_le (fun a => (room_all_backwards a).ge) _ a

theorem least_row_le (parts : ∀ p ∈ ps, WildcardPart p) (a : Automaton) :
    a.room + (ps.map least).sum ≤ (growRow (ps.map (planOf true)) a).room := by
  induction ps generalizing a with
  | nil => exact Nat.le_refl _
  | cons p ps ih =>
    rw [List.forall_mem_cons] at parts
    rw [List.map_cons, List.sum_cons, List.map_cons, growRow]
    refine le_trans ?_ (ih parts.2 _)
    have first := least_part_le parts.1 a
    have next := Automaton.room_le_continueFrom ((planOf true p).grow a)
      (!(ps.map (planOf true)).isEmpty && (planOf true p).branching)
    omega

theorem least_seq_le (parts : ∀ p ∈ ps, WildcardPart p) (a : Automaton) :
    a.room + (ps.map least).sum ≤ ((planOf true (.seq ps)).grow a).room := by
  have reversed := least_row_le (fun p hp => parts p (List.mem_reverse.1 hp)) a
  rw [planOf, Plan.grow, planAll_eq_map]
  rwa [List.map_reverse, List.map_reverse, List.sum_reverse] at reversed

theorem least_concat_le (parts : ∀ p ∈ ps, WildcardPart p) (a : Automaton) :
    a.room + (ps.map least).sum ≤ ((planOf true (concat ps)).grow a).room := by
  have merged := wildcardPart_foldr_putBefore parts
  rw [concat, flatMap_parts_of_wildcardPart parts, ← sum_foldr_putBefore least_text_append]
  split
  · next none =>
    rw [none]
    simp only [List.map_nil, List.sum_nil, planOf, Plan.grow, Automaton.room, Automaton.addStates,
      Automaton.empty]
    omega
  · next p one =>
    rw [one] at merged ⊢
    simpa using least_part_le (merged p (.head _)) a
  · exact least_seq_le merged a

theorem least_automaton_le {least : Nat}
    (room : ∀ a, a.room + least ≤ ((planOf true p).grow a).room) :
    least ≤ (automaton true p).room := by
  unfold automaton
  simp only [if_true, Automaton.room_addStates]
  refine le_trans ?_ (Nat.le_add_right _ _)
  exact (Nat.le_add_left _ _).trans ((room _).trans (Automaton.room_le_continueFrom _ _))

theorem isDictionary_concat (parts : ∀ p ∈ ps, WildcardPart p) :
    isDictionary (concat ps) = false := by
  have merged := wildcardPart_foldr_putBefore parts
  rw [concat, flatMap_parts_of_wildcardPart parts]
  split
  · rfl
  · next p one =>
    rw [one] at merged
    cases merged p (.head _) <;> rfl
  · rfl

theorem least_ofWildcard (c : Char) :
    least (ofWildcard c) = 32 + if c == '%' || c == '_' then 932 else 0 := by
  unfold ofWildcard
  split
  · rfl
  · rfl
  · next run one =>
    have plain : (c == '%' || c == '_') = false := by simpa using And.intro run one
    rw [plain]
    rfl

theorem sum_least_wildcards (cs : List Char) : ((cs.map ofWildcard).map least).sum =
    32 * cs.length + 932 * cs.countP (fun c => c == '%' || c == '_') := by
  induction cs with
  | nil => rfl
  | cons c cs ih =>
    rw [List.map_cons, List.map_cons, List.sum_cons, ih, least_ofWildcard, List.length_cons,
      List.countP_cons]
    split <;> omega

/-- A wildcard text that fits has few characters, and even fewer wildcards. -/
theorem room_le_of_fits (small : (like pattern).fits = true) :
    32 * pattern.length + 932 * pattern.toList.countP (fun c => c == '%' || c == '_') ≤
      sizeLimit := by
  have parts := wildcardPart_like pattern
  have backwards : (automaton true (like pattern)).room ≤ sizeLimit := by
    rw [fits, like, isDictionary_concat parts, Bool.false_or, Bool.and_eq_true] at small
    exact of_decide_eq_true small.2
  have room := (least_automaton_le (least_concat_le parts)).trans backwards
  rw [List.cons_append, List.map_cons, List.map_append, List.sum_cons, List.sum_append,
    sum_least_wildcards, String.length_toList] at room
  omega

theorem fits_underscores {n : Nat} (many : sizeLimit < 964 * n) :
    (like (String.ofList (List.replicate n '_'))).fits = false := by
  refine Bool.eq_false_iff.2 fun small => ?_
  have room := room_le_of_fits small
  rw [String.length_ofList, List.length_replicate, String.toList_ofList, List.countP_replicate,
    if_pos (by decide)] at room
  omega

end DataGrid.Pattern
