import DataGrid.Pattern.Like
import Mathlib.Algebra.Ring.Nat
import Mathlib.Order.Nat
import Mathlib.Tactic.Push

/-!
# The room of wildcard patterns

How much larger an automaton gets by a set of characters is bounded by the number of its sequences
and their length, whatever states it shares; by a row of parts, by what each of them takes. So a
wildcard text of up to 2000 characters is never too large (`fits_like`).
-/

namespace DataGrid.Pattern

namespace Automaton

variable (a : Automaton) (n : Nat)

@[simp] theorem room_addStates : (a.addStates n).room = a.room + 32 * n := by
  simp only [room, addStates]
  omega

@[simp] theorem room_addBranch : (a.addBranch n).room = a.room + 32 + 4 * n := by
  simp only [room, addBranch]
  omega

@[simp] theorem room_addChoice : (a.addChoice n).room = a.room + 32 + 8 * n := by
  simp only [room, addChoice]
  omega

theorem room_continueFrom_le (branching : Bool) : (a.continueFrom branching).room ≤ a.room + 4 := by
  unfold continueFrom
  split <;> simp only [room] <;> omega

end Automaton

/-! ## Sets of characters -/

section Forwards

theorem room_stateOf_le (s : Shared (List Link)) (links : List Link) :
    (s.stateOf links).2.automaton.room ≤ s.automaton.room + 32 + 8 * links.length := by
  unfold Shared.stateOf
  dsimp only
  split
  · dsimp only
    omega
  · simp [Shared.build]

theorem length_close_le (d : Draft) (target : Nat) :
    (d.close target).links.length ≤ d.links.length + 1 := by
  unfold Draft.close
  split <;> simp

/-- So many drafts at most, each with so many links at most. -/
structure Slim (length width : Nat) (ds : List Draft) : Prop where
  length_le : ds.length ≤ length
  width_le : ∀ d ∈ ds, d.links.length ≤ width

variable {length width : Nat} {ds : List Draft}

theorem room_closeDrafts_le (slim : Slim length width ds) (target : Nat)
    (s : Shared (List Link)) :
    (closeDrafts target s ds).2.automaton.room ≤ s.automaton.room + length * (40 + 8 * width) := by
  have each : (closeDrafts target s ds).2.automaton.room ≤
      s.automaton.room + ds.length * (40 + 8 * width) := by
    have wide := slim.width_le
    clear slim
    induction ds with
    | nil => simp [closeDrafts]
    | cons d ds ih =>
      have before := ih fun d hd => wide d (.tail _ hd)
      have state := room_stateOf_le (closeDrafts target s ds).2
        (d.close (closeDrafts target s ds).1).links
      have links := length_close_le d (closeDrafts target s ds).1
      have few := wide d (.head _)
      rw [List.length_cons, Nat.succ_mul]
      change (Shared.stateOf _ _).2.automaton.room ≤ _
      omega
  exact each.trans (Nat.add_le_add_left (Nat.mul_le_mul_right _ slim.length_le) _)

theorem agreement_le (rs : List ByteRange) (ds : List Draft) :
    agreement rs ds ≤ rs.length ∧ agreement rs ds ≤ ds.length := by
  fun_induction agreement rs ds <;> simp_all

theorem slim_addSequence (slim : Slim length width ds) (target : Nat) (s : Shared (List Link))
    {rs : List ByteRange} (short : rs.length ≤ length) :
    Slim length (width + 1) (addSequence target ds s rs).1 := by
  obtain ⟨inRange, inDrafts⟩ := agreement_le rs ds
  have few := slim.length_le
  have old : ∀ d ∈ ds, d.links.length ≤ width + 1 := fun d hd =>
    (slim.width_le d hd).trans (Nat.le_succ _)
  have fresh : ∀ d ∈ (rs.drop (agreement rs ds + 1)).map fun r => (⟨[], some r⟩ : Draft),
      d.links.length ≤ width + 1 := fun d hd => by
    obtain ⟨r, -, rfl⟩ := List.mem_map.1 hd
    exact Nat.zero_le _
  unfold addSequence
  dsimp only
  refine ⟨?_, fun d hd => ?_⟩
  · rw [List.length_append, List.length_map, List.length_drop]
    split
    · next _ _ _ _ _ more =>
      have := congrArg List.length more
      rw [List.length_drop, List.length_cons] at this
      rw [List.length_append, List.length_take, List.length_singleton]
      omega
    · next none =>
      -- The drafts stay, for one of the two ends where they agree.
      have done : ds.length ≤ agreement rs ds ∨ rs.length ≤ agreement rs ds := by
        by_contra both
        push Not at both
        exact none _ _ _ _ (List.drop_eq_getElem_cons both.1) (List.drop_eq_getElem_cons both.2)
      omega
  · rw [List.mem_append] at hd
    rcases hd with kept | new
    · split at kept
      · next d' _ _ _ here _ =>
        rw [List.mem_append, List.mem_singleton] at kept
        rcases kept with taken | rfl
        · exact old d (List.mem_of_mem_take taken)
        · have mem : d' ∈ ds := List.mem_of_mem_drop (here ▸ List.mem_cons_self)
          exact (length_close_le d' _).trans (Nat.succ_le_succ (slim.width_le d' mem))
      · exact old d kept
    · exact fresh d new

theorem room_addSequence_le (slim : Slim length width ds) (target : Nat) (s : Shared (List Link))
    (rs : List ByteRange) :
    (addSequence target ds s rs).2.automaton.room ≤
      s.automaton.room + length * (40 + 8 * width) := by
  refine room_closeDrafts_le ⟨?_, fun d hd => slim.width_le d (List.mem_of_mem_drop hd)⟩ target s
  exact (List.length_drop ▸ Nat.sub_le _ _).trans slim.length_le

theorem addSequences_le (slim : Slim length width ds) (target : Nat) (s : Shared (List Link))
    {sequences : List (List ByteRange)} (short : ∀ rs ∈ sequences, rs.length ≤ length)
    {most : Nat} (wide : width + sequences.length ≤ most) :
    Slim length most (addSequences target ds s sequences).1 ∧
      (addSequences target ds s sequences).2.automaton.room ≤
        s.automaton.room + sequences.length * (length * (40 + 8 * most)) := by
  induction sequences generalizing width ds s with
  | nil =>
    exact ⟨⟨slim.length_le, fun d hd => (slim.width_le d hd).trans wide⟩, by simp [addSequences]⟩
  | cons rs sequences ih =>
    rw [List.length_cons] at wide
    have first := room_addSequence_le slim target s rs
    have grown := slim_addSequence slim target s (short rs (.head _))
    obtain ⟨slim', rest⟩ := ih grown (addSequence target ds s rs).2
      (fun rs hrs => short rs (.tail _ hrs)) (by omega)
    have unfolded : addSequences target ds s (rs :: sequences) = addSequences target
        (addSequence target ds s rs).1 (addSequence target ds s rs).2 sequences := rfl
    have step : length * (40 + 8 * width) ≤ length * (40 + 8 * most) :=
      Nat.mul_le_mul_left _ (by omega)
    rw [unfolded, List.length_cons, Nat.succ_mul]
    exact ⟨slim', by omega⟩

theorem room_growForwards_le {sequences : List (List ByteRange)} (a : Automaton)
    (short : ∀ rs ∈ sequences, rs.length ≤ length) (some : 0 < length) :
    (growForwards sequences a).room ≤
      a.room + 32 + (sequences.length + 1) * (length * (40 + 8 * sequences.length)) := by
  have start : Slim length 0 [⟨[], none⟩] := ⟨some, by simp⟩
  obtain ⟨slim, room⟩ := addSequences_le start a.states ⟨a.addStates 1, ∅⟩ short
    (Nat.le_of_eq (Nat.zero_add sequences.length))
  have last := room_closeDrafts_le slim a.states
    (addSequences a.states [⟨[], none⟩] ⟨a.addStates 1, ∅⟩ sequences).2
  rw [Automaton.room_addStates] at room
  rw [Nat.succ_mul]
  change (closeDrafts _ _ _).2.automaton.room ≤ _
  omega

end Forwards

section Backwards

theorem room_addBackwards_le (target : Nat) (s : Shared (Nat × ByteRange)) (rs : List ByteRange) :
    (addBackwards target s rs).automaton.room ≤ s.automaton.room + 32 * rs.length := by
  induction rs generalizing target s with
  | nil => simp [addBackwards]
  | cons r rs ih =>
    rw [List.length_cons, addBackwards]
    dsimp only
    split
    · next n _ =>
      have := ih n s
      omega
    · refine (ih _ _).trans ?_
      simp only [Shared.build, Automaton.room_addStates]
      omega

theorem room_growBackwards_le {length : Nat} {sequences : List (List ByteRange)} (a : Automaton)
    (short : ∀ rs ∈ sequences, rs.length ≤ length) :
    (growBackwards sequences a).room ≤
      a.room + 64 + sequences.length * (4 + 32 * length) := by
  have row (target : Nat) (s : Shared (Nat × ByteRange)) :
      (sequences.foldl (fun s rs => addBackwards target s rs) s).automaton.room ≤
        s.automaton.room + sequences.length * (32 * length) := by
    induction sequences generalizing s with
    | nil => simp
    | cons rs sequences ih =>
      have first := room_addBackwards_le target s rs
      have rest := ih (fun rs hrs => short rs (.tail _ hrs)) (addBackwards target s rs)
      have := short rs (.head _)
      rw [List.foldl_cons, List.length_cons, Nat.succ_mul]
      omega
  have all := row (a.states + 1) ⟨(a.addBranch sequences.length).addStates 1, ∅⟩
  simp only [Automaton.room_addStates, Automaton.room_addBranch] at all
  have unfolded : growBackwards sequences a = (sequences.foldl
      (fun s rs => addBackwards (a.states + 1) s rs)
      ⟨(a.addBranch sequences.length).addStates 1, ∅⟩).automaton := rfl
  rw [Nat.mul_add, unfolded]
  omega

end Backwards

theorem planOf_all (back : Bool) :
    planOf back (.chars .all) = .set back (ByteRange.ofCodePoints 0 CharSet.top) := by
  have sequences : CharSet.all.ranges.flatMap (fun r => ByteRange.ofCodePoints r.1 r.2) =
      ByteRange.ofCodePoints 0 CharSet.top := List.append_nil _
  rw [planOf, planSet, sequences]
  rfl

/-- A set of all characters takes no more than this, read forwards or backwards. -/
theorem room_all_le (back : Bool) (a : Automaton) :
    ((planOf back (.chars .all)).grow a).room ≤ a.room + 4512 := by
  have count : (ByteRange.ofCodePoints 0 CharSet.top).length = 9 := by decide +kernel
  have short : ∀ rs ∈ ByteRange.ofCodePoints 0 CharSet.top, rs.length ≤ 4 := by decide +kernel
  rw [planOf_all, Plan.grow]
  split
  · have := room_growBackwards_le a short
    omega
  · have := room_growForwards_le a short (by decide)
    rw [count] at this
    omega

/-! ## Rows of parts -/

/-- The parts that wildcard patterns consist of. -/
inductive WildcardPart : Pattern → Prop
  | text (cs : List Char) : WildcardPart (.text cs)
  | look (k : Look) : WildcardPart (.look k)
  | one : WildcardPart (.chars .all)
  | run : WildcardPart (.repeated (.chars .all) 0 none true)

/-- What a part of a wildcard pattern takes at most, with the link from the part before it. -/
def weight : Pattern → Nat
  | .text cs => 128 * cs.length
  | _ => 4640

theorem utf8ByteSize_ofList_cons (c : Char) (cs : List Char) :
    (String.ofList (c :: cs)).utf8ByteSize = c.utf8Size + (String.ofList cs).utf8ByteSize := by
  have split : String.ofList (c :: cs) = String.singleton c ++ String.ofList cs := by
    rw [String.singleton_eq_ofList, ← String.ofList_append, List.singleton_append]
  rw [split, String.utf8ByteSize_append, String.utf8ByteSize_singleton]

theorem utf8ByteSize_ofList_le (cs : List Char) :
    (String.ofList cs).utf8ByteSize ≤ 4 * cs.length := by
  induction cs with
  | nil => simp
  | cons c cs ih =>
    have one := c.utf8Size_le_four
    rw [utf8ByteSize_ofList_cons, List.length_cons]
    omega

theorem room_repeated_le {p : Plan} {k : Nat} (room : ∀ a, (p.grow a).room ≤ a.room + k)
    (consuming : Bool) (a : Automaton) :
    ((Plan.repeated p consuming 0 none).grow a).room ≤ a.room + k + 116 := by
  have next (a : Automaton) := (p.grow a).room_continueFrom_le p.branching
  rw [Plan.grow, growRepeated]
  dsimp only
  split
  · have := next (a.addBranch 1)
    have := room (a.addBranch 1)
    rw [Automaton.room_addBranch] at this
    omega
  · have := next a
    have := room a
    simp only [Automaton.room_addStates, Automaton.room_addBranch]
    omega

theorem room_part_le {p : Pattern} (part : WildcardPart p) (back more : Bool) (a : Automaton) :
    (((planOf back p).grow a).continueFrom (more && (planOf back p).branching)).room ≤
      a.room + weight p := by
  have next := ((planOf back p).grow a).room_continueFrom_le (more && (planOf back p).branching)
  cases part with
  | text cs =>
    have bytes := utf8ByteSize_ofList_le cs
    simp only [planOf, Plan.grow, Plan.branching, Bool.and_false, Automaton.continueFrom,
      Bool.false_eq_true, if_false, Automaton.room, Automaton.addStates, Automaton.empty, weight]
    omega
  | look k =>
    refine next.trans ?_
    simp only [planOf, Plan.grow, Automaton.room, Automaton.addStates, Automaton.empty, weight]
    omega
  | one =>
    have := room_all_le back a
    simp only [weight]
    omega
  | run =>
    have := room_repeated_le (room_all_le back) (consumes (.chars .all)) a
    refine next.trans ?_
    rw [planOf]
    simp only [weight]
    omega

theorem room_row_le {ps : List Pattern} (parts : ∀ p ∈ ps, WildcardPart p) (back : Bool)
    (a : Automaton) :
    (growRow (ps.map (planOf back)) a).room ≤ a.room + (ps.map weight).sum := by
  induction ps generalizing a with
  | nil => simp [growRow]
  | cons p ps ih =>
    have first := room_part_le (parts p (.head _)) back
      (!(ps.map (planOf back)).isEmpty) a
    rw [List.map_cons, growRow, List.map_cons, List.sum_cons]
    refine (ih (fun p hp => parts p (.tail _ hp)) _).trans ?_
    omega

theorem planAll_eq_map (back : Bool) (ps : List Pattern) :
    planAll back ps = ps.map (planOf back) := by
  induction ps with
  | nil => rfl
  | cons p ps ih => rw [planAll, ih, List.map_cons]

theorem room_seq_le {ps : List Pattern} (parts : ∀ p ∈ ps, WildcardPart p) (back : Bool)
    (a : Automaton) :
    ((planOf back (.seq ps)).grow a).room ≤ a.room + (ps.map weight).sum := by
  rw [planOf, Plan.grow, planAll_eq_map]
  cases back with
  | false => exact room_row_le parts false a
  | true =>
    have reversed := room_row_le (fun p hp => parts p (List.mem_reverse.1 hp)) true a
    rwa [List.map_reverse, List.map_reverse, List.sum_reverse] at reversed

/-! ## Wildcard texts -/

theorem wildcardPart_ofWildcard (c : Char) : WildcardPart (ofWildcard c) := by
  unfold ofWildcard
  split
  · exact .run
  · exact .one
  · exact .text _

theorem parts_eq_of_wildcardPart {p : Pattern} (part : WildcardPart p) : p.parts = [p] := by
  cases part <;> rfl

theorem flatMap_parts_of_wildcardPart {ps : List Pattern} (parts : ∀ p ∈ ps, WildcardPart p) :
    ps.flatMap Pattern.parts = ps := by
  induction ps with
  | nil => rfl
  | cons p ps ih =>
    rw [List.forall_mem_cons] at parts
    rw [List.flatMap_cons, parts_eq_of_wildcardPart parts.1, ih parts.2, List.singleton_append]

theorem wildcardPart_putBefore {p : Pattern} {ps : List Pattern} (part : WildcardPart p)
    (parts : ∀ q ∈ ps, WildcardPart q) : ∀ q ∈ putBefore p ps, WildcardPart q := by
  unfold putBefore
  split
  · exact List.forall_mem_cons.2 ⟨.text _, (List.forall_mem_cons.1 parts).2⟩
  · exact List.forall_mem_cons.2 ⟨part, parts⟩

theorem wildcardPart_foldr_putBefore {ps : List Pattern} (parts : ∀ p ∈ ps, WildcardPart p) :
    ∀ p ∈ ps.foldr putBefore [], WildcardPart p := by
  induction ps with
  | nil => exact nofun
  | cons p ps ih =>
    rw [List.forall_mem_cons] at parts
    exact wildcardPart_putBefore parts.1 (ih parts.2)

section Sum

variable {w : Pattern → Nat} (joined : ∀ a b, w (.text (a ++ b)) = w (.text a) + w (.text b))
include joined

/-- Texts that meet take what the one text takes. -/
theorem sum_putBefore (p : Pattern) (ps : List Pattern) :
    ((putBefore p ps).map w).sum = w p + (ps.map w).sum := by
  unfold putBefore
  split
  · rw [List.map_cons, List.sum_cons, List.map_cons, List.sum_cons, joined, Nat.add_assoc]
  · rw [List.map_cons, List.sum_cons]

theorem sum_foldr_putBefore (ps : List Pattern) :
    ((ps.foldr putBefore []).map w).sum = (ps.map w).sum := by
  induction ps with
  | nil => rfl
  | cons p ps ih => rw [List.foldr_cons, sum_putBefore joined, ih, List.map_cons, List.sum_cons]

end Sum

theorem weight_text_append (a b : List Char) :
    weight (.text (a ++ b)) = weight (.text a) + weight (.text b) := by
  simp only [weight, List.length_append]
  omega

theorem room_concat_le {ps : List Pattern} (parts : ∀ p ∈ ps, WildcardPart p) (back : Bool)
    (a : Automaton) :
    ((planOf back (concat ps)).grow a).room ≤ a.room + 32 + (ps.map weight).sum := by
  have merged := wildcardPart_foldr_putBefore parts
  have sum := sum_foldr_putBefore weight_text_append ps
  rw [concat, flatMap_parts_of_wildcardPart parts, ← sum]
  split
  · simp [planOf, Plan.grow, Automaton.room, Automaton.addStates, Automaton.empty]
    omega
  · next p one =>
    rw [one] at merged ⊢
    have := room_part_le (merged p (.head _)) back false a
    simpa [Automaton.continueFrom] using this.trans (by omega)
  · exact (room_seq_le merged back a).trans (by omega)

theorem room_automaton_le (back : Bool) {p : Pattern} {k : Nat}
    (room : ∀ a, ((planOf back p).grow a).room ≤ a.room + k) :
    (automaton back p).room ≤ k + 248 := by
  have next (a : Automaton) (b : Bool) := a.room_continueFrom_le b
  have start : (if anchored back p then Automaton.empty.addStates 1
      else ((Automaton.empty.addBranch 2).addStates 1).addChoice 1).room ≤ 112 := by
    split <;> decide
  unfold automaton
  dsimp only
  generalize (if anchored back p then Automaton.empty.addStates 1
      else ((Automaton.empty.addBranch 2).addStates 1).addChoice 1) = first at start
  rw [Automaton.room_addStates]
  cases back with
  | true =>
    have := next ((planOf true p).grow first) (planOf true p).branching
    have := room first
    simp only [if_true]
    omega
  | false =>
    have := next ((planOf false p).grow (first.addStates 1)) (planOf false p).branching
    have := room (first.addStates 1)
    rw [Automaton.room_addStates] at this
    simp only [Bool.false_eq_true, if_false, Plan.grow, Plan.branching, Automaton.continueFrom,
      Automaton.room_addStates] at *
    omega

theorem weight_wildcards_le (cs : List Char) :
    ((cs.map ofWildcard).map weight).sum ≤ 4640 * cs.length := by
  have each (c : Char) : weight (ofWildcard c) ≤ 4640 := by
    unfold ofWildcard
    split <;> simp [weight]
  induction cs with
  | nil => simp
  | cons c cs ih =>
    have := each c
    simp only [List.map_cons, List.sum_cons, List.length_cons]
    omega

theorem wildcardPart_like (pattern : String) :
    ∀ p ∈ .look .textStart :: pattern.toList.map ofWildcard ++ [.look .textEnd],
      WildcardPart p := by
  rw [List.cons_append, List.forall_mem_cons, List.forall_mem_append, List.forall_mem_map]
  exact ⟨.look _, fun c _ => wildcardPart_ofWildcard c, by simpa using .look _⟩

/-- The pattern of a wildcard text of up to 2000 characters is small enough. -/
theorem fits_like (pattern : String) (short : pattern.length ≤ 2000) :
    (like pattern).fits = true := by
  obtain ⟨ps, hps⟩ : ∃ ps, ps = Pattern.look .textStart :: pattern.toList.map ofWildcard ++
    [Pattern.look .textEnd] := ⟨_, rfl⟩
  have same : like pattern = concat ps := by rw [hps, like]
  have parts : ∀ p ∈ ps, WildcardPart p := hps ▸ wildcardPart_like pattern
  have total : (ps.map weight).sum ≤ 4640 * (pattern.length + 2) := by
    have middle := weight_wildcards_le pattern.toList
    rw [String.length_toList] at middle
    simp only [hps, List.cons_append, List.map_cons, List.map_append, List.map_nil,
      List.sum_cons, List.sum_append, List.sum_nil, weight]
    omega
  have room (back : Bool) : (automaton back (like pattern)).room ≤ sizeLimit := by
    have whole := room_automaton_le back (p := concat ps) (k := 32 + (ps.map weight).sum)
      fun a => by have := room_concat_le parts back a; omega
    rw [same]
    refine whole.trans ?_
    simp only [sizeLimit]
    omega
  simp [fits, room]

end DataGrid.Pattern
