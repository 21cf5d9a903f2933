import DataGrid.Query.Entry
import Mathlib.Data.List.DropRight
import Mathlib.Data.List.TakeWhile

/-!
# What paths spell

A path is written as its segments with dots between them, and leads down from the value of an entry
one object at a time. Only a first segment can stand for the key or for the value itself, so behind
`this` every field can be reached, whatever its name. Main statement: `paths_spell`.
-/

namespace DataGrid

/-! ## Trimming -/

/-- `t` is `cs` without the blanks at either end. -/
structure Trims (cs t : List Char) : Prop where
  split : ∃ before after, cs = before ++ t ++ after ∧ ∀ c ∈ before ++ after, isBlank c = true
  first : ∀ c ∈ t.head?, isBlank c = false
  last : ∀ c ∈ t.getLast?, isBlank c = false

section Trims

variable {cs t before after : List Char}

theorem dropWhile_blanks (blank : ∀ c ∈ before, isBlank c = true)
    (first : ∀ c ∈ t.head?, isBlank c = false) : (before ++ t).dropWhile isBlank = t := by
  rw [List.dropWhile_append_of_pos blank, List.dropWhile_eq_self_iff]
  cases t with
  | nil => exact nofun
  | cons c r => exact fun _ => ne_true_of_eq_false (first c rfl)

theorem rdropWhile_blanks (blank : ∀ c ∈ after, isBlank c = true)
    (last : ∀ c ∈ t.getLast?, isBlank c = false) : (t ++ after).rdropWhile isBlank = t := by
  rw [List.rdropWhile, List.reverse_append, dropWhile_blanks, List.reverse_reverse]
  · exact fun c hc => blank c (List.mem_reverse.1 hc)
  · rwa [List.head?_reverse]

theorem Trims.eq (h : Trims cs t) : trimBlanks cs = t := by
  obtain ⟨before, after, rfl, blank⟩ := h.split
  rw [List.forall_mem_append] at blank
  change ((before ++ t ++ after).dropWhile isBlank).rdropWhile isBlank = t
  cases t with
  | nil =>
    -- Where nothing else stands, the blanks on the right are also the first on the left.
    have all : (before ++ [] ++ after).dropWhile isBlank = [] :=
      List.dropWhile_eq_nil_iff.2 (by simpa [or_imp, forall_and] using blank)
    rw [all, List.rdropWhile_nil]
  | cons c r =>
    rw [List.append_assoc, dropWhile_blanks blank.1 (by simpa using h.first),
      rdropWhile_blanks blank.2 h.last]

theorem head?_rdropWhile (p : Char → Bool) (cs : List Char) :
    ∀ c ∈ (cs.rdropWhile p).head?, c ∈ cs.head? := by
  intro c hc
  obtain ⟨rest, split⟩ := List.rdropWhile_prefix p (l := cs)
  rw [← split, List.head?_append, Option.mem_def.1 hc]
  rfl

theorem trims_trimBlanks (cs : List Char) : Trims cs (trimBlanks cs) where
  split := by
    refine ⟨cs.takeWhile isBlank, (cs.dropWhile isBlank).rtakeWhile isBlank, ?_, ?_⟩
    · change cs = _ ++ (cs.dropWhile isBlank).rdropWhile isBlank ++ _
      rw [List.append_assoc, List.rdropWhile_append_rtakeWhile, List.takeWhile_append_dropWhile]
    · intro c hc
      exact (List.mem_append.1 hc).elim List.mem_takeWhile_imp List.mem_rtakeWhile_imp
  first := by
    intro c hc
    have found := head?_rdropWhile isBlank _ c hc
    have first := List.head?_dropWhile_not isBlank cs
    rwa [Option.mem_def.1 found] at first
  last := by
    intro c hc
    obtain ⟨some, rfl⟩ := List.mem_getLast?_eq_getLast hc
    exact Bool.eq_false_iff.2 (List.rdropWhile_last_not isBlank _ some)

theorem Trims.self (first : ∀ c ∈ t.head?, isBlank c = false)
    (last : ∀ c ∈ t.getLast?, isBlank c = false) : Trims t t :=
  ⟨⟨[], [], by simp⟩, first, last⟩

end Trims

/-! ## Reading -/

namespace AttributePath

variable {raw : String} {t : List Char} {p : AttributePath}

theorem splitDots_eq_splitOn (cs : List Char) : splitDots cs = cs.splitOn '.' := by
  fun_induction splitDots cs with
  | case1 => rfl
  | case2 r ih => rw [ih, List.splitOn_cons_eq_if_modifyHead]; rfl
  | case3 c r other none ih => exact absurd (ih.symm.trans none) (List.splitOn_ne_nil _ _)
  | case4 c r other s ss split ih =>
    have dot : (c == '.') = false := by simpa using other
    rw [List.splitOn_cons_eq_if_modifyHead, dot, ← ih, split]
    rfl

/-- The answer to a text that is `t` between blanks. -/
theorem parse_eq (h : Trims raw.toList t) :
    parse raw =
      if t = [] then .error (.invalidRequest .emptyPath)
      else if [] ∈ t.splitOn '.' then .error (.invalidRequest (.malformedPath raw))
      else .ok ⟨(t.splitOn '.').map String.ofList⟩ := by
  have gap : (t.splitOn '.').any (·.isEmpty) = decide ([] ∈ t.splitOn '.') := by
    rw [Bool.eq_iff_iff, List.any_eq_true, decide_eq_true_iff]
    simp only [List.isEmpty_iff, exists_eq_right]
  simp only [parse, h.eq, splitDots_eq_splitOn, gap, List.isEmpty_iff, decide_eq_true_eq]
  rfl

theorem parse_eq_ok_iff (h : Trims raw.toList t) :
    parse raw = .ok p ↔
      (t ≠ [] ∧ [] ∉ t.splitOn '.') ∧ p = ⟨(t.splitOn '.').map String.ofList⟩ := by
  rw [parse_eq h]
  split
  · next empty => simp [empty]
  · split
    · next gap => simp [gap]
    · next some full => simp [some, full, eq_comm]

/-- What is written for the pieces of a text is the text. -/
theorem toList_render (t : List Char) :
    (render ⟨(t.splitOn '.').map String.ofList⟩).toList = t := by
  rw [render, String.toList_intercalate, List.map_map]
  have pieces : String.toList ∘ String.ofList = id := funext fun _ => String.toList_ofList
  rw [pieces, List.map_id]
  exact List.intercalate_splitOn '.'

/-- A path that was read is read again from what is written for it. -/
theorem parse_render (h : parse raw = .ok p) : parse p.render = .ok p := by
  have trims := trims_trimBlanks raw.toList
  obtain ⟨full, rfl⟩ := (parse_eq_ok_iff trims).1 h
  refine (parse_eq_ok_iff ?_).2 ⟨full, rfl⟩
  rw [toList_render]
  exact .self trims.first trims.last

/-- Names without dots are the segments of the path that is written with them. -/
theorem parse_this {names : List String} (plain : ∀ n ∈ names, n ≠ "" ∧ '.' ∉ n.toList)
    (last : ∀ c ∈ (".".intercalate ("this" :: names)).toList.getLast?, isBlank c = false) :
    parse (".".intercalate ("this" :: names)) = .ok ⟨"this" :: names⟩ := by
  have segment : ∀ n ∈ "this" :: names, n ≠ "" ∧ '.' ∉ n.toList :=
    List.forall_mem_cons.2 ⟨by decide, plain⟩
  have text : (".".intercalate ("this" :: names)).toList =
      ['.'].intercalate (("this" :: names).map String.toList) := String.toList_intercalate
  have split : (".".intercalate ("this" :: names)).toList.splitOn '.' =
      ("this" :: names).map String.toList := by
    rw [text]
    refine List.splitOn_intercalate '.' (fun l hl => ?_) (List.cons_ne_nil _ _)
    obtain ⟨n, hn, rfl⟩ := List.mem_map.1 hl
    exact (segment n hn).2
  have head : (".".intercalate ("this" :: names)).toList.head? = some 't' := by
    rw [text]
    cases names <;> rfl
  refine (parse_eq_ok_iff (.self ?_ last)).2 ⟨⟨?_, ?_⟩, ?_⟩
  · rw [head]
    rintro _ ⟨⟩
    decide
  · intro empty
    rw [empty] at head
    cases head
  · rw [split]
    intro gap
    obtain ⟨n, hn, empty⟩ := List.mem_map.1 gap
    exact (segment n hn).1 (String.toList_eq_nil_iff.1 empty)
  · have names : String.ofList ∘ String.toList = id := funext fun _ => String.ofList_toList
    rw [split, List.map_map, names, List.map_id]

end AttributePath

/-! ## Following -/

/-- The value `u` stands in `v` under these field names, one object in another. -/
inductive Leads : Value → List String → Value → Prop
  | here {v : Value} : Leads v [] v
  | down {fs : Fields Value} {name : String} {r : List String} {w u : Value} :
      fs.find? name = some w → Leads w r u → Leads (.object fs) (name :: r) u

/-- On the way down from `v` there is no object where one is needed, or none with the name. -/
inductive Breaks : Value → List String → Prop
  | scalar {v : Value} {name : String} {r : List String} :
      v.kind ≠ .object → Breaks v (name :: r)
  | missing {fs : Fields Value} {name : String} {r : List String} :
      fs.find? name = none → Breaks (.object fs) (name :: r)
  | down {fs : Fields Value} {name : String} {r : List String} {w : Value} :
      fs.find? name = some w → Breaks w r → Breaks (.object fs) (name :: r)

namespace Entry

variable {e : Entry} {v u : Value} {names : List String}

/-- What a path with these segments is for. -/
inductive Finds (e : Entry) : List String → Value → Prop
  | key : Finds e ["__key"] (.text e.key)
  | this {r : List String} {u : Value} : Leads e.value r u → Finds e ("this" :: r) u
  | field {name : String} {r : List String} {u : Value} : name ≠ "__key" → name ≠ "this" →
      Leads e.value (name :: r) u → Finds e (name :: r) u

/-- Why a path with these segments is for nothing. -/
inductive Misses (e : Entry) : List String → Prop
  | key {r : List String} : r ≠ [] → Misses e ("__key" :: r)
  | this {r : List String} : Breaks e.value r → Misses e ("this" :: r)
  | field {name : String} {r : List String} : name ≠ "__key" → name ≠ "this" →
      Breaks e.value (name :: r) → Misses e (name :: r)

theorem descend_eq_some_iff : descend v names = some u ↔ Leads v names u := by
  induction names generalizing v with
  | nil =>
    constructor
    · rintro ⟨⟩
      exact .here
    · rintro ⟨⟩
      rfl
  | cons name r ih =>
    rw [descend, Option.bind_eq_some_iff]
    constructor
    · rintro ⟨w, found, rest⟩
      cases v with
      | object fs => exact .down found (ih.1 rest)
      | _ => cases found
    · rintro (_ | ⟨found, rest⟩)
      exact ⟨_, found, ih.2 rest⟩

theorem descend_eq_none_iff : descend v names = none ↔ Breaks v names := by
  induction names generalizing v with
  | nil => exact ⟨nofun, nofun⟩
  | cons name r ih =>
    rw [descend]
    constructor
    · intro none
      cases v with
      | object fs =>
        cases found : Fields.find? fs name with
        | none => exact .missing found
        | some w =>
          rw [Value.field?, found] at none
          exact .down found (ih.1 none)
      | _ => exact .scalar nofun
    · rintro (other | gone | ⟨found, rest⟩)
      · cases v with
        | object => exact absurd rfl other
        | _ => rfl
      · rw [Value.field?, gone]
        rfl
      · rw [Value.field?, found]
        exact ih.2 rest

/-- The first segment says which of the cases holds. -/
theorem finds_cons {name : String} {r : List String} :
    e.Finds (name :: r) u ↔
      name = "__key" ∧ r = [] ∧ u = .text e.key ∨ name = "this" ∧ Leads e.value r u ∨
        name ≠ "__key" ∧ name ≠ "this" ∧ Leads e.value (name :: r) u := by
  constructor
  · generalize hs : name :: r = segments
    rintro (_ | leads | ⟨key, this, leads⟩) <;> cases hs
    · exact .inl ⟨rfl, rfl, rfl⟩
    · exact .inr (.inl ⟨rfl, leads⟩)
    · exact .inr (.inr ⟨key, this, leads⟩)
  · rintro (⟨rfl, rfl, rfl⟩ | ⟨rfl, leads⟩ | ⟨key, this, leads⟩)
    · exact .key
    · exact .this leads
    · exact .field key this leads

theorem misses_cons {name : String} {r : List String} :
    e.Misses (name :: r) ↔
      name = "__key" ∧ r ≠ [] ∨ name = "this" ∧ Breaks e.value r ∨
        name ≠ "__key" ∧ name ≠ "this" ∧ Breaks e.value (name :: r) := by
  constructor
  · generalize hs : name :: r = segments
    rintro (more | breaks | ⟨key, this, breaks⟩) <;> cases hs
    · exact .inl ⟨rfl, more⟩
    · exact .inr (.inl ⟨rfl, breaks⟩)
    · exact .inr (.inr ⟨key, this, breaks⟩)
  · rintro (⟨rfl, more⟩ | ⟨rfl, breaks⟩ | ⟨key, this, breaks⟩)
    · exact .key more
    · exact .this breaks
    · exact .field key this breaks

theorem extract_cons (name : String) (r : List String) :
    e.extract ⟨name :: r⟩ =
      if name = "__key" then if r = [] then some (.text e.key) else none
      else if name = "this" then descend e.value r else descend e.value (name :: r) := by
  by_cases key : name = "__key"
  · subst key
    cases r <;> rfl
  by_cases this : name = "this"
  · subst this
    rfl
  rw [if_neg key, if_neg this, extract]
  split
  · next segments => exact absurd (List.cons.inj segments).1 key
  · next segments => exact absurd (List.cons.inj segments).1 this
  · rfl

theorem extract_eq_some_iff {p : AttributePath} (segment : p.segments ≠ []) :
    e.extract p = some u ↔ e.Finds p.segments u := by
  obtain ⟨_ | ⟨name, r⟩⟩ := p
  · cases segment rfl
  rw [extract_cons, finds_cons]
  split
  · next key => subst key; cases r <;> simp [eq_comm]
  · next key =>
    split
    · next this => simp [this, descend_eq_some_iff]
    · next this => simp [key, this, descend_eq_some_iff]

theorem extract_eq_none_iff {p : AttributePath} (segment : p.segments ≠ []) :
    e.extract p = none ↔ e.Misses p.segments := by
  obtain ⟨_ | ⟨name, r⟩⟩ := p
  · cases segment rfl
  rw [extract_cons, misses_cons]
  split
  · next key => subst key; cases r <;> simp
  · next key =>
    split
    · next this => simp [this, descend_eq_none_iff]
    · next this => simp [key, this, descend_eq_none_iff]

end Entry

namespace AttributePath

/-- What is accepted as a path and what paths lead to. A text is a path if it has parts between its
dots, and all of them are non-empty. Such a path finds what its segments spell and nothing
otherwise; behind `this` all names are those of fields. -/
theorem paths_spell (raw : String) (names : List String) :
    (∃ t, Trims raw.toList t ∧ ((∃ p, parse raw = .ok p) ↔ t ≠ [] ∧ [] ∉ t.splitOn '.') ∧
      ∀ p, parse raw = .ok p →
        p.segments = (t.splitOn '.').map String.ofList ∧
        p.render.toList = t ∧ parse p.render = .ok p ∧
        ∀ e : Entry, (∀ u, e.extract p = some u ↔ e.Finds p.segments u) ∧
          (e.extract p = none ↔ e.Misses p.segments)) ∧
    ((∀ n ∈ names, n ≠ "" ∧ '.' ∉ n.toList) →
      (∀ c ∈ (".".intercalate ("this" :: names)).toList.getLast?, isBlank c = false) →
      ∃ p, parse (".".intercalate ("this" :: names)) = .ok p ∧
        ∀ (e : Entry) (u : Value), e.extract p = some u ↔ Leads e.value names u) := by
  constructor
  · have trims := trims_trimBlanks raw.toList
    refine ⟨trimBlanks raw.toList, trims, ?_, fun p read => ?_⟩
    · simp only [parse_eq_ok_iff trims, exists_and_left, exists_eq, and_true]
    · have same := parse_render read
      obtain ⟨-, rfl⟩ := (parse_eq_ok_iff trims).1 read
      have segment : ((trimBlanks raw.toList).splitOn '.').map String.ofList ≠ [] :=
        List.map_eq_nil_iff.not.2 (List.splitOn_ne_nil _ _)
      exact ⟨rfl, toList_render _, same, fun e =>
        ⟨fun u => Entry.extract_eq_some_iff segment, Entry.extract_eq_none_iff segment⟩⟩
  · intro plain last
    exact ⟨_, parse_this plain last, fun e u => Entry.descend_eq_some_iff⟩

/-- Fields with the names that stand for something else in front. -/
theorem paths_spell_reserved :
    (∀ n ∈ ["this", "__key"], n ≠ "" ∧ '.' ∉ n.toList) ∧
      ∃ p, parse "this.this.__key" = .ok p ∧
        ∀ (e : Entry) (u : Value), e.extract p = some u ↔ Leads e.value ["this", "__key"] u := by
  have plain : ∀ n ∈ ["this", "__key"], n ≠ "" ∧ '.' ∉ n.toList := by decide
  have last : ∀ c ∈ (".".intercalate ["this", "this", "__key"]).toList.getLast?,
      isBlank c = false := by
    have y : (".".intercalate ["this", "this", "__key"]).toList.getLast? = some 'y' := by decide
    rw [y]
    rintro _ ⟨⟩
    decide
  have text : ".".intercalate ["this", "this", "__key"] = "this.this.__key" := by decide
  exact ⟨plain, text ▸ (paths_spell "" ["this", "__key"]).2 plain last⟩

end AttributePath

end DataGrid
