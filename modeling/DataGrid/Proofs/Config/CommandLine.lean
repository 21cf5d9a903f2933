import DataGrid.Config.CommandLine
import Mathlib.Logic.Function.Basic
import Mathlib.Tactic.Choose

/-!
# The last value of a flag decides

The words after the name of the program are read as arguments, each a flag with the word after it
or a word in the place of a flag that is none. Where all values can be read, every option is the
last value of its flag, or what it was before. The options of a node are therefore decided by the
values of each flag on its own, whatever stands between them. Main statement: `last_value_decides`.
-/

namespace DataGrid

/-! ## Arguments -/

/-- A flag with its value, or a word in the place of a flag that is none. -/
inductive Argument where
  | given (flag : Flag) (value : String)
  | stray (word : String) (unknown : Flag.ofWord? word = none)

namespace Argument

def words : Argument → List String
  | .given f v => [f.word, v]
  | .stray w _ => [w]

def value? (f : Flag) : Argument → Option String
  | .given g v => if g = f then some v else none
  | .stray _ _ => none

/-- The words of a command line, one argument after another. -/
def line (as : List Argument) : List String := as.flatMap words

/-- What a flag is given, in order. -/
def values (f : Flag) (as : List Argument) : List String := as.filterMap (value? f)

/-- Neighbouring pairs of different flags are exchanged, unknown words put in or left out. -/
inductive Rearranged : List Argument → List Argument → Prop
  | refl (as : List Argument) : Rearranged as as
  | trans {as bs cs : List Argument} : Rearranged as bs → Rearranged bs cs → Rearranged as cs
  | exchange {f g : Flag} (different : f ≠ g) (v w : String) (before after : List Argument) :
      Rearranged (before ++ .given f v :: .given g w :: after)
        (before ++ .given g w :: .given f v :: after)
  | insert {w : String} (unknown : Flag.ofWord? w = none) (before after : List Argument) :
      Rearranged (before ++ after) (before ++ .stray w unknown :: after)
  | drop {w : String} (unknown : Flag.ofWord? w = none) (before after : List Argument) :
      Rearranged (before ++ .stray w unknown :: after) (before ++ after)

variable {as bs : List Argument} {f g : Flag} {v w : String}

@[simp] theorem values_append : values f (as ++ bs) = values f as ++ values f bs :=
  List.filterMap_append

@[simp] theorem values_stray (unknown : Flag.ofWord? w = none) :
    values f (.stray w unknown :: as) = values f as := rfl

@[simp] theorem values_given_self : values f (.given f v :: as) = v :: values f as := by
  simp [values, value?]

theorem values_given_of_ne (different : g ≠ f) : values f (.given g v :: as) = values f as := by
  simp [values, value?, different]

theorem mem_values_iff : v ∈ values f as ↔ .given f v ∈ as := by
  rw [values, List.mem_filterMap]
  constructor
  · rintro ⟨a, mem, value⟩
    cases a with
    | stray => cases value
    | given g w =>
      obtain ⟨rfl, same⟩ := Option.ite_none_right_eq_some.1 value
      exact Option.some.inj same ▸ mem
  · exact fun mem => ⟨_, mem, if_pos rfl⟩

/-- The values of each flag stay as they are. -/
theorem Rearranged.values_eq (h : Rearranged as bs) (f : Flag) : values f as = values f bs := by
  induction h with
  | refl => rfl
  | trans _ _ first second => exact first.trans second
  | @exchange g h different v w before after =>
    rw [values_append, values_append]
    by_cases here : g = f
    · subst here
      rw [values_given_self, values_given_of_ne different.symm, values_given_of_ne different.symm,
        values_given_self]
    · rw [values_given_of_ne here]
      by_cases there : h = f
      · subst there
        rw [values_given_self, values_given_self, values_given_of_ne here]
      · rw [values_given_of_ne there, values_given_of_ne there, values_given_of_ne here]
  | insert | drop => rw [values_append, values_append, values_stray]

theorem Rearranged.symm (h : Rearranged as bs) : Rearranged bs as := by
  induction h with
  | refl => exact .refl _
  | trans _ _ first second => exact second.trans first
  | exchange different => exact .exchange different.symm ..
  | insert unknown => exact .drop unknown ..
  | drop unknown => exact .insert unknown ..

end Argument

/-! ## Flags and their values -/

namespace Flag

variable {f g : Flag} {v w : String}

def Value : Flag → Type
  | .bind => SocketAddress
  | .timeoutSeconds => Duration
  | .partitions | .workers | .finishedTaskLimit => Nat

/-- What a word means as the value of a flag. -/
def read : (f : Flag) → String → Option f.Value
  | .bind, v => SocketAddress.parse? v
  | .partitions, v => (readNatural 32 v).toOption
  | .workers, v => (readNatural 64 v).toOption
  | .timeoutSeconds, v => (readNatural 64 v).toOption.map Duration.ofSeconds
  | .finishedTaskLimit, v => (readNatural 64 v).toOption

/-- The options of a machine with this many processors; an address has no default. -/
def default (processors : Nat) : (f : Flag) → Option f.Value
  | .bind => none
  | .partitions => some (271 : Nat)
  | .workers => some processors
  | .timeoutSeconds => some (Duration.ofSeconds 300)
  | .finishedTaskLimit => some (10000 : Nat)

theorem word_of_ofWord? (known : ofWord? w = some f) : f.word = w := by
  simpa using List.find?_some known

/-- No flag takes a flag for a value. -/
theorem read_word (f g : Flag) : f.read g.word = none := by
  cases f <;> cases g <;> rfl

end Flag

namespace Argument

/-- The last value of each flag, or what the flag stood at. -/
def settings (as : List Argument) (start : (f : Flag) → Option f.Value) (f : Flag) :
    Option f.Value :=
  (values f as).getLast?.elim (start f) f.read

variable {as bs : List Argument} {start : (f : Flag) → Option f.Value} {f : Flag} {v w : String}

/-- A value counts like what the flag stood at, until the next value. -/
theorem settings_given :
    settings (.given f v :: as) start = settings as (Function.update start f (f.read v)) := by
  funext g
  rw [settings, settings]
  by_cases here : f = g
  · subst here
    rw [values_given_self, Function.update_self, List.getLast?_cons]
    cases (values f as).getLast? <;> rfl
  · rw [values_given_of_ne here, Function.update_of_ne (Ne.symm here)]

/-- The values can be read. -/
def Readable (as : List Argument) : Prop := ∀ f v, .given f v ∈ as → f.read v ≠ none

theorem readable_stray (unknown : Flag.ofWord? w = none) :
    Readable (.stray w unknown :: as) ↔ Readable as := by
  simp [Readable]

theorem readable_given :
    Readable (.given f v :: as) ↔ f.read v ≠ none ∧ Readable as := by
  simp only [Readable, List.mem_cons, given.injEq]
  constructor
  · exact fun h => ⟨h f v (.inl ⟨rfl, rfl⟩), fun g w mem => h g w (.inr mem)⟩
  · rintro ⟨read, rest⟩ g w (⟨rfl, rfl⟩ | mem)
    exacts [read, rest g w mem]

theorem settings_ne_none_iff (readable : Readable as) :
    settings as start f ≠ none ↔ start f ≠ none ∨ ∃ v, .given f v ∈ as := by
  rw [settings]
  simp only [← mem_values_iff]
  cases last : (values f as).getLast? with
  | none =>
    rw [List.getLast?_eq_none_iff.1 last]
    simp
  | some v =>
    have mem := List.mem_of_getLast? last
    exact iff_of_true (readable f v (mem_values_iff.1 mem)) (.inr ⟨v, mem⟩)

theorem Rearranged.readable (h : Rearranged as bs) (readable : Readable as) : Readable bs := by
  intro f v mem
  rw [← mem_values_iff, ← h.values_eq f, mem_values_iff] at mem
  exact readable f v mem

theorem Rearranged.settings_eq (h : Rearranged as bs) : settings as = settings bs := by
  funext start f
  rw [settings, settings, h.values_eq f]

/-- All words are arguments, but for a last flag without a value. -/
theorem exists_line : ∀ ws : List String,
    ∃ as, ws = line as ∨ ∃ f : Flag, ws = line as ++ [f.word]
  | [] => ⟨[], .inl rfl⟩
  | w :: r => by
    cases known : Flag.ofWord? w with
    | none =>
      obtain ⟨as, rest⟩ := exists_line r
      refine ⟨.stray w known :: as, rest.imp ?_ (Exists.imp fun f => ?_)⟩ <;> rintro rfl <;> rfl
    | some f =>
      obtain rfl := Flag.word_of_ofWord? known
      cases r with
      | nil => exact ⟨[], .inr ⟨f, rfl⟩⟩
      | cons v r =>
        obtain ⟨as, rest⟩ := exists_line r
        refine ⟨.given f v :: as, rest.imp ?_ (Exists.imp fun g => ?_)⟩ <;> rintro rfl <;> rfl

end Argument

/-! ## Reading arguments -/

namespace OptionDraft

open Argument (line settings Readable)

variable {o o' : OptionDraft} {f : Flag} {v w : String} {as : List Argument} {r : List String}

def get (o : OptionDraft) : (f : Flag) → Option f.Value
  | .bind => o.bind
  | .partitions => some o.engine.partitionCount
  | .workers => some o.engine.poolCapacity
  | .timeoutSeconds => some o.engine.queryTimeout
  | .finishedTaskLimit => some o.engine.finishedTaskLimit

theorem get_standard (processors : Nat) :
    get { engine := .standard processors } = Flag.default processors := by
  funext f
  cases f <;> rfl

def put (o : OptionDraft) : (f : Flag) → f.Value → OptionDraft
  | .bind, a => { o with bind := some a }
  | .partitions, n => { o with engine.partitionCount := n }
  | .workers, n => { o with engine.poolCapacity := n }
  | .timeoutSeconds, d => { o with engine.queryTimeout := d }
  | .finishedTaskLimit, n => { o with engine.finishedTaskLimit := n }

/-- A flag sets its own option and no other. -/
theorem get_put (x : f.Value) : (o.put f x).get = Function.update o.get f (some x) := by
  funext g
  by_cases here : g = f
  · subst here
    rw [Function.update_self]
    cases g <;> rfl
  · rw [Function.update_of_ne here]
    cases f <;> cases g <;> first | rfl | cases here rfl

theorem set_toOption : (o.set f v).toOption = (f.read v).map (o.put f) := by
  unfold set Flag.read
  cases f with
  | bind =>
    dsimp only
    cases SocketAddress.parse? v <;> rfl
  | partitions | workers | timeoutSeconds | finishedTaskLimit =>
    dsimp only
    cases readNatural _ v <;> rfl

theorem set_of_read (x : f.Value) (h : f.read v = some x) : o.set f v = .ok (o.put f x) := by
  have set := o.set_toOption (f := f) (v := v)
  rw [h] at set
  cases taken : o.set f v with
  | error e => rw [taken] at set; cases set
  | ok o' => rw [taken] at set; rw [Option.some.inj set]

theorem set_of_unread (h : f.read v = none) : ∃ e, o.set f v = .error e := by
  have set := o.set_toOption (f := f) (v := v)
  rw [h] at set
  cases taken : o.set f v with
  | error e => exact ⟨e, rfl⟩
  | ok o' => rw [taken] at set; cases set

theorem readWords_given :
    o.readWords (f.word :: v :: r) = o.set f v >>= fun o => o.readWords r := by
  rw [readWords, Flag.ofWord?_word]

theorem readWords_stray (unknown : Flag.ofWord? w = none) :
    o.readWords (w :: r) = o.readWords r := by
  cases r with
  | nil => simp only [readWords, unknown]
  | cons v r => simp only [readWords, unknown]

/-- Arguments whose values can be read leave each option at the last value of its flag. -/
theorem exists_readWords (as : List Argument) (readable : Readable as) (o : OptionDraft) :
    ∃ o' : OptionDraft, o'.get = settings as o.get ∧
      ∀ r, o.readWords (line as ++ r) = o'.readWords r := by
  induction as generalizing o with
  | nil => exact ⟨o, rfl, fun _ => rfl⟩
  | cons a as ih =>
    cases a with
    | stray w unknown =>
      obtain ⟨o', state, reads⟩ := ih ((Argument.readable_stray unknown).1 readable) o
      exact ⟨o', state, fun r => (readWords_stray unknown).trans (reads r)⟩
    | given f v =>
      obtain ⟨read, readable⟩ := Argument.readable_given.1 readable
      obtain ⟨x, read⟩ := Option.ne_none_iff_exists'.1 read
      obtain ⟨o', state, reads⟩ := ih readable (o.put f x)
      refine ⟨o', ?_, fun r => ?_⟩
      · rw [state, get_put, Argument.settings_given, read]
      · rw [← reads]
        exact readWords_given.trans (by rw [set_of_read x read]; rfl)

/-- A value that cannot be read ends the reading, whatever comes after it. -/
theorem readWords_of_not_readable (unreadable : ¬ Readable as) (o : OptionDraft)
    (r : List String) : ∃ e, o.readWords (line as ++ r) = .error e := by
  induction as generalizing o with
  | nil => exact absurd nofun unreadable
  | cons a as ih =>
    cases a with
    | stray w unknown =>
      obtain ⟨e, fails⟩ := ih (mt (Argument.readable_stray unknown).2 unreadable) o
      exact ⟨e, (readWords_stray unknown).trans fails⟩
    | given f v =>
      have reads : o.readWords (line (.given f v :: as) ++ r) =
          o.set f v >>= fun o => o.readWords (line as ++ r) := readWords_given
      cases read : f.read v with
      | none =>
        obtain ⟨e, fails⟩ := o.set_of_unread read
        exact ⟨e, by rw [reads, fails]; rfl⟩
      | some x =>
        have later : ¬ Readable as := fun readable =>
          unreadable (Argument.readable_given.2 ⟨read ▸ nofun, readable⟩)
        rw [reads, o.set_of_read x read]
        exact ih later _

end OptionDraft

/-! ## Whole command lines -/

theorem EngineConfig.validate_eq_ok_iff {c : EngineConfig} :
    c.validate = .ok () ↔
      c.partitionCount ≠ 0 ∧ c.poolCapacity ≠ 0 ∧ c.finishedTaskLimit ≠ 0 := by
  rw [validate]
  split
  next none => exact iff_of_false nofun fun h => h.1 none
  split
  next none => exact iff_of_false nofun fun h => h.2.1 none
  split
  next none => exact iff_of_false nofun fun h => h.2.2 none
  next partitions capacity tasks => exact iff_of_true rfl ⟨partitions, capacity, tasks⟩

namespace NodeOptions

open Argument (line settings Readable Rearranged)

variable {processors : Nat} {program : String} {o : NodeOptions} {d : OptionDraft}
  {as bs : List Argument} {f : Flag}

def get (o : NodeOptions) : (f : Flag) → f.Value
  | .bind => o.bind
  | .partitions => o.engine.partitionCount
  | .workers => o.engine.poolCapacity
  | .timeoutSeconds => o.engine.queryTimeout
  | .finishedTaskLimit => o.engine.finishedTaskLimit

/-- Options are known by what they are for each flag. -/
theorem draft_get_eq_iff :
    (∀ f, d.get f = some (o.get f)) ↔ d = ⟨some o.bind, o.engine⟩ := by
  constructor
  · intro same
    obtain ⟨bind, ⟨partitions, workers, timeout, tasks⟩⟩ := d
    obtain ⟨address, engine⟩ := o
    obtain rfl : bind = some address := same .bind
    obtain rfl : partitions = engine.partitionCount := Option.some.inj (same .partitions)
    obtain rfl : workers = engine.poolCapacity := Option.some.inj (same .workers)
    obtain rfl : timeout = engine.queryTimeout := Option.some.inj (same .timeoutSeconds)
    obtain rfl : tasks = engine.finishedTaskLimit := Option.some.inj (same .finishedTaskLimit)
    rfl
  · rintro rfl f
    cases f <;> rfl

theorem complete_eq_ok_iff :
    d.complete = .ok o ↔ (∀ f, d.get f = some (o.get f)) ∧ o.engine.validate = .ok () := by
  obtain ⟨bind, engine⟩ := d
  rw [draft_get_eq_iff, OptionDraft.complete]
  cases bind with
  | none => exact iff_of_false nofun fun h => nomatch congrArg OptionDraft.bind h.1
  | some a =>
    cases valid : engine.validate with
    | error e =>
      refine iff_of_false nofun fun ⟨same, passes⟩ => ?_
      cases same
      cases valid.symm.trans passes
    | ok =>
      constructor
      · intro done
        cases done
        exact ⟨rfl, valid⟩
      · rintro ⟨same, -⟩
        cases same
        rfl

theorem parse_cons (ws : List String) :
    parse processors (program :: ws) =
      OptionDraft.readWords { engine := .standard processors } ws >>= OptionDraft.complete :=
  rfl

theorem parse_eq_ok_iff :
    parse processors (program :: line as) = .ok o ↔
      Readable as ∧ (∀ f, settings as (Flag.default processors) f = some (o.get f)) ∧
        o.engine.validate = .ok () := by
  rw [parse_cons, ← List.append_nil (line as)]
  by_cases readable : Readable as
  · obtain ⟨d, state, reads⟩ := OptionDraft.exists_readWords as readable
      { engine := .standard processors }
    rw [OptionDraft.get_standard] at state
    rw [reads, ← state, ← complete_eq_ok_iff]
    exact (and_iff_right readable).symm
  · obtain ⟨e, fails⟩ := OptionDraft.readWords_of_not_readable readable
      { engine := .standard processors } []
    rw [fails]
    exact iff_of_false nofun fun h => readable h.1

theorem validate_engine_iff : o.engine.validate = .ok () ↔
    some (o.get .partitions) ≠ some (0 : Nat) ∧ some (o.get .workers) ≠ some (0 : Nat) ∧
      some (o.get .finishedTaskLimit) ≠ some (0 : Nat) := by
  have apart {m n : Nat} : m ≠ n ↔ some m ≠ some n := Option.some_inj.not.symm
  exact EngineConfig.validate_eq_ok_iff.trans (and_congr apart (and_congr apart apart))

theorem exists_parse_iff :
    (∃ o, parse processors (program :: line as) = .ok o) ↔
      Readable as ∧ (∃ v, .given .bind v ∈ as) ∧
        settings as (Flag.default processors) .partitions ≠ some (0 : Nat) ∧
        settings as (Flag.default processors) .workers ≠ some (0 : Nat) ∧
        settings as (Flag.default processors) .finishedTaskLimit ≠ some (0 : Nat) := by
  simp only [parse_eq_ok_iff, validate_engine_iff]
  constructor
  · rintro ⟨o, readable, same, counts⟩
    have bound : Flag.default processors .bind ≠ none ∨ ∃ v, .given .bind v ∈ as :=
      (Argument.settings_ne_none_iff readable).1 (by rw [same]; nofun)
    rw [same, same, same]
    exact ⟨readable, bound.resolve_left (· rfl), counts⟩
  · rintro ⟨readable, bind, counts⟩
    have settled (f : Flag) :
        ∃ x : f.Value, settings as (Flag.default processors) f = some x := by
      refine Option.ne_none_iff_exists'.1 ((Argument.settings_ne_none_iff readable).2 ?_)
      cases f with
      | bind => exact .inr bind
      | partitions | workers | timeoutSeconds | finishedTaskLimit => exact .inl nofun
    choose x same using settled
    rw [same, same, same] at counts
    refine ⟨⟨x .bind, ⟨x .partitions, x .workers, x .timeoutSeconds, x .finishedTaskLimit⟩⟩,
      readable, fun f => ?_, counts⟩
    rw [same]
    cases f <;> rfl

theorem parse_dangling (processors : Nat) (program : String) (as : List Argument) (f : Flag) :
    ∃ e, parse processors (program :: (line as ++ [f.word])) = .error e ∧
      (Readable as → e = .missingValue f) := by
  rw [parse_cons]
  by_cases readable : Readable as
  · obtain ⟨d, -, reads⟩ := OptionDraft.exists_readWords as readable
      { engine := .standard processors }
    rw [reads, OptionDraft.readWords, Flag.ofWord?_word]
    exact ⟨_, rfl, fun _ => rfl⟩
  · obtain ⟨e, fails⟩ := OptionDraft.readWords_of_not_readable readable
      { engine := .standard processors } [f.word]
    rw [fails]
    exact ⟨e, rfl, fun h => absurd h readable⟩

/-- A command line is accepted just when the values of its flags can be read, there is an address,
and the last values of the counts, or their defaults, are not zero. Each option is then the last
value of its flag, or its default. An accepted line may be rearranged; a flag never takes a flag for
its value, and at the end of a line it has none. Every line is of one of these two forms. -/
theorem last_value_decides (processors : Nat) (program : String) (as : List Argument) :
    let chosen := settings as (Flag.default processors)
    let parse := fun ws => parse processors (program :: ws)
    (∀ o, parse (line as) = .ok o ↔
      (∀ f v, .given f v ∈ as → f.read v ≠ none) ∧ (∀ f, chosen f = some (o.get f)) ∧
        o.engine.partitionCount ≠ 0 ∧ o.engine.poolCapacity ≠ 0 ∧
          o.engine.finishedTaskLimit ≠ 0) ∧
    ((∃ o, parse (line as) = .ok o) ↔
      (∀ f v, .given f v ∈ as → f.read v ≠ none) ∧ (∃ v, .given .bind v ∈ as) ∧
        chosen .partitions ≠ some (0 : Nat) ∧ chosen .workers ≠ some (0 : Nat) ∧
          chosen .finishedTaskLimit ≠ some (0 : Nat)) ∧
    (∀ bs, Rearranged as bs → ∀ o, parse (line as) = .ok o ↔ parse (line bs) = .ok o) ∧
    (∀ f g : Flag, .given f g.word ∈ as → ∃ e, parse (line as) = .error e) ∧
    (∀ f : Flag, ∃ e, parse (line as ++ [f.word]) = .error e ∧
      ((∀ g v, .given g v ∈ as → g.read v ≠ none) → e = .missingValue f)) ∧
    ∀ ws, ∃ bs, ws = line bs ∨ ∃ f : Flag, ws = line bs ++ [f.word] := by
  refine ⟨fun o => ?_, exists_parse_iff, fun bs rearranged o => ?_, fun f g mem => ?_,
    parse_dangling processors program as, Argument.exists_line⟩
  · rw [parse_eq_ok_iff, EngineConfig.validate_eq_ok_iff]
    rfl
  · dsimp only
    rw [parse_eq_ok_iff, parse_eq_ok_iff, rearranged.settings_eq]
    exact and_congr_left fun _ => ⟨rearranged.readable, rearranged.symm.readable⟩
  · cases result : NodeOptions.parse processors (program :: line as) with
    | error e => exact ⟨e, result⟩
    | ok o => exact absurd (f.read_word g) ((parse_eq_ok_iff.1 result).1 f g.word mem)

/-- A number of workers that is refused on its own is overridden, with a stray word between. -/
theorem last_value_decides_workers :
    let as : List Argument := [.given .workers "0", .stray "workers" (by decide),
      .given .bind "127.0.0.1:6000", .given .workers "2"]
    let bs : List Argument := [.given .bind "127.0.0.1:6000", .given .workers "0",
      .given .workers "2"]
    (∃ o, parse 8 ("node" :: line as) = .ok o ∧ parse 8 ("node" :: line bs) = .ok o ∧
      o.engine.poolCapacity = 2) ∧
    ∃ e, parse 8 ("node" :: (line as ++ ["--bind"])) = .error e ∧ e = .missingValue .bind := by
  intro as bs
  have rearranged : Rearranged as bs :=
    (Rearranged.drop _ [.given .workers "0"] _).trans
      (.exchange (by decide) "0" "127.0.0.1:6000" [] [.given .workers "2"])
  have readable : Readable as := by
    refine Argument.readable_given.2 ⟨by decide, (Argument.readable_stray _).2 ?_⟩
    exact Argument.readable_given.2 ⟨by decide, Argument.readable_given.2 ⟨by decide, nofun⟩⟩
  obtain ⟨decides, accepted, same, -, dangling, -⟩ := last_value_decides 8 "node" as
  obtain ⟨o, done⟩ := accepted.2 ⟨readable, ⟨_, .tail _ (.tail _ (.head _))⟩,
    (by decide : some 271 ≠ some 0), (by decide : some 2 ≠ some 0),
    (by decide : some 10000 ≠ some 0)⟩
  obtain ⟨-, chosen, -⟩ := (decides o).1 done
  obtain ⟨e, fails, missing⟩ := dangling .bind
  exact ⟨⟨o, done, (same bs rearranged o).1 done, (Option.some.inj (chosen .workers)).symm⟩,
    e, fails, missing readable⟩

end NodeOptions

end DataGrid
