/-
BlockConfig.Proofs.Program.Causes — for what causes a command line that is
understood fails, and what is then said.

`Wrong` lists what can be wrong with an invocation, in terms of the keys on
the command line alone: which are malformed, which are locked, which are
set. `FirstCause` says which of several causes counts. Values come before
locks, locks before the command, and each list is searched in order; a
merge reports the least of the keys that stand in its way.

`respond_eq_ok` is the account of a whole run: it fails exactly if something
is wrong, and then nothing is printed and the error line tells of the first
cause, of which there is exactly one.

What a command meets is read off the store that the settings describe
(`Settings.store`), so the account needs no step of the building. A merge
writes keys in ascending order, whatever order they were given in; that is
why the least refused one is reported (`Storage.checkSetAll_eq_error_iff`).
-/
import BlockConfig.Proofs.Key.Names
import BlockConfig.Proofs.Program.Verbosity
import BlockConfig.Proofs.Settings.Build
import BlockConfig.Proofs.Store.Writes

namespace BlockConfig

open CommandLine Settings

/-! ## 1. Causes -/

/-- The block is named, and its name is not empty and no key. -/
def Settings.BadBlock (x : Settings) : Prop :=
  ∃ name, x.block = some name ∧ name ≠ "" ∧ ¬ Key.Valid name

/-- What can be wrong with a command under some settings. -/
inductive Wrong (x : Settings) : Command → Prop
  | malformedValue {c : Command} {key : String} (h : key ∈ x.keys) (hkey : ¬ Key.Valid key) :
      Wrong x c
  | malformedLock {c : Command} {key : String} (h : key ∈ x.locks) (hkey : ¬ Key.Valid key) :
      Wrong x c
  | getAbsent {key : String} (h : x.full key ∉ x.keys) : Wrong x (.get key none)
  | unsetLocked {key : String} {json : Bool} (h : x.full key ∈ x.locks) :
      Wrong x (.unset key json)
  | unsetAbsent {key : String} {json : Bool} (h : x.full key ∉ x.keys) : Wrong x (.unset key json)
  | mergeMalformed {values : List (String × String)} {json : Bool} {key : String}
      (h : key ∈ values.map Prod.fst) (hkey : ¬ Key.Valid key) : Wrong x (.merge values json)
  | mergeBlock {values : List (String × String)} {json : Bool} (h : x.BadBlock)
      (hne : values ≠ []) : Wrong x (.merge values json)
  | mergeLocked {values : List (String × String)} {json : Bool} {key : String}
      (h : key ∈ values.map Prod.fst) (hlocked : x.full key ∈ x.locks) :
      Wrong x (.merge values json)

/-- Why a command fails under settings that can be built. -/
inductive OwnCause (x : Settings) : Command → Failure → Prop
  | getAbsent {key : String} (h : x.full key ∉ x.keys) :
      OwnCause x (.get key none) (.reading (.keyNotFound (x.full key)))
  | unsetLocked {key : String} {json : Bool} (h : x.full key ∈ x.locks) :
      OwnCause x (.unset key json) (.unsetting key (.readOnly (x.full key) .unset))
  | unsetAbsent {key : String} {json : Bool} (hlocked : x.full key ∉ x.locks)
      (h : x.full key ∉ x.keys) :
      OwnCause x (.unset key json) (.unsetting key (.keyNotFound (x.full key)))
  | mergeMalformed {values : List (String × String)} {json : Bool} {e : ConfigError}
      (h : Key.refusal? (values.map Prod.fst) = some e) :
      OwnCause x (.merge values json) (.collecting e)
  | mergeBlock {values : List (String × String)} {json : Bool} {key : String}
      (hkeys : Key.refusal? (values.map Prod.fst) = none) (hblock : x.BadBlock)
      (hmem : key ∈ values.map Prod.fst)
      (hleast : ∀ other ∈ values.map Prod.fst, ¬ x.full other < x.full key) :
      OwnCause x (.merge values json) (.merging (.invalidKey (x.full key) .emptySegment))
  | mergeLocked {values : List (String × String)} {json : Bool} {key : String}
      (hkeys : Key.refusal? (values.map Prod.fst) = none)
      (hmem : key ∈ values.map Prod.fst) (hlocked : x.full key ∈ x.locks)
      (hleast : ∀ other ∈ values.map Prod.fst, x.full other ∈ x.locks →
        ¬ x.full other < x.full key) :
      OwnCause x (.merge values json) (.merging (.readOnly (x.full key) .set))

/-- The cause that counts: the first malformed key of a value, else the
first malformed key of a lock, else the cause of the command. -/
inductive FirstCause (x : Settings) : Command → Failure → Prop
  | value {c : Command} {e : ConfigError} (h : Key.refusal? x.keys = some e) :
      FirstCause x c (.setting e.key e)
  | lock {c : Command} {e : ConfigError} (hkeys : Key.refusal? x.keys = none)
      (h : Key.refusal? x.locks = some e) : FirstCause x c (.locking e.key e)
  | command {c : Command} {f : Failure} (hx : x.WellFormed) (h : OwnCause x c f) :
      FirstCause x c f

theorem OwnCause.wrong {x : Settings} {c : Command} {f : Failure} (h : OwnCause x c f) :
    Wrong x c := by
  cases h with
  | getAbsent h => exact .getAbsent h
  | unsetLocked h => exact .unsetLocked h
  | unsetAbsent _ h => exact .unsetAbsent h
  | mergeMalformed h =>
    obtain ⟨hmem, hkey⟩ := Key.exists_of_refusal? h
    exact .mergeMalformed hmem hkey
  | mergeBlock _ hblock hmem _ =>
    refine .mergeBlock hblock ?_
    rintro rfl
    cases hmem
  | mergeLocked _ hmem hlocked _ => exact .mergeLocked hmem hlocked

theorem FirstCause.wrong {x : Settings} {c : Command} {f : Failure} (h : FirstCause x c f) :
    Wrong x c := by
  cases h with
  | value h =>
    obtain ⟨hmem, hkey⟩ := Key.exists_of_refusal? h
    exact .malformedValue hmem hkey
  | lock _ h =>
    obtain ⟨hmem, hkey⟩ := Key.exists_of_refusal? h
    exact .malformedLock hmem hkey
  | command _ h => exact h.wrong

/-! ## 2. What commands meet -/

theorem Storage.unset_eq_error_iff {s : Storage} {key : String} {e : ConfigError} :
    s.unset key = .error e ↔
      (s.isLocked key = true ∧ e = .readOnly key .unset)
        ∨ (s.isLocked key = false ∧ s.entries.get? key = none ∧ e = .keyNotFound key) := by
  unfold unset
  cases s.isLocked key with
  | true => simp [eq_comm]
  | false => cases s.entries.get? key <;> simp [eq_comm]

namespace Command

theorem failure_runGet_iff {s : Store} {key : String} {f : Failure} :
    (runGet s key none).failure = some f ↔
      s.storage.entries.get? (s.qualify key) = none
        ∧ f = .reading (.keyNotFound (s.qualify key)) := by
  unfold runGet Store.get
  cases s.storage.entries.get? (s.qualify key) <;> simp [eq_comm]

theorem failure_runUnset_iff {s : Store} {key : String} {json : Bool} {v : Verbosity}
    {f : Failure} :
    (runUnset s key json v).failure = some f ↔
      ∃ e, s.storage.unset (s.qualify key) = .error e ∧ f = .unsetting key e := by
  unfold runUnset Store.unset
  cases s.storage.unset (s.qualify key) with
  | ok p => simp [Traced.report]
  | error e => simp [Traced.fail, eq_comm]

theorem result_mergeValues (s : Store) (values : List (String × String)) :
    (mergeValues s values).result
      = match Key.refusal? (values.map Prod.fst) with
        | some e => .error (.collecting e)
        | none =>
          match s.storage.setAll (s.incoming (.ofPairs values)) with
          | .error e => .error (.merging e)
          | .ok storage => .ok ({ s with storage }, (Store.ofPairs values).size) := by
  simp only [mergeValues, Traced.bind_eq, Traced.result_andThen, Traced.onError,
    Store.result_ofEntries]
  cases Key.refusal? (values.map Prod.fst) with
  | some e => rfl
  | none =>
    simp only [Except.mapError, Except.bind, Store.result_merge]
    cases s.storage.setAll (s.incoming (.ofPairs values)) <;> rfl

theorem failure_runMerge (s : Store) (values : List (String × String)) (json : Bool)
    (v : Verbosity) :
    (runMerge s values json v).failure
      = match (mergeValues s values).result with
        | .error f => some f
        | .ok _ => none := by
  unfold runMerge
  obtain ⟨events, result⟩ := mergeValues s values
  cases result <;> rfl

/-- A merge is refused for a malformed key among the given ones, or else for
the least key that may not be written. -/
theorem failure_runMerge_iff {s : Store} {values : List (String × String)} {json : Bool}
    {v : Verbosity} {f : Failure} :
    (runMerge s values json v).failure = some f ↔
      (∃ e, Key.refusal? (values.map Prod.fst) = some e ∧ f = .collecting e)
        ∨ (Key.refusal? (values.map Prod.fst) = none
          ∧ ∃ e, s.storage.checkSetAll (s.incoming (.ofPairs values)) = .error e
            ∧ f = .merging e) := by
  rw [failure_runMerge, result_mergeValues]
  cases Key.refusal? (values.map Prod.fst) with
  | some e => simp [eq_comm]
  | none =>
    unfold Storage.setAll
    cases s.storage.checkSetAll (s.incoming (.ofPairs values)) <;> simp [eq_comm]

end Command

/-! ## 3. Commands under well-formed settings -/

namespace Settings

variable {x : Settings} {key : String}

theorem badBlock_iff : x.BadBlock ↔ ¬ Key.Sound (x.block.getD "") := by
  unfold BadBlock Key.Sound
  cases x.block <;> simp

/-- Under a block, keys stay keys unless the name of the block is bad. -/
theorem valid_full_iff (hkey : Key.Valid key) : Key.Valid (x.full key) ↔ ¬ x.BadBlock := by
  rw [full, Key.valid_scopeOf_append, and_iff_left hkey, badBlock_iff, not_not]
  exact Iff.rfl

theorem checkSet_full_of_badBlock (hblock : x.BadBlock) (s : Storage) :
    s.checkSet (x.full key) = .error (.invalidKey (x.full key) .emptySegment) :=
  Storage.checkSet_of_fault? (Key.fault?_below (badBlock_iff.1 hblock) key)

theorem checkSet_full_of_goodBlock (hblock : ¬ x.BadBlock) (hkey : Key.Valid key) :
    x.store.storage.checkSet (x.full key)
      = if x.full key ∈ x.locks then .error (.readOnly (x.full key) .set) else .ok () := by
  rw [Storage.checkSet_of_valid ((valid_full_iff hkey).2 hblock)]
  by_cases hlocked : x.full key ∈ x.locks
  · rw [if_pos (isLocked_store_iff.2 hlocked), if_pos hlocked]
  · rw [if_neg (mt isLocked_store_iff.1 hlocked), if_neg hlocked]

theorem WellFormed.goodBlock_of_locked (hx : x.WellFormed) (hkey : Key.Valid key)
    (hlocked : x.full key ∈ x.locks) : ¬ x.BadBlock :=
  (valid_full_iff hkey).1 (hx.locks _ hlocked)

/-- The least key of a merge that may not be written. -/
theorem checkSetAll_incoming_iff {values : List (String × String)}
    (hvalid : ∀ key ∈ values.map Prod.fst, Key.Valid key) {e : ConfigError} :
    x.store.storage.checkSetAll (x.store.incoming (.ofPairs values)) = .error e ↔
      ∃ key ∈ values.map Prod.fst, x.store.storage.checkSet (x.full key) = .error e
        ∧ ∀ other ∈ values.map Prod.fst, x.store.storage.checkSet (x.full other) ≠ .ok () →
          ¬ x.full other < x.full key := by
  rw [Storage.checkSetAll_eq_error_iff (x.store.sorted_incoming _), Store.keys_incoming]
  simp only [List.mem_map (f := x.store.qualify), exists_exists_and_eq_and, forall_exists_index,
    and_imp, forall_apply_eq_imp_iff₂, Store.mem_keys_ofPairs hvalid, qualify_store]

end Settings

/-- A command fails under well-formed settings for its own cause. -/
theorem Command.failure_run_iff {script : Shell → String} {x : Settings} (hx : x.WellFormed)
    {c : Command} {v : Verbosity} {f : Failure} :
    (c.run script v x.store).failure = some f ↔ OwnCause x c f := by
  cases c with
  | get key default =>
    cases default with
    | some text => constructor <;> intro h <;> cases h
    | none =>
      refine failure_runGet_iff.trans ?_
      rw [get?_store_eq_none_iff, qualify_store]
      constructor
      · rintro ⟨h, rfl⟩
        exact .getAbsent h
      · intro h
        cases h with
        | getAbsent h => exact ⟨h, rfl⟩
  | unset key json =>
    refine failure_runUnset_iff.trans ?_
    simp only [Storage.unset_eq_error_iff, get?_store_eq_none_iff, isLocked_store_iff,
      qualify_store, ← Bool.not_eq_true]
    constructor
    · rintro ⟨e, ⟨hlocked, rfl⟩ | ⟨hlocked, h, rfl⟩, rfl⟩
      · exact .unsetLocked hlocked
      · exact .unsetAbsent hlocked h
    · intro h
      cases h with
      | unsetLocked h => exact ⟨_, .inl ⟨h, rfl⟩, rfl⟩
      | unsetAbsent hlocked h => exact ⟨_, .inr ⟨hlocked, h, rfl⟩, rfl⟩
  | merge values json =>
    refine failure_runMerge_iff.trans ?_
    constructor
    · rintro (⟨e, h, rfl⟩ | ⟨hkeys, e, h, rfl⟩)
      · exact .mergeMalformed h
      · have hvalid := Key.refusal?_eq_none_iff.1 hkeys
        obtain ⟨key, hmem, hkey, hleast⟩ := (checkSetAll_incoming_iff hvalid).1 h
        by_cases hblock : x.BadBlock
        · rw [checkSet_full_of_badBlock hblock] at hkey
          obtain rfl := Except.error.inj hkey
          refine .mergeBlock hkeys hblock hmem fun other ho => hleast other ho ?_
          rw [checkSet_full_of_badBlock hblock]
          exact nofun
        · rw [checkSet_full_of_goodBlock hblock (hvalid key hmem)] at hkey
          by_cases hlocked : x.full key ∈ x.locks
          · rw [if_pos hlocked] at hkey
            obtain rfl := Except.error.inj hkey
            refine .mergeLocked hkeys hmem hlocked fun other ho hother => hleast other ho ?_
            rw [checkSet_full_of_goodBlock hblock (hvalid other ho), if_pos hother]
            exact nofun
          · rw [if_neg hlocked] at hkey
            cases hkey
    · intro h
      cases h with
      | mergeMalformed h => exact .inl ⟨_, h, rfl⟩
      | @mergeBlock _ _ key hkeys hblock hmem hleast =>
        have hvalid := Key.refusal?_eq_none_iff.1 hkeys
        refine .inr ⟨hkeys, _, (checkSetAll_incoming_iff hvalid).2 ?_, rfl⟩
        exact ⟨key, hmem, checkSet_full_of_badBlock hblock _,
          fun other ho _ => hleast other ho⟩
      | @mergeLocked _ _ key hkeys hmem hlocked hleast =>
        have hvalid := Key.refusal?_eq_none_iff.1 hkeys
        have hblock := hx.goodBlock_of_locked (hvalid key hmem) hlocked
        refine .inr ⟨hkeys, _, (checkSetAll_incoming_iff hvalid).2 ?_, rfl⟩
        refine ⟨key, hmem, ?_, fun other ho hother => ?_⟩
        · rw [checkSet_full_of_goodBlock hblock (hvalid key hmem), if_pos hlocked]
        · rw [checkSet_full_of_goodBlock hblock (hvalid other ho)] at hother
          by_cases hl : x.full other ∈ x.locks
          · exact hleast other ho hl
          · rw [if_neg hl] at hother
            exact absurd rfl hother
  | _ => constructor <;> intro h <;> cases h

/-! ## 4. Something wrong is a cause -/

/-- A key of a merge that may not be written makes the merge fail. -/
theorem OwnCause.exists_of_refused {x : Settings} (hx : x.WellFormed)
    {values : List (String × String)} (hkeys : Key.refusal? (values.map Prod.fst) = none)
    {key : String} (hmem : key ∈ values.map Prod.fst)
    (h : x.store.storage.checkSet (x.full key) ≠ .ok ()) (json : Bool) :
    ∃ f, OwnCause x (.merge values json) f := by
  cases hall : x.store.storage.checkSetAll (x.store.incoming (.ofPairs values)) with
  | error e =>
    -- Any scripts will do, because a merge needs none.
    have hmerge : ((Command.merge values json).run (fun _ => "") .normal x.store).failure
        = some (.merging e) := Command.failure_runMerge_iff.2 (.inr ⟨hkeys, e, hall, rfl⟩)
    exact ⟨_, (Command.failure_run_iff hx).1 hmerge⟩
  | ok u =>
    have hin : x.full key ∈ (x.store.incoming (.ofPairs values)).map Prod.fst := by
      rw [Store.keys_incoming]
      exact List.mem_map_of_mem
        ((Store.mem_keys_ofPairs (Key.refusal?_eq_none_iff.1 hkeys)).2 hmem)
    obtain ⟨p, hp, hfull⟩ := List.mem_map.1 hin
    refine absurd ?_ h
    rw [← hfull]
    exact Storage.checkSet_eq_ok_iff.2 (Storage.checkSetAll_eq_ok_iff.1 hall p hp)

theorem Wrong.exists_ownCause {x : Settings} {c : Command} (h : Wrong x c)
    (hx : x.WellFormed) : ∃ f, OwnCause x c f := by
  cases h with
  | malformedValue h hkey => exact absurd (hx.keys _ h) hkey
  | malformedLock h hkey => exact absurd (hx.locks _ h) hkey
  | getAbsent h => exact ⟨_, .getAbsent h⟩
  | unsetLocked h => exact ⟨_, .unsetLocked h⟩
  | @unsetAbsent key _ h =>
    by_cases hlocked : x.full key ∈ x.locks
    · exact ⟨_, .unsetLocked hlocked⟩
    · exact ⟨_, .unsetAbsent hlocked h⟩
  | @mergeMalformed values _ _ h hkey =>
    cases hkeys : Key.refusal? (values.map Prod.fst) with
    | none => exact absurd (Key.refusal?_eq_none_iff.1 hkeys _ h) hkey
    | some e => exact ⟨_, .mergeMalformed hkeys⟩
  | @mergeBlock values json hblock hne =>
    cases hkeys : Key.refusal? (values.map Prod.fst) with
    | some e => exact ⟨_, .mergeMalformed hkeys⟩
    | none =>
      obtain ⟨p, hp⟩ := List.exists_mem_of_ne_nil values hne
      have hmem := List.mem_map_of_mem (f := Prod.fst) hp
      refine OwnCause.exists_of_refused hx hkeys hmem ?_ json
      rw [checkSet_full_of_badBlock hblock]
      exact nofun
  | @mergeLocked values json key hmem hlocked =>
    cases hkeys : Key.refusal? (values.map Prod.fst) with
    | some e => exact ⟨_, .mergeMalformed hkeys⟩
    | none =>
      have hkey := Key.refusal?_eq_none_iff.1 hkeys _ hmem
      refine OwnCause.exists_of_refused hx hkeys hmem ?_ json
      rw [checkSet_full_of_goodBlock (hx.goodBlock_of_locked hkey hlocked) hkey, if_pos hlocked]
      exact nofun

/-- If something is wrong, then one of the causes is the first. -/
theorem Wrong.exists_firstCause {x : Settings} {c : Command} (h : Wrong x c) :
    ∃ f, FirstCause x c f := by
  cases hkeys : Key.refusal? x.keys with
  | some e => exact ⟨_, .value hkeys⟩
  | none =>
    cases hlocks : Key.refusal? x.locks with
    | some e => exact ⟨_, .lock hkeys hlocks⟩
    | none =>
      have hx : x.WellFormed := Settings.wellFormed_iff.2 ⟨hkeys, hlocks⟩
      obtain ⟨f, hf⟩ := h.exists_ownCause hx
      exact ⟨f, .command hx hf⟩

/-! ## 5. Whole runs -/

namespace CommandLine.Invocation

variable {script : Shell → String}

theorem failure_outcome (i : Invocation) :
    (i.outcome script).failure
      = match i.globals.settings.build.result with
        | .error f => some f
        | .ok s => (i.command.run script i.globals.verbosity s).failure := by
  unfold outcome
  obtain ⟨events, result⟩ := i.globals.settings.build
  cases result <;> rfl

/-- An invocation fails for the first cause and for no other. -/
theorem failure_outcome_iff {i : Invocation} {f : Failure} :
    (i.outcome script).failure = some f ↔ FirstCause i.globals.settings i.command f := by
  rw [failure_outcome, Settings.result_build]
  cases hkeys : Key.refusal? i.globals.settings.keys with
  | some e =>
    refine ⟨fun h => Option.some.inj h ▸ .value hkeys, fun h => ?_⟩
    cases h with
    | value h => rw [Option.some.inj (hkeys.symm.trans h)]
    | lock hnone => exact nomatch hkeys.symm.trans hnone
    | command hx => exact nomatch hkeys.symm.trans (Settings.wellFormed_iff.1 hx).1
  | none =>
    cases hlocks : Key.refusal? i.globals.settings.locks with
    | some e =>
      refine ⟨fun h => Option.some.inj h ▸ .lock hkeys hlocks, fun h => ?_⟩
      cases h with
      | value h => exact nomatch hkeys.symm.trans h
      | lock _ h => rw [Option.some.inj (hlocks.symm.trans h)]
      | command hx => exact nomatch hlocks.symm.trans (Settings.wellFormed_iff.1 hx).2
    | none =>
      have hx : i.globals.settings.WellFormed := Settings.wellFormed_iff.2 ⟨hkeys, hlocks⟩
      refine (Command.failure_run_iff hx).trans ⟨.command hx, fun h => ?_⟩
      cases h with
      | value h => exact nomatch hkeys.symm.trans h
      | lock _ h => exact nomatch hlocks.symm.trans h
      | command _ h => exact h

theorem failure_outcome_eq_none_iff {i : Invocation} :
    (i.outcome script).failure = none ↔ ¬ Wrong i.globals.settings i.command := by
  rw [Option.eq_none_iff_forall_ne_some]
  constructor
  · intro hnone hwrong
    obtain ⟨f, hf⟩ := hwrong.exists_firstCause
    exact hnone f (failure_outcome_iff.2 hf)
  · intro hnot f hf
    exact hnot (failure_outcome_iff.1 hf).wrong

theorem stdout_run_of_failure {i : Invocation} {f : Failure}
    (h : (i.outcome script).failure = some f) (filter : Option String) :
    (i.run script filter).stdout = "" := by
  have hprinted : (i.outcome script).printed = {} := printed_of_failure (by simp [h])
  show (i.outcome script).printed.stdout = ""
  rw [hprinted]

end CommandLine.Invocation

/-- A command line that is understood fails exactly if something is wrong
with it. It then prints nothing, exactly one cause is the first, and all
that is said beside the log is the error line of this cause. A reader finds
this line alone beside the log (`Ending.stderr`), unless a logged text holds
a line end: then he finds the rest of that text as well. -/
theorem respond_eq_ok (script : Shell → String) {words : List String} {i : Invocation}
    (h : Invocation.ofWords words = .ok i) (filter : Option String) :
    ∃ e, respond script words filter = .ok e
      ∧ (e.exitCode = 1 ↔ Wrong i.globals.settings i.command)
      ∧ (e.exitCode = 0 ↔ ¬ Wrong i.globals.settings i.command)
      ∧ (e.exitCode = 1 →
          e.stdout = ""
          ∧ ∃ f, (∀ g, FirstCause i.globals.settings i.command g ↔ g = f)
            ∧ e.notes = "error: " ++ f.message ++ "\n"
            ∧ (e.LogInLines → e.stderr = "error: " ++ f.message ++ "\n")) := by
  refine ⟨i.run script filter, by rw [respond, h]; rfl, ?_⟩
  rw [Invocation.exitCode_run]
  cases hf : (i.outcome script).failure with
  | none =>
    have hright := Invocation.failure_outcome_eq_none_iff.1 hf
    exact ⟨by simp [hright], by simp [hright], nofun⟩
  | some f =>
    have hfirst := Invocation.failure_outcome_iff.1 hf
    have hnotes := Invocation.notes_run_of_failure hf filter
    have hstdout := Invocation.stdout_run_of_failure hf filter
    refine ⟨by simp [hfirst.wrong], by simp [hfirst.wrong], fun _ => ?_⟩
    refine ⟨hstdout, f, fun g => ?_, hnotes, fun hlog => ?_⟩
    · rw [← Invocation.failure_outcome_iff, hf, Option.some.injEq, eq_comm]
    · rw [Ending.stderr_eq_notes hlog, hnotes]

/-- `-s db:b=1 --lock db:b --lock db:a --block db merge --with b=2 --with a=3` -/
theorem respond_of_two_locked :
    ∃ e, respond Completion.script ["-s", "db:b=1", "--lock", "db:b", "--lock", "db:a",
          "--block", "db", "merge", "--with", "b=2", "--with", "a=3"] none = .ok e
      ∧ e.exitCode = 1 ∧ e.stdout = ""
      ∧ e.notes = "error: Failed to merge configuration: "
          ++ "cannot set read-only configuration value: 'db:a'\n" := by
  let x : Settings :=
    { values := [("db:b", "1")], locks := ["db:b", "db:a"], block := some "db" }
  have hread : Invocation.ofWords ["-s", "db:b=1", "--lock", "db:b", "--lock", "db:a",
      "--block", "db", "merge", "--with", "b=2", "--with", "a=3"]
        = .ok { globals := { settings := x }, command := .merge [("b", "2"), ("a", "3")] false } :=
    rfl
  have hcause : OwnCause x (.merge [("b", "2"), ("a", "3")] false)
      (.merging (.readOnly (x.full "a") .set)) :=
    .mergeLocked rfl (by decide) (by decide) (by decide)
  have hfirst := FirstCause.command (Settings.wellFormed_iff.2 ⟨rfl, rfl⟩) hcause
  obtain ⟨e, hrespond, hfails, -, hsaid⟩ := respond_eq_ok Completion.script hread none
  have hexit := hfails.2 hfirst.wrong
  obtain ⟨hstdout, f, hunique, hnotes, -⟩ := hsaid hexit
  obtain rfl := (hunique _).1 hfirst
  exact ⟨e, hrespond, hexit, hstdout, hnotes⟩

end BlockConfig
